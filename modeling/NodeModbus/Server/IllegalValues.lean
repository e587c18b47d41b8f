import NodeModbus.Server.IllegalFunction

/-!
# Coil values that are neither on nor off

The handler of the single coil writes has an answer for a value that is neither
`0xFF00` nor `0x0000`, an exception. The value it looks at is that of the getter of
the request body, which keeps a truth value only, so what the decoder has read is
not known any more.

- `Transport.Around`: the frames of the two transports around any bytes.
- `onData_coilWrite`: what comes of such a frame on an idle connection: the coil is
  switched off.
- `not_valueRefused`: no illegal value is refused.
-/

namespace NodeModbus

open Buffer Words ModbusServerResponseHandler

/-! ## Frames around any bytes -/

namespace Transport

/-- What a frame puts around the bytes of a body, and the address that is in it: an MBAP
header, or an address byte and a CRC. -/
inductive Around : (w : Transport) → Int → (Buffer → Buffer) → Prop
  | tcp {id protocol unitId : Nat} (hid : id < 65536) (hprotocol : protocol < 65536)
      (hunit : unitId < 256) : Around .tcp unitId (mbapFrame id protocol unitId)
  | rtu (crc16modbus : Buffer → UInt16) (address : UInt8) :
      Around (.rtu crc16modbus) address.toNat (ModbusRTURequest.frame crc16modbus address.toNat)

theorem Around.injective {w : Transport} {address : Int} {around : Buffer → Buffer}
    (h : w.Around address around) {p p' : Buffer} (heq : around p = around p') : p = p' := by
  cases h with
  | tcp => exact congrArg (List.drop 7) heq
  | rtu crc16modbus a => exact (ModbusRTURequest.frame_injective crc16modbus heq).2

/-- The request handler accepts the frame around the bytes of a body, and the responses to
it are frames of the same kind. -/
theorem Around.handle_frame {w : Transport} {address : Int} {around : Buffer → Buffer}
    (h : w.Around address around) {p : Buffer} {body : RequestBody}
    (hbody : ∀ tail, RequestFactory.fromBuffer (p ++ tail) = some body)
    (hcount : body.byteCount = p.length) (hlen : p.length + 1 < 65536)
    (hfc : body.fc ≠ .readDeviceIdentification) (queue : List w.Request) :
    ∃ r, w.Decoded r ∧ w.body r = body ∧ w.address r = address ∧ w.frame r = around ∧
      ModbusServerRequestHandler.handle w.reader ⟨queue, []⟩ (around p) =
        (⟨r :: queue, []⟩, .ok ()) := by
  cases h with
  | tcp hid hprotocol hunit =>
    have hp := hbody []
    rw [List.append_nil] at hp
    have hsome := ModbusTCPRequest.fromBuffer_mbapFrame_append hid hprotocol hunit hlen hp []
    rw [List.append_nil] at hsome
    refine ⟨_, decoded_tcp hsome, rfl, rfl, rfl, ?_⟩
    refine ModbusServerRequestHandler.handle_whole (R := tcpReader) hsome rfl rfl ?_
    show ((p.length + 1 : Nat) : Int) + 6 = _
    rw [length_mbapFrame]
    omega
  | rtu crc16modbus a =>
    have hsome :=
      @ModbusRTURequest.fromBuffer_frame_append crc16modbus a.toNat p [] body (hbody _) hcount
    rw [toByte_toNat, List.append_nil] at hsome
    obtain ⟨line, hline⟩ := ModbusRTURequest.toString_eq_ok
      (r := { address := a.toNat, body, corrupted := false }) hfc
    refine ⟨_, decoded_rtu hsome rfl, rfl, rfl, rfl, ?_⟩
    refine ModbusServerRequestHandler.handle_whole (R := rtuReader crc16modbus) hsome
      hline rfl ?_
    show body.byteCount + 3 = _
    rw [ModbusRTURequest.length_frame, hcount]
    omega

end Transport

/-! ## Writes of a coil -/

/-- A value that is neither the one for on nor the one for off. -/
structure IllegalCoilValue (value : Nat) : Prop where
  isUInt16 : value < 65536
  not_on : value ≠ 0xFF00
  not_off : value ≠ 0x0000

/-- The bytes of a request that writes a value to a coil. -/
def coilWritePdu (address value : Nat) : Buffer :=
  UInt8.ofNat FC.writeSingleCoil.code :: (be16 address ++ be16 value)

/-- Of the value the decoder keeps whether it is the one for on. -/
theorem RequestFactory.fromBuffer_coilWritePdu {address value : Nat}
    (haddress : address ≤ 0xFFFF) (hvalue : value < 65536) (tail : Buffer) :
    fromBuffer (coilWritePdu address value ++ tail) =
      some (.writeSingleCoil ⟨address, decide (value = 0xFF00),
        Int.ofNat_le.mpr haddress⟩) := by
  have hfields := RequestBody.fields_payload .writeSingleCoil
    (isUInt16_natCast (n := address) (by omega)) (isUInt16_natCast hvalue) tail
  rw [Int.toNat_natCast, Int.toNat_natCast] at hfields
  have hnew : WriteSingleCoilRequestBody.new address (decide (value = 0xFF00)) =
      .ok ⟨address, decide (value = 0xFF00), Int.ofNat_le.mpr haddress⟩ := dif_neg (by omega)
  rw [coilWritePdu, List.cons_append, fromBuffer_code, ← List.cons_append]
  show (WriteSingleCoilRequestBody.fromBuffer _).map RequestBody.writeSingleCoil = _
  rw [WriteSingleCoilRequestBody.fromBuffer, ofFields_eq, fieldsFcLast_eq, hfields,
    Option.bind_some, hnew]
  rfl

/-- A coil table with one coil switched off. -/
def switchedOff (coils : Buffer) (address : Nat) : Buffer :=
  coils.set (address / 8) (Bits.byte fun j =>
    if j = address % 8 then false else (coils.getD (address / 8) 0).toNat.testBit j)

namespace ModbusServerClient

/-- What is promised of a frame that writes an illegal value: the coil table is left alone,
and one response is written, the exception for an illegal data value. -/
structure ValueRefused (w : Transport) (server : ModbusServer) (heap : Heap)
    (written : List Buffer) (coils : Ref) (around : Buffer → Buffer) (address value : Nat) :
    Prop where
  table : (_onData w server ⟨.new, heap, written⟩ (around (coilWritePdu address value))).1.heap
    coils = heap coils
  written :
    (_onData w server ⟨.new, heap, written⟩ (around (coilWritePdu address value))).1.written =
    written ++ [around [UInt8.ofNat (FC.writeSingleCoil.code + 0x80), 0x03]]

variable {w : Transport} {server : ModbusServer} (heap : Heap) (written : List Buffer)

/-- The value off is written instead, and echoed. -/
theorem onData_coilWrite {coils : Ref} (ht : server.coils = some coils) {unitId : Int}
    {around : Buffer → Buffer} (h : w.Around unitId around) {address value : Nat}
    (hlt : address < 65536) (hin : address < 8 * (heap coils).length)
    (hvalue : IllegalCoilValue value) :
    _onData w server ⟨.new, heap, written⟩ (around (coilWritePdu address value)) =
      if server.ignores unitId then (⟨.new, heap, written⟩, .ok ())
      else (⟨.new, heap.write coils (switchedOff (heap coils) address),
        written ++ [around (coilWritePdu address 0x0000)]⟩, .ok ()) := by
  have hoff : decide (value = 0xFF00) = false := decide_eq_false hvalue.not_on
  have hbody := RequestFactory.fromBuffer_coilWritePdu (Nat.le_of_lt_succ hlt) hvalue.isUInt16
  rw [hoff] at hbody
  obtain ⟨r, hr, hwbody, haddress, hframe, haccept⟩ := h.handle_frame hbody rfl
    (show 5 + 1 < 65536 by decide) (fun hfc => by cases hfc) []
  rw [onData_of_handle (c := ⟨.new, heap, written⟩) haccept]
  cases hignores : server.ignores unitId with
  | true =>
    rw [if_pos rfl]
    exact (exec_ignored w server [] heap written (haddress ▸ hignores) []).trans
      (exec_idle w server [] heap written)
  | false =>
    have hhandle : handle w.responder server heap r =
        (heap.write coils (switchedOff (heap coils) address),
          .ok (some (around (coilWritePdu address 0x0000)))) := by
      unfold handle
      rw [show w.responder.body r = w.body r from rfl, hwbody, ← hframe]
      exact handleWriteSingleCoil_inside hr server heap ht rfl hlt hin
    rw [if_neg (by decide)]
    exact (exec_answered w server [] heap written (haddress ▸ hignores) hhandle []).trans
      (exec_idle w server [] _ _)

/-- No illegal value is refused, whatever the server, its tables and the frame. -/
theorem not_valueRefused {coils : Ref} (ht : server.coils = some coils) {unitId : Int}
    {around : Buffer → Buffer} (h : w.Around unitId around) {address value : Nat}
    (hlt : address < 65536) (hin : address < 8 * (heap coils).length)
    (hvalue : IllegalCoilValue value) :
    ¬ ValueRefused w server heap written coils around address value := by
  intro hrefused
  have hwritten := hrefused.written
  rw [onData_coilWrite heap written ht h hlt hin hvalue] at hwritten
  split at hwritten
  · -- another slave is meant, and nothing is written
    have hlen := congrArg List.length hwritten
    rw [List.length_append, List.length_singleton] at hlen
    exact absurd hlen (Nat.ne_of_lt (Nat.lt_succ_self _))
  · have hpdu := h.injective (List.cons.inj (List.append_cancel_left hwritten)).1
    have hlen : 5 = 2 := congrArg List.length hpdu
    cases hlen

/-- The value 1, for a coil that is on. -/
theorem not_valueRefused_one :
    ¬ ValueRefused .tcp ⟨none, some 0, some 1, some 2, some 3⟩ (fun _ => [0xFF]) [] 0
      (mbapFrame 1 0 1)
      0 1 :=
  not_valueRefused (fun _ => [0xFF]) [] rfl (.tcp (by decide) (by decide) (by decide))
    (by decide) (by decide) ⟨by decide, by decide, by decide⟩

/-- The coil is switched off, for a server that takes the requests for every slave. -/
theorem not_valueRefused_switchedOff :
    ¬ ∀ (w : Transport) (server : ModbusServer) (heap : Heap) (written : List Buffer)
        (coils : Ref) (unitId : Int) (around : Buffer → Buffer) (address value : Nat),
        server.coils = some coils → server.ignores unitId = false → w.Around unitId around →
        address < 65536 →
        address < 8 * (heap coils).length → IllegalCoilValue value →
        ValueRefused w server heap written coils around address value := by
  intro h
  have hrefused := h .tcp ⟨none, some 0, some 1, some 2, some 3⟩ (fun _ => [0xFF]) [] 0 1
    (mbapFrame 1 0 1) 0 1 rfl rfl (.tcp (by decide) (by decide) (by decide)) (by decide)
    (by decide) ⟨by decide, by decide, by decide⟩
  exact absurd hrefused.table (by decide +kernel)

end ModbusServerClient

end NodeModbus

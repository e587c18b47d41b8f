import NodeModbus.Client.RequestHandler
import NodeModbus.Response.Reencode

/-!
# The CRC check of the RTU client

`ModbusRTUClientRequestHandler.handle` compares the CRC field of a response with
the CRC of the response encoded again. `ModbusRTURequest.fromBuffer`, on the side
of the server, takes the CRC of the bytes that came in.

- `ChecksReceived`: what is encoded again are the bytes that came in, so that the
  check says whether their CRC is the one behind them.
- `checksReceived_iff`: that is so for every response that is decoded, but for a
  write single coil response with another value than "on" or "off".
-/

namespace NodeModbus

open Buffer Words

namespace ModbusRTUResponse

/-- The bytes `handle` computes its CRC over. -/
def checkedBytes (r : ModbusRTUResponse) : Except Thrown Buffer := do
  let payload ← r.body.createPayload
  return [toByte r.address] ++ payload

/-- What the CRC check of a response should be, with the bytes it was decoded from: its CRC
is that of the bytes in front of the CRC field, and the check passes exactly when it is the
field. -/
structure ChecksReceived (crc16modbus : Buffer → UInt16) (buffer : Buffer)
    (r : ModbusRTUResponse) : Prop where
  received : r.checkedBytes = .ok (buffer.take (r.byteCount - 2).toNat)
  passes : ∃ field, buffer.readUInt16LE (r.byteCount - 2) = .ok field ∧
    ∀ (c : ModbusRTUClientRequestHandler) (u : UserRequest ModbusRTURequest),
      c._currentRequest = some u →
      ModbusRTUClientRequestHandler.handle crc16modbus c (some r) =
        if (crc16modbus (buffer.take (r.byteCount - 2).toNat)).toNat = field then
          MBClientRequestHandler.handle (rtuMessages crc16modbus) c (some r)
        else
          ((c.reject u
            { err := .crcMismatch, message := "the response payload does not match the crc",
              request := some u.request, response := some r })._clearAllRequests, .ok ())

/-- A whole write single coil frame says "on" or "off". -/
def EchoesCoilValue : Buffer → Prop
  | _ :: f :: _ :: _ :: v :: v' :: _ :: _ :: _ =>
    f.toNat = FC.writeSingleCoil.code → u16 v v' = 0xFF00 ∨ u16 v v' = 0x0000
  | _ => True

/-- The handler, with the bytes of the check. -/
theorem handle_eq_of_checkedBytes (crc16modbus : Buffer → UInt16) {r : ModbusRTUResponse}
    {bytes : Buffer} (h : r.checkedBytes = .ok bytes) {c : ModbusRTUClientRequestHandler}
    {u : UserRequest ModbusRTURequest} (hcurrent : c._currentRequest = some u) :
    ModbusRTUClientRequestHandler.handle crc16modbus c (some r) =
      if r.crc = some ((crc16modbus bytes).toNat : Int) then
        MBClientRequestHandler.handle (rtuMessages crc16modbus) c (some r)
      else
        ((c.reject u
          { err := .crcMismatch, message := "the response payload does not match the crc",
            request := some u.request, response := some r })._clearAllRequests, .ok ()) := by
  obtain ⟨payload, hpayload, hbytes⟩ := bind_eq_ok.mp h
  obtain rfl := Except.ok.inj hbytes
  simp only [ModbusRTUClientRequestHandler.handle, hcurrent, hpayload, ne_eq, ite_not]

/-- The bytes of the check are the ones that came in if and only if the body encodes to its
own. -/
theorem checkedBytes_iff_reencodes {a : UInt8} {rest : Buffer} {crc : Option Int}
    {body : ResponseBody} (hpos : 0 < body.byteCount) (hroom : body.byteCount ≤ rest.length) :
    checkedBytes { address := a.toNat, crc, body } =
        .ok ((a :: rest).take (body.byteCount + 3 - 2).toNat) ↔
      Reencodes rest body.byteCount body.createPayload := by
  have htake : (a :: rest).take (body.byteCount + 3 - 2).toNat =
      a :: rest.take body.byteCount.toNat := by
    rw [show (body.byteCount + 3 - 2).toNat = body.byteCount.toNat + 1 from by omega,
      List.take_succ_cons]
  rw [htake, checkedBytes, bind_eq_ok, Reencodes]
  constructor
  · rintro ⟨payload, hpayload, hbytes⟩
    have hbytes' : toByte (a.toNat : Int) :: payload = a :: rest.take body.byteCount.toNat :=
      Except.ok.inj hbytes
    rw [hpayload, (List.cons.inj hbytes').2]
    exact ⟨hroom, rfl⟩
  · rintro ⟨-, hpayload⟩
    refine ⟨_, hpayload, ?_⟩
    show Except.ok (toByte (a.toNat : Int) :: _) = _
    rw [toByte_toNat]
    rfl

/-- A response that was decoded is checked as it came in if and only if its body encodes to
its own bytes. -/
theorem checksReceived_iff_reencodes (crc16modbus : Buffer → UInt16) {a : UInt8} {rest : Buffer}
    {r : ModbusRTUResponse} (h : fromBuffer (a :: rest) = some r) :
    ChecksReceived crc16modbus (a :: rest) r ↔
      Reencodes rest r.body.byteCount r.body.createPayload := by
  have hlen := byteCount_of_fromBuffer h
  obtain ⟨a', rest', field, hbuffer, hbody, hfield, hr⟩ := exists_parts h
  obtain ⟨rfl, rfl⟩ := List.cons.inj hbuffer
  have hpos := ResponseFactory.byteCount_pos hbody
  have hcount : r.byteCount = r.body.byteCount + 3 := rfl
  have hroom : r.body.byteCount ≤ rest.length := by
    rw [List.length_cons] at hlen
    omega
  have hreceived : r.checkedBytes = .ok ((a :: rest).take (r.byteCount - 2).toNat) ↔
      Reencodes rest r.body.byteCount r.body.createPayload := by
    rw [hcount]
    have hiff := @checkedBytes_iff_reencodes a rest (some (field : Int)) _ hpos hroom
    rw [← hr] at hiff
    exact hiff
  rw [← hreceived]
  constructor
  · intro hchecks
    exact hchecks.received
  · intro hbytes
    refine ⟨hbytes, field, ?_, ?_⟩
    · rw [hcount, show r.body.byteCount + 3 - 2 = 1 + r.body.byteCount from by omega]
      exact hfield
    · intro c u hcurrent
      have hcrc : r.crc = some (field : Int) := by rw [hr]
      have hfieldEq : ∀ n : Nat, some (field : Int) = some (n : Int) ↔ n = field := by
        intro n
        rw [Option.some.injEq, Int.ofNat_inj, eq_comm]
      rw [handle_eq_of_checkedBytes crc16modbus hbytes hcurrent, hcrc]
      simp only [hfieldEq]

/-! ## Coil values -/

theorem fromBuffer_writeSingleCoil {f : UInt8} (hf : f.toNat = FC.writeSingleCoil.code)
    (a a' v v' : UInt8) (tail : Buffer) :
    ResponseFactory.fromBuffer (f :: a :: a' :: v :: v' :: tail) =
      some (.writeSingleCoil { _address := u16 a a', _value := u16 v v' = 0xFF00 }) := by
  have hfc : FC.ofCode? f.toNat = some .writeSingleCoil := by rw [hf, FC.ofCode?_code]
  have hle : ¬ f.toNat > 0x80 := by rw [hf]; decide
  rw [ResponseFactory.fromBuffer_cons, if_neg hle, hfc, Option.bind_some,
    ResponseFactory.decoder, ResponseFactory.tryOrNull_map,
    WriteSingleCoilResponseBody.fromBuffer, tryOrNull_map_fields,
    fields, if_pos hf]
  rfl

/-- What is decoded can be encoded again, a coil of any value included. -/
theorem exists_checkedBytes {buffer : Buffer} {r : ModbusRTUResponse}
    (h : fromBuffer buffer = some r) : ∃ bytes, r.checkedBytes = .ok bytes := by
  obtain ⟨a, rest, field, rfl, hbody, -⟩ := exists_parts h
  have hpayload : ∃ payload, r.body.createPayload = .ok payload := by
    by_cases hvalue : ResponseFactory.EchoesCoilValue rest
    · exact ⟨_, ((ResponseFactory.reencodes_iff_echoesCoilValue hbody).mpr hvalue).2⟩
    · rcases rest with _ | ⟨f, _ | ⟨a, _ | ⟨a', _ | ⟨v, _ | ⟨v', tail⟩⟩⟩⟩⟩
      case cons.cons.cons.cons.cons =>
        have hf : f.toNat = FC.writeSingleCoil.code := by
          by_contra hne
          exact hvalue fun hf => absurd hf hne
        rw [fromBuffer_writeSingleCoil hf] at hbody
        rw [← Option.some.inj hbody]
        exact ⟨_, (wordsPayload_eq ..).trans (if_pos ⟨isUInt16_u16 a a', isUInt16_coilValue _⟩)⟩
      all_goals exact absurd trivial hvalue
  obtain ⟨payload, hpayload⟩ := hpayload
  exact ⟨_, bind_eq_ok.mpr ⟨payload, hpayload, rfl⟩⟩

/-- A whole write single coil frame is decoded. -/
theorem fromBuffer_writeSingleCoil_frame {f : UInt8} (hf : f.toNat = FC.writeSingleCoil.code)
    (u a a' v v' x y : UInt8) (tail : Buffer) :
    fromBuffer (u :: f :: a :: a' :: v :: v' :: x :: y :: tail) =
      some { address := u.toNat, crc := some (u16 y x : Nat),
             body := .writeSingleCoil
               { _address := u16 a a', _value := u16 v v' = 0xFF00 } } := by
  have hcrc : readUInt16LE (u :: f :: a :: a' :: v :: v' :: x :: y :: tail) 6 = .ok (u16 y x) :=
    readUInt16LE_append [u, f, a, a', v, v'] x y tail
  rw [fromBuffer_cons, fromBuffer_writeSingleCoil hf, Option.bind_some]
  exact congrArg (fun crc => (Except.toOption crc).map _) hcrc

/-- For what is decoded the coil value of the frame is that of the body. -/
theorem echoesCoilValue_cons_iff {u : UInt8} {rest : Buffer} {r : ModbusRTUResponse}
    (h : fromBuffer (u :: rest) = some r) :
    EchoesCoilValue (u :: rest) ↔ ResponseFactory.EchoesCoilValue rest := by
  rcases rest with _ | ⟨f, _ | ⟨a, _ | ⟨a', _ | ⟨v, _ | ⟨v', tail⟩⟩⟩⟩⟩
  case cons.cons.cons.cons.cons =>
    by_cases hf : f.toNat = FC.writeSingleCoil.code
    · -- the CRC was read behind the value, so the frame is whole
      have hbody := body_of_fromBuffer_cons h
      rw [fromBuffer_writeSingleCoil hf] at hbody
      have hcount : r.byteCount = 8 := by
        rw [byteCount, ← Option.some.inj hbody]
        rfl
      have hlen := (byteCount_of_fromBuffer h).2
      rw [hcount] at hlen
      obtain ⟨x, y, tail, rfl⟩ := exists_eq_cons_cons (l := tail) (by
        simp only [List.length_cons] at hlen
        omega)
      exact Iff.rfl
    · refine iff_of_true ?_ (ResponseFactory.echoesCoilValue_of_ne hf _)
      rcases tail with _ | ⟨x, _ | ⟨y, tail⟩⟩
      case cons.cons => exact fun h => absurd h hf
      all_goals trivial
  all_goals exact Iff.rfl

/-- What is not decoded is no whole write single coil frame. -/
theorem echoesCoilValue_of_fromBuffer_eq_none {buffer : Buffer} (h : fromBuffer buffer = none) :
    EchoesCoilValue buffer := by
  rcases buffer with _ | ⟨u,
    _ | ⟨f, _ | ⟨a, _ | ⟨a', _ | ⟨v, _ | ⟨v', _ | ⟨x, _ | ⟨y, tail⟩⟩⟩⟩⟩⟩⟩⟩
  case cons.cons.cons.cons.cons.cons.cons.cons =>
    intro hf
    rw [fromBuffer_writeSingleCoil_frame hf] at h
    cases h
  all_goals trivial

/-- Every response that a byte string decodes to is checked as it came in if and only if a whole
write single coil frame in front of it says "on" or "off". -/
theorem checksReceived_iff (crc16modbus : Buffer → UInt16) (buffer : Buffer) :
    (∀ r, fromBuffer buffer = some r → ChecksReceived crc16modbus buffer r) ↔
      EchoesCoilValue buffer := by
  rcases buffer with _ | ⟨u, rest⟩
  · exact iff_of_true (fun _ h => nomatch h) trivial
  constructor
  · intro hchecks
    cases hr : fromBuffer (u :: rest) with
    | none => exact echoesCoilValue_of_fromBuffer_eq_none hr
    | some r =>
      have hreencodes := (checksReceived_iff_reencodes crc16modbus hr).mp (hchecks r hr)
      have hbody := body_of_fromBuffer_cons hr
      exact (echoesCoilValue_cons_iff hr).mpr
        ((ResponseFactory.reencodes_iff_echoesCoilValue hbody).mp hreencodes)
  · intro hvalue r hr
    have hbody := body_of_fromBuffer_cons hr
    rw [checksReceived_iff_reencodes crc16modbus hr,
      ResponseFactory.reencodes_iff_echoesCoilValue hbody]
    exact (echoesCoilValue_cons_iff hr).mp hvalue

/-- A coil response with the value `0x1234`, and with the CRC of its bytes, whatever the CRC
is of: what is encoded again has the value 0. -/
theorem not_checksReceived_oddCoil :
    ¬ ∃ crc16modbus : Buffer → UInt16, ∀ r,
      fromBuffer ([1, 5, 0, 0, 0x12, 0x34] ++
        le16 (crc16modbus [1, 5, 0, 0, 0x12, 0x34]).toNat) =
        some r →
      ChecksReceived crc16modbus
        ([1, 5, 0, 0, 0x12, 0x34] ++ le16 (crc16modbus [1, 5, 0, 0, 0x12, 0x34]).toNat) r := by
  rintro ⟨crc16modbus, h⟩
  have hr := fromBuffer_writeSingleCoil_frame (f := 5) rfl 1 0 0 0x12 0x34
    (UInt8.ofNat ((crc16modbus [1, 5, 0, 0, 0x12, 0x34]).toNat % 256))
    (UInt8.ofNat ((crc16modbus [1, 5, 0, 0, 0x12, 0x34]).toNat / 256)) []
  have hreencodes := (checksReceived_iff_reencodes crc16modbus hr).mp (h _ hr)
  have hvalue := (ResponseFactory.reencodes_iff_echoesCoilValue (body_of_fromBuffer_cons hr)).mp
    hreencodes
  exact absurd (hvalue rfl) (by decide)

end ModbusRTUResponse

end NodeModbus

import NodeModbus.Client.ResponseHandler
import NodeModbus.Response.Built
import NodeModbus.Server.Client

/-!
# The answers of a server, as a client reads them

The memory behind a server gives an answer to every operation. Its bytes are those
of a response body, so that the client finds in its response what the memory
answered.

- `Answer.content`: what a response says that brings the answer.
- `Answer.body`, `TcpResponseFrame.ofAnswer`: the body and the frame of an answer.
- `fits_answer`: the answers to requests that were decoded fit into a frame.
-/

namespace NodeModbus

open Buffer Words

namespace Answer

/-- What a response says that brings the answer: bits are packed into bytes, and the rest of
the last byte is off. -/
def content : Answer → ResponseContent
  | coils values => .readCoils (Bits.pack values)
  | discreteInputs values => .readDiscreteInputs (Bits.pack values)
  | holdingRegisters values => .readHoldingRegisters (values.map fun v => (v.toNat : Int))
  | inputRegisters values => .readInputRegisters (values.map fun v => (v.toNat : Int))
  | coilWritten address value => .writeSingleCoil address value
  | registerWritten address value => .writeSingleRegister address value.toNat
  | coilsWritten address quantity => .writeMultipleCoils address quantity
  | registersWritten address quantity => .writeMultipleRegisters address quantity

/-- The body of a response that brings the answer. -/
def body : Answer → ResponseBody
  | coils values => .readCoils (.ofArray values)
  | discreteInputs values => .readDiscreteInputs (.ofArray values)
  | holdingRegisters values =>
    .readHoldingRegisters (.ofBuffer (registerBytes values).length (registerBytes values))
  | inputRegisters values =>
    .readInputRegisters (.ofBuffer (registerBytes values).length (registerBytes values))
  | coilWritten address value => .writeSingleCoil { _address := address, _value := value }
  | registerWritten address value =>
    .writeSingleRegister { _address := address, _value := value.toNat }
  | coilsWritten address quantity =>
    .writeMultipleCoils { _start := address, _quantity := quantity }
  | registersWritten address quantity =>
    .writeMultipleRegisters { _start := address, _quantity := quantity }

/-- The answer fits into a frame. -/
def Fits : Answer → Prop
  | coils values => values.length ≤ 2000
  | discreteInputs values => values.length ≤ 2000
  | holdingRegisters values => values.length ≤ 125
  | inputRegisters values => values.length ≤ 125
  | coilWritten address _ => address < 65536
  | registerWritten address _ => address < 65536
  | coilsWritten address quantity => address < 65536 ∧ quantity < 65536
  | registersWritten address quantity => address < 65536 ∧ quantity < 65536

theorem words_registerBytes (values : List UInt16) :
    words (registerBytes values) = values.map UInt16.toNat := by
  have hlt : ∀ w ∈ values.map UInt16.toNat, w < 65536 := by
    intro w hw
    obtain ⟨v, -, rfl⟩ := List.mem_map.mp hw
    exact v.toNat_lt
  have hwords : words (ofWords (values.map UInt16.toNat) ++ []) = _ :=
    words_ofWords hlt (Nat.zero_le 1)
  rw [List.append_nil] at hwords
  exact hwords

theorem content_body (a : Answer) : a.body.content = a.content := by
  have hregisters (values : List UInt16) : (words (registerBytes values)).map Nat.cast =
      values.map fun v => (v.toNat : Int) := by
    rw [words_registerBytes, List.map_map]
    rfl
  cases a with
  | holdingRegisters values =>
    exact congrArg ResponseContent.readHoldingRegisters (hregisters values)
  | inputRegisters values =>
    exact congrArg ResponseContent.readInputRegisters (hregisters values)
  | _ => rfl

/-- No answer is an exception. -/
theorem isException_body (a : Answer) : a.body.isException = false := by
  cases a <;> rfl

/-- The payload of the body of an answer. -/
theorem createPayload_body {a : Answer} (h : a.Fits) : a.body.createPayload = .ok a.pdu := by
  have hbits (fc : FC) {values : List Bool} (hlen : values.length ≤ 2000) :
      ReadBitsResponseBody.createPayload fc (.ofArray values) =
        .ok (UInt8.ofNat fc.code :: UInt8.ofNat ((values.length + 7) / 8) ::
          Bits.pack values) := by
    rw [ReadBitsResponseBody.createPayload_ofArray, if_pos (by omega)]
  have hregisters (fc : FC) {values : List UInt16} (hlen : values.length ≤ 125) :
      registersPayload fc (registerBytes values).length (.buffer (registerBytes values)) =
        .ok (UInt8.ofNat fc.code :: UInt8.ofNat (2 * values.length) ::
          registerBytes values) := by
    rw [registersPayload_buffer, if_pos (by rw [length_registerBytes]; omega),
      length_registerBytes]
  cases a with
  | coils values => exact hbits .readCoil h
  | discreteInputs values => exact hbits .readDiscreteInput h
  | holdingRegisters values => exact hregisters .readHoldingRegisters h
  | inputRegisters values => exact hregisters .readInputRegisters h
  | coilWritten address value =>
    cases value with
    | true => exact wordsPayload_natCast .writeSingleCoil (v := 0xFF00) h (by decide)
    | false => exact wordsPayload_natCast .writeSingleCoil (v := 0x0000) h (by decide)
  | registerWritten address value =>
    exact wordsPayload_natCast .writeSingleHoldingRegister h value.toNat_lt
  | coilsWritten address quantity => exact wordsPayload_natCast .writeMultipleCoils h.1 h.2
  | registersWritten address quantity =>
    exact wordsPayload_natCast .writeMultipleHoldingRegisters h.1 h.2

theorem wellFormed_body (a : Answer) : a.body.WellFormed := by
  have heven (values : List UInt16) : (registerBytes values).length % 2 = 0 := by
    rw [length_registerBytes]
    omega
  cases a with
  | coils values => exact ResponseBody.wellFormed_ofArray values
  | discreteInputs values => exact ResponseBody.wellFormed_ofArray values
  | holdingRegisters values =>
    exact ⟨.buffer (registerBytes values), heven values,
      ReadHoldingRegistersResponseBody.new_buffer ..⟩
  | inputRegisters values =>
    refine ⟨.buffer (registerBytes values), none, heven values, ?_⟩
    rw [ReadInputRegistersResponseBody.new, RegisterValues.bytes, readWords_half]
    rfl
  | _ => trivial

theorem length_pdu_lt {a : Answer} (h : a.Fits) : a.pdu.length < 65535 := by
  cases a with
  | coils values =>
    have hlen : values.length ≤ 2000 := h
    simp only [pdu, List.length_cons, Bits.length_pack]
    omega
  | discreteInputs values =>
    have hlen : values.length ≤ 2000 := h
    simp only [pdu, List.length_cons, Bits.length_pack]
    omega
  | holdingRegisters values =>
    have hlen : values.length ≤ 125 := h
    simp only [pdu, List.length_cons, length_registerBytes]
    omega
  | inputRegisters values =>
    have hlen : values.length ≤ 125 := h
    simp only [pdu, List.length_cons, length_registerBytes]
    omega
  | _ => simp [pdu]

end Answer

/-- What is in range stays in range while operations in range are performed. -/
theorem Operation.InRange.run {m : Memory} {op : Operation} (h : op.InRange m)
    {ops : List Operation} (hops : ∀ o ∈ ops, o.InRange m) :
    op.InRange (Memory.machine.run m ops).1 :=
  Refinement.Machine.run_invariant (M := Memory.machine) (P := fun m => op.InRange m)
    (fun hop ho => ho.update hop) (fun ho ho' => Operation.InRange.update ho ho') h hops

/-- The function code of an operation. -/
def Operation.fc : Operation → FC
  | readCoils .. => .readCoil
  | readDiscreteInputs .. => .readDiscreteInput
  | readHoldingRegisters .. => .readHoldingRegisters
  | readInputRegisters .. => .readInputRegisters
  | writeCoil .. => .writeSingleCoil
  | writeRegister .. => .writeSingleHoldingRegister
  | writeCoils .. => .writeMultipleCoils
  | writeRegisters .. => .writeMultipleHoldingRegisters

theorem RequestBody.fc_of_operation {b : RequestBody} {op : Operation}
    (h : b.content.operation = some op) : b.fc = op.fc := by
  cases b <;> cases h <;> rfl

theorem ResponseBody.fc_of_answer {b : ResponseBody} {m : Memory} {op : Operation}
    (h : b.content = (m.answer op).content) : b.fc = op.fc := by
  cases op <;> cases b <;> first | rfl | cases h

/-- The frame of the answer to a request. -/
def TcpResponseFrame.ofAnswer (id unitId : Int) (a : Answer) (hid : IsUInt16 id)
    (hunit : IsUInt8 unitId) (h : a.Fits) : TcpResponseFrame where
  response := { id, protocol := 0, bodyLength := a.body.byteCount + 1, unitId, body := a.body }
  payload := mbapFrame id.toNat 0 unitId.toNat a.pdu
  wellFormed := a.wellFormed_body
  bodyLength_eq := rfl
  encoded := by
    have hp := Answer.createPayload_body h
    have hframed := ResponseBody.framed_of_wellFormed a.wellFormed_body hp
    have hlt := Answer.length_pdu_lt h
    have hlength : a.body.byteCount + 1 = (a.pdu.length + 1 : Int) := by rw [hframed.byteCount]
    rw [ModbusTCPResponse.createPayload_eq (p := a.pdu) hp hlength]
    exact if_pos ⟨hid, isUInt16_natCast (n := 0) (by decide),
      isUInt16_natCast (n := a.pdu.length + 1) (by omega), hunit⟩

/-- The answer to a request that was decoded fits into a frame, when the operation is in
range. -/
theorem fits_answer {w : Transport} {r : w.Request} {op : Operation} (h : w.AsksFor r op)
    {m : Memory} (hrange : op.InRange m) : (m.answer op).Fits := by
  obtain ⟨hdecoded, hop⟩ := h
  have hwire := Transport.fromWire_body hdecoded
  generalize w.body r = body at hwire hop
  cases hwire with
  | @readCoils b start count hs hc =>
    obtain rfl := Option.some.inj hop
    exact (length_window hrange.2).trans_le hrange.1
  | @readDiscreteInputs b start count hs hc =>
    obtain rfl := Option.some.inj hop
    exact (length_window hrange.2).trans_le hrange.1
  | @readHoldingRegisters b start count hs hc =>
    obtain rfl := Option.some.inj hop
    exact (length_window hrange.2).trans_le hrange.1
  | @readInputRegisters b start count hs hc =>
    obtain rfl := Option.some.inj hop
    exact (length_window hrange.2).trans_le hrange.1
  | @writeSingleCoil b address ha hlt =>
    obtain rfl := Option.some.inj hop
    show b.address.toNat < 65536
    omega
  | @writeSingleRegister b address value ha hv hlt hlt' =>
    obtain rfl := Option.some.inj hop
    show b.address.toNat < 65536
    omega
  | @writeMultipleCoils address quantity values hlt hlt' hlen hle =>
    obtain rfl := Option.some.inj hop
    have hvalues :
        ((WriteMultipleCoilsRequestBody.ofBuffer address values
          quantity).valuesAsArray).length ≤ 8 * values.length := by
      rw [WriteMultipleCoilsRequestBody.ofBuffer, List.length_take, Bits.length_unpack]
      exact Nat.min_le_right ..
    exact ⟨hlt, Nat.lt_of_le_of_lt hvalues (by omega)⟩
  | @writeMultipleRegisters address values hlt hle heven =>
    obtain rfl := Option.some.inj hop
    refine ⟨hlt, ?_⟩
    show (((words values).map Nat.cast).map fun v : Int => UInt16.ofNat v.toNat).length < 65536
    rw [List.length_map, List.length_map, length_words]
    omega
  | readDeviceIdentification => cases hop

section Example

/-- Four tables, of which only that of the holding registers is not empty. -/
def registersOnly : Tables := ⟨0, 1, 2, 3, by decide⟩

/-- Two registers with the value zero. -/
def registersHeap : Heap := fun r => if r = registersOnly.holding then [0, 0, 0, 0] else []

end Example

end NodeModbus

import NodeModbus.BufferUtils

/-!
# Read responses

The bodies that answer function codes 1 to 4. The two bit responses are one
class under two names; the two register responses differ: the holding register
decoder takes the data bytes that are there, the input register decoder reads
each word and throws when one is missing.

- `fromBuffer_cons`, `fromBuffer_short`: the three decoders as functions of the
  bytes in front.
- `ReadBitsResponseBody.createPayload_eq`, `registersPayload_eq`: the encoders in
  closed form.
- `WellFormed`: the bodies whose byte count is that of their data.
-/

namespace NodeModbus

open Buffer Words

/-- The two bytes in front of counted data: function code and number of bytes. -/
theorem writeCounted (code : FC) (n : Nat) (rest : Buffer)
    (next : Buffer → Except Thrown Buffer) :
    (do let payload ← writeUInt8 (0 :: 0 :: rest) code.code 0
        let payload ← payload.writeUInt8 n 1
        next payload) =
      if n < 256 then next (UInt8.ofNat code.code :: UInt8.ofNat n :: rest)
      else .error .rangeError := by
  have hfc : IsUInt8 code.code := isUInt8_natCast (Nat.lt_of_le_of_lt code.code_le (by decide))
  by_cases hn : n < 256
  · rw [if_pos hn]
    simp (disch := omega) [bind, Except.bind, writeUInt8, setByte, hfc,
      isUInt8_natCast hn, if_pos]
  · have hn8 : ¬ IsUInt8 n := fun h => hn (by unfold IsUInt8 at h; omega)
    rw [if_neg hn]
    simp (disch := omega) [bind, Except.bind, writeUInt8, setByte, hfc, hn8, if_pos]

/-! ## Coils and discrete inputs -/

/-- The body of a response with bits. The classes for coils and discrete inputs differ in their
function code, and in the text of an error for values that are neither array nor buffer. -/
structure ReadBitsResponseBody where
  values : CoilValues
  numberOfBytes : Int
  valuesAsArray : List Bool
  valuesAsBuffer : Buffer
  deriving DecidableEq

/-- Function code 1. -/
abbrev ReadCoilsResponseBody := ReadBitsResponseBody

/-- Function code 2. -/
abbrev ReadDiscreteInputsResponseBody := ReadBitsResponseBody

namespace ReadBitsResponseBody

/-- The constructor of the bit responses. -/
def new (values : CoilValues) (numberOfBytes : Int) : Except Thrown ReadBitsResponseBody := do
  match values with
  | .array array =>
    let valuesAsBuffer ← BufferUtils.arrayStatusToBuffer array
    return { values, numberOfBytes, valuesAsArray := array, valuesAsBuffer }
  | .buffer buffer =>
    let valuesAsArray ← BufferUtils.bufferToArrayStatus buffer
    return { values, numberOfBytes, valuesAsArray, valuesAsBuffer := buffer }

/-- The getter `byteCount`. -/
def byteCount (b : ReadBitsResponseBody) : Int := b.numberOfBytes + 2

/-- The window of a table the request asks for. -/
def fromRequest (requestBody : ReadRequestBody) (table : Buffer) :
    Except Thrown ReadBitsResponseBody := do
  let status ← BufferUtils.bufferToArrayStatus table
  let start := requestBody.start
  let stop := start + requestBody.count
  let segment := arraySlice status start stop
  new (.array segment) (ceilDiv8 segment.length)

/-- The decoder of the bit responses, for a function code. -/
def fromBuffer (code : FC) (buffer : Buffer) : Option ReadBitsResponseBody :=
  tryOrNull do
    let fc ← buffer.readUInt8 0
    let byteCount ← buffer.readUInt8 1
    let status := buffer.subarray 2 (2 + byteCount)
    -- data that has not arrived is noticed here
    if status.length ≠ byteCount then
      return none
    if fc ≠ code.code then
      return none
    return some (← new (.buffer status) byteCount)

/-- The encoder of the bit responses, for a function code. -/
def createPayload (code : FC) (b : ReadBitsResponseBody) : Except Thrown Buffer := do
  let payload ← Buffer.alloc b.byteCount
  let payload ← payload.writeUInt8 code.code 0
  let payload ← payload.writeUInt8 b.numberOfBytes 1
  return Buffer.copy b.valuesAsBuffer payload 2

/-- The body the constructor makes of a buffer. -/
def ofBuffer (values : Buffer) (numberOfBytes : Int) : ReadBitsResponseBody :=
  { values := .buffer values, numberOfBytes, valuesAsArray := Bits.unpack values,
    valuesAsBuffer := values }

theorem new_buffer (values : Buffer) (numberOfBytes : Int) :
    new (.buffer values) numberOfBytes = .ok (ofBuffer values numberOfBytes) := by
  simp only [new, BufferUtils.bufferToArrayStatus_eq]
  rfl

theorem new_array (values : List Bool) (numberOfBytes : Int) :
    new (.array values) numberOfBytes =
      .ok { values := .array values, numberOfBytes, valuesAsArray := values,
            valuesAsBuffer := Bits.pack values } := by
  simp only [new, BufferUtils.arrayStatusToBuffer_eq]
  rfl

/-- The decoder as a function of the bytes in front: all the data has to be there. -/
theorem fromBuffer_cons (code : FC) (f n : UInt8) (rest : Buffer) :
    fromBuffer code (f :: n :: rest) =
      if f.toNat = code.code ∧ n.toNat ≤ rest.length then
        some (ofBuffer (rest.take n.toNat) n.toNat)
      else none := by
  have hsub : subarray (f :: n :: rest) 2 (2 + n.toNat) = rest.take n.toNat :=
    subarray_append [f, n] rest n.toNat
  have hlen : (rest.take n.toNat).length = n.toNat ↔ n.toNat ≤ rest.length := by
    rw [List.length_take]
    omega
  have hread : readUInt8 (f :: n :: rest) 0 = .ok f.toNat := rfl
  have hread' : readUInt8 (f :: n :: rest) 1 = .ok n.toNat := rfl
  simp only [fromBuffer, hread, hread', bind, Except.bind, pure, Except.pure, hsub, ne_eq, hlen,
    new_buffer]
  by_cases hn : n.toNat ≤ rest.length <;> by_cases hf : f.toNat = code.code <;> simp [hn, hf]

theorem fromBuffer_short {code : FC} {buffer : Buffer} (h : buffer.length < 2) :
    fromBuffer code buffer = none := by
  rcases buffer with _ | ⟨f, _ | ⟨n, rest⟩⟩
  · rfl
  · rfl
  · exact absurd h (by rw [List.length_cons, List.length_cons]; omega)

/-- The constructor, with the number of data bytes. -/
def WellFormed (b : ReadBitsResponseBody) : Prop :=
  ∃ values, new values b.valuesAsBuffer.length = .ok b

theorem WellFormed.numberOfBytes {b : ReadBitsResponseBody} (h : b.WellFormed) :
    b.numberOfBytes = b.valuesAsBuffer.length := by
  obtain ⟨values, h⟩ := h
  generalize (b.valuesAsBuffer.length : Int) = n at h ⊢
  cases values with
  | array values =>
    rw [new_array] at h
    exact (Except.ok.inj h) ▸ rfl
  | buffer values =>
    rw [new_buffer] at h
    exact (Except.ok.inj h) ▸ rfl

/-- The payload, when the number of bytes fits into a byte. -/
theorem createPayload_eq (code : FC) {b : ReadBitsResponseBody} (h : b.WellFormed) :
    createPayload code b =
      if b.valuesAsBuffer.length < 256 then
        .ok (UInt8.ofNat code.code :: UInt8.ofNat b.valuesAsBuffer.length :: b.valuesAsBuffer)
      else .error .rangeError := by
  have halloc : Buffer.alloc (b.valuesAsBuffer.length + 2) =
      .ok (0 :: 0 :: List.replicate b.valuesAsBuffer.length 0) :=
    alloc_natCast (b.valuesAsBuffer.length + 2)
  have hcopy : Buffer.copy b.valuesAsBuffer (UInt8.ofNat code.code ::
      UInt8.ofNat b.valuesAsBuffer.length :: List.replicate b.valuesAsBuffer.length 0) 2 =
        UInt8.ofNat code.code :: UInt8.ofNat b.valuesAsBuffer.length :: b.valuesAsBuffer := by
    have h := copy_append b.valuesAsBuffer
      [UInt8.ofNat code.code, UInt8.ofNat b.valuesAsBuffer.length]
      (r := List.replicate b.valuesAsBuffer.length 0) (Nat.le_of_eq List.length_replicate)
    rw [List.length_replicate, List.take_length] at h
    exact h
  rw [createPayload, byteCount, h.numberOfBytes, halloc]
  refine (writeCounted code _ _ fun payload =>
    .ok (Buffer.copy b.valuesAsBuffer payload 2)).trans ?_
  rw [hcopy]

/-- The body the constructor makes of an array, with its own number of bytes. -/
def ofArray (values : List Bool) : ReadBitsResponseBody :=
  { values := .array values, numberOfBytes := ((values.length + 7) / 8 : Nat),
    valuesAsArray := values, valuesAsBuffer := Bits.pack values }

/-- The window that is read: as many bits as the request counts, as far as the table goes. -/
theorem fromRequest_eq {requestBody : ReadRequestBody} {start count : Nat}
    (hs : requestBody.start = start) (hc : requestBody.count = count) (table : Buffer) :
    fromRequest requestBody table =
      .ok (ofArray (((Bits.unpack table).drop start).take count)) := by
  have hwindow : arraySlice (Bits.unpack table) start ((start : Int) + count) =
      ((Bits.unpack table).drop start).take count := by
    rw [← Int.natCast_add, arraySlice_natCast, List.drop_take, Nat.add_sub_cancel_left]
  rw [fromRequest, BufferUtils.bufferToArrayStatus_eq, hs, hc]
  show new (.array (arraySlice (Bits.unpack table) start ((start : Int) + count))) _ = _
  rw [hwindow, new_array, WriteMultipleCoilsRequestBody.ceilDiv8_natCast]
  rfl

theorem createPayload_ofArray (code : FC) (values : List Bool) :
    createPayload code (ofArray values) =
      if (values.length + 7) / 8 < 256 then
        .ok (UInt8.ofNat code.code :: UInt8.ofNat ((values.length + 7) / 8) :: Bits.pack values)
      else .error .rangeError := by
  have hwell : (ofArray values).WellFormed := by
    refine ⟨.array values, ?_⟩
    rw [new_array, ofArray, Bits.length_pack]
  rw [createPayload_eq code hwell]
  show (if (Bits.pack values).length < 256 then
    Except.ok (UInt8.ofNat code.code :: UInt8.ofNat (Bits.pack values).length ::
      Bits.pack values)
    else _) = _
  rw [Bits.length_pack]

end ReadBitsResponseBody

/-- The bits behind the byte count. -/
def ReadCoilsResponseBody.fromBuffer (buffer : Buffer) : Option ReadCoilsResponseBody :=
  ReadBitsResponseBody.fromBuffer .readCoil buffer

/-- The bits behind the byte count. -/
def ReadDiscreteInputsResponseBody.fromBuffer (buffer : Buffer) :
    Option ReadDiscreteInputsResponseBody :=
  ReadBitsResponseBody.fromBuffer .readDiscreteInput buffer

/-- Function code, byte count and bits. -/
def ReadCoilsResponseBody.createPayload (b : ReadCoilsResponseBody) : Except Thrown Buffer :=
  ReadBitsResponseBody.createPayload .readCoil b

/-- Function code, byte count and bits. -/
def ReadDiscreteInputsResponseBody.createPayload (b : ReadDiscreteInputsResponseBody) :
    Except Thrown Buffer :=
  ReadBitsResponseBody.createPayload .readDiscreteInput b

/-! ## Registers -/

/-- `Math.max(0, Math.min(0xFFFF, value))`. -/
def clampWord (value : Int) : Int := max 0 (min 0xFFFF value)

/-- The `createPayload` the two register responses share. -/
def registersPayload (code : FC) (byteCount : Int) (values : RegisterValues) :
    Except Thrown Buffer := do
  match values with
  | .buffer values =>
    let payload ← Buffer.alloc 2
    let payload ← payload.writeUInt8 code.code 0
    let payload ← payload.writeUInt8 byteCount 1
    return payload ++ values
  | .array values =>
    let payload ← Buffer.alloc (byteCount + 2)
    let payload ← payload.writeUInt8 code.code 0
    let payload ← payload.writeUInt8 byteCount 1
    payload.writeWords (values.map clampWord) 2

/-- The values are whole 16-bit words. -/
def RegisterValues.IsWords : RegisterValues → Prop
  | .array values => ∀ v ∈ values, IsUInt16 v
  | .buffer values => values.length % 2 = 0

/-- The bytes of register values. -/
def RegisterValues.bytes : RegisterValues → Buffer
  | .array values => ofWords (values.map Int.toNat)
  | .buffer values => values

/-- The window of a register table a request asks for. -/
theorem subarray_registers (table : Buffer) (start count : Nat) :
    table.subarray ((start : Int) * 2) ((start : Int) * 2 + (count : Int) * 2) =
      (table.drop (2 * start)).take (2 * count) := by
  have hstart : (start : Int) * 2 = ((2 * start : Nat) : Int) := by omega
  have hcount : (count : Int) * 2 = ((2 * count : Nat) : Int) := by omega
  rw [hstart, hcount, subarray_window]

theorem length_registers_window {table : Buffer} {start count : Nat}
    (h : 2 * (start + count) ≤ table.length) :
    ((table.drop (2 * start)).take (2 * count)).length = 2 * count := by
  rw [List.length_take, List.length_drop]
  omega

theorem clampWord_eq {v : Int} (h : IsUInt16 v) : clampWord v = v := by
  unfold IsUInt16 at h
  unfold clampWord
  omega

theorem map_clampWord {values : List Int} (h : ∀ v ∈ values, IsUInt16 v) :
    values.map clampWord = values := by
  rw [List.map_congr_left fun v hv => clampWord_eq (h v hv), List.map_id']

/-- The payload of a buffer, when its length fits into a byte. -/
theorem registersPayload_buffer (code : FC) (values : Buffer) :
    registersPayload code values.length (.buffer values) =
      if values.length <
        256 then .ok (UInt8.ofNat code.code :: UInt8.ofNat values.length :: values)
      else .error .rangeError := by
  have halloc : Buffer.alloc 2 = .ok [0, 0] := rfl
  rw [registersPayload, halloc]
  exact writeCounted code values.length [] fun payload => .ok (payload ++ values)

/-- The payload of whole words, when the byte count is theirs and fits into a byte. -/
theorem registersPayload_eq (code : FC) {values : RegisterValues} (h : values.IsWords) :
    registersPayload code values.bytes.length values =
      if values.bytes.length < 256 then
        .ok (UInt8.ofNat code.code :: UInt8.ofNat values.bytes.length :: values.bytes)
      else .error .rangeError := by
  cases values with
  | buffer values => exact registersPayload_buffer code values
  | array values =>
    have hlen : (RegisterValues.array values).bytes.length = 2 * values.length := by
      simp [RegisterValues.bytes]
    have halloc : Buffer.alloc (((2 * values.length : Nat) : Int) + 2) =
        .ok (0 :: 0 :: List.replicate (2 * values.length) 0) :=
          alloc_natCast (2 * values.length + 2)
    have hwrite : writeWords (UInt8.ofNat code.code :: UInt8.ofNat (2 * values.length) ::
        List.replicate (2 * values.length) 0) values 2 =
          .ok (UInt8.ofNat code.code :: UInt8.ofNat (2 * values.length) ::
            ofWords (values.map Int.toNat)) := by
      have hroom : (List.replicate (2 * values.length) (0 : UInt8)).length =
        2 * values.length :=
        List.length_replicate
      have h := writeWords_append [UInt8.ofNat code.code, UInt8.ofNat (2 * values.length)]
        (List.replicate (2 * values.length) 0) [] hroom h
      rw [List.append_nil, List.append_nil] at h
      exact h
    rw [hlen, registersPayload, halloc, map_clampWord h]
    refine (writeCounted code (2 * values.length) _ fun payload =>
      payload.writeWords values 2).trans ?_
    rw [hwrite]
    rfl

/-! ## Holding registers -/

/-- The body of a response with holding registers, with the registers in both forms. -/
structure ReadHoldingRegistersResponseBody where
  _byteCount : Int
  values : RegisterValues
  _bufferLength : Int
  valuesAsArray : List Int
  valuesAsBuffer : Buffer
  deriving DecidableEq

namespace ReadHoldingRegistersResponseBody

/-- The getter `byteCount`. -/
def byteCount (b : ReadHoldingRegistersResponseBody) : Int := b._bufferLength

/-- The constructor keeps the byte count it is given. Its own length it takes from the
values. -/
def new (byteCount : Int) (values : RegisterValues) :
    Except Thrown ReadHoldingRegistersResponseBody := do
  match values with
  | .array array =>
    let buf ← Buffer.alloc (2 * array.length : Nat)
    let buf ← buf.writeWords array 0
    return { _byteCount := byteCount, values, _bufferLength := 2 + array.length * 2,
             valuesAsArray := array, valuesAsBuffer := buf }
  | .buffer bytes =>
    -- `new Uint16Array(values.length / 2)` cuts half a word off
    let arr ← bytes.readWords (bytes.length / 2) 0
    return { _byteCount := byteCount, values, _bufferLength := 2 + bytes.length,
             valuesAsArray := arr.map (↑), valuesAsBuffer := bytes }

/-- The window of a table the request asks for. -/
def fromRequest (requestBody : ReadHoldingRegistersRequestBody) (holdingRegisters : Buffer) :
    Except Thrown ReadHoldingRegistersResponseBody := do
  let startByte := requestBody.start * 2
  let endByte := requestBody.start * 2 + requestBody.count * 2
  if ¬ holdingRegisters.length ≥ endByte then
    throw (.assertion "Not enough data in buffer")
  let bufferSegment := holdingRegisters.subarray startByte endByte
  new bufferSegment.length (.buffer bufferSegment)

/-- The decoder does not compare the byte count with the bytes that are there. -/
def fromBuffer (buffer : Buffer) : Except Thrown (Option ReadHoldingRegistersResponseBody) := do
  let fc ← buffer.readUInt8 0
  if fc ≠ FC.readHoldingRegisters.code then
    return none
  let byteCount ← buffer.readUInt8 1
  let bufferSegment := buffer.subarray 2 (2 + byteCount)
  return some (← new byteCount (.buffer bufferSegment))

/-- Function code, byte count and registers. -/
def createPayload (b : ReadHoldingRegistersResponseBody) : Except Thrown Buffer :=
  registersPayload .readHoldingRegisters b._byteCount b.values

/-- The body the constructor makes of a buffer. -/
def ofBuffer (byteCount : Int) (values : Buffer) : ReadHoldingRegistersResponseBody :=
  { _byteCount := byteCount, values := .buffer values, _bufferLength := 2 + values.length,
    valuesAsArray := (words values).map (↑), valuesAsBuffer := values }

theorem new_buffer (byteCount : Int) (values : Buffer) :
    new byteCount (.buffer values) = .ok (ofBuffer byteCount values) := by
  have hread := readWords_half values
  simp only [new, bind, Except.bind, hread]
  rfl

theorem new_array (byteCount : Int) {values : List Int} (h : ∀ v ∈ values, IsUInt16 v) :
    new byteCount (.array values) =
      .ok { _byteCount := byteCount, values := .array values,
            _bufferLength := 2 + values.length * 2, valuesAsArray := values,
            valuesAsBuffer := ofWords (values.map Int.toNat) } := by
  have hwrite := writeWords_append [] (List.replicate (2 * values.length) 0) [] (by simp) h
  simp only [List.nil_append, List.append_nil, List.length_nil] at hwrite
  simp only [new, bind, Except.bind, pure, Except.pure, alloc_natCast, hwrite]

/-- The decoder as a function of the bytes in front: it takes the data that is there. -/
theorem fromBuffer_cons (f n : UInt8) (rest : Buffer) :
    fromBuffer (f :: n :: rest) =
      .ok (if f.toNat = FC.readHoldingRegisters.code then
        some (ofBuffer n.toNat (rest.take n.toNat)) else none) := by
  have hsub : subarray (f :: n :: rest) 2 (2 + n.toNat) = rest.take n.toNat :=
    subarray_append [f, n] rest n.toNat
  have hread : readUInt8 (f :: n :: rest) 0 = .ok f.toNat := rfl
  have hread' : readUInt8 (f :: n :: rest) 1 = .ok n.toNat := rfl
  simp only [fromBuffer, hread, hread', bind, Except.bind, pure, Except.pure, hsub, new_buffer]
  by_cases hf : f.toNat = FC.readHoldingRegisters.code <;> simp [hf]

theorem fromBuffer_short {buffer : Buffer} (h : buffer.length < 2) :
    tryOrNull (fromBuffer buffer) = none := by
  rcases buffer with _ | ⟨f, _ | ⟨n, rest⟩⟩
  · rfl
  · by_cases hf : f.toNat = FC.readHoldingRegisters.code <;>
      simp [fromBuffer, readUInt8, byteAt, bind, Except.bind, pure, Except.pure, hf]
  · exact absurd h (by rw [List.length_cons, List.length_cons]; omega)

/-- The window that is read, when the table holds all of it. -/
theorem fromRequest_eq {requestBody : ReadHoldingRegistersRequestBody} {start count : Nat}
    (hs : requestBody.start = start) (hc : requestBody.count = count) (table : Buffer)
    (h : 2 * (start + count) ≤ table.length) :
    fromRequest requestBody table =
      .ok (ofBuffer (2 * count : Nat) ((table.drop (2 * start)).take (2 * count))) := by
  have henough : ¬ ¬ (table.length : Int) ≥ start * 2 + count * 2 := by omega
  rw [fromRequest, hs, hc, if_neg henough, subarray_registers]
  show new ((table.drop (2 * start)).take (2 * count)).length _ = _
  rw [length_registers_window h, new_buffer]

/-- A window that is not in the table fails the assertion. -/
theorem fromRequest_short {requestBody : ReadHoldingRegistersRequestBody} {table : Buffer}
    (h : table.length < 2 * (requestBody.start + requestBody.count)) :
    fromRequest requestBody table = .error (.assertion "Not enough data in buffer") := by
  have hshort : ¬ (table.length : Int) ≥ requestBody.start * 2 + requestBody.count * 2 := by
    omega
  rw [fromRequest, if_pos hshort]
  rfl

/-- The constructor on whole words, with their number of bytes. -/
def WellFormed (b : ReadHoldingRegistersResponseBody) : Prop :=
  ∃ values : RegisterValues, values.IsWords ∧ new values.bytes.length values = .ok b

end ReadHoldingRegistersResponseBody

/-! ## Input registers -/

/-- The body of a response with input registers, with the registers in both forms. -/
structure ReadInputRegistersResponseBody where
  _byteCount : Int
  values : RegisterValues
  _bufferLength : Int
  valuesAsArray : List Int
  valuesAsBuffer : Buffer
  deriving DecidableEq

namespace ReadInputRegistersResponseBody

/-- The getter `byteCount`. -/
def byteCount (b : ReadInputRegistersResponseBody) : Int := b._bufferLength

/-- The constructor. Of an array it makes a buffer with one byte a value, which a payload
replaces. -/
def new (byteCount : Int) (values : RegisterValues) (payload : Option Buffer) :
    Except Thrown ReadInputRegistersResponseBody := do
  match values with
  | .array array =>
    return { _byteCount := byteCount, values, _bufferLength := 2 + array.length * 2,
             valuesAsArray := array, valuesAsBuffer := payload.getD (array.map toByte) }
  | .buffer bytes =>
    let arr ← bytes.readWords (bytes.length / 2) 0
    return { _byteCount := byteCount, values, _bufferLength := 2 + bytes.length,
             valuesAsArray := arr.map (↑), valuesAsBuffer := payload.getD bytes }

/-- The window of a table the request asks for, as far as the table goes. -/
def fromRequest (requestBody : ReadInputRegistersRequestBody) (inputRegisters : Buffer) :
    Except Thrown ReadInputRegistersResponseBody := do
  let startByte := requestBody.start * 2
  let endByte := startByte + requestBody.count * 2
  let buf := inputRegisters.subarray startByte endByte
  new buf.length (.buffer buf) none

/-- The data bytes are read as words, and the bytes themselves are the payload. -/
def fromBuffer (buffer : Buffer) : Except Thrown (Option ReadInputRegistersResponseBody) := do
  let fc ← buffer.readUInt8 0
  let byteCount ← buffer.readUInt8 1
  let payload := buffer.subarray 2 (2 + byteCount)
  if fc ≠ FC.readInputRegisters.code then
    return none
  let values ← payload.readWords ((byteCount + 1) / 2) 0
  return some (← new byteCount (.array (values.map (↑))) (some payload))

/-- Function code, byte count and registers. -/
def createPayload (b : ReadInputRegistersResponseBody) : Except Thrown Buffer :=
  registersPayload .readInputRegisters b._byteCount b.values

/-- The body the decoder makes of its data bytes. -/
def ofPayload (byteCount : Int) (payload : Buffer) : ReadInputRegistersResponseBody :=
  { _byteCount := byteCount, values := .array ((words payload).map (↑)),
    _bufferLength := 2 + (words payload).length * 2, valuesAsArray := (words payload).map (↑),
    valuesAsBuffer := payload }

/-- The decoder as a function of the bytes in front: every word it reads has to be there. -/
theorem fromBuffer_cons (f n : UInt8) (rest : Buffer) :
    tryOrNull (fromBuffer (f :: n :: rest)) =
      if f.toNat = FC.readInputRegisters.code ∧ n.toNat % 2 = 0 ∧ n.toNat ≤ rest.length then
        some (ofPayload n.toNat (rest.take n.toNat))
      else none := by
  have hsub : subarray (f :: n :: rest) 2 (2 + n.toNat) = rest.take n.toNat :=
    subarray_append [f, n] rest n.toNat
  have hread : readUInt8 (f :: n :: rest) 0 = .ok f.toNat := rfl
  have hread' : readUInt8 (f :: n :: rest) 1 = .ok n.toNat := rfl
  simp only [fromBuffer, hread, hread', bind, Except.bind, pure, Except.pure, hsub]
  by_cases hf : f.toNat = FC.readInputRegisters.code
  · by_cases hn : n.toNat % 2 = 0 ∧ n.toNat ≤ rest.length
    · have hwords := readWords_half (rest.take n.toNat)
      rw [List.length_take, Nat.min_eq_left hn.2] at hwords
      rw [if_neg (not_not.mpr hf), if_pos ⟨hf, hn⟩,
        show (n.toNat + 1) / 2 = n.toNat / 2 from by omega, hwords]
      simp [new, ofPayload, pure, Except.pure]
    · -- an odd byte or a missing one leaves half a word to read
      obtain ⟨e, he⟩ := readWords_eq_error (rest.take n.toNat) (n := (n.toNat + 1) / 2) 0
        (by omega) (by rw [List.length_take]; omega)
      rw [if_neg (not_not.mpr hf), if_neg fun h => hn h.2, he]
      rfl
  · rw [if_pos hf, if_neg fun h => hf h.1]
    rfl

theorem fromBuffer_short {buffer : Buffer} (h : buffer.length < 2) :
    tryOrNull (fromBuffer buffer) = none := by
  rcases buffer with _ | ⟨f, _ | ⟨n, rest⟩⟩
  · rfl
  · rfl
  · exact absurd h (by rw [List.length_cons, List.length_cons]; omega)

/-- The body the constructor makes of a buffer. -/
def ofBuffer (byteCount : Int) (values : Buffer) : ReadInputRegistersResponseBody :=
  { _byteCount := byteCount, values := .buffer values, _bufferLength := 2 + values.length,
    valuesAsArray := (words values).map (↑), valuesAsBuffer := values }

/-- The window that is read, as far as the table goes. -/
theorem fromRequest_window {requestBody : ReadInputRegistersRequestBody} {start count : Nat}
    (hs : requestBody.start = start) (hc : requestBody.count = count) (table : Buffer) :
    fromRequest requestBody table =
      .ok (ofBuffer ((table.drop (2 * start)).take (2 * count)).length
        ((table.drop (2 * start)).take (2 * count))) := by
  rw [fromRequest, hs, hc, subarray_registers, new, readWords_half]
  rfl

/-- The window that is read, when the table holds all of it. -/
theorem fromRequest_eq {requestBody : ReadInputRegistersRequestBody} {start count : Nat}
    (hs : requestBody.start = start) (hc : requestBody.count = count) (table : Buffer)
    (h : 2 * (start + count) ≤ table.length) :
    fromRequest requestBody table =
      .ok (ofBuffer (2 * count : Nat) ((table.drop (2 * start)).take (2 * count))) := by
  rw [fromRequest_window hs hc, length_registers_window h]

/-- The constructor on whole words, with their number of bytes. -/
def WellFormed (b : ReadInputRegistersResponseBody) : Prop :=
  ∃ (values : RegisterValues) (payload : Option Buffer), values.IsWords ∧
    new values.bytes.length values payload = .ok b

end ReadInputRegistersResponseBody

end NodeModbus

import NodeModbus.Response.Read
import NodeModbus.Response.Write

/-!
# The response factory

The ten kinds of response body under one type, with the getters the rest of the
code reads, and `ResponseFactory.fromBuffer`, which picks a decoder by the first
byte.

- `ResponseContent`, `ResponseBody.content`: the data of a body, whatever form
  its values were given in.
- `fromBuffer_cons`: the factory as a function of the first byte.
- `Decodable`, `fromBuffer_isSome_iff`: the byte strings the factory makes a body
  of.
-/

namespace NodeModbus

open Buffer Words

/-! ## Response bodies -/

/-- The classes that extend `ModbusBaseResponseBody`. -/
inductive ResponseBody where
  | readCoils (body : ReadCoilsResponseBody)
  | readDiscreteInputs (body : ReadDiscreteInputsResponseBody)
  | readHoldingRegisters (body : ReadHoldingRegistersResponseBody)
  | readInputRegisters (body : ReadInputRegistersResponseBody)
  | writeSingleCoil (body : WriteSingleCoilResponseBody)
  | writeSingleRegister (body : WriteSingleRegisterResponseBody)
  | writeMultipleCoils (body : WriteMultipleCoilsResponseBody)
  | writeMultipleRegisters (body : WriteMultipleRegistersResponseBody)
  | readDeviceIdentification (body : ReadDeviceIdentificationResponseBody)
  | exception (body : ExceptionResponseBody)
  deriving DecidableEq

/-- What a response says. -/
inductive ResponseContent where
  | readCoils (data : Buffer)
  | readDiscreteInputs (data : Buffer)
  | readHoldingRegisters (values : List Int)
  | readInputRegisters (values : List Int)
  | writeSingleCoil (address : Int) (value : Bool)
  | writeSingleRegister (address value : Int)
  | writeMultipleCoils (start quantity : Int)
  | writeMultipleRegisters (start quantity : Int)
  | readDeviceIdentification (body : ReadDeviceIdentificationResponseBody)
  | exception (fc : FC) (code : Int) (meiType : Option Int)
  deriving DecidableEq

namespace ResponseBody

/-- The getter `fc`. -/
def fc : ResponseBody → FC
  | readCoils _ => .readCoil
  | readDiscreteInputs _ => .readDiscreteInput
  | readHoldingRegisters _ => .readHoldingRegisters
  | readInputRegisters _ => .readInputRegisters
  | writeSingleCoil _ => .writeSingleCoil
  | writeSingleRegister _ => .writeSingleHoldingRegister
  | writeMultipleCoils _ => .writeMultipleCoils
  | writeMultipleRegisters _ => .writeMultipleHoldingRegisters
  | readDeviceIdentification _ => .readDeviceIdentification
  | exception b => b.fc

/-- The getter `isException`. -/
def isException : ResponseBody → Bool
  | exception _ => true
  | _ => false

/-- The getter `byteCount`. -/
def byteCount : ResponseBody → Int
  | readCoils b => b.byteCount
  | readDiscreteInputs b => b.byteCount
  | readHoldingRegisters b => b.byteCount
  | readInputRegisters b => b.byteCount
  | writeSingleCoil _ => 5
  | writeSingleRegister _ => 5
  | writeMultipleCoils _ => 5
  | writeMultipleRegisters _ => 5
  | readDeviceIdentification b => b.byteCount
  | exception b => b.byteCount

/-- The method `createPayload`. -/
def createPayload : ResponseBody → Except Thrown Buffer
  | readCoils b => ReadCoilsResponseBody.createPayload b
  | readDiscreteInputs b => ReadDiscreteInputsResponseBody.createPayload b
  | readHoldingRegisters b => b.createPayload
  | readInputRegisters b => b.createPayload
  | writeSingleCoil b => b.createPayload
  | writeSingleRegister b => b.createPayload
  | writeMultipleCoils b => b.createPayload
  | writeMultipleRegisters b => b.createPayload
  | readDeviceIdentification b => b.createPayload
  | exception b => b.createPayload

/-- The data of a body: the bytes of the bits, with the padding of the last byte, the registers,
or the fields. -/
def content : ResponseBody → ResponseContent
  | readCoils b => .readCoils b.valuesAsBuffer
  | readDiscreteInputs b => .readDiscreteInputs b.valuesAsBuffer
  | readHoldingRegisters b => .readHoldingRegisters b.valuesAsArray
  | readInputRegisters b => .readInputRegisters b.valuesAsArray
  | writeSingleCoil b => .writeSingleCoil b._address b._value
  | writeSingleRegister b => .writeSingleRegister b._address b._value
  | writeMultipleCoils b => .writeMultipleCoils b._start b._quantity
  | writeMultipleRegisters b => .writeMultipleRegisters b._start b._quantity
  | readDeviceIdentification b => .readDeviceIdentification b
  | exception b => .exception b.fc b.code b.meiType

end ResponseBody

/-! ## The factory -/

namespace ResponseFactory

/-- The decoder of a function code, as the factory picks it. -/
def decoder (fc : FC) (buffer : Buffer) : Except Thrown (Option ResponseBody) :=
  match fc with
  | .readCoil => .ok ((ReadCoilsResponseBody.fromBuffer buffer).map .readCoils)
  | .readDiscreteInput =>
    .ok ((ReadDiscreteInputsResponseBody.fromBuffer buffer).map .readDiscreteInputs)
  | .readHoldingRegisters => do
    return (← ReadHoldingRegistersResponseBody.fromBuffer buffer).map .readHoldingRegisters
  | .readInputRegisters => do
    return (← ReadInputRegistersResponseBody.fromBuffer buffer).map .readInputRegisters
  | .readDeviceIdentification =>
    .ok ((ReadDeviceIdentificationResponseBody.fromBuffer buffer).map .readDeviceIdentification)
  | .writeSingleCoil => do
    return (← WriteSingleCoilResponseBody.fromBuffer buffer).map .writeSingleCoil
  | .writeSingleHoldingRegister => do
    return (← WriteSingleRegisterResponseBody.fromBuffer buffer).map .writeSingleRegister
  | .writeMultipleCoils => do
    return (← WriteMultipleCoilsResponseBody.fromBuffer buffer).map .writeMultipleCoils
  | .writeMultipleHoldingRegisters => do
    return (← WriteMultipleRegistersResponseBody.fromBuffer buffer).map .writeMultipleRegisters

/-- The body in front of a buffer. -/
def fromBuffer (buffer : Buffer) : Option ResponseBody :=
  tryOrNull do
    let fc ← buffer.readUInt8 0
    -- the high bit marks an exception; 0x80 alone is no function code either
    if fc > 0x80 then
      return (← ExceptionResponseBody.fromBuffer buffer).map .exception
    match FC.ofCode? fc with
    | some fc => decoder fc buffer
    | none => return none

@[simp] theorem fromBuffer_nil : fromBuffer [] = none := rfl

/-- What is done with a body inside of a `try` block can be done behind it. -/
theorem tryOrNull_map {α β : Type} (x : Except Thrown (Option α)) (f : α → β) :
    tryOrNull (do return (← x).map f) = (tryOrNull x).map f := by
  cases x <;> rfl

/-- The first byte picks the decoder; without one there is no body. -/
theorem fromBuffer_cons (f : UInt8) (rest : Buffer) :
    fromBuffer (f :: rest) =
      if f.toNat > 0x80 then
        (tryOrNull (ExceptionResponseBody.fromBuffer (f :: rest))).map .exception
      else (FC.ofCode? f.toNat).bind fun fc => tryOrNull (decoder fc (f :: rest)) := by
  have hread : readUInt8 (f :: rest) 0 = .ok f.toNat := rfl
  simp only [fromBuffer, hread, bind, Except.bind]
  by_cases h : f.toNat > 0x80
  · rw [if_pos h, if_pos h]
    exact tryOrNull_map _ _
  · rw [if_neg h, if_neg h]
    cases FC.ofCode? f.toNat <;> rfl

theorem fromBuffer_code (fc : FC) (rest : Buffer) :
    fromBuffer (UInt8.ofNat fc.code :: rest) =
      tryOrNull (decoder fc (UInt8.ofNat fc.code :: rest)) := by
  have hle := fc.code_le
  have hcode : (UInt8.ofNat fc.code).toNat = fc.code := toNat_ofNat_of_lt (by omega)
  rw [fromBuffer_cons, hcode, if_neg (by omega), FC.ofCode?_code, Option.bind_some]

theorem fromBuffer_exception (fc : FC) (rest : Buffer) :
    fromBuffer (UInt8.ofNat (fc.code + 0x80) :: rest) =
      (tryOrNull (ExceptionResponseBody.fromBuffer (UInt8.ofNat (fc.code + 0x80) :: rest))).map
        .exception := by
  have hle := fc.code_le
  have hpos := fc.code_pos
  have hcode : (UInt8.ofNat (fc.code + 0x80)).toNat = fc.code + 0x80 :=
    toNat_ofNat_of_lt (by omega)
  rw [fromBuffer_cons, hcode, if_pos (by omega)]

/-! ## What can be decoded -/

/-- The objects of a device identification are there: id, length, and so many bytes each. -/
def HoldsObjects : Nat → Buffer → Prop
  | 0, _ => True
  | left + 1, _ :: n :: rest => n.toNat ≤ rest.length ∧ HoldsObjects left (rest.drop n.toNat)
  | _ + 1, _ => False

/-- The byte strings a decoder makes a body of, by function code: the data bytes of a bit
response are there, and those of an input register response, which are even in number; of a
holding register response only the byte count has to be there. -/
def DecodableData : FC → Buffer → Prop
  | .readCoil, n :: data => n.toNat ≤ data.length
  | .readDiscreteInput, n :: data => n.toNat ≤ data.length
  | .readHoldingRegisters, _ :: _ => True
  | .readInputRegisters, n :: data => n.toNat % 2 = 0 ∧ n.toNat ≤ data.length
  | .readDeviceIdentification, _ :: _ :: _ :: _ :: _ :: k :: data => HoldsObjects k.toNat data
  | .writeSingleCoil, _ :: _ :: _ :: _ :: _ => True
  | .writeSingleHoldingRegister, _ :: _ :: _ :: _ :: _ => True
  | .writeMultipleCoils, _ :: _ :: _ :: _ :: _ => True
  | .writeMultipleHoldingRegisters, _ :: _ :: _ :: _ :: _ => True
  | _, _ => False

/-- The byte strings the factory makes a body of: an exception for a known function code with
something behind it, or a known function code and its data. -/
def Decodable : Buffer → Prop
  | [] => False
  | f :: rest =>
    if f.toNat > 0x80 then isFunctionCode ((f.toNat : Int) - 0x80) = true ∧ rest ≠ []
    else ∃ fc, FC.ofCode? f.toNat = some fc ∧ DecodableData fc rest

theorem parseObjects_isSome_iff (left : Nat) (rest : Buffer) :
    (ReadDeviceIdentificationResponseBody.parseObjects left rest).isSome ↔
    HoldsObjects left rest := by
  induction left generalizing rest with
  | zero => simp [ReadDeviceIdentificationResponseBody.parseObjects, HoldsObjects]
  | succ left ih =>
    rcases rest with _ | ⟨id, _ | ⟨n, rest⟩⟩
    · simp [ReadDeviceIdentificationResponseBody.parseObjects, HoldsObjects]
    · simp [ReadDeviceIdentificationResponseBody.parseObjects, HoldsObjects]
    · rw [ReadDeviceIdentificationResponseBody.parseObjects, HoldsObjects, ← ih]
      by_cases hn : n.toNat ≤ rest.length
      · rw [if_pos hn, Option.isSome_map]
        simp [hn]
      · rw [if_neg hn]
        simp [hn]

/-- The decoders of the write echoes: four bytes behind the function code. -/
theorem echo_isSome_iff {α : Type} {fc : FC} {f : UInt8} (hf : f.toNat = fc.code)
    (rest : Buffer) (g : Nat × Nat → α) :
    ((fields fc (f :: rest)).map g).isSome ↔
    ∃ a a' v v' more, rest = a :: a' :: v :: v' :: more := by
  rcases rest with _ | ⟨a, _ | ⟨a', _ | ⟨v, _ | ⟨v', more⟩⟩⟩⟩
  case cons.cons.cons.cons => simp [fields, hf]
  all_goals simp [fields]

theorem decodableEcho_iff {fc : FC} (rest : Buffer)
    (hfc : fc = .writeSingleCoil ∨ fc = .writeSingleHoldingRegister ∨ fc = .writeMultipleCoils ∨
      fc = .writeMultipleHoldingRegisters) :
    DecodableData fc rest ↔ ∃ a a' v v' more, rest = a :: a' :: v :: v' :: more := by
  rcases hfc with rfl | rfl | rfl | rfl <;>
    rcases rest with _ | ⟨a, _ | ⟨a', _ | ⟨v, _ | ⟨v', more⟩⟩⟩⟩ <;> simp [DecodableData]

theorem decoder_isSome_iff {fc : FC} {f : UInt8} (hf : f.toNat = fc.code) (rest : Buffer) :
    (tryOrNull (decoder fc (f :: rest))).isSome ↔ DecodableData fc rest := by
  cases fc with
  | readCoil =>
    rw [decoder, tryOrNull_ok, Option.isSome_map, ReadCoilsResponseBody.fromBuffer]
    rcases rest with _ | ⟨n, data⟩
    · rw [ReadBitsResponseBody.fromBuffer_short (by simp)]
      simp [DecodableData]
    · rw [ReadBitsResponseBody.fromBuffer_cons]
      simp [DecodableData, hf]
  | readDiscreteInput =>
    rw [decoder, tryOrNull_ok, Option.isSome_map, ReadDiscreteInputsResponseBody.fromBuffer]
    rcases rest with _ | ⟨n, data⟩
    · rw [ReadBitsResponseBody.fromBuffer_short (by simp)]
      simp [DecodableData]
    · rw [ReadBitsResponseBody.fromBuffer_cons]
      simp [DecodableData, hf]
  | readHoldingRegisters =>
    rw [decoder, tryOrNull_map, Option.isSome_map]
    rcases rest with _ | ⟨n, data⟩
    · rw [ReadHoldingRegistersResponseBody.fromBuffer_short (by simp)]
      simp [DecodableData]
    · rw [ReadHoldingRegistersResponseBody.fromBuffer_cons, if_pos hf]
      simp [DecodableData]
  | readInputRegisters =>
    rw [decoder, tryOrNull_map, Option.isSome_map]
    rcases rest with _ | ⟨n, data⟩
    · rw [ReadInputRegistersResponseBody.fromBuffer_short (by simp)]
      simp [DecodableData]
    · rw [ReadInputRegistersResponseBody.fromBuffer_cons]
      simp [DecodableData, hf]
  | readDeviceIdentification =>
    rw [decoder, tryOrNull_ok, Option.isSome_map]
    rcases rest with _ | ⟨m, _ | ⟨d, _ | ⟨c, _ | ⟨w, _ | ⟨n, _ | ⟨k, data⟩⟩⟩⟩⟩⟩
    case cons.cons.cons.cons.cons.cons =>
      rw [ReadDeviceIdentificationResponseBody.fromBuffer_cons, if_pos hf, Option.isSome_map]
      exact parseObjects_isSome_iff k.toNat data
    all_goals
      rw [ReadDeviceIdentificationResponseBody.fromBuffer_short (by simp)]
      simp [DecodableData]
  | writeSingleCoil =>
    rw [decoder, tryOrNull_map, Option.isSome_map, WriteSingleCoilResponseBody.fromBuffer,
      tryOrNull_map_fields, echo_isSome_iff hf, decodableEcho_iff _ (by simp)]
  | writeSingleHoldingRegister =>
    rw [decoder, tryOrNull_map, Option.isSome_map, WriteSingleRegisterResponseBody.fromBuffer,
      tryOrNull_map_fields, echo_isSome_iff hf, decodableEcho_iff _ (by simp)]
  | writeMultipleCoils =>
    rw [decoder, tryOrNull_map, Option.isSome_map, WriteMultipleCoilsResponseBody.fromBuffer,
      tryOrNull_map_fields, echo_isSome_iff hf, decodableEcho_iff _ (by simp)]
  | writeMultipleHoldingRegisters =>
    rw [decoder, tryOrNull_map, Option.isSome_map,
      WriteMultipleRegistersResponseBody.fromBuffer, tryOrNull_map_fields, echo_isSome_iff hf,
      decodableEcho_iff _ (by simp)]

theorem exception_isSome_iff (f : UInt8) (rest : Buffer) :
    (tryOrNull (ExceptionResponseBody.fromBuffer (f :: rest))).isSome ↔
      isFunctionCode ((f.toNat : Int) - 0x80) = true ∧ rest ≠ [] := by
  rw [ExceptionResponseBody.fromBuffer_cons, isFunctionCode]
  cases FC.ofCode? ((f.toNat : Int) - 0x80) with
  | none => simp
  | some fc =>
    rw [Option.bind_some]
    rcases rest with _ | ⟨x, _ | ⟨y, rest⟩⟩
    · simp
    · simp
    · -- the MEI layout or not, one byte is enough
      by_cases hfc : fc = .readDeviceIdentification <;> simp [hfc]

/-- The factory makes a body of exactly the decodable byte strings. -/
theorem fromBuffer_isSome_iff (buffer : Buffer) :
    (fromBuffer buffer).isSome ↔ Decodable buffer := by
  rcases buffer with _ | ⟨f, rest⟩
  · simp [Decodable]
  · rw [fromBuffer_cons, Decodable]
    by_cases hf : f.toNat > 0x80
    · rw [if_pos hf, if_pos hf, Option.isSome_map, exception_isSome_iff]
    · rw [if_neg hf, if_neg hf]
      cases hfc : FC.ofCode? f.toNat with
      | none => simp
      | some fc =>
        have hcode : f.toNat = fc.code := by exact_mod_cast FC.code_of_ofCode? hfc
        rw [Option.bind_some, decoder_isSome_iff hcode]
        simp

/-! ## Byte counts -/

theorem readBits_byteCount_pos {fc : FC} {buffer : Buffer} {r : ReadBitsResponseBody}
    (h : ReadBitsResponseBody.fromBuffer fc buffer = some r) : 0 < r.byteCount := by
  rcases buffer with _ | ⟨f, _ | ⟨n, data⟩⟩
  · cases h
  · cases h
  · rw [ReadBitsResponseBody.fromBuffer_cons] at h
    split at h
    · obtain rfl := Option.some.inj h
      show 0 < (n.toNat : Int) + 2
      omega
    · cases h

theorem decoder_byteCount_pos {fc : FC} {f : UInt8} {rest : Buffer} {body : ResponseBody}
    (h : tryOrNull (decoder fc (f :: rest)) = some body) : 0 < body.byteCount := by
  cases fc with
  | readCoil =>
    obtain ⟨r, hr, rfl⟩ := Option.map_eq_some_iff.mp h
    exact readBits_byteCount_pos hr
  | readDiscreteInput =>
    obtain ⟨r, hr, rfl⟩ := Option.map_eq_some_iff.mp h
    exact readBits_byteCount_pos hr
  | readHoldingRegisters =>
    rw [decoder, tryOrNull_map] at h
    obtain ⟨r, hr, rfl⟩ := Option.map_eq_some_iff.mp h
    rcases rest with _ | ⟨n, data⟩
    · rw [ReadHoldingRegistersResponseBody.fromBuffer_short (by simp)] at hr
      cases hr
    · rw [ReadHoldingRegistersResponseBody.fromBuffer_cons, tryOrNull_ok] at hr
      split at hr
      · obtain rfl := Option.some.inj hr
        show 0 < 2 + ((data.take n.toNat).length : Int)
        omega
      · cases hr
  | readInputRegisters =>
    rw [decoder, tryOrNull_map] at h
    obtain ⟨r, hr, rfl⟩ := Option.map_eq_some_iff.mp h
    rcases rest with _ | ⟨n, data⟩
    · rw [ReadInputRegistersResponseBody.fromBuffer_short (by simp)] at hr
      cases hr
    · rw [ReadInputRegistersResponseBody.fromBuffer_cons] at hr
      split at hr
      · obtain rfl := Option.some.inj hr
        show 0 < 2 + ((words (data.take n.toNat)).length : Int) * 2
        omega
      · cases hr
  | readDeviceIdentification =>
    obtain ⟨r, -, rfl⟩ := Option.map_eq_some_iff.mp h
    show 0 < r.byteCount
    rw [ReadDeviceIdentificationResponseBody.byteCount_eq]
    omega
  | writeSingleCoil =>
    rw [decoder, tryOrNull_map] at h
    obtain ⟨r, -, rfl⟩ := Option.map_eq_some_iff.mp h
    exact (by decide : (0 : Int) < 5)
  | writeSingleHoldingRegister =>
    rw [decoder, tryOrNull_map] at h
    obtain ⟨r, -, rfl⟩ := Option.map_eq_some_iff.mp h
    exact (by decide : (0 : Int) < 5)
  | writeMultipleCoils =>
    rw [decoder, tryOrNull_map] at h
    obtain ⟨r, -, rfl⟩ := Option.map_eq_some_iff.mp h
    exact (by decide : (0 : Int) < 5)
  | writeMultipleHoldingRegisters =>
    rw [decoder, tryOrNull_map] at h
    obtain ⟨r, -, rfl⟩ := Option.map_eq_some_iff.mp h
    exact (by decide : (0 : Int) < 5)

/-- A body that was decoded has bytes. -/
theorem byteCount_pos {buffer : Buffer} {body : ResponseBody}
    (h : fromBuffer buffer = some body) : 0 < body.byteCount := by
  rcases buffer with _ | ⟨f, rest⟩
  · cases h
  rw [fromBuffer_cons] at h
  split at h
  · obtain ⟨r, -, rfl⟩ := Option.map_eq_some_iff.mp h
    show 0 < r.byteCount
    unfold ExceptionResponseBody.byteCount
    split <;> decide
  · obtain ⟨fc, -, hbody⟩ := Option.bind_eq_some_iff.mp h
    exact decoder_byteCount_pos hbody

end ResponseFactory

end NodeModbus

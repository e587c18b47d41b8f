import NodeModbus.Request.WriteMultiple

/-!
# The request factory

The ten kinds of request body under one type, with the getters the rest of the
code reads, and `RequestFactory.fromBuffer`, which picks a decoder by the first
byte.

- `RequestContent`, `RequestBody.content`: what a body asks for, whatever form
  its values were given in.
- `fromBuffer_cons`: the factory as a function of the first byte.
- `FromWire`, `fromWire`: the bodies the factory makes.
- `Decodable`, `fromBuffer_isSome_iff`: the byte strings the factory makes a body
  of.
-/

namespace NodeModbus

open Buffer Words

/-! ## Request bodies -/

/-- The classes that extend `ModbusRequestBody`. -/
inductive RequestBody where
  | readCoils (body : ReadCoilsRequestBody)
  | readDiscreteInputs (body : ReadDiscreteInputsRequestBody)
  | readHoldingRegisters (body : ReadHoldingRegistersRequestBody)
  | readInputRegisters (body : ReadInputRegistersRequestBody)
  | writeSingleCoil (body : WriteSingleCoilRequestBody)
  | writeSingleRegister (body : WriteSingleRegisterRequestBody)
  | writeMultipleCoils (body : WriteMultipleCoilsRequestBody)
  | writeMultipleRegisters (body : WriteMultipleRegistersRequestBody)
  | readDeviceIdentification (body : ReadDeviceIdentificationRequestBody)
  | exception (body : ExceptionRequestBody)
  deriving DecidableEq

/-- What a request asks for. -/
inductive RequestContent where
  | readCoils (start count : Int)
  | readDiscreteInputs (start count : Int)
  | readHoldingRegisters (start count : Int)
  | readInputRegisters (start count : Int)
  | writeSingleCoil (address : Int) (value : Bool)
  | writeSingleRegister (address value : Int)
  | writeMultipleCoils (address quantity : Int) (values : List Bool)
  | writeMultipleRegisters (address quantity : Int) (values : List Int)
  | readDeviceIdentification (meiType readDeviceIdCode objectId : Int)
  | exception (fc : FC) (code : Int)
  deriving DecidableEq

/-- The byte count a decoder gives a body of this content. -/
def RequestContent.byteCount : RequestContent → Int
  | writeMultipleCoils _ quantity _ => ceilDiv8 quantity + 6
  | writeMultipleRegisters _ quantity _ => min (2 * quantity + 6) 0xF6
  | readDeviceIdentification .. => 4
  | exception .. => 2
  | _ => 5

/-- The function code of a request. -/
def RequestContent.fc : RequestContent → FC
  | readCoils .. => .readCoil
  | readDiscreteInputs .. => .readDiscreteInput
  | readHoldingRegisters .. => .readHoldingRegisters
  | readInputRegisters .. => .readInputRegisters
  | writeSingleCoil .. => .writeSingleCoil
  | writeSingleRegister .. => .writeSingleHoldingRegister
  | writeMultipleCoils .. => .writeMultipleCoils
  | writeMultipleRegisters .. => .writeMultipleHoldingRegisters
  | readDeviceIdentification .. => .readDeviceIdentification
  | exception fc _ => fc

namespace RequestBody

/-- The getter `fc`. -/
def fc : RequestBody → FC
  | readCoils _ => .readCoil
  | readDiscreteInputs _ => .readDiscreteInput
  | readHoldingRegisters _ => .readHoldingRegisters
  | readInputRegisters _ => .readInputRegisters
  | writeSingleCoil _ => .writeSingleCoil
  | writeSingleRegister _ => .writeSingleHoldingRegister
  | writeMultipleCoils _ => .writeMultipleCoils
  | writeMultipleRegisters _ => .writeMultipleHoldingRegisters
  | readDeviceIdentification _ => .readDeviceIdentification
  | exception b => b.fc

/-- The getter `name`. -/
def name : RequestBody → String
  | readCoils _ => "ReadCoils"
  | readDiscreteInputs _ => "ReadDiscreteInput"
  | readHoldingRegisters _ => "ReadHoldingRegisters"
  | readInputRegisters _ => "ReadInputRegisters"
  | writeSingleCoil _ => "WriteSingleCoil"
  | writeSingleRegister _ => "WriteSingleRegister"
  | writeMultipleCoils _ => "WriteMultipleCoils"
  | writeMultipleRegisters _ => "WriteMultipleRegisters"
  | readDeviceIdentification _ => "ReadDeviceIdentification"
  | exception _ => "ExceptionRequest"

/-- The getter `address`: the device identification body does not have one. -/
def address : RequestBody → Except Thrown Int
  | readCoils b => .ok b.start
  | readDiscreteInputs b => .ok b.start
  | readHoldingRegisters b => .ok b.start
  | readInputRegisters b => .ok b.start
  | writeSingleCoil b => .ok b.address
  | writeSingleRegister b => .ok b.address
  | writeMultipleCoils b => .ok b.address
  | writeMultipleRegisters b => .ok b.address
  | readDeviceIdentification _ => .error (.error "Method not implemented.")
  | exception _ => .ok 0

/-- The getter `count`. -/
def count : RequestBody → Int
  | readCoils b => b.count
  | readDiscreteInputs b => b.count
  | readHoldingRegisters b => b.count
  | readInputRegisters b => b.count
  | writeSingleCoil _ => 1
  | writeSingleRegister _ => 1
  | writeMultipleCoils b => b.quantity
  | writeMultipleRegisters b => b.quantity
  | readDeviceIdentification _ => 1
  | exception _ => 0

/-- The getter `byteCount`. -/
def byteCount : RequestBody → Int
  | readCoils _ => 5
  | readDiscreteInputs _ => 5
  | readHoldingRegisters _ => 5
  | readInputRegisters _ => 5
  | writeSingleCoil _ => 5
  | writeSingleRegister _ => 5
  | writeMultipleCoils b => b.byteCount
  | writeMultipleRegisters b => b.byteCount
  | readDeviceIdentification _ => 4
  | exception _ => 2

/-- The method `createPayload`. -/
def createPayload : RequestBody → Except Thrown Buffer
  | readCoils b => ReadCoilsRequestBody.createPayload b
  | readDiscreteInputs b => ReadDiscreteInputsRequestBody.createPayload b
  | readHoldingRegisters b => ReadHoldingRegistersRequestBody.createPayload b
  | readInputRegisters b => ReadInputRegistersRequestBody.createPayload b
  | writeSingleCoil b => b.createPayload
  | writeSingleRegister b => b.createPayload
  | writeMultipleCoils b => b.createPayload
  | writeMultipleRegisters b => b.createPayload
  | readDeviceIdentification b => b.createPayload
  | exception b => b.createPayload

/-- Address, quantity and values of a body. -/
def content : RequestBody → RequestContent
  | readCoils b => .readCoils b.start b.count
  | readDiscreteInputs b => .readDiscreteInputs b.start b.count
  | readHoldingRegisters b => .readHoldingRegisters b.start b.count
  | readInputRegisters b => .readInputRegisters b.start b.count
  | writeSingleCoil b => .writeSingleCoil b.address b._value
  | writeSingleRegister b => .writeSingleRegister b.address b.value
  | writeMultipleCoils b => .writeMultipleCoils b.address b.quantity b.valuesAsArray
  | writeMultipleRegisters b => .writeMultipleRegisters b.address b.quantity b.valuesAsArray
  | readDeviceIdentification b =>
    .readDeviceIdentification b.meiType b.readDeviceIdCode b.objectId
  | exception b => .exception b.fc b.code

@[simp] theorem fc_content (b : RequestBody) : b.content.fc = b.fc := by
  cases b <;> rfl

/-- Only the device identification body is without an address. -/
theorem address_eq_ok {b : RequestBody} (h : b.fc ≠ .readDeviceIdentification) :
    ∃ address, b.address = .ok address := by
  cases b with
  | readDeviceIdentification _ => exact absurd rfl h
  | _ => exact ⟨_, rfl⟩

end RequestBody

/-! ## The factory -/

namespace RequestFactory

/-- The `switch` of the factory. -/
def decoder (fc : FC) (buffer : Buffer) : Option RequestBody :=
  match fc with
  | .readCoil => (ReadCoilsRequestBody.fromBuffer buffer).map .readCoils
  | .readDiscreteInput =>
    (ReadDiscreteInputsRequestBody.fromBuffer buffer).map .readDiscreteInputs
  | .readHoldingRegisters =>
    (ReadHoldingRegistersRequestBody.fromBuffer buffer).map .readHoldingRegisters
  | .readInputRegisters =>
    (ReadInputRegistersRequestBody.fromBuffer buffer).map .readInputRegisters
  | .readDeviceIdentification =>
    (ReadDeviceIdentificationRequestBody.fromBuffer buffer).map .readDeviceIdentification
  | .writeSingleCoil => (WriteSingleCoilRequestBody.fromBuffer buffer).map .writeSingleCoil
  | .writeSingleHoldingRegister =>
    (WriteSingleRegisterRequestBody.fromBuffer buffer).map .writeSingleRegister
  | .writeMultipleCoils =>
    (WriteMultipleCoilsRequestBody.fromBuffer buffer).map .writeMultipleCoils
  | .writeMultipleHoldingRegisters =>
    (WriteMultipleRegistersRequestBody.fromBuffer buffer).map .writeMultipleRegisters

/-- The body in front of a buffer. For a code up to `0x2B` without a decoder the constructor of
the exception request is called, and throws. -/
def fromBuffer (buffer : Buffer) : Option RequestBody :=
  tryOrNull do
    let fc ← buffer.readUInt8 0
    match FC.ofCode? fc with
    | some fc => return decoder fc buffer
    | none =>
      -- the constructor throws for a code that is not known
      if fc ≤ 0x2B then
        return some (.exception (← ExceptionRequestBody.new fc 0x01))
      else return none

@[simp] theorem fromBuffer_nil : fromBuffer [] = none := rfl

/-- The first byte picks the decoder; without one there is no body. -/
theorem fromBuffer_cons (f : UInt8) (rest : Buffer) :
    fromBuffer (f :: rest) = (FC.ofCode? f.toNat).bind fun fc => decoder fc (f :: rest) := by
  have hread : readUInt8 (f :: rest) 0 = .ok f.toNat := rfl
  cases h : FC.ofCode? f.toNat with
  | some fc => simp [fromBuffer, hread, bind, Except.bind, pure, Except.pure, h]
  | none =>
    by_cases hle : f.toNat ≤ 0x2B <;>
      simp [fromBuffer, hread, bind, Except.bind, pure, Except.pure, h, hle,
        ExceptionRequestBody.new]

theorem fromBuffer_code (fc : FC) (rest : Buffer) :
    fromBuffer (UInt8.ofNat fc.code :: rest) = decoder fc (UInt8.ofNat fc.code :: rest) := by
  have hle := fc.code_le
  rw [fromBuffer_cons, toNat_ofNat_of_lt (by omega), FC.ofCode?_code, Option.bind_some]

theorem fc_of_decoder {fc : FC} {buffer : Buffer} {body : RequestBody}
    (h : decoder fc buffer = some body) : body.fc = fc := by
  cases fc <;> obtain ⟨r, -, rfl⟩ := Option.map_eq_some_iff.mp h <;> rfl

/-- The bodies that are decoded: their fields are 16-bit numbers, and the values of a multiple
write are as many as its quantity says. -/
inductive FromWire : RequestBody → Prop
  | readCoils {b : ReadCoilsRequestBody} {start count : Nat} (hs : b.start = start)
      (hc : b.count = count) : FromWire (.readCoils b)
  | readDiscreteInputs {b : ReadDiscreteInputsRequestBody} {start count : Nat}
      (hs : b.start = start) (hc : b.count = count) : FromWire (.readDiscreteInputs b)
  | readHoldingRegisters {b : ReadHoldingRegistersRequestBody} {start count : Nat}
      (hs : b.start = start) (hc : b.count = count) : FromWire (.readHoldingRegisters b)
  | readInputRegisters {b : ReadInputRegistersRequestBody} {start count : Nat}
      (hs : b.start = start) (hc : b.count = count) : FromWire (.readInputRegisters b)
  | writeSingleCoil {b : WriteSingleCoilRequestBody} {address : Nat} (ha : b.address = address)
      (hlt : address < 65536) : FromWire (.writeSingleCoil b)
  | writeSingleRegister {b : WriteSingleRegisterRequestBody} {address value : Nat}
      (ha : b.address = address) (hv : b.value = value) (hlt : address < 65536)
      (hlt' : value < 65536) : FromWire (.writeSingleRegister b)
  | writeMultipleCoils {address quantity : Nat} {values : Buffer} (hlt : address < 65536)
      (hlt' : quantity < 65536) (hlen : values.length < 256)
      (hle : quantity ≤ 8 * values.length) :
        FromWire (.writeMultipleCoils (.ofBuffer address values quantity))
  | writeMultipleRegisters {address : Nat} {values : Buffer} (hlt : address < 65536)
      (hle : values.length ≤ 246) (heven : values.length % 2 = 0) :
      FromWire (.writeMultipleRegisters (.ofBuffer address values))
  | readDeviceIdentification {b : ReadDeviceIdentificationRequestBody} :
      FromWire (.readDeviceIdentification b)

theorem exists_fields {α : Type} {fc : FC} {buffer : Buffer} {new : Nat × Nat → Except Thrown α}
    {b : α} (h : ((fields fc buffer).bind fun p => (new p).toOption) = some b) :
    ∃ p, p.1 < 65536 ∧ p.2 < 65536 ∧ new p = .ok b := by
  obtain ⟨p, hp, hb⟩ := Option.bind_eq_some_iff.mp h
  -- both fields are read as words
  have hlt : p.1 < 65536 ∧ p.2 < 65536 := by
    rcases buffer with _ | ⟨f, _ | ⟨a, _ | ⟨a', _ | ⟨v, _ | ⟨v', rest⟩⟩⟩⟩⟩
    case cons.cons.cons.cons.cons =>
      rw [fields] at hp
      split at hp
      · obtain rfl := Option.some.inj hp
        exact ⟨u16_lt a a', u16_lt v v'⟩
      · cases hp
    all_goals cases hp
  exact ⟨p, hlt.1, hlt.2, eq_ok_of_toOption hb⟩

theorem fromWire {buffer : Buffer} {body : RequestBody} (h : fromBuffer buffer = some body) :
    FromWire body := by
  rcases buffer with _ | ⟨f, rest⟩
  · cases h
  rw [fromBuffer_cons] at h
  obtain ⟨fc, -, h⟩ := Option.bind_eq_some_iff.mp h
  cases fc with
  | readCoil =>
    obtain ⟨b, hb, rfl⟩ := Option.map_eq_some_iff.mp h
    rw [ReadCoilsRequestBody.fromBuffer, ofFields_eq, fieldsFcFirst_eq] at hb
    obtain ⟨p, -, -, hnew⟩ := exists_fields hb
    exact .readCoils (ReadRequestBody.new_eq_ok hnew).1 (ReadRequestBody.new_eq_ok hnew).2
  | readDiscreteInput =>
    obtain ⟨b, hb, rfl⟩ := Option.map_eq_some_iff.mp h
    rw [ReadDiscreteInputsRequestBody.fromBuffer, ofFields_eq, fieldsFcFirst_eq] at hb
    obtain ⟨p, -, -, hnew⟩ := exists_fields hb
    exact .readDiscreteInputs (ReadRequestBody.new_eq_ok hnew).1
      (ReadRequestBody.new_eq_ok hnew).2
  | readHoldingRegisters =>
    obtain ⟨b, hb, rfl⟩ := Option.map_eq_some_iff.mp h
    rw [ReadHoldingRegistersRequestBody.fromBuffer, ofFields_eq, fieldsFcLast_eq] at hb
    obtain ⟨p, -, -, hnew⟩ := exists_fields hb
    exact .readHoldingRegisters (ReadRequestBody.new_eq_ok hnew).1
      (ReadRequestBody.new_eq_ok hnew).2
  | readInputRegisters =>
    obtain ⟨b, hb, rfl⟩ := Option.map_eq_some_iff.mp h
    rw [ReadInputRegistersRequestBody.fromBuffer, ofFields_eq, fieldsFcLast_eq] at hb
    obtain ⟨p, -, -, hnew⟩ := exists_fields hb
    exact .readInputRegisters (ReadRequestBody.new_eq_ok hnew).1
      (ReadRequestBody.new_eq_ok hnew).2
  | writeSingleCoil =>
    obtain ⟨b, hb, rfl⟩ := Option.map_eq_some_iff.mp h
    rw [WriteSingleCoilRequestBody.fromBuffer, ofFields_eq, fieldsFcLast_eq] at hb
    obtain ⟨p, hlt, -, hnew⟩ := exists_fields hb
    exact .writeSingleCoil (WriteSingleCoilRequestBody.new_eq_ok hnew).1 hlt
  | writeSingleHoldingRegister =>
    obtain ⟨b, hb, rfl⟩ := Option.map_eq_some_iff.mp h
    rw [WriteSingleRegisterRequestBody.fromBuffer, ofFields_eq, fieldsFcLast_eq] at hb
    obtain ⟨p, hlt, hlt', hnew⟩ := exists_fields hb
    exact .writeSingleRegister (WriteSingleRegisterRequestBody.new_eq_ok hnew).1
      (WriteSingleRegisterRequestBody.new_eq_ok hnew).2 hlt hlt'
  | writeMultipleCoils =>
    obtain ⟨b, hb, rfl⟩ := Option.map_eq_some_iff.mp h
    obtain ⟨address, quantity, values, hlt, hlt', hlen, hle, rfl⟩ :=
      WriteMultipleCoilsRequestBody.eq_ofBuffer hb
    exact .writeMultipleCoils hlt hlt' hlen hle
  | writeMultipleHoldingRegisters =>
    obtain ⟨b, hb, rfl⟩ := Option.map_eq_some_iff.mp h
    obtain ⟨address, values, hlt, hle, heven, rfl⟩ :=
      WriteMultipleRegistersRequestBody.eq_ofBuffer hb
    exact .writeMultipleRegisters hlt hle heven
  | readDeviceIdentification =>
    obtain ⟨b, hb, rfl⟩ := Option.map_eq_some_iff.mp h
    exact .readDeviceIdentification

/-- The byte count of what is decoded follows from its content. -/
theorem byteCount_eq {buffer : Buffer} {body : RequestBody}
    (h : fromBuffer buffer = some body) : body.byteCount = body.content.byteCount := by
  cases fromWire h with
  | @writeMultipleRegisters address values hlt hle heven =>
    show min ((values.length : Int) + 6) 0xF6 =
      min (2 * ((values.length / 2 : Nat) : Int) + 6) 0xF6
    omega
  | _ => rfl

/-- The byte count of what is decoded is positive. -/
theorem byteCount_pos {buffer : Buffer} {body : RequestBody}
    (h : fromBuffer buffer = some body) : 0 < body.byteCount := by
  cases fromWire h with
  | writeMultipleCoils =>
    show 0 < ceilDiv8 _ + 6
    unfold ceilDiv8
    omega
  | @writeMultipleRegisters address values hlt hle heven =>
    show 0 < min ((values.length : Int) + 6) 0xF6
    omega
  | _ => simp [RequestBody.byteCount]

/-- The fields of a five-byte body, with what the constructor asks of the second one. -/
def FiveBytes (ok : Nat → Prop) : Buffer → Prop
  | _ :: _ :: v :: v' :: _ => ok (u16 v v')
  | _ => False

/-- The byte strings a decoder makes a body of, by function code: the fields are there, the
quantity of a read is at most 2000, a coil write has a data bit for each coil, and a register
write has an even number of data bytes, at most 246. -/
def DecodableFields : FC → Buffer → Prop
  | .readCoil, fields => FiveBytes (· ≤ 0x7D0) fields
  | .readDiscreteInput, fields => FiveBytes (· ≤ 0x7D0) fields
  | .readHoldingRegisters, fields => FiveBytes (· ≤ 0x7D0) fields
  | .readInputRegisters, fields => FiveBytes (· ≤ 0x7D0) fields
  | .writeSingleCoil, fields => FiveBytes (fun _ => True) fields
  | .writeSingleHoldingRegister, fields => FiveBytes (fun _ => True) fields
  | .writeMultipleCoils, _ :: _ :: q :: q' :: n :: data =>
    u16 q q' ≤ 8 * (data.take n.toNat).length
  | .writeMultipleHoldingRegisters, _ :: _ :: _ :: _ :: n :: data =>
    (data.take n.toNat).length ≤ 246 ∧ (data.take n.toNat).length % 2 = 0
  | .readDeviceIdentification, _ :: _ :: _ :: _ => True
  | _, _ => False

/-- The byte strings the factory makes a body of: a known function code and its fields. -/
def Decodable : Buffer → Prop
  | [] => False
  | f :: rest => ∃ fc, FC.ofCode? f.toNat = some fc ∧ DecodableFields fc rest

/-- A constructor that takes any start address, behind the reader of the five bytes. -/
theorem fiveBytes_isSome_iff {α : Type} {fc : FC} {f : UInt8} (hf : f.toNat = fc.code)
    (rest : Buffer) {new : Nat × Nat → Except Thrown α} {ok : Nat → Prop}
    (hnew : ∀ a a' v v', (new (u16 a a', u16 v v')).toOption.isSome ↔ ok (u16 v v')) :
    ((fields fc (f :: rest)).bind fun p => (new p).toOption).isSome ↔ FiveBytes ok rest := by
  rcases rest with _ | ⟨a, _ | ⟨a', _ | ⟨v, _ | ⟨v', rest⟩⟩⟩⟩
  case cons.cons.cons.cons =>
    rw [fields, if_pos hf, Option.bind_some]
    exact hnew a a' v v'
  all_goals simp [fields, FiveBytes]

theorem readRequest_isSome_iff (a a' : UInt8) (count : Nat) :
    (ReadRequestBody.new (u16 a a') count).toOption.isSome ↔ count ≤ 0x7D0 := by
  have hs : ¬ (u16 a a' : Int) > 0xFFFF := Int.not_lt.mpr (isUInt16_u16 a a').2
  by_cases hc : (count : Int) > 0x7D0
  · rw [ReadRequestBody.new, dif_neg hs, dif_pos hc]
    simp [Except.toOption]
    omega
  · rw [ReadRequestBody.new, dif_neg hs, dif_neg hc]
    simp [Except.toOption]
    omega

theorem writeSingleCoil_isSome (a a' : UInt8) (value : Bool) :
    (WriteSingleCoilRequestBody.new (u16 a a') value).toOption.isSome := by
  have hs : ¬ (u16 a a' : Int) > 0xFFFF := Int.not_lt.mpr (isUInt16_u16 a a').2
  rw [WriteSingleCoilRequestBody.new, dif_neg hs]
  rfl

theorem writeSingleRegister_isSome (a a' v v' : UInt8) :
    (WriteSingleRegisterRequestBody.new (u16 a a') (u16 v v')).toOption.isSome := by
  have hs : ¬ (u16 a a' : Int) > 0xFFFF := Int.not_lt.mpr (isUInt16_u16 a a').2
  have hv : ¬ ((u16 v v' : Int) < 0 ∨ (u16 v v' : Int) > 0xFFFF) := by
    have := isUInt16_u16 v v'
    unfold IsUInt16 at this
    omega
  rw [WriteSingleRegisterRequestBody.new, dif_neg hs, dif_neg hv]
  rfl

theorem decoder_isSome_iff {fc : FC} {f : UInt8} (hf : f.toNat = fc.code) (rest : Buffer) :
    (decoder fc (f :: rest)).isSome ↔ DecodableFields fc rest := by
  cases fc with
  | readCoil =>
    rw [decoder, Option.isSome_map, ReadCoilsRequestBody.fromBuffer, ofFields_eq,
      fieldsFcFirst_eq, DecodableFields]
    exact fiveBytes_isSome_iff hf rest fun a a' v v' => readRequest_isSome_iff a a' _
  | readDiscreteInput =>
    rw [decoder, Option.isSome_map, ReadDiscreteInputsRequestBody.fromBuffer, ofFields_eq,
      fieldsFcFirst_eq, DecodableFields]
    exact fiveBytes_isSome_iff hf rest fun a a' v v' => readRequest_isSome_iff a a' _
  | readHoldingRegisters =>
    rw [decoder, Option.isSome_map, ReadHoldingRegistersRequestBody.fromBuffer, ofFields_eq,
      fieldsFcLast_eq, DecodableFields]
    exact fiveBytes_isSome_iff hf rest fun a a' v v' => readRequest_isSome_iff a a' _
  | readInputRegisters =>
    rw [decoder, Option.isSome_map, ReadInputRegistersRequestBody.fromBuffer, ofFields_eq,
      fieldsFcLast_eq, DecodableFields]
    exact fiveBytes_isSome_iff hf rest fun a a' v v' => readRequest_isSome_iff a a' _
  | writeSingleCoil =>
    rw [decoder, Option.isSome_map, WriteSingleCoilRequestBody.fromBuffer, ofFields_eq,
      fieldsFcLast_eq, DecodableFields]
    exact fiveBytes_isSome_iff hf rest fun a a' v v' =>
      iff_of_true (writeSingleCoil_isSome a a' _) trivial
  | writeSingleHoldingRegister =>
    rw [decoder, Option.isSome_map, WriteSingleRegisterRequestBody.fromBuffer, ofFields_eq,
      fieldsFcLast_eq, DecodableFields]
    exact fiveBytes_isSome_iff hf rest fun a a' v v' =>
      iff_of_true (writeSingleRegister_isSome a a' v v') trivial
  | writeMultipleCoils =>
    rw [decoder, Option.isSome_map]
    rcases rest with _ | ⟨a, _ | ⟨a', _ | ⟨q, _ | ⟨q', _ | ⟨n, data⟩⟩⟩⟩⟩
    case cons.cons.cons.cons.cons =>
      rw [WriteMultipleCoilsRequestBody.fromBuffer_cons, DecodableFields]
      simp [hf]
    all_goals
      rw [WriteMultipleCoilsRequestBody.fromBuffer_short (by simp)]
      simp [DecodableFields]
  | writeMultipleHoldingRegisters =>
    rw [decoder, Option.isSome_map]
    rcases rest with _ | ⟨a, _ | ⟨a', _ | ⟨q, _ | ⟨q', _ | ⟨n, data⟩⟩⟩⟩⟩
    case cons.cons.cons.cons.cons =>
      rw [WriteMultipleRegistersRequestBody.fromBuffer_cons, DecodableFields]
      simp [hf]
    all_goals
      rw [WriteMultipleRegistersRequestBody.fromBuffer_short (by simp)]
      simp [DecodableFields]
  | readDeviceIdentification =>
    rw [decoder, Option.isSome_map, ReadDeviceIdentificationRequestBody.fromBuffer_eq]
    rcases rest with _ | ⟨m, _ | ⟨r, _ | ⟨o, rest⟩⟩⟩ <;> simp [DecodableFields, hf]

/-- The factory makes a body of the decodable byte strings, and of no others. -/
theorem fromBuffer_isSome_iff (buffer : Buffer) :
    (fromBuffer buffer).isSome ↔ Decodable buffer := by
  rcases buffer with _ | ⟨f, rest⟩
  · simp [Decodable]
  · rw [fromBuffer_cons, Decodable]
    cases h : FC.ofCode? f.toNat with
    | none => simp
    | some fc =>
      have hf : f.toNat = fc.code := by
        have := FC.code_of_ofCode? h
        omega
      simp [decoder_isSome_iff hf]

end RequestFactory

end NodeModbus

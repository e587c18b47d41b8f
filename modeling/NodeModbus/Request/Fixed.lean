import NodeModbus.Codes

/-!
# Request bodies of a fixed length

The request bodies whose wire form has a fixed length: the four read requests
and the two single writes (function code and two 16-bit fields, five bytes),
the device identification request (four bytes) and the exception request (two
bytes). A body carries what its constructor checked, so a body that the
constructor refuses cannot be written down.

- `wordsPayload_eq`: the five-byte payload, and when writing it throws.
- `reencodes_words`, `reencodes_coil_iff`: the payload of two fields that were read.
- `fieldsFcFirst_eq`, `fieldsFcLast_eq`, `ofFields_eq`: the decoders as a function
  of the bytes in front; what follows the body is not looked at.
-/

namespace NodeModbus

open Buffer Words

/-! ## The five-byte layout -/

/-- The `createPayload` the five-byte bodies share: function code, then two 16-bit fields. -/
def wordsPayload (fc : FC) (first second : Int) : Except Thrown Buffer := do
  let payload ← Buffer.alloc 5
  let payload ← payload.writeUInt8 fc.code 0
  let payload ← payload.writeUInt16BE first 1
  payload.writeUInt16BE second 3

theorem wordsPayload_eq (fc : FC) (first second : Int) :
    wordsPayload fc first second =
      if IsUInt16 first ∧ IsUInt16 second then
        .ok (UInt8.ofNat fc.code :: (be16 first.toNat ++ be16 second.toNat))
      else .error .rangeError := by
  have halloc : Buffer.alloc 5 = .ok [0, 0, 0, 0, 0] := rfl
  have hfc : IsUInt8 fc.code := isUInt8_natCast (Nat.lt_of_le_of_lt fc.code_le (by decide))
  by_cases h₁ : IsUInt16 first <;> by_cases h₂ : IsUInt16 second <;>
    simp [wordsPayload, halloc, bind, Except.bind, writeUInt8, writeUInt16BE, setByte,
      hfc, h₁, h₂, be16]

/-- Two words are written without complaint, and nothing else. -/
theorem exists_wordsPayload_iff (fc : FC) (first second : Int) :
    (∃ p, wordsPayload fc first second = .ok p) ↔ IsUInt16 first ∧ IsUInt16 second := by
  rw [wordsPayload_eq]
  split
  · rename_i h
    exact iff_of_true ⟨_, rfl⟩ h
  · rename_i h
    exact iff_of_false (fun ⟨_, hp⟩ => nomatch hp) h

theorem wordsPayload_natCast (fc : FC) {a v : Nat} (ha : a < 65536) (hv : v < 65536) :
    wordsPayload fc a v = .ok (UInt8.ofNat fc.code :: (be16 a ++ be16 v)) := by
  rw [wordsPayload_eq, if_pos ⟨isUInt16_natCast ha, isUInt16_natCast hv⟩]
  rfl

/-- Function code and fields, read by the decoders that look at the function code before
they read the fields. -/
def fieldsFcFirst (fc : FC) (buffer : Buffer) : Except Thrown (Option (Nat × Nat)) := do
  let code ← buffer.readUInt8 0
  if code ≠ fc.code then
    return none
  let first ← buffer.readUInt16BE 1
  let second ← buffer.readUInt16BE 3
  return some (first, second)

/-- Function code and fields, read by the decoders that look at the function code last. -/
def fieldsFcLast (fc : FC) (buffer : Buffer) : Except Thrown (Option (Nat × Nat)) := do
  let code ← buffer.readUInt8 0
  let first ← buffer.readUInt16BE 1
  let second ← buffer.readUInt16BE 3
  if code ≠ fc.code then
    return none
  return some (first, second)

/-- The fields in front of a buffer, when five bytes are there and the first is `fc`. -/
def fields (fc : FC) : Buffer → Option (Nat × Nat)
  | f :: a :: a' :: v :: v' :: _ =>
    if f.toNat = fc.code then some (u16 a a', u16 v v') else none
  | _ => none

theorem fieldsFcFirst_eq (fc : FC) (b : Buffer) :
    tryOrNull (fieldsFcFirst fc b) = fields fc b := by
  rcases b with _ | ⟨f, _ | ⟨a, _ | ⟨a', _ | ⟨v, _ | ⟨v', r⟩⟩⟩⟩⟩ <;>
    simp [fieldsFcFirst, fields, readUInt8, readUInt16BE, byteAt, bind, Except.bind, pure,
      Except.pure, u16]
  all_goals split <;> rfl

theorem fieldsFcLast_eq (fc : FC) (b : Buffer) :
    tryOrNull (fieldsFcLast fc b) = fields fc b := by
  rcases b with _ | ⟨f, _ | ⟨a, _ | ⟨a', _ | ⟨v, _ | ⟨v', r⟩⟩⟩⟩⟩ <;>
    simp [fieldsFcLast, fields, readUInt8, readUInt16BE, byteAt, bind, Except.bind, pure,
      Except.pure, u16]
  split <;> rfl

/-- A payload is the front of a buffer, as long as the byte count. -/
def Reencodes (buffer : Buffer) (byteCount : Int) (payload : Except Thrown Buffer) : Prop :=
  byteCount ≤ buffer.length ∧ payload = .ok (buffer.take byteCount.toNat)

theorem isUInt16_coilValue (value : Bool) : IsUInt16 (if value then 0xFF00 else 0x0000) := by
  cases value <;> decide

theorem ofNat_code {fc : FC} {f : UInt8} (hf : f.toNat = fc.code) :
    UInt8.ofNat fc.code = f := by
  rw [← hf, UInt8.ofNat_toNat]

/-- The bytes in front of a buffer that two fields were read from. -/
theorem fields_eq_some {fc : FC} {f : UInt8} {rest : Buffer} {p : Nat × Nat}
    (h : fields fc (f :: rest) = some p) :
    ∃ a a' v v' tail, rest = a :: a' :: v :: v' :: tail ∧ p = (u16 a a', u16 v v') := by
  rcases rest with _ | ⟨a, _ | ⟨a', _ | ⟨v, _ | ⟨v', tail⟩⟩⟩⟩
  case cons.cons.cons.cons =>
    rw [fields] at h
    split at h
    · exact ⟨a, a', v, v', tail, rfl, (Option.some.inj h).symm⟩
    · cases h
  all_goals cases h

/-- The bytes two words were read from. -/
theorem wordsPayload_u16 {fc : FC} {f : UInt8} (hf : f.toNat = fc.code) (a a' v v' : UInt8) :
    wordsPayload fc (u16 a a') (u16 v v') = .ok [f, a, a', v, v'] := by
  rw [wordsPayload_natCast fc (u16_lt a a') (u16_lt v v'), ofNat_code hf, be16_u16, be16_u16]
  rfl

theorem reencodes_words {fc : FC} {f : UInt8} (hf : f.toNat = fc.code) (a a' v v' : UInt8)
    (tail : Buffer) :
    Reencodes (f :: a :: a' :: v :: v' :: tail) 5 (wordsPayload fc (u16 a a') (u16 v v')) := by
  constructor
  · simp only [List.length_cons]
    omega
  · rw [wordsPayload_u16 hf]
    rfl

/-- A coil value is kept as "on" or "off", so it comes back as one of the two values for
these. -/
theorem reencodes_coil_iff {fc : FC} {f : UInt8} (hf : f.toNat = fc.code) (a a' v v' : UInt8)
    (tail : Buffer) :
    Reencodes (f :: a :: a' :: v :: v' :: tail) 5
        (wordsPayload fc (u16 a a') (if decide (u16 v v' = 0xFF00) then 0xFF00 else 0x0000)) ↔
      u16 v v' = 0xFF00 ∨ u16 v v' = 0x0000 := by
  obtain ⟨value, hvalue⟩ : ∃ value : Nat, value = if u16 v v' =
    0xFF00 then 0xFF00 else 0x0000 :=
    ⟨_, rfl⟩
  have hlt : value < 65536 := by
    rw [hvalue]
    split <;> omega
  have hcast : (if decide (u16 v v' = 0xFF00) then (0xFF00 : Int) else 0x0000) = value := by
    by_cases hon : u16 v v' = 0xFF00 <;> simp [hvalue, hon]
  rw [hcast]
  constructor
  · rintro ⟨-, hbytes⟩
    have hbytes' : wordsPayload fc (u16 a a') value = .ok [f, a, a', v, v'] := hbytes
    rw [wordsPayload_natCast _ (u16_lt a a') hlt, be16_u16] at hbytes'
    -- the last two bytes of both sides
    have hlast : be16 value = be16 (u16 v v') := by
      rw [be16_u16]
      exact congrArg (List.drop 3) (Except.ok.inj hbytes')
    have hback := be16_injective hlt (u16_lt v v') hlast
    by_cases hon : u16 v v' = 0xFF00
    · exact .inl hon
    · rw [hvalue, if_neg hon] at hback
      exact .inr hback.symm
  · intro hknown
    have hback : value = u16 v v' := by
      rw [hvalue]
      split <;> omega
    rw [hback]
    exact reencodes_words hf a a' v v' tail

/-- A decoder: the constructor on the fields that were read, `null` when anything throws. -/
def ofFields {α β : Type} (read : Except Thrown (Option β)) (new : β → Except Thrown α) :
    Option α :=
  tryOrNull do
    match ← read with
    | none => return none
    | some p => return some (← new p)

theorem ofFields_eq {α β : Type} (read : Except Thrown (Option β)) (new : β → Except Thrown α) :
    ofFields read new = (tryOrNull read).bind fun p => (new p).toOption := by
  rcases read with e | _ | p
  · rfl
  · rfl
  · cases h : new p <;>
      simp [ofFields, bind, Except.bind, pure, Except.pure, h, Except.toOption]

/-! ## Read requests (function codes 1 to 4) -/

/-- The body of a read request, with the limits its constructor checks. The four classes
differ in their function code only. -/
structure ReadRequestBody where
  start : Int
  count : Int
  start_le : start ≤ 0xFFFF
  count_le : count ≤ 0x7D0
  deriving DecidableEq

/-- The constructor of the read request bodies. -/
def ReadRequestBody.new (start count : Int) : Except Thrown ReadRequestBody :=
  if hs : start > 0xFFFF then .error (.error "InvalidStartAddress")
  else if hc : count > 0x7D0 then .error (.error "InvalidQuantity")
  else .ok ⟨start, count, by omega, by omega⟩

theorem zero_le_address : (0 : Int) ≤ 0xFFFF := by decide

theorem eight_le_address : (8 : Int) ≤ 0xFFFF := by decide

theorem one_le_count : (1 : Int) ≤ 0x7D0 := by decide

/-- Function code 1. -/
abbrev ReadCoilsRequestBody := ReadRequestBody

/-- Function code 2. -/
abbrev ReadDiscreteInputsRequestBody := ReadRequestBody

/-- Function code 3. -/
abbrev ReadHoldingRegistersRequestBody := ReadRequestBody

/-- Function code 4. -/
abbrev ReadInputRegistersRequestBody := ReadRequestBody

/-- The fields are read behind the check of the function code. -/
def ReadCoilsRequestBody.fromBuffer (buffer : Buffer) : Option ReadCoilsRequestBody :=
  ofFields (fieldsFcFirst .readCoil buffer) fun p => ReadRequestBody.new p.1 p.2

/-- The fields are read behind the check of the function code. -/
def ReadDiscreteInputsRequestBody.fromBuffer (buffer : Buffer) :
    Option ReadDiscreteInputsRequestBody :=
  ofFields (fieldsFcFirst .readDiscreteInput buffer) fun p => ReadRequestBody.new p.1 p.2

/-- The fields are read in front of the check of the function code. -/
def ReadHoldingRegistersRequestBody.fromBuffer (buffer : Buffer) :
    Option ReadHoldingRegistersRequestBody :=
  ofFields (fieldsFcLast .readHoldingRegisters buffer) fun p => ReadRequestBody.new p.1 p.2

/-- The fields are read in front of the check of the function code. -/
def ReadInputRegistersRequestBody.fromBuffer (buffer : Buffer) :
    Option ReadInputRegistersRequestBody :=
  ofFields (fieldsFcLast .readInputRegisters buffer) fun p => ReadRequestBody.new p.1 p.2

/-- Function code, start and count. -/
def ReadCoilsRequestBody.createPayload (b : ReadCoilsRequestBody) : Except Thrown Buffer :=
  wordsPayload .readCoil b.start b.count

/-- Function code, start and count. -/
def ReadDiscreteInputsRequestBody.createPayload (b : ReadDiscreteInputsRequestBody) :
    Except Thrown Buffer :=
  wordsPayload .readDiscreteInput b.start b.count

/-- Function code, start and count. -/
def ReadHoldingRegistersRequestBody.createPayload (b : ReadHoldingRegistersRequestBody) :
    Except Thrown Buffer :=
  wordsPayload .readHoldingRegisters b.start b.count

/-- Function code, start and count. -/
def ReadInputRegistersRequestBody.createPayload (b : ReadInputRegistersRequestBody) :
    Except Thrown Buffer :=
  wordsPayload .readInputRegisters b.start b.count

theorem ReadRequestBody.new_eq_ok {start count : Int} {b : ReadRequestBody}
    (h : ReadRequestBody.new start count = .ok b) : b.start = start ∧ b.count = count := by
  unfold ReadRequestBody.new at h
  split_ifs at h
  cases h
  exact ⟨rfl, rfl⟩

/-- The constructor gives a body back from its own fields. -/
@[simp] theorem ReadRequestBody.new_self (b : ReadRequestBody) :
    ReadRequestBody.new b.start b.count = .ok b := by
  have hs : ¬ b.start > 0xFFFF := by have := b.start_le; omega
  have hc : ¬ b.count > 0x7D0 := by have := b.count_le; omega
  rw [ReadRequestBody.new, dif_neg hs, dif_neg hc]

/-! ## Single writes (function codes 5 and 6) -/

/-- The body of a write single coil request: the value is kept as a truth value. -/
structure WriteSingleCoilRequestBody where
  address : Int
  _value : Bool
  address_le : address ≤ 0xFFFF
  deriving DecidableEq

namespace WriteSingleCoilRequestBody

/-- The constructor checks the address only. -/
def new (address : Int) (value : Bool) : Except Thrown WriteSingleCoilRequestBody :=
  if ha : address > 0xFFFF then .error (.error "InvalidStartAddress")
  else .ok ⟨address, value, by omega⟩

/-- The getter `value`. -/
def value (b : WriteSingleCoilRequestBody) : Int := if b._value then 0xFF00 else 0x0000

/-- Every wire value but `0xFF00` is read as "off". -/
def fromBuffer (buffer : Buffer) : Option WriteSingleCoilRequestBody :=
  ofFields (fieldsFcLast .writeSingleCoil buffer) fun p => new p.1 (p.2 = 0xFF00)

/-- A coil is switched on with `0xFF00`. -/
def createPayload (b : WriteSingleCoilRequestBody) : Except Thrown Buffer :=
  wordsPayload .writeSingleCoil b.address (if b._value then 0xFF00 else 0x0000)

@[simp] theorem new_self (b : WriteSingleCoilRequestBody) : new b.address b._value = .ok b := by
  have ha : ¬ b.address > 0xFFFF := by have := b.address_le; omega
  rw [new, dif_neg ha]

theorem new_eq_ok {address : Int} {value : Bool} {b : WriteSingleCoilRequestBody}
    (h : new address value = .ok b) : b.address = address ∧ b._value = value := by
  unfold new at h
  split_ifs at h
  cases h
  exact ⟨rfl, rfl⟩

end WriteSingleCoilRequestBody

/-- The body of a write single register request. -/
structure WriteSingleRegisterRequestBody where
  address : Int
  value : Int
  address_le : address ≤ 0xFFFF
  value_range : IsUInt16 value
  deriving DecidableEq

namespace WriteSingleRegisterRequestBody

/-- The constructor checks the address and the value. -/
def new (address value : Int) : Except Thrown WriteSingleRegisterRequestBody :=
  if ha : address > 0xFFFF then .error (.error "InvalidStartAddress")
  else if hv : value < 0 ∨ value > 0xFFFF then .error (.error "InvalidValue")
  else .ok ⟨address, value, by omega, by unfold IsUInt16; omega⟩

/-- Address and value, with what the constructor checks. -/
def fromBuffer (buffer : Buffer) : Option WriteSingleRegisterRequestBody :=
  ofFields (fieldsFcLast .writeSingleHoldingRegister buffer) fun p => new p.1 p.2

/-- Function code, address and value. -/
def createPayload (b : WriteSingleRegisterRequestBody) : Except Thrown Buffer :=
  wordsPayload .writeSingleHoldingRegister b.address b.value

@[simp] theorem new_self (b : WriteSingleRegisterRequestBody) :
    new b.address b.value = .ok b := by
  have ha : ¬ b.address > 0xFFFF := by have := b.address_le; omega
  have hv : ¬ (b.value < 0 ∨ b.value > 0xFFFF) := by
    have := b.value_range
    unfold IsUInt16 at this
    omega
  rw [new, dif_neg ha, dif_neg hv]

theorem new_eq_ok {address value : Int} {b : WriteSingleRegisterRequestBody}
    (h : new address value = .ok b) : b.address = address ∧ b.value = value := by
  unfold new at h
  split_ifs at h
  cases h
  exact ⟨rfl, rfl⟩

end WriteSingleRegisterRequestBody

/-! ## Device identification (function code 43) -/

/-- `READ_DEVICE_ID_MEI_TYPE`. -/
def READ_DEVICE_ID_MEI_TYPE : Int := 0x0E

/-- `isReadDeviceIdentificationCode(x)`. -/
def isReadDeviceIdentificationCode (x : Int) : Bool :=
  x = 0x01 ∨ x = 0x02 ∨ x = 0x03 ∨ x = 0x04

/-- The body of a device identification request, with the byte ranges its constructor checks. -/
structure ReadDeviceIdentificationRequestBody where
  meiType : Int
  readDeviceIdCode : Int
  objectId : Int
  meiType_range : IsUInt8 meiType
  readDeviceIdCode_range : IsUInt8 readDeviceIdCode
  objectId_range : IsUInt8 objectId
  deriving DecidableEq

namespace ReadDeviceIdentificationRequestBody

/-- The constructor checks that the fields are bytes. Whether the code is one that the
specification knows it checks when it is asked to. -/
def new (readDeviceIdCode objectId meiType : Int) (validateReadDeviceIdCode : Bool) :
    Except Thrown ReadDeviceIdentificationRequestBody :=
  if hm : meiType > 0xFF ∨ meiType < 0x00 then .error (.error "InvalidMeiType")
  else if ho : objectId > 0xFF ∨ objectId < 0x00 then .error (.error "InvalidObjectId")
  else if hr : readDeviceIdCode > 0xFF ∨ readDeviceIdCode < 0x00 then
    .error (.error "InvalidReadDeviceIdCode")
  else if validateReadDeviceIdCode && !isReadDeviceIdentificationCode readDeviceIdCode then
    .error (.error "InvalidReadDeviceIdCode")
  else .ok ⟨meiType, readDeviceIdCode, objectId, by unfold IsUInt8; omega,
    by unfold IsUInt8; omega, by unfold IsUInt8; omega⟩

/-- The four bytes are taken as they come. -/
def fromBuffer (buffer : Buffer) : Option ReadDeviceIdentificationRequestBody :=
  tryOrNull do
    let fc ← buffer.readUInt8 0
    if fc ≠ FC.readDeviceIdentification.code then
      return none
    let meiType ← buffer.readUInt8 1
    let readDeviceIdCode ← buffer.readUInt8 2
    let objectId ← buffer.readUInt8 3
    -- a code out of range is left to the server to refuse
    return some (← new readDeviceIdCode objectId meiType false)

/-- Function code, MEI type, device id code and object id. -/
def createPayload (b : ReadDeviceIdentificationRequestBody) : Except Thrown Buffer := do
  let payload ← Buffer.alloc 4
  let payload ← payload.writeUInt8 FC.readDeviceIdentification.code 0
  let payload ← payload.writeUInt8 b.meiType 1
  let payload ← payload.writeUInt8 b.readDeviceIdCode 2
  payload.writeUInt8 b.objectId 3

/-- Every byte is accepted when the code is not validated. -/
theorem new_toNat (m r o : UInt8) :
    new r.toNat o.toNat m.toNat false =
      .ok ⟨m.toNat, r.toNat, o.toNat, isUInt8_toNat m, isUInt8_toNat r, isUInt8_toNat o⟩ := by
  have hm := m.toNat_lt
  have hr := r.toNat_lt
  have ho := o.toNat_lt
  rw [new, dif_neg (by omega), dif_neg (by omega), dif_neg (by omega), if_neg (by simp)]

theorem fromBuffer_eq (buffer : Buffer) :
    fromBuffer buffer = match buffer with
      | f :: m :: r :: o :: _ =>
        if f.toNat = FC.readDeviceIdentification.code then
          some ⟨m.toNat, r.toNat, o.toNat, isUInt8_toNat m, isUInt8_toNat r, isUInt8_toNat o⟩
        else none
      | _ => none := by
  rcases buffer with _ | ⟨f, _ | ⟨m, _ | ⟨r, _ | ⟨o, rest⟩⟩⟩⟩ <;>
    simp [fromBuffer, readUInt8, byteAt, bind, Except.bind, pure, Except.pure, new_toNat]
  all_goals split <;> rfl

theorem createPayload_eq (b : ReadDeviceIdentificationRequestBody) :
    b.createPayload = .ok [UInt8.ofNat 43, UInt8.ofNat b.meiType.toNat,
      UInt8.ofNat b.readDeviceIdCode.toNat, UInt8.ofNat b.objectId.toNat] := by
  have halloc : Buffer.alloc 4 = .ok [0, 0, 0, 0] := rfl
  have hfc : IsUInt8 43 := by decide
  simp [createPayload, halloc, bind, Except.bind, writeUInt8, setByte, FC.code, hfc,
    b.meiType_range, b.readDeviceIdCode_range, b.objectId_range]

end ReadDeviceIdentificationRequestBody

/-! ## Exception requests -/

/-- The body `RequestFactory` makes for a function code it does not know. -/
structure ExceptionRequestBody where
  fc : FC
  code : Int
  deriving DecidableEq

namespace ExceptionRequestBody

/-- The constructor takes known function codes only. -/
def new (fc code : Int) : Except Thrown ExceptionRequestBody :=
  match FC.ofCode? fc with
  | some fc => .ok ⟨fc, code⟩
  | none => .error (.error "InvalidFunctionCode")

/-- The function code goes over the line without the bit of an exception. -/
def createPayload (b : ExceptionRequestBody) : Except Thrown Buffer := do
  let payload ← Buffer.alloc 2
  let payload ← payload.writeUInt8 b.fc.code 0
  payload.writeUInt8 b.code 1

end ExceptionRequestBody

end NodeModbus

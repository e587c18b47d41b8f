import Mathlib.Algebra.Ring.Int.Defs
import NodeModbus.Request.Factory

/-!
# Write responses, device identification and exceptions

The other bodies of responses: the echoes of the four writes (five bytes), the
device identification with its list of objects, and the exception, which for
function code 43 has two layouts.

- `ReadDeviceIdentificationResponseBody.fromBuffer_cons`, `createPayload_eq`: the
  decoder and the encoder in closed form, over the list of objects.
- `parseObjects_append`, `parseObjects_take`: a list of objects read back whole, and
  cut short.
- `ExceptionResponseBody.fromBuffer_cons`: a buffer of two bytes is the short layout.
-/

namespace NodeModbus

open Buffer Words

/-! ## Write echoes (function codes 5, 6, 15 and 16) -/

/-- The value is kept as the wire value `0xFF00` or `0x0000`. -/
structure WriteSingleCoilResponseBody where
  _address : Int
  _value : Bool
  deriving DecidableEq

/-- The echo of a register that was written. -/
structure WriteSingleRegisterResponseBody where
  _address : Int
  _value : Int
  deriving DecidableEq

/-- The echo of a write of several coils: where they start, and how many they are. -/
structure WriteMultipleCoilsResponseBody where
  _start : Int
  _quantity : Int
  deriving DecidableEq

/-- The echo of a write of several registers: where they start, and how many they are. -/
structure WriteMultipleRegistersResponseBody where
  _start : Int
  _quantity : Int
  deriving DecidableEq

namespace WriteSingleCoilResponseBody

/-- The address and the value of the request. -/
def fromRequest (requestBody : WriteSingleCoilRequestBody) : WriteSingleCoilResponseBody :=
  { _address := requestBody.address, _value := requestBody.value = 0xFF00 }

/-- Every wire value but `0xFF00` is read as "off". -/
def fromBuffer (buffer : Buffer) : Except Thrown (Option WriteSingleCoilResponseBody) := do
  let p ← fieldsFcLast .writeSingleCoil buffer
  return p.map fun p => { _address := p.1, _value := p.2 = 0xFF00 }

/-- Function code, address and value. -/
def createPayload (b : WriteSingleCoilResponseBody) : Except Thrown Buffer :=
  wordsPayload .writeSingleCoil b._address (if b._value then 0xFF00 else 0x0000)

end WriteSingleCoilResponseBody

namespace WriteSingleRegisterResponseBody

/-- The address and the value of the request. -/
def fromRequest (requestBody : WriteSingleRegisterRequestBody) :
    WriteSingleRegisterResponseBody :=
  { _address := requestBody.address, _value := requestBody.value }

/-- The two fields are taken as they come. -/
def fromBuffer (buffer : Buffer) : Except Thrown (Option WriteSingleRegisterResponseBody) := do
  let p ← fieldsFcLast .writeSingleHoldingRegister buffer
  return p.map fun p => { _address := p.1, _value := p.2 }

/-- Function code, address and value. -/
def createPayload (b : WriteSingleRegisterResponseBody) : Except Thrown Buffer :=
  wordsPayload .writeSingleHoldingRegister b._address b._value

end WriteSingleRegisterResponseBody

namespace WriteMultipleCoilsResponseBody

/-- The address and the quantity of the request. -/
def fromRequest (requestBody : WriteMultipleCoilsRequestBody) :
    WriteMultipleCoilsResponseBody :=
  { _start := requestBody.address, _quantity := requestBody.quantity }

/-- The two fields are taken as they come. -/
def fromBuffer (buffer : Buffer) : Except Thrown (Option WriteMultipleCoilsResponseBody) := do
  let p ← fieldsFcLast .writeMultipleCoils buffer
  return p.map fun p => { _start := p.1, _quantity := p.2 }

/-- Function code, start and quantity. -/
def createPayload (b : WriteMultipleCoilsResponseBody) : Except Thrown Buffer :=
  wordsPayload .writeMultipleCoils b._start b._quantity

end WriteMultipleCoilsResponseBody

namespace WriteMultipleRegistersResponseBody

/-- The address and the quantity of the request. -/
def fromRequest (requestBody : WriteMultipleRegistersRequestBody) :
    WriteMultipleRegistersResponseBody :=
  { _start := requestBody.address, _quantity := requestBody.quantity }

/-- The two fields are taken as they come. -/
def fromBuffer (buffer : Buffer) :
    Except Thrown (Option WriteMultipleRegistersResponseBody) := do
  let p ← fieldsFcLast .writeMultipleHoldingRegisters buffer
  return p.map fun p => { _start := p.1, _quantity := p.2 }

/-- Function code, start and quantity. -/
def createPayload (b : WriteMultipleRegistersResponseBody) : Except Thrown Buffer :=
  wordsPayload .writeMultipleHoldingRegisters b._start b._quantity

end WriteMultipleRegistersResponseBody

/-- The decoders of the echoes are a function of the two fields. -/
theorem tryOrNull_map_fields {α : Type} (fc : FC) (buffer : Buffer) (f : Nat × Nat → α) :
    tryOrNull (do
      let p ← fieldsFcLast fc buffer
      return p.map f) = (fields fc buffer).map f := by
  rw [← fieldsFcLast_eq]
  cases fieldsFcLast fc buffer <;> rfl

/-! ## Device identification (function code 43) -/

/-- `IReadDeviceIdentificationObject`, with the ranges the constructor of the body checks. -/
@[ext] structure DeviceIdentificationObject where
  id : Int
  value : Buffer
  id_range : IsUInt8 id
  length_le : value.length ≤ 0xFF

instance : DecidableEq DeviceIdentificationObject := fun a b =>
  decidable_of_iff (a.id = b.id ∧ a.value = b.value) DeviceIdentificationObject.ext_iff.symm

/-- The body of a response that identifies a device, with the byte ranges its constructor
checks. -/
@[ext] structure ReadDeviceIdentificationResponseBody where
  meiType : Int
  readDeviceIdCode : Int
  conformityLevel : Int
  moreFollows : Int
  nextObjectId : Int
  objects : List DeviceIdentificationObject
  meiType_range : IsUInt8 meiType
  readDeviceIdCode_range : IsUInt8 readDeviceIdCode
  conformityLevel_range : IsUInt8 conformityLevel
  moreFollows_range : IsUInt8 moreFollows
  nextObjectId_range : IsUInt8 nextObjectId

instance : DecidableEq ReadDeviceIdentificationResponseBody := fun a b =>
  decidable_of_iff
    (a.meiType = b.meiType ∧ a.readDeviceIdCode = b.readDeviceIdCode ∧
      a.conformityLevel = b.conformityLevel ∧ a.moreFollows = b.moreFollows ∧
      a.nextObjectId = b.nextObjectId ∧ a.objects = b.objects)
    ReadDeviceIdentificationResponseBody.ext_iff.symm

namespace ReadDeviceIdentificationResponseBody

/-- The check of the constructor on one object. -/
def checkObject (id : Int) (value : Buffer) : Except Thrown DeviceIdentificationObject :=
  if hi : id > 0xFF ∨ id < 0x00 then .error (.error "InvalidObjectId")
  else if hv : value.length > 0xFF then .error (.error "InvalidObjectValueLength")
  else .ok ⟨id, value, by unfold IsUInt8; omega, by omega⟩

/-- The constructor checks that the fields are bytes, and then every object. -/
def new (readDeviceIdCode conformityLevel moreFollows nextObjectId : Int)
    (objects : List (Int × Buffer)) (meiType : Int) :
    Except Thrown ReadDeviceIdentificationResponseBody :=
  if hm : meiType > 0xFF ∨ meiType < 0x00 then .error (.error "InvalidMeiType")
  else if hr : readDeviceIdCode > 0xFF ∨ readDeviceIdCode < 0x00 then
    .error (.error "InvalidReadDeviceIdCode")
  else if hc : conformityLevel > 0xFF ∨ conformityLevel < 0x00 then
    .error (.error "InvalidConformityLevel")
  else if hf : moreFollows > 0xFF ∨ moreFollows < 0x00 then .error (.error "InvalidMoreFollows")
  else if hn : nextObjectId > 0xFF ∨
    nextObjectId < 0x00 then .error (.error "InvalidNextObjectId")
  else do
    let objects ← objects.mapM fun o => checkObject o.1 o.2
    return ⟨meiType, readDeviceIdCode, conformityLevel, moreFollows, nextObjectId, objects,
      by unfold IsUInt8; omega, by unfold IsUInt8; omega, by unfold IsUInt8; omega,
      by unfold IsUInt8; omega, by unfold IsUInt8; omega⟩

/-- The getter `byteCount`. -/
def byteCount (b : ReadDeviceIdentificationResponseBody) : Int :=
  7 + (b.objects.map fun object => (2 + object.value.length : Int)).sum

/-- The loop of the decoder: the objects left to read, and the offset of the next one. -/
def readObjects (buffer : Buffer) : Nat → Nat → Except Thrown (Option (List (Int × Buffer)))
  | 0, _ => return some []
  | left + 1, offset =>
    if offset + 2 > buffer.length then return none
    else do
      let id ← buffer.readUInt8 offset
      let length ← buffer.readUInt8 (offset + 1)
      let objectEnd := offset + 2 + length
      if objectEnd > buffer.length then
        return none
      let value := buffer.subarray (offset + 2) objectEnd
      match ← readObjects buffer left objectEnd with
      | none => return none
      | some objects => return some ((id, value) :: objects)

/-- Six fields, and as many objects as the seventh says. What stands behind them is left. -/
def fromBuffer (buffer : Buffer) : Option ReadDeviceIdentificationResponseBody :=
  tryOrNull do
    let fc ← buffer.readUInt8 0
    if fc ≠ FC.readDeviceIdentification.code then
      return none
    let meiType ← buffer.readUInt8 1
    let readDeviceIdCode ← buffer.readUInt8 2
    let conformityLevel ← buffer.readUInt8 3
    let moreFollows ← buffer.readUInt8 4
    let nextObjectId ← buffer.readUInt8 5
    let numberOfObjects ← buffer.readUInt8 6
    match ← readObjects buffer numberOfObjects 7 with
    | none => return none
    | some objects =>
      return some
        (← new readDeviceIdCode conformityLevel moreFollows nextObjectId objects meiType)

/-- The loop of the encoder: the objects left to write, and the offset of the next one. -/
def writeObjects : List DeviceIdentificationObject → Nat → Buffer → Except Thrown Buffer
  | [], _, payload => .ok payload
  | object :: objects, offset, payload => do
    let payload ← payload.writeUInt8 object.id offset
    let payload ← payload.writeUInt8 object.value.length (offset + 1)
    writeObjects objects (offset + 2 + object.value.length)
      (Buffer.copy object.value payload (offset + 2))

/-- The number of objects is written as a byte, so that more than 255 of them throw. -/
def createPayload (b : ReadDeviceIdentificationResponseBody) : Except Thrown Buffer := do
  let payload ← Buffer.alloc b.byteCount
  let payload ← payload.writeUInt8 FC.readDeviceIdentification.code 0
  let payload ← payload.writeUInt8 b.meiType 1
  let payload ← payload.writeUInt8 b.readDeviceIdCode 2
  let payload ← payload.writeUInt8 b.conformityLevel 3
  let payload ← payload.writeUInt8 b.moreFollows 4
  let payload ← payload.writeUInt8 b.nextObjectId 5
  let payload ← payload.writeUInt8 b.objects.length 6
  writeObjects b.objects 7 payload

/-! ### The list of objects -/

/-- The bytes of a list of objects. -/
def objectsBytes (objects : List DeviceIdentificationObject) : Buffer :=
  objects.flatMap fun object =>
    UInt8.ofNat object.id.toNat :: UInt8.ofNat object.value.length :: object.value

theorem objectsBytes_cons (object : DeviceIdentificationObject)
    (objects : List DeviceIdentificationObject) :
    objectsBytes (object :: objects) = UInt8.ofNat object.id.toNat ::
      UInt8.ofNat object.value.length :: (object.value ++ objectsBytes objects) := rfl

/-- So many objects in front of a buffer, when all their bytes are there. -/
def parseObjects : Nat → Buffer → Option (List DeviceIdentificationObject)
  | 0, _ => some []
  | left + 1, id :: n :: rest =>
    if n.toNat ≤ rest.length then
      (parseObjects left (rest.drop n.toNat)).map
        (⟨id.toNat, rest.take n.toNat, isUInt8_toNat id, by
          have := n.toNat_lt
          rw [List.length_take]
          omega⟩ :: ·)
    else none
  | _ + 1, _ => none

/-- The loop of the decoder parses the objects behind what it has read. -/
theorem readObjects_append (left : Nat) (p r : Buffer) :
    readObjects (p ++ r) left p.length =
      .ok ((parseObjects left r).map (List.map fun o => (o.id, o.value))) := by
  induction left generalizing p r with
  | zero => rfl
  | succ left ih =>
    rw [readObjects]
    rcases r with _ | ⟨id, _ | ⟨n, r⟩⟩
    · rw [if_pos (by simp)]
      rfl
    · rw [if_pos (by simp)]
      rfl
    · have hroom : ¬ p.length + 2 > (p ++ id :: n :: r).length := by simp
      have hn : readUInt8 (p ++ id :: n :: r) ((p.length : Int) + 1) = .ok n.toNat := by
        have h := readUInt8_append (p ++ [id]) n r
        rw [List.append_assoc, List.length_append] at h
        exact h
      have hvalue : subarray (p ++ id :: n :: r) ((p.length : Int) + 2)
          ((p.length + 2 + n.toNat : Nat) : Int) = r.take n.toNat := by
        have h := subarray_append (p ++ [id, n]) r n.toNat
        rw [List.append_assoc, List.length_append] at h
        exact h
      rw [if_neg hroom, readUInt8_append, hn]
      by_cases hle : n.toNat ≤ r.length
      · have hend : ¬ p.length + 2 + n.toNat > (p ++ id :: n :: r).length := by
          rw [List.length_append]
          simp only [List.length_cons]
          omega
        have hsplit : p ++ id :: n :: r = p ++ id :: n :: r.take n.toNat ++ r.drop n.toNat := by
          rw [List.append_assoc]
          simp
        have hoffset : p.length + 2 + n.toNat = (p ++ id :: n :: r.take n.toNat).length := by
          rw [List.length_append, List.length_cons, List.length_cons, List.length_take]
          omega
        have hrest := ih (p ++ id :: n :: r.take n.toNat) (r.drop n.toNat)
        rw [← hsplit, ← hoffset] at hrest
        simp only [bind, Except.bind, if_neg hend, hvalue, hrest, parseObjects, if_pos hle]
        cases parseObjects left (r.drop n.toNat) <;> rfl
      · have hend : p.length + 2 + n.toNat > (p ++ id :: n :: r).length := by
          rw [List.length_append]
          simp only [List.length_cons]
          omega
        simp only [bind, Except.bind, if_pos hend, parseObjects, if_neg hle]
        rfl

/-- The bytes that objects were read from. -/
theorem parseObjects_eq_some {left : Nat} {rest : Buffer}
    {objects : List DeviceIdentificationObject} (h : parseObjects left rest = some objects) :
    objects.length = left ∧ ∃ tail, rest = objectsBytes objects ++ tail := by
  induction left generalizing rest objects with
  | zero =>
    obtain rfl := Option.some.inj h
    exact ⟨rfl, rest, rfl⟩
  | succ left ih =>
    rcases rest with _ | ⟨id, _ | ⟨n, rest⟩⟩
    · cases h
    · cases h
    · rw [parseObjects] at h
      split at h
      · rename_i hle
        obtain ⟨objects', hparse, rfl⟩ := Option.map_eq_some_iff.mp h
        obtain ⟨hlen, tail, htail⟩ := ih hparse
        have hvalue : (rest.take n.toNat).length = n.toNat := by
          rw [List.length_take, Nat.min_eq_left hle]
        refine ⟨congrArg Nat.succ hlen, tail, ?_⟩
        -- id and length of the first object, its value, and the bytes of the others
        rw [objectsBytes_cons]
        simp only [hvalue, Int.toNat_natCast, UInt8.ofNat_toNat, List.cons_append,
          List.append_assoc]
        rw [← htail, List.take_append_drop]
      · cases h

/-- What is read back of a list of objects, whatever follows it. -/
theorem parseObjects_append (objects : List DeviceIdentificationObject) (rest : Buffer) :
    parseObjects objects.length (objectsBytes objects ++ rest) = some objects := by
  induction objects with
  | nil => rfl
  | cons object objects ih =>
    obtain ⟨id, value, hid, hvalue⟩ := object
    unfold IsUInt8 at hid
    have hn : (UInt8.ofNat value.length).toNat = value.length := toNat_ofNat_of_lt (by omega)
    have hid' : ((UInt8.ofNat id.toNat).toNat : Int) = id := by
      rw [toNat_ofNat_of_lt (by omega)]
      omega
    simp only [List.length_cons, objectsBytes_cons, List.cons_append, parseObjects, hn,
      List.append_assoc, List.length_append, List.take_left, List.drop_left, ih, hid']
    rw [if_pos (by omega)]
    rfl

/-- A list of objects that is cut short is not read. -/
theorem parseObjects_take {objects : List DeviceIdentificationObject} {k : Nat}
    (h : k < (objectsBytes objects).length) :
    parseObjects objects.length ((objectsBytes objects).take k) = none := by
  induction objects generalizing k with
  | nil => exact absurd h (Nat.not_lt_zero k)
  | cons object objects ih =>
    obtain ⟨id, value, hid, hvalue⟩ := object
    have hn : (UInt8.ofNat value.length).toNat = value.length := toNat_ofNat_of_lt (by omega)
    rcases k with _ | _ | k
    · rfl
    · rfl
    · -- the cut is in the value of this object, or in the objects behind it
      rw [objectsBytes_cons] at h ⊢
      simp only [List.length_cons, List.length_append] at h
      simp only [List.length_cons, List.take_succ_cons, parseObjects, hn]
      by_cases hle : value.length ≤ k
      · have hdrop : ((value ++ objectsBytes objects).take k).drop value.length =
            (objectsBytes objects).take (k - value.length) := by
          rw [List.drop_take, List.drop_left]
        rw [hdrop, ih (by omega), Option.map_none, ite_self]
      · rw [if_neg (by rw [List.length_take]; omega)]

theorem mapM_checkObject (objects : List DeviceIdentificationObject) :
    (objects.map fun o => (o.id, o.value)).mapM (fun o => checkObject o.1 o.2) =
      .ok objects := by
  induction objects with
  | nil => rfl
  | cons object objects ih =>
    have hid := object.id_range
    have hvalue := object.length_le
    have hcheck : checkObject object.id object.value = .ok object := by
      unfold IsUInt8 at hid
      rw [checkObject, dif_neg (by omega), dif_neg (by omega)]
    rw [List.map_cons, List.mapM_cons, ih, hcheck]
    rfl

/-! ### The decoder and the encoder in closed form -/

/-- The fields and the objects of a body. -/
def ofObjects (m d c w n : UInt8) (objects : List DeviceIdentificationObject) :
    ReadDeviceIdentificationResponseBody :=
  { meiType := m.toNat, readDeviceIdCode := d.toNat, conformityLevel := c.toNat,
    moreFollows := w.toNat, nextObjectId := n.toNat, objects, meiType_range := isUInt8_toNat m,
    readDeviceIdCode_range := isUInt8_toNat d, conformityLevel_range := isUInt8_toNat c,
    moreFollows_range := isUInt8_toNat w, nextObjectId_range := isUInt8_toNat n }

theorem new_objects (m d c w n : UInt8) (objects : List DeviceIdentificationObject) :
    new d.toNat c.toNat w.toNat n.toNat (objects.map fun o => (o.id, o.value)) m.toNat =
      .ok (ofObjects m d c w n objects) := by
  have hm := m.toNat_lt
  have hd := d.toNat_lt
  have hc := c.toNat_lt
  have hw := w.toNat_lt
  have hn := n.toNat_lt
  rw [new, dif_neg (by omega), dif_neg (by omega), dif_neg (by omega), dif_neg (by omega),
    dif_neg (by omega), mapM_checkObject]
  rfl

/-- The decoder as a function of the bytes in front: all the objects have to be there. -/
theorem fromBuffer_cons (f m d c w n k : UInt8) (rest : Buffer) :
    fromBuffer (f :: m :: d :: c :: w :: n :: k :: rest) =
      if f.toNat = FC.readDeviceIdentification.code then
        (parseObjects k.toNat rest).map (ofObjects m d c w n)
      else none := by
  have hobjects := readObjects_append k.toNat [f, m, d, c, w, n, k] rest
  by_cases hf : f.toNat = FC.readDeviceIdentification.code
  · rw [if_pos hf]
    simp only [List.cons_append, List.nil_append, List.length_cons, List.length_nil] at hobjects
    simp only [fromBuffer, readUInt8, byteAt, bind, Except.bind, pure, Except.pure]
    simp [hf, hobjects]
    cases parseObjects k.toNat rest with
    | none => rfl
    | some objects =>
      simp only [Option.map_some, new_objects]
      rfl
  · rw [if_neg hf]
    simp [fromBuffer, readUInt8, byteAt, bind, Except.bind, pure, Except.pure, hf]

theorem fromBuffer_short {buffer : Buffer} (h : buffer.length < 7) :
    fromBuffer buffer = none := by
  rcases buffer with _ | ⟨f, _ | ⟨m, _ | ⟨d, _ | ⟨c, _ | ⟨w, _ | ⟨n, _ | ⟨k, rest⟩⟩⟩⟩⟩⟩⟩
  case cons.cons.cons.cons.cons.cons.cons =>
    simp at h
    omega
  all_goals
    simp [fromBuffer, readUInt8, byteAt, bind, Except.bind, pure, Except.pure]
    try (split <;> rfl)

/-- The loop of the encoder writes the objects into the room that is left for them. -/
theorem writeObjects_append (objects : List DeviceIdentificationObject) (p room : Buffer)
    (hroom : room.length = (objectsBytes objects).length) :
    writeObjects objects p.length (p ++ room) = .ok (p ++ objectsBytes objects) := by
  induction objects generalizing p room with
  | nil =>
    obtain rfl : room = [] := List.eq_nil_of_length_eq_zero hroom
    rfl
  | cons object objects ih =>
    have hid : IsUInt8 object.id := object.id_range
    have hlen : IsUInt8 object.value.length :=
      isUInt8_natCast (by have := object.length_le; omega)
    obtain ⟨x, y, room', rfl⟩ := Words.exists_eq_cons_cons (l := room) (by
      rw [hroom, objectsBytes_cons, List.length_cons, List.length_cons]
      omega)
    have hroom' : room'.length = object.value.length + (objectsBytes objects).length := by
      rw [objectsBytes_cons] at hroom
      simpa using hroom
    -- the length goes behind the id, and the value is copied behind both
    have hsnd : writeUInt8 (p ++ UInt8.ofNat object.id.toNat :: y :: room') object.value.length
        ((p.length : Int) + 1) =
          .ok (p ++ UInt8.ofNat object.id.toNat ::
            UInt8.ofNat object.value.length :: room') := by
      have h := setByte_append (p ++ [UInt8.ofNat object.id.toNat]) y
        (UInt8.ofNat object.value.length) room'
      rw [List.append_assoc, List.length_append, List.append_assoc] at h
      rw [writeUInt8, if_pos hlen]
      exact h
    have hcopy : Buffer.copy object.value
        (p ++ UInt8.ofNat object.id.toNat :: UInt8.ofNat object.value.length :: room')
        (p.length + 2) =
          p ++ UInt8.ofNat object.id.toNat :: UInt8.ofNat object.value.length ::
            (object.value ++ room'.drop object.value.length) := by
      have hfits : (room'.take object.value.length).length = object.value.length := by
        rw [List.length_take]
        omega
      have h := copy_room (p ++ [UInt8.ofNat object.id.toNat, UInt8.ofNat object.value.length])
        (room'.drop object.value.length) hfits
      rw [List.take_append_drop, List.append_assoc, List.length_append, List.append_assoc] at h
      exact h
    have hrest := ih (p ++ UInt8.ofNat object.id.toNat :: UInt8.ofNat object.value.length ::
      object.value) (room'.drop object.value.length) (by rw [List.length_drop]; omega)
    have hoffset : (p ++ UInt8.ofNat object.id.toNat :: UInt8.ofNat object.value.length ::
        object.value).length = p.length + 2 + object.value.length := by
      rw [List.length_append, List.length_cons, List.length_cons]
      omega
    rw [hoffset, List.append_assoc, List.append_assoc] at hrest
    rw [writeObjects, writeUInt8, if_pos hid, setByte_append]
    simp only [bind, Except.bind, hsnd, hcopy]
    exact hrest

theorem byteCount_eq (b : ReadDeviceIdentificationResponseBody) :
    b.byteCount = ((objectsBytes b.objects).length + 7 : Nat) := by
  have hsum : ∀ objects : List DeviceIdentificationObject,
      (objects.map fun object => (2 + object.value.length : Int)).sum =
        ((objectsBytes objects).length : Nat) := by
    intro objects
    induction objects with
    | nil => rfl
    | cons object objects ih =>
      rw [List.map_cons, List.sum_cons, ih, objectsBytes_cons]
      simp only [List.length_cons, List.length_append]
      omega
  rw [byteCount, hsum]
  omega

/-- The payload, when the number of objects fits into a byte. -/
theorem createPayload_eq (b : ReadDeviceIdentificationResponseBody) :
    b.createPayload =
      if b.objects.length < 256 then
        .ok (UInt8.ofNat FC.readDeviceIdentification.code :: UInt8.ofNat b.meiType.toNat ::
          UInt8.ofNat b.readDeviceIdCode.toNat :: UInt8.ofNat b.conformityLevel.toNat ::
          UInt8.ofNat b.moreFollows.toNat :: UInt8.ofNat b.nextObjectId.toNat ::
          UInt8.ofNat b.objects.length :: objectsBytes b.objects)
      else .error .rangeError := by
  have hfc : IsUInt8 FC.readDeviceIdentification.code := by decide
  have halloc : Buffer.alloc (((objectsBytes b.objects).length + 7 : Nat) : Int) =
      .ok (0 :: 0 :: 0 :: 0 :: 0 :: 0 :: 0 :: List.replicate
        (objectsBytes b.objects).length 0) :=
    alloc_natCast ((objectsBytes b.objects).length + 7)
  rw [createPayload, byteCount_eq, halloc]
  by_cases hlen : b.objects.length < 256
  · have hobjects := writeObjects_append b.objects
      [UInt8.ofNat FC.readDeviceIdentification.code, UInt8.ofNat b.meiType.toNat,
        UInt8.ofNat b.readDeviceIdCode.toNat, UInt8.ofNat b.conformityLevel.toNat,
        UInt8.ofNat b.moreFollows.toNat, UInt8.ofNat b.nextObjectId.toNat,
        UInt8.ofNat b.objects.length]
      (List.replicate (objectsBytes b.objects).length 0) List.length_replicate
    rw [if_pos hlen]
    simp (disch := omega) [bind, Except.bind, writeUInt8, setByte, hfc, b.meiType_range,
      b.readDeviceIdCode_range, b.conformityLevel_range, b.moreFollows_range,
      b.nextObjectId_range, isUInt8_natCast hlen, if_pos]
    exact hobjects
  · have hlen8 : ¬ IsUInt8 b.objects.length := fun h => hlen (by unfold IsUInt8 at h; omega)
    rw [if_neg hlen]
    simp (disch := omega) [bind, Except.bind, writeUInt8, setByte, hfc, b.meiType_range,
      b.readDeviceIdCode_range, b.conformityLevel_range, b.moreFollows_range,
      b.nextObjectId_range, hlen8, if_pos]

/-! ### What is read back -/

/-- A payload is read back, whatever follows it. -/
theorem fromBuffer_payload {r : ReadDeviceIdentificationResponseBody} {p : Buffer}
    (hp : r.createPayload = .ok p) (rest : Buffer) : fromBuffer (p ++ rest) = some r := by
  rw [createPayload_eq] at hp
  split at hp
  · rename_i hlen
    obtain rfl := Except.ok.inj hp
    have hn : (UInt8.ofNat r.objects.length).toNat = r.objects.length := toNat_ofNat_of_lt hlen
    have hfc : (UInt8.ofNat FC.readDeviceIdentification.code).toNat =
        FC.readDeviceIdentification.code := rfl
    simp only [List.cons_append]
    rw [fromBuffer_cons, if_pos hfc, hn, parseObjects_append]
    simp only [Option.map_some, ofObjects, toNat_ofNat_of_isUInt8 r.meiType_range,
      toNat_ofNat_of_isUInt8 r.readDeviceIdCode_range,
      toNat_ofNat_of_isUInt8 r.conformityLevel_range,
      toNat_ofNat_of_isUInt8 r.moreFollows_range, toNat_ofNat_of_isUInt8 r.nextObjectId_range]
  · cases hp

/-- A payload that is cut short is not read: the header is incomplete, or an object is. -/
theorem fromBuffer_take {r : ReadDeviceIdentificationResponseBody} {p : Buffer}
    (hp : r.createPayload = .ok p) {k : Nat} (hk : k < p.length) :
    fromBuffer (p.take k) = none := by
  rcases Nat.lt_or_ge k 7 with hk7 | hk7
  · exact fromBuffer_short (by rw [List.length_take]; omega)
  · rw [createPayload_eq] at hp
    split at hp
    · rename_i hlen
      obtain rfl := Except.ok.inj hp
      have hn : (UInt8.ofNat r.objects.length).toNat = r.objects.length :=
        toNat_ofNat_of_lt hlen
      obtain ⟨j, rfl⟩ : ∃ j, k = j + 7 := ⟨k - 7, by omega⟩
      have hj : j < (objectsBytes r.objects).length := by simpa using hk
      have hfc : (UInt8.ofNat FC.readDeviceIdentification.code).toNat =
          FC.readDeviceIdentification.code := rfl
      simp only [List.take_succ_cons]
      rw [fromBuffer_cons, if_pos hfc, hn, parseObjects_take hj]
      rfl
    · cases hp

end ReadDeviceIdentificationResponseBody

/-! ## Exceptions -/

/-- The body of an exception response. The constructor takes any code and MEI type. -/
structure ExceptionResponseBody where
  fc : FC
  code : Int
  meiType : Option Int
  deriving DecidableEq

namespace ExceptionResponseBody

/-- The getter `message`: throws for a code without a text. -/
def message (b : ExceptionResponseBody) : Except Thrown String := errorCodeToMessage b.code

/-- The getter `byteCount`. -/
def byteCount (b : ExceptionResponseBody) : Int :=
  match b.meiType with
  | none => 2
  | some _ => 3

/-- The function code and the code of the exception are those of the request. -/
def fromRequest (requestBody : ExceptionRequestBody) : ExceptionResponseBody :=
  { fc := requestBody.fc, code := requestBody.code, meiType := none }

/-- The function code comes without the bit of an exception, and is one of the known codes. -/
def fromBuffer (buffer : Buffer) : Except Thrown (Option ExceptionResponseBody) := do
  let fc ← buffer.readUInt8 0
  match FC.ofCode? ((fc : Int) - 0x80) with
  | none => throw (.error "InvalidFunctionCode")
  | some fc =>
    if fc = .readDeviceIdentification then
      -- three bytes are taken for the MEI layout, and two for the short one
      if buffer.length ≥ 3 then
        let meiType ← buffer.readUInt8 1
        let meiExceptionCode ← buffer.readUInt8 2
        return some { fc, code := meiExceptionCode, meiType := some meiType }
      if buffer.length ≥ 2 then
        let legacyExceptionCode ← buffer.readUInt8 1
        return some { fc, code := legacyExceptionCode, meiType := none }
      throw (.error "InvalidBufferLength")
    let defaultExceptionCode ← buffer.readUInt8 1
    return some { fc, code := defaultExceptionCode, meiType := none }

/-- The bit of an exception is added to the function code. An MEI type stands in front of the
code. -/
def createPayload (b : ExceptionResponseBody) : Except Thrown Buffer := do
  let payload ← Buffer.alloc b.byteCount
  let payload ← payload.writeUInt8 (b.fc.code + 0x80) 0
  match b.meiType with
  | some meiType =>
    let payload ← payload.writeUInt8 meiType 1
    payload.writeUInt8 b.code 2
  | none => payload.writeUInt8 b.code 1

/-- The decoder as a function of the bytes in front. For function code 43 a second byte
behind the code makes it the MEI layout. -/
theorem fromBuffer_cons (f : UInt8) (rest : Buffer) :
    tryOrNull (fromBuffer (f :: rest)) =
      (FC.ofCode? ((f.toNat : Int) - 0x80)).bind fun fc =>
        match rest with
        | [] => none
        | [x] => some { fc, code := x.toNat, meiType := none }
        | x :: y :: _ =>
          if fc = .readDeviceIdentification then
            some { fc, code := y.toNat, meiType := some (x.toNat : Int) }
          else some { fc, code := x.toNat, meiType := none } := by
  have hread : readUInt8 (f :: rest) 0 = .ok f.toNat := rfl
  simp only [fromBuffer, hread, bind, Except.bind, pure, Except.pure]
  cases FC.ofCode? ((f.toNat : Int) - 0x80) with
  | none => rfl
  | some fc =>
    by_cases hfc : fc = .readDeviceIdentification
    · rcases rest with _ | ⟨x, _ | ⟨y, rest⟩⟩ <;>
        simp [hfc, readUInt8, byteAt, bind, Except.bind, pure, Except.pure, throw, throwThe,
          MonadExceptOf.throw]
    · rcases rest with _ | ⟨x, _ | ⟨y, rest⟩⟩ <;>
        simp [hfc, readUInt8, byteAt, bind, Except.bind, pure, Except.pure]

/-- The bytes of an exception. -/
def bytes (b : ExceptionResponseBody) : Buffer :=
  UInt8.ofNat (b.fc.code + 0x80) ::
    match b.meiType with
    | some meiType => [UInt8.ofNat meiType.toNat, UInt8.ofNat b.code.toNat]
    | none => [UInt8.ofNat b.code.toNat]

/-- The payload, when the fields fit into a byte. -/
theorem createPayload_eq (b : ExceptionResponseBody) :
    b.createPayload =
      if IsUInt8 b.code ∧ (∀ meiType ∈ b.meiType, IsUInt8 meiType) then .ok b.bytes
      else .error .rangeError := by
  obtain ⟨fc, code, meiType⟩ := b
  have hfc : IsUInt8 (fc.code + 0x80) :=
    isUInt8_natCast (n := fc.code + 0x80) (by have := fc.code_le; omega)
  have hcode : (((fc.code : Nat) : Int) + 0x80).toNat = fc.code + 0x80 := by omega
  cases meiType with
  | none =>
    have halloc : Buffer.alloc 2 = .ok [0, 0] := rfl
    by_cases hc : IsUInt8 code <;>
      simp [createPayload, byteCount, bytes, halloc, bind, Except.bind, writeUInt8, setByte,
        hfc, hc, hcode]
  | some meiType =>
    have halloc : Buffer.alloc 3 = .ok [0, 0, 0] := rfl
    by_cases hc : IsUInt8 code <;> by_cases hm : IsUInt8 meiType <;>
      simp [createPayload, byteCount, bytes, halloc, bind, Except.bind, writeUInt8, setByte,
        hfc, hc, hm, hcode]

end ExceptionResponseBody

end NodeModbus

import NodeModbus.Lib.Bits
import NodeModbus.Request.Fixed

/-!
# Multiple write requests (function codes 15 and 16)

The two request bodies of variable length. Both constructors take the values as
an array or as a buffer and compute the other form, the byte count and the
number of data bytes; the decoders go through the buffer form.

- `fromBuffer_cons`, `fromBuffer_short`: the two decoders as functions of the
  bytes in front. Coils are refused when data bytes are missing, registers are
  taken as far as they are there.
- `createPayload_eq`: the two encoders in closed form.
- `packLoop_eq`: the packing loop of the coil constructor writes `Bits.pack`.
- `new_buffer_eq`, `new_array_eq`: the coil constructor on any arguments.
- `Constructed.sized`, `Constructed.coherent`: the sizes in a constructed body agree
  with its data, but for the byte count of more than 120 registers.
-/

namespace NodeModbus

open Buffer Words

/-- `Math.ceil(n / 8)`. -/
def ceilDiv8 (n : Int) : Int := (n + 7) / 8

/-! ## Multiple coils -/

/-- The two forms in which coil values are given. -/
inductive CoilValues where
  | array (values : List Bool)
  | buffer (values : Buffer)
  deriving DecidableEq

/-- `values.length`: of coils, or of bytes. -/
def CoilValues.length : CoilValues → Nat
  | .array values => values.length
  | .buffer values => values.length

/-- The body of a write multiple coils request, with the coils in both forms. -/
structure WriteMultipleCoilsRequestBody where
  address : Int
  values : CoilValues
  quantity : Int
  numberOfBytes : Int
  byteCount : Int
  valuesAsArray : List Bool
  valuesAsBuffer : Buffer
  deriving DecidableEq

namespace WriteMultipleCoilsRequestBody

/-- The loop that packs a boolean array: the running byte, the index it goes to, the bit
counter, and the buffer written so far. A byte is written when it is full and after the last
entry. -/
def packLoop : List Bool → Nat → Nat → Nat → Buffer → Except Thrown Buffer
  | [], _, _, _, bytes => .ok bytes
  | value :: rest, curByte, curByteIdx, cntr, bytes =>
    let curByte := curByte + (if value then 2 ^ cntr else 0)
    let cntr := (cntr + 1) % 8
    if cntr = 0 ∨ rest = [] then do
      let bytes ← bytes.writeUInt8 curByte curByteIdx
      packLoop rest 0 (curByteIdx + 1) cntr bytes
    else packLoop rest curByte curByteIdx cntr bytes

/-- The loop that reads `quantity` bits out of a buffer. -/
def unpackLoop (values : Buffer) (quantity : Nat) : Except Thrown (List Bool) :=
  (List.range quantity).mapM fun i => do
    let currentByte ← values.readUInt8 ((i / 8 : Nat) : Int)
    return (currentByte >>> (i % 8)) &&& 1 ≠ 0

/-- The constructor. The contents of `Buffer.allocUnsafe` are the parameter `unsafeBytes`. -/
def new (unsafeBytes : Nat → UInt8) (address : Int) (values : CoilValues)
    (quantity : Option Int) : Except Thrown WriteMultipleCoilsRequestBody := do
  if address > 0xFFFF then
    throw (.error "InvalidStartAddress")
  match values with
  | .array values =>
    if values.length > 0x07b0 * 8 then
      throw (.error "InvalidArraySize")
  | .buffer values =>
    if values.length > 0x07b0 then
      throw (.error "InvalidBufferSize")
    if let some quantity := quantity then
      if (values.length * 8 : Int) < quantity then
        throw (.error "InvalidBufferSize")
  -- `quantity || values.length`: the number of entries, or of bytes
  let total : Int := if quantity.getD 0 = 0 then values.length else quantity.getD 0
  let numberOfBytes := ceilDiv8 total
  match values with
  | .buffer bytes =>
    let valuesAsArray ← unpackLoop bytes total.toNat
    return { address, values, quantity := total, numberOfBytes, byteCount := ceilDiv8 total + 6,
             valuesAsArray, valuesAsBuffer := bytes }
  | .array bits =>
    if numberOfBytes < 0 then
      throw .rangeError
    let bytes := (List.range numberOfBytes.toNat).map unsafeBytes
    let bytes ← packLoop (bits.take 1968) 0 0 0 bytes
    return { address, values, quantity := total, numberOfBytes,
             byteCount := ceilDiv8 bits.length + 6, valuesAsArray :=
               bits, valuesAsBuffer := bytes }

/-- Address, quantity and data bytes, as the decoder reads them. -/
def readFields (buffer : Buffer) : Except Thrown (Option (Nat × Nat × Buffer)) := do
  let fc ← buffer.readUInt8 0
  if fc ≠ FC.writeMultipleCoils.code then
    return none
  let address ← buffer.readUInt16BE 1
  let quantity ← buffer.readUInt16BE 3
  let numberOfBytes ← buffer.readUInt8 5
  let values := buffer.subarray 6 (6 + numberOfBytes)
  return some (address, quantity, values)

/-- A decoded body is made of the bytes that are there. `numberOfBytes` is not compared with
them. -/
def fromBuffer (buffer : Buffer) : Option WriteMultipleCoilsRequestBody :=
  ofFields (readFields buffer) fun (address, quantity, values) =>
    new (fun _ => 0) address (.buffer values) (some quantity)

/-- Function code, address, quantity and number of bytes, and the packed coils behind them. -/
def createPayload (b : WriteMultipleCoilsRequestBody) : Except Thrown Buffer := do
  let payload ← Buffer.alloc b.byteCount
  let payload ← payload.writeUInt8 FC.writeMultipleCoils.code 0
  let payload ← payload.writeUInt16BE b.address 1
  let payload ← payload.writeUInt16BE b.quantity 3
  let payload ← payload.writeUInt8 b.numberOfBytes 5
  return Buffer.copy (b.valuesAsBuffer.subarray 0 b.byteCount) payload 6

/-! ### The decoder in closed form -/

/-- `Boolean((x >> k) & 1)` is bit `k` of `x`. -/
theorem bitValue_eq (x k : Nat) : decide ((x >>> k) &&& 1 ≠ 0) = x.testBit k := by
  simp only [Nat.testBit, Nat.and_comm (x >>> k) 1]
  rcases Nat.mod_two_eq_zero_or_one (x >>> k) with h | h <;> simp [h]

theorem unpackLoop_eq {values : Buffer} {quantity : Nat} (h : quantity ≤ 8 * values.length) :
    unpackLoop values quantity = .ok ((Bits.unpack values).take quantity) := by
  have hround : ∀ i ∈ List.range quantity,
      (do let currentByte ← values.readUInt8 ((i / 8 : Nat) : Int)
          return decide ((currentByte >>> (i % 8)) &&& 1 ≠ 0) : Except Thrown Bool)
        = .ok ((values.getD (i / 8) 0).toNat.testBit (i % 8)) := by
    intro i hi
    have hlt : i / 8 < values.length := by
      have := List.mem_range.mp hi
      omega
    rw [readUInt8, byteAt_natCast, List.getElem?_eq_getElem hlt, List.getD_eq_getElem _ _ hlt]
    show Except.ok _ = _
    rw [bitValue_eq]
  rw [unpackLoop, mapM_ok hround, Bits.unpack, ← List.map_take, List.take_range,
    Nat.min_eq_left h]

/-- The body the constructor makes of a buffer and a quantity. -/
def ofBuffer (address : Int) (values : Buffer) (quantity : Nat) :
    WriteMultipleCoilsRequestBody :=
  let total := if quantity = 0 then values.length else quantity
  { address, values := .buffer values, quantity := total, numberOfBytes := ceilDiv8 total,
    byteCount := ceilDiv8 total + 6, valuesAsArray := (Bits.unpack values).take total,
    valuesAsBuffer := values }

theorem ceilDiv8_natCast (n : Nat) : ceilDiv8 n = ((n + 7) / 8 : Nat) := by
  unfold ceilDiv8
  omega

/-- With a quantity given, the length of the buffer does not matter. -/
theorem ofBuffer_eq (address : Int) (values : Buffer) {quantity : Nat} (h : quantity ≠ 0) :
    ofBuffer address values quantity =
      { address, values := .buffer values, quantity,
        numberOfBytes := ((quantity + 7) / 8 : Nat),
        byteCount := ((quantity + 7) / 8 : Nat) + 6,
        valuesAsArray := (Bits.unpack values).take quantity, valuesAsBuffer := values } := by
  simp only [ofBuffer, if_neg h, ceilDiv8_natCast]

/-- The constructor on a buffer, with any quantity. -/
theorem new_buffer_eq (unsafeBytes : Nat → UInt8) (address : Int) (values : Buffer)
    (quantity : Int) :
    new unsafeBytes address (.buffer values) (some quantity) =
      let total := if quantity = 0 then (values.length : Int) else quantity
      if address > 0xFFFF then .error (.error "InvalidStartAddress")
      else if values.length > 0x07b0 ∨ values.length * 8 < quantity then
        .error (.error "InvalidBufferSize")
      else
        .ok
          { address, values := .buffer values, quantity := total,
            numberOfBytes := ceilDiv8 total, byteCount := ceilDiv8 total + 6,
            valuesAsArray := (Bits.unpack values).take total.toNat,
            valuesAsBuffer := values } := by
  by_cases ha : address > 0xFFFF
  · simp [new, bind, Except.bind, throw, throwThe, MonadExceptOf.throw, ha]
  by_cases hl : values.length > 0x07b0
  · simp [new, bind, Except.bind, throw, throwThe, MonadExceptOf.throw, ha, hl]
  by_cases hq : (values.length * 8 : Int) < quantity
  · simp [new, bind, Except.bind, throw, throwThe, MonadExceptOf.throw, ha, hl, hq]
  have htotal : (if quantity = 0 then (values.length : Int) else quantity) ≤
      8 * values.length := by
    split <;> omega
  simp only [new, bind, Except.bind, pure, Except.pure, ha, hl, hq, if_false, or_self,
    Option.getD_some, CoilValues.length]
  rw [unpackLoop_eq (by omega)]

theorem new_buffer (unsafeBytes : Nat → UInt8) {address : Int} {values : Buffer}
    {quantity : Nat} (ha : address ≤ 0xFFFF) (hv : values.length ≤ 0x07b0) :
    new unsafeBytes address (.buffer values) (some quantity) =
      if values.length * 8 < quantity then .error (.error "InvalidBufferSize")
      else .ok (ofBuffer address values quantity) := by
  have hcast : (if (quantity : Int) = 0 then (values.length : Int) else quantity)
      = ((if quantity = 0 then values.length else quantity : Nat) : Int) := by
    split <;> split <;> omega
  rw [new_buffer_eq, hcast]
  dsimp only
  rw [if_neg (by omega), Int.toNat_natCast]
  by_cases hq : values.length * 8 < quantity
  · rw [if_pos (by omega), if_pos hq]
  · rw [if_neg (by omega), if_neg hq]
    rfl

theorem readFields_eq (buffer : Buffer) :
    tryOrNull (readFields buffer) = match buffer with
      | f :: a :: a' :: q :: q' :: n :: rest =>
        if f.toNat = FC.writeMultipleCoils.code then
          some (u16 a a', u16 q q', rest.take n.toNat)
        else none
      | _ => none := by
  rcases buffer with _ | ⟨f, _ | ⟨a, _ | ⟨a', _ | ⟨q, _ | ⟨q', _ | ⟨n, rest⟩⟩⟩⟩⟩⟩
  case cons.cons.cons.cons.cons.cons =>
    have hsub : subarray (f :: a :: a' :: q :: q' :: n :: rest) 6 (6 + n.toNat)
        = rest.take n.toNat := by
      simpa using subarray_append [f, a, a', q, q', n] rest n.toNat
    simp [readFields, readUInt8, readUInt16BE, byteAt, bind, Except.bind, pure,
      Except.pure, hsub]
    split <;> rfl
  all_goals
    simp [readFields, readUInt8, readUInt16BE, byteAt, bind, Except.bind, pure, Except.pure]
    try (split <;> rfl)

/-- The decoder as a function of the bytes in front. -/
theorem fromBuffer_cons (f a a' q q' n : UInt8) (rest : Buffer) :
    fromBuffer (f :: a :: a' :: q :: q' :: n :: rest) =
      if f.toNat = FC.writeMultipleCoils.code ∧ u16 q q' ≤ 8 * (rest.take n.toNat).length then
        some (ofBuffer (u16 a a') (rest.take n.toNat) (u16 q q'))
      else none := by
  have hn := n.toNat_lt
  have hlen : (rest.take n.toNat).length ≤ 0x07b0 := by
    rw [List.length_take]
    omega
  have ha : (u16 a a' : Int) ≤ 0xFFFF := (isUInt16_u16 a a').2
  rw [fromBuffer, ofFields_eq, readFields_eq]
  by_cases hf : f.toNat = FC.writeMultipleCoils.code
  · simp only [if_pos hf, Option.bind_some, new_buffer _ ha hlen]
    by_cases hq : u16 q q' ≤ 8 * (rest.take n.toNat).length
    · rw [if_neg (by omega), if_pos ⟨hf, hq⟩]
      rfl
    · rw [if_pos (by omega), if_neg fun h => hq h.2]
      rfl
  · simp only [if_neg hf]
    rw [if_neg fun h => hf h.1]
    rfl

/-- A buffer of less than six bytes is not decoded. -/
theorem fromBuffer_short {buffer : Buffer} (h : buffer.length < 6) :
    fromBuffer buffer = none := by
  rw [fromBuffer, ofFields_eq, readFields_eq]
  split
  · simp at h
    omega
  · rfl

/-- What is decoded is what the constructor makes of the data bytes, a bit for each coil. -/
theorem eq_ofBuffer {buffer : Buffer} {b : WriteMultipleCoilsRequestBody}
    (h : fromBuffer buffer = some b) :
    ∃ (address quantity : Nat) (values : Buffer), address < 65536 ∧ quantity < 65536 ∧
      values.length < 256 ∧ quantity ≤ 8 * values.length ∧
      b = ofBuffer address values quantity := by
  rcases buffer with _ | ⟨f, _ | ⟨a, _ | ⟨a', _ | ⟨q, _ | ⟨q', _ | ⟨n, rest⟩⟩⟩⟩⟩⟩
  case cons.cons.cons.cons.cons.cons =>
    rw [fromBuffer_cons] at h
    split at h
    · rename_i hdata
      have hlen : (rest.take n.toNat).length < 256 :=
        Nat.lt_of_le_of_lt (List.length_take_le ..) n.toNat_lt
      exact ⟨_, _, _, u16_lt a a', u16_lt q q', hlen, hdata.2, (Option.some.inj h).symm⟩
    · cases h
  all_goals
    rw [fromBuffer_short (by simp)] at h
    cases h

/-! ### The encoder in closed form -/

/-- The payload of a body whose sizes agree. -/
theorem createPayload_eq {b : WriteMultipleCoilsRequestBody} {n : Nat} (ha : IsUInt16 b.address)
    (hq : IsUInt16 b.quantity) (hn : b.numberOfBytes = n) (hn' : n < 256)
    (hb : b.byteCount = n + 6) (hlen : n ≤ b.valuesAsBuffer.length) :
    b.createPayload = .ok (UInt8.ofNat FC.writeMultipleCoils.code ::
      (be16 b.address.toNat ++ (be16 b.quantity.toNat ++
        UInt8.ofNat n :: b.valuesAsBuffer.take n))) := by
  have halloc : Buffer.alloc (n + 6) = .ok (0 :: 0 :: 0 :: 0 :: 0 :: 0 :: List.replicate n 0) :=
    alloc_natCast (n + 6)
  have hfc : IsUInt8 FC.writeMultipleCoils.code := by decide
  have hsrc : subarray b.valuesAsBuffer 0 (n + 6) = b.valuesAsBuffer.take (n + 6) :=
    subarray_natCast b.valuesAsBuffer 0 (n + 6)
  have hcopy := copy_append (b.valuesAsBuffer.take (n + 6))
    (UInt8.ofNat FC.writeMultipleCoils.code ::
      (be16 b.address.toNat ++ (be16 b.quantity.toNat ++ [UInt8.ofNat n])))
    (r := List.replicate n 0) (by rw [List.length_replicate, List.length_take]; omega)
  rw [List.length_replicate, List.take_take, Nat.min_eq_left (by omega)] at hcopy
  simp (disch := omega) [createPayload, hb, halloc, bind, Except.bind, pure, Except.pure,
    writeUInt8, writeUInt16BE, setByte, hfc, ha, hq, hn, isUInt8_natCast hn', hsrc, if_pos]
  exact hcopy

/-- The fields of a body that has a payload are in range. -/
theorem ranges_of_createPayload {b : WriteMultipleCoilsRequestBody} {p : Buffer}
    (hp : b.createPayload = .ok p) :
    IsUInt16 b.address ∧ IsUInt16 b.quantity ∧ IsUInt8 b.numberOfBytes := by
  obtain ⟨_, _, hp⟩ := bind_eq_ok.mp hp
  obtain ⟨_, _, hp⟩ := bind_eq_ok.mp hp
  obtain ⟨_, haddress, hp⟩ := bind_eq_ok.mp hp
  obtain ⟨_, hquantity, hp⟩ := bind_eq_ok.mp hp
  obtain ⟨_, hbytes, _⟩ := bind_eq_ok.mp hp
  exact ⟨isUInt16_of_writeUInt16BE haddress, isUInt16_of_writeUInt16BE hquantity,
    isUInt8_of_writeUInt8 hbytes⟩

/-! ### The packing loop -/

/-- The byte that is being filled after the entries `done`. -/
def partialByte (done : List Bool) : UInt8 :=
  Bits.byte fun k => done.getD (8 * (done.length / 8) + k) false

/-- The same byte with one more entry. -/
def nextByte (done : List Bool) (v : Bool) : UInt8 :=
  Bits.byte fun k => (done ++ [v]).getD (8 * (done.length / 8) + k) false

/-- The next entry adds its power of two. -/
theorem toNat_partialByte_add (done : List Bool) (v : Bool) :
    (partialByte done).toNat + (if v then 2 ^ (done.length % 8) else 0) =
      (nextByte done v).toNat := by
  -- the bits of the entries to come are still zero
  have hzero : ∀ j, done.length % 8 ≤ j → done.getD (8 * (done.length / 8) + j) false = false :=
    fun j hj => List.getD_eq_default _ _ (by omega)
  have hbits : nextByte done v = Bits.byte fun k => if k = done.length % 8 then v
          else done.getD (8 * (done.length / 8) + k) false := by
    refine Bits.byte_congr ?_
    intro k _
    simp only [List.getD_eq_getElem?_getD, List.getElem?_append]
    by_cases hk : k = done.length % 8
    · subst hk
      rw [if_neg (by omega), if_pos rfl, Nat.div_add_mod, Nat.sub_self]
      rfl
    · by_cases hlt : 8 * (done.length / 8) + k < done.length
      · rw [if_pos hlt, if_neg hk]
      · rw [if_neg hlt, if_neg hk, List.getElem?_eq_none (by simp; omega),
          List.getElem?_eq_none (by omega)]
  rw [hbits]
  exact Bits.toNat_byte_add (Nat.mod_lt _ (by decide)) hzero v

/-- When the byte that is being filled is written, all the bytes up to it are those of the
packed array. -/
theorem take_set_nextByte (done : List Bool) (v : Bool) {bytes : Buffer}
    (hlt : done.length / 8 < bytes.length)
    (htake : bytes.take (done.length / 8) = (Bits.pack done).take (done.length / 8)) :
    (bytes.set (done.length / 8) (nextByte done v)).take (done.length / 8 + 1) =
      (Bits.pack (done ++ [v])).take (done.length / 8 + 1) := by
  have hlen : done.length / 8 < (Bits.pack (done ++ [v])).length := by
    rw [Bits.length_pack, List.length_append, List.length_singleton]
    omega
  rw [← Bits.take_pack_append done [v] _ (by omega)] at htake
  rw [List.take_succ_eq_append_getElem (by rw [List.length_set]; exact hlt),
    List.take_succ_eq_append_getElem hlen, List.take_set_of_le (Nat.le_refl _), htake,
    List.getElem_set_self, Bits.getElem_pack]
  rfl

/-- The loop invariant: with the entries `done` behind it and their full bytes written, the
loop ends with everything packed. -/
theorem packLoop_inv (rest done : List Bool) (bytes : Buffer) (hrest : rest ≠ [])
    (hlen : bytes.length = ((done ++ rest).length + 7) / 8)
    (htake : bytes.take (done.length / 8) = (Bits.pack done).take (done.length / 8)) :
    packLoop rest (partialByte done).toNat (done.length / 8) (done.length % 8) bytes =
      .ok (Bits.pack (done ++ rest)) := by
  induction rest generalizing done bytes with
  | nil => exact absurd rfl hrest
  | cons v tail ih =>
    have hlen' : bytes.length = (done.length + tail.length + 8) / 8 := by
      rw [hlen, List.length_append, List.length_cons]
      omega
    have happ : done ++ v :: tail = (done ++ [v]) ++ tail := by simp
    have hdone : (done ++ [v]).length = done.length + 1 := by simp
    rw [packLoop, toNat_partialByte_add]
    by_cases hwrite : (done.length % 8 + 1) % 8 = 0 ∨ tail = []
    · -- the byte is complete, or it is the last one: it is written
      have hlt : done.length / 8 < bytes.length := by omega
      have htake' := take_set_nextByte done v hlt htake
      rw [if_pos hwrite, writeUInt8_natCast (nextByte done v) hlt]
      show packLoop tail 0 (done.length / 8 + 1) ((done.length % 8 + 1) % 8) _ = _
      rcases eq_or_ne tail [] with rfl | htail
      · rw [List.take_of_length_le (by simp [hlen']), List.take_of_length_le (by simp; omega)]
          at htake'
        rw [htake']
        rfl
      · have hfull : (done.length % 8 + 1) % 8 = 0 := hwrite.resolve_right htail
        have hzero : partialByte (done ++ [v]) = 0 := Bits.byte_false fun k _ =>
          List.getD_eq_default _ _ (by rw [hdone]; omega)
        have hdiv : (done.length + 1) / 8 = done.length / 8 + 1 := by omega
        have hmod : (done.length + 1) % 8 = (done.length % 8 + 1) % 8 := by omega
        have hnext := ih (done ++ [v]) (bytes.set (done.length / 8) (nextByte done v)) htail
          (by rw [List.length_set, hlen, happ]) (by rw [hdone, hdiv]; exact htake')
        rw [hzero, hdone, hdiv, hmod] at hnext
        rw [happ]
        exact hnext
    · -- more entries go into the same byte
      have hcntr : ¬ (done.length % 8 + 1) % 8 = 0 := fun h => hwrite (.inl h)
      have htail : tail ≠ [] := fun h => hwrite (.inr h)
      have hdiv : (done.length + 1) / 8 = done.length / 8 := by omega
      have hmod : (done.length + 1) % 8 = (done.length % 8 + 1) % 8 := by omega
      have hnext := ih (done ++ [v]) bytes htail (by rw [hlen, happ])
        (by rw [hdone, hdiv, htake, Bits.take_pack_append done [v] _ (by omega)])
      rw [hdone, hdiv, hmod] at hnext
      rw [if_neg hwrite, happ]
      rw [partialByte, hdone, hdiv] at hnext
      exact hnext

/-- The loop writes the packed array over whatever the buffer held. -/
theorem packLoop_eq {values : List Bool} {bytes : Buffer}
    (hlen : bytes.length = (values.length + 7) / 8) :
    packLoop values 0 0 0 bytes = .ok (Bits.pack values) := by
  rcases eq_or_ne values [] with rfl | hne
  · have hnil : bytes = [] := List.eq_nil_of_length_eq_zero hlen
    rw [hnil]
    rfl
  · exact packLoop_inv values [] bytes hne hlen rfl

/-- The loop does not touch what stands behind the bytes it writes. -/
theorem packLoop_append {values : List Bool} {curByte curByteIdx cntr : Nat}
    {bytes bytes' : Buffer} (h : packLoop values curByte curByteIdx cntr bytes = .ok bytes')
    (tail : Buffer) :
    packLoop values curByte curByteIdx cntr (bytes ++ tail) = .ok (bytes' ++ tail) := by
  induction values generalizing curByte curByteIdx cntr bytes with
  | nil =>
    obtain rfl := Except.ok.inj h
    rfl
  | cons v rest ih =>
    rw [packLoop] at h ⊢
    by_cases hwrite : (cntr + 1) % 8 = 0 ∨ rest = []
    · rw [if_pos hwrite] at h ⊢
      obtain ⟨written, hwritten, hrest⟩ := bind_eq_ok.mp h
      rw [writeUInt8_append_of_ok hwritten]
      exact ih hrest
    · rw [if_neg hwrite] at h ⊢
      exact ih h

/-! ### What the constructor makes -/

/-- The bodies the two declared overloads of the constructor make: an array alone, or a buffer
with a quantity. -/
inductive Constructed : WriteMultipleCoilsRequestBody → Prop
  | array {unsafeBytes : Nat → UInt8} {address : Int} {values : List Bool}
      {b : WriteMultipleCoilsRequestBody} :
      new unsafeBytes address (.array values) none = .ok b → Constructed b
  | buffer {unsafeBytes : Nat → UInt8} {address : Int} {values : Buffer} {quantity : Int}
      {b : WriteMultipleCoilsRequestBody} :
      new unsafeBytes address (.buffer values) (some quantity) = .ok b → Constructed b

/-- The sizes of a body of `n` coils agree with each other and with the data. -/
structure Coherent (b : WriteMultipleCoilsRequestBody) (n : Nat) : Prop where
  quantity : b.quantity = n
  numberOfBytes : b.numberOfBytes = ((n + 7) / 8 : Nat)
  byteCount : b.byteCount = ((n + 7) / 8 : Nat) + 6
  length_le : (n + 7) / 8 ≤ b.valuesAsBuffer.length
  valuesAsArray : b.valuesAsArray = (Bits.unpack b.valuesAsBuffer).take n

/-- The bytes of an array: of more than 1968 coils only the first are packed, and the rest
of the buffer is what it was. -/
def packedBytes (unsafeBytes : Nat → UInt8) (values : List Bool) : Buffer :=
  Bits.pack (values.take 1968) ++
    ((List.range ((values.length + 7) / 8)).map unsafeBytes).drop 246

theorem length_packedBytes (unsafeBytes : Nat → UInt8) (values : List Bool) :
    (packedBytes unsafeBytes values).length = (values.length + 7) / 8 := by
  rw [packedBytes, List.length_append, Bits.length_pack, List.length_take, List.length_drop,
    List.length_map, List.length_range]
  omega

/-- Up to 1968 coils all of the buffer is written over. -/
theorem packedBytes_of_le (unsafeBytes : Nat → UInt8) {values : List Bool}
    (hlen : values.length ≤ 1968) : packedBytes unsafeBytes values = Bits.pack values := by
  rw [packedBytes, List.take_of_length_le hlen, List.drop_of_length_le (by
    rw [List.length_map, List.length_range]
    omega), List.append_nil]

/-- The constructor on an array of any length. -/
theorem new_array_eq (unsafeBytes : Nat → UInt8) (address : Int) (values : List Bool) :
    new unsafeBytes address (.array values) none =
      if address > 0xFFFF then .error (.error "InvalidStartAddress")
      else if values.length > 0x07b0 * 8 then .error (.error "InvalidArraySize")
      else
        .ok { address, values := .array values, quantity := values.length,
              numberOfBytes := ((values.length + 7) / 8 : Nat),
              byteCount := ((values.length + 7) / 8 : Nat) + 6, valuesAsArray := values,
              valuesAsBuffer := packedBytes unsafeBytes values } := by
  have hsplit :=
    List.take_append_drop 246 ((List.range ((values.length + 7) / 8)).map unsafeBytes)
  have hroom : (((List.range ((values.length + 7) / 8)).map unsafeBytes).take 246).length =
      ((values.take 1968).length + 7) / 8 := by
    rw [List.length_take, List.length_take, List.length_map, List.length_range]
    omega
  have hpack := packLoop_append (packLoop_eq hroom)
    (((List.range ((values.length + 7) / 8)).map unsafeBytes).drop 246)
  rw [hsplit] at hpack
  have hsize : ¬ ((values.length + 7) / 8 : Nat) < (0 : Int) := by omega
  by_cases ha : address > 0xFFFF
  · simp [new, bind, Except.bind, throw, throwThe, MonadExceptOf.throw, ha]
  by_cases hl : values.length > 0x07b0 * 8
  · simp [new, bind, Except.bind, throw, throwThe, MonadExceptOf.throw, ha, hl]
  simp only [new, bind, Except.bind, pure, Except.pure, ha, hl, if_false, Option.getD_none,
    if_true, CoilValues.length, ceilDiv8_natCast, hsize, Int.toNat_natCast, hpack, packedBytes]

/-- The constructor on an array of at most 1968 coils. -/
theorem new_array (unsafeBytes : Nat → UInt8) {address : Int} {values : List Bool}
    (ha : address ≤ 0xFFFF) (hlen : values.length ≤ 1968) :
    new unsafeBytes address (.array values) none =
      .ok { address, values := .array values, quantity := values.length,
            numberOfBytes := ((values.length + 7) / 8 : Nat),
            byteCount := ((values.length + 7) / 8 : Nat) + 6, valuesAsArray := values,
            valuesAsBuffer := Bits.pack values } := by
  rw [new_array_eq, if_neg (by omega), if_neg (by omega), packedBytes_of_le unsafeBytes hlen]

theorem coherent_of_array {unsafeBytes : Nat → UInt8} {address : Int} {values : List Bool}
    {b : WriteMultipleCoilsRequestBody}
    (h : new unsafeBytes address (.array values) none = .ok b) (hlen : values.length ≤ 1968) :
    Coherent b values.length := by
  by_cases ha : address > 0xFFFF
  · simp [new, bind, Except.bind, throw, throwThe, MonadExceptOf.throw, ha] at h
  · rw [new_array unsafeBytes (by omega) hlen] at h
    obtain rfl := Except.ok.inj h
    refine ⟨rfl, rfl, rfl, by simp, ?_⟩
    rw [Bits.unpack_pack, List.take_left]

theorem coherent_of_buffer {unsafeBytes : Nat → UInt8} {address : Int} {values : Buffer}
    {quantity : Int} {b : WriteMultipleCoilsRequestBody}
    (h : new unsafeBytes address (.buffer values) (some quantity) = .ok b)
    (hpos : 1 ≤ b.quantity) : Coherent b b.quantity.toNat := by
  rw [new_buffer_eq] at h
  have htotal : quantity ≤ 8 * values.length →
      (if quantity = 0 then (values.length : Int) else quantity) ≤ 8 * values.length := by
    split <;> omega
  generalize (if quantity = 0 then (values.length : Int) else quantity) = total at h htotal
  dsimp only at h
  split_ifs at h with ha hrefused
  cases h
  have hpos' : 1 ≤ total := hpos
  have hcast : total = (total.toNat : Int) := (Int.toNat_of_nonneg (by omega)).symm
  have hceil : ceilDiv8 total = ((total.toNat + 7) / 8 : Nat) := by
    rw [← ceilDiv8_natCast, ← hcast]
  have hroom : (total.toNat + 7) / 8 ≤ values.length := by
    have := htotal (by omega)
    omega
  refine ⟨hcast, hceil, ?_, hroom, rfl⟩
  show ceilDiv8 total + 6 = _
  rw [hceil]

theorem quantity_of_array {unsafeBytes : Nat → UInt8} {address : Int} {values : List Bool}
    {b : WriteMultipleCoilsRequestBody}
    (h : new unsafeBytes address (.array values) none = .ok b) :
    b.quantity = values.length := by
  rw [new_array_eq] at h
  split_ifs at h
  cases h
  rfl

/-- Whatever the constructor makes for 1 to 1968 coils is coherent. -/
theorem Constructed.coherent {b : WriteMultipleCoilsRequestBody} (h : Constructed b)
    (hpos : 1 ≤ b.quantity) (hle : b.quantity ≤ 1968) : Coherent b b.quantity.toNat := by
  cases h with
  | buffer h => exact coherent_of_buffer h hpos
  | @array _ _ values _ h =>
    have hq := quantity_of_array h
    have hc := coherent_of_array h (by omega)
    rw [hq, Int.toNat_natCast]
    exact hc

end WriteMultipleCoilsRequestBody

/-! ## Multiple registers -/

/-- The two forms in which register values are given. -/
inductive RegisterValues where
  | array (values : List Int)
  | buffer (values : Buffer)
  deriving DecidableEq

/-- The body of a write multiple registers request, with the registers in both forms. -/
structure WriteMultipleRegistersRequestBody where
  address : Int
  values : RegisterValues
  byteCount : Int
  numberOfBytes : Int
  quantity : Int
  valuesAsBuffer : Buffer
  valuesAsArray : List Int
  deriving DecidableEq

namespace WriteMultipleRegistersRequestBody

/-- The constructor: an array is written to a buffer, and a buffer is read as words, where
the last one throws when half of it is missing. -/
def new (address : Int) (values : RegisterValues) :
    Except Thrown WriteMultipleRegistersRequestBody := do
  if address > 0xFFFF then
    throw (.error "InvalidStartAddress")
  match values with
  | .array array =>
    if array.length > 0x7b then
      throw (.error "InvalidArraySize")
    let valuesAsBuffer ← Buffer.alloc (2 * array.length : Nat)
    let valuesAsBuffer ← valuesAsBuffer.writeWords array 0
    return { address, values, byteCount := min (2 * array.length + 6) 0xF6,
             numberOfBytes := 2 * array.length, quantity := array.length, valuesAsBuffer,
             valuesAsArray := array }
  | .buffer bytes =>
    if bytes.length > 0x7b * 2 then
      throw (.error "InvalidBufferSize")
    let valuesAsArray ← bytes.readWords ((bytes.length + 1) / 2) 0
    return { address, values, byteCount := min (bytes.length + 6) 0xF6,
             numberOfBytes := bytes.length, quantity := (bytes.length / 2 : Nat),
             valuesAsBuffer := bytes, valuesAsArray := valuesAsArray.map (↑) }

/-- Address and data bytes, as the decoder reads them. -/
def readFields (buffer : Buffer) : Except Thrown (Option (Nat × Buffer)) := do
  let fc ← buffer.readUInt8 0
  let address ← buffer.readUInt16BE 1
  let numberOfBytes ← buffer.readUInt8 5
  let values := buffer.subarray 6 (6 + numberOfBytes)
  if fc ≠ FC.writeMultipleHoldingRegisters.code then
    return none
  return some (address, values)

/-- The quantity is that of the data bytes: the one that was sent is not read. -/
def fromBuffer (buffer : Buffer) : Option WriteMultipleRegistersRequestBody :=
  ofFields (readFields buffer) fun (address, values) => new address (.buffer values)

/-- Function code, address, quantity and number of bytes, and the registers behind them. -/
def createPayload (b : WriteMultipleRegistersRequestBody) : Except Thrown Buffer := do
  let payload ← Buffer.alloc (6 + b.numberOfBytes)
  let payload ← payload.writeUInt8 FC.writeMultipleHoldingRegisters.code 0
  let payload ← payload.writeUInt16BE b.address 1
  let payload ← payload.writeUInt16BE b.quantity 3
  let payload ← payload.writeUInt8 b.numberOfBytes 5
  return Buffer.copy b.valuesAsBuffer payload 6

/-! ### The decoder in closed form -/

/-- The body the constructor makes of a buffer of whole words. -/
def ofBuffer (address : Int) (values : Buffer) : WriteMultipleRegistersRequestBody :=
  { address, values := .buffer values, byteCount := min (values.length + 6) 0xF6,
    numberOfBytes := values.length, quantity := (values.length / 2 : Nat),
    valuesAsBuffer := values, valuesAsArray := (words values).map (↑) }

/-- The constructor on a buffer: its length has to be even, and at most 246. -/
theorem new_buffer {address : Int} (values : Buffer) (ha : address ≤ 0xFFFF) :
    (new address (.buffer values)).toOption =
      if values.length ≤ 246 ∧ values.length % 2 = 0 then some (ofBuffer address values)
      else none := by
  have ha' : ¬ address > 0xFFFF := by omega
  by_cases hl : values.length ≤ 246
  · have hl' : ¬ values.length > 0x7b * 2 := by omega
    by_cases he : values.length % 2 = 0
    · have hround : (values.length + 1) / 2 = values.length / 2 := by omega
      have hread := readWords_append [] (r := values) (n := values.length / 2) (by omega)
      rw [List.take_of_length_le (by omega)] at hread
      rw [if_pos ⟨hl, he⟩]
      simp only [new, bind, Except.bind, pure, Except.pure, ha', hl', if_false, hround]
      simp only [List.nil_append, List.length_nil] at hread
      rw [hread]
      rfl
    · obtain ⟨e, hread⟩ := readWords_eq_error values (n := (values.length + 1) / 2) 0
        (by omega) (by omega)
      rw [if_neg fun h => he h.2]
      simp only [new, bind, Except.bind, ha', hl', if_false, hread]
      rfl
  · have hl' : values.length > 0x7b * 2 := by omega
    rw [if_neg fun h => hl h.1]
    simp only [new, bind, Except.bind, ha', hl', if_false, if_true]
    rfl

theorem readFields_eq (buffer : Buffer) :
    tryOrNull (readFields buffer) = match buffer with
      | f :: a :: a' :: _ :: _ :: n :: rest =>
        if f.toNat = FC.writeMultipleHoldingRegisters.code then
          some (u16 a a', rest.take n.toNat)
        else none
      | _ => none := by
  rcases buffer with _ | ⟨f, _ | ⟨a, _ | ⟨a', _ | ⟨q, _ | ⟨q', _ | ⟨n, rest⟩⟩⟩⟩⟩⟩
  case cons.cons.cons.cons.cons.cons =>
    have hsub : subarray (f :: a :: a' :: q :: q' :: n :: rest) 6 (6 + n.toNat)
        = rest.take n.toNat := by
      simpa using subarray_append [f, a, a', q, q', n] rest n.toNat
    simp [readFields, readUInt8, readUInt16BE, byteAt, bind, Except.bind, pure,
      Except.pure, hsub]
    split <;> rfl
  all_goals
    simp [readFields, readUInt8, readUInt16BE, byteAt, bind, Except.bind, pure, Except.pure]

/-- The decoder as a function of the bytes in front: the quantity field is not read. -/
theorem fromBuffer_cons (f a a' q q' n : UInt8) (rest : Buffer) :
    fromBuffer (f :: a :: a' :: q :: q' :: n :: rest) =
      if f.toNat = FC.writeMultipleHoldingRegisters.code ∧
          (rest.take n.toNat).length ≤ 246 ∧ (rest.take n.toNat).length % 2 = 0 then
        some (ofBuffer (u16 a a') (rest.take n.toNat))
      else none := by
  have ha : (u16 a a' : Int) ≤ 0xFFFF := (isUInt16_u16 a a').2
  rw [fromBuffer, ofFields_eq, readFields_eq]
  by_cases hf : f.toNat = FC.writeMultipleHoldingRegisters.code
  · simp only [if_pos hf, Option.bind_some, new_buffer _ ha]
    simp only [hf, true_and]
  · simp only [if_neg hf]
    rw [if_neg fun h => hf h.1]
    rfl

/-- A buffer of less than six bytes is not decoded. -/
theorem fromBuffer_short {buffer : Buffer} (h : buffer.length < 6) :
    fromBuffer buffer = none := by
  rw [fromBuffer, ofFields_eq, readFields_eq]
  split
  · simp at h
    omega
  · rfl

/-- What is decoded is what the constructor makes of the data bytes, which are whole words. -/
theorem eq_ofBuffer {buffer : Buffer} {b : WriteMultipleRegistersRequestBody}
    (h : fromBuffer buffer = some b) :
    ∃ (address : Nat) (values : Buffer), address < 65536 ∧ values.length ≤ 246 ∧
      values.length % 2 = 0 ∧ b = ofBuffer address values := by
  rcases buffer with _ | ⟨f, _ | ⟨a, _ | ⟨a', _ | ⟨q, _ | ⟨q', _ | ⟨n, rest⟩⟩⟩⟩⟩⟩
  case cons.cons.cons.cons.cons.cons =>
    rw [fromBuffer_cons] at h
    split at h
    · rename_i hdata
      exact ⟨_, _, u16_lt a a', hdata.2.1, hdata.2.2, (Option.some.inj h).symm⟩
    · cases h
  all_goals
    rw [fromBuffer_short (by simp)] at h
    cases h

/-! ### The encoder in closed form -/

/-- The payload of a body whose sizes agree. -/
theorem createPayload_eq {b : WriteMultipleRegistersRequestBody} {n : Nat}
    (ha : IsUInt16 b.address) (hq : IsUInt16 b.quantity) (hn : b.numberOfBytes = n)
    (hn' : n < 256) (hlen : b.valuesAsBuffer.length = n) :
    b.createPayload = .ok (UInt8.ofNat FC.writeMultipleHoldingRegisters.code ::
      (be16 b.address.toNat ++
        (be16 b.quantity.toNat ++ UInt8.ofNat n :: b.valuesAsBuffer))) := by
  have halloc : Buffer.alloc (n + 6) = .ok (0 :: 0 :: 0 :: 0 :: 0 :: 0 :: List.replicate n 0) :=
    alloc_natCast (n + 6)
  have hfc : IsUInt8 FC.writeMultipleHoldingRegisters.code := by decide
  have hcopy := copy_append b.valuesAsBuffer
    (UInt8.ofNat FC.writeMultipleHoldingRegisters.code ::
      (be16 b.address.toNat ++ (be16 b.quantity.toNat ++ [UInt8.ofNat n])))
    (r := List.replicate n 0) (by rw [List.length_replicate, hlen])
  rw [List.length_replicate, List.take_of_length_le (Nat.le_of_eq hlen)] at hcopy
  have hcomm : (6 + n : Int) = n + 6 := by omega
  simp (disch := omega) [createPayload, hcomm, halloc, bind, Except.bind, pure, Except.pure,
    writeUInt8, writeUInt16BE, setByte, hfc, ha, hq, hn, isUInt8_natCast hn', if_pos]
  exact hcopy

theorem address_of_createPayload {b : WriteMultipleRegistersRequestBody} {p : Buffer}
    (hp : b.createPayload = .ok p) : IsUInt16 b.address := by
  obtain ⟨_, _, hp⟩ := bind_eq_ok.mp hp
  obtain ⟨_, _, hp⟩ := bind_eq_ok.mp hp
  obtain ⟨_, haddress, _⟩ := bind_eq_ok.mp hp
  exact isUInt16_of_writeUInt16BE haddress

/-! ### What the constructor makes -/

/-- The bodies the constructor makes, of an array or of a buffer. -/
def Constructed (b : WriteMultipleRegistersRequestBody) : Prop :=
  ∃ address values, new address values = .ok b

/-- The sizes of a body of `n` registers agree with each other and with the data. -/
structure Coherent (b : WriteMultipleRegistersRequestBody) (n : Nat) : Prop where
  quantity : b.quantity = n
  numberOfBytes : b.numberOfBytes = (2 * n : Nat)
  byteCount : b.byteCount = (2 * n + 6 : Nat)
  length_eq : b.valuesAsBuffer.length = 2 * n
  valuesAsArray : b.valuesAsArray = (words b.valuesAsBuffer).map (↑)

/-- The sizes of any body of `n` registers. Above 120 registers the byte count is cut off. -/
structure Sized (b : WriteMultipleRegistersRequestBody) (n : Nat) : Prop where
  le : n ≤ 123
  quantity : b.quantity = n
  numberOfBytes : b.numberOfBytes = (2 * n : Nat)
  byteCount : b.byteCount = min ((2 * n + 6 : Nat) : Int) 0xF6
  length_eq : b.valuesAsBuffer.length = 2 * n
  valuesAsArray : b.valuesAsArray = (words b.valuesAsBuffer).map (↑)

/-- Up to 120 registers nothing is cut off. -/
theorem Sized.coherent {b : WriteMultipleRegistersRequestBody} {n : Nat} (h : Sized b n)
    (hle : n ≤ 120) : Coherent b n := by
  have hcount := h.byteCount
  exact ⟨h.quantity, h.numberOfBytes, by omega, h.length_eq, h.valuesAsArray⟩

/-- The constructor on an array of at most 123 words. -/
theorem new_array {address : Int} {values : List Int} (ha : address ≤ 0xFFFF)
    (hlen : values.length ≤ 123) (hv : ∀ v ∈ values, IsUInt16 v) :
    new address (.array values) =
      .ok { address, values := .array values, byteCount := min (2 * values.length + 6) 0xF6,
            numberOfBytes := 2 * values.length, quantity := values.length,
            valuesAsBuffer := ofWords (values.map Int.toNat), valuesAsArray := values } := by
  have ha' : ¬ address > 0xFFFF := by omega
  have hl : ¬ values.length > 0x7b := by omega
  have hwrite := writeWords_append [] (List.replicate (2 * values.length) 0) [] (by simp) hv
  simp only [List.nil_append, List.append_nil, List.length_nil] at hwrite
  simp only [new, bind, Except.bind, pure, Except.pure, ha', hl, if_false,
    alloc_natCast, hwrite]

/-- The arrays the constructor accepts, and the fields it fills in. -/
theorem accepted_of_array {address : Int} {values : List Int}
    {b : WriteMultipleRegistersRequestBody} (h : new address (.array values) = .ok b) :
    b.address = address ∧ address ≤ 0xFFFF ∧ values.length ≤ 123 ∧ ∀ v ∈ values,
      IsUInt16 v := by
  by_cases ha : address > 0xFFFF
  · simp [new, bind, Except.bind, throw, throwThe, MonadExceptOf.throw, ha] at h
  by_cases hl : values.length > 0x7b
  · simp only [new, bind, Except.bind, throw, throwThe, MonadExceptOf.throw, ha, hl, if_false,
      if_true] at h
    cases h
  by_cases hv : ∀ v ∈ values, IsUInt16 v
  · rw [new_array (by omega) (by omega) hv] at h
    obtain rfl := Except.ok.inj h
    exact ⟨rfl, by omega, by omega, hv⟩
  · -- a value that is no word is refused when it is written
    obtain ⟨v, hmem, hv⟩ : ∃ v ∈ values, ¬ IsUInt16 v := by
      by_contra hno
      exact hv fun v hmem => by_contra fun h => hno ⟨v, hmem, h⟩
    obtain ⟨e, he⟩ := writeWords_eq_error (List.replicate (2 * values.length) 0) 0 hmem hv
    simp only [new, bind, Except.bind, ha, hl, if_false, alloc_natCast, he] at h
    cases h

theorem sized_of_array {address : Int} {values : List Int}
    {b : WriteMultipleRegistersRequestBody} (h : new address (.array values) = .ok b) :
    Sized b values.length := by
  obtain ⟨-, ha, hl, hv⟩ := accepted_of_array h
  rw [new_array ha hl hv] at h
  obtain rfl := Except.ok.inj h
  have hbytes : 2 * (values.length : Int) = (2 * values.length : Nat) := by omega
  have hcount : min (2 * (values.length : Int) + 6) 0xF6 =
      min ((2 * values.length + 6 : Nat) : Int) 0xF6 := by omega
  exact ⟨hl, rfl, hbytes, hcount, by simp, (words_ofWords_toNat hv).symm⟩

/-- The buffers the constructor accepts. -/
theorem accepted_of_buffer {address : Int} {values : Buffer}
    {b : WriteMultipleRegistersRequestBody} (h : new address (.buffer values) = .ok b) :
    b = ofBuffer address values ∧ address ≤ 0xFFFF ∧ values.length ≤ 246 ∧
    values.length % 2 = 0 := by
  have ha : address ≤ 0xFFFF := by
    by_contra ha
    have ha' : address > 0xFFFF := by omega
    simp [new, bind, Except.bind, throw, throwThe, MonadExceptOf.throw, ha'] at h
  have hopt := new_buffer values ha
  rw [h] at hopt
  split at hopt
  · rename_i heven
    exact ⟨Option.some.inj hopt, ha, heven⟩
  · cases hopt

theorem sized_of_buffer {address : Int} {values : Buffer}
    {b : WriteMultipleRegistersRequestBody} (h : new address (.buffer values) = .ok b) :
    Sized b (values.length / 2) := by
  obtain ⟨rfl, -, hl, heven⟩ := accepted_of_buffer h
  have hlen : values.length = 2 * (values.length / 2) := by omega
  have hcount : min ((values.length : Int) + 6) 0xF6 =
      min ((2 * (values.length / 2) + 6 : Nat) : Int) 0xF6 := by omega
  exact ⟨by omega, rfl, congrArg Nat.cast hlen, hcount, hlen, rfl⟩

/-- Whatever the constructor makes has the sizes of its quantity. -/
theorem Constructed.sized {b : WriteMultipleRegistersRequestBody} (h : Constructed b) :
    Sized b b.quantity.toNat := by
  obtain ⟨address, values, h⟩ := h
  cases values with
  | buffer values =>
    have hsized := sized_of_buffer h
    rw [hsized.quantity, Int.toNat_natCast]
    exact hsized
  | array values =>
    have hsized := sized_of_array h
    rw [hsized.quantity, Int.toNat_natCast]
    exact hsized

/-- Whatever the constructor makes for at most 120 registers is coherent. -/
theorem Constructed.coherent {b : WriteMultipleRegistersRequestBody} (h : Constructed b)
    (hle : b.quantity ≤ 120) : Coherent b b.quantity.toNat :=
  h.sized.coherent (by omega)

end WriteMultipleRegistersRequestBody

end NodeModbus

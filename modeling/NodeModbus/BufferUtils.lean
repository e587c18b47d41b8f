import NodeModbus.Request.WriteMultiple

/-!
# Buffer utilities

The two functions of `BufferUtils` the server and the responses use, and the
slice of a JavaScript array.

- `bufferToArrayStatus_eq`, `arrayStatusToBuffer_eq`: the loops are `Bits.unpack`
  and `Bits.pack`.
- `unpacking_packing_inverse`: the two are inverse to each other, and adding up
  the powers of two never leaves a byte.
-/

namespace NodeModbus

open Buffer

/-- `array.slice(start, stop)`: negative indices count from the end. -/
def arraySlice {α : Type} (array : List α) (start stop : Int) : List α :=
  let clamp (i : Int) : Nat :=
    if i < 0 then (array.length + i).toNat else min i.toNat array.length
  (array.take (clamp stop)).drop (clamp start)

theorem arraySlice_natCast {α : Type} (array : List α) (m n : Nat) :
    arraySlice array m n = (array.take n).drop m := by
  have hm : ¬ (m : Int) < 0 := by omega
  have hn : ¬ (n : Int) < 0 := by omega
  simp only [arraySlice, if_neg hm, if_neg hn, Int.toNat_natCast]
  refine List.ext_getElem? ?_
  intro i
  simp only [List.getElem?_drop, List.getElem?_take]
  -- inside the array the clamp does nothing, and outside there is nothing either way
  rcases Nat.lt_or_ge (min m array.length + i) array.length with h | h
  · have hmin : min m array.length = m := by omega
    rw [hmin]
    by_cases hlt : m + i < n
    · rw [if_pos hlt, if_pos (by omega)]
    · rw [if_neg hlt, if_neg (by omega)]
  · rw [List.getElem?_eq_none h, List.getElem?_eq_none (by omega), ite_self, ite_self]

namespace BufferUtils

/-- `bufferToArrayStatus(buffer)`: the bits of a buffer. -/
def bufferToArrayStatus (buffer : Buffer) : Except Thrown (List Bool) :=
  WriteMultipleCoilsRequestBody.unpackLoop buffer (buffer.length * 8)

/-- The loop of `arrayStatusToBuffer`, from index `i` on. -/
def packStatus : List Bool → Nat → Buffer → Except Thrown Buffer
  | [], _, buffer => .ok buffer
  | value :: rest, i, buffer => do
    let byte ← buffer.readUInt8 ((i / 8 : Nat) : Int)
    let buffer ← buffer.writeUInt8 (byte + if value then 2 ^ (i % 8) else 0 : Nat)
      ((i / 8 : Nat) : Int)
    packStatus rest (i + 1) buffer

/-- `arrayStatusToBuffer(array)`. -/
def arrayStatusToBuffer (array : List Bool) : Except Thrown Buffer := do
  let buffer ← Buffer.alloc (ceilDiv8 array.length)
  packStatus array 0 buffer

theorem bufferToArrayStatus_eq (buffer : Buffer) :
    bufferToArrayStatus buffer = .ok (Bits.unpack buffer) := by
  rw [bufferToArrayStatus, WriteMultipleCoilsRequestBody.unpackLoop_eq (by omega),
    List.take_of_length_le (by rw [Bits.length_unpack]; omega)]

/-- Setting the next entry adds its power of two to the byte it goes to. -/
theorem toNat_byte_set (done rest : List Bool) (v : Bool) :
    (Bits.byte fun k => (done ++ List.replicate (rest.length + 1) false).getD
        (8 * (done.length / 8) + k) false).toNat + (if v then 2 ^ (done.length % 8) else 0) =
      (Bits.byte fun k => if k = done.length % 8 ∧
          done.length < (done ++ List.replicate (rest.length + 1) false).length then v
        else (done ++ List.replicate (rest.length + 1) false).getD
          (8 * (done.length / 8) + k) false).toNat := by
  have hin : done.length < (done ++ List.replicate (rest.length + 1) false).length := by simp
  have hzero : ∀ j, done.length % 8 ≤ j → (done ++ List.replicate (rest.length + 1) false).getD
      (8 * (done.length / 8) + j) false = false := by
    intro j hj
    rw [List.getD_append_right _ _ _ _ (by omega)]
    simp
  simp only [hin, and_true]
  exact Bits.toNat_byte_add (Nat.mod_lt _ (by decide)) hzero v

/-- The loop invariant: the entries `done` are packed, and the others are still zero. -/
theorem packStatus_inv (rest done : List Bool) :
    packStatus rest done.length (Bits.pack (done ++ List.replicate rest.length false)) =
      .ok (Bits.pack (done ++ rest)) := by
  induction rest generalizing done with
  | nil => simp [packStatus]
  | cons v rest ih =>
    rw [List.length_cons, packStatus]
    have hlt : done.length / 8 <
        (Bits.pack (done ++ List.replicate (rest.length + 1) false)).length := by
      simp
      omega
    -- the byte the next entry goes to, as the invariant has it
    have hread : readUInt8 (Bits.pack (done ++ List.replicate (rest.length + 1) false))
        ((done.length / 8 : Nat) : Int) = .ok (Bits.byte fun k =>
          (done ++ List.replicate (rest.length + 1) false).getD
            (8 * (done.length / 8) + k) false).toNat := by
      rw [readUInt8, byteAt_natCast, List.getElem?_eq_getElem hlt, Bits.getElem_pack]
      rfl
    have hset : (done ++ List.replicate (rest.length + 1) false).set done.length v
        = (done ++ [v]) ++ List.replicate rest.length false := by
      simp [List.replicate_succ]
    have hwrite := fun x : UInt8 => writeUInt8_natCast (b := Bits.pack
      (done ++ List.replicate (rest.length + 1) false)) x hlt
    rw [hread]
    show (writeUInt8 _ ((_ : Nat) : Int) _ >>= fun b => packStatus rest (done.length + 1) b) = _
    rw [toNat_byte_set, hwrite, ← Bits.pack_set, hset]
    show packStatus rest (done.length + 1) _ = _
    have hnext := ih (done ++ [v])
    rw [List.length_append, List.length_singleton] at hnext
    rw [hnext, List.append_assoc, List.singleton_append]

/-- The loop packs the array. -/
theorem arrayStatusToBuffer_eq (array : List Bool) :
    arrayStatusToBuffer array = .ok (Bits.pack array) := by
  have hinv := packStatus_inv array []
  have hzero : Bits.pack (List.replicate array.length false) =
      List.replicate ((array.length + 7) / 8) 0 := by
    refine List.ext_getElem (by simp) ?_
    intro i h₁ h₂
    rw [Bits.getElem_pack, List.getElem_replicate]
    refine Bits.byte_false ?_
    intro k _
    simp
  -- the buffer the loop starts from is the packing of as many false entries
  rw [List.nil_append, List.nil_append, hzero] at hinv
  rw [arrayStatusToBuffer, WriteMultipleCoilsRequestBody.ceilDiv8_natCast, alloc_natCast]
  exact hinv

/-! ## Inverse to each other -/

/-- The loop over two parts of an array, one after the other. -/
theorem packStatus_append (done rest : List Bool) (i : Nat) (buffer : Buffer) :
    packStatus (done ++ rest) i buffer =
      packStatus done i buffer >>= packStatus rest (i + done.length) := by
  induction done generalizing i buffer with
  | nil => rfl
  | cons v done ih =>
    simp only [List.cons_append, packStatus, List.length_cons, bind_assoc, ih]
    rw [Nat.add_assoc i 1, Nat.add_comm 1]

/-- In every round of the loop over the array, the byte read back from the buffer still has room
for what is added to it. -/
def AccumulatesInBytes (array : List Bool) : Prop :=
  ∀ done v rest, array = done ++ v :: rest → ∃ start buffer byte,
    Buffer.alloc (ceilDiv8 array.length) = .ok start ∧
    packStatus done 0 start = .ok buffer ∧
    buffer.readUInt8 ((done.length / 8 : Nat) : Int) = .ok byte ∧
    byte + (if v then 2 ^ (done.length % 8) else 0) ≤ 0xFF

/-- The loop writes what it adds up, and a write of more than a byte would have thrown. -/
theorem accumulatesInBytes (array : List Bool) : AccumulatesInBytes array := by
  intro done v rest harray
  obtain ⟨start, hstart, hloop⟩ := bind_eq_ok.mp (arrayStatusToBuffer_eq array)
  rw [harray, packStatus_append] at hloop
  obtain ⟨buffer, hdone, hround⟩ := bind_eq_ok.mp hloop
  rw [Nat.zero_add, packStatus] at hround
  obtain ⟨byte, hread, hround⟩ := bind_eq_ok.mp hround
  obtain ⟨_, hwrite, _⟩ := bind_eq_ok.mp hround
  have hfits := isUInt8_of_writeUInt8 hwrite
  refine ⟨start, buffer, byte, hstart, hdone, hread, ?_⟩
  unfold IsUInt8 at hfits
  omega

/-- Unpacking and packing are inverse: a buffer comes back from its bits, and an array, whose
entries are read by their truth values, comes back padded to whole bytes. -/
theorem unpacking_packing_inverse {α : Type} (truthy : α → Bool) :
    (∀ buffer : Buffer, ∃ status, bufferToArrayStatus buffer = .ok status ∧
      status.length = 8 * buffer.length ∧
      (∀ i, status[i]? = buffer[i / 8]?.map fun byte => byte.toNat.testBit (i % 8)) ∧
      arrayStatusToBuffer status = .ok buffer) ∧
    ∀ array : List α, ∃ buffer, arrayStatusToBuffer (array.map truthy) = .ok buffer ∧
      buffer.length = (array.length + 7) / 8 ∧
      AccumulatesInBytes (array.map truthy) ∧
      bufferToArrayStatus buffer = .ok (array.map truthy ++
        List.replicate (8 * ((array.length + 7) / 8) - array.length) false) := by
  constructor
  · intro buffer
    refine ⟨Bits.unpack buffer, bufferToArrayStatus_eq buffer, Bits.length_unpack buffer,
      Bits.getElem?_unpack buffer, ?_⟩
    rw [arrayStatusToBuffer_eq, Bits.pack_unpack]
  · intro array
    refine ⟨Bits.pack (array.map truthy), arrayStatusToBuffer_eq _, ?_,
      accumulatesInBytes _, ?_⟩
    · rw [Bits.length_pack, List.length_map]
    · rw [bufferToArrayStatus_eq, Bits.unpack_pack, List.length_map]

end BufferUtils

end NodeModbus

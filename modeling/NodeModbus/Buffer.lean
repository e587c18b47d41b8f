import NodeModbus.Lib.Overwrite
import NodeModbus.Lib.Words

/-!
# Node buffers

The part of Node's `Buffer` the repository uses. A buffer is the list of its
bytes: the views `subarray` and `slice` make are never written through, so a
view is a copy here. JavaScript numbers that reach a buffer operation are
integers; an offset outside the buffer, or a value that does not fit, throws.

- `Thrown`: what the code throws, with the text of its errors.
- `readUInt8`, `readUInt16BE`, `readUInt16LE`, `writeUInt8`, `writeUInt16BE`:
  bounds and value checks as in Node.
- `subarray`, `copy`, `fill`: index clamping as in Node.
- `byteAt_append`, `setByte_append`, `copy_append`: the operations at a position
  given as the length of what stands before it; every encoder below is
  evaluated with these.
-/

namespace NodeModbus

/-- What a call can throw: Node's range errors, an `Error` of the code with its
message, and a failed `assert`. -/
inductive Thrown where
  | rangeError
  | error (message : String)
  | assertion (message : String)
  deriving DecidableEq, Repr

/-- A `try` block that returns, with a `catch` that returns `null`. -/
def tryOrNull {α : Type} : Except Thrown (Option α) → Option α
  | .ok x => x
  | .error _ => none

@[simp] theorem tryOrNull_ok {α : Type} (x : Option α) : tryOrNull (.ok x) = x := rfl

@[simp] theorem tryOrNull_error {α : Type} (e : Thrown) :
    tryOrNull (.error e : Except Thrown (Option α)) = none := rfl

/-- A sequence of calls returns when each of them does. -/
theorem bind_eq_ok {α β : Type} {x : Except Thrown α} {f : α → Except Thrown β} {b : β} :
    x >>= f = .ok b ↔ ∃ a, x = .ok a ∧ f a = .ok b := by
  cases x with
  | error e => exact ⟨fun h => (nomatch h), fun ⟨_, h, _⟩ => (nomatch h)⟩
  | ok a => exact ⟨fun h => ⟨a, rfl, h⟩, fun ⟨_, h, hf⟩ => Except.ok.inj h ▸ hf⟩

theorem eq_ok_of_toOption {α : Type} {x : Except Thrown α} {a : α} (h : x.toOption = some a) :
    x = .ok a := by
  cases x with
  | error e => cases h
  | ok b => exact congrArg Except.ok (Option.some.inj h)

/-- A loop none of whose rounds throws. -/
theorem mapM_ok {α β : Type} {f : α → Except Thrown β} {g : α → β} {l : List α}
    (h : ∀ x ∈ l, f x = .ok (g x)) : l.mapM f = .ok (l.map g) := by
  induction l with
  | nil => rfl
  | cons x l ih =>
    rw [List.mapM_cons, h x (List.mem_cons_self ..),
      ih fun y hy => h y (List.mem_cons_of_mem _ hy)]
    rfl

/-- A Node buffer, as the list of its bytes. -/
abbrev Buffer := List UInt8

/-- `Buffer.from([x])`: the value is cut to a byte. -/
def toByte (x : Int) : UInt8 := UInt8.ofNat (x % 256).toNat

@[simp] theorem toByte_toNat (x : UInt8) : toByte x.toNat = x := by
  have hx := x.toNat_lt
  rw [toByte, Int.emod_eq_of_lt (by omega) (by omega), Int.toNat_natCast, UInt8.ofNat_toNat]

namespace Buffer

open Words

/-! ## Reading -/

/-- The byte at `offset`, which has to lie inside the buffer. -/
def byteAt (b : Buffer) (offset : Int) : Except Thrown UInt8 :=
  -- `toNat` would take a negative offset for 0
  if offset < 0 then .error .rangeError
  else match b[offset.toNat]? with
    | some x => .ok x
    | none => .error .rangeError

/-- `buf.readUInt8(offset)`. -/
def readUInt8 (b : Buffer) (offset : Int) : Except Thrown Nat := do
  let x ← b.byteAt offset
  return x.toNat

/-- `buf.readUInt16BE(offset)`. -/
def readUInt16BE (b : Buffer) (offset : Int) : Except Thrown Nat := do
  let hi ← b.byteAt offset
  let lo ← b.byteAt (offset + 1)
  return u16 hi lo

/-- `buf.readUInt16LE(offset)`. -/
def readUInt16LE (b : Buffer) (offset : Int) : Except Thrown Nat := do
  let lo ← b.byteAt offset
  let hi ← b.byteAt (offset + 1)
  return u16 hi lo

/-! ## Writing -/

/-- The values `writeUInt8` accepts. -/
def IsUInt8 (v : Int) : Prop := 0 ≤ v ∧ v ≤ 0xFF

/-- The values `writeUInt16BE` and `writeUInt16LE` accept. -/
def IsUInt16 (v : Int) : Prop := 0 ≤ v ∧ v ≤ 0xFFFF

instance (v : Int) : Decidable (IsUInt8 v) := inferInstanceAs (Decidable (_ ∧ _))

instance (v : Int) : Decidable (IsUInt16 v) := inferInstanceAs (Decidable (_ ∧ _))

/-- `Buffer.alloc(size)`: zero bytes; a negative size throws. -/
def alloc (size : Int) : Except Thrown Buffer :=
  if size < 0 then .error .rangeError else .ok (List.replicate size.toNat 0)

/-- Store one byte at `offset`, which has to lie inside the buffer. -/
def setByte (b : Buffer) (offset : Int) (x : UInt8) : Except Thrown Buffer :=
  if 0 ≤ offset ∧ offset < b.length then .ok (b.set offset.toNat x) else .error .rangeError

/-- `buf.writeUInt8(value, offset)`. -/
def writeUInt8 (b : Buffer) (value offset : Int) : Except Thrown Buffer :=
  if IsUInt8 value then b.setByte offset (UInt8.ofNat value.toNat)
  else .error .rangeError

/-- `buf.writeUInt16BE(value, offset)`. -/
def writeUInt16BE (b : Buffer) (value offset : Int) : Except Thrown Buffer :=
  if IsUInt16 value then do
    let b ← b.setByte offset (UInt8.ofNat (value.toNat / 256))
    b.setByte (offset + 1) (UInt8.ofNat (value.toNat % 256))
  else .error .rangeError

/-- `buf.writeUInt16LE(value, offset)`. -/
def writeUInt16LE (b : Buffer) (value offset : Int) : Except Thrown Buffer :=
  if IsUInt16 value then do
    let b ← b.setByte offset (UInt8.ofNat (value.toNat % 256))
    b.setByte (offset + 1) (UInt8.ofNat (value.toNat / 256))
  else .error .rangeError

/-! ## Views, copies and fills -/

/-- An index of `subarray`: counted from the end when negative, cut to the length. -/
def clampIndex (b : Buffer) (i : Int) : Nat :=
  if i < 0 then (b.length + i).toNat else min i.toNat b.length

/-- `buf.subarray(start, stop)`, and its older name `buf.slice(start, stop)`. -/
def subarray (b : Buffer) (start stop : Int) : Buffer :=
  (b.take (b.clampIndex stop)).drop (b.clampIndex start)

/-- `buf.subarray(start)`. -/
def subarrayFrom (b : Buffer) (start : Int) : Buffer :=
  b.drop (b.clampIndex start)

/-- `src.copy(target, targetStart)`: what does not fit into the target is cut off. -/
def copy (src target : Buffer) (targetStart : Nat) : Buffer :=
  -- the subtraction of naturals: nothing is copied behind the end of the target
  let n := min src.length (target.length - targetStart)
  target.take targetStart ++ src.take n ++ target.drop (targetStart + n)

/-- `buf.fill(value, offset, stop)` for a byte array `value`: the range is checked,
and `value` is repeated over it; an empty value cannot fill a non-empty range. -/
def fill (b value : Buffer) (offset stop : Int) : Except Thrown Buffer :=
  if offset < 0 ∨ stop < 0 ∨ (b.length : Int) < stop then .error .rangeError
  -- Node returns before it looks at the value
  else if stop ≤ offset then .ok b
  else if value.length = 0 then .error .rangeError
  else .ok (b.mapIdx fun i x =>
    if offset ≤ i ∧ i < stop then value.getD ((i - offset.toNat) % value.length) 0 else x)

/-! ## Ranges -/

theorem isUInt8_natCast {n : Nat} (h : n < 256) : IsUInt8 n := by
  unfold IsUInt8
  omega

theorem isUInt8_toNat (x : UInt8) : IsUInt8 x.toNat := isUInt8_natCast x.toNat_lt

/-- A byte value comes back from its byte. -/
theorem toNat_ofNat_of_isUInt8 {v : Int} (h : IsUInt8 v) :
    ((UInt8.ofNat v.toNat).toNat : Int) = v := by
  unfold IsUInt8 at h
  rw [toNat_ofNat_of_lt (by omega), Int.toNat_of_nonneg h.1]

theorem isUInt16_natCast {n : Nat} (h : n < 65536) : IsUInt16 n := by
  unfold IsUInt16
  omega

theorem isUInt16_u16 (hi lo : UInt8) : IsUInt16 (u16 hi lo) := isUInt16_natCast (u16_lt hi lo)

/-- The words of the bytes of words. -/
theorem words_ofWords_toNat {values : List Int} (h : ∀ v ∈ values, IsUInt16 v) :
    (words (ofWords (values.map Int.toNat))).map (↑) = values := by
  have hlt : ∀ w ∈ values.map Int.toNat, w < 65536 := by
    intro w hw
    obtain ⟨v, hv, rfl⟩ := List.mem_map.mp hw
    have hv' := h v hv
    unfold IsUInt16 at hv'
    omega
  have hwords : words (ofWords (values.map Int.toNat) ++ []) = values.map Int.toNat :=
    words_ofWords hlt (by simp)
  have hid : ∀ v ∈ values, ((fun n : Nat => (n : Int)) ∘ Int.toNat) v = id v := fun v hv =>
    Int.toNat_of_nonneg (h v hv).1
  rw [List.append_nil] at hwords
  rw [hwords, List.map_map, List.map_congr_left hid, List.map_id]

/-! ## The operations at a known position -/

@[simp] theorem byteAt_append (p : Buffer) (x : UInt8) (r : Buffer) :
    byteAt (p ++ x :: r) p.length = .ok x := by
  simp [byteAt]

theorem byteAt_natCast (b : Buffer) (n : Nat) :
    byteAt b n = match b[n]? with
      | some x => .ok x
      | none => .error .rangeError := by
  have hn : ¬ (n : Int) < 0 := by omega
  rw [byteAt, if_neg hn, Int.toNat_natCast]

theorem byteAt_eq_error {b : Buffer} {n : Nat} (h : b.length ≤ n) :
    byteAt b n = .error .rangeError := by
  simp [byteAt, List.getElem?_eq_none h]

theorem setByte_append (p : Buffer) (x y : UInt8) (r : Buffer) :
    setByte (p ++ x :: r) p.length y = .ok (p ++ y :: r) := by
  have hrange : (0 : Int) ≤ p.length ∧ (p.length : Int) < (p ++ x :: r).length := by
    rw [List.length_append, List.length_cons]
    omega
  rw [setByte, if_pos hrange]
  simp

theorem readUInt8_append (p : Buffer) (x : UInt8) (r : Buffer) :
    readUInt8 (p ++ x :: r) p.length = .ok x.toNat := by
  rw [readUInt8, byteAt_append]
  rfl

/-- Reading inside the buffer. -/
theorem readUInt8_natCast {b : Buffer} {n : Nat} (h : n < b.length) :
    readUInt8 b n = .ok (b.getD n 0).toNat := by
  rw [readUInt8, byteAt_natCast, List.getElem?_eq_getElem h, List.getD_eq_getElem _ _ h]
  rfl

theorem setByte_natCast {b : Buffer} {n : Nat} (x : UInt8) (h : n < b.length) :
    setByte b n x = .ok (b.set n x) := by
  rw [setByte, if_pos (by omega), Int.toNat_natCast]

/-- Storing a byte inside the buffer. -/
theorem writeUInt8_natCast {b : Buffer} {n : Nat} (x : UInt8) (h : n < b.length) :
    writeUInt8 b x.toNat n = .ok (b.set n x) := by
  rw [writeUInt8, if_pos (isUInt8_toNat x), setByte, if_pos (by omega), Int.toNat_natCast,
    Int.toNat_natCast, UInt8.ofNat_toNat]

/-- What stands behind the place that is written does not matter. -/
theorem writeUInt8_append_of_ok {b b' : Buffer} {v offset : Int}
    (h : writeUInt8 b v offset = .ok b') (tail : Buffer) :
    writeUInt8 (b ++ tail) v offset = .ok (b' ++ tail) := by
  unfold writeUInt8 setByte at h ⊢
  split at h
  · rename_i hv
    split at h
    · rename_i hoffset
      obtain rfl := Except.ok.inj h
      have hin : 0 ≤ offset ∧ offset < (b ++ tail).length := by
        rw [List.length_append]
        omega
      rw [if_pos hv, if_pos hin, List.set_append_left _ _ (by omega)]
    · cases h
  · cases h

theorem readUInt16BE_append (p : Buffer) (hi lo : UInt8) (r : Buffer) :
    readUInt16BE (p ++ hi :: lo :: r) p.length = .ok (u16 hi lo) := by
  have hlo : byteAt (p ++ hi :: lo :: r) ((p.length : Int) + 1) = .ok lo := by
    simpa using byteAt_append (p ++ [hi]) lo r
  rw [readUInt16BE, byteAt_append, hlo]
  rfl

theorem readUInt16BE_eq_error {b : Buffer} {n : Nat} (h : b.length ≤ n + 1) :
    readUInt16BE b n = .error .rangeError := by
  have hlo : byteAt b ((n : Int) + 1) = .error .rangeError := byteAt_eq_error (n := n + 1) h
  rw [readUInt16BE, hlo, byteAt_natCast]
  cases b[n]? <;> rfl

theorem writeUInt16BE_append (p : Buffer) (x y : UInt8) (r : Buffer) {v : Int}
    (h : IsUInt16 v) :
    writeUInt16BE (p ++ x :: y :: r) v p.length = .ok (p ++ (be16 v.toNat ++ r)) := by
  have hlo : setByte (p ++ UInt8.ofNat (v.toNat / 256) :: y :: r) ((p.length : Int) + 1)
      (UInt8.ofNat (v.toNat % 256)) = .ok (p ++ (be16 v.toNat ++ r)) := by
    simpa [be16] using setByte_append (p ++ [UInt8.ofNat (v.toNat / 256)]) y
      (UInt8.ofNat (v.toNat % 256)) r
  rw [writeUInt16BE, if_pos h, setByte_append]
  exact hlo

/-- Writing a word inside the buffer. -/
theorem writeUInt16BE_natCast {b : Buffer} {n : Nat} {v : Int} (hv : IsUInt16 v)
    (h : n + 2 ≤ b.length) :
    writeUInt16BE b v n = .ok (Overwrite.overwrite b n (be16 v.toNat)) := by
  have hlen : (b.take n).length = n := by rw [List.length_take]; omega
  -- the two bytes at `n`, to cut the buffer in front of them and behind them
  obtain ⟨x, y, r, hxy⟩ : ∃ x y r, b.drop n = x :: y :: r :=
    exists_eq_cons_cons (by rw [List.length_drop]; omega)
  have hwrite := writeUInt16BE_append (b.take n) x y r hv
  have hrest : b.drop (n + 2) = r := by
    rw [← List.drop_drop, hxy]
    rfl
  rw [hlen, ← hxy, List.take_append_drop] at hwrite
  rw [hwrite, Overwrite.overwrite, length_be16, hrest]

/-- A word of which a byte is missing is not written. -/
theorem exists_writeUInt16BE_error {b : Buffer} {n : Nat} (v : Int) (h : b.length ≤ n + 1) :
    ∃ e, writeUInt16BE b v n = .error e := by
  have hlo : ∀ b' : Buffer, b'.length ≤ n + 1 →
      ∀ x, setByte b' ((n : Int) + 1) x = .error .rangeError := by
    intro b' hb x
    rw [setByte, if_neg (by omega)]
  unfold writeUInt16BE
  split
  · cases hhi : setByte b n (UInt8.ofNat (v.toNat / 256)) with
    | error e => exact ⟨e, rfl⟩
    | ok b' =>
      refine ⟨.rangeError, hlo b' ?_ _⟩
      unfold setByte at hhi
      split at hhi
      · obtain rfl := Except.ok.inj hhi
        rw [List.length_set]
        exact h
      · cases hhi
  · exact ⟨_, rfl⟩

theorem readUInt8_eq_error {b : Buffer} {n : Nat} (h : b.length ≤ n) :
    readUInt8 b n = .error .rangeError := by
  rw [readUInt8, byteAt_eq_error h]
  rfl

theorem writeUInt16BE_eq_error (b : Buffer) {v : Int} (h : ¬ IsUInt16 v) (offset : Int) :
    writeUInt16BE b v offset = .error .rangeError := by
  rw [writeUInt16BE, if_neg h]

theorem writeUInt16LE_append (p : Buffer) (x y : UInt8) (r : Buffer) {v : Int}
    (h : IsUInt16 v) :
    writeUInt16LE (p ++ x :: y :: r) v p.length = .ok (p ++ (le16 v.toNat ++ r)) := by
  have hhi : setByte (p ++ UInt8.ofNat (v.toNat % 256) :: y :: r) ((p.length : Int) + 1)
      (UInt8.ofNat (v.toNat / 256)) = .ok (p ++ (le16 v.toNat ++ r)) := by
    simpa [le16] using setByte_append (p ++ [UInt8.ofNat (v.toNat % 256)]) y
      (UInt8.ofNat (v.toNat / 256)) r
  rw [writeUInt16LE, if_pos h, setByte_append]
  exact hhi

theorem readUInt16LE_append (p : Buffer) (lo hi : UInt8) (r : Buffer) :
    readUInt16LE (p ++ lo :: hi :: r) p.length = .ok (u16 hi lo) := by
  have hhi : byteAt (p ++ lo :: hi :: r) ((p.length : Int) + 1) = .ok hi := by
    simpa using byteAt_append (p ++ [lo]) hi r
  rw [readUInt16LE, byteAt_append, hhi]
  rfl

/-- A word is read back from its two bytes. -/
theorem readUInt16LE_le16 (p r : Buffer) {n : Nat} (h : n < 65536) :
    readUInt16LE (p ++ (le16 n ++ r)) p.length = .ok n :=
  (readUInt16LE_append p _ _ r).trans (congrArg Except.ok (u16_be16 h))

theorem readUInt16LE_eq_error {b : Buffer} {n : Nat} (h : b.length ≤ n + 1) :
    readUInt16LE b n = .error .rangeError := by
  have hhi : byteAt b ((n : Int) + 1) = .error .rangeError := byteAt_eq_error (n := n + 1) h
  rw [readUInt16LE, hhi, byteAt_natCast]
  cases b[n]? <;> rfl

/-- A word that was read lies inside the buffer. -/
theorem le_length_of_readUInt16LE {b : Buffer} {n v : Nat} (h : readUInt16LE b n = .ok v) :
    n + 2 ≤ b.length := by
  by_contra hlt
  rw [readUInt16LE_eq_error (by omega)] at h
  cases h

/-- A word that was read, with what stands before and behind it. -/
theorem eq_append_of_readUInt16LE {b : Buffer} {n v : Nat} (h : readUInt16LE b n = .ok v) :
    b = b.take n ++ (le16 v ++ b.drop (n + 2)) := by
  have hlen := le_length_of_readUInt16LE h
  obtain ⟨lo, hi, tail, htail⟩ := exists_eq_cons_cons (l := b.drop n) (by
    rw [List.length_drop]
    omega)
  have hsplit : b = b.take n ++ lo :: hi :: tail := by rw [← htail, List.take_append_drop]
  have hpos : (b.take n).length = n := by
    rw [List.length_take]
    omega
  have hread := readUInt16LE_append (b.take n) lo hi tail
  rw [← hsplit, hpos, h] at hread
  obtain rfl := Except.ok.inj hread
  -- the bytes are the ones the word is made of
  have hbytes : le16 (u16 hi lo) = [lo, hi] := by
    have hbe := be16_u16 hi lo
    simp only [be16, le16, List.cons.injEq, and_true] at hbe ⊢
    exact ⟨hbe.2, hbe.1⟩
  have hdrop : b.drop (n + 2) = tail := by
    rw [← List.drop_drop, htail]
    rfl
  rw [hbytes, hdrop]
  exact hsplit

theorem isUInt8_of_writeUInt8 {b b' : Buffer} {v offset : Int}
    (h : writeUInt8 b v offset = .ok b') : IsUInt8 v := by
  by_contra hv
  rw [writeUInt8, if_neg hv] at h
  cases h

/-- A write that returned had a value that fits. -/
theorem isUInt16_of_writeUInt16BE {b b' : Buffer} {v offset : Int}
    (h : writeUInt16BE b v offset = .ok b') : IsUInt16 v := by
  by_contra hv
  rw [writeUInt16BE_eq_error b hv] at h
  cases h

@[simp] theorem subarray_natCast (b : Buffer) (m n : Nat) :
    subarray b m n = (b.take n).drop m := by
  have hm : ¬ (m : Int) < 0 := by omega
  have hn : ¬ (n : Int) < 0 := by omega
  simp only [subarray, clampIndex, if_neg hm, if_neg hn, Int.toNat_natCast]
  -- an index behind the end takes, or drops, the whole buffer either way
  rcases Nat.le_total n b.length with hnl | hnl
  · rcases Nat.le_total m b.length with hml | hml
    · rw [Nat.min_eq_left hnl, Nat.min_eq_left hml]
    · rw [Nat.min_eq_left hnl, Nat.min_eq_right hml,
        List.drop_of_length_le (by rw [List.length_take]; omega),
        List.drop_of_length_le (by rw [List.length_take]; omega)]
  · rw [Nat.min_eq_right hnl, List.take_of_length_le (Nat.le_refl _),
      List.take_of_length_le hnl]
    rcases Nat.le_total m b.length with hml | hml
    · rw [Nat.min_eq_left hml]
    · rw [Nat.min_eq_right hml, List.drop_of_length_le (Nat.le_refl _),
        List.drop_of_length_le hml]

/-- A view of `n` bytes, as far as they are there. -/
theorem subarray_window (b : Buffer) (m n : Nat) :
    subarray b m ((m : Int) + n) = (b.drop m).take n := by
  rw [← Int.natCast_add, subarray_natCast, List.drop_take, Nat.add_sub_cancel_left]

/-- The view of `n` bytes behind a known front. -/
theorem subarray_append (p r : Buffer) (n : Nat) :
    subarray (p ++ r) p.length (p.length + n) = r.take n := by
  rw [← Int.natCast_add, subarray_natCast, List.take_length_add_append, List.drop_left]

@[simp] theorem subarrayFrom_natCast (b : Buffer) (n : Nat) : subarrayFrom b n = b.drop n := by
  have hn : ¬ (n : Int) < 0 := by omega
  simp only [subarrayFrom, clampIndex, if_neg hn, Int.toNat_natCast]
  rcases Nat.le_total n b.length with h | h
  · rw [Nat.min_eq_left h]
  · rw [Nat.min_eq_right h, List.drop_of_length_le (Nat.le_refl _), List.drop_of_length_le h]

theorem length_subarrayFrom (b : Buffer) {n : Int} (hn : 0 ≤ n) :
    (b.subarrayFrom n).length = b.length - n.toNat := by
  obtain ⟨m, rfl⟩ := Int.eq_ofNat_of_zero_le hn
  rw [subarrayFrom_natCast, List.length_drop, Int.toNat_natCast]

/-- Taking something off the front shortens a buffer. -/
theorem length_subarrayFrom_lt {b : Buffer} {n : Int} (hne : b ≠ []) (hn : 0 < n) :
    (b.subarrayFrom n).length < b.length := by
  have hpos := List.length_pos_iff.mpr hne
  rw [length_subarrayFrom b (Int.le_of_lt hn)]
  omega

/-- Copying at least as much as there is room for fills the room. -/
theorem copy_append (src p : Buffer) {r : Buffer} (h : r.length ≤ src.length) :
    copy src (p ++ r) p.length = p ++ src.take r.length := by
  have hn : min src.length ((p ++ r).length - p.length) = r.length := by
    rw [List.length_append, Nat.add_sub_cancel_left, Nat.min_eq_right h]
  simp only [copy, hn]
  simp

/-- Copying into room of the right size. -/
theorem copy_room {src room : Buffer} (p r : Buffer) (h : room.length = src.length) :
    copy src (p ++ (room ++ r)) p.length = p ++ (src ++ r) := by
  have hn : min src.length ((p ++ (room ++ r)).length - p.length) = src.length := by
    rw [List.length_append, List.length_append]
    omega
  simp only [copy, hn]
  rw [List.take_left, List.take_of_length_le (Nat.le_refl _), ← h, List.drop_length_add_append,
    List.drop_left, List.append_assoc]

/-- Copying overwrites a window, with as much as fits. -/
theorem copy_eq_overwrite (src target : Buffer) (t : Nat) :
    copy src target t = Overwrite.overwrite target t (src.take (target.length - t)) := by
  have htake : src.take (min src.length (target.length - t)) =
      src.take (target.length - t) := by
    rw [Nat.min_comm, ← List.take_eq_take_min]
  rw [copy, Overwrite.overwrite, htake, List.length_take, Nat.min_comm src.length,
    List.append_assoc]

theorem length_copy (src : Buffer) {target : Buffer} {t : Nat} (h : t ≤ target.length) :
    (copy src target t).length = target.length := by
  rw [copy_eq_overwrite, Overwrite.length_overwrite (by rw [List.length_take]; omega)]

/-- What stands where after copying. -/
theorem getElem?_copy {src target : Buffer} {t : Nat} (h : t ≤ target.length) (i : Nat) :
    (copy src target t)[i]? =
      if t ≤ i ∧ i < t + src.length ∧ i < target.length then src[i - t]? else target[i]? := by
  rw [copy_eq_overwrite, Overwrite.getElem?_overwrite (by rw [List.length_take]; omega),
    List.length_take]
  by_cases hi : i < t
  · rw [if_pos hi, if_neg (by omega)]
  · by_cases hw : i < t + src.length ∧ i < target.length
    · rw [if_neg hi, if_pos (by omega), if_pos (by omega), List.getElem?_take,
        if_pos (by omega)]
    · rw [if_neg hi, if_neg (by omega), if_neg (by omega)]

/-- Filling a window with a value of its size. -/
theorem fill_natCast {b value : Buffer} {a : Nat} (h : a + value.length ≤ b.length) :
    fill b value a ((a : Int) + value.length) = .ok (Overwrite.overwrite b a value) := by
  have hrange : ¬ ((a : Int) < 0 ∨ (a : Int) + value.length < 0 ∨
      (b.length : Int) < (a : Int) + value.length) := by omega
  rw [fill, if_neg hrange]
  rcases Nat.eq_zero_or_pos value.length with hzero | hpos
  · -- an empty window: the buffer is returned as it is
    obtain rfl := List.eq_nil_of_length_eq_zero hzero
    rw [if_pos (by simp), Overwrite.overwrite, List.nil_append, List.length_nil, Nat.add_zero,
      List.take_append_drop]
  · rw [if_neg (by omega), if_neg (by omega)]
    refine congrArg Except.ok (Overwrite.mapIdx_eq_overwrite h ?_ ?_)
    · -- the value is as long as the window, so it is not repeated
      intro i hi x
      rw [if_pos (by omega), Int.toNat_natCast, Nat.add_sub_cancel_left, Nat.mod_eq_of_lt hi,
        List.getD_eq_getElem _ _ hi]
    · intro i hi x
      rw [if_neg (by omega)]

/-- Filling a buffer with a value of its size. -/
theorem fill_all {b value : Buffer} (h : value.length = b.length) :
    fill b value 0 b.length = .ok value := by
  have hfill := @fill_natCast b value 0 (by omega)
  rw [Overwrite.overwrite_zero h, ← Int.natCast_add, Nat.zero_add, h] at hfill
  exact hfill

theorem alloc_natCast (n : Nat) : alloc n = .ok (List.replicate n 0) := by
  have hn : ¬ (n : Int) < 0 := by omega
  rw [alloc, if_neg hn, Int.toNat_natCast]

/-! ## Loops over 16-bit words -/

/-- `for (let i = 0; i < n; i += 2) words.push(buf.readUInt16BE(i))`, with the number of rounds
left and the offset of the next one. -/
def readWords (b : Buffer) : Nat → Nat → Except Thrown (List Nat)
  | 0, _ => .ok []
  | rounds + 1, offset => do
    let w ← b.readUInt16BE offset
    let ws ← b.readWords rounds (offset + 2)
    return w :: ws

/-- `values.forEach((v, i) => buf.writeUInt16BE(v, offset + 2 * i))`. -/
def writeWords (b : Buffer) : List Int → Nat → Except Thrown Buffer
  | [], _ => .ok b
  | v :: vs, offset => do
    let b ← b.writeUInt16BE v offset
    writeWords b vs (offset + 2)

/-- Reading as many words as the rest of the buffer has room for. -/
theorem readWords_append (p : Buffer) {r : Buffer} {n : Nat} (h : 2 * n ≤ r.length) :
    readWords (p ++ r) n p.length = .ok (words (r.take (2 * n))) := by
  -- the words that are read move from the rest to the front
  induction n generalizing p r with
  | zero => rfl
  | succ n ih =>
    obtain ⟨hi, lo, r', rfl⟩ := exists_eq_cons_cons (l := r) (by omega)
    have hr' : 2 * n ≤ r'.length := by simp at h; omega
    have hrest : readWords (p ++ hi :: lo :: r') n (p.length + 2) =
        .ok (words (r'.take (2 * n))) := by
      simpa using ih (p ++ [hi, lo]) hr'
    rw [readWords, readUInt16BE_append]
    show (readWords (p ++ hi :: lo :: r') n (p.length + 2)).bind _ = _
    rw [hrest, show 2 * (n + 1) = 2 * n + 1 + 1 from by omega]
    rfl

/-- Reading the whole words of a buffer. -/
theorem readWords_half (b : Buffer) : readWords b (b.length / 2) 0 = .ok (words b) := by
  have hread := readWords_append [] (r := b) (n := b.length / 2) (by omega)
  rw [words_take_half] at hread
  exact hread

/-- Reading past the end of the buffer throws. -/
theorem readWords_eq_error (b : Buffer) {n : Nat} (offset : Nat) (hn : 0 < n)
    (h : b.length < offset + 2 * n) : ∃ e, readWords b n offset = .error e := by
  induction n generalizing offset with
  | zero => exact absurd hn (Nat.lt_irrefl 0)
  | succ n ih =>
    rw [readWords]
    rcases Nat.eq_zero_or_pos n with rfl | hpos
    · exact ⟨_, by rw [readUInt16BE_eq_error (by omega)]; rfl⟩
    · -- this word may be inside the buffer, a later one is not
      obtain ⟨e, he⟩ := ih (offset + 2) hpos (by omega)
      cases readUInt16BE b offset with
      | error e' => exact ⟨e', rfl⟩
      | ok w => exact ⟨e, by rw [he]; rfl⟩

/-- Writing words into the room that is left for them. -/
theorem writeWords_append (p room r : Buffer) {values : List Int}
    (hroom : room.length = 2 * values.length) (h : ∀ v ∈ values, IsUInt16 v) :
    writeWords (p ++ (room ++ r)) values p.length =
      .ok (p ++ (ofWords (values.map Int.toNat) ++ r)) := by
  induction values generalizing p room with
  | nil =>
    obtain rfl : room = [] := List.eq_nil_of_length_eq_zero hroom
    rfl
  | cons v vs ih =>
    obtain ⟨x, y, room', rfl⟩ := exists_eq_cons_cons (l := room) (by
      rw [hroom, List.length_cons]
      omega)
    have hrest : writeWords (p ++ (be16 v.toNat ++ (room' ++ r))) vs (p.length + 2)
        = .ok (p ++ (ofWords ((v :: vs).map Int.toNat) ++ r)) := by
      simpa using ih (p ++ be16 v.toNat) room' (by simp at hroom; omega)
        fun w hw => h w (List.mem_cons_of_mem _ hw)
    rw [writeWords, List.cons_append, List.cons_append,
      writeUInt16BE_append p x y _ (h v (List.mem_cons_self ..))]
    exact hrest

/-- A value outside the range of a word throws. -/
theorem writeWords_eq_error (b : Buffer) {values : List Int} (offset : Nat) {v : Int}
    (hv : v ∈ values) (h : ¬ IsUInt16 v) : ∃ e, writeWords b values offset = .error e := by
  induction values generalizing b offset with
  | nil => exact absurd hv List.not_mem_nil
  | cons w ws ih =>
    rw [writeWords]
    rcases List.mem_cons.mp hv with rfl | hmem
    · exact ⟨_, by rw [writeUInt16BE_eq_error b h]; rfl⟩
    · cases hw : writeUInt16BE b w offset with
      | error e => exact ⟨e, rfl⟩
      | ok b' => exact ih b' (offset + 2) hmem

end Buffer

end NodeModbus

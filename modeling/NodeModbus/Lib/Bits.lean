import Mathlib.Data.Nat.Bitwise
import Mathlib.Data.List.GetD
import Mathlib.Tactic.Common

/-!
# Bits packed into bytes

Bit strings as lists of truth values, least significant bit of the first byte
first, and their packing into bytes: entry `i` of the bit string is bit
`i % 8` of byte `i / 8`, and the padding bits of a last partial byte are zero.

- `unpack_pack`, `pack_unpack`: packing loses nothing.
- `pack_set`: writing one bit changes one byte.
- `byte_ext`: bytes are determined by their eight bits.
- `testBit_shift`, `toNat_merge`: moving bits over a byte boundary, and putting
  the low bits of one byte under the high bits of another, by addition.
- `bitAt`, `ext_bitAt`: the bits of some bytes by their position.
-/

namespace Bits

/-- The byte whose bit `k` is `f k`. -/
def byte (f : Nat → Bool) : UInt8 := UInt8.ofNat (Nat.ofBits fun k : Fin 8 => f k)

/-- Pack a bit string into bytes, eight bits a byte. -/
def pack (bits : List Bool) : List UInt8 :=
  (List.range ((bits.length + 7) / 8)).map fun j => byte fun k => bits.getD (8 * j + k) false

/-- The bit string of a list of bytes. -/
def unpack (bytes : List UInt8) : List Bool :=
  (List.range (8 * bytes.length)).map fun i => (bytes.getD (i / 8) 0).toNat.testBit (i % 8)

/-! ## Bytes by their bits -/

theorem toNat_byte (f : Nat → Bool) : (byte f).toNat = Nat.ofBits fun k : Fin 8 => f k := by
  have h : (Nat.ofBits fun k : Fin 8 => f k) < 256 := Nat.ofBits_lt_two_pow _
  simp [byte, Nat.mod_eq_of_lt h]

@[simp] theorem testBit_byte (f : Nat → Bool) {k : Nat} (h : k < 8) :
    (byte f).toNat.testBit k = f k := by
  rw [toNat_byte, Nat.testBit_ofBits_lt _ k h]

theorem testBit_of_eight_le (x : UInt8) {k : Nat} (h : 8 ≤ k) : x.toNat.testBit k = false := by
  refine Nat.testBit_lt_two_pow (Nat.lt_of_lt_of_le x.toNat_lt ?_)
  exact Nat.pow_le_pow_right (by decide) h

/-- Two bytes with the same eight bits are the same. -/
theorem byte_ext {x y : UInt8} (h : ∀ k < 8, x.toNat.testBit k = y.toNat.testBit k) :
    x = y := by
  refine UInt8.toNat_inj.mp (Nat.eq_of_testBit_eq ?_)
  intro k
  by_cases hk : k < 8
  · exact h k hk
  · rw [testBit_of_eight_le x (Nat.le_of_not_lt hk),
      testBit_of_eight_le y (Nat.le_of_not_lt hk)]

theorem byte_congr {f g : Nat → Bool} (h : ∀ k < 8, f k = g k) : byte f = byte g :=
  byte_ext fun k hk => by rw [testBit_byte f hk, testBit_byte g hk, h k hk]

theorem byte_false {f : Nat → Bool} (h : ∀ k < 8, f k = false) : byte f = 0 := by
  refine byte_ext ?_
  intro k hk
  rw [testBit_byte f hk, h k hk]
  simp

/-- Adding `2 ^ k` to a byte without a bit from `k` on sets bit `k`. -/
theorem toNat_byte_add_two_pow {f : Nat → Bool} {k : Nat} (hk : k < 8)
    (hf : ∀ j, k ≤ j → f j = false) :
    (byte f).toNat + 2 ^ k = (byte fun j => if j = k then true else f j).toNat := by
  have hbit : ∀ j, (byte f).toNat.testBit j = f j := by
    intro j
    by_cases hj : j < 8
    · exact testBit_byte f hj
    · rw [testBit_of_eight_le _ (Nat.le_of_not_lt hj), hf j (by omega)]
  have hlt : (byte f).toNat < 2 ^ k :=
    Nat.lt_pow_two_of_testBit _ fun j hj => by rw [hbit j, hf j hj]
  have hor : (byte f).toNat + 2 ^ k = 2 ^ k ||| (byte f).toNat := by
    have h := Nat.two_pow_add_eq_or_of_lt hlt 1
    rw [Nat.mul_one] at h
    rw [← h, Nat.add_comm]
  refine Nat.eq_of_testBit_eq ?_
  intro j
  rw [hor, Nat.testBit_or, Nat.testBit_two_pow, hbit]
  by_cases hj : j < 8
  · rw [testBit_byte _ hj]
    by_cases hjk : j = k
    · simp [hjk]
    · have hkj : k ≠ j := fun h => hjk h.symm
      simp [hjk, hkj]
  · rw [testBit_of_eight_le _ (Nat.le_of_not_lt hj), hf j (by omega)]
    simp
    omega

/-- Adding `2 ^ k` or nothing to a byte without a bit from `k` on puts a bit at `k`. -/
theorem toNat_byte_add {f : Nat → Bool} {k : Nat} (hk : k < 8) (hf : ∀ j, k ≤ j → f j = false)
    (v : Bool) :
    (byte f).toNat + (if v then 2 ^ k else 0) =
      (byte fun j => if j = k then v else f j).toNat := by
  cases v with
  | true => exact toNat_byte_add_two_pow hk hf
  | false =>
    refine congrArg UInt8.toNat (byte_congr ?_)
    intro j _
    by_cases hj : j = k
    · rw [if_pos hj, hf j (Nat.le_of_eq hj.symm)]
    · rw [if_neg hj]

/-! ## Packing and unpacking -/

@[simp] theorem length_pack (bits : List Bool) :
    (pack bits).length = (bits.length + 7) / 8 := by
  simp [pack]

@[simp] theorem length_unpack (bytes : List UInt8) :
    (unpack bytes).length = 8 * bytes.length := by
  simp [unpack]

theorem getElem_pack (bits : List Bool) (j : Nat) (h : j < (pack bits).length) :
    (pack bits)[j] = byte fun k => bits.getD (8 * j + k) false := by
  simp [pack]

theorem getElem_unpack (bytes : List UInt8) (i : Nat) (h : i < (unpack bytes).length) :
    (unpack bytes)[i] = (bytes.getD (i / 8) 0).toNat.testBit (i % 8) := by
  simp [unpack]

theorem getElem?_unpack (bytes : List UInt8) (i : Nat) :
    (unpack bytes)[i]? = bytes[i / 8]?.map fun x => x.toNat.testBit (i % 8) := by
  by_cases h : i < 8 * bytes.length
  · have hlt : i / 8 < bytes.length := by omega
    rw [List.getElem?_eq_getElem (by rw [length_unpack]; exact h), getElem_unpack,
      List.getElem?_eq_getElem hlt, List.getD_eq_getElem _ _ hlt, Option.map_some]
  · rw [List.getElem?_eq_none (by rw [length_unpack]; omega), List.getElem?_eq_none (by omega),
      Option.map_none]

theorem getD_pack (bits : List Bool) (j : Nat) :
    (pack bits).getD j 0 = byte fun k => bits.getD (8 * j + k) false := by
  by_cases h : j < (pack bits).length
  · rw [List.getD_eq_getElem _ _ h, getElem_pack]
  · rw [List.getD_eq_default _ _ (Nat.le_of_not_lt h)]
    rw [length_pack] at h
    have hnone : ∀ k, bits.getD (8 * j + k) false = false := fun k =>
      List.getD_eq_default _ _ (by omega)
    simp only [hnone]
    decide

/-- Unpacking what was packed gives the bits back, padded with zeros to a whole byte. -/
theorem unpack_pack (bits : List Bool) :
    unpack (pack bits) = bits ++ List.replicate
      (8 * ((bits.length + 7) / 8) - bits.length) false := by
  refine List.ext_getElem (by simp; omega) ?_
  intro i h₁ h₂
  have hi : 8 * (i / 8) + i % 8 = i := Nat.div_add_mod i 8
  have hk : i % 8 < 8 := Nat.mod_lt _ (by decide)
  rw [getElem_unpack, getD_pack, testBit_byte _ hk, hi, List.getElem_append]
  split
  · exact List.getD_eq_getElem _ _ ‹_›
  · rw [List.getD_eq_default _ _ (Nat.le_of_not_lt ‹_›), List.getElem_replicate]

theorem unpack_pack_of_dvd {bits : List Bool} (h : 8 ∣ bits.length) :
    unpack (pack bits) = bits := by
  have hz : 8 * ((bits.length + 7) / 8) - bits.length = 0 := by omega
  rw [unpack_pack, hz, List.replicate_zero, List.append_nil]

/-- Packing the bits of some bytes gives the bytes back. -/
@[simp] theorem pack_unpack (bytes : List UInt8) : pack (unpack bytes) = bytes := by
  refine List.ext_getElem (by simp; omega) ?_
  intro j h₁ h₂
  rw [getElem_pack]
  refine byte_ext ?_
  intro k hk
  have hlt : 8 * j + k < (unpack bytes).length := by rw [length_unpack]; omega
  have hd : (8 * j + k) / 8 = j := by omega
  have hm : (8 * j + k) % 8 = k := by omega
  rw [testBit_byte _ hk, List.getD_eq_getElem _ _ hlt, getElem_unpack, hd, hm,
    List.getD_eq_getElem _ _ h₂]

/-- The bits of the first bytes are the first bits. -/
theorem unpack_take (bytes : List UInt8) (m : Nat) :
    unpack (bytes.take m) = (unpack bytes).take (8 * m) := by
  refine List.ext_getElem (by simp) ?_
  intro i h₁ h₂
  have hlt : i / 8 < (bytes.take m).length := by
    rw [length_unpack] at h₁
    omega
  have hlt' : i / 8 < bytes.length := by
    rw [List.length_take] at hlt
    omega
  rw [List.getElem_take, getElem_unpack, getElem_unpack, List.getD_eq_getElem _ _ hlt,
    List.getD_eq_getElem _ _ hlt', List.getElem_take]

/-- Writing bit `a` changes byte `a / 8` only: its bit `a % 8` is the new one, the others
stay. -/
theorem pack_set (bits : List Bool) (a : Nat) (v : Bool) :
    pack (bits.set a v) = (pack bits).set (a / 8) (byte fun k =>
      if k = a % 8 ∧ a < bits.length then v else bits.getD (8 * (a / 8) + k) false) := by
  have hget : ∀ i, (bits.set a v).getD i false
      = if i = a ∧ a < bits.length then v else bits.getD i false := by
    intro i
    simp only [List.getD_eq_getElem?_getD, List.getElem?_set]
    by_cases hia : a = i
    · subst hia
      by_cases ha : a < bits.length
      · simp [ha]
      · simp [ha]
    · have hia' : i ≠ a := fun h => hia h.symm
      simp [hia, hia']
  refine List.ext_getElem (by simp) ?_
  intro j h₁ h₂
  rw [getElem_pack, List.getElem_set]
  split
  · rename_i hj
    subst hj
    refine byte_congr ?_
    intro k hk
    have heq : (8 * (a / 8) + k = a ∧ a < bits.length) ↔
      (k = a % 8 ∧ a < bits.length) := by omega
    rw [hget, if_congr heq rfl rfl]
  · rename_i hj
    rw [getElem_pack]
    refine byte_congr ?_
    intro k hk
    rw [hget, if_neg (by omega)]

/-- The bytes before the one that is being filled do not depend on what comes later. -/
theorem take_pack_append (done rest : List Bool) (m : Nat) (h : 8 * m ≤ done.length) :
    (pack (done ++ rest)).take m = (pack done).take m := by
  refine List.ext_getElem (by simp; omega) ?_
  intro j h₁ h₂
  have hj : j < m := by
    rw [List.length_take] at h₁
    omega
  rw [List.getElem_take, List.getElem_take, getElem_pack, getElem_pack]
  refine byte_congr ?_
  intro k hk
  have hlt : 8 * j + k < done.length := by omega
  rw [List.getD_eq_getElem?_getD, List.getD_eq_getElem?_getD, List.getElem?_append_left hlt]

/-! ## Bits by position -/

/-- Bit `i` of some bytes; behind the end every bit is zero. -/
def bitAt (bytes : List UInt8) (i : Nat) : Bool := (bytes.getD (i / 8) 0).toNat.testBit (i % 8)

theorem bitAt_of_length_le {bytes : List UInt8} {i : Nat} (h : 8 * bytes.length ≤ i) :
    bitAt bytes i = false := by
  rw [bitAt, List.getD_eq_default _ _ (by omega)]
  simp

theorem unpack_eq_map (bytes : List UInt8) :
    unpack bytes = (List.range (8 * bytes.length)).map (bitAt bytes) := rfl

theorem getElem?_unpack_bitAt {bytes : List UInt8} {i : Nat} (h : i < 8 * bytes.length) :
    (unpack bytes)[i]? = some (bitAt bytes i) := by
  rw [List.getElem?_eq_getElem (by rw [length_unpack]; exact h), getElem_unpack]
  rfl

theorem bitAt_pack (bits : List Bool) (i : Nat) : bitAt (pack bits) i = bits.getD i false := by
  rw [bitAt, getD_pack, testBit_byte _ (Nat.mod_lt _ (by decide)), Nat.div_add_mod]

/-- As many bytes with the same bits are the same bytes. -/
theorem ext_bitAt {xs ys : List UInt8} (hlen : xs.length = ys.length)
    (h : ∀ i < 8 * xs.length, bitAt xs i = bitAt ys i) : xs = ys := by
  have hbits : unpack xs = unpack ys := by
    rw [unpack_eq_map, unpack_eq_map, ← hlen]
    exact List.map_congr_left fun i hi => h i (List.mem_range.mp hi)
  rw [← pack_unpack xs, hbits, pack_unpack]

/-- The bits of bytes that are built from a function of the position. -/
theorem bitAt_map_byte (f : Nat → Bool) {n i : Nat} (h : i < 8 * n) :
    bitAt ((List.range n).map fun j => byte fun k => f (8 * j + k)) i = f i := by
  have hlt : i / 8 < n := by omega
  rw [bitAt, List.getD_eq_getElem _ _ (by simp; exact hlt), List.getElem_map,
    List.getElem_range, testBit_byte _ (Nat.mod_lt _ (by decide)), Nat.div_add_mod]

theorem testBit_getD (bytes : List UInt8) (m : Nat) {k : Nat} (hk : k < 8) :
    (bytes.getD m 0).toNat.testBit k = bitAt bytes (8 * m + k) := by
  rw [bitAt, show (8 * m + k) / 8 = m from by omega, show (8 * m + k) % 8 = k from by omega]

/-- Storing a byte changes its own bits. -/
theorem bitAt_set {bytes : List UInt8} {j : Nat} (h : j < bytes.length) (x : UInt8) (i : Nat) :
    bitAt (bytes.set j x) i = if i / 8 = j then x.toNat.testBit (i % 8) else bitAt bytes i := by
  simp only [bitAt, List.getD_eq_getElem?_getD, List.getElem?_set]
  by_cases hij : j = i / 8
  · subst hij
    simp [h]
  · have hji : ¬ i / 8 = j := fun he => hij he.symm
    simp [hij, hji]

/-! ## Shifts and masks -/

/-- The bits of `x` moved up by `s`, over the highest `s` bits of `y`. -/
theorem testBit_shift (x y : UInt8) {s : Nat} (hs : s ≤ 8) (k : Nat) :
    (2 ^ s * x.toNat + y.toNat / 2 ^ (8 - s)).testBit k =
      if k < s then y.toNat.testBit (8 - s + k) else x.toNat.testBit (k - s) := by
  have hlt : y.toNat / 2 ^ (8 - s) < 2 ^ s := by
    refine Nat.div_lt_of_lt_mul ?_
    rw [← Nat.pow_add, Nat.sub_add_cancel hs]
    exact y.toNat_lt
  rw [Nat.testBit_two_pow_mul_add _ hlt, Nat.testBit_div_two_pow, Nat.add_comm]

/-- The low bits of `x` under the high bits of `y`: the summands have no bit in common. -/
theorem toNat_merge (x y : UInt8) (s : Nat) :
    2 ^ s * (y.toNat / 2 ^ s) + x.toNat % 2 ^ s =
      (byte fun k => if k < s then x.toNat.testBit k else y.toNat.testBit k).toNat := by
  have hlt : x.toNat % 2 ^ s < 2 ^ s := Nat.mod_lt _ (Nat.two_pow_pos s)
  refine Nat.eq_of_testBit_eq ?_
  intro k
  rw [Nat.testBit_two_pow_mul_add _ hlt, Nat.testBit_mod_two_pow, Nat.testBit_div_two_pow]
  rcases Nat.lt_or_ge k 8 with hk | hk
  · rw [testBit_byte _ hk]
    by_cases hks : k < s
    · simp [hks]
    · rw [if_neg hks, if_neg hks, Nat.sub_add_cancel (Nat.le_of_not_lt hks)]
  · rw [testBit_of_eight_le (byte _) hk, testBit_of_eight_le x hk]
    by_cases hks : k < s
    · simp [hks]
    · rw [if_neg hks, Nat.sub_add_cancel (Nat.le_of_not_lt hks), testBit_of_eight_le y hk]

end Bits

import Mathlib.Data.List.GetD
import Mathlib.Tactic.Common

/-!
# 16-bit words in byte strings

Big-endian and little-endian 16-bit words, and the byte string `ofWords` of a
list of words. Windows of the word list correspond to windows of twice the size
of the byte string.

- `u16_be16`, `be16_u16`: a word and its two bytes.
- `take_ofWords`, `drop_ofWords`: windows at even offsets.
- `words`, `ofWords_words`: every byte string is a word list and at most one
  odd byte.
-/

namespace Words

/-- The two bytes of a 16-bit number, most significant first. -/
def be16 (n : Nat) : List UInt8 := [UInt8.ofNat (n / 256), UInt8.ofNat (n % 256)]

/-- The two bytes of a 16-bit number, least significant first. -/
def le16 (n : Nat) : List UInt8 := [UInt8.ofNat (n % 256), UInt8.ofNat (n / 256)]

/-- The number two bytes denote, most significant first. -/
def u16 (hi lo : UInt8) : Nat := hi.toNat * 256 + lo.toNat

@[simp] theorem length_be16 (n : Nat) : (be16 n).length = 2 := rfl

@[simp] theorem length_le16 (n : Nat) : (le16 n).length = 2 := rfl

theorem u16_lt (hi lo : UInt8) : u16 hi lo < 65536 := by
  have h₁ := hi.toNat_lt
  have h₂ := lo.toNat_lt
  unfold u16
  omega

theorem toNat_ofNat_of_lt {n : Nat} (h : n < 256) : (UInt8.ofNat n).toNat = n := by
  simp [Nat.mod_eq_of_lt h]

theorem u16_be16 {n : Nat} (h : n < 65536) :
    u16 (UInt8.ofNat (n / 256)) (UInt8.ofNat (n % 256)) = n := by
  have h₁ : n / 256 < 256 := by omega
  have h₂ : n % 256 < 256 := by omega
  rw [u16, toNat_ofNat_of_lt h₁, toNat_ofNat_of_lt h₂]
  omega

theorem be16_u16 (hi lo : UInt8) : be16 (u16 hi lo) = [hi, lo] := by
  have h₂ := lo.toNat_lt
  have hd : u16 hi lo / 256 = hi.toNat := by unfold u16; omega
  have hm : u16 hi lo % 256 = lo.toNat := by unfold u16; omega
  simp [be16, hd, hm]

theorem be16_injective {m n : Nat} (hm : m < 65536) (hn : n < 65536) (h : be16 m = be16 n) :
    m = n := by
  simp only [be16, List.cons.injEq, and_true] at h
  rw [← u16_be16 hm, ← u16_be16 hn, h.1, h.2]

/-- Two elements are there. -/
theorem exists_eq_cons_cons {α : Type} {l : List α} (h : 2 ≤ l.length) :
    ∃ x y r, l = x :: y :: r := by
  rcases l with _ | ⟨x, _ | ⟨y, r⟩⟩
  · exact absurd h (by simp)
  · exact absurd h (by simp)
  · exact ⟨x, y, r, rfl⟩

/-! ## Word lists -/

/-- The byte string of a list of words, each most significant byte first. -/
def ofWords (ws : List Nat) : List UInt8 := ws.flatMap be16

@[simp] theorem ofWords_nil : ofWords [] = [] := rfl

@[simp] theorem ofWords_cons (w : Nat) (ws : List Nat) :
    ofWords (w :: ws) = be16 w ++ ofWords ws :=
  rfl

theorem ofWords_append (ws vs : List Nat) : ofWords (ws ++ vs) = ofWords ws ++ ofWords vs :=
  List.flatMap_append ..

@[simp] theorem length_ofWords (ws : List Nat) : (ofWords ws).length = 2 * ws.length := by
  induction ws with
  | nil => rfl
  | cons w ws ih =>
    rw [ofWords_cons, List.length_append, ih, length_be16, List.length_cons]
    omega

theorem take_ofWords (ws : List Nat) (n : Nat) :
    (ofWords ws).take (2 * n) = ofWords (ws.take n) := by
  rcases Nat.le_total n ws.length with h | h
  · have hlen : (ofWords (ws.take n)).length = 2 * n := by
      rw [length_ofWords, List.length_take, Nat.min_eq_left h]
    calc (ofWords ws).take (2 * n)
        = (ofWords (ws.take n) ++ ofWords (ws.drop n)).take (2 * n) := by
          rw [← ofWords_append, List.take_append_drop]
      _ = ofWords (ws.take n) := by rw [← hlen, List.take_left]
  · rw [List.take_of_length_le h, List.take_of_length_le (by rw [length_ofWords]; omega)]

theorem drop_ofWords (ws : List Nat) (n : Nat) :
    (ofWords ws).drop (2 * n) = ofWords (ws.drop n) := by
  rcases Nat.le_total n ws.length with h | h
  · have hlen : (ofWords (ws.take n)).length = 2 * n := by
      rw [length_ofWords, List.length_take, Nat.min_eq_left h]
    calc (ofWords ws).drop (2 * n)
        = (ofWords (ws.take n) ++ ofWords (ws.drop n)).drop (2 * n) := by
          rw [← ofWords_append, List.take_append_drop]
      _ = ofWords (ws.drop n) := by rw [← hlen, List.drop_left]
  · rw [List.drop_of_length_le h, List.drop_of_length_le (by rw [length_ofWords]; omega)]
    rfl

/-- The words of a byte string; an odd last byte is left out. -/
def words : List UInt8 → List Nat
  | hi :: lo :: rest => u16 hi lo :: words rest
  | _ => []

/-- Every byte string is the bytes of its words, followed by at most one byte. -/
theorem ofWords_words : ∀ b : List UInt8,
    ∃ pad : List UInt8, pad.length ≤ 1 ∧ b = ofWords (words b) ++ pad
  | [] => ⟨[], by decide, rfl⟩
  | [x] => ⟨[x], by simp, rfl⟩
  | hi :: lo :: rest => by
    obtain ⟨pad, hpad, hrest⟩ := ofWords_words rest
    refine ⟨pad, hpad, ?_⟩
    show hi :: lo :: rest = be16 (u16 hi lo) ++ ofWords (words rest) ++ pad
    rw [be16_u16, List.append_assoc, ← hrest]
    rfl

/-- The words of a byte string hold all of its bytes but an odd last one. -/
theorem ofWords_words_take : ∀ b : List UInt8, ofWords (words b) = b.take (2 * (b.length / 2))
  | [] => rfl
  | [_] => by simp [words]
  | hi :: lo :: rest => by
    have hlen : 2 * ((hi :: lo :: rest).length / 2) = 2 * (rest.length / 2) + 2 := by
      simp only [List.length_cons]
      omega
    rw [hlen]
    show be16 (u16 hi lo) ++ ofWords (words rest) =
      hi :: lo :: rest.take (2 * (rest.length / 2))
    rw [be16_u16, ofWords_words_take rest]
    rfl

theorem words_ofWords : ∀ {ws : List Nat} {pad : List UInt8}, (∀ w ∈ ws, w < 65536) →
    pad.length ≤ 1 → words (ofWords ws ++ pad) = ws
  | [], [], _, _ => rfl
  | [], [_], _, _ => rfl
  | [], _ :: _ :: _, _, h => absurd h (by simp)
  | w :: ws, pad, hw, h => by
    have hrest := words_ofWords (fun v hv => hw v (List.mem_cons_of_mem _ hv)) h
    show u16 _ _ :: words (ofWords ws ++ pad) = w :: ws
    rw [u16_be16 (hw w (List.mem_cons_self ..)), hrest]

theorem words_lt : ∀ (b : List UInt8), ∀ w ∈ words b, w < 65536
  | [], _, h => absurd h List.not_mem_nil
  | [_], _, h => absurd h List.not_mem_nil
  | hi :: lo :: rest, w, h => by
    rcases List.mem_cons.mp h with rfl | h
    · exact u16_lt hi lo
    · exact words_lt rest w h

theorem length_words : ∀ b : List UInt8, (words b).length = b.length / 2
  | [] => rfl
  | [_] => by simp [words]
  | hi :: lo :: rest => by
    show (words rest).length + 1 = (rest.length + 1 + 1) / 2
    rw [length_words rest]
    omega

/-- An odd last byte does not count. -/
theorem words_take_half : ∀ b : List UInt8, words (b.take (2 * (b.length / 2))) = words b
  | [] => rfl
  | [_] => by simp [words]
  | hi :: lo :: rest => by
    have hlen : 2 * ((hi :: lo :: rest).length / 2) = 2 * (rest.length / 2) + 2 := by
      simp only [List.length_cons]
      omega
    rw [hlen]
    show u16 hi lo :: words (rest.take (2 * (rest.length / 2))) = u16 hi lo :: words rest
    rw [words_take_half rest]

/-- The words behind the first ones are those of the bytes behind them. -/
theorem words_drop : ∀ (b : List UInt8) (n : Nat), words (b.drop (2 * n)) = (words b).drop n
  | _, 0 => rfl
  | [], _ + 1 => rfl
  | [_], n + 1 => by
    rw [List.drop_of_length_le (by rw [List.length_singleton]; omega)]
    rfl
  | _ :: _ :: rest, n + 1 => words_drop rest n

/-- The first words are those of the first bytes. -/
theorem words_take : ∀ (b : List UInt8) (n : Nat), words (b.take (2 * n)) = (words b).take n
  | _, 0 => rfl
  | [], _ + 1 => rfl
  | [_], n + 1 => by
    rw [List.take_of_length_le (by rw [List.length_singleton]; omega)]
    rfl
  | hi :: lo :: rest, n + 1 => congrArg (u16 hi lo :: ·) (words_take rest n)

end Words

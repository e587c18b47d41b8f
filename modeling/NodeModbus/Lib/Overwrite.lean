import Mathlib.Tactic.Common

/-!
# Overwriting a window of a list

- `overwrite`: put a list over a window of another one.
- `getElem?_overwrite`: what stands where afterwards.
- `written`, `getD_overwrite`: what a window writes to a place, if it covers it.
- `overwrite_singleton`: a window of one place is `List.set`.
- `mapIdx_eq_overwrite`: a map that looks at the index writes a window.
-/

namespace Overwrite

variable {α β : Type}

/-- Put `vs` over the places of `l` from `a` on. -/
def overwrite (l : List α) (a : Nat) (vs : List α) : List α :=
  l.take a ++ (vs ++ l.drop (a + vs.length))

theorem length_overwrite {l vs : List α} {a : Nat} (h : a + vs.length ≤ l.length) :
    (overwrite l a vs).length = l.length := by
  simp only [overwrite, List.length_append, List.length_take, List.length_drop]
  omega

/-- The places in the window have the new values, and the others the old ones. -/
theorem getElem?_overwrite {l vs : List α} {a : Nat} (h : a + vs.length ≤ l.length) (i : Nat) :
    (overwrite l a vs)[i]? = if i < a then l[i]? else if i <
      a + vs.length then vs[i - a]? else l[i]? := by
  have hlen : (l.take a).length = a := by rw [List.length_take]; omega
  rw [overwrite]
  by_cases hi : i < a
  · rw [if_pos hi, List.getElem?_append_left (by omega), List.getElem?_take, if_pos hi]
  · rw [if_neg hi, List.getElem?_append_right (by omega), hlen]
    by_cases hw : i < a + vs.length
    · rw [if_pos hw, List.getElem?_append_left (by omega)]
    · rw [if_neg hw, List.getElem?_append_right (by omega), List.getElem?_drop]
      congr 1
      omega

/-- The same, for a place in the window or one outside of it. -/
theorem getElem?_overwrite_window {l vs : List α} {a : Nat} (h : a + vs.length ≤ l.length)
    (i : Nat) :
    (overwrite l a vs)[i]? = if a ≤ i ∧ i < a + vs.length then vs[i - a]? else l[i]? := by
  rw [getElem?_overwrite h]
  by_cases hi : i < a
  · rw [if_pos hi, if_neg (by omega)]
  · by_cases hw : i < a + vs.length
    · rw [if_neg hi, if_pos hw, if_pos (by omega)]
    · rw [if_neg hi, if_neg hw, if_neg (by omega)]

/-- What a list that is put over a window writes to the place `i`. -/
def written (a : Nat) (vs : List α) (i : Nat) : Option α := if a ≤ i then vs[i - a]? else none

/-- What stands at a place is what was written to it, or what stood there. -/
theorem getD_overwrite {l vs : List α} {a : Nat} (h : a + vs.length ≤ l.length) (i : Nat)
    (d : α) : (overwrite l a vs).getD i d = (written a vs i).getD (l.getD i d) := by
  rw [List.getD_eq_getElem?_getD, getElem?_overwrite_window h, written,
    List.getD_eq_getElem?_getD]
  by_cases hi : a ≤ i
  · rw [if_pos hi]
    by_cases hw : i < a + vs.length
    · have hlt : i - a < vs.length := by omega
      rw [if_pos ⟨hi, hw⟩, List.getElem?_eq_getElem hlt]
      rfl
    · have hge : vs.length ≤ i - a := by omega
      rw [if_neg (fun h => hw h.2), List.getElem?_eq_none hge]
      rfl
  · rw [if_neg (fun h => hi h.1), if_neg hi]
    rfl

theorem overwrite_singleton {l : List α} {a : Nat} (h : a < l.length) (v : α) :
    overwrite l a [v] = l.set a v := by
  refine List.ext_getElem? ?_
  intro i
  have hfits : a + [v].length ≤ l.length := h
  rw [getElem?_overwrite hfits, List.getElem?_set]
  rcases Nat.lt_trichotomy i a with hi | rfl | hi
  · rw [if_pos hi, if_neg (by omega)]
  · rw [if_neg (by omega), if_pos (by simp), if_pos rfl, if_pos h, Nat.sub_self]
    rfl
  · rw [if_neg (by omega), if_neg (by simp; omega), if_neg (by omega)]

/-- A list of the same length replaces the whole list. -/
theorem overwrite_zero {l vs : List α} (h : vs.length = l.length) : overwrite l 0 vs = vs := by
  rw [overwrite, List.take_zero, List.nil_append, List.drop_of_length_le (by omega),
    List.append_nil]

/-- What stands behind the list is not touched. -/
theorem overwrite_append {l vs : List α} {a : Nat} (h : a + vs.length ≤ l.length) (r : List α) :
    overwrite (l ++ r) a vs = overwrite l a vs ++ r := by
  simp only [overwrite, List.append_assoc]
  rw [List.take_append_of_le_length (by omega), List.drop_append_of_le_length h]

/-- Rewriting every place by its index writes a window, when the places outside of it stay. -/
theorem mapIdx_eq_overwrite {l vs : List α} {a : Nat} {f : Nat → α → α}
    (h : a + vs.length ≤ l.length) (hin : ∀ i (hi : i < vs.length) x, f (a + i) x = vs[i])
    (hout : ∀ i, i < a ∨ a + vs.length ≤ i → ∀ x, f i x = x) :
    l.mapIdx f = overwrite l a vs := by
  refine List.ext_getElem? ?_
  intro i
  rw [List.getElem?_mapIdx, getElem?_overwrite h]
  by_cases hi : i < a
  · rw [if_pos hi]
    cases l[i]? with
    | none => rfl
    | some x => rw [Option.map_some, hout i (.inl hi)]
  · rw [if_neg hi]
    by_cases hw : i < a + vs.length
    · have hlt : i - a < vs.length := by omega
      have hval := hin (i - a) hlt
      rw [show a + (i - a) = i from by omega] at hval
      rw [if_pos hw, List.getElem?_eq_getElem (show i < l.length by omega),
        Option.map_some, hval, List.getElem?_eq_getElem hlt]
    · rw [if_neg hw]
      cases l[i]? with
      | none => rfl
      | some x => rw [Option.map_some, hout i (.inr (by omega))]

end Overwrite

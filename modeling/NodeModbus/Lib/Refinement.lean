import Mathlib.Tactic.Common

/-!
# Machines that answer, and their refinement

A machine takes an input to a new state and an output. One machine represents
another when each of its steps is a step of the other one, on represented
states.

- `Machine.run`: a machine over a list of inputs.
- `Represents`: the step condition, for the inputs a state admits, which stay admitted.
- `Represents.run_eq`: the same of whole runs.

Some of the inputs of a machine may come from an observer, who gets the outputs for them.

- `Machine.outputs`: what the observer gets.
- `Machine.Noninterfering`: it is what the observer would get without the other inputs.
- `Unwinding`: what a relation between states has to keep, step by step.
  `Unwinding.noninterfering`: with such a relation nothing interferes.
-/

namespace Refinement

variable {σ ι ο α κ π : Type}

/-- A machine with states `σ`, inputs `ι` and outputs `ο`. -/
structure Machine (σ ι ο : Type) where
  step : σ → ι → σ × ο

namespace Machine

/-- A list of inputs, one after another: the last state, and the outputs in order. -/
def run (M : Machine σ ι ο) : σ → List ι → σ × List ο
  | s, [] => (s, [])
  | s, i :: is =>
    let r := M.run (M.step s i).1 is
    (r.1, (M.step s i).2 :: r.2)

theorem run_cons (M : Machine σ ι ο) (s : σ) (i : ι) (is : List ι) :
    M.run s (i :: is) =
      ((M.run (M.step s i).1 is).1, (M.step s i).2 :: (M.run (M.step s i).1 is).2) :=
  rfl

@[simp] theorem length_run (M : Machine σ ι ο) (s : σ) (is : List ι) :
    (M.run s is).2.length = is.length := by
  induction is generalizing s with
  | nil => rfl
  | cons i is ih => rw [run_cons, List.length_cons, List.length_cons, ih]

/-- The state after one list of inputs and another one. -/
theorem run_append (M : Machine σ ι ο) (s : σ) (is js : List ι) :
    (M.run s (is ++ js)).1 = (M.run (M.run s is).1 js).1 := by
  induction is generalizing s with
  | nil => rfl
  | cons i is ih => exact ih (M.step s i).1

/-- The outputs of one list of inputs and another one. -/
theorem outputs_append (M : Machine σ ι ο) (s : σ) (is js : List ι) :
    (M.run s (is ++ js)).2 = (M.run s is).2 ++ (M.run (M.run s is).1 js).2 := by
  induction is generalizing s with
  | nil => rfl
  | cons i is ih => exact congrArg _ (ih (M.step s i).1)

/-- What every step preserves, a run preserves. The inputs have to be admitted by the state,
and stay admitted after every step. -/
theorem run_invariant {M : Machine σ ι ο} {P : σ → Prop} {admits : σ → ι → Prop}
    (hstep : ∀ {s i}, P s → admits s i → P (M.step s i).1)
    (hkeep : ∀ {s i j}, admits s i → admits s j → admits (M.step s i).1 j) {s : σ} {is : List ι}
    (hs : P s) (hadmits : ∀ i ∈ is, admits s i) : P (M.run s is).1 := by
  induction is generalizing s with
  | nil => exact hs
  | cons i is ih =>
    have hi := hadmits i (List.mem_cons_self ..)
    exact ih (hstep hs hi) fun j hj => hkeep hi (hadmits j (List.mem_cons_of_mem _ hj))

/-- The machine whose outputs are seen through a function. -/
def mapOut (M : Machine σ ι ο) (f : ο → π) : Machine σ ι π where
  step s i := ((M.step s i).1, f (M.step s i).2)

theorem run_mapOut (M : Machine σ ι ο) (f : ο → π) (s : σ) (is : List ι) :
    (M.mapOut f).run s is = ((M.run s is).1, (M.run s is).2.map f) := by
  induction is generalizing s with
  | nil => rfl
  | cons i is ih =>
    rw [run_cons, run_cons, List.map_cons, ih]
    rfl

end Machine

/-- The machine `C` represents the machine `A`: `rep` gives the state of `C` for a state of
`A`, an input of `C` may match one of `A`, and `out` gives the output of `C` for one of `A`.
What a state of `A` admits, it admits after every other step it admits. -/
structure Represents (C : Machine σ ι ο) (A : Machine α κ π) (admits : α → κ → Prop)
    (rep : α → σ) (related : ι → κ → Prop) (out : ι → π → ο) : Prop where
  step : ∀ {a i k}, related i k → admits a k →
    C.step (rep a) i = (rep (A.step a k).1, out i (A.step a k).2)
  keep : ∀ {a k l}, admits a k → admits a l → admits (A.step a k).1 l

/-- A run of a machine that represents another one. -/
theorem Represents.run_eq {C : Machine σ ι ο} {A : Machine α κ π} {admits : α → κ → Prop}
    {rep : α → σ} {related : ι → κ → Prop} {out : ι → π → ο}
    (h : Represents C A admits rep related out) {is : List ι} {ks : List κ}
    (hmatch : List.Forall₂ related is ks) (a : α) (hadmits : ∀ k ∈ ks, admits a k) :
    C.run (rep a) is = (rep (A.run a ks).1, List.zipWith out is (A.run a ks).2) := by
  induction hmatch generalizing a with
  | nil => rfl
  | @cons i k is ks hik _ ih =>
    have hk := hadmits k (List.mem_cons_self ..)
    have hrest := ih (A.step a k).1 fun l hl =>
      h.keep hk (hadmits l (List.mem_cons_of_mem _ hl))
    rw [Machine.run_cons, h.step hik hk, Machine.run_cons, List.zipWith_cons_cons, hrest]

/-! ## Noninterference -/

namespace Machine

/-- The outputs for the inputs of an observer. -/
def outputs (M : Machine σ ι ο) (mine : ι → Bool) : σ → List ι → List ο
  | _, [] => []
  | s, i :: is =>
    if mine i then (M.step s i).2 :: M.outputs mine (M.step s i).1 is
    else M.outputs mine (M.step s i).1 is

/-- The observer gets what the machine would give without the inputs of the others. -/
def Noninterfering (M : Machine σ ι ο) (mine : ι → Bool) (s : σ) (is : List ι) : Prop :=
  M.outputs mine s is = (M.run s (is.filter mine)).2

end Machine

/-- States that are related look the same to the observer, and stay related: when both take
the same input of the observer, and when one of them takes an input of somebody else. -/
structure Unwinding (M : Machine σ ι ο) (mine : ι → Bool) (R : σ → σ → Prop) : Prop where
  output : ∀ {s t i}, R s t → mine i = true → (M.step s i).2 = (M.step t i).2
  own : ∀ {s t i}, R s t → mine i = true → R (M.step s i).1 (M.step t i).1
  other : ∀ {s t i}, R s t → mine i = false → R (M.step s i).1 t

namespace Unwinding

variable {M : Machine σ ι ο} {mine : ι → Bool} {R : σ → σ → Prop}

/-- From related states, with and without the inputs of the others. -/
theorem outputs_eq (h : Unwinding M mine R) {s t : σ} (hst : R s t) (is : List ι) :
    M.outputs mine s is = (M.run t (is.filter mine)).2 := by
  induction is generalizing s t with
  | nil => rfl
  | cons i is ih =>
    rw [Machine.outputs, List.filter_cons]
    cases hi : mine i with
    | true =>
      rw [if_pos rfl, if_pos rfl, Machine.run_cons, h.output hst hi, ih (h.own hst hi)]
    | false =>
      rw [if_neg (by decide), if_neg (by decide)]
      exact ih (h.other hst hi)

theorem noninterfering (h : Unwinding M mine R) {s : σ} (hs : R s s) (is : List ι) :
    M.Noninterfering mine s is :=
  h.outputs_eq hs is

end Unwinding

end Refinement

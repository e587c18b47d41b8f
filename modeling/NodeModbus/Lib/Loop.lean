import Mathlib.Tactic.Common

/-!
# Loops that end

A loop as the function that makes one round, bundled with a measure that every
round decreases.

- `Body.exec`: run the loop to its end. It evaluates by structural recursion on
  the measure, which never runs out.
- `Body.exec_leave`, `Body.exec_next`: the unfolding equations.
- `Body.exec_induction`: what one round preserves holds of the result.
- `Body.exec_map`: a change of the state that no round looks at changes the result.
-/

namespace Loop

universe u v

variable {σ : Type u} {ρ : Type v}

/-- What one round of a loop does: leave the loop with a result, or go on. -/
inductive Round (σ : Type u) (ρ : Type v) where
  | leave (result : ρ)
  | next (s : σ)

/-- Change what a round leaves behind. -/
def Round.map (f : σ → σ) (g : ρ → ρ) : Round σ ρ → Round σ ρ
  | leave result => leave (g result)
  | next s => next (f s)

/-- A loop, with a measure that decreases from round to round. -/
structure Body (σ : Type u) (ρ : Type v) where
  round : σ → Round σ ρ
  measure : σ → Nat
  decreases : ∀ {s s'}, round s = .next s' → measure s' < measure s

namespace Body

/-- At most `fuel` rounds. -/
def run (l : Body σ ρ) : Nat → σ → Option ρ
  | 0, _ => none
  | fuel + 1, s =>
    match l.round s with
    | .leave r => some r
    | .next s' => l.run fuel s'

/-- With more fuel than the measure the loop ends. -/
theorem run_isSome (l : Body σ ρ) {fuel : Nat} {s : σ} (h : l.measure s < fuel) :
    (l.run fuel s).isSome := by
  -- a round takes one off the fuel and at least one off the measure
  induction fuel generalizing s with
  | zero => exact absurd h (Nat.not_lt_zero _)
  | succ fuel ih =>
    rw [run]
    cases hr : l.round s with
    | leave r => rfl
    | next s' => exact ih (Nat.lt_of_lt_of_le (l.decreases hr) (Nat.le_of_lt_succ h))

/-- The fuel does not matter, as long as there is enough. -/
theorem run_eq_run (l : Body σ ρ) {m n : Nat} {s : σ} (hm : l.measure s < m)
    (hn : l.measure s < n) : l.run m s = l.run n s := by
  induction m generalizing n s with
  | zero => exact absurd hm (Nat.not_lt_zero _)
  | succ m ih =>
    cases n with
    | zero => exact absurd hn (Nat.not_lt_zero _)
    | succ n =>
      rw [run, run]
      cases hr : l.round s with
      | leave r => rfl
      | next s' =>
        have hlt := l.decreases hr
        exact ih (by omega) (by omega)

/-- Run the loop to its end. -/
def exec (l : Body σ ρ) (s : σ) : ρ :=
  (l.run (l.measure s + 1) s).get (l.run_isSome (Nat.lt_succ_self _))

theorem exec_leave {l : Body σ ρ} {s : σ} {r : ρ} (h : l.round s = .leave r) :
    l.exec s = r := by
  have hrun : l.run (l.measure s + 1) s = some r := by rw [run, h]
  simp only [exec, hrun, Option.get_some]

theorem exec_next {l : Body σ ρ} {s s' : σ} (h : l.round s = .next s') :
    l.exec s = l.exec s' := by
  have hrun : l.run (l.measure s + 1) s = l.run (l.measure s' + 1) s' := by
    rw [run, h]
    exact l.run_eq_run (l.decreases h) (Nat.lt_succ_self _)
  simp only [exec, hrun]

/-- To show something of the result, show it of the last round and carry it back over every
other one. -/
theorem exec_induction {l : Body σ ρ} {P : σ → ρ → Prop}
    (leave : ∀ s r, l.round s = .leave r → P s r)
    (next : ∀ s s', l.round s = .next s' → P s' (l.exec s') → P s (l.exec s')) (s : σ) :
    P s (l.exec s) := by
  cases hr : l.round s with
  | leave r =>
    rw [exec_leave hr]
    exact leave s r hr
  | next s' =>
    rw [exec_next hr]
    exact next s s' hr (exec_induction leave next s')
termination_by l.measure s
decreasing_by exact l.decreases hr

/-- When every round makes of the changed state the change of what it makes of the state, so
does the loop. -/
theorem exec_map {l : Body σ ρ} {f : σ → σ} {g : ρ → ρ}
    (h : ∀ s, l.round (f s) = (l.round s).map f g) (s : σ) : l.exec (f s) = g (l.exec s) := by
  refine exec_induction (P := fun s r => l.exec (f s) = g r) ?_ ?_ s
  · intro s r hr
    exact exec_leave (by rw [h, hr]; rfl)
  · intro s s' hs ih
    rw [← ih]
    exact exec_next (by rw [h, hs]; rfl)

end Body

end Loop

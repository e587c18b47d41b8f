import Mathlib.Tactic.Common

/-!
# Programs that may throw and keep a log

A program changes a state and may throw. What it has changed when it throws stays
changed. A part of the state is a log, to which programs only add.

- `Program`, `exec`: programs, and what they do to a state.
- `Logs`: what the log has when a program returns and when it throws.
- `Logs.bind`: of two programs, one after the other.
-/

namespace Effect

variable {σ ε τ α β : Type}

/-- A program that changes a state and may throw. -/
abbrev Program (σ ε α : Type) : Type := ExceptT ε (StateM σ) α

/-- What a program returns or throws, and the state it leaves. -/
def exec (x : Program σ ε α) (s : σ) : Except ε α × σ := x s

/-! ## Execution -/

@[simp] theorem exec_get (s : σ) : exec (get : Program σ ε σ) s = (.ok s, s) := rfl

theorem exec_bind (x : Program σ ε α) (f : α → Program σ ε β) (s : σ) :
    exec (x >>= f) s =
      match exec x s with
      | (.ok a, s') => exec (f a) s'
      | (.error e, s') => (.error e, s') := by
  unfold exec
  simp only [bind, ExceptT.bind, ExceptT.mk, StateT.bind]
  obtain ⟨r, s'⟩ := x s
  cases r <;> rfl

/-- A program that returns goes on. -/
theorem exec_bind_ok {x : Program σ ε α} {f : α → Program σ ε β} {s s' : σ} {a : α}
    (h : exec x s = (.ok a, s')) : exec (x >>= f) s = exec (f a) s' := by
  rw [exec_bind, h]

/-- One that throws does not. -/
theorem exec_bind_error {x : Program σ ε α} {f : α → Program σ ε β} {s s' : σ} {e : ε}
    (h : exec x s = (.error e, s')) : exec (x >>= f) s = (.error e, s') := by
  rw [exec_bind, h]

/-! ## Logs -/

variable {log : σ → List τ} {base l : List τ} {x : Program σ ε α} {f : α → Program σ ε β}

/-- One thing is said of what a program returns, another one of what it throws. -/
def Either (Q : α → List τ → Prop) (E : ε → List τ → Prop) : Except ε α → List τ → Prop
  | .ok a, l => Q a l
  | .error e, l => E e l

/-- When the log has `l` behind `base`, the program leaves something behind `base` that is
as `Q` says when it returns, and as `E` says when it throws. -/
def Logs (log : σ → List τ) (base l : List τ) (x : Program σ ε α) (Q : α → List τ → Prop)
    (E : ε → List τ → Prop) : Prop :=
  ∀ s, log s = base ++ l → ∃ l', log (exec x s).2 = base ++ l' ∧ Either Q E (exec x s).1 l'

theorem Logs.bind {Q' : α → List τ → Prop} {Q : β → List τ → Prop} {E : ε → List τ → Prop}
    (h : Logs log base l x Q' E) (hf : ∀ a l', Q' a l' → Logs log base l' (f a) Q E) :
    Logs log base l (x >>= f) Q E := by
  intro s hs
  obtain ⟨l', hl', hpost⟩ := h s hs
  cases hexec : exec x s with
  | mk r s' =>
    rw [hexec] at hl' hpost
    cases r with
    | ok a =>
      rw [exec_bind_ok hexec]
      exact hf a l' hpost s' hl'
    | error e =>
      rw [exec_bind_error hexec]
      exact ⟨l', hl', hpost⟩

/-- A program that looks at the state. -/
theorem Logs.get_bind {f : σ → Program σ ε β} {Q : β → List τ → Prop} {E : ε → List τ → Prop}
    (h : ∀ s, Logs log base l (f s) Q E) : Logs log base l (get >>= f) Q E := by
  intro s hs
  rw [exec_bind_ok (exec_get s)]
  exact h s s hs

end Effect

import Mathlib.Data.List.Forall2
import Mathlib.Data.List.Induction
import Mathlib.Tactic.Common

/-!
# Systems that take events, and histories

- `System`, `Reachable`: a system moves from state to state by events, which a state may
  allow or not.
- `Reachable.invariant`: what holds at the start and is kept by every event holds of every
  reachable state.
- `System.restrict`: a system that allows fewer events.
- `Each`: a property of each entry of a history that looks at the entries before it.
  `each_concat`, `Each.append`: a history that grows.
- `System.after`, `System.Runs`: the state after a list of events that are allowed.
  `runs_cons`: its first event.
- `System.exists_run_of_rounds`: a run after which nothing is left to do, when a round of
  events always leaves less.
- `foldl_prefixes_iff`: what holds after every input of a list, step by step.
- `List.SublistForall₂`: the entries of a history are related, in their order, to some of
  those of another one, each to another one. `SublistForall₂.append_right`,
  `SublistForall₂.concat`: the histories grow.
-/

namespace Transition

variable {σ ε α : Type}

/-- A system with states `σ` and events `ε`. -/
structure System (σ ε : Type) where
  init : σ → Prop
  allows : σ → ε → Prop
  next : σ → ε → σ

/-- The states a system comes to, from a state it starts in, by events that are allowed. -/
inductive Reachable (S : System σ ε) : σ → Prop
  | init {s : σ} (h : S.init s) : Reachable S s
  | step {s : σ} (e : ε) (h : Reachable S s) (hallows : S.allows s e) : Reachable S (S.next s e)

/-- What holds at the start and is kept by every event holds of every reachable state. -/
theorem Reachable.invariant {S : System σ ε} {P : σ → Prop} (hinit : ∀ {s}, S.init s → P s)
    (hstep : ∀ {s} e, P s → S.allows s e → P (S.next s e)) {s : σ} (h : Reachable S s) :
    P s := by
  induction h with
  | init h => exact hinit h
  | step e _ hallows ih => exact hstep e ih hallows

/-- The system, when fewer events are allowed. -/
def System.restrict (S : System σ ε) (P : σ → ε → Prop) : System σ ε :=
  { S with allows := fun s e => S.allows s e ∧ P s e }

/-- A system comes to more states when more events are allowed. -/
theorem Reachable.of_restrict {S : System σ ε} {P : σ → ε → Prop} {s : σ}
    (h : Reachable (S.restrict P) s) : Reachable S s := by
  induction h with
  | init h => exact .init h
  | step e _ hallows ih => exact ih.step e hallows.1

theorem Reachable.restrict_mono {S : System σ ε} {P Q : σ → ε → Prop}
    (hPQ : ∀ s e, P s e → Q s e) {s : σ} (h : Reachable (S.restrict P) s) :
    Reachable (S.restrict Q) s := by
  induction h with
  | init h => exact .init h
  | step e _ hallows ih => exact ih.step e ⟨hallows.1, hPQ _ e hallows.2⟩

/-- The property holds of each entry of a history and the entries before it. -/
def Each (P : List α → α → Prop) (l : List α) : Prop :=
  ∀ before a after, l = before ++ a :: after → P before a

theorem each_nil (P : List α → α → Prop) : Each P [] := by
  intro before a after h
  cases before <;> cases h

/-- A history that grows by one entry. -/
theorem each_concat {P : List α → α → Prop} {l : List α} {x : α} :
    Each P (l ++ [x]) ↔ Each P l ∧ P l x := by
  constructor
  · intro h
    refine ⟨?_, h l x [] rfl⟩
    intro before a after hl
    exact h before a (after ++ [x]) (by rw [hl, List.append_assoc, List.cons_append])
  · rintro ⟨h, hx⟩ before a after hl
    -- the entry is the new one, or the new one is behind it
    rcases List.eq_nil_or_concat after with rfl | ⟨after, y, rfl⟩
    · obtain ⟨rfl, ha⟩ := List.append_inj' hl rfl
      obtain rfl := List.head_eq_of_cons_eq ha
      exact hx
    · rw [List.concat_eq_append, ← List.cons_append, ← List.append_assoc] at hl
      obtain ⟨rfl, -⟩ := List.append_inj' hl rfl
      exact h before a after rfl

/-- A longer history. -/
theorem Each.of_append {P : List α → α → Prop} {l r : List α} (h : Each P (l ++ r)) :
    Each P l := by
  intro before a after hl
  exact h before a (after ++ r) (by rw [hl, List.append_assoc, List.cons_append])

/-- One history behind another one, when what holds of an entry does not depend on how far
the entries before it go back. -/
theorem Each.append {P : List α → α → Prop}
    (hP : ∀ {l before a}, P before a → P (l ++ before) a) {l r : List α} (hl : Each P l)
    (hr : Each P r) : Each P (l ++ r) := by
  intro before a after h
  rcases List.append_eq_append_iff.mp h with ⟨front, rfl, hright⟩ | ⟨back, rfl, hright⟩
  · exact hP (hr front a after hright)
  · cases back with
    | nil =>
      have hfirst : P (before ++ []) a := hP (hr [] a after hright.symm)
      rwa [List.append_nil] at hfirst
    | cons b back =>
      obtain ⟨rfl, -⟩ := List.cons.inj hright
      exact hl before a back rfl

/-! ## Runs -/

namespace System

/-- The state after a list of events. -/
def after (S : System σ ε) (s : σ) (events : List ε) : σ := events.foldl S.next s

/-- Every event is allowed when it happens. -/
def Runs (S : System σ ε) (s : σ) (events : List ε) : Prop :=
  Each (fun before e => S.allows (S.after s before) e) events

theorem after_append (S : System σ ε) (s : σ) (events events' : List ε) :
    S.after s (events ++ events') = S.after (S.after s events) events' :=
  List.foldl_append

@[simp] theorem after_concat (S : System σ ε) (s : σ) (events : List ε) (e : ε) :
    S.after s (events ++ [e]) = S.next (S.after s events) e :=
  S.after_append s events [e]

/-- A run starts with an event that is allowed, and goes on from the state after it. -/
theorem runs_cons {S : System σ ε} {s : σ} {e : ε} {events : List ε} :
    S.Runs s (e :: events) ↔ S.allows s e ∧ S.Runs (S.next s e) events := by
  constructor
  · intro h
    refine ⟨h [] e events rfl, ?_⟩
    intro before e' after hevents
    exact h (e :: before) e' after (by rw [hevents, List.cons_append])
  · rintro ⟨he, h⟩ before e' after hevents
    cases before with
    | nil =>
      obtain ⟨rfl, -⟩ := List.cons.inj hevents
      exact he
    | cons e'' before =>
      obtain ⟨rfl, hrest⟩ := List.cons.inj hevents
      exact h before e' after hrest

/-- A run leads from a reachable state to a reachable state. -/
theorem Runs.reachable_after {S : System σ ε} {s : σ} {events : List ε} (h : S.Runs s events)
    (hs : Reachable S s) : Reachable S (S.after s events) := by
  induction events using List.reverseRecOn with
  | nil => exact hs
  | append_singleton events e ih =>
    obtain ⟨hevents, he⟩ := each_concat.mp h
    rw [after_concat]
    exact (ih hevents).step e he

/-- A run leads to a reachable state. -/
theorem Runs.reachable {S : System σ ε} {s : σ} {events : List ε} (h : S.Runs s events)
    (hs : S.init s) : Reachable S (S.after s events) :=
  h.reachable_after (.init hs)

/-- A run goes on from the state after another one. -/
theorem Runs.append {S : System σ ε} {s : σ} {events events' : List ε} (h : S.Runs s events)
    (h' : S.Runs (S.after s events) events') : S.Runs s (events ++ events') := by
  induction events generalizing s with
  | nil => exact h'
  | cons e events ih =>
    obtain ⟨hallows, hrest⟩ := runs_cons.mp h
    exact runs_cons.mpr ⟨hallows, ih hrest h'⟩

/-- When from every state where something is left to do there is a round of events after
which less is left, there are events after which nothing is left. -/
theorem exists_run_of_rounds (S : System σ ε) {D : ε → Prop} {P : Nat → σ → Prop}
    (hround : ∀ {n s}, P n s → n ≠ 0 →
      ∃ events, (∀ e ∈ events, D e) ∧ S.Runs s events ∧ ∃ m < n, P m (S.after s events))
    {n : Nat} {s : σ} (h : P n s) :
    ∃ events, (∀ e ∈ events, D e) ∧ S.Runs s events ∧ P 0 (S.after s events) := by
  induction n using Nat.strongRecOn generalizing s with
  | ind n ih =>
    rcases Nat.eq_zero_or_pos n with rfl | hpos
    · exact ⟨[], List.forall_mem_nil _, each_nil _, h⟩
    · obtain ⟨events, hD, hruns, m, hlt, hafter⟩ := hround h (Nat.pos_iff_ne_zero.mp hpos)
      obtain ⟨events', hD', hruns', hdone⟩ := ih m hlt hafter
      refine ⟨events ++ events', List.forall_mem_append.mpr ⟨hD, hD'⟩, hruns.append hruns', ?_⟩
      rw [after_append]
      exact hdone

end System

/-- Something holds after every number of inputs, if and only if before every input the
condition holds under which one step leads to it. -/
theorem foldl_prefixes_iff {f : σ → α → σ} {s : σ} {P : σ → Prop} {Q : σ → α → Prop} (hs : P s)
    (hstep : ∀ s x, P (f s x) ↔ Q s x) (l : List α) :
    (∀ before after, l = before ++ after → P (before.foldl f s)) ↔
      ∀ before x after, l = before ++ x :: after → Q (before.foldl f s) x := by
  constructor
  · intro hall before x after hl
    have hnext :=
      hall (before ++ [x]) after (by rw [hl, List.append_assoc, List.singleton_append])
    rw [List.foldl_append] at hnext
    exact (hstep _ _).mp hnext
  · intro hall before after hl
    -- after a step, by the condition before its last input
    rcases List.eq_nil_or_concat before with rfl | ⟨before, x, rfl⟩
    · exact hs
    · rw [List.concat_eq_append, List.append_assoc, List.singleton_append] at hl
      rw [List.concat_eq_append, List.foldl_append]
      exact (hstep _ _).mpr (hall before x after hl)

end Transition

/-! ## Histories that come from some entries of other histories -/

namespace List

variable {α β : Type*} {R S : α → β → Prop} {l : List α} {l' : List β}

theorem SublistForall₂.mono (h : SublistForall₂ R l l') (hRS : ∀ a b, R a b → S a b) :
    SublistForall₂ S l l' := by
  obtain ⟨used, hrelated, hsub⟩ := sublistForall₂_iff.mp h
  exact sublistForall₂_iff.mpr ⟨used, hrelated.imp fun a b => hRS a b, hsub⟩

/-- More elements to choose from. -/
theorem SublistForall₂.append_right (h : SublistForall₂ R l l') (r : List β) :
    SublistForall₂ R l (l' ++ r) := by
  obtain ⟨used, hrelated, hsub⟩ := sublistForall₂_iff.mp h
  exact sublistForall₂_iff.mpr ⟨used, hrelated, hsub.trans (sublist_append_left ..)⟩

/-- One more element on both sides. -/
theorem SublistForall₂.concat (h : SublistForall₂ R l l') {a : α} {b : β} (hab : R a b) :
    SublistForall₂ R (l ++ [a]) (l' ++ [b]) := by
  induction h with
  | nil => exact sublistForall₂_iff.mpr ⟨[b], .cons hab .nil, sublist_append_right ..⟩
  | cons hfirst _ ih => exact .cons hfirst ih
  | cons_right _ ih => exact .cons_right ih

theorem SublistForall₂.exists_of_mem (h : SublistForall₂ R l l') {a : α} (ha : a ∈ l) :
    ∃ b ∈ l', R a b := by
  induction h with
  | nil => cases ha
  | cons hfirst _ ih =>
    rcases mem_cons.mp ha with rfl | ha
    · exact ⟨_, mem_cons_self .., hfirst⟩
    · obtain ⟨b, hb, hab⟩ := ih ha
      exact ⟨b, mem_cons_of_mem _ hb, hab⟩
  | cons_right _ ih =>
    obtain ⟨b, hb, hab⟩ := ih ha
    exact ⟨b, mem_cons_of_mem _ hb, hab⟩

end List

import Mathlib.Data.List.Nodup
import NodeModbus.Lib.Refinement

/-!
# Histories that a machine explains

Clients call operations and their calls return, at different times. A history of
this is explained by a machine when there is one order of the operations in which
the machine gives every answer that was returned, and which does not contradict
the history: an operation that returned before another one was called stands in
front of it.

- `Mark`, `Precedes`: histories, and their order in time.
- `Answered`: the answer a machine gives to an operation in an order.
- `Linearizes`: an order explains a history.
- `Linearizes.call`, `.perform`, `.ret`: how a history and an order grow.
- `Fresh`, `Linearizes.fresh`: what a read of a cell may return, said without an order.
-/

namespace Linearization

open Refinement

variable {σ ι ο κ β : Type}

/-- What is seen of an operation with the name `k`: it is called, and it returns. -/
inductive Mark (κ ι ο : Type) where
  | call (k : κ) (op : ι)
  | ret (k : κ) (o : ο)
  deriving DecidableEq

/-- The operation `k` returned before `k'` was called. -/
def Precedes (history : List (Mark κ ι ο)) (k k' : κ) : Prop :=
  ∃ before op after, history = before ++ .call k' op :: after ∧ ∃ o, .ret k o ∈ before

/-- A history that grows by one mark. -/
theorem precedes_concat {history : List (Mark κ ι ο)} {m : Mark κ ι ο} {k k' : κ}
    (h : Precedes (history ++ [m]) k k') :
    Precedes history k k' ∨ ∃ op, m = .call k' op := by
  obtain ⟨before, op, after, hhistory, o, ho⟩ := h
  rcases List.eq_nil_or_concat after with rfl | ⟨after, y, rfl⟩
  · obtain ⟨-, hm⟩ := List.append_inj' hhistory rfl
    exact .inr ⟨op, List.head_eq_of_cons_eq hm⟩
  · rw [List.concat_eq_append, ← List.cons_append, ← List.append_assoc] at hhistory
    obtain ⟨rfl, -⟩ := List.append_inj' hhistory rfl
    exact .inl ⟨before, op, after, rfl, o, ho⟩

theorem Precedes.returned {history : List (Mark κ ι ο)} {k k' : κ} (h : Precedes history k k') :
    ∃ o, .ret k o ∈ history := by
  obtain ⟨before, op, after, rfl, o, ho⟩ := h
  exact ⟨o, List.mem_append_left _ ho⟩

/-! ## Orders -/

/-- The answer of the machine to the operation `k`, which comes in the order behind others. -/
def Answered (M : Machine σ ι ο) (s : σ) (order : List (κ × ι)) (k : κ) (o : ο) : Prop :=
  ∃ before op after, order = before ++ (k, op) :: after ∧
    o = (M.step (M.run s (before.map Prod.snd)).1 op).2

theorem Answered.mem {M : Machine σ ι ο} {s : σ} {order : List (κ × ι)} {k : κ} {o : ο}
    (h : Answered M s order k o) : k ∈ order.map Prod.fst := by
  obtain ⟨before, op, after, rfl, -⟩ := h
  simp

/-- What comes later does not change an answer. -/
theorem Answered.append {M : Machine σ ι ο} {s : σ} {order : List (κ × ι)} {k : κ} {o : ο}
    (h : Answered M s order k o) (later : List (κ × ι)) :
    Answered M s (order ++ later) k o := by
  obtain ⟨before, op, after, rfl, ho⟩ := h
  exact ⟨before, op, after ++ later, by rw [List.append_assoc, List.cons_append], ho⟩

/-- The answers to operations that are performed next. -/
theorem answered_of_run {M : Machine σ ι ο} {s : σ} {order next : List (κ × ι)} {k : κ} {op : ι}
    {o : ο} (h : ((k, op), o) ∈
      next.zip (M.run (M.run s (order.map Prod.snd)).1 (next.map Prod.snd)).2) :
    Answered M s (order ++ next) k o := by
  induction next generalizing order with
  | nil => cases h
  | cons p next ih =>
    rw [List.map_cons, Machine.run_cons, List.zip_cons_cons] at h
    have hsplit : order ++ p :: next = (order ++ [p]) ++ next := by
      rw [List.append_assoc, List.singleton_append]
    rcases List.mem_cons.mp h with hhead | htail
    · obtain ⟨rfl, rfl⟩ := Prod.mk.inj hhead
      exact ⟨order, op, next, rfl, rfl⟩
    · rw [hsplit]
      refine ih ?_
      rw [List.map_append, List.map_singleton, Machine.run_append]
      exact htail

/-- The order explains the history: it consists of operations that were called, each of them
once, the machine gives every answer that was returned, and no operation stands in front of
one that returned before it was called. -/
structure Linearizes (M : Machine σ ι ο) (s : σ) (history : List (Mark κ ι ο))
    (order : List (κ × ι)) : Prop where
  called : ∀ p ∈ order, .call p.1 p.2 ∈ history
  once : (order.map Prod.fst).Nodup
  answered : ∀ k o, .ret k o ∈ history → Answered M s order k o
  realTime : ∀ k k', Precedes history k k' → k' ∈ order.map Prod.fst →
    [k, k'].Sublist (order.map Prod.fst)

namespace Linearizes

variable {M : Machine σ ι ο} {s : σ} {history : List (Mark κ ι ο)} {order : List (κ × ι)}
  {k k' : κ} {op : ι} {o : ο}

theorem nil (M : Machine σ ι ο) (s : σ) : Linearizes M s ([] : List (Mark κ ι ο)) [] where
  called _ h := nomatch h
  once := List.nodup_nil
  answered _ _ h := nomatch h
  realTime _ _ _ h := nomatch h

/-- An operation is called that was not called before. -/
theorem call (h : Linearizes M s history order) (hfresh : ∀ op, .call k op ∉ history) (op : ι) :
    Linearizes M s (history ++ [.call k op]) order where
  called p hp := List.mem_append_left _ (h.called p hp)
  once := h.once
  answered k' o ho := by
    rcases List.mem_append.mp ho with ho | ho
    · exact h.answered k' o ho
    · cases List.mem_singleton.mp ho
  realTime k₁ k₂ hprecedes hmem := by
    rcases precedes_concat hprecedes with hprecedes | ⟨op', hop⟩
    · exact h.realTime k₁ k₂ hprecedes hmem
    · -- what is called only now has not been performed
      obtain ⟨rfl, -⟩ := Mark.call.inj hop
      obtain ⟨p, hp, rfl⟩ := List.mem_map.mp hmem
      exact absurd (h.called p hp) (hfresh p.2)

/-- An operation that was called is performed, at the end of the order. -/
theorem perform (h : Linearizes M s history order) (hcalled : .call k op ∈ history)
    (hfresh : k ∉ order.map Prod.fst) : Linearizes M s history (order ++ [(k, op)]) where
  called p hp := by
    rcases List.mem_append.mp hp with hp | hp
    · exact h.called p hp
    · rw [List.mem_singleton.mp hp]
      exact hcalled
  once := by
    rw [List.map_append, List.map_singleton]
    exact h.once.append (List.nodup_singleton k) (List.disjoint_singleton.mpr hfresh)
  answered k' o ho := (h.answered k' o ho).append _
  realTime k₁ k₂ hprecedes hmem := by
    rw [List.map_append, List.map_singleton] at hmem ⊢
    rcases List.mem_append.mp hmem with hmem | hmem
    · exact (h.realTime k₁ k₂ hprecedes hmem).trans (List.sublist_append_left ..)
    · -- everything that has returned was performed before
      obtain ⟨o, ho⟩ := hprecedes.returned
      have hfirst : [k₁].Sublist (order.map Prod.fst) :=
        List.singleton_sublist.mpr (h.answered k₁ o ho).mem
      rw [List.mem_singleton.mp hmem]
      exact hfirst.append (List.Sublist.refl [k])

/-- An operation returns the answer it was given. -/
theorem ret (h : Linearizes M s history order) (ho : Answered M s order k o) :
    Linearizes M s (history ++ [.ret k o]) order where
  called p hp := List.mem_append_left _ (h.called p hp)
  once := h.once
  answered k' o' ho' := by
    rcases List.mem_append.mp ho' with ho' | ho'
    · exact h.answered k' o' ho'
    · cases List.mem_singleton.mp ho'
      exact ho
  realTime k₁ k₂ hprecedes hmem := by
    rcases precedes_concat hprecedes with hprecedes | ⟨op', hop⟩
    · exact h.realTime k₁ k₂ hprecedes hmem
    · cases hop

/-- A number of operations return. -/
theorem rets (h : Linearizes M s history order) {marks : List (Mark κ ι ο)}
    (hmarks : ∀ m ∈ marks, ∃ k o, m = .ret k o ∧ Answered M s order k o) :
    Linearizes M s (history ++ marks) order := by
  induction marks generalizing history with
  | nil =>
    rw [List.append_nil]
    exact h
  | cons m marks ih =>
    obtain ⟨k, o, rfl, ho⟩ := hmarks m (List.mem_cons_self ..)
    rw [List.append_cons]
    exact ih (h.ret ho) fun m hm => hmarks m (List.mem_cons_of_mem _ hm)

/-- A number of operations are performed. -/
theorem performs (h : Linearizes M s history order) {next : List (κ × ι)}
    (hcalled : ∀ p ∈ next, .call p.1 p.2 ∈ history) (hnodup : (next.map Prod.fst).Nodup)
    (hfresh : ∀ p ∈ next, p.1 ∉ order.map Prod.fst) :
    Linearizes M s history (order ++ next) := by
  induction next generalizing order with
  | nil =>
    rw [List.append_nil]
    exact h
  | cons p next ih =>
    obtain ⟨hp, hnodup'⟩ := List.nodup_cons.mp hnodup
    have hfirst :=
      h.perform (hcalled p (List.mem_cons_self ..)) (hfresh p (List.mem_cons_self ..))
    rw [List.append_cons]
    refine ih hfirst (fun q hq => hcalled q (List.mem_cons_of_mem _ hq)) hnodup' ?_
    intro q hq hmem
    rw [List.map_append, List.map_singleton] at hmem
    rcases List.mem_append.mp hmem with hmem | hmem
    · exact hfresh q (List.mem_cons_of_mem _ hq) hmem
    · rw [← List.mem_singleton.mp hmem] at hp
      exact hp (List.mem_map_of_mem hq)

/-- Of two operations in the order, the one that returned before the other was called stands in
front. -/
theorem mem_before (h : Linearizes M s history order) {before after : List (κ × ι)}
    (horder : order = before ++ (k', op) :: after) (hprecedes : Precedes history k k') :
    k ∈ before.map Prod.fst := by
  have hsub := h.realTime k k' hprecedes (by rw [horder]; simp)
  have honce := h.once
  rw [horder, List.map_append, List.map_cons] at hsub honce
  -- `k'` stands in one place only, so what is in front of it is in `before`
  have hnot : k' ∉ before.map Prod.fst := fun hmem =>
    (List.nodup_append.mp honce).2.2 k' hmem k' (List.mem_cons_self ..) rfl
  have hnot' : k' ∉ after.map Prod.fst :=
    (List.nodup_cons.mp (List.nodup_append.mp honce).2.1).1
  obtain ⟨l₁, l₂, hl, h₁, h₂⟩ := List.sublist_append_iff.mp hsub
  cases l₁ with
  | nil =>
    rw [List.nil_append] at hl
    subst hl
    rcases List.sublist_cons_iff.mp h₂ with h₂ | ⟨r, hr, hsub'⟩
    · exact absurd (h₂.subset (List.mem_cons_of_mem _ (List.mem_singleton_self k'))) hnot'
    · obtain ⟨-, rfl⟩ := List.cons.inj hr
      exact absurd (hsub'.subset (List.mem_singleton_self k')) hnot'
  | cons x l₁ =>
    obtain ⟨rfl, -⟩ := List.cons.inj hl
    exact h₁.subset (List.mem_cons_self ..)

end Linearizes

/-! ## Cells -/

/-- A cell of the state: every operation that is admitted sets it or leaves it as it is. What is
admitted stays admitted. -/
structure Cell (M : Machine σ ι ο) (admits : σ → ι → Prop) (get : σ → β) (sets : ι → Option β) :
    Prop where
  step : ∀ {s op}, admits s op → get (M.step s op).1 = (sets op).getD (get s)
  keep : ∀ {s op op'}, admits s op → admits s op' → admits (M.step s op).1 op'

/-- After operations a cell is as the last one of them set it that did, or as it was. -/
theorem Cell.get_run {M : Machine σ ι ο} {admits : σ → ι → Prop} {get : σ → β}
    {sets : ι → Option β} (hcell : Cell M admits get sets) {s : σ} {order : List (κ × ι)}
    (hadmits : ∀ p ∈ order, admits s p.2) :
    ((∀ p ∈ order, sets p.2 = none) ∧ get (M.run s (order.map Prod.snd)).1 = get s) ∨
      ∃ before p after, order = before ++ p :: after ∧
        sets p.2 = some (get (M.run s (order.map Prod.snd)).1) ∧ ∀ q ∈ after,
          sets q.2 = none := by
  induction order generalizing s with
  | nil => exact .inl ⟨fun p hp => absurd hp List.not_mem_nil, rfl⟩
  | cons p order ih =>
    have hp := hadmits p (List.mem_cons_self ..)
    have hstep := hcell.step hp
    have hrest := ih (s := (M.step s p.2).1) fun q hq =>
      hcell.keep hp (hadmits q (List.mem_cons_of_mem _ hq))
    rw [List.map_cons, Machine.run_cons]
    rcases hrest with ⟨hnone, hget⟩ | ⟨before, q, after, rfl, hq, hafter⟩
    · cases hsets : sets p.2 with
      | none =>
        rw [hsets, Option.getD_none] at hstep
        refine .inl ⟨fun q hq => ?_, hget.trans hstep⟩
        rcases List.mem_cons.mp hq with rfl | hq
        · exact hsets
        · exact hnone q hq
      | some v =>
        rw [hsets, Option.getD_some] at hstep
        exact .inr ⟨[], p, order, rfl, by rw [hsets, hget, hstep], hnone⟩
    · exact .inr ⟨p :: before, q, after, rfl, hq, hafter⟩

/-- What a read `k` of a cell may find: what was there at first, if nothing that sets the
cell returned before the read was called; or what another operation sets, which was called
before the read returned, if nothing that sets the cell came after that one and returned
before the read was called. -/
inductive Fresh (history : List (Mark κ ι ο)) (sets : ι → Option β) (initial : β) (k : κ) :
    β → Prop
  | initial (hnone : ∀ k' op, .call k' op ∈ history → sets op ≠ none →
      ¬ Precedes history k' k) :
    Fresh history sets initial k initial
  | written {k' : κ} {op : ι} {v : β} (hcalled : .call k' op ∈ history)
      (hsets : sets op = some v) (hbefore : ¬ Precedes history k k')
      (hlast : ∀ k'' op', .call k'' op' ∈ history → sets op' ≠ none → Precedes history k' k'' →
        ¬ Precedes history k'' k) :
    Fresh history sets initial k v

/-- Every operation in an order that explains a history finds every cell fresh. -/
theorem Linearizes.fresh {M : Machine σ ι ο} {s : σ} {history : List (Mark κ ι ο)}
    {order : List (κ × ι)} (h : Linearizes M s history order)
    (hcalls : ∀ k op op', .call k op ∈ history → .call k op' ∈ history → op = op')
    {admits : σ → ι → Prop} {get : σ → β} {sets : ι → Option β} (hcell : Cell M admits get sets)
    (hadmits : ∀ p ∈ order, admits s p.2) {before after : List (κ × ι)} {k : κ} {op : ι}
    (horder : order = before ++ (k, op) :: after) :
    Fresh history sets (get s) k (get (M.run s (before.map Prod.snd)).1) := by
  -- what returned before the read was called is in front of it, as the operation that was
  -- called
  have hfront : ∀ k' op', .call k' op' ∈ history → Precedes history k' k →
      (k', op') ∈ before := by
    intro k' op' hcall hprecedes
    obtain ⟨p, hp, rfl⟩ := List.mem_map.mp (h.mem_before horder hprecedes)
    have hmem : p ∈ order := by
      rw [horder]
      exact List.mem_append_left _ hp
    rw [hcalls p.1 op' p.2 hcall (h.called p hmem)]
    exact hp
  have hbefore : ∀ p ∈ before, admits s p.2 := by
    intro p hp
    refine hadmits p ?_
    rw [horder]
    exact List.mem_append_left _ hp
  rcases hcell.get_run hbefore with ⟨hnone, hget⟩ | ⟨first, p, last, hsplit, hset, hlast⟩
  · rw [hget]
    refine .initial ?_
    intro k' op' hcall hset hprecedes
    exact hset (hnone _ (hfront k' op' hcall hprecedes))
  · have hmem : p ∈ order := by
      rw [horder, hsplit]
      simp
    have hfirst : order = first ++ (p.1, p.2) :: (last ++ (k, op) :: after) := by
      rw [horder, hsplit, List.append_assoc, List.cons_append]
    have honce := h.once
    rw [hfirst, List.map_append, List.map_cons, List.map_append, List.map_cons] at honce
    refine .written (h.called p hmem) hset ?_ ?_
    · -- the read would be in front of what it finds
      intro hprecedes
      have hk := h.mem_before hfirst hprecedes
      exact (List.nodup_append.mp honce).2.2 k hk k (by simp) rfl
    · intro k'' op' hcall hset' hprecedes hprecedes'
      have hmem' := hfront k'' op' hcall hprecedes'
      rw [hsplit] at hmem'
      -- it stands behind the last one that sets the cell, so it does not set it
      rcases List.mem_append.mp hmem' with hin | hin
      · obtain ⟨f₁, f₂, rfl⟩ := List.append_of_mem hin
        have hbehind : order = f₁ ++ (k'', op') :: (f₂ ++ p :: (last ++ (k, op) :: after)) := by
          rw [hfirst]
          simp
        have hp := h.mem_before hbehind hprecedes
        rw [List.map_append] at honce
        exact (List.nodup_append.mp honce).2.2 p.1 (List.mem_append_left _ hp) p.1 (by simp) rfl
      · rcases List.mem_cons.mp hin with rfl | hin
        · have hp := h.mem_before hfirst hprecedes
          exact (List.nodup_append.mp honce).2.2 k'' hp k'' (by simp) rfl
        · exact hset' (hlast _ hin)

end Linearization

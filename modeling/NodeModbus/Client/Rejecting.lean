import NodeModbus.Client.Draining

/-!
# Rejecting requests manually

`manuallyRejectRequests` and `manuallylRejectAllRequests` reject the request under way
as often as they are told to. It stays under way: they never clear it, so that the
flush behind each rejection does nothing.

- `unsettled`: the requests whose promise is not settled.
- `manuallyRejectRequests_eq`: what a number of rejections does.
- `rejectsFirst_iff`, `rejectsAll_iff`: when that is what it should do.
-/

namespace NodeModbus

open Transition

namespace MBClientRequestHandler

variable {ρ ω : Type} {M : Messages ρ ω} {c : MBClientRequestHandler ρ ω} {u : UserRequest ρ}
  {finished : List (UserRequest ρ)}

/-! ## What the rejections do -/

/-- The error of `manuallyRejectCurrentRequest`. -/
def clearedError (u : UserRequest ρ) : UserRequestError ρ ω :=
  { err := .manuallyCleared, message := "the request was manually cleared",
    request := some u.request }

theorem manuallyRejectCurrentRequest_eq (M : Messages ρ ω)
    (hcurrent : c._currentRequest = some u) :
    c.manuallyRejectCurrentRequest M = (c.reject u (clearedError u), .ok ()) := by
  have hrejected : (c.reject u (clearedError u))._currentRequest = some u := hcurrent
  rw [manuallyRejectCurrentRequest, hcurrent]
  show (c.reject u (clearedError u))._flush M = _
  rw [_flush, hrejected]

/-- A number of rejections, of which each rejects the same request. -/
theorem manuallyRejectRequests_eq (M : Messages ρ ω) (hcurrent : c._currentRequest = some u)
    (numRequests : Nat) :
    c.manuallyRejectRequests M numRequests =
      ({ c with log := c.log ++ List.replicate numRequests (.rejected u (clearedError u)) },
        .ok ()) := by
  induction numRequests generalizing c with
  | zero => simp [manuallyRejectRequests]
  | succ numRequests ih =>
    rw [manuallyRejectRequests, manuallyRejectCurrentRequest_eq M hcurrent]
    refine (ih (c := c.reject u (clearedError u)) hcurrent).trans ?_
    simp [reject, note, List.replicate_succ]

theorem manuallyRejectRequests_none (M : Messages ρ ω) (hcurrent : c._currentRequest = none)
    (numRequests : Nat) : c.manuallyRejectRequests M numRequests = (c, .ok ()) := by
  induction numRequests with
  | zero => rfl
  | succ numRequests ih =>
    rw [manuallyRejectRequests, manuallyRejectCurrentRequest, hcurrent]
    exact ih

theorem settled_manuallyRejectRequests (hcurrent : c._currentRequest = some u)
    {numRequests : Nat} (h : numRequests ≠ 0 ∨ Settled c.log u) :
    Settled (c.manuallyRejectRequests M numRequests).1.log u := by
  rw [manuallyRejectRequests_eq M hcurrent, settled_append]
  rcases h with hne | hu
  · obtain ⟨n, rfl⟩ := Nat.exists_eq_succ_of_ne_zero hne
    exact .inr ((settled_cons ..).mpr (.inl rfl))
  · exact .inl hu

theorem rejectedWith_manuallyRejectRequests (hcurrent : c._currentRequest = some u)
    (hu : ¬ Settled c.log u) {numRequests : Nat} (hne : numRequests ≠ 0) :
    RejectedWith (c.manuallyRejectRequests M numRequests).1.log u .manuallyCleared := by
  obtain ⟨n, rfl⟩ := Nat.exists_eq_succ_of_ne_zero hne
  rw [manuallyRejectRequests_eq M hcurrent]
  show RejectedWith (c.log ++ List.replicate (n + 1) _) u _
  rw [List.replicate_succ, List.append_cons]
  exact RejectedWith.append ⟨clearedError u, rfl, settledBy_concat rfl hu⟩ _

/-! ## The requests that are not settled -/

section

variable [DecidableEq ρ]

instance (log : List (Action ρ ω)) (u : UserRequest ρ) : Decidable (Settled log u) :=
  inferInstanceAs (Decidable (u ∈ log.filterMap Action.settles))

/-- The requests whose promise is not settled, the one under way first. -/
def unsettled (c : MBClientRequestHandler ρ ω) : List (UserRequest ρ) :=
  c.pending.filter fun u => ¬ Settled c.log u

/-- The requests of the queue are not settled. -/
theorem Accounted.unsettled_eq (h : Accounted finished c) :
    c.unsettled = (c._currentRequest.toList.filter fun u => ¬ Settled c.log u) ++
      c._requests := by
  rw [unsettled, pending, List.filter_append]
  congr 1
  rw [List.filter_eq_self]
  intro v hv
  exact decide_eq_true (h.waiting v hv)

theorem Accounted.unsettled_of_settled (h : Accounted finished c)
    (hcurrent : c._currentRequest = some u) (hu : Settled c.log u) :
    c.unsettled = c._requests := by
  rw [h.unsettled_eq, hcurrent]
  simp [hu]

theorem Accounted.unsettled_of_not_settled (h : Accounted finished c)
    (hcurrent : c._currentRequest = some u) (hu : ¬ Settled c.log u) :
    c.unsettled = u :: c._requests := by
  rw [h.unsettled_eq, hcurrent]
  simp [hu]

/-! ## What the rejections should do -/

/-- What is asked of a number of rejections: that many of the unsettled requests are
rejected, from the front, the others are left as they are, and the first of these is under
way and written. -/
structure RejectsFirst (M : Messages ρ ω) (numRequests : Nat) (c : MBClientRequestHandler ρ ω) :
    Prop where
  returns : (c.manuallyRejectRequests M numRequests).2 = .ok ()
  rejected : ∀ u ∈ c.unsettled.take numRequests,
    RejectedWith (c.manuallyRejectRequests M numRequests).1.log u .manuallyCleared
  kept : (c.manuallyRejectRequests M numRequests).1.unsettled = c.unsettled.drop numRequests
  next : ∀ u, (c.manuallyRejectRequests M numRequests).1.unsettled.head? = some u →
    (c.manuallyRejectRequests M numRequests).1._currentRequest = some u ∧
      u ∈ writes (c.manuallyRejectRequests M numRequests).1.log

/-- What is asked of the rejection of all requests: every one of them is rejected, and
nothing is left to do. -/
structure RejectsAll (M : Messages ρ ω) (c : MBClientRequestHandler ρ ω) : Prop where
  returns : (c.manuallylRejectAllRequests M).2 = .ok ()
  rejected : ∀ u ∈ c.unsettled,
    RejectedWith (c.manuallylRejectAllRequests M).1.log u .manuallyCleared
  pending : (c.manuallylRejectAllRequests M).1.pending = []
  timers : (c.manuallylRejectAllRequests M).1.timers = []

/-- With the request under way settled there is no other one to be next. -/
theorem RejectsFirst.requests_eq_nil {numRequests : Nat} (h : RejectsFirst M numRequests c)
    (hinv : Inv c) (hcurrent : c._currentRequest = some u)
    (hsettled : Settled (c.manuallyRejectRequests M numRequests).1.log u) :
    c._requests = [] := by
  obtain ⟨finished, haccounted⟩ := hinv.accounted
  obtain ⟨finished', haccounted'⟩ :=
    (hinv.manuallyRejectRequests (M := M) numRequests).accounted
  have hcall := manuallyRejectRequests_eq M hcurrent numRequests
  have hunsettled : (c.manuallyRejectRequests M numRequests).1.unsettled = c._requests := by
    rw [haccounted'.unsettled_of_settled (by rw [hcall]; exact hcurrent) hsettled, hcall]
  cases hrequests : c._requests with
  | nil => rfl
  | cons v requests =>
    obtain ⟨hnext, -⟩ := h.next v (by rw [hunsettled, hrequests]; rfl)
    rw [hcall] at hnext
    obtain rfl := Option.some.inj (hcurrent.symm.trans hnext)
    exact absurd (hrequests ▸ List.mem_cons_self ..) (haccounted.current_not_mem hcurrent)

/-- It does what it should when no request but the one under way is there, and that one is
settled afterwards. -/
theorem rejectsFirst_of_requests_eq_nil (h : Inv c) (hcurrent : c._currentRequest = some u)
    (hrequests : c._requests = []) {numRequests : Nat}
    (hdone : numRequests ≠ 0 ∨ Settled c.log u) : RejectsFirst M numRequests c := by
  obtain ⟨finished, haccounted⟩ := h.accounted
  obtain ⟨finished', haccounted'⟩ := (h.manuallyRejectRequests (M := M) numRequests).accounted
  have hcall := manuallyRejectRequests_eq M hcurrent numRequests
  have hnone : (c.manuallyRejectRequests M numRequests).1.unsettled = [] := by
    rw [haccounted'.unsettled_of_settled (by rw [hcall]; exact hcurrent)
      (settled_manuallyRejectRequests hcurrent hdone), hcall]
    exact hrequests
  refine ⟨by rw [hcall], ?_, ?_, ?_⟩
  · by_cases hu : Settled c.log u
    · rw [haccounted.unsettled_of_settled hcurrent hu, hrequests, List.take_nil]
      intro v hv
      cases hv
    · intro v hv
      rw [haccounted.unsettled_of_not_settled hcurrent hu, hrequests] at hv
      obtain rfl := List.mem_singleton.mp (List.mem_of_mem_take hv)
      exact rejectedWith_manuallyRejectRequests hcurrent hu (hdone.resolve_right hu)
  · rw [hnone]
    by_cases hu : Settled c.log u
    · rw [haccounted.unsettled_of_settled hcurrent hu, hrequests, List.drop_nil]
    · rw [haccounted.unsettled_of_not_settled hcurrent hu, hrequests, List.drop_of_length_le]
      exact Nat.one_le_iff_ne_zero.mpr (hdone.resolve_right hu)
  · rw [hnone]
    intro v hv
    cases hv

/-- A number of rejections does what it should if and only if it is to do nothing, or there
is no request but the one under way. -/
theorem rejectsFirst_iff (h : Inv c) (numRequests : Nat) :
    RejectsFirst M numRequests c ↔
      (c._requests ≠ [] → numRequests = 0 ∧ ∃ u, c._currentRequest = some u ∧
        ¬ Settled c.log u) ∧
      (numRequests = 0 → ∀ u, c._currentRequest = some u → ¬ Settled c.log u →
        u ∈ writes c.log) := by
  obtain ⟨finished, haccounted⟩ := h.accounted
  cases hcurrent : c._currentRequest with
  | none =>
    -- nothing is pending
    have hrequests := h.requests_eq_nil hcurrent
    have hunsettled : c.unsettled = [] := by
      rw [haccounted.unsettled_eq, hcurrent, hrequests]; rfl
    have hcall := manuallyRejectRequests_none M hcurrent numRequests
    refine iff_of_true ⟨by rw [hcall], ?_, ?_, ?_⟩ ⟨fun hne => absurd hrequests hne, ?_⟩
    · rw [hunsettled, List.take_nil]
      intro u hu
      cases hu
    · rw [hcall, hunsettled, List.drop_nil]
    · rw [hcall, hunsettled]
      intro u hu
      cases hu
    · intro _ u hu
      cases hu
  | some u =>
    by_cases hdone : numRequests ≠ 0 ∨ Settled c.log u
    · -- the request under way is settled afterwards, and stays where it is
      constructor
      · intro hrejects
        have hrequests := hrejects.requests_eq_nil h hcurrent
          (settled_manuallyRejectRequests hcurrent hdone)
        refine ⟨fun hne => absurd hrequests hne, ?_⟩
        rintro rfl v hv hunsettled
        exact absurd (Option.some.inj hv ▸ hdone.resolve_left (not_not.mpr rfl)) hunsettled
      · rintro ⟨hqueue, -⟩
        refine rejectsFirst_of_requests_eq_nil h hcurrent ?_ hdone
        by_contra hne
        obtain ⟨rfl, v, hv, hunsettled⟩ := hqueue hne
        exact hunsettled (Option.some.inj hv ▸ hdone.resolve_left (not_not.mpr rfl))
    · obtain ⟨hzero, hu⟩ := not_or.mp hdone
      obtain rfl := not_not.mp hzero
      have hunsettled := haccounted.unsettled_of_not_settled hcurrent hu
      constructor
      · intro hrejects
        refine ⟨fun _ => ⟨rfl, u, rfl, hu⟩, ?_⟩
        rintro - v hv -
        obtain rfl := Option.some.inj hv
        exact (hrejects.next u (by rw [manuallyRejectRequests, hunsettled]; rfl)).2
      · rintro ⟨-, hwritten⟩
        refine ⟨rfl, ?_, rfl, ?_⟩
        · intro v hv
          cases hv
        · intro v hv
          have hv : c.unsettled.head? = some v := hv
          rw [hunsettled, List.head?_cons] at hv
          obtain rfl := Option.some.inj hv
          exact ⟨hcurrent, hwritten rfl u rfl hu⟩

/-- The rejection of all requests does what it should if and only if there is none. -/
theorem rejectsAll_iff (h : Inv c) : RejectsAll M c ↔ c._currentRequest = none := by
  obtain ⟨finished, haccounted⟩ := h.accounted
  constructor
  · intro hrejects
    cases hcurrent : c._currentRequest with
    | none => rfl
    | some u =>
      -- the request under way stays
      have hpending := hrejects.pending
      rw [manuallylRejectAllRequests, manuallyRejectRequests_eq M hcurrent, pending, hcurrent]
        at hpending
      cases hpending
  · intro hcurrent
    have hrequests := h.requests_eq_nil hcurrent
    have hpending := pending_of_idle hcurrent hrequests
    have hcall : c.manuallylRejectAllRequests M = (c, .ok ()) :=
      manuallyRejectRequests_none M hcurrent c.requestCount
    refine ⟨by rw [hcall], ?_, by rw [hcall]; exact hpending,
      by rw [hcall, haccounted.timers, hcurrent]; rfl⟩
    rw [unsettled, hpending]
    intro u hu
    cases hu

end

end MBClientRequestHandler

open MBClientRequestHandler

instance (w : Transport) : DecidableEq w.Request :=
  match w with
  | .tcp => inferInstanceAs (DecidableEq ModbusTCPRequest)
  | .rtu _ => inferInstanceAs (DecidableEq ModbusRTURequest)

/-- Manual rejection of a number of requests does what it should if and only if no request
waits in the queue, or the number is 0 and the request under way is unsettled; and, when the
number is 0, an unsettled request under way was written. That of all requests does so if and
only if there is none. -/
theorem manualRejection_iff (w : Transport) (unitId : Int) {c : w.Client}
    (h : Reachable (clientSystem w unitId) c) :
    (∀ numRequests, RejectsFirst w.messages numRequests c ↔
      (c._requests ≠ [] → numRequests = 0 ∧ ∃ u, c._currentRequest = some u ∧
        ¬ Settled c.log u) ∧
      (numRequests = 0 → ∀ u, c._currentRequest = some u → ¬ Settled c.log u →
        u ∈ writes c.log)) ∧
    (RejectsAll w.messages c ↔ c._currentRequest = none) :=
  ⟨rejectsFirst_iff (inv_reachable h), rejectsAll_iff (inv_reachable h)⟩

theorem manualRejection_iff_twoRequests :
    (∀ numRequests, RejectsFirst tcpMessages numRequests twoRequests ↔
      (twoRequests._requests ≠ [] → numRequests = 0 ∧
        ∃ u, twoRequests._currentRequest = some u ∧ ¬ Settled twoRequests.log u) ∧
      (numRequests = 0 → ∀ u, twoRequests._currentRequest = some u →
        ¬ Settled twoRequests.log u →
        u ∈ writes twoRequests.log)) ∧
    (RejectsAll tcpMessages twoRequests ↔ twoRequests._currentRequest = none) :=
  manualRejection_iff .tcp 1 reachable_twoRequests

/-- Of a request under way and one in the queue, one rejection does not start the second,
and the rejection of all does not reject it. -/
theorem not_rejectsFirst_twoRequests :
    Reachable (clientSystem .tcp 1) twoRequests ∧ twoRequests._state = .online ∧
      ¬ RejectsFirst tcpMessages 1 twoRequests ∧ ¬ RejectsAll tcpMessages twoRequests := by
  have hinv : Inv twoRequests := inv_reachable reachable_twoRequests
  refine ⟨reachable_twoRequests, rfl, ?_, ?_⟩
  · intro hrejects
    obtain ⟨hzero, -⟩ := ((rejectsFirst_iff hinv 1).mp hrejects).1 (List.cons_ne_nil _ _)
    cases hzero
  · intro hrejects
    cases (rejectsAll_iff hinv).mp hrejects

end NodeModbus

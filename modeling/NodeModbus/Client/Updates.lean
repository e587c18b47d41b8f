import Mathlib.Logic.Relation
import NodeModbus.Client.Accounting

/-!
# The updates the client's methods are made of

A method of the request handler does one elementary thing after another: it puts
something in the log, takes a request off the queue, stops a timer, clears the request
under way, or flushes. Neither the connection nor the requests it is asked for change.

- `Update`, `Updates`: one such thing, and any number of them.
- `Updates.invariant`, `Updates.relates`: what every update keeps, the methods keep.
- `updates_apply`: the events that neither come from the socket nor register a request.
-/

namespace NodeModbus

namespace MBClientRequestHandler

variable {ρ ω : Type}

/-- One elementary thing a method does. -/
inductive Update (M : Messages ρ ω) (c : MBClientRequestHandler ρ ω) :
    MBClientRequestHandler ρ ω → Prop
  | note {a : Action ρ ω} (hregisters : a.registers = none) (hwrites : a.writes = none) :
    Update M c (c.note a)
  | shift {u : UserRequest ρ} {requests : List (UserRequest ρ)}
      (hrequests : c._requests = u :: requests) :
    Update M c { c with _requests := requests }
  | done (u : UserRequest ρ) : Update M c (c.done u)
  | clearCurrentRequest : Update M c c._clearCurrentRequest
  | flushes (n : Nat) : Update M c { c with flushes := n }
  | flush : Update M c (c._flush M).1

/-- One thing after another. -/
abbrev Updates (M : Messages ρ ω) :
    MBClientRequestHandler ρ ω → MBClientRequestHandler ρ ω → Prop :=
  Relation.ReflTransGen (Update M)

variable {M : Messages ρ ω} {c c' : MBClientRequestHandler ρ ω}

/-- What every update keeps is kept. -/
theorem Updates.invariant {P : MBClientRequestHandler ρ ω → Prop}
    (hupdate : ∀ {c c'}, Update M c c' → P c → P c') (h : Updates M c c') (hc : P c) :
    P c' := by
  induction h with
  | refl => exact hc
  | tail _ hlast ih => exact hupdate hlast ih

/-- How every update relates two states, the states before and after are related. -/
theorem Updates.relates {R : MBClientRequestHandler ρ ω → MBClientRequestHandler ρ ω → Prop}
    (refl : ∀ c, R c c) (trans : ∀ {c c' c''}, R c c' → R c' c'' → R c c'')
    (hupdate : ∀ {c c'}, Update M c c' → R c c') (h : Updates M c c') : R c c' :=
  h.invariant (P := R c) (fun hstep hc => trans hc (hupdate hstep)) (refl c)

theorem updates_reject (M : Messages ρ ω) (c : MBClientRequestHandler ρ ω) (u : UserRequest ρ)
    (err : UserRequestError ρ ω) : Updates M c (c.reject u err) :=
  .single (.note (a := .rejected u err) rfl rfl)

theorem updates_rejectRequests (M : Messages ρ ω) {requests : List (UserRequest ρ)}
    {c : MBClientRequestHandler ρ ω} (hrequests : c._requests = requests) :
    Updates M c (rejectRequests requests c) := by
  induction requests generalizing c with
  | nil => exact .refl
  | cons u requests ih =>
    have hfirst : Updates M c { c with _requests := requests } := .single (.shift hrequests)
    exact (hfirst.trans (updates_reject M _ u _)).trans (ih rfl)

theorem updates_clearAllRequests (M : Messages ρ ω) (c : MBClientRequestHandler ρ ω) :
    Updates M c c._clearAllRequests :=
  (Relation.ReflTransGen.single .clearCurrentRequest).trans (updates_rejectRequests M rfl)

/-- Settling the promise of the request under way, and flushing. -/
theorem updates_settle_flush (M : Messages ρ ω) (c : MBClientRequestHandler ρ ω)
    {a : Action ρ ω} (hregisters : a.registers = none) (hwrites : a.writes = none) :
    Updates M c ((c.note a)._clearCurrentRequest._flush M).1 :=
  have hcleared : Updates M c (c.note a)._clearCurrentRequest :=
    (Relation.ReflTransGen.single (.note hregisters hwrites)).tail .clearCurrentRequest
  hcleared.tail .flush

theorem updates_handled (h : Handled M c c') : Updates M c c' := by
  cases h with
  | ignored => exact .refl
  | cleared _ => exact (updates_reject M c _ _).trans (updates_clearAllRequests M _)
  | @rejected u err _ => exact updates_settle_flush M c (a := .rejected u err) rfl rfl
  | @resolved u response _ => exact updates_settle_flush M c (a := .resolved u response) rfl rfl

theorem updates_onTimeout (M : Messages ρ ω) (c : MBClientRequestHandler ρ ω)
    (u : UserRequest ρ) : Updates M c (c.onTimeout M u).1 :=
  (Relation.ReflTransGen.single (.done u)).trans
    (updates_settle_flush M (c.done u) (a := .rejected u _) rfl rfl)

theorem updates_manuallyRejectCurrentRequest (M : Messages ρ ω)
    (c : MBClientRequestHandler ρ ω) : Updates M c (c.manuallyRejectCurrentRequest M).1 := by
  unfold manuallyRejectCurrentRequest
  split
  · exact .refl
  · exact (updates_reject M c _ _).tail .flush

theorem updates_manuallyRejectRequests (M : Messages ρ ω) (numRequests : Nat)
    (c : MBClientRequestHandler ρ ω) : Updates M c (c.manuallyRejectRequests M numRequests).1 :=
  manuallyRejectRequests_induction (R := Updates M) (fun _ => .refl) Relation.ReflTransGen.trans
    (updates_manuallyRejectCurrentRequest M) numRequests c

theorem updates_customErrorRequest (M : Messages ρ ω) (c : MBClientRequestHandler ρ ω)
    (err : UserRequestError ρ ω) : Updates M c (c.customErrorRequest err) := by
  unfold customErrorRequest
  split
  · exact .refl
  · exact updates_reject M c _ err

/-- What `_onClose` does when it has changed the state. -/
theorem updates_onClose (M : Messages ρ ω) (c : MBClientRequestHandler ρ ω) :
    Updates M ({ c with _state := .offline }.note (.state .offline)) c._onClose := by
  unfold _onClose
  dsimp only
  split
  · exact updates_clearAllRequests M _
  · exact (updates_reject M _ _ _).trans (updates_clearAllRequests M _)

end MBClientRequestHandler

open MBClientRequestHandler

/-- The events that do not come from the socket, and register no request. -/
def Event.Internal {w : Transport} : Event w → Prop
  | register _ => False
  | connect => False
  | close => False
  | _ => True

/-- What such an event does. -/
theorem updates_apply {w : Transport} (unitId : Int) (c : w.Client) {e : Event w}
    (h : e.Internal) : Updates w.messages c (e.apply unitId c).1 := by
  cases e with
  | register requestBody => cases h
  | connect => cases h
  | close => cases h
  | handle response => exact updates_handled (w.handled_handle c response)
  | timeout u => exact updates_onTimeout w.messages c u
  | deferredFlush => exact (Relation.ReflTransGen.single (.flushes _)).tail .flush
  | manuallyRejectCurrentRequest => exact updates_manuallyRejectCurrentRequest w.messages c
  | manuallyRejectRequests numRequests =>
    exact updates_manuallyRejectRequests w.messages numRequests c
  | manuallylRejectAllRequests =>
    exact updates_manuallyRejectRequests w.messages c.requestCount c
  | customErrorRequest err => exact updates_customErrorRequest w.messages c err

end NodeModbus

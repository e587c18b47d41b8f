import Mathlib.Data.List.Nodup
import NodeModbus.Client.RequestHandler

/-!
# What the client's request handler keeps track of

Every request that was registered is done, or is the one under way, or waits in
the queue, in the order of registration. The requests that are done are settled,
and those in the queue are not; the only timer is that of the request under way.

- `Accounted`: this, with the requests that are done. It also holds in the middle of
  a call.
- `Inv`: between the events there is a request under way when some are waiting, and
  none at all when the handler is offline.
- `inv_reachable`: `Inv` holds of every reachable state.
- `requests_accounted`: no request is lost, and no timer outlives its request.
- `wireDiscipline`: what is written to the socket, and when.
-/

namespace NodeModbus

open Transition

variable {ρ ω : Type}

/-! ## Reading a log -/

namespace Action

/-- The request that is registered. -/
def registers : Action ρ ω → Option (UserRequest ρ)
  | registered u => some u
  | _ => none

/-- The request whose promise is settled. -/
def settles : Action ρ ω → Option (UserRequest ρ)
  | resolved u _ => some u
  | rejected u _ => some u
  | _ => none

/-- The request that is written. -/
def writes : Action ρ ω → Option (UserRequest ρ)
  | written u _ => some u
  | _ => none

end Action

/-- The registrations in a log, in their order. -/
def registrations (log : List (Action ρ ω)) :
    List (UserRequest ρ) := log.filterMap Action.registers

/-- The requests written according to a log, in their order. -/
def writes (log : List (Action ρ ω)) : List (UserRequest ρ) := log.filterMap Action.writes

/-- The promise of a request is settled. -/
def Settled (log : List (Action ρ ω)) (u : UserRequest ρ) :
    Prop := u ∈ log.filterMap Action.settles

/-- The state of the connection after a log. -/
def connection : List (Action ρ ω) → ConnectionState :=
  List.foldl (fun s a => match a with
    | .state s => s
    | _ => s) .offline

@[simp] theorem registrations_concat (log : List (Action ρ ω)) (a : Action ρ ω) :
    registrations (log ++ [a]) = registrations log ++ a.registers.toList := by
  rw [registrations, List.filterMap_append, registrations]
  cases h : a.registers <;> simp [h]

@[simp] theorem writes_concat (log : List (Action ρ ω)) (a : Action ρ ω) :
    writes (log ++ [a]) = writes log ++ a.writes.toList := by
  rw [writes, List.filterMap_append, writes]
  cases h : a.writes <;> simp [h]

@[simp] theorem settled_concat (log : List (Action ρ ω)) (a : Action ρ ω) (u : UserRequest ρ) :
    Settled (log ++ [a]) u ↔ Settled log u ∨ a.settles = some u := by
  rw [Settled, List.filterMap_append, List.mem_append, Settled]
  cases h : a.settles <;> simp [h, eq_comm]

theorem connection_concat (log : List (Action ρ ω)) (a : Action ρ ω) :
    connection (log ++ [a]) = match a with
      | .state s => s
      | _ => connection log := by
  rw [connection, List.foldl_append]
  cases a <;> rfl

/-- A request is only written while the handler is online, before its promise is settled,
and when the promise of every request that was written before is settled. -/
def MayWrite (before : List (Action ρ ω)) (a : Action ρ ω) : Prop :=
  ∀ u payload, a = .written u payload →
    connection before = .online ∧ ¬ Settled before u ∧ ∀ v ∈ writes before, Settled before v

/-! ## The invariant -/

namespace MBClientRequestHandler

/-- The request under way and the queue. -/
def pending (c : MBClientRequestHandler ρ ω) : List (UserRequest ρ) :=
  c._currentRequest.toList ++ c._requests

theorem pending_of_idle {c : MBClientRequestHandler ρ ω} {requests : List (UserRequest ρ)}
    (hcurrent : c._currentRequest = none) (hrequests : c._requests = requests) :
    c.pending = requests := by
  rw [pending, hcurrent, hrequests]
  rfl

/-- What holds also in the middle of a call, with the requests that are done. -/
structure Accounted (finished : List (UserRequest ρ)) (c : MBClientRequestHandler ρ ω) :
    Prop where
  registrations : registrations c.log = finished ++ c.pending
  keys : (NodeModbus.registrations c.log).map UserRequest.key = List.range c.registered
  known : ∀ u, Settled c.log u → u ∈ NodeModbus.registrations c.log
  settled : ∀ u ∈ finished, Settled c.log u
  waiting : ∀ u ∈ c._requests, ¬ Settled c.log u
  timers : c.timers = c._currentRequest.toList
  connection : connection c.log = c._state
  writes : (writes c.log).Sublist (finished ++ c._currentRequest.toList)
  mayWrite : Each MayWrite c.log

/-- What holds between the events. -/
structure Inv (c : MBClientRequestHandler ρ ω) : Prop where
  accounted : ∃ finished, Accounted finished c
  occupied : c._requests ≠ [] → c._currentRequest ≠ none
  offline : c._state = .offline → c.pending = []

variable {finished : List (UserRequest ρ)} {c : MBClientRequestHandler ρ ω} {u : UserRequest ρ}

theorem Accounted.keys_nodup (h : Accounted finished c) :
    ((finished ++ c.pending).map UserRequest.key).Nodup := by
  rw [← h.registrations, h.keys]
  exact List.nodup_range

theorem Accounted.nodup (h : Accounted finished c) : (finished ++ c.pending).Nodup :=
  List.Nodup.of_map _ h.keys_nodup

/-- What is done was registered before what is pending. -/
theorem Accounted.key_lt_key (h : Accounted finished c) {v : UserRequest ρ}
    (hv : v ∈ finished) (hu : u ∈ c.pending) : v.key < u.key := by
  have hkeys : (finished ++ c.pending).Pairwise fun a b => a.key < b.key := by
    rw [← List.pairwise_map, ← h.registrations, h.keys]
    exact List.pairwise_lt_range
  exact (List.pairwise_append.mp hkeys).2.2 v hv u hu

/-- The pending requests are the last ones that were registered. -/
theorem Accounted.keys_pending (h : Accounted finished c) :
    c.pending.map UserRequest.key = List.range' finished.length c.pending.length := by
  have hkeys : finished.map UserRequest.key ++ c.pending.map UserRequest.key =
      List.range c.registered := by
    rw [← List.map_append, ← h.registrations, h.keys]
  have hlength := congrArg List.length hkeys
  rw [List.length_append, List.length_map, List.length_map, List.length_range] at hlength
  have hdrop := congrArg (List.drop finished.length) hkeys
  rw [List.drop_left' (List.length_map ..), List.range_eq_range', List.drop_range'] at hdrop
  rw [hdrop]
  congr 1 <;> omega

/-- The request under way is not in the queue. -/
theorem Accounted.current_not_mem (h : Accounted finished c)
    (hcurrent : c._currentRequest = some u) : u ∉ c._requests := by
  have hnodup := (List.nodup_append.mp h.nodup).2.1
  rw [pending, hcurrent, Option.toList_some, List.singleton_append] at hnodup
  exact (List.nodup_cons.mp hnodup).1

/-- Settling a promise. What is settled leaves the queue, if it was there, and may be done. -/
theorem Accounted.settle (h : Accounted finished c) {a : Action ρ ω} (ha : a.settles = some u)
    (hu : u ∈ finished ++ c.pending) {finished' requests : List (UserRequest ρ)}
    (hsplit : finished' ++ (c._currentRequest.toList ++ requests) = finished ++ c.pending)
    (hfinished : ∀ v ∈ finished', v ∈ finished ∨ v = u)
    (hrequests : ∀ v ∈ requests, v ∈ c._requests ∧ v ≠ u)
    (hkept : finished.Sublist finished') :
    Accounted finished' ({ c with _requests := requests }.note a) := by
  -- an action that settles a promise shows nowhere else in what is read off the log
  have hregisters : a.registers = none := by cases a <;> first | rfl | cases ha
  have hwrites : a.writes = none := by cases a <;> first | rfl | cases ha
  have hconnection : NodeModbus.connection (c.log ++ [a]) = NodeModbus.connection c.log := by
    rw [connection_concat]
    cases a <;> first | rfl | cases ha
  have hregistrations : NodeModbus.registrations (c.log ++ [a]) =
      NodeModbus.registrations c.log := by
    rw [registrations_concat, hregisters, Option.toList_none, List.append_nil]
  have hlog : ({ c with _requests := requests }.note a).log = c.log ++ [a] := rfl
  constructor
  case registrations => rw [hlog, hregistrations, h.registrations, ← hsplit]; rfl
  case keys => rw [hlog, hregistrations]; exact h.keys
  case known =>
    intro v hv
    rw [hlog] at hv ⊢
    rw [hregistrations]
    rcases (settled_concat ..).mp hv with hv | hv
    · exact h.known v hv
    · obtain rfl := Option.some.inj (ha.symm.trans hv)
      rw [h.registrations]
      exact hu
  case settled =>
    intro v hv
    rw [hlog, settled_concat]
    rcases hfinished v hv with hv | rfl
    · exact .inl (h.settled v hv)
    · exact .inr ha
  case waiting =>
    intro v hv hsettled
    obtain ⟨hmem, hne⟩ := hrequests v hv
    rw [hlog, settled_concat] at hsettled
    rcases hsettled with hs | hs
    · exact h.waiting v hmem hs
    · exact hne (Option.some.inj (hs.symm.trans ha))
  case timers => exact h.timers
  case connection => exact hconnection.trans h.connection
  case writes =>
    rw [hlog, writes_concat, hwrites, Option.toList_none, List.append_nil]
    exact h.writes.trans (hkept.append_right _)
  case mayWrite =>
    refine each_concat.mpr ⟨h.mayWrite, ?_⟩
    intro v payload hv
    rw [hv] at ha
    cases ha

/-- An action that neither registers a request nor settles one. -/
theorem Accounted.log (h : Accounted finished c) {a : Action ρ ω}
    (hregisters : a.registers = none) (hsettles : a.settles = none) {s : ConnectionState}
    (hconnection : NodeModbus.connection (c.log ++ [a]) = s)
    (hwrites : (NodeModbus.writes (c.log ++ [a])).Sublist
      (finished ++ c._currentRequest.toList))
    (hmayWrite : MayWrite c.log a) : Accounted finished ({ c with _state := s }.note a) := by
  have hregistrations : NodeModbus.registrations (c.log ++ [a]) =
      NodeModbus.registrations c.log := by
    rw [registrations_concat, hregisters, Option.toList_none, List.append_nil]
  have hsettled : ∀ v, Settled (c.log ++ [a]) v ↔ Settled c.log v := by
    intro v
    rw [settled_concat, hsettles]
    exact or_iff_left fun h => nomatch h
  constructor
  case registrations => exact hregistrations.trans h.registrations
  case keys => exact (congrArg _ hregistrations).trans h.keys
  case known => exact fun v hv => hregistrations ▸ h.known v ((hsettled v).mp hv)
  case settled => exact fun v hv => (hsettled v).mpr (h.settled v hv)
  case waiting => exact fun v hv hs => h.waiting v hv ((hsettled v).mp hs)
  case timers => exact h.timers
  case connection => exact hconnection
  case writes => exact hwrites
  case mayWrite => exact each_concat.mpr ⟨h.mayWrite, hmayWrite⟩

/-- Settling the promise of the request under way. -/
theorem Accounted.settleCurrent (h : Accounted finished c) {a : Action ρ ω}
    (ha : a.settles = some u) (hcurrent : c._currentRequest = some u) :
    Accounted finished (c.note a) := by
  refine h.settle ha ?_ rfl (fun v hv => .inl hv) (fun v hv => ⟨hv, ?_⟩) (List.Sublist.refl _)
  · rw [pending, hcurrent]
    simp
  · rintro rfl
    exact h.current_not_mem hcurrent hv

/-- Rejecting the first request of the queue, when none is under way. -/
theorem Accounted.settleFirst (h : Accounted finished c) {a : Action ρ ω}
    (ha : a.settles = some u) (hcurrent : c._currentRequest = none)
    {requests : List (UserRequest ρ)} (hrequests : c._requests = u :: requests) :
    Accounted (finished ++ [u]) ({ c with _requests := requests }.note a) := by
  have hpending := pending_of_idle hcurrent hrequests
  -- it does not occur in the rest of the queue, whose requests have to stay unsettled
  have hnodup := (List.nodup_append.mp h.nodup).2.1
  rw [hpending, List.nodup_cons] at hnodup
  refine h.settle ha ?_ ?_ ?_ (fun v hv => ⟨?_, ?_⟩) (List.sublist_append_left _ _)
  · rw [hpending]
    simp
  · rw [hpending, hcurrent, List.append_assoc]
    rfl
  · intro v hv
    simpa using hv
  · rw [hrequests]
    exact List.mem_cons_of_mem _ hv
  · rintro rfl
    exact hnodup.1 hv

theorem clearCurrentRequest_eq (hcurrent : c._currentRequest = some u) :
    c._clearCurrentRequest = { c.done u with _currentRequest := none } := by
  rw [_clearCurrentRequest, hcurrent]

/-- Clearing the request under way, when its promise is settled. -/
theorem Accounted.clearCurrentRequest (h : Accounted finished c)
    (hcurrent : c._currentRequest = some u) (hsettled : Settled c.log u) :
    Accounted (finished ++ [u]) c._clearCurrentRequest := by
  have hpending : finished ++ c.pending = finished ++ [u] ++ c._requests := by
    rw [pending, hcurrent, List.append_assoc]
    rfl
  rw [clearCurrentRequest_eq hcurrent]
  constructor
  case registrations => exact h.registrations.trans hpending
  case keys => exact h.keys
  case known => exact h.known
  case settled =>
    intro v hv
    rcases List.mem_append.mp hv with hv | hv
    · exact h.settled v hv
    · rw [List.mem_singleton.mp hv]
      exact hsettled
  case waiting => exact h.waiting
  case timers =>
    show c.timers.filter (fun v => v.key ≠ u.key) = []
    rw [h.timers, hcurrent]
    simp
  case connection => exact h.connection
  case writes =>
    have hwrites := h.writes
    rw [hcurrent] at hwrites
    show (NodeModbus.writes c.log).Sublist (finished ++ [u] ++ [])
    rw [List.append_nil]
    exact hwrites
  case mayWrite => exact h.mayWrite

/-- With nothing pending there is nothing to keep. -/
theorem Accounted.inv_of_pending_nil (h : Accounted finished c) (hpending : c.pending = []) :
    Inv c := by
  refine ⟨⟨finished, h⟩, ?_, fun _ => hpending⟩
  intro hrequests
  exact absurd (List.append_eq_nil_iff.mp hpending).2 hrequests

theorem Accounted.inv_rejectRequests (h : Accounted finished c)
    (hcurrent : c._currentRequest = none) {requests : List (UserRequest ρ)}
    (hrequests : c._requests = requests) : Inv (rejectRequests requests c) := by
  -- every request that is rejected moves to the ones that are done
  induction requests generalizing c finished with
  | nil => exact h.inv_of_pending_nil (pending_of_idle hcurrent hrequests)
  | cons u requests ih => exact ih (h.settleFirst rfl hcurrent hrequests) hcurrent rfl

/-- Clearing all requests, when the one under way is settled. -/
theorem Accounted.inv_clearAllRequests (h : Accounted finished c)
    (hsettled : ∀ u, c._currentRequest = some u → Settled c.log u) :
    Inv c._clearAllRequests := by
  cases hcurrent : c._currentRequest with
  | none =>
    have hclear : c._clearCurrentRequest = c := by rw [_clearCurrentRequest, hcurrent]
    rw [_clearAllRequests, hclear]
    exact h.inv_rejectRequests hcurrent rfl
  | some u =>
    have hclear := h.clearCurrentRequest hcurrent (hsettled u hcurrent)
    exact hclear.inv_rejectRequests (by rw [clearCurrentRequest_eq hcurrent]) rfl

/-! ## Flushing -/

variable {M : Messages ρ ω}

theorem flush_of_idle (h : c._currentRequest = none → c._requests = []) :
    c._flush M = (c, .ok ()) := by
  unfold _flush
  cases hcurrent : c._currentRequest with
  | some u => rfl
  | none =>
    rw [h hcurrent]

theorem flush_eq_self (h : c._currentRequest = none → c._requests = []) : (c._flush M).1 = c :=
  congrArg Prod.fst (flush_of_idle h)

/-- An offline handler rejects the next request, and flushes again later. -/
theorem flush_offline (hcurrent : c._currentRequest = none) {requests : List (UserRequest ρ)}
    (hrequests : c._requests = u :: requests) (hstate : c._state = .offline) :
    c._flush M =
      ({ ({ c with _requests := requests }.reject u
            { err := .offline, message := "no connection to modbus server",
              request := some u.request }).done u with flushes := c.flushes + 1 }, .ok ()) := by
  cases c
  cases hcurrent
  cases hrequests
  cases hstate
  rfl

/-- An online handler puts the next request under way, and writes it if it can be encoded. -/
theorem flush_online (hcurrent : c._currentRequest = none) {requests : List (UserRequest ρ)}
    (hrequests : c._requests = u :: requests) (hstate : c._state = .online) :
    c._flush M =
      let c := { c with _currentRequest := some u, _requests := requests }.start u
      match M.createPayload u.request with
      | .error e => (c, .error e)
      | .ok payload => (c.note (.written u payload), .ok ()) := by
  cases c
  cases hcurrent
  cases hrequests
  cases hstate
  rfl

/-- What a flush comes to: there is nothing to do, the next request is rejected for want of a
connection, or it is put under way and cannot be encoded, or is written. -/
inductive Flushed (M : Messages ρ ω) (c : MBClientRequestHandler ρ ω) :
    MBClientRequestHandler ρ ω × Except Thrown Unit → Prop
  | idle (h : c._currentRequest = none → c._requests = []) : Flushed M c (c, .ok ())
  | rejected {u : UserRequest ρ} {requests : List (UserRequest ρ)}
      (hcurrent : c._currentRequest = none) (hrequests : c._requests = u :: requests)
      (hstate : c._state = .offline) : Flushed M c ({ ({ c with _requests := requests }.reject u
        { err := .offline, message := "no connection to modbus server",
          request := some u.request }).done u with flushes := c.flushes + 1 }, .ok ())
  | failed {u : UserRequest ρ} {requests : List (UserRequest ρ)} {e : Thrown}
      (hcurrent : c._currentRequest = none) (hrequests : c._requests = u :: requests)
      (hstate : c._state = .online) (hpayload : M.createPayload u.request = .error e) :
      Flushed M c ({ c with _currentRequest := some u, _requests := requests }.start u,
        .error e)
  | written {u : UserRequest ρ} {requests : List (UserRequest ρ)} {payload : Buffer}
      (hcurrent : c._currentRequest = none) (hrequests : c._requests = u :: requests)
      (hstate : c._state = .online) (hpayload : M.createPayload u.request = .ok payload) :
      Flushed M c (({ c with _currentRequest := some u, _requests := requests }.start u).note
        (.written u payload), .ok ())

theorem flushed (M : Messages ρ ω) (c : MBClientRequestHandler ρ ω) :
    Flushed M c (c._flush M) := by
  by_cases hidle : c._currentRequest = none → c._requests = []
  · rw [flush_of_idle hidle]
    exact .idle hidle
  · obtain ⟨hcurrent, hne⟩ := Classical.not_imp.mp hidle
    obtain ⟨u, requests, hrequests⟩ := List.exists_cons_of_ne_nil hne
    cases hstate : c._state with
    | offline =>
      rw [flush_offline hcurrent hrequests hstate]
      exact .rejected hcurrent hrequests hstate
    | online =>
      rw [flush_online hcurrent hrequests hstate]
      cases hpayload : M.createPayload u.request with
      | error e => exact .failed hcurrent hrequests hstate hpayload
      | ok payload => exact .written hcurrent hrequests hstate hpayload

/-- The next request is put under way, with its timer. -/
theorem Accounted.startFirst (h : Accounted finished c) (hcurrent : c._currentRequest = none)
    {requests : List (UserRequest ρ)} (hrequests : c._requests = u :: requests) :
    Accounted finished
      ({ c with _currentRequest := some u, _requests := requests }.start u) := by
  constructor
  case registrations =>
    refine h.registrations.trans ?_
    rw [pending, hcurrent, hrequests]
    rfl
  case keys => exact h.keys
  case known => exact h.known
  case settled => exact h.settled
  case waiting =>
    intro v hv
    exact h.waiting v (by rw [hrequests]; exact List.mem_cons_of_mem _ hv)
  case timers =>
    show c.timers ++ [u] = [u]
    rw [h.timers, hcurrent]
    rfl
  case connection => exact h.connection
  case writes =>
    have hwrites := h.writes
    rw [hcurrent, Option.toList_none, List.append_nil] at hwrites
    exact hwrites.trans (List.sublist_append_left ..)
  case mayWrite => exact h.mayWrite

/-- The request under way is written: the writes before were those of requests that are done. -/
theorem Accounted.write (h : Accounted finished c) (hcurrent : c._currentRequest = some u)
    (honline : c._state = .online) (hwrites : (NodeModbus.writes c.log).Sublist finished)
    (hsettled : ¬ Settled c.log u) (payload : Buffer) :
    Accounted finished (c.note (.written u payload)) := by
  refine h.log (a := .written u payload) rfl rfl
    ((connection_concat ..).trans h.connection) ?_ ?_
  · rw [writes_concat, hcurrent]
    exact hwrites.append_right _
  · rintro v _ hv
    obtain ⟨rfl, -⟩ := Action.written.inj hv
    exact ⟨h.connection.trans honline, hsettled, fun v hv => h.settled v (hwrites.subset hv)⟩

/-- With a request under way and a connection nothing is left to show but what is accounted
for. -/
theorem Accounted.inv_of_online (h : Accounted finished c)
    (hcurrent : c._currentRequest = some u) (honline : c._state = .online) : Inv c := by
  refine ⟨⟨finished, h⟩, ?_, ?_⟩
  · intro _ hnone
    cases hcurrent.symm.trans hnone
  · intro hoffline
    cases honline.symm.trans hoffline

/-- Flushing, when no request is under way: an offline handler has at most one to reject. -/
theorem Accounted.inv_flush (h : Accounted finished c) (hcurrent : c._currentRequest = none)
    (hoffline : c._state = .offline → c._requests.length ≤ 1) : Inv (c._flush M).1 := by
  have hflush := flushed M c
  generalize c._flush M = r at hflush ⊢
  cases hflush with
  | idle hidle => exact h.inv_of_pending_nil (pending_of_idle hcurrent (hidle hcurrent))
  | @rejected u requests _ hrequests hstate =>
    -- the queue is empty when it has rejected the one request
    obtain rfl : requests = [] := by
      have hlen := hoffline hstate
      rw [hrequests, List.length_cons] at hlen
      exact List.eq_nil_of_length_eq_zero (by omega)
    have hreject := h.settleFirst (a := .rejected u
      { err := .offline, message := "no connection to modbus server",
        request := some u.request }) rfl hcurrent hrequests
    have htimers : c.timers.filter (fun v => v.key ≠ u.key) = c._currentRequest.toList := by
      rw [h.timers, hcurrent]
      rfl
    have hdone : Accounted (finished ++ [u])
        { ({ c with _requests := [] }.reject u
            { err := .offline, message := "no connection to modbus server",
              request := some u.request }).done u with flushes := c.flushes + 1 } :=
      { hreject with timers := htimers }
    exact hdone.inv_of_pending_nil (pending_of_idle hcurrent rfl)
  | failed _ hrequests hstate _ =>
    exact (h.startFirst hcurrent hrequests).inv_of_online rfl hstate
  | @written u requests payload _ hrequests hstate _ =>
    have hstart := h.startFirst hcurrent hrequests
    refine (hstart.write rfl hstate ?_ ?_ payload).inv_of_online rfl hstate
    · have hwrites := h.writes
      rw [hcurrent, Option.toList_none, List.append_nil] at hwrites
      exact hwrites
    · exact h.waiting u (by rw [hrequests]; exact List.mem_cons_self ..)

/-- An offline handler has no request under way. -/
theorem Inv.online_of_current (h : Inv c) (hcurrent : c._currentRequest = some u) :
    c._state = .online := by
  cases hstate : c._state with
  | online => rfl
  | offline =>
    have hpending := h.offline hstate
    rw [pending, hcurrent] at hpending
    cases hpending

/-- No request waits when none is under way. -/
theorem Inv.requests_eq_nil (h : Inv c) (hcurrent : c._currentRequest = none) :
    c._requests = [] := by
  by_contra hne
  exact h.occupied hne hcurrent

/-- Between the events flushing does nothing. -/
theorem Inv.flush (h : Inv c) : (c._flush M).1 = c :=
  flush_eq_self h.requests_eq_nil

/-! ## The events -/

theorem inv_new : Inv (new : MBClientRequestHandler ρ ω) :=
  ⟨⟨[], rfl, rfl, fun _ h => h, fun _ h => absurd h List.not_mem_nil,
    fun _ h => absurd h List.not_mem_nil, rfl, rfl, List.Sublist.refl _, each_nil _⟩, fun h =>
      absurd rfl h, fun _ => rfl⟩

/-- A change of the state of the connection. -/
theorem Accounted.state (h : Accounted finished c) (s : ConnectionState) :
    Accounted finished ({ c with _state := s }.note (.state s)) := by
  refine h.log (a := .state s) rfl rfl (connection_concat ..) ?_ fun v payload hv => nomatch hv
  rw [writes_concat]
  exact (List.append_nil _).symm ▸ h.writes

/-- A request that is registered goes to the end of the queue. -/
theorem Accounted.push (h : Accounted finished c) (request : ρ) :
    Accounted finished (c.push request) := by
  have hregistrations : NodeModbus.registrations
    (c.log ++ [.registered ⟨c.registered, request⟩]) =
      NodeModbus.registrations c.log ++ [⟨c.registered, request⟩] := registrations_concat ..
  have hsettles : ∀ v, Settled (c.log ++ [.registered ⟨c.registered, request⟩]) v ↔
      Settled c.log v := by
    intro v
    rw [settled_concat]
    exact or_iff_left fun h => nomatch h
  -- the keys so far are the numbers below that of the new request
  have hfresh : (⟨c.registered, request⟩ : UserRequest ρ) ∉ NodeModbus.registrations c.log := by
    intro hmem
    have hkey := List.mem_map_of_mem (f := UserRequest.key) hmem
    rw [h.keys, List.mem_range] at hkey
    exact Nat.lt_irrefl _ hkey
  constructor
  case registrations =>
    show NodeModbus.registrations (c.log ++ [.registered ⟨c.registered, request⟩]) =
      finished ++ (c._currentRequest.toList ++ (c._requests ++ [⟨c.registered, request⟩]))
    rw [hregistrations, h.registrations, pending, List.append_assoc, List.append_assoc]
  case keys =>
    show (NodeModbus.registrations (c.log ++ [.registered ⟨c.registered, request⟩])).map
      UserRequest.key = List.range (c.registered + 1)
    rw [hregistrations, List.map_append, h.keys, List.range_succ]
    rfl
  case known =>
    intro v hv
    show v ∈ NodeModbus.registrations (c.log ++ [.registered ⟨c.registered, request⟩])
    rw [hregistrations]
    exact List.mem_append_left _ (h.known v ((hsettles v).mp hv))
  case settled => exact fun v hv => (hsettles v).mpr (h.settled v hv)
  case waiting =>
    intro v hv hs
    have hs := (hsettles v).mp hs
    rcases List.mem_append.mp hv with hv | hv
    · exact h.waiting v hv hs
    · rw [List.mem_singleton.mp hv] at hs
      exact hfresh (h.known _ hs)
  case timers => exact h.timers
  case connection => exact (connection_concat ..).trans h.connection
  case writes =>
    show (NodeModbus.writes (c.log ++ [.registered ⟨c.registered, request⟩])).Sublist _
    rw [writes_concat]
    exact (List.append_nil _).symm ▸ h.writes
  case mayWrite => exact each_concat.mpr ⟨h.mayWrite, fun v payload hv => nomatch hv⟩

theorem Inv.registerRequest (h : Inv c) (request : ρ) :
    Inv (c.registerRequest M request).1 := by
  obtain ⟨finished, haccounted⟩ := h.accounted
  have hpush := haccounted.push request
  rw [MBClientRequestHandler.registerRequest]
  cases hcurrent : c._currentRequest with
  | none =>
    -- the new request is the only one
    have hrequests := h.requests_eq_nil hcurrent
    refine hpush.inv_flush hcurrent ?_
    intro _
    show (c._requests ++ [_]).length ≤ 1
    rw [hrequests]
    exact Nat.le_refl _
  | some u =>
    rw [flush_eq_self (c := c.push request) fun hnone =>
      absurd (hcurrent.symm.trans hnone) (fun h => nomatch h)]
    exact hpush.inv_of_online hcurrent (h.online_of_current hcurrent)

/-- What settles the request under way and flushes. -/
theorem Inv.inv_settle_flush (h : Inv c) {a : Action ρ ω} (ha : a.settles = some u)
    (hcurrent : c._currentRequest = some u) :
    Inv ((c.note a)._clearCurrentRequest._flush M).1 := by
  obtain ⟨finished, haccounted⟩ := h.accounted
  have hsettle := haccounted.settleCurrent ha hcurrent
  have hclear := hsettle.clearCurrentRequest hcurrent ((settled_concat ..).mpr (.inr ha))
  rw [clearCurrentRequest_eq (c := c.note a) hcurrent] at hclear ⊢
  refine hclear.inv_flush rfl ?_
  intro hoffline
  cases (h.online_of_current hcurrent).symm.trans hoffline

theorem Inv.handled (h : Inv c) {c' : MBClientRequestHandler ρ ω} (hc : Handled M c c') :
    Inv c' := by
  obtain ⟨finished, haccounted⟩ := h.accounted
  cases hc with
  | ignored => exact h
  | @cleared u err hcurrent =>
    refine (haccounted.settleCurrent
      (a := .rejected u err) rfl hcurrent).inv_clearAllRequests ?_
    intro v hv
    exact (settled_concat ..).mpr (.inr (hcurrent.symm.trans hv))
  | rejected hcurrent => exact h.inv_settle_flush rfl hcurrent
  | resolved hcurrent => exact h.inv_settle_flush rfl hcurrent

/-- What settles the request under way, and no more. -/
theorem Inv.settleCurrent (h : Inv c) {a : Action ρ ω} (ha : a.settles = some u)
    (hcurrent : c._currentRequest = some u) : Inv (c.note a) := by
  obtain ⟨finished, haccounted⟩ := h.accounted
  exact ⟨⟨finished, haccounted.settleCurrent ha hcurrent⟩, h.occupied, h.offline⟩

/-- The timer that expires is that of the request under way, which is what the callback
clears. -/
theorem Inv.onTimeout (h : Inv c) (hu : u ∈ c.timers) : Inv (c.onTimeout M u).1 := by
  obtain ⟨finished, haccounted⟩ := h.accounted
  have hcurrent : c._currentRequest = some u := by
    rw [haccounted.timers] at hu
    exact Option.mem_toList.mp hu
  -- the timer is cleared either way
  have hclear : ∀ err, ((c.done u).reject u err)._clearCurrentRequest =
      (c.reject u err)._clearCurrentRequest := by
    intro err
    rw [clearCurrentRequest_eq (c := c.reject u err) hcurrent,
      clearCurrentRequest_eq (c := (c.done u).reject u err) hcurrent]
    simp [done, reject, note]
  show Inv (((c.done u).reject u _)._clearCurrentRequest._flush M).1
  rw [hclear]
  exact h.inv_settle_flush rfl hcurrent

theorem Inv.manuallyRejectCurrentRequest (h : Inv c) :
    Inv (c.manuallyRejectCurrentRequest M).1 := by
  unfold MBClientRequestHandler.manuallyRejectCurrentRequest
  cases hcurrent : c._currentRequest with
  | none => exact h
  | some u =>
    have hreject : ∀ err, Inv (c.reject u err) :=
      fun err => h.settleCurrent (a := .rejected u err) rfl hcurrent
    exact (hreject _).flush.symm ▸ hreject _

theorem Inv.manuallyRejectRequests (h : Inv c) (numRequests : Nat) :
    Inv (c.manuallyRejectRequests M numRequests).1 :=
  manuallyRejectRequests_induction (R := fun c c' => Inv c → Inv c') (fun _ h => h)
    (fun hfirst hrest h => hrest (hfirst h)) (fun _ h => h.manuallyRejectCurrentRequest)
    numRequests c h

theorem Inv.customErrorRequest (h : Inv c) (err : UserRequestError ρ ω) :
    Inv (c.customErrorRequest err) := by
  unfold MBClientRequestHandler.customErrorRequest
  cases hcurrent : c._currentRequest with
  | none => exact h
  | some u => exact h.settleCurrent (a := .rejected u err) rfl hcurrent

theorem Inv.onConnect (h : Inv c) : Inv c._onConnect := by
  obtain ⟨finished, haccounted⟩ := h.accounted
  exact ⟨⟨finished, haccounted.state .online⟩, h.occupied, fun hoffline => nomatch hoffline⟩

theorem Inv.onClose (h : Inv c) : Inv c._onClose := by
  obtain ⟨finished, haccounted⟩ := h.accounted
  have hstate := haccounted.state .offline
  unfold _onClose
  dsimp only
  split
  · rename_i hcurrent
    exact hstate.inv_clearAllRequests fun u hu =>
      absurd (hcurrent.symm.trans hu) (fun h => nomatch h)
  · rename_i u hcurrent
    refine (hstate.settleCurrent (a := .rejected u _) rfl hcurrent).inv_clearAllRequests ?_
    intro v hv
    exact (settled_concat ..).mpr (.inr (hcurrent.symm.trans hv))

end MBClientRequestHandler

open MBClientRequestHandler

theorem inv_register (w : Transport) (unitId : Int) {c : w.Client} (h : Inv c)
    (requestBody : RequestBody) : Inv (w.register unitId c requestBody).1 := by
  cases w with
  | tcp =>
    obtain ⟨⟨finished, haccounted⟩, hoccupied, hoffline⟩ := h
    have hid : Inv { c with _requestId := (c._requestId + 1) % 0xFFFF } :=
      ⟨⟨finished, { haccounted with }⟩, hoccupied, hoffline⟩
    exact hid.registerRequest _
  | rtu crc16modbus => exact h.registerRequest _

/-- Every event keeps the invariant. -/
theorem inv_apply {w : Transport} (unitId : Int) {c : w.Client} (h : Inv c) (e : Event w)
    (hallowed : e.Allowed c) : Inv (e.apply unitId c).1 := by
  cases e with
  | register requestBody => exact inv_register w unitId h requestBody
  | connect => exact h.onConnect
  | close =>
    cases w with
    | tcp => exact h.onClose
    | rtu crc16modbus => exact h
  | handle response => exact h.handled (w.handled_handle c response)
  | timeout u => exact h.onTimeout hallowed
  | deferredFlush =>
    -- a deferred call has nothing to do when it comes
    obtain ⟨⟨finished, haccounted⟩, hoccupied, hoffline⟩ := h
    have hdue : Inv { c with flushes := c.flushes - 1 } :=
      ⟨⟨finished, { haccounted with }⟩, hoccupied, hoffline⟩
    exact hdue.flush.symm ▸ hdue
  | manuallyRejectCurrentRequest => exact h.manuallyRejectCurrentRequest
  | manuallyRejectRequests numRequests => exact h.manuallyRejectRequests numRequests
  | manuallylRejectAllRequests => exact h.manuallyRejectRequests c.requestCount
  | customErrorRequest err => exact h.customErrorRequest err

/-- The invariant holds of every state a handler comes to. -/
theorem inv_reachable {w : Transport} {unitId : Int} {c : w.Client}
    (h : Reachable (clientSystem w unitId) c) : Inv c := by
  have hinit : ∀ {c : w.Client}, w.Starts c → Inv c := by
    intro c hstarts
    cases hstarts with
    | tcp => exact inv_new
    | rtu crc16modbus => exact inv_new
    | rtuOpen crc16modbus => exact inv_new.onConnect
  exact h.invariant (P := Inv) hinit fun e hc hallowed => inv_apply unitId hc e hallowed

/-! ## No request is lost -/

/-- What is promised of the requests of a handler: one whose promise is not settled occurs
once in the request under way and the queue; some request is under way when others are
waiting; and the timers are that of the request under way, so a timer that expires is its
own request's. -/
structure RequestsAccounted {ρ ω : Type} (c : MBClientRequestHandler ρ ω) : Prop where
  once : ∀ u ∈ registrations c.log, ¬ Settled c.log u →
    u ∈ c.pending ∧ (c.pending.map UserRequest.key).count u.key = 1
  occupied : c._requests ≠ [] → ∃ u, c._currentRequest = some u
  timers : c.timers = c._currentRequest.toList
  expires : ∀ u ∈ c.timers, c._currentRequest = some u

/-- No request is lost or left hanging, in any state a handler comes to. -/
theorem requests_accounted (w : Transport) (unitId : Int) {c : w.Client}
    (h : Reachable (clientSystem w unitId) c) : RequestsAccounted c := by
  have hinv := inv_reachable h
  obtain ⟨finished, haccounted⟩ := hinv.accounted
  refine ⟨?_, ?_, haccounted.timers, ?_⟩
  · intro u hu hsettled
    rw [haccounted.registrations] at hu
    have hmem : u ∈ c.pending :=
      (List.mem_append.mp hu).resolve_left fun hfinished =>
        hsettled (haccounted.settled u hfinished)
    have hnodup := haccounted.keys_nodup
    rw [List.map_append] at hnodup
    exact ⟨hmem, List.count_eq_one_of_mem (List.nodup_append.mp hnodup).2.1
      (List.mem_map_of_mem hmem)⟩
  · intro hrequests
    exact Option.ne_none_iff_exists'.mp (hinv.occupied hrequests)
  · intro u hu
    rw [haccounted.timers] at hu
    exact Option.mem_toList.mp hu

/-- The request to read the coil at `start`, with its transaction id. -/
def coilRequest (id start : Int) (h : start ≤ 0xFFFF) : ModbusTCPRequest :=
  { id, protocol := 0, length := 6, unitId := 1,
    body := .readCoils ⟨start, 1, h, one_le_count⟩ }

/-- Three reads are called online. The timer of the first one expires, the second one is
answered, and the socket is closed while the third one is under way. -/
def threeReads : List (Event .tcp) :=
  [.connect, .register (.readCoils ⟨0, 1, zero_le_address, one_le_count⟩),
    .register (.readCoils ⟨8, 1, eight_le_address, one_le_count⟩),
    .register (.readCoils ⟨16, 1, by decide, one_le_count⟩),
    .timeout ⟨0, coilRequest 1 0 zero_le_address⟩,
    .handle (some ⟨2, 0, 4, 1, .readCoils ⟨.array [true], 1, [true], [1]⟩⟩),
    .close]

theorem reachable_threeReads :
    Reachable (clientSystem .tcp 1) ((clientSystem .tcp 1).after .new threeReads) := by
  have h₀ : Reachable (clientSystem .tcp 1) .new := .init .tcp
  have h₁ := h₀.step Event.connect trivial
  have h₂ := h₁.step (Event.register (.readCoils ⟨0, 1, zero_le_address, one_le_count⟩)) trivial
  have h₃ :=
    h₂.step (Event.register (.readCoils ⟨8, 1, eight_le_address, one_le_count⟩)) trivial
  have h₄ := h₃.step (Event.register (.readCoils ⟨16, 1, by decide, one_le_count⟩)) trivial
  have h₅ := h₄.step (Event.timeout (w := .tcp) ⟨0, coilRequest 1 0 zero_le_address⟩)
    (List.mem_cons_self ..)
  have h₆ := h₅.step
    (Event.handle (w := .tcp) (some ⟨2, 0, 4, 1, .readCoils ⟨.array [true], 1, [true], [1]⟩⟩))
    trivial
  exact h₆.step Event.close trivial

theorem requests_accounted_threeReads :
    RequestsAccounted ((clientSystem .tcp 1).after .new threeReads) :=
  requests_accounted .tcp 1 reachable_threeReads

/-! ## What is written -/

/-- What is promised of the writes of a handler: they are in the order of the registrations,
none is repeated, and each of them may be done when it is. -/
structure WireDiscipline {ρ ω : Type} (log : List (Action ρ ω)) : Prop where
  ordered : (writes log).Sublist (registrations log)
  nodup : (writes log).Nodup
  mayWrite : Each MayWrite log

/-- The requests of a client are written in the order of their registration, at most one of them
unanswered, in every run. -/
theorem wireDiscipline (w : Transport) (unitId : Int) {c : w.Client}
    (h : Reachable (clientSystem w unitId) c) : WireDiscipline c.log := by
  obtain ⟨finished, haccounted⟩ := (inv_reachable h).accounted
  -- what is written is done or under way, and both stand in front of the queue
  have hordered : (writes c.log).Sublist (finished ++ c.pending) := by
    refine haccounted.writes.trans ?_
    rw [pending, ← List.append_assoc]
    exact List.sublist_append_left ..
  refine ⟨?_, hordered.nodup haccounted.nodup, haccounted.mayWrite⟩
  rw [haccounted.registrations]
  exact hordered

theorem wireDiscipline_threeReads :
    WireDiscipline ((clientSystem .tcp 1).after .new threeReads).log :=
  wireDiscipline .tcp 1 reachable_threeReads

end NodeModbus

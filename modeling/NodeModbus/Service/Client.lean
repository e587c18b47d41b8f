import Mathlib.Data.List.Perm.Subperm
import NodeModbus.Client.Calls
import NodeModbus.Client.ModbusClient
import NodeModbus.Client.Network

/-!
# What a client does with its pending requests

Between the registrations a client only works its pending requests off: none is added,
and what it writes was pending before. A response resolves at most the promise of the
request under way, and only with its transaction id.

- `Advances`: this, of two states of a request handler.
- `Encoded`: what was written are the bytes of the request.
- `updates_event`: what the events of a client do.
- `handleAll`, `exec_responses`: what the loop of `_onData` does with a list of responses.
-/

namespace NodeModbus

open Buffer

/-- What a handler writes to its socket. -/
def Action.payload {ρ ω : Type} : Action ρ ω → Option Buffer
  | written _ payload => some payload
  | _ => none

namespace MBClientRequestHandler

variable {ρ ω : Type} {M : Messages ρ ω} {c c' c'' : MBClientRequestHandler ρ ω}

/-! ## Working off -/

/-- Nothing is pending that was not, no request is registered, and only what was pending is
written. -/
structure Advances (c c' : MBClientRequestHandler ρ ω) : Prop where
  pending : c'.pending ⊆ c.pending
  log : ∃ added, c'.log = c.log ++ added ∧ registrations added = [] ∧ writes added ⊆ c.pending

theorem writes_append (log more : List (Action ρ ω)) :
    writes (log ++ more) = writes log ++ writes more :=
  List.filterMap_append

theorem registrations_append (log more : List (Action ρ ω)) :
    registrations (log ++ more) = registrations log ++ registrations more :=
  List.filterMap_append

theorem Advances.trans (h : Advances c c') (h' : Advances c' c'') : Advances c c'' := by
  obtain ⟨hpending, added, hlog, hregistrations, hwrites⟩ := h
  obtain ⟨hpending', added', hlog', hregistrations', hwrites'⟩ := h'
  refine ⟨List.Subset.trans hpending' hpending,
    added ++ added', by rw [hlog', hlog, List.append_assoc], ?_, ?_⟩
  · rw [registrations_append, hregistrations, hregistrations', List.append_nil]
  · rw [writes_append]
    exact List.append_subset.mpr ⟨hwrites, List.Subset.trans hwrites' hpending⟩

/-- The log does not change. -/
theorem advances_of_log (hpending : c'.pending ⊆ c.pending) (hlog : c'.log = c.log) :
    Advances c c' :=
  ⟨hpending, [], by rw [hlog, List.append_nil], rfl, List.nil_subset _⟩

theorem Advances.refl (c : MBClientRequestHandler ρ ω) : Advances c c :=
  advances_of_log (List.Subset.refl _) rfl

/-- One action is added to the log. -/
theorem advances_concat {a : Action ρ ω} (hpending : c'.pending ⊆ c.pending)
    (hlog : c'.log = c.log ++ [a]) (hregisters : a.registers = none)
    (hwrites : ∀ u ∈ a.writes, u ∈ c.pending) : Advances c c' := by
  refine ⟨hpending, [a], hlog, ?_, ?_⟩
  · rw [registrations, List.filterMap_cons_none hregisters, List.filterMap_nil]
  · intro u hu
    obtain ⟨b, hb, hbu⟩ := List.mem_filterMap.mp hu
    rw [List.mem_singleton.mp hb] at hbu
    exact hwrites u hbu

theorem advances_flush (M : Messages ρ ω) (c : MBClientRequestHandler ρ ω) :
    Advances c (c._flush M).1 := by
  have hflush := flushed M c
  generalize c._flush M = r at hflush ⊢
  cases hflush with
  | idle _ => exact .refl c
  | @rejected u requests hcurrent hrequests _ =>
    refine advances_concat (a := .rejected u _) ?_ rfl rfl fun v hv => nomatch hv
    rw [pending_of_idle hcurrent hrequests]
    show c._currentRequest.toList ++ requests ⊆ u :: requests
    rw [hcurrent]
    exact List.subset_cons_self ..
  | failed hcurrent hrequests _ _ =>
    refine advances_of_log ?_ rfl
    rw [pending_of_idle hcurrent hrequests]
    exact List.Subset.refl _
  | @written u requests payload hcurrent hrequests _ _ =>
    have hpending := pending_of_idle hcurrent hrequests
    refine advances_concat (a := .written u payload) ?_ rfl rfl ?_
    · rw [hpending]
      exact List.Subset.refl _
    · rintro v hv
      obtain rfl := Option.some.inj hv
      rw [hpending]
      exact List.mem_cons_self ..

theorem pending_clearCurrentRequest_subset (c : MBClientRequestHandler ρ ω) :
    c._clearCurrentRequest.pending ⊆ c.pending := by
  cases hcurrent : c._currentRequest with
  | none =>
    rw [_clearCurrentRequest, hcurrent]
    exact List.Subset.refl _
  | some u =>
    rw [clearCurrentRequest_eq hcurrent]
    exact List.subset_append_right ..

theorem Update.advances (h : Update M c c') : Advances c c' := by
  cases h with
  | @note a hregisters hwrites =>
    refine advances_concat (a := a) (List.Subset.refl _) rfl hregisters ?_
    rw [hwrites]
    exact fun u hu => nomatch hu
  | @shift u requests hrequests =>
    refine advances_of_log ?_ rfl
    rw [MBClientRequestHandler.pending, MBClientRequestHandler.pending, hrequests]
    exact ((List.sublist_cons_self ..).append_left _).subset
  | done u => exact advances_of_log (List.Subset.refl _) rfl
  | flushes n => exact advances_of_log (List.Subset.refl _) rfl
  | flush => exact advances_flush M c
  | clearCurrentRequest =>
    refine advances_of_log (pending_clearCurrentRequest_subset c) ?_
    unfold _clearCurrentRequest
    split <;> rfl

theorem Updates.advances (h : Updates M c c') : Advances c c' :=
  h.relates Advances.refl Advances.trans Update.advances

/-! ## What was written -/

/-- Every request that was written can be encoded, and was written with its bytes. -/
def Encoded (M : Messages ρ ω) (c : MBClientRequestHandler ρ ω) : Prop :=
  ∀ u payload, .written u payload ∈ c.log → M.createPayload u.request = .ok payload

/-- An action that writes nothing. -/
theorem Encoded.concat {a : Action ρ ω} (h : Encoded M c) (hlog : c'.log = c.log ++ [a])
    (ha : a.writes = none) : Encoded M c' := by
  intro u payload hmem
  rw [hlog] at hmem
  rcases List.mem_append.mp hmem with hmem | hmem
  · exact h u payload hmem
  · rw [← List.mem_singleton.mp hmem] at ha
    cases ha

theorem Update.encoded (hupdate : Update M c c') (h : Encoded M c) : Encoded M c' := by
  cases hupdate with
  | note _ hwrites => exact h.concat rfl hwrites
  | shift _ => exact h
  | done u => exact h
  | flushes n => exact h
  | clearCurrentRequest =>
    unfold _clearCurrentRequest
    split
    · exact h
    · exact h
  | flush =>
    have hflush := flushed M c
    generalize c._flush M = r at hflush ⊢
    cases hflush with
    | idle _ => exact h
    | rejected _ _ _ => exact Encoded.concat (a := .rejected _ _) h rfl rfl
    | failed _ _ _ _ => exact h
    | @written u requests payload _ _ _ hpayload =>
      intro v payload' hmem
      rcases List.mem_append.mp hmem with hmem | hmem
      · exact h v payload' hmem
      · obtain ⟨rfl, rfl⟩ := Action.written.inj (List.mem_singleton.mp hmem)
        exact hpayload

theorem Updates.encoded (hupdates : Updates M c c') (h : Encoded M c) : Encoded M c' :=
  hupdates.invariant Update.encoded h

/-- What is written are the payloads of the requests `φ`, when it was written of such. -/
theorem exists_written {φ : Type} {request : φ → UserRequest ρ} {payload : φ → Buffer}
    (hpayload : ∀ x, M.createPayload (request x).request = .ok (payload x)) {P : φ → Prop}
    {added : List (Action ρ ω)}
    (hencoded : ∀ u b, .written u b ∈ added → M.createPayload u.request = .ok b)
    (hproper : ∀ u ∈ writes added, ∃ x, request x = u ∧ P x) :
    ∃ xs : List φ, added.filterMap Action.payload = xs.map payload ∧
    xs.map request = writes added ∧
      ∀ x ∈ xs, P x := by
  induction added with
  | nil => exact ⟨[], rfl, rfl, List.forall_mem_nil _⟩
  | cons a added ih =>
    obtain ⟨xs, hpayloads, hrequests, hP⟩ := ih
      (fun u b hmem => hencoded u b (List.mem_cons_of_mem _ hmem))
      fun u hu => by
        obtain ⟨b, hb, hbu⟩ := List.mem_filterMap.mp hu
        exact hproper u (List.mem_filterMap.mpr ⟨b, List.mem_cons_of_mem _ hb, hbu⟩)
    cases a with
    | written u b =>
      obtain ⟨x, rfl, hx⟩ := hproper u (List.mem_filterMap.mpr ⟨_, List.mem_cons_self .., rfl⟩)
      have hb : payload x = b :=
        Except.ok.inj ((hpayload x).symm.trans (hencoded _ _ (List.mem_cons_self ..)))
      refine ⟨x :: xs, ?_, ?_, ?_⟩
      · rw [List.map_cons, hb, ← hpayloads]
        rfl
      · rw [List.map_cons, hrequests]
        rfl
      · exact List.forall_mem_cons.mpr ⟨hx, hP⟩
    | _ => exact ⟨xs, hpayloads, hrequests, hP⟩

/-- A flush does not throw when what is pending can be encoded. -/
theorem flush_returns
    (h : ∀ u ∈ c.pending, ∃ payload, M.createPayload u.request = .ok payload) :
    (c._flush M).2 = .ok () := by
  have hflush := flushed M c
  generalize c._flush M = r at hflush ⊢
  cases hflush with
  | idle _ => rfl
  | rejected _ _ _ => rfl
  | written _ _ _ _ => rfl
  | @failed u requests e hcurrent hrequests _ hfails =>
    have hmem : u ∈ c.pending := by
      rw [pending_of_idle hcurrent hrequests]
      exact List.mem_cons_self ..
    obtain ⟨payload, hpayload⟩ := h u hmem
    cases hfails.symm.trans hpayload

end MBClientRequestHandler

open MBClientRequestHandler

/-! ## The request under way -/

/-- A request that has come under way was written. -/
theorem current_or_written {ρ ω : Type} {c c' : MBClientRequestHandler ρ ω}
    {finished : List (UserRequest ρ)} (h : Accounted finished c) {added : List (Action ρ ω)}
    (hlog : c'.log = c.log ++ added) (hpending : c'.pending ⊆ c.pending) {u : UserRequest ρ}
    (hcurrent : c'._currentRequest = some u) (hwritten : u ∈ writes c'.log) :
    c._currentRequest = some u ∨ u ∈ writes added := by
  rw [hlog, writes_append] at hwritten
  rcases List.mem_append.mp hwritten with hwritten | hwritten
  · -- what was written before and is pending is the request under way
    have hmem : u ∈ c.pending := by
      refine hpending ?_
      rw [MBClientRequestHandler.pending, hcurrent]
      exact List.mem_cons_self ..
    rcases List.mem_append.mp (h.writes.subset hwritten) with hfinished | hcurrent
    · exact absurd rfl ((List.nodup_append.mp h.nodup).2.2 u hfinished u hmem)
    · exact .inl (Option.mem_toList.mp hcurrent)
  · exact .inr hwritten

/-- What is under way was written, when what was started was. -/
theorem written_of_current {ρ ω : Type} {M : Messages ρ ω} {c : MBClientRequestHandler ρ ω}
    (hinv : Inv c) (h : Writable M c) {u : UserRequest ρ}
    (hcurrent : c._currentRequest = some u) : u ∈ writes c.log := by
  obtain ⟨finished, hfinished⟩ := hinv.accounted
  refine h.written u ?_
  rw [hfinished.timers, hcurrent]
  exact List.mem_cons_self ..

/-! ## Events -/

/-- What an event does that neither connects, nor registers a request, nor brings a response. -/
theorem updates_event {c : ModbusTCPClientRequestHandler} (unitId : Int) {e : Event .tcp}
    (he : e.Internal ∨ e = .close) :
    ∃ c', Advances c c' ∧ (Encoded tcpMessages c → Encoded tcpMessages c') ∧
      Updates tcpMessages c' (Event.apply (w := .tcp) unitId c e).1 := by
  rcases he with he | rfl
  · exact ⟨c, .refl c, id, updates_apply (w := .tcp) unitId c he⟩
  · refine ⟨{ c with _state := .offline }.note (.state .offline), ?_, ?_,
      updates_onClose tcpMessages c⟩
    · exact advances_concat (a := .state .offline) (List.Subset.refl _) rfl rfl fun u hu =>
        nomatch hu
    · exact fun h => Encoded.concat (a := .state .offline) h rfl rfl

/-- Such an event resolves no promise. -/
theorem extends_internal {w : Transport} (unitId : Int) (c : w.Client) {e : Event w}
    (he : e.Internal) (hhandle : ∀ response, e ≠ .handle response) :
    Extends Silent c (e.apply unitId c).1 := by
  cases e with
  | register requestBody => exact he.elim
  | connect => exact he.elim
  | close => exact he.elim
  | handle response => exact absurd rfl (hhandle response)
  | timeout u => exact extends_onTimeout w.messages c u
  | deferredFlush =>
    have hdue : Extends Silent c { c with flushes := c.flushes - 1 } :=
      ⟨⟨[], (List.append_nil _).symm, List.forall_mem_nil _⟩, rfl, rfl⟩
    exact hdue.trans (extends_flush w.messages _)
  | manuallyRejectCurrentRequest => exact extends_manuallyRejectCurrentRequest w.messages c
  | manuallyRejectRequests numRequests =>
    exact extends_manuallyRejectRequests w.messages numRequests c
  | manuallylRejectAllRequests =>
    exact extends_manuallyRejectRequests w.messages c.requestCount c
  | customErrorRequest err => exact extends_customErrorRequest c err

/-! ## Calls -/

/-- A call whose arguments are refused does nothing. -/
theorem Call.apply_error {w : Transport} (unitId : Int) {unsafeBytes : Nat → UInt8}
    (c : w.Client) {k : Call} {e : Thrown} (h : k.body unsafeBytes = .error e) :
    (k.apply w unitId unsafeBytes c).1 = c := by
  rw [Call.apply, h]

/-- Another one puts a request behind those that are pending, and flushes. -/
theorem Call.apply_ok {w : Transport} {unitId : Int} {unsafeBytes : Nat → UInt8} {c : w.Client}
    {k : Call} {requestBody : RequestBody} (h : k.body unsafeBytes = .ok requestBody) :
    (k.apply w unitId unsafeBytes c).1 =
      (((w.advance c).push (w.request unitId c requestBody))._flush w.messages).1 := by
  rw [Call.apply, h]
  dsimp only
  rw [w.register_eq, registerRequest]
  split <;> simp_all only

/-! ## Responses -/

/-- A response of the function code of the request under way resolves its promise. -/
theorem MBClientRequestHandler.handle_of_fc_eq {ρ ω : Type} {M : Messages ρ ω}
    {c : MBClientRequestHandler ρ ω} {u : UserRequest ρ} {response : ω}
    (hcurrent : c._currentRequest = some u)
    (hexception : (M.responseBody response).isException = false)
    (hfc : (M.responseBody response).fc = (M.body u.request).fc) :
    c.handle M (some response) = (c.resolve u response)._clearCurrentRequest._flush M := by
  unfold MBClientRequestHandler.handle
  rw [hcurrent]
  dsimp only
  split
  · rename_i hne
    exact absurd hfc hne.2
  · split
    · rename_i b hbody
      rw [hbody] at hexception
      cases hexception
    · rfl

namespace MBClientRequestHandler

variable {ρ ω : Type} {M : Messages ρ ω} {c : MBClientRequestHandler ρ ω} {response : ω}

/-- A response that nobody waits for does nothing. -/
theorem handle_of_idle (M : Messages ρ ω) (hcurrent : c._currentRequest = none) (response : ω) :
    c.handle M (some response) = (c, .ok ()) := by
  unfold handle
  rw [hcurrent]

/-- A response that is no exception is handled without complaint, when what is pending can
be encoded. -/
theorem handle_returns
    (hencodes : ∀ u ∈ c.pending, ∃ payload, M.createPayload u.request = .ok payload)
    (hexception : (M.responseBody response).isException = false) :
    (c.handle M (some response)).2 = .ok () := by
  cases hcurrent : c._currentRequest with
  | none => rw [handle_of_idle M hcurrent]
  | some u =>
    by_cases hfc : (M.responseBody response).fc = (M.body u.request).fc
    · rw [handle_of_fc_eq hcurrent hexception hfc]
      exact flush_returns fun v hv =>
        hencodes v (pending_clearCurrentRequest_subset (c.resolve u response) hv)
    · rw [handle_of_fc_ne hcurrent hexception hfc]

/-- When the request under way is cleared, the queue is left. -/
theorem pending_settled {u : UserRequest ρ} (hcurrent : c._currentRequest = some u)
    (a : Action ρ ω) : (c.note a)._clearCurrentRequest.pending = c._requests := by
  rw [clearCurrentRequest_eq (c := c.note a) hcurrent]
  rfl

/-- When all are cleared, no more is. -/
theorem pending_cleared (M : Messages ρ ω) {u : UserRequest ρ}
    (hcurrent : c._currentRequest = some u) (a : Action ρ ω) :
    (c.note a)._clearAllRequests.pending ⊆ c._requests := by
  rw [← pending_settled hcurrent a]
  exact (Updates.advances (updates_rejectRequests M rfl)).pending

/-- A response leaves only the queue, of what is pending. -/
theorem pending_handle {u : UserRequest ρ} (hcurrent : c._currentRequest = some u)
    (hexception : (M.responseBody response).isException = false) :
    (c.handle M (some response)).1.pending ⊆ c._requests := by
  by_cases hfc : (M.responseBody response).fc = (M.body u.request).fc
  · rw [handle_of_fc_eq hcurrent hexception hfc, ← pending_settled hcurrent
      (.resolved u response)]
    exact (advances_flush M _).pending
  · rw [handle_of_fc_ne hcurrent hexception hfc]
    exact pending_cleared M hcurrent _

/-- When only the queue is left of what is pending, it is fewer requests. -/
theorem length_pending_lt (hinv : Inv c') {u : UserRequest ρ}
    (hcurrent : c._currentRequest = some u) (hleft : c'.pending ⊆ c._requests) :
    c'.pending.length < c.pending.length := by
  obtain ⟨finished, hfinished⟩ := hinv.accounted
  have hnodup : c'.pending.Nodup := (List.nodup_append.mp hfinished.nodup).2.1
  have hle := (hnodup.subperm hleft).length_le
  rw [pending.eq_1 c, hcurrent]
  exact Nat.lt_succ_of_le hle

/-- A response resolves the promise of the request under way, or none. -/
theorem log_handle (M : Messages ρ ω) (c : MBClientRequestHandler ρ ω) {response : ω}
    (hexception : (M.responseBody response).isException = false) :
    ∃ resolved added, (c.handle M (some response)).1.log = c.log ++ (resolved ++ added) ∧
      (∀ a ∈ added, Silent a) ∧ (resolved = [] ∨ ∃ u, c._currentRequest = some u ∧
        (M.responseBody response).fc = (M.body u.request).fc ∧
        resolved = [.resolved u response]) := by
  cases hcurrent : c._currentRequest with
  | none =>
    rw [handle_of_idle M hcurrent]
    exact ⟨[], [], (List.append_nil _).symm, List.forall_mem_nil _, .inl rfl⟩
  | some u =>
    by_cases hfc : (M.responseBody response).fc = (M.body u.request).fc
    · rw [handle_of_fc_eq hcurrent hexception hfc]
      obtain ⟨⟨added, hlog, hsilent⟩, -, -⟩ :=
        (extends_clearCurrentRequest (c.resolve u response)).trans
        (extends_flush M _)
      refine ⟨[.resolved u response], added, ?_, hsilent, .inr ⟨u, rfl, hfc, rfl⟩⟩
      rw [hlog, ← List.append_assoc]
      rfl
    · rw [handle_of_fc_ne hcurrent hexception hfc]
      obtain ⟨⟨added, hlog, hsilent⟩, -, -⟩ :=
        (extends_reject c u _).trans (extends_clearAllRequests _)
      exact ⟨[], added, hlog, hsilent, .inl rfl⟩

end MBClientRequestHandler

theorem ModbusTCPClientRequestHandler.handle_returns {c : ModbusTCPClientRequestHandler}
    {response : ModbusTCPResponse}
    (hencodes : ∀ u ∈ c.pending, ∃ payload, tcpMessages.createPayload u.request = .ok payload)
    (hresponse : response.body.isException = false) :
    (ModbusTCPClientRequestHandler.handle c (some response)).2 = .ok () := by
  unfold ModbusTCPClientRequestHandler.handle
  split
  · rfl
  · rfl
  · rename_i u hsome hcurrent
    obtain rfl := Option.some.inj hsome
    dsimp only
    split
    · rfl
    · split
      · rfl
      · exact MBClientRequestHandler.handle_returns hencodes hresponse

theorem ModbusTCPClientRequestHandler.pending_handle {c : ModbusTCPClientRequestHandler}
    {u : UserRequest ModbusTCPRequest} {response : ModbusTCPResponse}
    (hcurrent : c._currentRequest = some u) (hresponse : response.body.isException = false) :
    (ModbusTCPClientRequestHandler.handle c (some response)).1.pending ⊆ c._requests := by
  unfold ModbusTCPClientRequestHandler.handle
  rw [hcurrent]
  dsimp only
  split
  · exact pending_cleared tcpMessages hcurrent _
  · split
    · exact pending_cleared tcpMessages hcurrent _
    · exact MBClientRequestHandler.pending_handle hcurrent hresponse

/-- One response after another, as the loop of `_onData` takes them off. -/
def ModbusTCPClientRequestHandler.handleAll (c : ModbusTCPClientRequestHandler)
    (responses : List ModbusTCPResponse) : ModbusTCPClientRequestHandler :=
  responses.foldl (fun c response =>
    (ModbusTCPClientRequestHandler.handle c (some response)).1) c

open ModbusTCPClientRequestHandler (handleAll)

variable {c : ModbusTCPClientRequestHandler} {responses : List ModbusTCPResponse}

theorem updates_handle (c : ModbusTCPClientRequestHandler) (response : ModbusTCPResponse) :
    Updates tcpMessages c (ModbusTCPClientRequestHandler.handle c (some response)).1 :=
  updates_handled (ModbusTCPClientRequestHandler.handled_handle c (some response))

theorem updates_handleAll (c : ModbusTCPClientRequestHandler)
    (responses : List ModbusTCPResponse) : Updates tcpMessages c (handleAll c responses) := by
  induction responses generalizing c with
  | nil => exact .refl
  | cons response responses ih => exact (updates_handle c response).trans (ih _)

theorem MBClientRequestHandler.Inv.handleAll (h : Inv c) (responses : List ModbusTCPResponse) :
    Inv (handleAll c responses) := by
  induction responses generalizing c with
  | nil => exact h
  | cons response responses ih =>
    exact ih (h.handled (ModbusTCPClientRequestHandler.handled_handle c (some response)))

/-- A promise is only resolved with one of the responses, which has the transaction id of
its request. -/
theorem log_handleAll (c : ModbusTCPClientRequestHandler) (responses : List ModbusTCPResponse) :
    ∃ added, (handleAll c responses).log = c.log ++ added ∧ ∀ u r, .resolved u r ∈ added →
      u ∈ c.pending ∧ r ∈ responses ∧ r.id = u.request.id := by
  induction responses generalizing c with
  | nil => exact ⟨[], (List.append_nil _).symm, fun u r h => nomatch h⟩
  | cons response responses ih =>
    obtain ⟨⟨added, hlog, hadded⟩, -, -⟩ := extends_handle_tcp c response
    obtain ⟨added', hlog', hadded'⟩ :=
      ih (ModbusTCPClientRequestHandler.handle c (some response)).1
    refine ⟨added ++ added', ?_, ?_⟩
    · rw [← List.append_assoc, ← hlog]
      exact hlog'
    · intro u r hmem
      rcases List.mem_append.mp hmem with hmem | hmem
      · rcases hadded _ hmem with hsilent | ⟨v, hcurrent, hid, hv⟩
        · exact hsilent.elim
        · obtain ⟨rfl, rfl⟩ := Action.resolved.inj hv
          refine ⟨?_, List.mem_cons_self .., hid⟩
          rw [MBClientRequestHandler.pending, hcurrent]
          exact List.mem_cons_self ..
      · obtain ⟨hu, hr, hid⟩ := hadded' u r hmem
        exact ⟨(Updates.advances (updates_handle c response)).pending hu,
          List.mem_cons_of_mem _ hr, hid⟩

/-- When there is one response, or more, only the queue is left of what was pending. -/
theorem pending_handleAll {u : UserRequest ModbusTCPRequest} {response : ModbusTCPResponse}
    (hcurrent : c._currentRequest = some u) (hresponse : response.body.isException = false) :
    (handleAll c (response :: responses)).pending ⊆ c._requests :=
  List.Subset.trans (Updates.advances (updates_handleAll _ responses)).pending
    (ModbusTCPClientRequestHandler.pending_handle hcurrent hresponse)

/-- The loop of `_onData` handles every response that came out of the data, when they are no
exceptions and what is pending can be encoded. -/
theorem exec_responses (unitId : Int) (buffer : Buffer) (c : ModbusTCPClientRequestHandler)
    (responses : List ModbusTCPResponse)
    (hencodes : ∀ u ∈ c.pending, ∃ payload, tcpMessages.createPayload u.request = .ok payload)
    (hunit : ∀ r ∈ responses, unitId = r.unitId)
    (hresponses : ∀ r ∈ responses, r.body.isException = false) :
    MBClient.dataLoop.exec (MBClient.mk (w := .tcp) unitId c ⟨buffer, responses⟩) =
      (MBClient.mk (w := .tcp) unitId (handleAll c responses) ⟨buffer, []⟩, .ok ()) := by
  induction responses generalizing c with
  | nil => exact MBClient.exec_nil rfl
  | cons response responses ih =>
    have hfirst := ModbusTCPClientRequestHandler.handle_returns hencodes
      (hresponses response (List.mem_cons_self ..))
    have hpending := (Updates.advances (updates_handle c response)).pending
    have hshift : Transport.shift .tcp
      (ModbusTCPClientResponseHandler.mk buffer (response :: responses)) =
        (some response, ModbusTCPClientResponseHandler.mk buffer responses) := rfl
    have hhandle : ModbusTCPClientRequestHandler.handle c (some response) =
        ((ModbusTCPClientRequestHandler.handle c (some response)).1, .ok ()) :=
          Prod.ext rfl hfirst
    have hexec := MBClient.exec_handled (c := MBClient.mk (w := .tcp) unitId c _) hshift
      (hunit response (List.mem_cons_self ..)) hhandle
    -- the rest of the responses come to a handler with the same pending requests, or fewer
    exact hexec.trans (ih _ (fun u hu => hencodes u (hpending hu))
      (fun r hr => hunit r (List.mem_cons_of_mem _ hr)) fun r hr =>
        hresponses r (List.mem_cons_of_mem _ hr))

end NodeModbus

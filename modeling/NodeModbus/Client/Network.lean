import NodeModbus.Client.Accounting

/-!
# A TCP client and the answers to its requests

The handler of a TCP client with a network that may answer every request it has
written any number of times, and may deliver every answer at any time, any number
of times and in any order.

- `Extends`: what a call adds to the log of a handler, when it registers no request.
- `Numbered`: transaction ids count the registrations, modulo 0xFFFF.
- `networkSystem`: the handler and the answers to what it has written.
- `log_next`: only an answer that arrives resolves a promise, and only that of the
  request under way, with the transaction id of the answer.
- `resolves_own`: a promise is only resolved with an answer to its own request.
-/

namespace NodeModbus

open Transition

/-! ## What is added to a log -/

section Log

variable {ρ ω : Type}

/-- The action neither registers a request nor resolves a promise. -/
def Silent : Action ρ ω → Prop
  | .registered _ => False
  | .resolved _ _ => False
  | _ => True

namespace MBClientRequestHandler

/-- What is added to the log has the property `P`, and no request is registered. -/
structure Extends (P : Action ρ ω → Prop) (c c' : MBClientRequestHandler ρ ω) : Prop where
  log : ∃ added, c'.log = c.log ++ added ∧ ∀ a ∈ added, P a
  registered : c'.registered = c.registered
  requestId : c'._requestId = c._requestId

variable {P Q : Action ρ ω → Prop} {c c' c'' : MBClientRequestHandler ρ ω} {M : Messages ρ ω}

theorem Extends.refl (c : MBClientRequestHandler ρ ω) : Extends P c c :=
  ⟨⟨[], by simp⟩, rfl, rfl⟩

theorem Extends.trans (h : Extends P c c') (h' : Extends P c' c'') : Extends P c c'' := by
  obtain ⟨⟨added, hlog, hadded⟩, hr, hi⟩ := h
  obtain ⟨⟨added', hlog', hadded'⟩, hr', hi'⟩ := h'
  refine ⟨⟨added ++ added', by rw [hlog', hlog, List.append_assoc], fun a ha => ?_⟩,
    hr'.trans hr, hi'.trans hi⟩
  rcases List.mem_append.mp ha with ha | ha
  · exact hadded a ha
  · exact hadded' a ha

theorem Extends.mono (h : Extends P c c') (hPQ : ∀ a, P a → Q a) : Extends Q c c' := by
  obtain ⟨⟨added, hlog, hadded⟩, hr, hi⟩ := h
  exact ⟨⟨added, hlog, fun a ha => hPQ a (hadded a ha)⟩, hr, hi⟩

theorem extends_concat {a : Action ρ ω} (hlog : c'.log = c.log ++ [a]) (ha : P a)
    (hregistered : c'.registered = c.registered) (hrequestId : c'._requestId = c._requestId) :
    Extends P c c' := by
  refine ⟨⟨[a], hlog, ?_⟩, hregistered, hrequestId⟩
  intro b hb
  rw [List.mem_singleton.mp hb]
  exact ha

theorem extends_note (c : MBClientRequestHandler ρ ω) {a : Action ρ ω} (ha : P a) :
    Extends P c (c.note a) :=
  extends_concat rfl ha rfl rfl

theorem extends_reject (c : MBClientRequestHandler ρ ω) (u : UserRequest ρ)
    (err : UserRequestError ρ ω) : Extends Silent c (c.reject u err) :=
  extends_concat (a := .rejected u err) rfl trivial rfl rfl

theorem extends_clearCurrentRequest (c : MBClientRequestHandler ρ ω) :
    Extends P c c._clearCurrentRequest := by
  unfold _clearCurrentRequest
  split
  · exact .refl c
  · exact ⟨⟨[], by simp [done]⟩, rfl, rfl⟩

theorem extends_rejectRequests (requests : List (UserRequest ρ))
    (c : MBClientRequestHandler ρ ω) : Extends Silent c (rejectRequests requests c) := by
  induction requests generalizing c with
  | nil => exact .refl c
  | cons u requests ih =>
    refine Extends.trans ?_ (ih _)
    exact extends_concat (a := .rejected u _) rfl trivial rfl rfl

theorem extends_clearAllRequests (c : MBClientRequestHandler ρ ω) :
    Extends Silent c c._clearAllRequests :=
  (extends_clearCurrentRequest c).trans (extends_rejectRequests _ _)

theorem extends_flush (M : Messages ρ ω) (c : MBClientRequestHandler ρ ω) :
    Extends Silent c (c._flush M).1 := by
  have hflush := flushed M c
  generalize c._flush M = r at hflush ⊢
  cases hflush with
  | idle _ => exact .refl c
  | rejected _ _ _ => exact extends_concat (a := .rejected _ _) rfl trivial rfl rfl
  | failed _ _ _ _ => exact ⟨⟨[], by simp [start]⟩, rfl, rfl⟩
  | written _ _ _ _ => exact extends_concat (a := .written _ _) rfl trivial rfl rfl

/-- Settling the request under way, and flushing. -/
theorem extends_settle_flush (M : Messages ρ ω) (c : MBClientRequestHandler ρ ω)
    {a : Action ρ ω} (ha : P a) (hP : ∀ a, Silent a → P a) :
    Extends P c ((c.note a)._clearCurrentRequest._flush M).1 :=
  ((extends_note c ha).trans (extends_clearCurrentRequest _)).trans
  ((extends_flush M _).mono hP)

theorem extends_manuallyRejectCurrentRequest (M : Messages ρ ω)
    (c : MBClientRequestHandler ρ ω) :
    Extends Silent c (c.manuallyRejectCurrentRequest M).1 := by
  unfold manuallyRejectCurrentRequest
  split
  · exact .refl c
  · exact (extends_reject c _ _).trans (extends_flush M _)

theorem extends_manuallyRejectRequests (M : Messages ρ ω) (numRequests : Nat)
    (c : MBClientRequestHandler ρ ω) :
    Extends Silent c (c.manuallyRejectRequests M numRequests).1 :=
  manuallyRejectRequests_induction (R := Extends Silent) Extends.refl Extends.trans
    (extends_manuallyRejectCurrentRequest M) numRequests c

theorem extends_onClose (c : MBClientRequestHandler ρ ω) : Extends Silent c c._onClose := by
  have hstate : Extends Silent c ({ c with _state := .offline }.note (.state .offline)) :=
    extends_concat (a := .state .offline) rfl trivial rfl rfl
  unfold _onClose
  dsimp only
  split
  · exact hstate.trans (extends_clearAllRequests _)
  · exact (hstate.trans (extends_reject _ _ _)).trans (extends_clearAllRequests _)

theorem extends_onTimeout (M : Messages ρ ω) (c : MBClientRequestHandler ρ ω)
    (u : UserRequest ρ) : Extends Silent c (c.onTimeout M u).1 := by
  have hdone : Extends Silent c (c.done u) := ⟨⟨[], by simp [done]⟩, rfl, rfl⟩
  exact hdone.trans (extends_settle_flush M (c.done u) (a := .rejected u _) trivial
    fun _ h => h)

theorem extends_customErrorRequest (c : MBClientRequestHandler ρ ω)
    (err : UserRequestError ρ ω) : Extends Silent c (c.customErrorRequest err) := by
  unfold customErrorRequest
  split
  · exact .refl c
  · exact extends_reject c _ err

/-- A response resolves at most the promise of the request under way. -/
theorem extends_handle (M : Messages ρ ω) (c : MBClientRequestHandler ρ ω) (response : ω) :
    Extends (fun a => Silent a ∨ ∃ u, c._currentRequest = some u ∧ a = .resolved u response) c
      (c.handle M (some response)).1 := by
  unfold handle
  split
  · exact .refl c
  · exact .refl c
  · rename_i hresponse hcurrent
    obtain rfl := Option.some.inj hresponse
    dsimp only
    split
    · refine Extends.mono ?_ fun a ha => .inl ha
      exact (extends_reject c _ _).trans (extends_clearAllRequests _)
    · split
      · split
        · exact .refl c
        · refine Extends.mono ?_ fun a ha => .inl ha
          exact extends_settle_flush M c (a := .rejected _ _) trivial fun _ h => h
      · exact extends_settle_flush M c (a := .resolved _ _) (.inr ⟨_, hcurrent, rfl⟩)
          fun _ h => .inl h

end MBClientRequestHandler

end Log

/-! ## Transaction ids -/

open MBClientRequestHandler

/-- Of a TCP handler, a response resolves at most the promise of the request under way, and
only with its transaction id. -/
theorem extends_handle_tcp (c : ModbusTCPClientRequestHandler) (response : ModbusTCPResponse) :
    Extends (fun a => Silent a ∨ ∃ u, c._currentRequest = some u ∧ response.id = u.request.id ∧
      a = .resolved u response) c
        (ModbusTCPClientRequestHandler.handle c (some response)).1 := by
  unfold ModbusTCPClientRequestHandler.handle
  split
  · exact .refl c
  · exact .refl c
  · rename_i u hresponse hcurrent
    obtain rfl := Option.some.inj hresponse
    dsimp only
    split
    · refine Extends.mono ?_ fun a ha => .inl ha
      exact (extends_reject c _ _).trans (extends_clearAllRequests _)
    · rename_i hid
      split
      · refine Extends.mono ?_ fun a ha => .inl ha
        exact (extends_reject c _ _).trans (extends_clearAllRequests _)
      · refine (extends_handle tcpMessages c response).mono fun a ha => ha.imp_right ?_
        rintro ⟨v, hv, rfl⟩
        obtain rfl := Option.some.inj (hcurrent.symm.trans hv)
        exact ⟨_, hcurrent, not_not.mp hid, rfl⟩

/-- A call or an event that is neither a registration nor a response. -/
def Event.IsSilent {w : Transport} : Event w → Prop
  | register _ => False
  | handle _ => False
  | _ => True

theorem extends_apply (unitId : Int) (c : ModbusTCPClientRequestHandler) {e : Event .tcp}
    (he : e.IsSilent) : Extends Silent c (Event.apply (w := .tcp) unitId c e).1 := by
  cases e with
  | register requestBody => exact he.elim
  | handle response => exact he.elim
  | connect => exact extends_concat (a := .state .online) rfl trivial rfl rfl
  | close => exact extends_onClose c
  | timeout u => exact extends_onTimeout tcpMessages c u
  | deferredFlush =>
    have hdue : Extends Silent c { c with flushes := c.flushes - 1 } :=
      ⟨⟨[], by simp⟩, rfl, rfl⟩
    exact hdue.trans (extends_flush tcpMessages _)
  | manuallyRejectCurrentRequest => exact extends_manuallyRejectCurrentRequest tcpMessages c
  | manuallyRejectRequests numRequests =>
    exact extends_manuallyRejectRequests tcpMessages numRequests c
  | manuallylRejectAllRequests =>
    exact extends_manuallyRejectRequests tcpMessages c.requestCount c
  | customErrorRequest err => exact extends_customErrorRequest c err

/-- The transaction ids count the registrations, modulo 0xFFFF. -/
structure Numbered (c : ModbusTCPClientRequestHandler) : Prop where
  requestId : c._requestId = c.registered % 0xFFFF
  ids : ∀ u ∈ registrations c.log, u.request.id = ((u.key + 1) % 0xFFFF : Nat)

/-- Without a registration the numbers stay as they are. -/
theorem Numbered.extends {c c' : ModbusTCPClientRequestHandler} (h : Numbered c)
    {P : Action ModbusTCPRequest ModbusTCPResponse → Prop} (hc : Extends P c c')
    (hP : ∀ a, P a → a.registers = none) : Numbered c' := by
  obtain ⟨⟨added, hlog, hadded⟩, hregistered, hrequestId⟩ := hc
  have hnone : added.filterMap Action.registers = [] :=
    List.filterMap_eq_nil_iff.mpr fun a ha => hP a (hadded a ha)
  refine ⟨by rw [hrequestId, hregistered, h.requestId], fun u hu => h.ids u ?_⟩
  rw [registrations, hlog, List.filterMap_append, hnone, List.append_nil] at hu
  exact hu

theorem Silent.registers {ρ ω : Type} {a : Action ρ ω} (h : Silent a) : a.registers = none := by
  cases a <;> first | rfl | exact h.elim

/-- The request that is registered gets the next transaction id. -/
theorem Numbered.register {c : ModbusTCPClientRequestHandler} (h : Numbered c) (unitId : Int)
    (requestBody : RequestBody) :
    Numbered (ModbusTCPClientRequestHandler.register unitId c requestBody).1 := by
  have hid : (c._requestId + 1) % 0xFFFF = (c.registered + 1) % 0xFFFF := by
    rw [h.requestId]
    omega
  have hpush : Numbered (push { c with _requestId := (c._requestId + 1) % 0xFFFF }
      { id := ((c._requestId + 1) % 0xFFFF : Nat), protocol := 0x00,
        length := requestBody.byteCount + 1, unitId, body := requestBody }) := by
    refine ⟨hid, ?_⟩
    intro u hu
    rcases List.mem_append.mp ((registrations_concat ..) ▸ hu) with hu | hu
    · exact h.ids u hu
    · obtain rfl := List.mem_singleton.mp hu
      exact congrArg Nat.cast hid
  exact hpush.extends (extends_flush tcpMessages _) fun a => Silent.registers

/-! ## The network -/

/-- An answer, with the request it was made for. -/
structure Reply where
  source : UserRequest ModbusTCPRequest
  response : ModbusTCPResponse

/-- What an answer has of its request. -/
structure Reply.IsAnswer (r : Reply) : Prop where
  id : r.response.id = r.source.request.id
  protocol : r.response.protocol = 0
  unitId : r.response.unitId = r.source.request.unitId
  fc : r.response.body.fc = r.source.request.body.fc

/-- A handler, and every answer that was ever sent to it. -/
structure Network where
  handler : ModbusTCPClientRequestHandler
  sent : List Reply

/-- Something happens to the handler, or a request is answered, or an answer arrives. -/
inductive NetworkEvent where
  | client (e : Event .tcp)
  | answer (r : Reply)
  | deliver (r : Reply)

/-- One response in the loop of `MBClient._onData`: it is handled when its unit id is that
of the client. -/
def receive (unitId : Int) (c : ModbusTCPClientRequestHandler) (response : ModbusTCPResponse) :
    ModbusTCPClientRequestHandler × Except Thrown Unit :=
  if unitId = response.unitId then ModbusTCPClientRequestHandler.handle c (some response)
  else (c, .ok ())

namespace Network

/-- Only a request that was written is answered, and only answers arrive. An answer that was
sent may arrive at any time, and any number of times. -/
def Allowed (n : Network) : NetworkEvent → Prop
  | .client e => Event.Allowed (w := .tcp) n.handler e ∧ ∀ response, e ≠ .handle response
  | .answer r => r.source ∈ writes n.handler.log ∧ r.IsAnswer
  | .deliver r => r ∈ n.sent

/-- What is sent stays in the network, whether it has arrived or not. -/
def next (unitId : Int) (n : Network) : NetworkEvent → Network
  | .client e => { n with handler := (Event.apply (w := .tcp) unitId n.handler e).1 }
  | .answer r => { n with sent := r :: n.sent }
  | .deliver r => { n with handler := (receive unitId n.handler r.response).1 }

end Network

/-- A new client, and its network. -/
def networkSystem (unitId : Int) : System Network NetworkEvent where
  init n := n = ⟨.new, []⟩
  allows := Network.Allowed
  next := Network.next unitId

variable {unitId : Int} {n : Network}

theorem extends_receive (unitId : Int) (c : ModbusTCPClientRequestHandler)
    (response : ModbusTCPResponse) :
    Extends (fun a => Silent a ∨ ∃ u, c._currentRequest = some u ∧ response.id = u.request.id ∧
      a = .resolved u response) c (receive unitId c response).1 := by
  unfold receive
  split
  · exact extends_handle_tcp c response
  · exact .refl c

/-- The log of a handler that registers a request. -/
theorem log_register (unitId : Int) (c : ModbusTCPClientRequestHandler)
    (requestBody : RequestBody) :
    ∃ added, (ModbusTCPClientRequestHandler.register unitId c requestBody).1.log =
      c.log ++ added ∧
      ∀ a ∈ added, ∀ u response, a ≠ .resolved u response := by
  obtain ⟨⟨added, hlog, hadded⟩, -, -⟩ := extends_flush tcpMessages
    (push { c with _requestId := (c._requestId + 1) % 0xFFFF }
      { id := ((c._requestId + 1) % 0xFFFF : Nat), protocol := 0x00,
        length := requestBody.byteCount + 1, unitId, body := requestBody })
  refine ⟨_ :: added, hlog.trans (List.append_assoc ..), ?_⟩
  intro a ha u response hresolved
  subst hresolved
  rcases List.mem_cons.mp ha with ha | ha
  · cases ha
  · exact hadded _ ha

/-- What an event adds to the log: a promise is only resolved when an answer arrives, and
then it is that of the request under way, which has the transaction id of the answer. -/
theorem log_next (unitId : Int) {e : NetworkEvent} (hallowed : n.Allowed e) :
    ∃ added, (n.next unitId e).handler.log = n.handler.log ++ added ∧
      ∀ u response, .resolved u response ∈ added → ∃ r, e = .deliver r ∧ r.response = response ∧
        n.handler._currentRequest = some u ∧ response.id = u.request.id := by
  cases e with
  | answer r => exact ⟨[], (List.append_nil _).symm, fun u response h => nomatch h⟩
  | deliver r =>
    obtain ⟨⟨added, hlog, hadded⟩, -, -⟩ := extends_receive unitId n.handler r.response
    refine ⟨added, hlog, fun u response hmem => ⟨r, rfl, ?_⟩⟩
    rcases hadded _ hmem with hsilent | ⟨v, hcurrent, hid, hv⟩
    · exact hsilent.elim
    · cases hv
      exact ⟨rfl, hcurrent, hid⟩
  | client e =>
    -- no other event delivers a response, so none of them resolves a promise
    obtain ⟨-, hhandle⟩ := hallowed
    have hsilent : e.IsSilent → ∃ added, (n.next unitId (.client e)).handler.log =
        n.handler.log ++ added ∧ ∀ a ∈ added, ∀ u response, a ≠ .resolved u response := by
      intro he
      obtain ⟨⟨added, hlog, hadded⟩, -, -⟩ := extends_apply unitId n.handler he
      refine ⟨added, hlog, ?_⟩
      intro a ha u response hresolved
      subst hresolved
      exact hadded _ ha
    have hnone : ∃ added, (n.next unitId (.client e)).handler.log = n.handler.log ++ added ∧
        ∀ a ∈ added, ∀ u response, a ≠ .resolved u response := by
      cases e with
      | handle response => exact absurd rfl (hhandle response)
      | register requestBody => exact log_register unitId n.handler requestBody
      | _ => exact hsilent trivial
    obtain ⟨added, hlog, hadded⟩ := hnone
    exact ⟨added, hlog, fun u response hmem => absurd rfl (hadded _ hmem u response)⟩

/-! ## The answers under way -/

/-- The promises and the numbers of the handler, and that every answer is that of a request
that was written. -/
structure NetworkInv (n : Network) : Prop where
  inv : Inv n.handler
  numbered : Numbered n.handler
  sent : ∀ r ∈ n.sent, r.source ∈ writes n.handler.log ∧ r.IsAnswer

theorem numbered_next (h : Numbered n.handler) {e : NetworkEvent} (hallowed : n.Allowed e) :
    Numbered (n.next unitId e).handler := by
  cases e with
  | answer r => exact h
  | deliver r =>
    refine h.extends (extends_receive unitId n.handler r.response) ?_
    rintro a (hsilent | ⟨u, -, -, rfl⟩)
    · exact hsilent.registers
    · rfl
  | client e =>
    have hsilent : e.IsSilent → Numbered (n.next unitId (.client e)).handler := fun he =>
      h.extends (extends_apply unitId n.handler he) fun a => Silent.registers
    cases e with
    | handle response => exact absurd rfl (hallowed.2 response)
    | register requestBody => exact h.register unitId requestBody
    | _ => exact hsilent trivial

theorem inv_next (h : Inv n.handler) {e : NetworkEvent} (hallowed : n.Allowed e) :
    Inv (n.next unitId e).handler := by
  cases e with
  | answer r => exact h
  | client e => exact inv_apply (w := .tcp) unitId h e hallowed.1
  | deliver r =>
    show Inv (receive unitId n.handler r.response).1
    unfold receive
    split
    · exact h.handled (ModbusTCPClientRequestHandler.handled_handle n.handler _)
    · exact h

/-- What was written stays written. -/
theorem NetworkInv.next (h : NetworkInv n) {e : NetworkEvent} (hallowed : n.Allowed e) :
    NetworkInv (n.next unitId e) := by
  refine ⟨inv_next h.inv hallowed, numbered_next h.numbered hallowed, ?_⟩
  intro r hr
  -- the log only grows
  obtain ⟨added, hlog, -⟩ := log_next unitId hallowed
  have hwrites : writes n.handler.log ⊆ writes (n.next unitId e).handler.log := by
    rw [writes, writes, hlog, List.filterMap_append]
    exact List.subset_append_left ..
  have hsent : r.source ∈ writes n.handler.log ∧ r.IsAnswer := by
    cases e with
    | answer r' =>
      rcases List.mem_cons.mp hr with rfl | hr
      · exact hallowed
      · exact h.sent r hr
    | client e => exact h.sent r hr
    | deliver r' => exact h.sent r hr
  exact ⟨hwrites hsent.1, hsent.2⟩

/-- The invariant holds of every state a client and its network come to. -/
theorem networkInv_reachable (h : Reachable (networkSystem unitId) n) : NetworkInv n := by
  have hinit : ∀ {n : Network}, (networkSystem unitId).init n → NetworkInv n := by
    rintro n rfl
    exact ⟨inv_new, ⟨rfl, fun u hu => nomatch hu⟩, fun r hr => nomatch hr⟩
  exact h.invariant (P := NetworkInv) hinit fun e hn hallowed => hn.next hallowed

/-! ## The window of pending requests -/

/-- Fewer than 0xFFFF pending requests have different transaction ids. -/
theorem MBClientRequestHandler.Accounted.nodup_ids {c : ModbusTCPClientRequestHandler}
    {finished : List (UserRequest ModbusTCPRequest)} (h : Accounted finished c)
    (hnumbered : Numbered c) (hpending : c.pending.length < 0xFFFF) :
    (c.pending.map fun u => u.request.id).Nodup := by
  have hregistered : ∀ u ∈ c.pending, u.request.id = ((u.key + 1) % 0xFFFF : Nat) := by
    intro u hu
    refine hnumbered.ids u ?_
    rw [h.registrations]
    exact List.mem_append_right _ hu
  have hwindow : ∀ u ∈ c.pending, finished.length ≤ u.key ∧
      u.key < finished.length + c.pending.length := by
    intro u hu
    have hkey := List.mem_map_of_mem (f := UserRequest.key) hu
    rw [h.keys_pending] at hkey
    exact List.mem_range'_1.mp hkey
  have hnodup : (c.pending.map UserRequest.key).Nodup := by
    rw [h.keys_pending]
    exact List.nodup_range'
  -- equal ids of two keys that are less than 0xFFFF apart come from equal keys
  refine List.Nodup.map_on ?_ hnodup.of_map
  intro u hu v hv hid
  rw [hregistered u hu, hregistered v hv] at hid
  have hu' := hwindow u hu
  have hv' := hwindow v hv
  exact List.inj_on_of_nodup_map hnodup hu hv (by omega)

/-! ## Answers and promises -/

/-- What is promised of the promises of a TCP client: whatever happens next, a promise is
only resolved when an answer arrives, and it is that of the request the answer was made for
when fewer than 0xFFFF requests were registered after it, up to the one that is resolved.
Transaction ids are at most 0xFFFE, and fewer than 0xFFFF pending requests have different
ones. -/
structure ResolvesOwn (unitId : Int) (n : Network) : Prop where
  own : ∀ e, n.Allowed e → ∃ added, (n.next unitId e).handler.log = n.handler.log ++ added ∧
    ∀ u response, .resolved u response ∈ added → ∃ r, e = .deliver r ∧ r.response = response ∧
      (u.key - r.source.key < 0xFFFF → r.source = u)
  ids : ∀ u ∈ registrations n.handler.log, 0 ≤ u.request.id ∧ u.request.id ≤ 0xFFFE
  distinct : n.handler.pending.length < 0xFFFF →
    (n.handler.pending.map fun u => u.request.id).Nodup

/-- A TCP client resolves a promise only with an answer to its own request, whatever the network
does with the answers. -/
theorem resolves_own (unitId : Int) {n : Network} (h : Reachable (networkSystem unitId) n) :
    ResolvesOwn unitId n := by
  obtain ⟨⟨⟨finished, haccounted⟩, -, -⟩, hnumbered, hsent⟩ := networkInv_reachable h
  refine ⟨?_, ?_, haccounted.nodup_ids hnumbered⟩
  · intro e hallowed
    obtain ⟨added, hlog, hadded⟩ := log_next unitId hallowed
    refine ⟨added, hlog, fun u response hmem => ?_⟩
    obtain ⟨r, rfl, rfl, hcurrent, hid⟩ := hadded u response hmem
    refine ⟨r, rfl, rfl, fun hwindow => ?_⟩
    have hpending : u ∈ n.handler.pending := by
      rw [pending, hcurrent]
      exact List.mem_cons_self ..
    obtain ⟨hwritten, hanswer⟩ := hsent r hallowed
    -- what was written is done, or is the request under way
    have hsource : r.source ∈ finished ++ [u] := by
      have hwrites := haccounted.writes
      rw [hcurrent] at hwrites
      exact hwrites.subset hwritten
    rcases List.mem_append.mp hsource with hfinished | hcurrent'
    · -- an earlier request in the window has another transaction id
      have hlt := haccounted.key_lt_key hfinished hpending
      have hids : ((r.source.key + 1) % 0xFFFF : Nat) = (u.key + 1) % 0xFFFF := by
        have hs := hnumbered.ids r.source (by
          rw [haccounted.registrations]
          exact List.mem_append_left _ hfinished)
        have hu := hnumbered.ids u (by
          rw [haccounted.registrations]
          exact List.mem_append_right _ hpending)
        rw [hanswer.id, hs, hu] at hid
        exact Int.ofNat.inj hid
      omega
    · exact List.mem_singleton.mp hcurrent'
  · intro u hu
    have hid := hnumbered.ids u hu
    omega

/-- The answer to the request `coilRequest id start`, that the coil is on. -/
def coilReply (key : Nat) (id start : Int) (h : start ≤ 0xFFFF) : Reply :=
  ⟨⟨key, coilRequest id start h⟩, ⟨id, 0, 4, 1, .readCoils ⟨.array [true], 1, [true], [1]⟩⟩⟩

/-- Two coils are read. The answer to the first request arrives twice, and the second copy
when the second request is under way. -/
def duplicatedReply : List NetworkEvent :=
  [.client .connect, .client (.register (.readCoils ⟨0, 1, zero_le_address, one_le_count⟩)),
    .client (.register (.readCoils ⟨8, 1, eight_le_address, one_le_count⟩)),
    .answer (coilReply 0 1 0 zero_le_address), .deliver (coilReply 0 1 0 zero_le_address),
    .deliver (coilReply 0 1 0 zero_le_address)]

theorem resolves_own_duplicatedReply :
    ResolvesOwn 1 ((networkSystem 1).after ⟨.new, []⟩ duplicatedReply) := by
  have h₀ : Reachable (networkSystem 1) ⟨.new, []⟩ := .init rfl
  have h₁ := h₀.step (NetworkEvent.client .connect) ⟨trivial, fun _ h => nomatch h⟩
  have h₂ := h₁.step
    (NetworkEvent.client (.register (.readCoils ⟨0, 1, zero_le_address, one_le_count⟩)))
    ⟨trivial, fun _ h => nomatch h⟩
  have h₃ := h₂.step
    (NetworkEvent.client (.register (.readCoils ⟨8, 1, eight_le_address, one_le_count⟩)))
    ⟨trivial, fun _ h => nomatch h⟩
  have h₄ := h₃.step (NetworkEvent.answer (coilReply 0 1 0 zero_le_address))
    ⟨List.mem_singleton.mpr rfl, rfl, rfl, rfl, rfl⟩
  have h₅ := h₄.step (NetworkEvent.deliver (coilReply 0 1 0 zero_le_address))
    (List.mem_singleton.mpr rfl)
  exact resolves_own 1 (h₅.step (NetworkEvent.deliver (coilReply 0 1 0 zero_le_address))
    (List.mem_singleton.mpr rfl))

end NodeModbus

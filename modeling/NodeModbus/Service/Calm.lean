import NodeModbus.Service.Progress

/-!
# When every call returns

While no timer expires, no socket is closed and users call only over an open socket, a
client has one frame on its way when a request is under way, and none otherwise. The
response that comes in is the answer to that request, so it is never out of step: no
promise is rejected, and every call returns.

- `Session.Lone`, `Explained.lone_next`: the invariant, and that every event keeps it.
- `Service.Recorded`: what is resolved has returned.
- `returned_of_quiet`, `exists_returned`: the calls, for every reachable state.
-/

namespace NodeModbus

open Buffer Framing Linearization MBClientRequestHandler Transition

variable {ι : Type}

/-! ## The client -/

/-- What a client that is online flushes: it writes what it puts under way. -/
theorem exists_flush {ρ ω : Type} {M : Messages ρ ω} {c : MBClientRequestHandler ρ ω}
    (hstate : c._state = .online)
    (hencodes : ∀ u ∈ c.pending, ∃ payload, M.createPayload u.request = .ok payload) :
    ∃ added, (c._flush M).1.log = c.log ++ added ∧
      (c._flush M).1._currentRequest.toList = c._currentRequest.toList ++ writes added ∧
      ∀ u err, .rejected u err ∉ added := by
  have hflush := flushed M c
  generalize c._flush M = r at hflush ⊢
  cases hflush with
  | idle _ =>
    exact ⟨[], (List.append_nil _).symm, (List.append_nil _).symm, fun u err h => nomatch h⟩
  | rejected _ _ hoffline => cases hstate.symm.trans hoffline
  | @failed u requests e hcurrent hrequests _ hfails =>
    have hmem : u ∈ c.pending := by
      rw [pending_of_idle hcurrent hrequests]
      exact List.mem_cons_self ..
    obtain ⟨payload, hpayload⟩ := hencodes u hmem
    cases hfails.symm.trans hpayload
  | @written u requests payload hcurrent _ _ _ =>
    refine ⟨[.written u payload], rfl, ?_, ?_⟩
    · rw [hcurrent]
      rfl
    · rintro v err hmem
      cases List.mem_singleton.mp hmem

namespace ModbusTCPClientRequestHandler

/-- A response that matches the request under way resolves its promise. -/
theorem handle_of_match {c : ModbusTCPClientRequestHandler} {u : UserRequest ModbusTCPRequest}
    {response : ModbusTCPResponse} (hcurrent : c._currentRequest = some u)
    (hid : response.id = u.request.id) (hprotocol : response.protocol = 0x00)
    (hexception : response.body.isException = false)
    (hfc : response.body.fc = u.request.body.fc) :
    (handle c (some response)).1 =
      ((c.resolve u response)._clearCurrentRequest._flush tcpMessages).1 := by
  rw [handle_of_header hcurrent hid hprotocol]
  exact congrArg Prod.fst
    (MBClientRequestHandler.handle_of_fc_eq (M := tcpMessages) hcurrent hexception hfc)

end ModbusTCPClientRequestHandler

/-- Then the next request is put under way, and no promise is rejected. -/
theorem exists_handle_match {c : ModbusTCPClientRequestHandler} (hinv : Inv c)
    (hencodes : ∀ u ∈ c.pending, ∃ payload, tcpMessages.createPayload u.request = .ok payload)
    {u : UserRequest ModbusTCPRequest} {response : ModbusTCPResponse}
    (hcurrent : c._currentRequest = some u) (hid : response.id = u.request.id)
    (hprotocol : response.protocol = 0x00) (hexception : response.body.isException = false)
    (hfc : response.body.fc = u.request.body.fc) :
    ∃ added, (ModbusTCPClientRequestHandler.handle c (some response)).1.log = c.log ++ added ∧
      (ModbusTCPClientRequestHandler.handle c (some response)).1._currentRequest.toList =
        writes added ∧
      ∀ u err, .rejected u err ∉ added := by
  rw [ModbusTCPClientRequestHandler.handle_of_match hcurrent hid hprotocol hexception hfc,
    clearCurrentRequest_eq (c := c.resolve u response) hcurrent]
  obtain ⟨added, hlog, hflushed, hkept⟩ := exists_flush (M := tcpMessages)
    (c := { (c.resolve u response).done u with _currentRequest := none })
    (hinv.online_of_current hcurrent) fun v hv => hencodes v (List.mem_append_right _ hv)
  refine ⟨.resolved u response :: added, hlog.trans (List.append_assoc ..), hflushed, ?_⟩
  rintro v err hmem
  rcases List.mem_cons.mp hmem with heq | hmem
  · cases heq
  · exact hkept v err hmem

/-! ## The invariant -/

/-- A frame is on its way for the request under way, and none otherwise. No promise was
rejected. -/
structure Session.Lone (s : Session) : Prop where
  ids : s.ids.Perm (s.handler._currentRequest.toList.map UserRequest.idBytes)
  kept : ∀ u err, .rejected u err ∉ s.handler.log

/-- What a client puts under way is all that it writes. -/
theorem lone_absorb {s : Session} {c : ModbusTCPClientRequestHandler}
    (before : List (UserRequest ModbusTCPRequest))
    (added : List (Action ModbusTCPRequest ModbusTCPResponse))
    (hlog : c.log = s.handler.log ++ added) (hencoded : Encoded tcpMessages c)
    (hframe : ∀ u ∈ writes added, ∃ f : TcpFrame, f.request = u.request)
    (hids : s.ids.Perm (before.map UserRequest.idBytes))
    (hcurrent : c._currentRequest.toList = before ++ writes added)
    (hkept : ∀ u err, .rejected u err ∉ s.handler.log)
    (hadded : ∀ u err, .rejected u err ∉ added) : (s.absorb (s.client.withHandler c)).Lone := by
  constructor
  · show (s.absorb (s.client.withHandler c)).ids.Perm (c._currentRequest.toList.map _)
    rw [hcurrent, List.map_append]
    exact (ids_absorb hlog hencoded hframe).trans (hids.append_right _)
  · rintro u err hmem
    have hmem' : .rejected u err ∈ s.handler.log ++ added := hlog ▸ hmem
    exact (List.mem_append.mp hmem').elim (hkept u err) (hadded u err)

variable {id : Option Int} {t : Tables} {heap : Heap} {s : Service ι} {order : Order ι} {i : ι}

/-- A user calls a request method, over an open socket. -/
theorem Explained.lone_call (h : Explained id t heap s order) (hlone : (s.session i).Lone)
    (unsafeBytes : Nat → UInt8) {k : Call}
    (hallowed : s.Allowed (.load t heap) (.call i unsafeBytes k))
    (honline : (s.session i).handler._state = .online) :
    ((s.session i).absorb ((s.session i).client.withHandler
      (k.apply .tcp (s.session i).client.unitId unsafeBytes
        (s.session i).handler).1)).Lone := by
  obtain ⟨sent, answers, htracked⟩ := h.tracked i
  cases hbody : k.body unsafeBytes with
  | error e =>
    rw [Call.apply_error (w := .tcp) (s.session i).client.unitId (s.session i).handler hbody]
    exact lone_absorb _ [] (List.append_nil _).symm (h.encoded i)
      (fun u hu => nomatch hu) hlone.ids (List.append_nil _).symm hlone.kept fun u err hmem =>
        nomatch hmem
  | ok requestBody =>
    obtain ⟨x, hkey, -, -, happly, hinv⟩ := h.exists_registered hallowed hbody
    obtain ⟨added, hlog, hcurrent, hkept⟩ := exists_flush (M := tcpMessages)
      (c := (s.session i).pushed x) honline (by
      rintro u hu
      obtain ⟨f, hf⟩ := htracked.exists_frame_pushed hu
      exact ⟨f.payload, hf ▸ f.encoded⟩)
    obtain ⟨-, added', hlog', -, hwrites⟩ := advances_flush tcpMessages ((s.session i).pushed x)
    obtain rfl := List.append_cancel_left (hlog.symm.trans hlog')
    rw [happly]
    refine lone_absorb (s.session i).handler._currentRequest.toList
      (.registered x.request :: added) (hlog.trans (List.append_assoc ..))
      (htracked.encoded_flush x) ?_ hlone.ids hcurrent hlone.kept ?_
    · exact fun u hu => htracked.exists_frame_pushed (hwrites hu)
    · rintro u err hmem
      rcases List.mem_cons.mp hmem with heq | hmem
      · cases heq
      · exact hkept u err hmem

/-- The socket of a client connects that was closed. -/
theorem Explained.lone_connect (h : Explained id t heap s order) (hlone : (s.session i).Lone)
    (hoffline : (s.session i).handler._state = .offline) :
    ((s.session i).absorb
      ((s.session i).client.withHandler (s.session i).handler._onConnect)).reconnect.Lone := by
  obtain ⟨sent, answers, htracked⟩ := h.tracked i
  have hlog : (s.session i).handler._onConnect.log =
    (s.session i).handler.log ++ [.state .online] := rfl
  have hadded := (s.session i).added_eq hlog
  rw [Session.absorb_eq (by rw [hadded]; rfl)]
  have hidle : (s.session i).handler._currentRequest = none := by
    cases hcurrent : (s.session i).handler._currentRequest with
    | none => rfl
    | some u => cases hoffline.symm.trans ((h.inv i).online_of_current hcurrent)
  constructor
  · -- the new connection has not been used
    have hnew : (s.session i).connection ((s.session i).current + 1) = .new :=
      htracked.unused _ (Nat.lt_succ_self _)
    show (((s.session i).connection ((s.session i).current + 1)).up.frames.map _ ++
      ((s.session i).connection ((s.session i).current + 1)).down.frames.map _).Perm
      ((s.session i).handler._currentRequest.toList.map _)
    rw [hnew, hidle]
    exact .nil
  · rintro u err hmem
    rcases List.mem_append.mp
      (hmem : _ ∈ (s.session i).handler.log ++ [.state .online]) with hmem | hmem
    · exact hlone.kept u err hmem
    · cases List.mem_singleton.mp hmem

/-- A response that says what an answer says with the transaction id of a pending request
matches it. -/
theorem Explained.response_matches (h : Explained id t heap s order) {sent : Nat → List Flight}
    {answers : List (Nat × TcpResponseFrame)}
    (htracked : Tracked (.load t heap) i s.history order (s.session i) sent answers)
    {g : Nat × TcpResponseFrame} (hg : g ∈ answers) {u : UserRequest ModbusTCPRequest}
    (hu : u ∈ (s.session i).handler.pending) (htake : g.2.payload.take 2 = u.idBytes)
    {r : ModbusTCPResponse} (heq : r.content = g.2.response.content) :
    r.id = u.request.id ∧ r.protocol = 0x00 ∧ r.body.isException = false ∧
    r.body.fc = u.request.body.fc := by
  have hgenuine := htracked.genuine g hg
  have hbody : r.body.content = g.2.response.body.content := congrArg (fun p => p.2.2.2.2) heq
  obtain ⟨gid, protocol, unitId, p, hparts⟩ := g.2.exists_parts
  have hid : g.2.response.id = u.request.id := by
    obtain ⟨f, hf⟩ := htracked.exists_frame hu
    obtain ⟨fid, funitId, fp, hfparts⟩ := f.exists_parts
    rw [g.2.take_two, UserRequest.idBytes, ← hf, hparts.id_eq, hfparts.id_eq] at htake
    rw [← hf, hparts.id_eq, hfparts.id_eq,
      Words.be16_injective hparts.id_lt hfparts.id_lt htake]
  refine ⟨(congrArg (fun p => p.1) heq).trans hid, (congrArg (fun p => p.2.1) heq).trans ?_,
    isException_of_content hbody hgenuine.isException, ?_⟩
  · show g.2.response.protocol = 0x00
    obtain ⟨a, -, aid, aunitId, hpayload⟩ := hgenuine.body
    obtain ⟨-, hrest⟩ := List.append_inj (hparts.payload_eq.symm.trans hpayload) rfl
    obtain ⟨hprotocol, -⟩ := List.append_inj hrest rfl
    rw [hparts.protocol_eq, Words.be16_injective hparts.protocol_lt (by decide) hprotocol]
    rfl
  · obtain ⟨before, op, after, horder, hcontent⟩ := hgenuine.answered
    have hmem : ((i, g.1), op) ∈ order := by
      rw [horder]
      exact List.mem_append_right _ (List.mem_cons_self ..)
    -- the operation that was served is that of the request
    obtain ⟨v, hv, hkey, hop⟩ := htracked.called g.1 op (h.linearizes.called _ hmem)
    obtain ⟨finished, hfinished⟩ := htracked.accounted
    have hnodup := hfinished.keys_nodup
    rw [← hfinished.registrations] at hnodup
    have hu' : u ∈ registrations (s.session i).handler.log := by
      rw [hfinished.registrations]
      exact List.mem_append_right _ hu
    obtain rfl :=
      List.inj_on_of_nodup_map hnodup hv hu' (hkey.trans (htracked.ownAnswers g hg u hu hid))
    rw [RequestBody.fc_of_operation hop]
    exact ResponseBody.fc_of_answer (hbody.trans hcontent)

variable [DecidableEq ι]

/-- Bytes arrive at a client: if a response is complete, it is the answer to the request
under way. -/
theorem Explained.lone_downstream (h : Explained id t heap s order) (hlone : (s.session i).Lone)
    {k : Nat} (hcut : ((s.session i).link.down.deliver k).Uncut ResponseCut) :
    ((s.next (.ofTables id t) (.downstream i k)).session i).Lone := by
  obtain ⟨sent, answers, htracked⟩ := h.tracked i
  obtain ⟨done, rest, responses, rfl, hresponses, hreceived, hself⟩ :=
    htracked.exists_received_session id t hcut
  have hupdates := updates_handleAll (s.session i).handler responses
  have hids := htracked.ids_received hreceived
  rw [hself]
  cases done with
  | nil =>
    obtain rfl : responses = [] := List.map_eq_nil_iff.mp hresponses
    rw [List.map_nil, List.append_nil] at hids
    exact lone_absorb _ [] (List.append_nil _).symm (h.encoded i) (fun u hu => nomatch hu)
      (hids.symm.trans hlone.ids) (List.append_nil _).symm hlone.kept fun u err hmem =>
        nomatch hmem
  | cons g done =>
    -- there is one frame on its way, for the request under way
    have hboth := hids.symm.trans hlone.ids
    cases hcurrent : (s.session i).handler._currentRequest with
    | none =>
      rw [hcurrent] at hboth
      have hlen := hboth.length_eq
      simp at hlen
    | some u =>
      rw [hcurrent] at hboth
      rcases List.append_eq_singleton_iff.mp
        (List.perm_singleton.mp hboth) with ⟨hnil, hcons⟩ | ⟨-, hcons⟩
      · obtain ⟨htake, -⟩ := List.cons.inj hcons
        obtain rfl : done = [] := by
          have hrest := (List.cons.inj hcons).2
          exact List.map_eq_nil_iff.mp hrest
        obtain ⟨r, rfl, heq⟩ := List.map_eq_singleton_iff.mp hresponses
        have hmem : u ∈ (s.session i).handler.pending := by
          rw [MBClientRequestHandler.pending, hcurrent]
          exact List.mem_cons_self ..
        obtain ⟨hid, hprotocol, hexception, hfc⟩ :=
          h.response_matches htracked (List.mem_cons_self ..) hmem htake heq
        obtain ⟨added, hlog, hflushed, hkept⟩ :=
          exists_handle_match (h.inv i) htracked.encodes hcurrent hid hprotocol hexception hfc
        obtain ⟨-, added', hlog', -, hwrites⟩ := hupdates.advances
        obtain rfl := List.append_cancel_left (hlog.symm.trans hlog')
        refine lone_absorb [] added hlog (hupdates.encoded (h.encoded i))
          (fun u hu => htracked.exists_frame (hwrites hu)) ?_ hflushed hlone.kept hkept
        rw [hnil]
        exact .nil
      · cases hcons

/-! ## The events -/

/-- Every event keeps it. -/
theorem Explained.lone_next (h : Explained id t heap s order) (hlone : ∀ i, (s.session i).Lone)
    {e : ServiceEvent ι} (hallowed : s.Allowed (.load t heap) e) (hcalm : s.Calm e) (j : ι) :
    ((s.next (.ofTables id t) e).session j).Lone := by
  by_cases hj : j = e.client
  · subst hj
    cases e with
    | call i unsafeBytes k =>
      show ((s.absorb i _).session i).Lone
      rw [Service.session_absorb]
      exact h.lone_call (hlone i) unsafeBytes hallowed hcalm
    | connect i =>
      show (((s.absorb i _).setSession i ((s.absorb i _).session i).reconnect).session i).Lone
      rw [Service.session_setSession, Service.session_absorb]
      exact h.lone_connect (hlone i) hcalm
    | event i e => exact hcalm.elim
    | upstream i n k =>
      obtain ⟨hids, hhandler⟩ := h.ids_served hallowed.2
      constructor
      · show ((s.next _ (.upstream i n k)).session i).ids.Perm
          (((s.next _ _).session i).handler._currentRequest.toList.map _)
        rw [hhandler]
        exact hids.trans (hlone i).ids
      · show ∀ u err, .rejected u err ∉ ((s.next _ (.upstream i n k)).session i).handler.log
        rw [hhandler]
        exact (hlone i).kept
    | downstream i k => exact h.lone_downstream (hlone i) hallowed
  · rw [Service.next_session_of_ne _ s hj]
    exact hlone j

theorem lone_of_reachable (h : Reachable (calmSystem ι id t heap) s) (i : ι) :
    (s.session i).Lone := by
  induction h generalizing i with
  | init h =>
    obtain ⟨hhandler, -, hconnection, -⟩ := (h.1 i).1
    constructor
    · rw [Session.ids, Session.link, hconnection, hhandler]
      exact .nil
    · rintro u err hmem
      rw [hhandler] at hmem
      cases hmem
  | step e h hallowed ih =>
    obtain ⟨order, hexplained⟩ := exists_explained h.of_restrict
    exact hexplained.lone_next ih hallowed.1 hallowed.2 i

/-! ## What is resolved has returned -/

/-- The call of every promise that was resolved has returned, with what the response says. -/
def Service.Recorded (s : Service ι) : Prop :=
  ∀ i u response, .resolved u response ∈ (s.session i).handler.log →
    .ret (i, u.key) response.body.content ∈ s.history

/-- A client does something. -/
theorem Service.Recorded.absorb (h : s.Recorded) {c : MBClient .tcp}
    {added : List (Action ModbusTCPRequest ModbusTCPResponse)}
    (hlog : c._requestHandler.log = (s.session i).handler.log ++ added) :
    (s.absorb i c).Recorded := by
  rintro j u response hmem
  show _ ∈ s.history ++ ((s.session i).added c).filterMap (Action.mark i)
  by_cases hj : j = i
  · subst hj
    rw [Service.session_absorb] at hmem
    have hmem' : .resolved u response ∈ (s.session j).handler.log ++ added := hlog ▸ hmem
    have hadded : (s.session j).added c = added := by
      rw [Session.added, hlog, List.drop_left]
    rw [hadded]
    rcases List.mem_append.mp hmem' with hmem | hmem
    · exact List.mem_append_left _ (h j u response hmem)
    · exact List.mem_append_right _ (List.mem_filterMap.mpr ⟨_, hmem, rfl⟩)
  · have hsame : (s.absorb i c).session j = s.session j := Function.update_of_ne hj ..
    rw [hsame] at hmem
    exact List.mem_append_left _ (h j u response hmem)

/-- Its connections change, and no more. -/
theorem Service.Recorded.setSession (h : s.Recorded) {session : Session}
    (hlog : session.handler.log = (s.session i).handler.log) :
    (s.setSession i session).Recorded := by
  rintro j u response hmem
  refine h j u response ?_
  by_cases hj : j = i
  · subst hj
    rw [Service.session_setSession, hlog] at hmem
    exact hmem
  · have hsame : (s.setSession i session).session j = s.session j := Function.update_of_ne hj ..
    rw [hsame] at hmem
    exact hmem

/-- Every event keeps it. -/
theorem Explained.recorded_next (h : Explained id t heap s order) (hrecorded : s.Recorded)
    {e : ServiceEvent ι} (hallowed : s.Allowed (.load t heap) e) :
    (s.next (.ofTables id t) e).Recorded := by
  cases e with
  | call i unsafeBytes k =>
    show (s.absorb i ((s.session i).client.withHandler
      (k.apply .tcp (s.session i).client.unitId unsafeBytes (s.session i).handler).1)).Recorded
    cases hbody : k.body unsafeBytes with
    | error e =>
      rw [Call.apply_error (w := .tcp) (s.session i).client.unitId (s.session i).handler hbody]
      exact hrecorded.absorb (List.append_nil _).symm
    | ok requestBody =>
      obtain ⟨x, -, -, -, happly, -⟩ := h.exists_registered hallowed hbody
      obtain ⟨-, added, hlog, -⟩ := advances_flush tcpMessages ((s.session i).pushed x)
      rw [happly]
      exact hrecorded.absorb (hlog.trans (List.append_assoc ..))
  | connect i =>
    have hlog : (s.session i).handler._onConnect.log =
      (s.session i).handler.log ++ [.state .online] := rfl
    have habsorb :
        (s.absorb i ((s.session i).client.withHandler
          (s.session i).handler._onConnect)).Recorded :=
      hrecorded.absorb hlog
    exact habsorb.setSession rfl
  | event i e =>
    obtain ⟨hevent, he, hhandle⟩ := hallowed
    obtain ⟨c, hadvances, -, hupdates⟩ :=
      updates_event (c := (s.session i).handler) (s.session i).client.unitId he
    obtain ⟨-, added, hlog, -⟩ := hadvances.trans hupdates.advances
    exact hrecorded.absorb hlog
  | upstream i n k => exact hrecorded.setSession rfl
  | downstream i k =>
    obtain ⟨sent, answers, htracked⟩ := h.tracked i
    obtain ⟨done, rest, responses, -, -, -, hnext⟩ := htracked.exists_received id t hallowed
    obtain ⟨added, hlog, -⟩ := log_handleAll (s.session i).handler responses
    have harrived : (s.setSession i ((s.session i).received k)).Recorded :=
      hrecorded.setSession rfl
    have hlog' : ((s.session i).handler.handleAll responses).log =
        ((s.setSession i ((s.session i).received k)).session i).handler.log ++ added := by
      rw [Service.session_setSession]
      exact hlog
    rw [hnext]
    exact harrived.absorb hlog'

theorem recorded_of_reachable (h : Reachable (serviceSystem ι id t heap) s) : s.Recorded := by
  induction h with
  | init h =>
    rintro i u response hmem
    rw [(h.1 i).1.handler] at hmem
    cases hmem
  | step e h hallowed ih =>
    obtain ⟨order, hexplained⟩ := exists_explained h
    exact hexplained.recorded_next ih hallowed

/-! ## Calls -/

/-- What is settled has returned. -/
theorem returned_of_settled (h : Reachable (calmSystem ι id t heap) s)
    {u : UserRequest ModbusTCPRequest} (hsettled : Settled (s.session i).handler.log u) :
    ∃ o, .ret (i, u.key) o ∈ s.history := by
  obtain ⟨a, ha, hau⟩ := List.mem_filterMap.mp hsettled
  cases a with
  | resolved v response =>
    obtain rfl := Option.some.inj hau
    exact ⟨_, recorded_of_reachable h.of_restrict i v response ha⟩
  | rejected v err => exact absurd ha ((lone_of_reachable h i).kept v err)
  | _ => cases hau

/-- When nothing is on its way for a client, every call it has made has returned. -/
theorem returned_of_quiet (h : Reachable (calmSystem ι id t heap) s)
    (hquiet : (s.session i).Quiet) {k : Nat} {op : Operation}
    (hcall : .call (i, k) op ∈ s.history) : ∃ o, .ret (i, k) o ∈ s.history := by
  have hsteady := steady_of_calm h
  obtain ⟨u, rfl, hsettled⟩ :=
    settled_of_idle hsteady (pending_of_quiet hsteady hquiet) _ _ hcall
  exact returned_of_settled h hsettled

/-- Deliveries are calm. -/
theorem runs_of_delivers {events : List (ServiceEvent ι)} (hevents : ∀ e ∈ events, e.Delivers i)
    (h : (steadySystem ι id t heap).Runs s events) :
    (calmSystem ι id t heap).Runs s events := by
  rintro before e after rfl
  refine ⟨(h before e after rfl).1, ?_⟩
  rcases hevents e (List.mem_append_right _ (List.mem_cons_self ..)) with ⟨n, k, rfl⟩ | ⟨k, rfl⟩
  · trivial
  · trivial

end NodeModbus

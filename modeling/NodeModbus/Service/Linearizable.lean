import NodeModbus.Service.Delivery

/-!
# The service is linearizable

Whatever the clients of a server do, and however the bytes arrive, there is one order
of the operations that were served in which the memory behind the tables gives every
answer a user got. An operation that returned before another one was called comes
first.

- `Explained`: an order explains what has happened to the service.
- `Explained.update`: what one client does leaves the others as they are.
- `Explained.call`, `.connect`, `.event`, `.upstream`, `.downstream`: what every event
  keeps.
- `linearizable`: this, for every reachable state.
-/

namespace NodeModbus

open Buffer Framing Linearization MBClientRequestHandler Transition

variable {ι : Type}

/-! ## The invariant -/

/-- The order explains what the users have seen and what the tables hold, and every request
and every answer is accounted for. -/
structure Explained (id : Option Int) (t : Tables) (heap : Heap) (s : Service ι)
    (order : Order ι) : Prop where
  linearizes : Linearizes Memory.observed (.load t heap) s.history order
  tables : s.heap = (Memory.machine.run (.load t heap) (order.map Prod.snd)).1.store t heap
  inRange : ∀ p ∈ order, p.2.InRange (.load t heap)
  inv : ∀ i, Inv (s.session i).handler
  unitId : ∀ i, IsUInt8 (s.session i).client.unitId
  addressed : ∀ i, (ModbusServer.ofTables id t).ignores (s.session i).client.unitId = false
  tracked : ∀ i, ∃ sent answers,
    Tracked (.load t heap) i s.history order (s.session i) sent answers

variable {id : Option Int} {t : Tables} {heap : Heap} {s : Service ι} {order : Order ι} {i : ι}

theorem Explained.encoded (h : Explained id t heap s order) (i : ι) :
    Encoded tcpMessages (s.session i).handler := by
  obtain ⟨sent, answers, htracked⟩ := h.tracked i
  exact htracked.encoded

/-- Without a registration, the user only notices promises that are resolved. -/
theorem exists_resolved {added : List (Action ModbusTCPRequest ModbusTCPResponse)}
    (h : registrations added = []) {mark : Mark (ι × Nat) Operation ResponseContent}
    (hmark : mark ∈ added.filterMap (Action.mark i)) :
    ∃ u r, .resolved u r ∈ added ∧ mark = .ret (i, u.key) r.body.content := by
  obtain ⟨a, ha, hmark⟩ := List.mem_filterMap.mp hmark
  cases a with
  | registered u =>
    have hu : u ∈ registrations added := List.mem_filterMap.mpr ⟨_, ha, rfl⟩
    rw [h] at hu
    cases hu
  | resolved u r => exact ⟨u, r, ha, (Option.some.inj hmark).symm⟩
  | _ => cases hmark

/-- So there are no calls. -/
theorem call_not_mem {added : List (Action ModbusTCPRequest ModbusTCPResponse)}
    (h : registrations added = []) (j : ι) (k : Nat) (op : Operation) :
    .call (j, k) op ∉ added.filterMap (Action.mark i) := by
  intro hmem
  obtain ⟨u, r, -, hmark⟩ := exists_resolved h hmem
  cases hmark

/-- The user notices nothing of what is neither a registration nor a promise that is
resolved. -/
theorem marks_eq_nil {added : List (Action ModbusTCPRequest ModbusTCPResponse)}
    (h : ∀ a ∈ added, Silent a) : added.filterMap (Action.mark i) = [] := by
  refine List.filterMap_eq_nil_iff.mpr ?_
  intro a ha
  have ha' := h a ha
  cases a with
  | registered u => exact ha'.elim
  | resolved u r => exact ha'.elim
  | _ => rfl

/-- Every response says what an answer says that was on its way. -/
theorem exists_answer {done : List (Nat × TcpResponseFrame)}
    {responses : List ModbusTCPResponse}
    (h : responses.map ModbusTCPResponse.content = done.map fun g => g.2.response.content)
    {r : ModbusTCPResponse} (hr : r ∈ responses) :
    ∃ g ∈ done, r.content = g.2.response.content := by
  have hmem : r.content ∈ done.map fun g => g.2.response.content := by
    rw [← h]
    exact List.mem_map_of_mem hr
  obtain ⟨g, hg, heq⟩ := List.mem_map.mp hmem
  exact ⟨g, hg, heq.symm⟩

/-- What is registered next has not been called. -/
theorem Tracked.fresh {m : Memory} {history : History ι} {session : Session}
    {sent : Nat → List Flight} {answers : List (Nat × TcpResponseFrame)}
    (h : Tracked m i history order session sent answers) (op : Operation) :
    .call (i, session.handler.registered) op ∉ history := by
  intro hmem
  obtain ⟨u, hu, hkey, -⟩ := h.called _ _ hmem
  obtain ⟨finished, hfinished⟩ := h.accounted
  have hrange : u.key ∈ List.range session.handler.registered := by
    rw [← hfinished.keys]
    exact List.mem_map_of_mem hu
  rw [hkey] at hrange
  exact absurd (List.mem_range.mp hrange) (Nat.lt_irrefl _)

variable [DecidableEq ι]

/-- One client does something: what the others have under way stays as it is. -/
theorem Explained.update (h : Explained id t heap s order) (i : ι) (session : Session)
    (marks : History ι) (next : Order ι) (heap' : Heap)
    (hmarks : ∀ j, j ≠ i → ∀ k op, .call (j, k) op ∉ marks)
    (hnext : ∀ j, j ≠ i → ∀ k, (j, k) ∉ next.map Prod.fst)
    (hrange : ∀ p ∈ next, p.2.InRange (.load t heap))
    (hlinearizes : Linearizes Memory.observed (.load t heap) (s.history ++ marks)
      (order ++ next))
    (hheap : heap' =
      (Memory.machine.run (.load t heap) ((order ++ next).map Prod.snd)).1.store t heap)
    (hinv : Inv session.handler) (hunitId : session.client.unitId = (s.session i).client.unitId)
    (htracked : ∃ sent answers, Tracked (.load t heap) i (s.history ++ marks)
      (order ++ next) session sent answers) :
    Explained id t heap ⟨Function.update s.session i session, heap', s.history ++ marks⟩
      (order ++ next) := by
  -- everything that is said of a client holds of the one that has changed, and of the others
  have hsession {P : ι → Session → Prop} (hi : P i session)
    (hothers : ∀ j, j ≠ i → P j (s.session j)) (j : ι) :
      P j (Function.update s.session i session j) := by
    by_cases hj : j = i
    · subst hj
      rw [Function.update_self]
      exact hi
    · rw [Function.update_of_ne hj]
      exact hothers j hj
  refine ⟨hlinearizes, hheap, ?_, ?_, ?_, ?_, ?_⟩
  · intro p hp
    exact (List.mem_append.mp hp).elim (h.inRange p) (hrange p)
  · exact hsession (P := fun _ s => Inv s.handler) hinv fun j _ => h.inv j
  · exact hsession (P := fun _ s => IsUInt8 s.client.unitId) (hunitId.symm ▸ h.unitId i)
      fun j _ => h.unitId j
  · exact hsession (P := fun _ s =>
      (ModbusServer.ofTables id t).ignores s.client.unitId = false)
      (hunitId.symm ▸ h.addressed i) fun j _ => h.addressed j
  · refine hsession (P := fun j s' => ∃ sent answers,
      Tracked (.load t heap) j (s.history ++ marks) (order ++ next) s' sent answers) htracked ?_
    intro j hj
    obtain ⟨sent, answers, htracked⟩ := h.tracked j
    exact ⟨sent, answers, htracked.frame (hmarks j hj) (hnext j hj)⟩

/-- One client does something without the server. -/
theorem Explained.update_client (h : Explained id t heap s order) (i : ι) (session : Session)
    (marks : History ι) (hmarks : ∀ j, j ≠ i → ∀ k op, .call (j, k) op ∉ marks)
    (hlinearizes : Linearizes Memory.observed (.load t heap) (s.history ++ marks) order)
    (hinv : Inv session.handler) (hunitId : session.client.unitId = (s.session i).client.unitId)
    (htracked : ∃ sent answers,
      Tracked (.load t heap) i (s.history ++ marks) order session sent answers) :
    Explained id t heap ⟨Function.update s.session i session, s.heap, s.history ++ marks⟩
      order := by
  have hnil : order ++ [] = order := List.append_nil order
  have hupdate := h.update i session marks [] s.heap hmarks
    (fun _ _ _ hmem => nomatch hmem) (fun _ hmem => nomatch hmem)
  rw [hnil] at hupdate
  exact hupdate hlinearizes h.tables hinv hunitId htracked

/-! ## What a client does -/

/-- A client works off its pending requests. What its user gets are answers of the memory. -/
theorem Explained.absorb (h : Explained id t heap s order) {c : ModbusTCPClientRequestHandler}
    (hinv : Inv c) (hencoded : Encoded tcpMessages c)
    (hadvances : Advances (s.session i).handler c)
    (hreturns : ∀ added, c.log = (s.session i).handler.log ++ added →
      ∀ m ∈ added.filterMap (Action.mark i), ∃ k o, m = .ret k o ∧
      Answered Memory.observed (.load t heap) order k o) :
    Explained id t heap (s.absorb i ((s.session i).client.withHandler c)) order := by
  obtain ⟨hpending, added, hlog, hregistrations, hwrites⟩ := hadvances
  obtain ⟨sent, answers, htracked⟩ := h.tracked i
  have hadded := (s.session i).added_eq hlog
  obtain ⟨sent', htracked'⟩ := htracked.absorb hinv.accounted hencoded hpending hlog
    hregistrations hwrites (added.filterMap (Action.mark i)) fun k op =>
      call_not_mem hregistrations i k op
  have hlinearizes := h.linearizes.rets (hreturns added hlog)
  have hexplained := h.update_client i
    ((s.session i).absorb ((s.session i).client.withHandler c)) _
    (fun j _ k op => call_not_mem hregistrations j k op) hlinearizes hinv rfl
    ⟨sent', answers, htracked'⟩
  rw [← hadded] at hexplained
  exact hexplained

/-- Without a promise that is resolved there is nothing to explain. -/
theorem Explained.absorb_silent (h : Explained id t heap s order)
    {c : ModbusTCPClientRequestHandler} (hinv : Inv c) (hencoded : Encoded tcpMessages c)
    (hadvances : Advances (s.session i).handler c)
    (hsilent : Extends Silent (s.session i).handler c) :
    Explained id t heap (s.absorb i ((s.session i).client.withHandler c)) order := by
  refine h.absorb hinv hencoded hadvances ?_
  intro added hlog m hm
  obtain ⟨⟨added', hlog', hadded⟩, -, -⟩ := hsilent
  obtain rfl := List.append_cancel_left (hlog.symm.trans hlog')
  rw [marks_eq_nil hadded] at hm
  cases hm

/-- The socket of a client connects. -/
theorem Explained.connect (h : Explained id t heap s order)
    (hresponses : (s.session i).responses = .new) :
    Explained id t heap (s.next (.ofTables id t) (.connect i)) order := by
  have hadvances : Advances (s.session i).handler (s.session i).handler._onConnect :=
    advances_concat (a := .state .online) (List.Subset.refl _) rfl rfl fun u hu => nomatch hu
  have habsorb := h.absorb_silent (h.inv i).onConnect
    (Encoded.concat (a := .state .online) (h.encoded i) rfl rfl)
    hadvances (extends_concat (a := .state .online) rfl trivial rfl rfl)
  obtain ⟨sent, answers, htracked⟩ := habsorb.tracked i
  generalize hs :
    s.absorb i ((s.session i).client.withHandler (s.session i).handler._onConnect) = s'
    at habsorb htracked
  have hnew : (s'.session i).responses = .new := by
    rw [← hs]
    show (Function.update s.session i _ i).responses = .new
    rw [Function.update_self]
    exact hresponses
  have hexplained := habsorb.update_client i (s'.session i).reconnect []
    (fun _ _ _ _ hmem => nomatch hmem) (by rw [List.append_nil]; exact habsorb.linearizes)
    (habsorb.inv i) rfl ⟨sent, [], by rw [List.append_nil]; exact htracked.reconnect hnew⟩
  rw [List.append_nil] at hexplained
  subst hs
  exact hexplained

/-- Something else happens to a client. -/
theorem Explained.event (h : Explained id t heap s order) {e : Event .tcp}
    (hallowed : Event.Allowed (w := .tcp) (s.session i).handler e)
    (he : e.Internal ∨ e = .close) (hhandle : ∀ response, e ≠ .handle response) :
    Explained id t heap (s.next (.ofTables id t) (.event i e)) order := by
  obtain ⟨c, hadvances, hencoded, hupdates⟩ :=
    updates_event (c := (s.session i).handler) (s.session i).client.unitId he
  have hsilent : e.IsSilent := by
    cases e with
    | register requestBody => rcases he with he | he <;> cases he
    | handle response => exact absurd rfl (hhandle response)
    | _ => trivial
  exact h.absorb_silent (inv_apply (w := .tcp) _ (h.inv i) e hallowed)
    (hupdates.encoded (hencoded (h.encoded i))) (hadvances.trans hupdates.advances)
    (extends_apply _ _ hsilent)

/-! ## Calls -/

/-- What a client has done is on its way. -/
theorem Session.absorb_of_log {s : Session} {c : ModbusTCPClientRequestHandler}
    {added : List (Action ModbusTCPRequest ModbusTCPResponse)}
    (hlog : c.log = s.handler.log ++ added) :
    s.absorb (s.client.withHandler c) =
      { s.modify s.current fun link =>
          { link with up := link.up.send (added.filterMap Action.payload) } with
        client := s.client.withHandler c } := by
  rw [Session.absorb, s.added_eq hlog]

/-- What is written in two steps is on its way as if it had been written in one. -/
theorem Session.absorb_absorb {s : Session} {c c' : ModbusTCPClientRequestHandler}
    {added added' : List (Action ModbusTCPRequest ModbusTCPResponse)}
    (hlog : c.log = s.handler.log ++ added) (hlog' : c'.log = c.log ++ added') :
    (s.absorb (s.client.withHandler c)).absorb (s.client.withHandler c') =
      s.absorb (s.client.withHandler c') := by
  have hsecond := Session.absorb_of_log (s := s.absorb (s.client.withHandler c)) hlog'
  rw [Session.absorb_of_log (hlog'.trans (hlog ▸ List.append_assoc ..))]
  refine hsecond.trans ?_
  rw [Session.absorb_of_log hlog]
  simp only [Session.modify, Function.update_self, Function.update_idem, List.filterMap_append,
    Wire.send_append]
  rfl

/-- The transaction ids are 16-bit numbers. -/
theorem isUInt16_mod (n : Nat) : IsUInt16 ((n % 0xFFFF : Nat) : Int) := by
  have hlt : n % 0xFFFF < 0xFFFF := Nat.mod_lt _ (by decide)
  unfold IsUInt16
  omega

/-- The request that is made of a body that is sent as it is. -/
theorem exists_flight (handler : ModbusTCPClientRequestHandler) {unitId : Int}
    (hunit : IsUInt8 unitId) {requestBody : RequestBody} (hsendable : requestBody.Sendable)
    {p : Buffer} (hp : requestBody.createPayload = .ok p) {op : Operation}
    (hop : requestBody.content.operation = some op) :
    ∃ x : Flight, x.key = handler.registered ∧ x.op = op ∧
      x.frame.request = Transport.request .tcp unitId handler requestBody := by
  have hframed := RequestBody.framed_of_sendable hsendable hp
  have hlength := hframed.length_le hsendable
  have hcount := hframed.byteCount
  obtain ⟨payload, hpayload⟩ := ModbusTCPRequest.exists_createPayload
    (r := Transport.request .tcp unitId handler requestBody) hp (isUInt16_mod _) hunit (by
      show 0 ≤ requestBody.byteCount ∧ requestBody.byteCount < 0xFFFF
      omega)
  exact ⟨⟨handler.registered, ⟨_, payload, hsendable, hpayload⟩, op, hop⟩, rfl, rfl, rfl⟩

omit [DecidableEq ι] in
/-- A call whose arguments are accepted registers a request, and flushes. -/
theorem Explained.exists_registered (h : Explained id t heap s order)
    {unsafeBytes : Nat → UInt8} {k : Call}
    (hallowed : s.Allowed (.load t heap) (.call i unsafeBytes k)) {requestBody : RequestBody}
    (hbody : k.body unsafeBytes = .ok requestBody) :
    ∃ x : Flight, x.key = (s.session i).handler.registered ∧ x.op.InRange (.load t heap) ∧
      x.frame.request = Transport.request .tcp (s.session i).client.unitId
        (s.session i).handler requestBody ∧
      (k.apply .tcp (s.session i).client.unitId unsafeBytes (s.session i).handler).1 =
        (((s.session i).pushed x)._flush tcpMessages).1 ∧
      Inv (((s.session i).pushed x)._flush tcpMessages).1 := by
  obtain ⟨hsendable, ⟨p, hp⟩, ⟨op, hop, hrange⟩, -⟩ := hallowed requestBody hbody
  obtain ⟨x, hkey, rfl, hrequest⟩ :=
    exists_flight (s.session i).handler (h.unitId i) hsendable hp hop
  have hpush : (Transport.advance .tcp (s.session i).handler).push
      (Transport.request .tcp (s.session i).client.unitId (s.session i).handler requestBody) =
      (s.session i).pushed x := by
    rw [← hrequest]
    exact Session.push_eq hkey
  refine ⟨x, hkey, hrange, hrequest, ?_, ?_⟩
  · rw [← hpush]
    exact Call.apply_ok (w := .tcp) hbody
  · rw [← hpush]
    exact inv_register .tcp (s.session i).client.unitId (h.inv i) requestBody

/-- A user calls a request method. -/
theorem Explained.call (h : Explained id t heap s order) (unsafeBytes : Nat → UInt8) {k : Call}
    (hallowed : s.Allowed (.load t heap) (.call i unsafeBytes k)) :
    Explained id t heap (s.next (.ofTables id t) (.call i unsafeBytes k)) order := by
  obtain ⟨sent, answers, htracked⟩ := h.tracked i
  cases hbody : k.body unsafeBytes with
  | error e =>
    have happly :=
      Call.apply_error (w := .tcp) (s.session i).client.unitId (s.session i).handler hbody
    have habsorb := h.absorb_silent (h.inv i) (h.encoded i) (.refl _) (.refl _)
    rw [← happly] at habsorb
    exact habsorb
  | ok requestBody =>
    obtain ⟨-, -, -, hfree⟩ := hallowed requestBody hbody
    obtain ⟨x, hkey, hrange, hrequest, happly, hinv⟩ := h.exists_registered hallowed hbody
    -- the handler that has registered the request, and flushes
    have hencoded := htracked.encoded_flush x
    obtain ⟨hpending, added, hlog, hregistrations, hwrites⟩ :=
      advances_flush tcpMessages ((s.session i).pushed x)
    obtain ⟨⟨added', hlog', hsilent⟩, -, -⟩ :=
      extends_flush tcpMessages ((s.session i).pushed x)
    obtain rfl := List.append_cancel_left (hlog.symm.trans hlog')
    generalize (((s.session i).pushed x)._flush tcpMessages).1 = c
      at happly hinv hencoded hpending hlog hlog'
    -- the request is registered, and then worked off
    have hid : x.frame.request.id =
        (((s.session i).handler._requestId + 1) % 0xFFFF : Nat) := by
      rw [hrequest]
      rfl
    have hunit : x.frame.request.unitId = (s.session i).client.unitId := by
      rw [hrequest]
      rfl
    have hpushed := htracked.push hfree hkey hid hunit hrange
    rw [Session.push_eq hkey] at hpushed
    obtain ⟨sent', hdone⟩ := hpushed.absorb hinv.accounted hencoded hpending hlog
      hregistrations hwrites [] fun _ _ hmem => nomatch hmem
    rw [List.append_nil] at hdone
    have hregistered : ((s.session i).pushed x).log =
      (s.session i).handler.log ++ [.registered x.request] := rfl
    have hsession :
        ((s.session i).absorb
          ((s.session i).client.withHandler ((s.session i).pushed x))).absorb
        ((s.session i).client.withHandler c) =
          (s.session i).absorb ((s.session i).client.withHandler c) :=
      Session.absorb_absorb hregistered hlog
    have hmarks : ((s.session i).added ((s.session i).client.withHandler c)).filterMap
      (Action.mark i) =
        [.call (i, x.key) x.op] := by
      have hboth : c.log = (s.session i).handler.log ++ (.registered x.request :: added) :=
        hlog.trans (List.append_assoc ..)
      have hcall : Action.mark i (.registered x.request) = some (.call (i, x.key) x.op) := by
        show Option.map _ x.frame.request.body.content.operation = _
        rw [x.asks]
        rfl
      rw [Session.added_eq hboth, List.filterMap_cons_some hcall, marks_eq_nil hsilent]
    have hfresh : ∀ op, .call (i, x.key) op ∉ s.history := fun op => hkey ▸ htracked.fresh op
    have hexplained := h.update_client i
      ((s.session i).absorb ((s.session i).client.withHandler c)) _
      (fun j hj _ _ hmem => hj (Prod.mk.inj (Mark.call.inj (List.mem_singleton.mp hmem)).1).1)
      (h.linearizes.call hfresh x.op) hinv rfl ⟨sent', answers, hsession ▸ hdone⟩
    rw [← hmarks] at hexplained
    show Explained id t heap (s.absorb i ((s.session i).client.withHandler
      (k.apply .tcp (s.session i).client.unitId unsafeBytes (s.session i).handler).1)) order
    rw [happly]
    exact hexplained

/-! ## What arrives -/

/-- Bytes arrive at the server: what it serves comes next in the order. -/
theorem Explained.upstream (h : Explained id t heap s order) {n k : Nat}
    (hn : n ≤ (s.session i).current)
    (hcut : (((s.session i).connection n).up.deliver k).Uncut RequestCut) :
    ∃ next, Explained id t heap (s.next (.ofTables id t) (.upstream i n k))
      (order ++ next) := by
  obtain ⟨sent, answers, htracked⟩ := h.tracked i
  obtain ⟨flights, session, sent', answers', hproper, hnodup, hserved, hclient, htracked'⟩ :=
    htracked.exists_served (h.addressed i) h.inRange hn hcut
  have hnodup' : ((Flight.entries i flights).map Prod.fst).Nodup := by
    rw [Flight.map_fst_entries]
    have hmap := hnodup.map (f := fun key => (i, key)) fun a b hab => (Prod.mk.inj hab).2
    rw [List.map_map] at hmap
    exact hmap
  have hentries : ∀ p ∈ Flight.entries i flights, ∃ x ∈ flights, p = ((i, x.key), x.op) := by
    intro p hp
    obtain ⟨x, hx, hp⟩ := List.mem_map.mp hp
    exact ⟨x, hx, hp.symm⟩
  refine ⟨Flight.entries i flights, ?_⟩
  have hnil : s.history ++ [] = s.history := List.append_nil _
  have hexplained :=
    h.update i session [] (Flight.entries i flights) _ (fun _ _ _ _ hmem => nomatch hmem) (by
      intro j hj key hmem
      rw [Flight.map_fst_entries] at hmem
      obtain ⟨x, -, hx⟩ := List.mem_map.mp hmem
      exact hj (Prod.mk.inj hx).1.symm) (by
      intro p hp
      obtain ⟨x, hx, rfl⟩ := hentries p hp
      exact (hproper x hx).1.inRange) (by
      rw [hnil]
      refine h.linearizes.performs ?_ hnodup' ?_
      · intro p hp
        obtain ⟨x, hx, rfl⟩ := hentries p hp
        exact (hproper x hx).1.called
      · intro p hp
        obtain ⟨x, hx, rfl⟩ := hentries p hp
        exact (hproper x hx).2) rfl (by
      show Inv session.client._requestHandler
      rw [hclient]
      exact h.inv i) (by rw [hclient]) (by
      rw [hnil]
      exact ⟨sent', answers', htracked'⟩)
  rw [hnil] at hexplained
  have hnext : s.next (.ofTables id t) (.upstream i n k) =
      ⟨Function.update s.session i session, (Memory.machine.run (.load t heap)
        ((order ++ Flight.entries i flights).map Prod.snd)).1.store t heap, s.history⟩ := by
    show ({ s.setSession i ((s.session i).served _ s.heap n k).1 with
      heap := ((s.session i).served _ s.heap n k).2 } : Service ι) = _
    rw [h.tables, hserved]
    rfl
  rw [hnext]
  exact hexplained

/-- Bytes arrive at a client: what comes out of its response handler are answers that were
on their way, and they are handled one after another. -/
theorem Tracked.exists_received (id : Option Int) (t : Tables) {m : Memory}
    {sent : Nat → List Flight} {answers : List (Nat × TcpResponseFrame)}
    (h : Tracked m i s.history order (s.session i) sent answers) {k : Nat}
    (hcut : ((s.session i).link.down.deliver k).Uncut ResponseCut) :
    ∃ done rest responses, answers = done ++ rest ∧
      responses.map ModbusTCPResponse.content = done.map (fun g => g.2.response.content) ∧
      Tracked m i s.history order ((s.session i).received k) sent rest ∧
      s.next (.ofTables id t) (.downstream i k) =
        (⟨Function.update s.session i ((s.session i).received k), s.heap, s.history⟩ :
          Service ι).absorb i (((s.session i).received k).client.withHandler
            ((s.session i).handler.handleAll responses)) := by
  obtain ⟨done, rest, responses, rfl, hdata, hresponses, hreceived⟩ := h.receive hcut
  refine ⟨done, rest, responses, rfl, hresponses, hreceived, ?_⟩
  have hanswer : ∀ r ∈ responses, ∃ g ∈ done, r.content = g.2.response.content := fun r hr =>
    exists_answer hresponses hr
  have hgenuine : ∀ g ∈ done, Genuine m i (s.session i).client.unitId order g := fun g hg =>
    h.genuine g (List.mem_append_left _ hg)
  have hexec := exec_responses (s.session i).client.unitId
    ((s.session i).receive k).link.down.front (s.session i).handler responses h.encodes (by
      intro r hr
      obtain ⟨g, hg, heq⟩ := hanswer r hr
      have hunit : r.unitId = g.2.response.unitId := congrArg (fun p => p.2.2.2.1) heq
      exact (hunit.trans (hgenuine g hg).unitId).symm) (by
      intro r hr
      obtain ⟨g, hg, heq⟩ := hanswer r hr
      exact isException_of_content (congrArg (fun p => p.2.2.2.2) heq)
        (hgenuine g hg).isException)
  have hclient : (MBClient._onData (s.session i).client ((s.session i).link.down.next k)).1 =
      ((s.session i).received k).client.withHandler
        ((s.session i).handler.handleAll responses) := by
    have hdata' : ({ (s.session i).client with
        _responseHandler := Transport.handleData .tcp (s.session i).client._responseHandler
          ((s.session i).link.down.next k) } : MBClient .tcp) =
        MBClient.mk (w := .tcp) (s.session i).client.unitId (s.session i).handler
          ⟨((s.session i).receive k).link.down.front, responses⟩ :=
      congrArg (MBClient.mk (w := .tcp) (s.session i).client.unitId (s.session i).handler) hdata
    exact congrArg Prod.fst ((congrArg MBClient.dataLoop.exec hdata').trans hexec)
  have hsame : ((s.setSession i ((s.session i).receive k)).session i).client =
      (s.session i).client := by
    show (Function.update s.session i _ i).client = _
    rw [Function.update_self]
    rfl
  show (s.setSession i ((s.session i).receive k)).absorb i
    (MBClient._onData ((s.setSession i ((s.session i).receive k)).session i).client
      ((s.session i).link.down.next k)).1 = _
  rw [hsame, hclient]
  simp only [Service.absorb, Service.setSession, Function.update_self, Function.update_idem]
  rfl

/-- A promise that is resolved is resolved with the answer of the memory. -/
theorem Explained.downstream (h : Explained id t heap s order) {k : Nat}
    (hcut : ((s.session i).link.down.deliver k).Uncut ResponseCut) :
    Explained id t heap (s.next (.ofTables id t) (.downstream i k)) order := by
  obtain ⟨sent, answers, htracked⟩ := h.tracked i
  obtain ⟨done, rest, responses, rfl, hresponses, hreceived, hnext⟩ :=
    htracked.exists_received id t hcut
  rw [hnext]
  -- the bytes have arrived, and then the responses are handled
  have harrived := h.update_client i ((s.session i).received k) []
    (fun _ _ _ _ hmem => nomatch hmem) (by rw [List.append_nil]; exact h.linearizes)
    (h.inv i) rfl ⟨sent, rest, by
      rw [List.append_nil]
      exact hreceived⟩
  rw [List.append_nil] at harrived
  have hself :
      (⟨Function.update s.session i ((s.session i).received k), s.heap, s.history⟩ :
        Service ι).session i = (s.session i).received k :=
    Function.update_self ..
  have hupdates := updates_handleAll (s.session i).handler responses
  have habsorb := harrived.absorb (i := i) (c := (s.session i).handler.handleAll responses)
    ((h.inv i).handleAll responses) (hupdates.encoded (h.encoded i))
  rw [hself] at habsorb
  refine habsorb hupdates.advances ?_
  intro added hlog m hm
  obtain ⟨added', hlog', hresolved⟩ := log_handleAll (s.session i).handler responses
  obtain rfl := List.append_cancel_left (hlog.symm.trans hlog')
  obtain ⟨added', hlog', hregistrations, -⟩ := hupdates.advances.log
  obtain rfl := List.append_cancel_left (hlog.symm.trans hlog')
  obtain ⟨u, r, hmem, rfl⟩ := exists_resolved hregistrations hm
  -- the response has the transaction id of the request, so it is its answer
  obtain ⟨hu, hr, hid⟩ := hresolved u r hmem
  obtain ⟨g, hg, heq⟩ := exists_answer hresponses hr
  have hid' : g.2.response.id = u.request.id := (congrArg (fun p => p.1) heq).symm.trans hid
  have hkey := htracked.ownAnswers g (List.mem_append_left _ hg) u hu hid'
  have hbody : r.body.content = g.2.response.body.content := congrArg (fun p => p.2.2.2.2) heq
  refine ⟨(i, u.key), r.body.content, rfl, ?_⟩
  rw [← hkey, hbody]
  exact (htracked.genuine g (List.mem_append_left _ hg)).answered

/-! ## Runs -/

/-- At first there is nothing to explain. -/
theorem explained_init (h : (serviceSystem ι id t heap).init s) : Explained id t heap s [] := by
  obtain ⟨hsession, hheap, hhistory⟩ := h
  constructor
  case linearizes => exact hhistory ▸ .nil _ _
  case tables => exact hheap.trans (Memory.store_load t heap).symm
  case inRange => exact fun p hp => nomatch hp
  case inv =>
    intro i
    rw [(hsession i).1.handler]
    exact inv_new
  case unitId => exact fun i => (hsession i).1.unitId
  case addressed => exact fun i => (hsession i).2
  case tracked => exact fun i => ⟨_, _, hhistory ▸ (hsession i).1.tracked _ i⟩

/-- What is served in one step comes next in the order. -/
theorem Explained.next (h : Explained id t heap s order) {e : ServiceEvent ι}
    (hallowed : s.Allowed (.load t heap) e) :
    ∃ next, Explained id t heap (s.next (.ofTables id t) e) (order ++ next) := by
  have hsame {s' : Service ι} (h : Explained id t heap s' order) : ∃ next,
    Explained id t heap s' (order ++ next) :=
    ⟨[], (List.append_nil order).symm ▸ h⟩
  cases e with
  | call i unsafeBytes k => exact hsame (h.call unsafeBytes hallowed)
  | connect i => exact hsame (h.connect hallowed)
  | event i e =>
    obtain ⟨hevent, he, hhandle⟩ := hallowed
    exact hsame (h.event hevent he hhandle)
  | upstream i n k =>
    obtain ⟨hn, hcut⟩ := hallowed
    exact h.upstream hn hcut
  | downstream i k => exact hsame (h.downstream hallowed)

theorem exists_explained (h : Reachable (serviceSystem ι id t heap) s) :
    ∃ order, Explained id t heap s order := by
  induction h with
  | init h => exact ⟨[], explained_init h⟩
  | step e _ hallowed ih =>
    obtain ⟨order, h⟩ := ih
    obtain ⟨next, hnext⟩ := h.next hallowed
    exact ⟨order ++ next, hnext⟩

/-- In every state there is an order of the operations that were served in which the memory
behind the tables gives every answer the users got, and comes to what the tables hold. Who
got an answer before another user called finds its operation in front of the other one's. -/
theorem linearizable (h : Reachable (serviceSystem ι id t heap) s) :
    ∃ order : Order ι, Linearizes Memory.observed (.load t heap) s.history order ∧
      s.heap = (Memory.machine.run (.load t heap) (order.map Prod.snd)).1.store t heap := by
  obtain ⟨order, h⟩ := exists_explained h
  exact ⟨order, h.linearizes, h.tables⟩

section Example

/-- Two clients of one server. -/
def twoClients : Service Bool :=
  ⟨fun _ => ⟨⟨1, .new, ModbusTCPClientResponseHandler.new⟩, 0, fun _ => .new⟩,
    registersHeap, []⟩

/-- One of them writes a register, and the other one reads it. The request to write comes in two
pieces. -/
def writeAndRead : List (ServiceEvent Bool) :=
  [.connect false, .connect true, .call false (fun _ => 0) (.writeSingleRegister 1 7),
    .upstream false 1 5, .upstream false 1 7, .downstream false 12,
    .call true (fun _ => 0) (.readHoldingRegisters 1 1), .upstream true 1 12,
    .downstream true 11]

theorem reachable_writeAndRead :
    Reachable (serviceSystem Bool none registersOnly registersHeap)
      ((serviceSystem Bool none registersOnly registersHeap).after twoClients
        writeAndRead) := by
  have h₀ : Reachable (serviceSystem Bool none registersOnly registersHeap) twoClients :=
    .init ⟨fun i => ⟨⟨rfl, rfl, fun n => rfl, show IsUInt8 1 by decide⟩, rfl⟩, rfl, rfl⟩
  have h₁ := h₀.step (ServiceEvent.connect false)
    (show (twoClients.session false).responses = .new from rfl)
  have h₂ := h₁.step (ServiceEvent.connect true) (show Session.responses _ = .new from rfl)
  have h₃ := h₂.step (ServiceEvent.call false (fun _ => 0) (.writeSingleRegister 1 7)) (by
    rintro _ ⟨⟩
    exact ⟨trivial, ⟨_, rfl⟩, ⟨_, rfl, by decide⟩, by decide⟩)
  have h₄ := h₃.step (ServiceEvent.upstream false 1 5) (show _ ∧ _ from ⟨by decide, by decide⟩)
  have h₅ := h₄.step (ServiceEvent.upstream false 1 7) (show _ ∧ _ from ⟨by decide, by decide⟩)
  have h₆ := h₅.step (ServiceEvent.downstream false 12) (show Wire.Uncut _ _ by decide)
  have h₇ := h₆.step (ServiceEvent.call true (fun _ => 0) (.readHoldingRegisters 1 1)) (by
    rintro _ ⟨⟩
    exact ⟨trivial, ⟨_, rfl⟩, ⟨_, rfl, by decide⟩, by decide⟩)
  have h₈ := h₇.step (ServiceEvent.upstream true 1 12) (show _ ∧ _ from ⟨by decide, by decide⟩)
  exact h₈.step (ServiceEvent.downstream true 11) (show Wire.Uncut _ _ by decide)

/-- What the users see. -/
theorem history_writeAndRead :
    ((serviceSystem Bool none registersOnly registersHeap).after twoClients
      writeAndRead).history =
      [.call (false, 0) (.writeRegister 1 7), .ret (false, 0) (.writeSingleRegister 1 7),
        .call (true, 0) (.readHoldingRegisters 1 1),
        .ret (true, 0) (.readHoldingRegisters [7])] := by
  decide

theorem linearizable_writeAndRead :
    ∃ order : Order Bool,
      Linearizes Memory.observed (.load registersOnly registersHeap)
        [.call (false, 0) (.writeRegister 1 7), .ret (false, 0) (.writeSingleRegister 1 7),
          .call (true, 0) (.readHoldingRegisters 1 1),
          .ret (true, 0) (.readHoldingRegisters [7])] order ∧
      ((serviceSystem Bool none registersOnly registersHeap).after twoClients
        writeAndRead).heap =
        (Memory.machine.run (.load registersOnly registersHeap) (order.map Prod.snd)).1.store
          registersOnly registersHeap := by
  obtain ⟨order, hlinearizes, hheap⟩ := linearizable reachable_writeAndRead
  rw [history_writeAndRead] at hlinearizes
  exact ⟨order, hlinearizes, hheap⟩

end Example

end NodeModbus

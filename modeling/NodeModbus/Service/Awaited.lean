import NodeModbus.Service.Linearizable

/-!
# What a client is waiting for

A client whose request is under way has a frame with its transaction id on its way,
to the server or back, whatever timers have expired and whatever responses came late. So
when nothing is on its way, every promise is settled.

- `Session.ids`: the transaction ids of what is on its way.
- `ids_absorb`, `ids_served`, `ids_received`: how they change.
- `Service.Steady`, `steadySystem`: a socket connects only while it is closed.
- `Service.Calm`, `calmSystem`: besides, no timer expires and no socket is closed.
- `Session.Awaits`, `Explained.awaits_next`: the invariant, and that every event keeps it.
- `settled_of_quiet`: the promises, for every reachable state.
-/

namespace NodeModbus

open Buffer Framing Linearization MBClientRequestHandler Transition

variable {ι : Type}

/-! ## Transaction ids -/

/-- The transaction id of a request, in bytes. -/
def UserRequest.idBytes (u : UserRequest ModbusTCPRequest) :
    Buffer := Words.be16 u.request.id.toNat

/-- The transaction ids of the frames that are on their way, to the server or back. -/
def Session.ids (s : Session) : List Buffer :=
  s.link.up.frames.map (List.take 2) ++ s.link.down.frames.map (List.take 2)

/-- Nothing is on its way for the client. -/
def Session.Quiet (s : Session) : Prop := s.link.up.frames = [] ∧ s.link.down.frames = []

theorem Session.ids_of_quiet {s : Session} (h : s.Quiet) : s.ids = [] := by
  rw [Session.ids, h.1, h.2]
  rfl

theorem Session.link_absorb {s : Session} {c : ModbusTCPClientRequestHandler}
    {added : List (Action ModbusTCPRequest ModbusTCPResponse)}
    (hlog : c.log = s.handler.log ++ added) :
    (s.absorb (s.client.withHandler c)).link =
      { s.link with up := s.link.up.send (added.filterMap Action.payload) } := by
  rw [Session.absorb_of_log hlog]
  exact Function.update_self ..

/-- What is written has the transaction ids of the requests. -/
theorem ids_writes {added : List (Action ModbusTCPRequest ModbusTCPResponse)}
    (hencoded : ∀ u payload, .written u payload ∈ added → u.request.createPayload = .ok payload)
    (hframe : ∀ u ∈ writes added, ∃ f : TcpFrame, f.request = u.request) :
    (added.filterMap Action.payload).map (List.take 2) =
      (writes added).map UserRequest.idBytes := by
  induction added with
  | nil => rfl
  | cons a added ih =>
    have hrest := ih (fun u payload hmem => hencoded u payload (List.mem_cons_of_mem _ hmem))
      fun u hu => by
      obtain ⟨b, hb, hbu⟩ := List.mem_filterMap.mp hu
      exact hframe u (List.mem_filterMap.mpr ⟨b, List.mem_cons_of_mem _ hb, hbu⟩)
    cases a with
    | written u payload =>
      obtain ⟨f, hf⟩ := hframe u (List.mem_filterMap.mpr ⟨_, List.mem_cons_self .., rfl⟩)
      have hpayload : f.payload = payload := by
        have hu := hencoded u payload (List.mem_cons_self ..)
        rw [← hf] at hu
        exact Except.ok.inj (f.encoded.symm.trans hu)
      have htake : payload.take 2 = u.idBytes := by
        rw [← hpayload, UserRequest.idBytes, ← hf]
        exact f.take_two
      show payload.take 2 :: _ = u.idBytes :: _
      rw [htake]
      exact congrArg _ hrest
    | _ => exact hrest

/-- What a client writes is on its way. -/
theorem ids_absorb {s : Session} {c : ModbusTCPClientRequestHandler}
    {added : List (Action ModbusTCPRequest ModbusTCPResponse)}
    (hlog : c.log = s.handler.log ++ added) (hencoded : Encoded tcpMessages c)
    (hframe : ∀ u ∈ writes added, ∃ f : TcpFrame, f.request = u.request) :
    (s.absorb (s.client.withHandler c)).ids.Perm
      (s.ids ++ (writes added).map UserRequest.idBytes) := by
  have hwritten := ids_writes (fun u payload hmem => hencoded u payload (by
    rw [hlog]
    exact List.mem_append_right _ hmem)) hframe
  rw [Session.ids, Session.link_absorb hlog, ← hwritten, Session.ids]
  show ((s.link.up.frames ++ _).map _ ++ s.link.down.frames.map _).Perm _
  rw [List.map_append, List.append_assoc, List.append_assoc]
  exact List.perm_append_comm.append_left _

/-- The transaction id of a request on its way. -/
def Flight.idBytes (x : Flight) : Buffer := x.frame.payload.take 2

theorem Upstream.ids {link : Connection} {flights : List Flight} (h : Upstream link flights) :
    link.up.frames.map (List.take 2) = flights.map Flight.idBytes := by
  rw [h.frames, List.map_map]
  rfl

/-- The answers have the transaction ids of the requests. -/
theorem ids_responseFrames (flights : List Flight) (answers : List Answer)
    (h : flights.length = answers.length) :
    (List.zipWith (fun f a => Transport.responseFrame .tcp f a.pdu)
      (flights.map Flight.frame) answers).map
      (List.take 2) = flights.map Flight.idBytes := by
  induction flights generalizing answers with
  | nil => rfl
  | cons x flights ih =>
    cases answers with
    | nil => cases h
    | cons a answers =>
      have hfirst : (Transport.responseFrame .tcp x.frame a.pdu).take 2 = x.idBytes := by
        rw [Flight.idBytes, x.frame.take_two]
        rfl
      exact congrArg₂ List.cons hfirst (ih answers (Nat.succ.inj h))

section Tracked

variable {m : Memory} {i : ι} {history : History ι} {order : Order ι} {s : Session}
  {sent : Nat → List Flight} {answers : List (Nat × TcpResponseFrame)}

/-- What is pending are the requests of frames. -/
theorem Tracked.exists_frame (h : Tracked m i history order s sent answers)
    {u : UserRequest ModbusTCPRequest} (hu : u ∈ s.handler.pending) :
    ∃ f : TcpFrame, f.request = u.request := by
  obtain ⟨finished, hfinished⟩ := h.accounted
  obtain ⟨x, rfl, -⟩ :=
    h.proper u (by rw [hfinished.registrations]; exact List.mem_append_right _ hu)
  exact ⟨x.frame, rfl⟩

/-- A request of a frame may be registered. -/
theorem Tracked.exists_frame_pushed (h : Tracked m i history order s sent answers) {x : Flight}
    {u : UserRequest ModbusTCPRequest} (hu : u ∈ (s.pushed x).pending) :
    ∃ f : TcpFrame, f.request = u.request := by
  have hu' : u ∈ s.handler.pending ++ [x.request] := by
    rw [MBClientRequestHandler.pending, List.append_assoc]
    exact hu
  rcases List.mem_append.mp hu' with hu | hu
  · exact h.exists_frame hu
  · rw [List.mem_singleton.mp hu]
    exact ⟨x.frame, rfl⟩

/-- The answers that have arrived are no longer on their way. -/
theorem Tracked.ids_received {done rest : List (Nat × TcpResponseFrame)}
    (h : Tracked m i history order s sent (done ++ rest)) {k : Nat}
    (hreceived : Tracked m i history order (s.received k) sent rest) :
    s.ids.Perm ((s.received k).ids ++ done.map fun g => g.2.payload.take 2) := by
  have hdown := h.downstream.frames
  have hdown' := hreceived.downstream.frames
  have hup : (s.received k).link.up = s.link.up := by
    show (s.receive k).link.up = s.link.up
    rw [s.link_receive]
  rw [Session.ids, Session.ids, hup, hdown, hdown', List.map_map, List.map_map, List.map_append,
    List.append_assoc]
  exact List.perm_append_comm.append_left _

/-! ## The invariant -/

/-- The request under way was written, and something with its transaction id is on its way. -/
def Session.Awaits (s : Session) : Prop :=
  ∀ u, s.handler._currentRequest = some u → u ∈ writes s.handler.log ∧ u.idBytes ∈ s.ids

/-- A socket connects only while it is closed. -/
def Service.Steady (s : Service ι) (e : ServiceEvent ι) : Prop :=
  ∀ i, e = .connect i → (s.session i).handler._state = .offline

/-- The service, with sockets that connect only while they are closed. -/
def steadySystem (ι : Type) [DecidableEq ι] (id : Option Int) (t : Tables) (heap : Heap) :
    System (Service ι) (ServiceEvent ι) :=
  (serviceSystem ι id t heap).restrict Service.Steady

/-- Users call over an open socket, a socket connects only while it is closed, and bytes
arrive. -/
def Service.Calm (s : Service ι) : ServiceEvent ι → Prop
  | .call i _ _ => (s.session i).handler._state = .online
  | .connect i => (s.session i).handler._state = .offline
  | .event _ _ => False
  | _ => True

/-- The service, when nothing else happens. -/
def calmSystem (ι : Type) [DecidableEq ι] (id : Option Int) (t : Tables) (heap : Heap) :
    System (Service ι) (ServiceEvent ι) :=
  (serviceSystem ι id t heap).restrict Service.Calm

theorem Service.Calm.steady {s : Service ι} {e : ServiceEvent ι} (h : s.Calm e) :
    s.Steady e := by
  rintro i rfl
  exact h

theorem steady_of_calm [DecidableEq ι] {id : Option Int} {t : Tables} {heap : Heap}
    {s : Service ι} (h : Reachable (calmSystem ι id t heap) s) :
    Reachable (steadySystem ι id t heap) s :=
  h.restrict_mono fun _ _ => Service.Calm.steady

/-- A client works its pending requests off: the request under way is the one that was, or
it is written. -/
theorem awaits_of_advances {s : Session} {c c' : ModbusTCPClientRequestHandler}
    {finished : List (UserRequest ModbusTCPRequest)} (h : Accounted finished c)
    (added : List (Action ModbusTCPRequest ModbusTCPResponse))
    (hlog : c.log = s.handler.log ++ added) (hwrites : writes added = [])
    (hframe : ∀ u ∈ c.pending, ∃ f : TcpFrame, f.request = u.request)
    (hadvances : Advances c c') (hencoded : Encoded tcpMessages c')
    (hwritable : Writable tcpMessages c') (hinv : Inv c')
    (hcurrent : ∀ u, c._currentRequest = some u → c'._currentRequest = some u →
      u.idBytes ∈ s.ids) :
    (s.absorb (s.client.withHandler c')).Awaits := by
  obtain ⟨hpending, added', hlog', -, hwrites'⟩ := hadvances
  have hboth : c'.log = s.handler.log ++ (added ++ added') := by
    rw [hlog', hlog, List.append_assoc]
  have hwritten : writes (added ++ added') = writes added' := by
    rw [writes_append, hwrites, List.nil_append]
  have hids := ids_absorb hboth hencoded (by
    rw [hwritten]
    exact fun u hu => hframe u (hwrites' hu))
  rintro u hu
  have hu' := written_of_current hinv hwritable hu
  refine ⟨hu', hids.mem_iff.mpr (List.mem_append.mpr ?_)⟩
  rw [hwritten]
  rcases current_or_written h hlog' hpending hu hu' with hbefore | hnew
  · exact .inl (hcurrent u hbefore hu)
  · exact .inr (List.mem_map_of_mem hnew)

/-- The pending requests of a client can be written, and the one under way was. -/
theorem Tracked.writable (h : Tracked m i history order s sent answers) (hawaits : s.Awaits) :
    Writable tcpMessages s.handler := by
  obtain ⟨finished, hfinished⟩ := h.accounted
  refine ⟨h.encodes, ?_⟩
  rintro u hu
  rw [hfinished.timers] at hu
  exact (hawaits u (Option.mem_toList.mp hu)).1

/-- So can a request of a frame that is registered. -/
theorem Session.writable_pushed {s : Session} (h : Writable tcpMessages s.handler) {x : Flight}
    (hkey : x.key = s.handler.registered) : Writable tcpMessages (s.pushed x) := by
  have hadvance : Writable tcpMessages (Transport.advance .tcp s.handler) := { h with }
  rw [← Session.push_eq hkey]
  exact hadvance.push x.frame.encoded

end Tracked

/-! ## The events -/

variable {id : Option Int} {t : Tables} {heap : Heap} {s : Service ι} {order : Order ι} {i : ι}

/-- A user calls a request method. -/
theorem Explained.awaits_call (h : Explained id t heap s order) (hawaits : (s.session i).Awaits)
    (unsafeBytes : Nat → UInt8) {k : Call}
    (hallowed : s.Allowed (.load t heap) (.call i unsafeBytes k)) :
    ((s.session i).absorb ((s.session i).client.withHandler
      (k.apply .tcp (s.session i).client.unitId unsafeBytes
        (s.session i).handler).1)).Awaits := by
  obtain ⟨sent, answers, htracked⟩ := h.tracked i
  obtain ⟨finished, hfinished⟩ := htracked.accounted
  have hwritable := htracked.writable hawaits
  cases hbody : k.body unsafeBytes with
  | error e =>
    rw [Call.apply_error (w := .tcp) (s.session i).client.unitId (s.session i).handler hbody]
    exact awaits_of_advances hfinished [] (List.append_nil _).symm rfl
      (fun u hu => htracked.exists_frame hu) (.refl _) (h.encoded i) hwritable (h.inv i)
      fun u hu _ => (hawaits u hu).2
  | ok requestBody =>
    obtain ⟨x, hkey, -, -, happly, hinv⟩ := h.exists_registered hallowed hbody
    rw [happly]
    exact awaits_of_advances (Session.accounted_pushed hfinished hkey)
      [.registered x.request] rfl rfl (fun u hu => htracked.exists_frame_pushed hu)
      (advances_flush tcpMessages _) (htracked.encoded_flush x)
      (Session.writable_pushed hwritable hkey).flush.1 hinv fun u hu _ => (hawaits u hu).2

/-- Something else happens to a client. -/
theorem Explained.awaits_event (h : Explained id t heap s order)
    (hawaits : (s.session i).Awaits) {e : Event .tcp}
    (hallowed : Event.Allowed (w := .tcp) (s.session i).handler e)
    (he : e.Internal ∨ e = .close) :
    ((s.session i).absorb ((s.session i).client.withHandler
      (Event.apply (w := .tcp) (s.session i).client.unitId
        (s.session i).handler e).1)).Awaits := by
  obtain ⟨sent, answers, htracked⟩ := h.tracked i
  obtain ⟨finished, hfinished⟩ := htracked.accounted
  obtain ⟨c, hadvances, hencoded, hupdates⟩ :=
    updates_event (c := (s.session i).handler) (s.session i).client.unitId he
  have hregisters : ∀ requestBody, e ≠ .register requestBody := by
    rintro requestBody rfl
    rcases he with he | he <;> cases he
  exact awaits_of_advances hfinished [] (List.append_nil _).symm rfl
    (fun u hu => htracked.exists_frame hu) (hadvances.trans hupdates.advances)
    (hupdates.encoded (hencoded (h.encoded i)))
    (writable_next (w := .tcp) (h.unitId i) (h.inv i) (htracked.writable hawaits) (.event e)
      ⟨hallowed, hregisters⟩ fun _ _ hcall => nomatch hcall)
    (inv_apply (w := .tcp) _ (h.inv i) e hallowed) fun u hu _ => (hawaits u hu).2

/-- The socket of a client connects that was closed. -/
theorem Explained.awaits_connect (h : Explained id t heap s order)
    (hoffline : (s.session i).handler._state = .offline) :
    ((s.session i).absorb
      ((s.session i).client.withHandler
      (s.session i).handler._onConnect)).reconnect.Awaits := by
  rintro u hu
  have hcurrent : (s.session i).handler._currentRequest = some u := hu
  cases hoffline.symm.trans ((h.inv i).online_of_current hcurrent)

variable [DecidableEq ι]

@[simp] theorem Service.session_setSession (s : Service ι) (i : ι) (session : Session) :
    (s.setSession i session).session i = session :=
  Function.update_self ..

@[simp] theorem Service.session_absorb (s : Service ι) (i : ι) (c : MBClient .tcp) :
    (s.absorb i c).session i = (s.session i).absorb c :=
  Function.update_self ..

/-- Serving requests takes them off the way, and puts their answers on it. -/
theorem Explained.ids_served (h : Explained id t heap s order) {n k : Nat}
    (hcut : (((s.session i).connection n).up.deliver k).Uncut RequestCut) :
    ((s.next (.ofTables id t) (.upstream i n k)).session i).ids.Perm (s.session i).ids ∧
      ((s.next (.ofTables id t) (.upstream i n k)).session i).handler =
        (s.session i).handler := by
  obtain ⟨sent, answers, htracked⟩ := h.tracked i
  have hops : ∀ op ∈ order.map Prod.snd, op.InRange (.load t heap) := by
    rintro op hop
    obtain ⟨p, hp, rfl⟩ := List.mem_map.mp hop
    exact h.inRange p hp
  obtain ⟨done, rest, hsent, hframes, -, hserved⟩ := htracked.served_eq heap (h.addressed i)
    (Memory.whole_run (Memory.whole_load t heap) hops) (fun op hop => hop.run hops) hcut
  rw [← h.tables] at hserved
  have hnext : (s.next (.ofTables id t) (.upstream i n k)).session i =
      ((s.session i).served (.ofTables id t) s.heap n k).1 := Function.update_self ..
  rw [hnext, hserved]
  refine ⟨?_, rfl⟩
  by_cases hn : n = (s.session i).current
  · subst hn
    have hids := ids_responseFrames done.reverse
      (Memory.machine.run (Memory.machine.run (.load t heap) (order.map Prod.snd)).1
        (done.reverse.map Flight.op)).2 (by simp)
    have hup := (htracked.upstream (s.session i).current).ids
    have hrest : ((s.session i).link.up.deliver k).frames.map (List.take 2) =
        rest.map Flight.idBytes := by
      rw [show ((s.session i).link.up.deliver k).frames = _ from hframes, List.map_map]
      rfl
    rw [hsent, List.map_append] at hup
    rw [Session.ids, Session.ids, Session.link_modify]
    show (((s.session i).link.up.deliver k).frames.map _ ++
      ((s.session i).link.down.frames ++ _).map _).Perm
      (((s.session i).connection (s.session i).current).up.frames.map _ ++ _)
    rw [hup, hrest, List.map_append, hids, List.append_assoc, ← List.append_assoc]
    -- the answers come behind what was on its way back, in the reverse order
    refine List.perm_append_comm.trans (List.Perm.append ?_ (.refl _))
    exact (List.reverse_perm done).map _
  · rw [Session.ids, Session.link_modify_of_ne hn]
    exact .refl _

/-- The session after bytes have arrived at the client. -/
theorem Tracked.exists_received_session (id : Option Int) (t : Tables) {m : Memory}
    {sent : Nat → List Flight} {answers : List (Nat × TcpResponseFrame)}
    (h : Tracked m i s.history order (s.session i) sent answers) {k : Nat}
    (hcut : ((s.session i).link.down.deliver k).Uncut ResponseCut) :
    ∃ done rest responses, answers = done ++ rest ∧
      responses.map ModbusTCPResponse.content = done.map (fun g => g.2.response.content) ∧
      Tracked m i s.history order ((s.session i).received k) sent rest ∧
      (s.next (.ofTables id t) (.downstream i k)).session i =
        ((s.session i).received k).absorb
          (((s.session i).received k).client.withHandler
            ((s.session i).handler.handleAll responses)) := by
  obtain ⟨done, rest, responses, hanswers, hresponses, hreceived, hnext⟩ :=
    h.exists_received id t hcut
  refine ⟨done, rest, responses, hanswers, hresponses, hreceived, ?_⟩
  have harrived : (⟨Function.update s.session i ((s.session i).received k), s.heap, s.history⟩ :
      Service ι).session i = (s.session i).received k := Function.update_self ..
  rw [hnext, Service.session_absorb, harrived]

/-- Bytes arrive at a client: it handles what it was waiting for. -/
theorem Explained.awaits_downstream (h : Explained id t heap s order)
    (hawaits : (s.session i).Awaits) {k : Nat}
    (hcut : ((s.session i).link.down.deliver k).Uncut ResponseCut) :
    ((s.next (.ofTables id t) (.downstream i k)).session i).Awaits := by
  obtain ⟨sent, answers, htracked⟩ := h.tracked i
  obtain ⟨finished, hfinished⟩ := htracked.accounted
  obtain ⟨done, rest, responses, rfl, hresponses, hreceived, hself⟩ :=
    htracked.exists_received_session id t hcut
  have hupdates := updates_handleAll (s.session i).handler responses
  have hinv := (h.inv i).handleAll responses
  rw [hself]
  refine awaits_of_advances (c := (s.session i).handler) hfinished []
    (List.append_nil _).symm rfl (fun u hu => htracked.exists_frame hu) hupdates.advances
    (hupdates.encoded (h.encoded i))
    (hupdates.invariant Update.writable (htracked.writable hawaits)) hinv ?_
  rintro u hbefore hafter
  cases responses with
  | nil =>
    -- nothing has arrived whole
    obtain rfl : done = [] := List.map_eq_nil_iff.mp hresponses.symm
    have hids := htracked.ids_received hreceived
    rw [List.map_nil, List.append_nil] at hids
    exact hids.mem_iff.mp (hawaits u hbefore).2
  | cons response responses =>
    -- what was under way is no longer pending
    obtain ⟨g, hg, heq⟩ := exists_answer hresponses (List.mem_cons_self ..)
    have hexception := isException_of_content (congrArg (fun p => p.2.2.2.2) heq)
      (htracked.genuine g (List.mem_append_left _ hg)).isException
    have hmem : u ∈ ((s.session i).handler.handleAll (response :: responses)).pending := by
      rw [MBClientRequestHandler.pending, hafter]
      exact List.mem_cons_self ..
    exact absurd (pending_handleAll hbefore hexception hmem) (hfinished.current_not_mem hbefore)

/-- The client to which something happens. -/
def ServiceEvent.client : ServiceEvent ι → ι
  | call i _ _ => i
  | connect i => i
  | event i _ => i
  | upstream i _ _ => i
  | downstream i _ => i

/-- The other clients stay as they are. -/
theorem Service.next_session_of_ne (server : ModbusServer) (s : Service ι) {e : ServiceEvent ι}
    {j : ι} (h : j ≠ e.client) : (s.next server e).session j = s.session j := by
  have hset {s : Service ι} {i : ι} (h : j ≠ i) (session : Session) :
      (s.setSession i session).session j = s.session j := Function.update_of_ne h ..
  cases e with
  | call i unsafeBytes k => exact hset h _
  | connect i => exact (hset h _).trans (hset h _)
  | event i e => exact hset h _
  | upstream i n k => exact hset h _
  | downstream i k => exact (hset h _).trans (hset h _)

/-- Every event keeps it. -/
theorem Explained.awaits_next (h : Explained id t heap s order)
    (hawaits : ∀ i, (s.session i).Awaits) {e : ServiceEvent ι}
    (hallowed : s.Allowed (.load t heap) e) (hsteady : s.Steady e) (j : ι) :
    ((s.next (.ofTables id t) e).session j).Awaits := by
  by_cases hj : j = e.client
  · subst hj
    cases e with
    | call i unsafeBytes k =>
      show ((s.absorb i _).session i).Awaits
      rw [Service.session_absorb]
      exact h.awaits_call (hawaits i) unsafeBytes hallowed
    | connect i =>
      show (((s.absorb i _).setSession i ((s.absorb i _).session i).reconnect).session i).Awaits
      rw [Service.session_setSession, Service.session_absorb]
      exact h.awaits_connect (hsteady i rfl)
    | event i e =>
      show ((s.absorb i _).session i).Awaits
      rw [Service.session_absorb]
      exact h.awaits_event (hawaits i) hallowed.1 hallowed.2.1
    | upstream i n k =>
      obtain ⟨hids, hhandler⟩ := h.ids_served hallowed.2
      rintro u hu
      have hu' : (s.session i).handler._currentRequest = some u := by
        rw [← hhandler]
        exact hu
      obtain ⟨hwritten, hmem⟩ := hawaits i u hu'
      exact ⟨hhandler ▸ hwritten, hids.mem_iff.mpr hmem⟩
    | downstream i k => exact h.awaits_downstream (hawaits i) hallowed
  · rw [Service.next_session_of_ne _ s hj]
    exact hawaits j

/-! ## Runs -/

theorem awaits_of_reachable (h : Reachable (steadySystem ι id t heap) s) (i : ι) :
    (s.session i).Awaits := by
  induction h generalizing i with
  | init h =>
    rintro u hu
    rw [(h.1 i).1.handler] at hu
    cases hu
  | step e h hallowed ih =>
    obtain ⟨order, hexplained⟩ := exists_explained h.of_restrict
    exact hexplained.awaits_next ih hallowed.1 hallowed.2 i

/-- When nothing is pending, the promise of every call is settled. -/
theorem settled_of_idle (h : Reachable (steadySystem ι id t heap) s)
    (hidle : (s.session i).handler.pending = []) (k : Nat) (op : Operation)
    (hcall : .call (i, k) op ∈ s.history) :
    ∃ u, u.key = k ∧ Settled (s.session i).handler.log u := by
  obtain ⟨order, hexplained⟩ := exists_explained h.of_restrict
  obtain ⟨sent, answers, htracked⟩ := hexplained.tracked i
  obtain ⟨finished, hfinished⟩ := htracked.accounted
  obtain ⟨u, hu, hkey, -⟩ := htracked.called k op hcall
  refine ⟨u, hkey, hfinished.settled u ?_⟩
  rw [hfinished.registrations, hidle, List.append_nil] at hu
  exact hu

/-- Nothing is pending when nothing is on its way. -/
theorem pending_of_quiet (h : Reachable (steadySystem ι id t heap) s)
    (hquiet : (s.session i).Quiet) : (s.session i).handler.pending = [] := by
  obtain ⟨order, hexplained⟩ := exists_explained h.of_restrict
  cases hcurrent : (s.session i).handler._currentRequest with
  | none => exact pending_of_idle hcurrent ((hexplained.inv i).requests_eq_nil hcurrent)
  | some u =>
    have hmem := (awaits_of_reachable h i u hcurrent).2
    rw [Session.ids_of_quiet hquiet] at hmem
    cases hmem

/-- Whatever timers have expired and whatever came late: when nothing is on its way for a
client, on the connection it uses, the promise of every call it has made is settled. -/
theorem settled_of_quiet (h : Reachable (steadySystem ι id t heap) s)
    (hquiet : (s.session i).Quiet) (k : Nat) (op : Operation)
    (hcall : .call (i, k) op ∈ s.history) :
    ∃ u, u.key = k ∧ Settled (s.session i).handler.log u :=
  settled_of_idle h (pending_of_quiet h hquiet) k op hcall

section Example

/-- A client writes a register. -/
def oneWrite :
    List (ServiceEvent Bool) :=
  [.connect false, .call false (fun _ => 0) (.writeSingleRegister 1 7)]

/-- What is written arrives, and so does the answer. -/
def oneWriteDelivered :
    List (ServiceEvent Bool) := oneWrite ++ [.upstream false 1 12, .downstream false 12]

theorem reachable_oneWrite :
    Reachable (calmSystem Bool none registersOnly registersHeap)
      ((calmSystem Bool none registersOnly registersHeap).after twoClients oneWrite) := by
  have h₀ : Reachable (calmSystem Bool none registersOnly registersHeap) twoClients :=
    .init ⟨fun i => ⟨⟨rfl, rfl, fun n => rfl, show IsUInt8 1 by decide⟩, rfl⟩, rfl, rfl⟩
  have h₁ := h₀.step (ServiceEvent.connect false)
    ⟨show (twoClients.session false).responses = .new from rfl, show _ =
      ConnectionState.offline from rfl⟩
  refine h₁.step (ServiceEvent.call false (fun _ => 0) (.writeSingleRegister 1 7))
    ⟨?_, show _ = ConnectionState.online from rfl⟩
  rintro _ ⟨⟩
  exact ⟨trivial, ⟨_, rfl⟩, ⟨_, rfl, by decide⟩, by decide⟩

theorem reachable_oneWriteDelivered :
    Reachable (calmSystem Bool none registersOnly registersHeap)
      ((calmSystem Bool none registersOnly registersHeap).after twoClients
        oneWriteDelivered) := by
  have h := reachable_oneWrite.step (ServiceEvent.upstream false 1 12)
    ⟨show _ ∧ _ from ⟨by decide, by decide⟩, trivial⟩
  exact h.step (ServiceEvent.downstream false 12) ⟨show Wire.Uncut _ _ by decide, trivial⟩

theorem settled_of_quiet_write :
    ∃ u, u.key = 0 ∧
    Settled (((calmSystem Bool none registersOnly registersHeap).after twoClients
      oneWriteDelivered).session false).handler.log u :=
  settled_of_quiet (steady_of_calm reachable_oneWriteDelivered)
  (show _ ∧ _ from ⟨by decide, by decide⟩)
    0 (.writeRegister 1 7) (by decide)

end Example

end NodeModbus

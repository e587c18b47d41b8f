import NodeModbus.Service.Client
import NodeModbus.Service.Serving

/-!
# Where the requests of a client are

Every request that a client has written is on its way to the server, or was served.
What was served may have an answer on its way back, which is that of the request
with the same transaction id among those the client is waiting for.

- `Linked`: what is kept of the connections. `Linked.modify`: one of them changes.
- `Dispatched`: the requests on their way, and those that were served. `Dispatched.send`,
  `Dispatched.serve`: some of them are written, and some are served.
- `Tracked`: both, with what the client knows.
- `Tracked.frame`: what happens to other clients changes nothing.
- `Tracked.absorb`: a client works off its pending requests.
- `Tracked.push`: a client registers a request.
- `Tracked.reconnect`: the client uses a new connection.
-/

namespace NodeModbus

open Buffer Framing Linearization MBClientRequestHandler

variable {ι : Type}

/-- The operations that were served, each with the client and the number it has given to its
request. -/
abbrev Order (ι : Type) : Type := List ((ι × Nat) × Operation)

/-- What the server keeps of a connection, and what is on its way, are the frames of
requests. -/
structure Upstream (link : Connection) (sent : List Flight) : Prop where
  frames : link.up.frames = sent.map fun x => x.frame.payload
  fits : link.up.Fits
  handler : link.requestHandler = ⟨[], link.up.front⟩

/-- What a client keeps of its connection, and what is on its way, are the frames of answers. -/
structure Downstream (link : Connection) (h : ModbusTCPClientResponseHandler)
    (answers : List (Nat × TcpResponseFrame)) : Prop where
  frames : link.down.frames = answers.map fun g => g.2.payload
  fits : link.down.Fits
  handler : h = ⟨link.down.front, []⟩

/-- A request of a client that asks for an operation in the tables, and was called. -/
structure Proper (m : Memory) (i : ι) (unitId : Int) (history : History ι) (x : Flight) :
    Prop where
  inRange : x.op.InRange m
  unitId : x.frame.request.unitId = unitId
  called : .call (i, x.key) x.op ∈ history

/-- An answer of the memory behind the server, for a client. -/
structure Genuine (m : Memory) (i : ι) (unitId : Int) (order : Order ι)
    (g : Nat × TcpResponseFrame) : Prop where
  body : ∃ a : Answer, g.2.response.body = a.body ∧ ∃ id unitId,
    g.2.payload = mbapFrame id 0 unitId a.pdu
  unitId : g.2.response.unitId = unitId
  answered : Answered Memory.observed m order (i, g.1) g.2.response.body.content

/-- What is kept of the connections of a client: `sent` are the requests on their way, by
connection, and `answers` is what is on its way back on the one in use. -/
structure Linked (s : Session) (sent : Nat → List Flight)
    (answers : List (Nat × TcpResponseFrame)) : Prop where
  upstream : ∀ n, Upstream (s.connection n) (sent n)
  downstream : Downstream s.link s.responses answers
  unused : ∀ n, s.current < n → s.connection n = .new

/-- The requests on their way are among those that were written, each of them once, and were not
served. What was served was written. -/
structure Dispatched (i : ι) (order : Order ι) (requests : List (UserRequest ModbusTCPRequest))
    (sent : Nat → List Flight) : Prop where
  written : ∀ n, ∀ x ∈ sent n, x.request ∈ requests
  once : ∀ n, ((sent n).map Flight.key).Nodup
  apart : ∀ n n', ∀ x ∈ sent n, ∀ y ∈ sent n', x.key = y.key → n = n'
  unserved : ∀ n, ∀ x ∈ sent n, (i, x.key) ∉ order.map Prod.fst
  served : ∀ k, (i, k) ∈ order.map Prod.fst → ∃ u ∈ requests, u.key = k

/-- The requests of a client and their answers, on its connections. -/
structure Tracked (m : Memory) (i : ι) (history : History ι) (order : Order ι) (s : Session)
    (sent : Nat → List Flight) (answers : List (Nat × TcpResponseFrame)) : Prop
    extends Linked s sent answers, Dispatched i order (writes s.handler.log) sent where
  accounted : ∃ finished, Accounted finished s.handler
  encoded : Encoded tcpMessages s.handler
  proper : ∀ u ∈ registrations s.handler.log, ∃ x : Flight, x.request = u ∧
    Proper m i s.client.unitId history x
  called : ∀ k op, .call (i, k) op ∈ history → ∃ u ∈ registrations s.handler.log,
    u.key = k ∧ u.request.body.content.operation = some op
  distinct : ∀ u ∈ s.handler.pending, ∀ v ∈ s.handler.pending,
    u.request.id = v.request.id → u.key = v.key
  genuine : ∀ g ∈ answers, Genuine m i s.client.unitId order g
  ownSent : ∀ x ∈ sent s.current, ∀ v ∈ s.handler.pending,
    x.frame.request.id = v.request.id → x.key = v.key
  ownAnswers : ∀ g ∈ answers, ∀ v ∈ s.handler.pending,
    g.2.response.id = v.request.id → g.1 = v.key

variable {m : Memory} {i : ι} {history : History ι} {order : Order ι} {s : Session}
  {sent : Nat → List Flight} {answers answers' : List (Nat × TcpResponseFrame)}

/-! ## One connection changes -/

theorem Session.link_modify (s : Session) (f : Connection → Connection) :
    (s.modify s.current f).link = f s.link :=
  Function.update_self ..

theorem Session.link_modify_of_ne {s : Session} {n : Nat} (h : n ≠ s.current)
    (f : Connection → Connection) : (s.modify n f).link = s.link :=
  Function.update_of_ne (Ne.symm h) ..

/-- A connection that was opened changes, and so may the client. -/
theorem Linked.modify (h : Linked s sent answers) {n : Nat} (hn : n ≤ s.current)
    {f : Connection → Connection} {flights : List Flight} {c : MBClient .tcp}
    (hup : Upstream (f (s.connection n)) flights)
    (hdown : Downstream (s.modify n f).link c._responseHandler answers') :
    Linked { s.modify n f with client := c } (Function.update sent n flights) answers' where
  upstream n' := by
    show Upstream (Function.update s.connection n _ n') _
    by_cases hn' : n' = n
    · subst hn'
      rw [Function.update_self, Function.update_self]
      exact hup
    · rw [Function.update_of_ne hn', Function.update_of_ne hn']
      exact h.upstream n'
  downstream := hdown
  unused n' hn' := by
    have hlt : s.current < n' := hn'
    show Function.update s.connection n _ n' = _
    rw [Function.update_of_ne (by omega)]
    exact h.unused n' hlt

/-- The client stays as it is. -/
theorem Linked.modify_link (h : Linked s sent answers) {n : Nat} (hn : n ≤ s.current)
    {f : Connection → Connection} {flights : List Flight}
    (hup : Upstream (f (s.connection n)) flights)
    (hdown : Downstream (s.modify n f).link s.responses answers') :
    Linked (s.modify n f) (Function.update sent n flights) answers' :=
  h.modify (c := s.client) hn hup hdown

/-- Requests go out on the connection to the server. -/
theorem Upstream.send {link : Connection} {sent : List Flight} (h : Upstream link sent)
    (flights : List Flight) :
    Upstream { link with up := link.up.send (flights.map fun x => x.frame.payload) }
      (sent ++ flights) := by
  have hne : ∀ f ∈ flights.map (fun x => x.frame.payload), f ≠ [] := by
    intro f hf hnil
    obtain ⟨x, -, rfl⟩ := List.mem_map.mp hf
    obtain ⟨id, unitId, p, hparts⟩ := x.frame.exists_parts
    rw [hparts.payload_eq] at hnil
    cases hnil
  refine ⟨?_, h.fits.send hne, ?_⟩
  · rw [List.map_append, ← h.frames]
    rfl
  · rw [Wire.front_send h.fits]
    exact h.handler

/-- Answers go back to the client. -/
theorem Downstream.send {link : Connection} {c : ModbusTCPClientResponseHandler}
    (h : Downstream link c answers) (gs : List (Nat × TcpResponseFrame)) :
    Downstream { link with down := link.down.send (gs.map fun g => g.2.payload) } c
      (answers ++ gs) := by
  have hne : ∀ f ∈ gs.map (fun g => g.2.payload), f ≠ [] := by
    intro f hf hnil
    obtain ⟨g, -, rfl⟩ := List.mem_map.mp hf
    obtain ⟨id, protocol, unitId, p, hparts⟩ := g.2.exists_parts
    rw [hparts.payload_eq] at hnil
    cases hnil
  refine ⟨?_, h.fits.send hne, ?_⟩
  · rw [List.map_append, ← h.frames]
    rfl
  · rw [Wire.front_send h.fits]
    exact h.handler

/-! ## Requests that are written and served -/

/-- What is on its way on one connection is replaced. -/
theorem mem_update_sent {n n' : Nat} {flights : List Flight} {x : Flight}
    (h : x ∈ Function.update sent n flights n') : n' = n ∧ x ∈ flights ∨ x ∈ sent n' := by
  by_cases hn : n' = n
  · subst hn
    rw [Function.update_self] at h
    exact .inl ⟨rfl, h⟩
  · rw [Function.update_of_ne hn] at h
    exact .inr h

/-- What is left was on its way before. -/
theorem mem_sent_of_left {n n' : Nat} {done rest : List Flight} (hsent : sent n = done ++ rest)
    {x : Flight} (h : x ∈ Function.update sent n rest n') : x ∈ sent n' := by
  rcases mem_update_sent h with ⟨rfl, hleft⟩ | hold
  · rw [hsent]
    exact List.mem_append_right _ hleft
  · exact hold

variable {requests : List (UserRequest ModbusTCPRequest)}

/-- Requests that were not written before are written. -/
theorem Dispatched.send (h : Dispatched i order requests sent) (n : Nat) {flights : List Flight}
    (hnodup : (flights.map Flight.key).Nodup)
    (hnew : ∀ x ∈ flights, ∀ u ∈ requests, u.key ≠ x.key) :
    Dispatched i order (requests ++ flights.map Flight.request)
      (Function.update sent n (sent n ++ flights)) := by
  have hsent : ∀ n', ∀ x ∈ Function.update sent n (sent n ++ flights) n',
      x ∈ sent n' ∨ n' = n ∧ x ∈ flights := by
    intro n' x hx
    rcases mem_update_sent hx with ⟨rfl, hsent⟩ | hold
    · exact (List.mem_append.mp hsent).imp_right fun hnew => ⟨rfl, hnew⟩
    · exact .inl hold
  constructor
  case written =>
    intro n' x hx
    rcases hsent n' x hx with hx | ⟨-, hx⟩
    · exact List.mem_append_left _ (h.written n' x hx)
    · exact List.mem_append_right _ (List.mem_map_of_mem hx)
  case once =>
    intro n'
    by_cases hn : n' = n
    · subst hn
      rw [Function.update_self, List.map_append]
      refine List.nodup_append.mpr ⟨h.once _, hnodup, ?_⟩
      intro k hk k' hk' heq
      obtain ⟨y, hy, rfl⟩ := List.mem_map.mp hk
      obtain ⟨x, hx, rfl⟩ := List.mem_map.mp hk'
      exact hnew x hx y.request (h.written _ y hy) heq
    · rw [Function.update_of_ne hn]
      exact h.once n'
  case apart =>
    intro a b x hx y hy heq
    rcases hsent a x hx with hold | ⟨ha, hxnew⟩ <;> rcases hsent b y hy with hold' | ⟨hb, hynew⟩
    · exact h.apart a b x hold y hold' heq
    · exact absurd heq (hnew y hynew x.request (h.written a x hold))
    · exact absurd heq.symm (hnew x hxnew y.request (h.written b y hold'))
    · exact ha.trans hb.symm
  case unserved =>
    intro n' x hx hmem
    rcases hsent n' x hx with hx | ⟨-, hx⟩
    · exact h.unserved n' x hx hmem
    · obtain ⟨u, hu, hkey⟩ := h.served x.key hmem
      exact hnew x hx u hu hkey
  case served =>
    intro k hmem
    obtain ⟨u, hu, hkey⟩ := h.served k hmem
    exact ⟨u, List.mem_append_left _ hu, hkey⟩

/-- The operations that a data event performs. -/
def Flight.entries (i : ι) (flights : List Flight) : Order ι :=
  flights.map fun x => ((i, x.key), x.op)

theorem Flight.map_fst_entries (i : ι) (flights : List Flight) :
    (Flight.entries i flights).map Prod.fst = flights.map fun x => (i, x.key) :=
  List.map_map

theorem Flight.map_snd_entries (i : ι) (flights : List Flight) :
    (Flight.entries i flights).map Prod.snd = flights.map Flight.op :=
  List.map_map

/-- The first requests on a connection are served. -/
theorem Dispatched.serve (h : Dispatched i order requests sent) {n : Nat}
    {done rest : List Flight} (hsent : sent n = done ++ rest) :
    Dispatched i (order ++ Flight.entries i done.reverse) requests
      (Function.update sent n rest) := by
  have hdone : ∀ x ∈ done, x ∈ sent n := by
    intro x hx
    rw [hsent]
    exact List.mem_append_left _ hx
  have hentries : ∀ key, (i, key) ∈ (Flight.entries i done.reverse).map Prod.fst →
      ∃ x ∈ done, x.key = key := by
    intro key hkey
    rw [Flight.map_fst_entries] at hkey
    obtain ⟨x, hx, hkey⟩ := List.mem_map.mp hkey
    exact ⟨x, List.mem_reverse.mp hx, (Prod.mk.inj hkey).2⟩
  have hsub : ∀ n', ∀ x ∈ Function.update sent n rest n', x ∈ sent n' :=
    fun _ _ => mem_sent_of_left hsent
  have honce := h.once n
  rw [hsent, List.map_append] at honce
  obtain ⟨-, honceRest, hdisjoint⟩ := List.nodup_append.mp honce
  -- what is still on its way is not what was served
  have hrest : ∀ n', ∀ x ∈ Function.update sent n rest n', ∀ y ∈ done, y.key ≠ x.key := by
    intro n' x hx y hy heq
    obtain rfl := h.apart n' n x (hsub n' x hx) y (hdone y hy) heq.symm
    rw [Function.update_self] at hx
    exact hdisjoint y.key (List.mem_map_of_mem hy) x.key (List.mem_map_of_mem hx) heq
  constructor
  case written => exact fun n' x hx => h.written n' x (hsub n' x hx)
  case once =>
    intro n'
    by_cases hn : n' = n
    · subst hn
      rw [Function.update_self]
      exact honceRest
    · rw [Function.update_of_ne hn]
      exact h.once n'
  case apart => exact fun a b x hx y hy => h.apart a b x (hsub a x hx) y (hsub b y hy)
  case unserved =>
    intro n' x hx hmem
    rw [List.map_append] at hmem
    rcases List.mem_append.mp hmem with hmem | hmem
    · exact h.unserved n' x (hsub n' x hx) hmem
    · obtain ⟨y, hy, hkey⟩ := hentries x.key hmem
      exact hrest n' x hx y hy hkey
  case served =>
    intro key hmem
    rw [List.map_append] at hmem
    rcases List.mem_append.mp hmem with hmem | hmem
    · exact h.served key hmem
    · obtain ⟨x, hx, hkey⟩ := hentries key hmem
      exact ⟨x.request, h.written n x (hdone x hx), hkey⟩

/-! ## What the client knows -/

theorem Proper.mono {unitId : Int} {x : Flight} (h : Proper m i unitId history x)
    (marks : History ι) : Proper m i unitId (history ++ marks) x :=
  ⟨h.inRange, h.unitId, List.mem_append_left _ h.called⟩

/-- It is the request that counts. -/
theorem Proper.of_request {unitId : Int} {x y : Flight} (h : Proper m i unitId history y)
    (hrequest : y.request = x.request) : Proper m i unitId history x := by
  obtain ⟨hkey, hframe⟩ := UserRequest.mk.inj hrequest
  have hop : y.op = x.op := by
    have hasks := y.asks
    rw [hframe, x.asks] at hasks
    exact (Option.some.inj hasks).symm
  obtain ⟨hrange, hunitId, hcalled⟩ := h
  rw [hop] at hrange
  rw [hframe] at hunitId
  rw [hkey, hop] at hcalled
  exact ⟨hrange, hunitId, hcalled⟩

theorem Genuine.mono {unitId : Int} {g : Nat × TcpResponseFrame}
    (h : Genuine m i unitId order g) (next : Order ι) : Genuine m i unitId (order ++ next) g :=
  ⟨h.body, h.unitId, h.answered.append next⟩

/-- What is on its way to the server are proper requests. -/
theorem Tracked.proper_of_sent (h : Tracked m i history order s sent answers) {n : Nat}
    {x : Flight} (hx : x ∈ sent n) : Proper m i s.client.unitId history x := by
  obtain ⟨finished, hfinished⟩ := h.accounted
  have hregistered : x.request ∈ registrations s.handler.log := by
    rw [hfinished.registrations, MBClientRequestHandler.pending, ← List.append_assoc]
    exact List.mem_append_left _ (hfinished.writes.subset (h.written n x hx))
  obtain ⟨y, hy, hproper⟩ := h.proper _ hregistered
  exact hproper.of_request hy

/-- Of the requests that are pending every one has its bytes. -/
theorem Tracked.encodes (h : Tracked m i history order s sent answers) :
    ∀ u ∈ s.handler.pending, ∃ payload, tcpMessages.createPayload u.request = .ok payload := by
  intro u hu
  obtain ⟨finished, hfinished⟩ := h.accounted
  obtain ⟨x, rfl, -⟩ :=
    h.proper u (by rw [hfinished.registrations]; exact List.mem_append_right _ hu)
  exact ⟨x.frame.payload, x.frame.encoded⟩

/-- What other clients call, and what is served of their requests, changes nothing. -/
theorem Tracked.frame (h : Tracked m i history order s sent answers) {marks : History ι}
    {next : Order ι} (hmarks : ∀ k op, .call (i, k) op ∉ marks)
    (hnext : ∀ k, (i, k) ∉ next.map Prod.fst) :
    Tracked m i (history ++ marks) (order ++ next) s sent answers :=
  { h with
    proper := by
      intro u hu
      obtain ⟨x, hx, hproper⟩ := h.proper u hu
      exact ⟨x, hx, hproper.mono marks⟩
    called := by
      intro k op hmem
      exact h.called k op ((List.mem_append.mp hmem).resolve_right (hmarks k op))
    unserved := by
      intro n x hx hmem
      rw [List.map_append] at hmem
      rcases List.mem_append.mp hmem with hmem | hmem
      · exact h.unserved n x hx hmem
      · exact hnext x.key hmem
    served := by
      intro k hmem
      rw [List.map_append] at hmem
      exact h.served k ((List.mem_append.mp hmem).resolve_right (hnext k))
    genuine := fun g hg => (h.genuine g hg).mono next }

/-! ## Working off -/

/-- The requests that were written have different numbers. -/
theorem keys_writes_nodup {ρ ω : Type} {c : MBClientRequestHandler ρ ω}
    {finished : List (UserRequest ρ)} (h : Accounted finished c) :
    ((writes c.log).map UserRequest.key).Nodup := by
  have hsub : (writes c.log).Sublist (finished ++ c.pending) := by
    refine h.writes.trans ?_
    rw [pending, ← List.append_assoc]
    exact List.sublist_append_left ..
  exact (hsub.map UserRequest.key).nodup h.keys_nodup

theorem Session.added_eq {c : ModbusTCPClientRequestHandler}
    {added : List (Action ModbusTCPRequest ModbusTCPResponse)}
    (hlog : c.log = s.handler.log ++ added) : s.added (s.client.withHandler c) = added := by
  show c.log.drop s.handler.log.length = added
  rw [hlog, List.drop_left]

/-- The client works off its pending requests, and what it writes is on its way. -/
theorem Tracked.absorb (h : Tracked m i history order s sent answers)
    {c : ModbusTCPClientRequestHandler} (haccounted : ∃ finished, Accounted finished c)
    (hencoded : Encoded tcpMessages c)
    {added : List (Action ModbusTCPRequest ModbusTCPResponse)}
    (hpending : c.pending ⊆ s.handler.pending) (hlog : c.log = s.handler.log ++ added)
    (hregistrations : registrations added = []) (hwrites : writes added ⊆ s.handler.pending)
    (marks : History ι) (hmarks : ∀ k op, .call (i, k) op ∉ marks) :
    ∃ sent', Tracked m i (history ++ marks) order (s.absorb (s.client.withHandler c))
      sent' answers := by
  obtain ⟨finished, hfinished⟩ := h.accounted
  obtain ⟨finished', hfinished'⟩ := haccounted
  -- what is pending was registered, so it is a proper request
  have hproper : ∀ u ∈ writes added,
      ∃ x : Flight, x.request = u ∧ Proper m i s.client.unitId history x := by
    intro u hu
    refine h.proper u ?_
    rw [hfinished.registrations]
    exact List.mem_append_right _ (hwrites hu)
  obtain ⟨flights, hpayloads, hrequests, hflights⟩ :=
    exists_written (fun x : Flight => x.frame.encoded) (fun u payload hmem =>
      hencoded u payload (by rw [hlog]; exact List.mem_append_right _ hmem)) hproper
  have hlog' : writes c.log = writes s.handler.log ++ flights.map Flight.request := by
    rw [hlog, writes_append, hrequests]
  have hregistrations' : registrations c.log = registrations s.handler.log := by
    rw [hlog, registrations_append, hregistrations, List.append_nil]
  -- nothing is written twice
  have hnodup := keys_writes_nodup hfinished'
  rw [hlog', List.map_append, List.map_map] at hnodup
  obtain ⟨-, hnodupNew, hdisjoint⟩ := List.nodup_append.mp hnodup
  have hlinked : Linked (s.absorb (s.client.withHandler c))
      (Function.update sent s.current (sent s.current ++ flights)) answers := by
    refine h.toLinked.modify (Nat.le_refl _) ?_ ?_
    · rw [s.added_eq hlog, hpayloads]
      exact (h.upstream s.current).send flights
    · rw [Session.link_modify]
      exact ⟨h.downstream.frames, h.downstream.fits, h.downstream.handler⟩
  have hdispatched : Dispatched i order (writes c.log)
      (Function.update sent s.current (sent s.current ++ flights)) := by
    rw [hlog']
    exact h.toDispatched.send s.current hnodupNew fun x hx u hu =>
      hdisjoint u.key (List.mem_map_of_mem hu) x.key
        (List.mem_map_of_mem (f := UserRequest.key ∘ Flight.request) hx)
  refine ⟨_, { hlinked, hdispatched with
    accounted := ⟨finished', hfinished'⟩
    encoded := hencoded
    proper := ?_
    called := ?_
    distinct := fun u hu v hv => h.distinct u (hpending hu) v (hpending hv)
    genuine := h.genuine
    ownSent := ?_
    ownAnswers := fun g hg v hv => h.ownAnswers g hg v (hpending hv) }⟩
  · intro u hu
    obtain ⟨x, hx, hx'⟩ := h.proper u (hregistrations' ▸ hu)
    exact ⟨x, hx, hx'.mono marks⟩
  · intro k op hmem
    obtain ⟨u, hu, hkey, hop⟩ :=
      h.called k op ((List.mem_append.mp hmem).resolve_right (hmarks k op))
    exact ⟨u, hregistrations'.symm ▸ hu, hkey, hop⟩
  · intro x hx v hv heq
    have hx' : x ∈ sent s.current ++ flights := by
      rw [← Function.update_self (f := sent) s.current (sent s.current ++ flights)]
      exact hx
    rcases List.mem_append.mp hx' with hold | hnew
    · exact h.ownSent x hold v (hpending hv) heq
    · exact h.distinct x.request (hwrites (hrequests ▸ List.mem_map_of_mem hnew)) v
        (hpending hv) heq

/-! ## Registering -/

/-- Without a write the connections stay as they are. -/
theorem Session.absorb_eq {c : MBClient .tcp} (h : (s.added c).filterMap Action.payload = []) :
    s.absorb c = { s with client := c } := by
  have hlink :
      ({ s.connection s.current with up := (s.connection s.current).up.send [] } : Connection) =
      s.connection s.current := by rw [Wire.send_nil]
  rw [absorb, modify, h, hlink, Function.update_eq_self]

/-- A request frame starts with its transaction id. -/
theorem TcpFrame.take_two (f : TcpFrame) :
    f.payload.take 2 = Words.be16 f.request.id.toNat := by
  obtain ⟨id, unitId, p, hf⟩ := f.exists_parts
  rw [hf.payload_eq, hf.id_eq]
  rfl

/-- So does a response frame. -/
theorem TcpResponseFrame.take_two (f : TcpResponseFrame) :
    f.payload.take 2 = Words.be16 f.response.id.toNat := by
  obtain ⟨id, protocol, unitId, p, hf⟩ := f.exists_parts
  rw [hf.payload_eq, hf.id_eq]
  rfl

/-- The request handler when a request was registered, before it flushes. -/
def Session.pushed (s : Session) (x : Flight) : ModbusTCPClientRequestHandler :=
  { s.handler with
    _requestId := (s.handler._requestId + 1) % 0xFFFF
    registered := s.handler.registered + 1
    _requests := s.handler._requests ++ [x.request]
    log := s.handler.log ++ [.registered x.request] }

theorem Session.push_eq {x : Flight} (hkey : x.key = s.handler.registered) :
    (Transport.advance .tcp s.handler).push x.frame.request = s.pushed x := by
  rw [pushed, Flight.request, hkey]
  rfl

theorem Session.accounted_pushed {finished : List (UserRequest ModbusTCPRequest)}
    (h : Accounted finished s.handler) {x : Flight} (hkey : x.key = s.handler.registered) :
    Accounted finished (s.pushed x) := by
  have hadvance : Accounted finished (Transport.advance .tcp s.handler) := { h with }
  rw [← Session.push_eq hkey]
  exact hadvance.push x.frame.request

/-- What is written when it flushes then are the bytes of the request. -/
theorem Tracked.encoded_flush (h : Tracked m i history order s sent answers) (x : Flight) :
    Encoded tcpMessages ((s.pushed x)._flush tcpMessages).1 :=
  Update.encoded .flush (Encoded.concat (a := .registered x.request) h.encoded rfl rfl)

theorem Session.registrations_pushed (s : Session) (x : Flight) :
    registrations (s.pushed x).log = registrations s.handler.log ++ [x.request] :=
  registrations_concat ..

theorem Session.writes_pushed (s : Session) (x : Flight) :
    writes (s.pushed x).log = writes s.handler.log :=
  (writes_concat ..).trans (List.append_nil _)

/-- What is pending then was pending before, or is the request. -/
theorem Session.mem_pending_pushed {x : Flight} {v : UserRequest ModbusTCPRequest}
    (hv : v ∈ (s.pushed x).pending) : v ∈ s.handler.pending ∨ v = x.request := by
  change v ∈ s.handler._currentRequest.toList ++ (s.handler._requests ++ [x.request]) at hv
  rw [← List.append_assoc] at hv
  exact (List.mem_append.mp hv).imp_right List.mem_singleton.mp

/-- The id of the request is not that of a pending one. -/
theorem Session.IdFree.pending_ne (h : s.IdFree) {x : Flight}
    (hid : x.frame.request.id = ((s.handler._requestId + 1) % 0xFFFF : Nat)) :
    ∀ v ∈ s.handler.pending, v.request.id ≠ x.request.request.id := by
  intro v hv heq
  exact h.1 v hv (heq.trans hid)

/-- Nor is it that of a frame. -/
theorem Session.IdFree.frame_ne (h : s.IdFree) {x : Flight}
    (hid : x.frame.request.id = ((s.handler._requestId + 1) % 0xFFFF : Nat)) {frame : Buffer}
    (hframe : frame ∈ s.link.up.frames ++ s.link.down.frames) {id : Int}
    (htake : frame.take 2 = Words.be16 id.toNat) : id ≠ x.request.request.id := by
  intro heq
  refine h.2 frame hframe ?_
  rw [htake, heq]
  show Words.be16 x.frame.request.id.toNat = _
  rw [hid, Int.toNat_natCast]

/-- The client registers a request with a transaction id that is not in use. -/
theorem Tracked.push (h : Tracked m i history order s sent answers) (hfree : s.IdFree)
    {x : Flight} (hkey : x.key = s.handler.registered)
    (hid : x.frame.request.id = ((s.handler._requestId + 1) % 0xFFFF : Nat))
    (hunit : x.frame.request.unitId = s.client.unitId) (hrange : x.op.InRange m) :
    Tracked m i (history ++ [.call (i, x.key) x.op]) order
      (s.absorb (s.client.withHandler
        ((Transport.advance .tcp s.handler).push x.frame.request)))
      sent answers := by
  obtain ⟨finished, hfinished⟩ := h.accounted
  rw [Session.push_eq hkey]
  have hadded := s.added_eq (c := s.pushed x) rfl
  rw [Session.absorb_eq (by rw [hadded]; rfl)]
  have hdispatched : Dispatched i order (writes (s.pushed x).log) sent := by
    rw [s.writes_pushed]
    exact h.toDispatched
  refine { hdispatched with
    upstream := h.upstream
    downstream := h.downstream
    unused := h.unused
    accounted := ⟨finished, Session.accounted_pushed hfinished hkey⟩
    encoded := Encoded.concat (a := .registered x.request) h.encoded rfl rfl
    proper := ?proper
    called := ?called
    distinct := ?distinct
    genuine := h.genuine
    ownSent := ?ownSent
    ownAnswers := ?ownAnswers }
  case proper =>
    intro u hu
    have hu' : u ∈ registrations s.handler.log ++ [x.request] := s.registrations_pushed x ▸ hu
    rcases List.mem_append.mp hu' with hu | hu
    · obtain ⟨y, hy, hproper⟩ := h.proper u hu
      exact ⟨y, hy, hproper.mono _⟩
    · rw [List.mem_singleton.mp hu]
      exact ⟨x, rfl, hrange, hunit, List.mem_append_right _ (List.mem_singleton_self _)⟩
  case called =>
    intro k op hmem
    show ∃ u ∈ registrations (s.pushed x).log, _
    rw [s.registrations_pushed]
    rcases List.mem_append.mp hmem with hmem | hmem
    · obtain ⟨u, hu, hu'⟩ := h.called k op hmem
      exact ⟨u, List.mem_append_left _ hu, hu'⟩
    · obtain ⟨hk, rfl⟩ := Mark.call.inj (List.mem_singleton.mp hmem)
      exact ⟨x.request, List.mem_append_right _ (List.mem_singleton_self _),
        (Prod.mk.inj hk).2.symm, x.asks⟩
  -- what carries the id of the request is the request
  case distinct =>
    intro u hu v hv heq
    rcases Session.mem_pending_pushed hu with hu | rfl <;>
      rcases Session.mem_pending_pushed hv with hv | rfl
    · exact h.distinct u hu v hv heq
    · exact absurd heq (hfree.pending_ne hid u hu)
    · exact absurd heq.symm (hfree.pending_ne hid v hv)
    · rfl
  case ownSent =>
    intro y hy v hv heq
    rcases Session.mem_pending_pushed hv with hv | rfl
    · exact h.ownSent y hy v hv heq
    · refine absurd heq (hfree.frame_ne hid (List.mem_append_left _ ?_) y.frame.take_two)
      have hframes : s.link.up.frames = _ := (h.upstream s.current).frames
      rw [hframes]
      exact List.mem_map_of_mem hy
  case ownAnswers =>
    intro g hg v hv heq
    rcases Session.mem_pending_pushed hv with hv | rfl
    · exact h.ownAnswers g hg v hv heq
    · refine absurd heq (hfree.frame_ne hid (List.mem_append_right _ ?_) g.2.take_two)
      rw [h.downstream.frames]
      exact List.mem_map_of_mem hg

/-! ## Connecting -/

/-- A client that starts has nothing on its way. -/
theorem Session.Starts.tracked (h : s.Starts) (m : Memory) (i : ι) :
    Tracked m i [] [] s (fun _ => []) [] := by
  obtain ⟨hhandler, hresponses, hconnection, -⟩ := h
  have hpending : s.handler.pending = [] := by rw [hhandler]; rfl
  have hlog : s.handler.log = [] := by rw [hhandler]; rfl
  have hlinked : Linked s (fun _ => []) [] := by
    refine ⟨fun n => ?_, ?_, fun n _ => hconnection n⟩
    · rw [hconnection n]
      exact ⟨rfl, Wire.fits_empty, rfl⟩
    · rw [Session.link, hconnection, hresponses]
      exact ⟨rfl, Wire.fits_empty, rfl⟩
  constructor
  case toLinked => exact hlinked
  case toDispatched =>
    refine ⟨?_, fun n => List.nodup_nil, ?_, ?_, ?_⟩
    · intro n x hx
      cases hx
    · intro n n' x hx
      cases hx
    · intro n x hx
      cases hx
    · intro k hmem
      cases hmem
  case accounted => exact hhandler ▸ inv_new.accounted
  case encoded =>
    intro u payload hmem
    rw [hlog] at hmem
    cases hmem
  case proper =>
    intro u hu
    rw [hlog] at hu
    cases hu
  case called => exact fun k op hmem => nomatch hmem
  case distinct =>
    intro u hu
    rw [hpending] at hu
    cases hu
  case genuine => exact fun g hg => nomatch hg
  case ownSent => exact fun x hx => nomatch hx
  case ownAnswers => exact fun g hg => nomatch hg

/-- Without frames on the way there are no requests on the way. -/
theorem Upstream.eq_nil {flights : List Flight} (h : Upstream .new flights) : flights = [] :=
  List.map_eq_nil_iff.mp h.frames.symm

/-- The client uses a new connection, with nothing left of the old one. -/
theorem Tracked.reconnect (h : Tracked m i history order s sent answers)
    (hresponses : s.responses = .new) : Tracked m i history order s.reconnect sent [] :=
  have hnew : s.connection (s.current + 1) = .new := h.unused _ (Nat.lt_succ_self _)
  { h with
    downstream := by
      show Downstream (s.connection (s.current + 1)) s.responses []
      rw [hnew, hresponses]
      exact ⟨rfl, Wire.fits_empty, rfl⟩
    genuine := fun g hg => nomatch hg
    ownSent := by
      intro x hx
      have hup := h.upstream (s.current + 1)
      rw [hnew] at hup
      have hx' : x ∈ sent (s.current + 1) := hx
      rw [hup.eq_nil] at hx'
      cases hx'
    ownAnswers := fun g hg => nomatch hg
    unused := fun n hn => h.unused n (Nat.lt_of_succ_lt hn) }

end NodeModbus

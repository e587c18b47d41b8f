import NodeModbus.Service.Tracking

/-!
# What arrives at the other side

The requests of a client arrive at the server, which serves the ones that have
arrived whole, and its answers arrive at the client. Both sides keep what has arrived
of the next frame.

- `Tracked.receive`: answers arrive at the client.
- `Tracked.served_eq`: what a data event of the server does to the memory.
- `Tracked.serve`, `Tracked.exists_served`: requests are served, and their answers are on
  their way.
-/

namespace NodeModbus

open Buffer Framing Linearization MBClientRequestHandler

variable {ι : Type} {m : Memory} {i : ι} {history : History ι} {order : Order ι} {s : Session}
  {sent : Nat → List Flight} {answers : List (Nat × TcpResponseFrame)}

/-! ## Answers -/

/-- The answers have no exceptions. -/
theorem Genuine.isException {unitId : Int} {g : Nat × TcpResponseFrame}
    (h : Genuine m i unitId order g) : g.2.response.body.isException = false := by
  obtain ⟨a, ha, -⟩ := h.body
  rw [ha]
  exact a.isException_body

/-- What says the same as a body that is no exception is none. -/
theorem isException_of_content {b b' : ResponseBody} (h : b.content = b'.content)
    (hb : b'.isException = false) : b.isException = false := by
  cases b with
  | exception e =>
    cases b' with
    | exception e' => cases hb
    | _ => cases h
  | _ => rfl

/-- A bad cut of an answer shows in its bytes. -/
theorem Genuine.responseCut {unitId : Int} {g : Nat × TcpResponseFrame}
    (h : Genuine m i unitId order g) {k : Nat} (hcut : g.2.EarlyCut k) :
    ResponseCut g.2.payload k := by
  obtain ⟨a, ha, id, unitId', hpayload⟩ := h.body
  rcases hcut with ⟨b, hb, hk⟩ | ⟨b, hb, -, -⟩
  · rw [ha] at hb
    cases a with
    | holdingRegisters values => exact ⟨by rw [hpayload]; rfl, hk⟩
    | _ => cases hb
  · rw [ha] at hb
    cases a <;> cases hb

/-- The bytes have arrived at the client, and it has taken the responses off. -/
def Session.received (s : Session) (k : Nat) : Session :=
  { s.receive k with
    client := { s.client with
      _responseHandler := ModbusTCPClientResponseHandler.mk (s.receive k).link.down.front [] } }

theorem Session.link_receive (s : Session) (k : Nat) :
    (s.receive k).link = { s.link with down := s.link.down.deliver k } :=
  Function.update_self ..

/-- Answers arrive at the client, where they come out of the response handler as they were
sent. -/
theorem Tracked.receive (h : Tracked m i history order s sent answers) {k : Nat}
    (hcut : (s.link.down.deliver k).Uncut ResponseCut) :
    ∃ done rest responses, answers = done ++ rest ∧
      s.responses.handleData (s.link.down.next k) = ⟨(s.receive k).link.down.front, responses⟩ ∧
      responses.map ModbusTCPResponse.content = done.map (fun g => g.2.response.content) ∧
      Tracked m i history order (s.received k) sent rest := by
  have hdown := h.downstream
  have hlink := s.link_receive k
  have hframes : s.link.down.frames = (answers.map Prod.snd).map TcpResponseFrame.payload := by
    rw [hdown.frames, List.map_map]
    rfl
  have hbad : ∀ f ∈ answers.map Prod.snd, ∀ j, f.EarlyCut j → ResponseCut f.payload j := by
    intro f hf j hj
    obtain ⟨g, hg, rfl⟩ := List.mem_map.mp hf
    exact (h.genuine g hg).responseCut hj
  obtain ⟨done', rest', hsplit, hrest, hfits, hstream, hwaits⟩ :=
    Wire.exists_deliver (fun f _ => TcpResponseFrame.recognised f) rfl hbad hframes k hcut
  obtain ⟨done, rest, rfl, rfl, rfl⟩ := List.map_eq_append_iff.mp hsplit
  have hdone : ∀ f ∈ done.map Prod.snd, Recognised TcpResponseFrame.format _ _ _ f :=
    fun f _ => f.recognised
  obtain ⟨responses, hdrain, hresponses⟩ :=
    ModbusTCPClientResponseHandler.drain_spec.drain_flat hdone (s.link.down.deliver k).front
  rw [ModbusTCPClientResponseHandler.drain_spec.wait hwaits, List.append_nil] at hdrain
  refine ⟨done, rest, responses, rfl, ?_, ?_, ?_⟩
  · rw [hdown.handler, ModbusTCPClientResponseHandler.handleData_eq, hstream, hdrain, hlink,
      List.nil_append]
  · rw [hresponses, List.map_map]
    rfl
  · have hup := h.upstream s.current
    have hlinked : Linked (s.received k)
        (Function.update sent s.current (sent s.current)) rest := by
      refine h.toLinked.modify (Nat.le_refl _) ⟨hup.frames, hup.fits, hup.handler⟩ ?_
      rw [Session.link_modify]
      refine ⟨?_, hfits, congrArg (fun b => ModbusTCPClientResponseHandler.mk b []) ?_⟩
      · rw [hrest, List.map_map]
        rfl
      · rw [hlink]
    rw [Function.update_eq_self] at hlinked
    exact { h with
      toLinked := hlinked
      genuine := fun g hg => h.genuine g (List.mem_append_right _ hg)
      ownAnswers := fun g hg => h.ownAnswers g (List.mem_append_right _ hg) }

/-! ## Serving -/

/-- A bad cut of a request shows in its bytes. -/
theorem TcpFrame.requestCut {f : TcpFrame} {k : Nat} (hcut : f.EarlyCut k) :
    RequestCut f.payload k := by
  obtain ⟨hfc, hk⟩ := hcut
  obtain ⟨id, unitId, p, hf⟩ := f.exists_parts
  obtain ⟨rest, hp⟩ := hf.framed.code
  refine ⟨?_, hk⟩
  rw [hf.payload_eq, hp, hfc]
  rfl

theorem Session.served_of {server : ModbusServer} {heap : Heap} {n k : Nat}
    {handler : ModbusServerRequestHandler ModbusTCPRequest}
    {client : ModbusServerClient ModbusTCPRequest}
    (hhandler : (s.connection n).requestHandler = handler)
    (h : ModbusServerClient._onData .tcp server ⟨handler, heap, []⟩
      ((s.connection n).up.next k) = (client, .ok ())) :
    s.served server heap n k =
      (s.modify n fun link =>
        { requestHandler := client._requestHandler, up := link.up.deliver k,
          down := link.down.send client.written }, client.heap) := by
  subst hhandler
  exact congrArg (fun r : ModbusServerClient ModbusTCPRequest × Except Thrown Unit =>
    (s.modify n fun link =>
      { requestHandler := r.1._requestHandler, up := link.up.deliver k,
        down := link.down.send r.1.written }, r.1.heap)) h

/-- What a data event does to a connection and to the memory: the requests that have arrived
whole are served, from the last one to the first. -/
theorem Tracked.served_eq {t : Tables} (heap : Heap)
    (h : Tracked m i history order s sent answers) {id : Option Int}
    (hignores : (ModbusServer.ofTables id t).ignores s.client.unitId = false) {m' : Memory}
    (hwhole : m'.Whole) (hrange : ∀ op : Operation, op.InRange m → op.InRange m') {n k : Nat}
    (hcut : ((s.connection n).up.deliver k).Uncut RequestCut) :
    ∃ done rest, sent n = done ++ rest ∧
      ((s.connection n).up.deliver k).frames = rest.map (fun x => x.frame.payload) ∧
      ((s.connection n).up.deliver k).Fits ∧
      s.served (.ofTables id t) (m'.store t heap) n k =
        (s.modify n fun link =>
          { requestHandler := ⟨[], (link.up.deliver k).front⟩, up := link.up.deliver k,
            down := link.down.send
              (List.zipWith (fun f a => Transport.responseFrame .tcp f a.pdu)
              (done.reverse.map Flight.frame)
                (Memory.machine.run m' (done.reverse.map Flight.op)).2) },
          (Memory.machine.run m' (done.reverse.map Flight.op)).1.store t heap) := by
  obtain ⟨hframes, -, hhandler⟩ := h.upstream n
  have hframes' : (s.connection n).up.frames =
      ((sent n).map Flight.frame).map TcpFrame.payload := by
    rw [hframes, List.map_map]
    rfl
  obtain ⟨done', rest', hsplit, hrest, hfits, hstream, hwaits⟩ :=
    Wire.exists_deliver (fun f _ => TcpFrame.recognised f) rfl
      (fun f _ j hj => TcpFrame.requestCut hj) hframes'
      k hcut
  obtain ⟨done, rest, hsent, rfl, rfl⟩ := List.map_eq_append_iff.mp hsplit
  refine ⟨done, rest, hsent, ?_, hfits, ?_⟩
  · rw [hrest, List.map_map]
    rfl
  · have hmem : ∀ x ∈ done, x ∈ sent n := by
      intro x hx
      rw [hsent]
      exact List.mem_append_left _ hx
    have honData := ModbusServerClient.onData_stream (w := .tcp) id t heap hwhole hstream hwaits
      (.inl rfl) (Flight.asksFor done) (by
        intro f hf
        obtain ⟨x, hx, rfl⟩ := List.mem_map.mp hf
        show (ModbusServer.ofTables id t).ignores x.frame.request.unitId = false
        rw [(h.proper_of_sent (hmem x hx)).unitId]
        exact hignores) (by
        intro op hop
        obtain ⟨x, hx, rfl⟩ := List.mem_map.mp hop
        exact hrange _ (h.proper_of_sent (hmem x hx)).inRange) List.map_reverse.symm
          List.map_reverse.symm
    exact Session.served_of hhandler honData

/-- The answers to what is performed next. -/
theorem exists_genuine (i : ι) (order : Order ι) {flights : List Flight} {unitId : Int}
    (h : ∀ x ∈ flights, x.op.InRange (Memory.machine.run m (order.map Prod.snd)).1)
    (hunitId : ∀ x ∈ flights, x.frame.request.unitId = unitId) :
    ∃ gs : List (Nat × TcpResponseFrame),
      gs.map (fun g => g.2.payload) =
        List.zipWith (fun f a => Transport.responseFrame .tcp f a.pdu)
          (flights.map Flight.frame)
          (Memory.machine.run (Memory.machine.run m (order.map Prod.snd)).1
            (flights.map Flight.op)).2 ∧
      ∀ g ∈ gs, Genuine m i unitId (order ++ Flight.entries i flights) g ∧
        ∃ x ∈ flights, g.1 = x.key ∧ g.2.response.id = x.frame.request.id := by
  obtain ⟨gs, hpayloads, hgs⟩ := exists_answers i h
  refine ⟨gs, hpayloads, fun g hg => ?_⟩
  obtain ⟨x, hx, a, hanswered, hmem⟩ := hgs g hg
  refine ⟨⟨⟨a, hanswered.body, _, _, hanswered.payload⟩, hanswered.unitId.trans (hunitId x hx),
    ?_⟩, x, hx, hanswered.key, hanswered.id⟩
  rw [hanswered.key, hanswered.body, a.content_body]
  have hstate : (Memory.observed.run m (order.map Prod.snd)).1 =
      (Memory.machine.run m (order.map Prod.snd)).1 := by
    rw [Memory.observed, Refinement.Machine.run_mapOut]
  refine answered_of_run (?_ : (((i, x.key), x.op), a.content) ∈ _)
  rw [hstate, Flight.map_snd_entries]
  exact hmem

/-- The first requests on a connection are served, and their answers are on their way back. -/
theorem Tracked.serve (h : Tracked m i history order s sent answers) {n k : Nat}
    (hn : n ≤ s.current) {done rest : List Flight} (hsent : sent n = done ++ rest)
    (hframes : ((s.connection n).up.deliver k).frames = rest.map fun x => x.frame.payload)
    (hfits : ((s.connection n).up.deliver k).Fits) {gs : List (Nat × TcpResponseFrame)}
    (hgs : ∀ g ∈ gs, Genuine m i s.client.unitId (order ++ Flight.entries i done.reverse) g ∧
      ∃ x ∈ done.reverse, g.1 = x.key ∧ g.2.response.id = x.frame.request.id) :
    Tracked m i history (order ++ Flight.entries i done.reverse)
      (s.modify n fun link =>
        { requestHandler := ⟨[], (link.up.deliver k).front⟩, up := link.up.deliver k,
          down := link.down.send (gs.map fun g => g.2.payload) })
      (Function.update sent n rest) (if n = s.current then answers ++ gs else answers) := by
  have hanswers : ∀ g ∈ (if n = s.current then answers ++ gs else answers),
      g ∈ answers ∨ g ∈ gs ∧ n = s.current := by
    intro g hg
    split at hg
    · rename_i hcurrent
      exact (List.mem_append.mp hg).imp_right fun hg => ⟨hg, hcurrent⟩
    · exact .inl hg
  have hlinked : Linked (s.modify n fun link =>
        { requestHandler := ⟨[], (link.up.deliver k).front⟩, up := link.up.deliver k,
          down := link.down.send (gs.map fun g => g.2.payload) })
      (Function.update sent n rest) (if n = s.current then answers ++ gs else answers) := by
    refine h.toLinked.modify_link hn ?_ ?_
    · exact ⟨hframes, hfits, rfl⟩
    · by_cases hcurrent : n = s.current
      · subst hcurrent
        rw [if_pos rfl, Session.link_modify]
        have hdown := h.downstream.send gs
        exact ⟨hdown.frames, hdown.fits, hdown.handler⟩
      · rw [if_neg hcurrent, Session.link_modify_of_ne hcurrent]
        exact h.downstream
  exact { hlinked, h.toDispatched.serve hsent, h with
    genuine := by
      intro g hg
      rcases hanswers g hg with hg | ⟨hg, -⟩
      · exact (h.genuine g hg).mono _
      · exact (hgs g hg).1
    ownSent := fun x hx => h.ownSent x (mem_sent_of_left hsent hx)
    ownAnswers := by
      intro g hg v hv heq
      rcases hanswers g hg with hold | ⟨hnew, rfl⟩
      · exact h.ownAnswers g hold v hv heq
      · obtain ⟨x, hx, hkey, hid⟩ := (hgs g hnew).2
        rw [hkey]
        refine h.ownSent x ?_ v hv (hid.symm.trans heq)
        rw [hsent]
        exact List.mem_append_left _ (List.mem_reverse.mp hx) }

/-- A data event of the server: what it serves comes next in the order. -/
theorem Tracked.exists_served {t : Tables} {heap : Heap} {id : Option Int}
    (h : Tracked (.load t heap) i history order s sent answers)
    (hignores : (ModbusServer.ofTables id t).ignores s.client.unitId = false)
    (hrange : ∀ p ∈ order, p.2.InRange (.load t heap)) {n k : Nat} (hn : n ≤ s.current)
    (hcut : ((s.connection n).up.deliver k).Uncut RequestCut) :
    ∃ flights s' sent' answers',
      (∀ x ∈ flights, Proper (.load t heap) i s.client.unitId history x ∧
        (i, x.key) ∉ order.map Prod.fst) ∧
      (flights.map Flight.key).Nodup ∧
      s.served (.ofTables id t)
          ((Memory.machine.run (.load t heap) (order.map Prod.snd)).1.store t heap) n k =
        (s', (Memory.machine.run (.load t heap)
          ((order ++ Flight.entries i flights).map Prod.snd)).1.store t heap) ∧
      s'.client = s.client ∧
      Tracked (.load t heap) i history (order ++ Flight.entries i flights) s' sent'
        answers' := by
  have hops : ∀ op ∈ order.map Prod.snd, op.InRange (.load t heap) := by
    intro op hop
    obtain ⟨p, hp, rfl⟩ := List.mem_map.mp hop
    exact hrange p hp
  have hwhole := Memory.whole_run (Memory.whole_load t heap) hops
  obtain ⟨done, rest, hsent, hframes, hfits, hserved⟩ :=
    h.served_eq heap hignores hwhole (fun op hop => hop.run hops) hcut
  have hproper : ∀ x ∈ done.reverse, x ∈ sent n := by
    intro x hx
    rw [hsent]
    exact List.mem_append_left _ (List.mem_reverse.mp hx)
  obtain ⟨gs, hpayloads, hgs⟩ := exists_genuine i order
    (fun x hx => (h.proper_of_sent (hproper x hx)).inRange.run hops)
    fun x hx => (h.proper_of_sent (hproper x hx)).unitId
  rw [← hpayloads] at hserved
  have htracked := h.serve hn hsent hframes hfits hgs
  refine ⟨done.reverse, _, _, _, fun x hx =>
    ⟨h.proper_of_sent (hproper x hx), h.unserved n x (hproper x hx)⟩, ?_,
    ?_, ?_, htracked⟩
  · have honce := h.once n
    rw [hsent, List.map_append] at honce
    rw [List.map_reverse]
    exact List.nodup_reverse.mpr (List.nodup_append.mp honce).1
  · rw [hserved, List.map_append, Refinement.Machine.run_append, Flight.map_snd_entries]
  · rfl

end NodeModbus

import NodeModbus.Service.Line

/-!
# What is on a serial line

Requests are on their way to the server, in the order in which the client has written
them, and answers on their way back. Whatever has become of the promises, a request
that has arrived is served, and an answer that has arrived comes to the request handler.

- `Wired`: what is on its way, and what the tables are.
- `Wired.absorb`: what a client writes is on its way.
- `Wired.upstream`: what a data event of the server does.
- `Wired.downstream`: what a data event of the client does.
-/

namespace NodeModbus

open Buffer Framing MBClientRequestHandler

variable {crc16modbus : Buffer → UInt16}

/-- What has arrived is kept on both sides, and what is on its way are frames. The tables
are those after the requests that were served. -/
structure Wired (id : Option Int) (t : Tables) (heap : Heap) (s : SerialLine crc16modbus)
    (served : List (Turn crc16modbus)) (frames : List (RtuFrame crc16modbus))
    (answers : List SerialAnswer) : Prop where
  tables : s.heap = (Memory.machine.run (.load t heap) (served.map Turn.op)).1.store t heap
  up : s.up.frames = frames.map RtuFrame.payload
  upFits : s.up.Fits
  requestHandler : s.requestHandler = ⟨[], s.up.front⟩
  down : s.down.frames = answers.map (SerialAnswer.payload crc16modbus)
  downFits : s.down.Fits
  responses : s.client._responseHandler = ModbusRTUClientResponseHandler.mk s.down.front []
  addressed : ∀ g ∈ answers, (g.address.toNat : Int) = s.client.unitId
  unitId : IsUInt8 s.client.unitId
  ignores : (ModbusServer.ofTables id t).ignores s.client.unitId = false

variable {id : Option Int} {t : Tables} {heap : Heap} {s : SerialLine crc16modbus}
  {served : List (Turn crc16modbus)} {frames : List (RtuFrame crc16modbus)}
  {answers : List SerialAnswer}

/-- Nothing is on the line. -/
theorem wired_init (h : (lineSystem crc16modbus id t heap).init s) :
    Wired id t heap s [] [] [] := by
  obtain ⟨-, hresponses, hunit, hignores, hrequestHandler, hheap, hup, hdown⟩ := h
  constructor
  case tables => exact hheap.trans (Memory.store_load ..).symm
  case up => rw [hup]; rfl
  case upFits => rw [hup]; exact Wire.fits_empty
  case requestHandler => rw [hup]; exact hrequestHandler
  case down => rw [hdown]; rfl
  case downFits => rw [hdown]; exact Wire.fits_empty
  case responses => rw [hdown]; exact hresponses
  case addressed => exact List.forall_mem_nil _
  case unitId => exact hunit
  case ignores => exact hignores

/-! ## The client writes -/

theorem SerialLine.absorb_of_log {c : MBClient (.rtu crc16modbus)}
    {added : List (Action ModbusRTURequest ModbusRTUResponse)}
    (hlog : c._requestHandler.log = s.handler.log ++ added) :
    s.absorb c = { s with client := c, up := s.up.send (added.filterMap Action.payload) } := by
  have hadded : s.added c = added := by
    rw [SerialLine.added, hlog]
    exact List.drop_left
  rw [SerialLine.absorb, hadded]

theorem RtuFrame.payload_ne_nil (f : RtuFrame crc16modbus) : f.payload ≠ [] := by
  obtain ⟨p, hf⟩ := f.exists_parts
  rw [hf.payload_eq]
  exact List.cons_ne_nil _ _

/-- What the client has written is on its way. -/
theorem Wired.absorb (h : Wired id t heap s served frames answers)
    {c : ModbusRTUClientRequestHandler}
    {added : List (Action ModbusRTURequest ModbusRTUResponse)}
    (hlog : c.log = s.handler.log ++ added) {written : List (RtuFrame crc16modbus)}
    (hwritten : added.filterMap Action.payload = written.map RtuFrame.payload) :
    Wired id t heap (s.absorb (s.client.withHandler c)) served (frames ++ written) answers := by
  rw [SerialLine.absorb_of_log hlog, hwritten]
  exact { h with
    up := by
      rw [List.map_append, ← h.up]
      rfl
    upFits := h.upFits.send fun f hf => by
      obtain ⟨x, -, rfl⟩ := List.mem_map.mp hf
      exact x.payload_ne_nil
    requestHandler := by
      show s.requestHandler = ⟨[], (s.up.send _).front⟩
      rw [Wire.front_send h.upFits]
      exact h.requestHandler }

/-- When it has written nothing, the line is as it was. -/
theorem Wired.absorb_nil (h : Wired id t heap s served frames answers)
    {c : ModbusRTUClientRequestHandler}
    {added : List (Action ModbusRTURequest ModbusRTUResponse)}
    (hlog : c.log = s.handler.log ++ added) (hwritten : added.filterMap Action.payload = []) :
    Wired id t heap (s.absorb (s.client.withHandler c)) served frames answers := by
  have hwired := h.absorb hlog (hwritten.trans List.map_nil.symm)
  rw [List.append_nil] at hwired
  exact hwired

/-- The request of a call, on its way to the server. -/
theorem exists_turn (key : Nat) (unitId : Int) {requestBody : RequestBody} {p : Buffer}
    {op : Operation} (hsendable : requestBody.Sendable) (hp : requestBody.createPayload = .ok p)
    (hop : requestBody.content.operation = some op) :
    ∃ x : Turn crc16modbus, x.key = key ∧ x.frame.request = ⟨unitId, requestBody, false⟩ ∧
    x.op = op := by
  have hfc : requestBody.fc ≠ .readDeviceIdentification := by
    rw [RequestBody.fc_of_operation hop]
    cases op <;> nofun
  exact ⟨{ key
           frame :=
            { request := ⟨unitId, requestBody, false⟩
              payload := ModbusRTURequest.frame crc16modbus unitId p
              sendable := hsendable
              fc_ne := hfc
              encoded := @ModbusRTURequest.createPayload_eq crc16modbus
                ⟨unitId, requestBody, false⟩ p hp }
           op
           asks := hop }, rfl, rfl, rfl⟩

/-! ## The server serves -/

/-- The address of a client of a unit is written into a byte. -/
theorem toNat_toByte {n : Int} (h : IsUInt8 n) : ((toByte n).toNat : Int) = n := by
  have hrange := h
  unfold IsUInt8 at hrange
  rw [toByte, Int.emod_eq_of_lt hrange.1 (by omega), toNat_ofNat_of_isUInt8 h]

/-- What a data event of the server leaves. -/
theorem SerialLine.next_upstream {server : ModbusServer} {k : Nat} {front : Buffer}
    {heap' : Heap} {written : List Buffer}
    (h : ModbusServerClient._onData (.rtu crc16modbus) server ⟨s.requestHandler, s.heap, []⟩
      (s.up.next k) = (⟨⟨[], front⟩, heap', written⟩, .ok ())) :
    s.next server (.upstream k) =
      { s with requestHandler := ⟨[], front⟩, heap := heap', up := s.up.deliver k,
               down := s.down.send written } := by
  rw [SerialLine.next, h]
  rfl

/-- The answer to a request that is in range, in its frame. -/
theorem Turn.exists_answer (x : Turn crc16modbus) {m : Memory} (h : x.op.InRange m) :
    ∃ g : SerialAnswer, g.answer = m.answer x.op ∧ g.address = toByte x.frame.request.address ∧
      g.payload crc16modbus = Transport.responseFrame (.rtu crc16modbus) x.frame
        (m.answer x.op).pdu := by
  obtain ⟨r, hr, -⟩ := Transport.handle_frame (.rtu crc16modbus) x.frame [] []
  have hasks : Transport.AsksFor (.rtu crc16modbus) r x.op := ⟨hr.decoded, hr.content ▸ x.asks⟩
  exact ⟨⟨toByte x.frame.request.address, m.answer x.op, fits_answer hasks h⟩, rfl, rfl, rfl⟩

theorem Turn.asksFor (turns : List (Turn crc16modbus)) :
    List.Forall₂ (Transport.FrameAsksFor (.rtu crc16modbus)) (turns.map Turn.frame)
      (turns.map Turn.op) := by
  induction turns with
  | nil => exact .nil
  | cons x turns ih => exact .cons x.asks ih

/-- The answers to requests that are served one after another. -/
theorem Turn.exists_answers (turns : List (Turn crc16modbus)) {m : Memory}
    (h : ∀ x ∈ turns, x.op.InRange m) :
    ∃ gs : List SerialAnswer, gs.map SerialAnswer.answer =
      (Memory.machine.run m (turns.map Turn.op)).2 ∧
      gs.map (SerialAnswer.payload crc16modbus) =
        List.zipWith (fun f a => Transport.responseFrame (.rtu crc16modbus) f a.pdu)
          (turns.map Turn.frame)
          (Memory.machine.run m (turns.map Turn.op)).2 ∧
      ∀ g ∈ gs, ∃ x ∈ turns, g.address = toByte x.frame.request.address := by
  induction turns generalizing m with
  | nil => exact ⟨[], rfl, rfl, List.forall_mem_nil _⟩
  | cons x turns ih =>
    have hx := h x (List.mem_cons_self ..)
    obtain ⟨g, hanswer, haddress, hpayload⟩ := x.exists_answer hx
    obtain ⟨gs, hanswers, hpayloads, haddresses⟩ :=
      ih (m := m.update x.op) fun y hy => hx.update (h y (List.mem_cons_of_mem _ hy))
    refine ⟨g :: gs, ?_, ?_, ?_⟩
    · rw [List.map_cons, hanswer, hanswers]
      rfl
    · rw [List.map_cons, hpayload, hpayloads]
      rfl
    · refine List.forall_mem_cons.mpr ⟨⟨x, List.mem_cons_self .., haddress⟩, fun g' hg' => ?_⟩
      obtain ⟨y, hy, hya⟩ := haddresses g' hg'
      exact ⟨y, List.mem_cons_of_mem _ hy, hya⟩

/-- What a data event of the server does with the requests that are whole: it serves them
from the last one to the first. -/
theorem Wired.onData_eq (h : Wired id t heap s served frames answers)
    (hserved : ∀ x ∈ served, x.op.InRange (.load t heap)) {arrived : List (Turn crc16modbus)}
    {data front : Buffer}
    (hstream : s.up.front ++ data = RtuFrame.format.flat (arrived.map Turn.frame) ++ front)
    (hwaits : RtuWaits crc16modbus front)
    (harrived : ∀ x ∈ arrived, x.op.InRange (.load t heap) ∧ x.frame.request.address =
      s.client.unitId) :
    ModbusServerClient._onData (.rtu crc16modbus) (.ofTables id t)
      ⟨s.requestHandler, s.heap, []⟩ data =
      (⟨⟨[], front⟩,
          (Memory.machine.run (Memory.machine.run (.load t heap) (served.map Turn.op)).1
          (arrived.reverse.map Turn.op)).1.store t heap,
        List.zipWith (fun f a => Transport.responseFrame (.rtu crc16modbus) f a.pdu)
          (arrived.reverse.map Turn.frame)
          (Memory.machine.run (Memory.machine.run (.load t heap) (served.map Turn.op)).1
            (arrived.reverse.map Turn.op)).2⟩, .ok ()) := by
  have hserved' : ∀ op ∈ served.map Turn.op, op.InRange (.load t heap) :=
    List.forall_mem_map.mpr hserved
  have hwhole := Memory.whole_run (Memory.whole_load t heap) hserved'
  rw [h.requestHandler, h.tables]
  refine ModbusServerClient.onData_stream (w := .rtu crc16modbus) id t heap hwhole hstream
    hwaits.1 (.inr hwaits.2) (Turn.asksFor arrived) (List.forall_mem_map.mpr fun x hx => ?_)
    (List.forall_mem_map.mpr fun x hx => ?_) List.map_reverse.symm List.map_reverse.symm
  · have hunit : ((toByte x.frame.request.address).toNat : Int) = s.client.unitId := by
      rw [(harrived x hx).2]
      exact toNat_toByte h.unitId
    exact (congrArg _ hunit).trans h.ignores
  · exact (harrived x hx).1.run hserved'

/-- Bytes arrive at the server: the requests that are whole are served, and their answers
are on their way. -/
theorem Wired.upstream {asked : List (Turn crc16modbus)}
    (h : Wired id t heap s served (asked.map Turn.frame) answers)
    (hserved : ∀ x ∈ served, x.op.InRange (.load t heap))
    (hasked : ∀ x ∈ asked, x.op.InRange (.load t heap) ∧ x.frame.request.address =
      s.client.unitId)
    {k : Nat} (hcut : (s.up.deliver k).Uncut fun _ n => n = 1) :
    ∃ arrived rest gs, asked = arrived ++ rest ∧
      gs.map SerialAnswer.answer =
        (Memory.machine.run (Memory.machine.run (.load t heap) (served.map Turn.op)).1
        (arrived.reverse.map Turn.op)).2 ∧
      Wired id t heap (s.next (.ofTables id t) (.upstream k)) (served ++ arrived.reverse)
        (rest.map Turn.frame)
        (answers ++ gs) := by
  have hnil : RtuWaits crc16modbus [] := ⟨rfl, .inr rfl⟩
  obtain ⟨arrived, rest, hsplit, hrest, hfits, hstream, hwaits⟩ :=
    Wire.exists_deliver (F := RtuFrame.format) (fun f _ => RtuFrame.recognised f) hnil
      (fun f _ k hk => hk)
      h.up k hcut
  obtain ⟨arrived, rest, rfl, rfl, rfl⟩ := List.map_eq_append_iff.mp hsplit
  have harrived := (List.forall_mem_append.mp hasked).1
  have hserved' : ∀ op ∈ served.map Turn.op, op.InRange (.load t heap) :=
    List.forall_mem_map.mpr hserved
  obtain ⟨gs, hanswers, hpayloads, haddresses⟩ :=
    Turn.exists_answers arrived.reverse fun x hx =>
    (harrived x (List.mem_reverse.mp hx)).1.run hserved'
  rw [SerialLine.next_upstream (h.onData_eq hserved hstream hwaits harrived), ← hpayloads]
  have hne : ∀ f ∈ gs.map (SerialAnswer.payload crc16modbus), f ≠ [] :=
    List.forall_mem_map.mpr fun g _ => List.cons_ne_nil _ _
  refine ⟨arrived, rest, gs, rfl, hanswers, ?_⟩
  exact { h with
    tables := by
      rw [List.map_append, Refinement.Machine.run_append]
    up := hrest
    upFits := hfits
    requestHandler := rfl
    down := by
      rw [List.map_append, ← h.down]
      rfl
    downFits := h.downFits.send hne
    responses := by
      show s.client._responseHandler = ⟨(s.down.send _).front, []⟩
      rw [Wire.front_send h.downFits]
      exact h.responses
    addressed := by
      refine List.forall_mem_append.mpr ⟨h.addressed, fun g hg => ?_⟩
      obtain ⟨x, hx, hg'⟩ := haddresses g hg
      rw [hg', (harrived x (List.mem_reverse.mp hx)).2]
      exact toNat_toByte h.unitId }

/-! ## The client hears -/

/-- One answer after another comes to the request handler. -/
def ModbusRTUClientRequestHandler.handleAll (crc16modbus : Buffer → UInt16)
    (c : ModbusRTUClientRequestHandler) (answers : List SerialAnswer) :
    ModbusRTUClientRequestHandler :=
  answers.foldl
    (fun c g => (ModbusRTUClientRequestHandler.handle crc16modbus c
      (some (g.received crc16modbus))).1) c

open ModbusRTUClientRequestHandler (handleAll)

/-- An answer leaves nothing pending that was not. -/
theorem SerialAnswer.advances_handle (g : SerialAnswer) (c : ModbusRTUClientRequestHandler) :
    Advances c (ModbusRTUClientRequestHandler.handle crc16modbus c
      (some (g.received crc16modbus))).1 :=
  Updates.advances
  (updates_handled (ModbusRTUClientRequestHandler.handled_handle crc16modbus c _))

theorem SerialAnswer.advances_handleAll (c : ModbusRTUClientRequestHandler)
    (gs : List SerialAnswer) : Advances c (handleAll crc16modbus c gs) := by
  induction gs generalizing c with
  | nil => exact .refl c
  | cons g gs ih => exact (g.advances_handle c).trans (ih _)

/-- When an answer comes in, or more than one, only the queue is left of what was pending. -/
theorem ModbusRTUClientRequestHandler.pending_handleAll {c : ModbusRTUClientRequestHandler}
    {u : UserRequest ModbusRTURequest} (hcurrent : c._currentRequest = some u)
    (g : SerialAnswer) (gs : List SerialAnswer) :
    (handleAll crc16modbus c (g :: gs)).pending ⊆ c._requests := by
  have hfirst : (ModbusRTUClientRequestHandler.handle crc16modbus c
    (some (g.received crc16modbus))).1.pending ⊆
      c._requests := by
    rw [g.handle_eq]
    exact pending_handle (M := rtuMessages crc16modbus) hcurrent g.answer.isException_readBack
  exact List.Subset.trans (SerialAnswer.advances_handleAll _ gs).pending hfirst

/-- Then the request that was under way is not under way any more. -/
theorem ModbusRTUClientRequestHandler.current_handleAll {c : ModbusRTUClientRequestHandler}
    (hinv : Inv c) {u : UserRequest ModbusRTURequest} (hcurrent : c._currentRequest = some u)
    (g : SerialAnswer) (gs : List SerialAnswer) :
    (handleAll crc16modbus c (g :: gs))._currentRequest ≠ some u := by
  obtain ⟨finished, hfinished⟩ := hinv.accounted
  intro hunder
  have hpending : u ∈ (handleAll crc16modbus c (g :: gs)).pending :=
    List.mem_append_left _ (Option.mem_toList.mpr hunder)
  exact hfinished.current_not_mem hcurrent (pending_handleAll hcurrent g gs hpending)

/-- The loop of `_onData` handles every answer, when what is pending can be encoded. -/
theorem MBClient.exec_answers (unitId : Int) (front : Buffer) (arrived : List SerialAnswer)
    (c : ModbusRTUClientRequestHandler)
    (hencodes : ∀ u ∈ c.pending, ∃ payload, (rtuMessages crc16modbus).createPayload u.request =
      .ok payload)
    (hunit : ∀ g ∈ arrived, (g.address.toNat : Int) = unitId) :
    MBClient.dataLoop.exec
        (MBClient.mk (w := .rtu crc16modbus) unitId c
          ⟨front, arrived.map (SerialAnswer.received crc16modbus)⟩) =
      (MBClient.mk (w := .rtu crc16modbus) unitId (handleAll crc16modbus c arrived) ⟨front, []⟩,
        .ok ()) := by
  induction arrived generalizing c with
  | nil => exact MBClient.exec_nil rfl
  | cons g arrived ih =>
    obtain ⟨hg, harrived⟩ := List.forall_mem_cons.mp hunit
    have hreturns : (ModbusRTUClientRequestHandler.handle crc16modbus c
        (some (g.received crc16modbus))).2 = .ok () := by
      rw [g.handle_eq]
      exact handle_returns (M := rtuMessages crc16modbus) hencodes g.answer.isException_readBack
    have hexec := MBClient.exec_handled (w := .rtu crc16modbus)
      (c := MBClient.mk unitId c
        ⟨front, (g :: arrived).map (SerialAnswer.received crc16modbus)⟩) rfl hg.symm
      (Prod.ext rfl hreturns)
    exact hexec.trans (ih _ (fun u hu => hencodes u ((g.advances_handle c).pending hu))
      harrived)

/-- The bytes have arrived at the client, and it has taken the responses off. -/
def SerialLine.received (s : SerialLine crc16modbus) (k : Nat) : SerialLine crc16modbus :=
  { s with
    down := s.down.deliver k
    client := { s.client with
      _responseHandler := ModbusRTUClientResponseHandler.mk (s.down.deliver k).front [] } }

/-- Bytes arrive at the client: the answers that are whole come to its request handler, and
what that writes is on its way. -/
theorem Wired.downstream (h : Wired id t heap s served frames answers)
    (hencodes : ∀ u ∈ s.handler.pending, ∃ payload,
      (rtuMessages crc16modbus).createPayload u.request = .ok payload)
    (k : Nat) :
    ∃ arrived rest, answers = arrived ++ rest ∧
    Wired id t heap (s.received k) served frames rest ∧
      s.next (.ofTables id t) (.downstream k) =
        (s.received k).absorb
          ((s.received k).client.withHandler (handleAll crc16modbus s.handler arrived)) := by
  have huncut : (s.down.deliver k).Uncut fun _ _ => False := fun _ _ hk => hk
  obtain ⟨arrived, rest, hsplit, hrest, hfits, hstream, hwaits⟩ :=
    Wire.exists_deliver (F := SerialAnswer.format crc16modbus)
      (fun g _ => SerialAnswer.recognised g)
      ModbusRTUResponse.fromBuffer_nil (fun g _ k hk => hk) h.down k huncut
  have hdata := SerialAnswer.handleData_stream hstream hwaits
  rw [← h.responses] at hdata
  have haddressed := h.addressed
  rw [hsplit] at haddressed
  obtain ⟨harrived, hrest'⟩ := List.forall_mem_append.mp haddressed
  have hreceived : ({ s.client with _responseHandler :=
      (Transport.rtu crc16modbus).handleData s.client._responseHandler (s.down.next k) } :
        MBClient (.rtu crc16modbus)) =
          MBClient.mk (w := .rtu crc16modbus) s.client.unitId s.handler
          ⟨(s.down.deliver k).front, arrived.map (SerialAnswer.received crc16modbus)⟩ :=
    congrArg (fun handler =>
      ({ s.client with _responseHandler := handler } : MBClient (.rtu crc16modbus))) hdata
  have honData : s.client._onData (s.down.next k) = _ :=
    (congrArg MBClient.dataLoop.exec hreceived).trans
      (MBClient.exec_answers s.client.unitId (s.down.deliver k).front arrived s.handler hencodes
        harrived)
  refine ⟨arrived, rest, hsplit, ?_, ?_⟩
  · exact { h with
      down := hrest
      downFits := hfits
      responses := rfl
      addressed := hrest' }
  · rw [SerialLine.next, honData]
    rfl

end NodeModbus

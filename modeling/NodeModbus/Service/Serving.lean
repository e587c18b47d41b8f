import NodeModbus.Service.System

/-!
# What a data event of a server does to a stream

The bytes of a connection arrive in pieces. A data event serves the requests whose
last byte it brings, from the last one to the first, and keeps what has arrived of the
next one.

- `handle_stream`: what the request handler makes of whole frames and a part of one.
- `onData_stream`: what the data event does to the memory the tables stand for.
- `exists_answers`: the answers, each with the frame it is written in.
-/

namespace NodeModbus

open Buffer Words
open ModbusServerRequestHandler (plausibleFrameStart)

namespace Transport

/-- The request handler accepts the frames that are whole, and keeps the rest. -/
theorem handle_stream (w : Transport) (frames : List w.Frame) {p : Buffer}
    (hnone : w.reader.fromBuffer p = none)
    (hwait : w.reader.isRtu = false ∨ plausibleFrameStart p ∨ p.length = 0)
    (queue : List w.Request) :
    ∃ requests, List.Forall₂ w.Carries frames requests ∧
      ModbusServerRequestHandler.handle w.reader ⟨queue, []⟩ (frames.flatMap w.payload ++ p) =
        (⟨requests.reverse ++ queue, p⟩, .ok ()) := by
  induction frames generalizing queue with
  | nil =>
    exact ⟨[], .nil, ModbusServerRequestHandler.handle_wait (h := ⟨queue, []⟩) hnone hwait⟩
  | cons f frames ih =>
    obtain ⟨r, hr, hf⟩ := handle_frame w f queue (frames.flatMap w.payload ++ p)
    obtain ⟨requests, hrequests, hrest⟩ := ih (r :: queue)
    refine ⟨r :: requests, .cons hr hrequests, ?_⟩
    rw [List.flatMap_cons, List.append_assoc, hf, hrest, List.reverse_cons, List.append_assoc,
      List.singleton_append]

end Transport

namespace ModbusServerClient

open Transport

variable {w : Transport}

/-- The frames whose last byte arrives in a data event are served from the last one to the
first. -/
theorem onData_stream (id : Option Int) (t : Tables) (heap : Heap) {m : Memory} (hm : m.Whole)
    {kept data p : Buffer} {frames : List w.Frame} {ops : List Operation}
    (hstream : kept ++ data = frames.flatMap w.payload ++ p)
    (hnone : w.reader.fromBuffer p = none)
    (hwait : w.reader.isRtu = false ∨ plausibleFrameStart p ∨ p.length = 0)
    (hasks : List.Forall₂ w.FrameAsksFor frames ops)
    (haddress : ∀ f ∈ frames, (ModbusServer.ofTables id t).ignores (w.header f).2 = false)
    (hrange : ∀ op ∈ ops, op.InRange m) {served : List w.Frame} {performed : List Operation}
    (hserved : frames.reverse = served) (hperformed : ops.reverse = performed) :
    _onData w (.ofTables id t) ⟨⟨[], kept⟩, m.store t heap, []⟩ data =
      (⟨⟨[], p⟩, (Memory.machine.run m performed).1.store t heap,
        List.zipWith (fun f a => w.responseFrame f a.pdu) served
          (Memory.machine.run m performed).2⟩,
        .ok ()) := by
  subst hserved hperformed
  obtain ⟨requests, hcarries, hhandle⟩ := handle_stream w frames hnone hwait []
  have hcarries' : List.Forall₂ w.Carries frames.reverse requests.reverse :=
    List.forall₂_reverse_iff.mpr hcarries
  have hasks' := asksFor_of_carries hcarries' (List.forall₂_reverse_iff.mpr hasks)
  have hrun := (handle_represents w id t heap).run_eq hasks' m fun op hop =>
    ⟨hm, hrange op (List.mem_reverse.mp hop)⟩
  have hignores := ignores_of_carries hcarries' fun f hf => haddress f (List.mem_reverse.mp hf)
  have hout : ((serverMachine w id t).run (m.store t heap) requests.reverse).2 =
      (List.zipWith (fun r a => w.frame r a.pdu) requests.reverse
        (Memory.machine.run m ops.reverse).2).map fun p => .ok (some p) := by
    rw [hrun, List.map_zipWith]
  have hexec := exec_eq_run w id t p (m.store t heap) [] hignores hout
  -- the handler only looks at what it has kept with the new bytes behind it
  have hkept : ModbusServerRequestHandler.handle w.reader ⟨[], kept⟩ data =
      (⟨requests.reverse, p⟩, .ok ()) := by
    rw [List.append_nil, ← hstream] at hhandle
    exact hhandle
  rw [_onData, hkept]
  show (onDataLoop w _).exec _ = _
  rw [hexec, hrun, zipWith_frame hcarries', List.nil_append]

end ModbusServerClient

/-! ## The answers of a data event -/

/-- A request of a client on its way to the server: the number the client has given it, its
frame, and the operation it asks for. -/
structure Flight where
  key : Nat
  frame : TcpFrame
  op : Operation
  asks : frame.request.body.content.operation = some op

/-- The request, as the client knows it. -/
def Flight.request (x : Flight) : UserRequest ModbusTCPRequest := ⟨x.key, x.frame.request⟩

theorem Flight.asksFor (flights : List Flight) :
    List.Forall₂ (Transport.FrameAsksFor .tcp) (flights.map Flight.frame)
      (flights.map Flight.op) := by
  induction flights with
  | nil => exact .nil
  | cons x flights ih => exact .cons x.asks ih

/-- The response frame `g` brings the answer `a` to the request `x`. -/
structure Flight.Answered (x : Flight) (a : Answer) (g : Nat × TcpResponseFrame) : Prop where
  key : g.1 = x.key
  id : g.2.response.id = x.frame.request.id
  unitId : g.2.response.unitId = x.frame.request.unitId
  body : g.2.response.body = a.body
  payload : g.2.payload = Transport.responseFrame .tcp x.frame a.pdu

/-- The answer to an operation in range has a response frame. -/
theorem Flight.exists_answered (x : Flight) {m : Memory} (h : x.op.InRange m) :
    ∃ g, x.Answered (m.answer x.op) g := by
  obtain ⟨r, hr, -⟩ := Transport.handle_frame .tcp x.frame [] []
  have hasks : Transport.AsksFor .tcp r x.op := ⟨hr.decoded, hr.content ▸ x.asks⟩
  obtain ⟨id, unitId, p, hf⟩ := x.frame.exists_parts
  have hid : IsUInt16 x.frame.request.id := hf.id_eq ▸ isUInt16_natCast hf.id_lt
  have hunit : IsUInt8 x.frame.request.unitId := hf.unitId_eq ▸ isUInt8_natCast hf.unitId_lt
  exact ⟨(x.key, .ofAnswer _ _ (m.answer x.op) hid hunit (fits_answer hasks h)), rfl, rfl, rfl,
    rfl, rfl⟩

/-- Requests that are served one after another: the frames that are written, and the answer
each of them brings. -/
theorem exists_answers {ι : Type} (i : ι) {flights : List Flight} {m : Memory}
    (h : ∀ x ∈ flights, x.op.InRange m) :
    ∃ gs : List (Nat × TcpResponseFrame),
      gs.map (fun g => g.2.payload) =
        List.zipWith (fun f a => Transport.responseFrame .tcp f a.pdu)
          (flights.map Flight.frame)
          (Memory.machine.run m (flights.map Flight.op)).2 ∧
      ∀ g ∈ gs, ∃ x ∈ flights, ∃ a, x.Answered a g ∧
        (((i, x.key), x.op), a.content) ∈
          (flights.map fun x => ((i, x.key), x.op)).zip
            (Memory.observed.run m (flights.map Flight.op)).2 := by
  induction flights generalizing m with
  | nil => exact ⟨[], rfl, fun g hg => nomatch hg⟩
  | cons x flights ih =>
    have hx := h x (List.mem_cons_self ..)
    obtain ⟨g, hg⟩ := x.exists_answered hx
    obtain ⟨gs, hpayloads, hanswers⟩ :=
      @ih (m.update x.op) fun y hy => hx.update (h y (List.mem_cons_of_mem _ hy))
    refine ⟨g :: gs, ?_, ?_⟩
    · rw [List.map_cons, hpayloads, hg.payload]
      rfl
    · intro g' hg'
      rcases List.mem_cons.mp hg' with rfl | hg'
      · exact ⟨x, List.mem_cons_self .., _, hg, List.mem_cons_self ..⟩
      · obtain ⟨y, hy, a, hya, hmem⟩ := hanswers g' hg'
        exact ⟨y, List.mem_cons_of_mem _ hy, a, hya, List.mem_cons_of_mem _ hmem⟩

end NodeModbus

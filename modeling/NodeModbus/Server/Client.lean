import Mathlib.Data.List.Forall2
import Mathlib.Data.List.Nodup
import NodeModbus.Server.Refinement

/-!
# One connection of a server

`ModbusServerClient` puts the two handlers together: a data event goes to the
request handler, whose queue is then served by the response handler. The queue is
served from its front, which is where the request handler puts what it accepts
last.

- `_onData`: one data event.
- `onData_eq`: the frames that arrive in one data event are served from the last
  one to the first.
- `servedInOrder_iff`: they are answered in their order, with the tables they leave
  in their order, if and only if the list can be read backwards.
- `palindromic_iff_length_le_one`: with different transaction ids these are the
  lists of at most one frame.
-/

namespace NodeModbus

open Buffer Words

/-! ## The connection -/

/-- A connection: its request handler, the buffers in memory, and what was written to the
socket, the oldest payload first. -/
structure ModbusServerClient (ρ : Type) where
  _requestHandler : ModbusServerRequestHandler ρ
  heap : Heap
  written : List Buffer

/-- The check of the slave id: a server without an id, or with id zero, takes every request. -/
def ModbusServer.ignores (server : ModbusServer) (address : Int) : Bool :=
  match server.id with
  | none => false
  | some id => id ≠ 0 ∧ id ≠ address

namespace ModbusServerClient

variable (w : Transport)

open Loop in
/-- One round of the loop in `_onData`. -/
def onDataRound (server : ModbusServer) (c : ModbusServerClient w.Request) :
    Round (ModbusServerClient w.Request) (ModbusServerClient w.Request × Except Thrown Unit) :=
  match c._requestHandler.shift with
  | (none, _) => .leave (c, .ok ())
  | (some request, requestHandler) =>
    let c := { c with _requestHandler := requestHandler }
    if server.ignores (w.address request) then .next c
    else match ModbusServerResponseHandler.handle w.responder server c.heap request with
      | (heap, .error e) => .leave ({ c with heap }, .error e)
      | (heap, .ok none) => .next { c with heap }
      | (heap, .ok (some response)) => .next { c with heap, written := c.written ++ [response] }

/-- The loop in `_onData`: every round takes a request off the queue. -/
def onDataLoop (server : ModbusServer) :
    Loop.Body (ModbusServerClient w.Request)
      (ModbusServerClient w.Request × Except Thrown Unit) where
  round := onDataRound w server
  measure c := c._requestHandler._requests.length
  decreases := by
    intro c c' h
    unfold onDataRound at h
    split at h
    · cases h
    · rename_i request requestHandler hshift
      -- the next round starts with what `shift` has left of the queue
      refine lt_of_eq_of_lt ?_ (ModbusServerRequestHandler.length_shift_lt hshift)
      split at h
      · cases h
        rfl
      · dsimp only at h
        split at h
        · cases h
        · cases h
          rfl
        · cases h
          rfl

/-- The method `_onData`: the state it leaves, and whether it throws. -/
def _onData (server : ModbusServer) (c : ModbusServerClient w.Request) (data : Buffer) :
    ModbusServerClient w.Request × Except Thrown Unit :=
  match ModbusServerRequestHandler.handle w.reader c._requestHandler data with
  | (requestHandler, .error e) => ({ c with _requestHandler := requestHandler }, .error e)
  | (requestHandler, .ok ()) =>
    (onDataLoop w server).exec { c with _requestHandler := requestHandler }

section Queue

variable (server : ModbusServer) (buffer : Buffer) (heap : Heap) (written : List Buffer)

theorem exec_idle :
    (onDataLoop w server).exec ⟨⟨[], buffer⟩, heap, written⟩ =
      (⟨⟨[], buffer⟩, heap, written⟩, .ok ()) :=
  Loop.Body.exec_leave rfl

/-- A request for another slave is dropped. -/
theorem exec_ignored {request : w.Request}
    (hignores : server.ignores (w.address request) = true) (requests : List w.Request) :
    (onDataLoop w server).exec ⟨⟨request :: requests, buffer⟩, heap, written⟩ =
      (onDataLoop w server).exec ⟨⟨requests, buffer⟩, heap, written⟩ := by
  refine Loop.Body.exec_next ?_
  rw [show (onDataLoop w server).round = onDataRound w server from rfl]
  simp [onDataRound, ModbusServerRequestHandler.shift, hignores]

/-- The rest of the queue is served with the memory the first request leaves. -/
theorem exec_answered {request : w.Request}
    (hignores : server.ignores (w.address request) = false) {heap' : Heap} {payload : Buffer}
    (hhandle : ModbusServerResponseHandler.handle w.responder server heap request =
      (heap', .ok (some payload)))
    (requests : List w.Request) :
    (onDataLoop w server).exec ⟨⟨request :: requests, buffer⟩, heap, written⟩ =
      (onDataLoop w server).exec ⟨⟨requests, buffer⟩, heap', written ++ [payload]⟩ := by
  refine Loop.Body.exec_next ?_
  rw [show (onDataLoop w server).round = onDataRound w server from rfl]
  simp [onDataRound, ModbusServerRequestHandler.shift, hignores, hhandle]

end Queue

/-- A queue whose requests are all answered is served from its front. -/
theorem exec_eq_run (id : Option Int) (t : Tables) {requests : List w.Request}
    {payloads : List Buffer} (buffer : Buffer) (heap : Heap) (written : List Buffer)
    (haddress : ∀ r ∈ requests, (ModbusServer.ofTables id t).ignores (w.address r) = false)
    (hout : ((serverMachine w id t).run heap requests).2 = payloads.map fun p => .ok (some p)) :
    (onDataLoop w (.ofTables id t)).exec ⟨⟨requests, buffer⟩, heap, written⟩ =
      (⟨⟨[], buffer⟩, ((serverMachine w id t).run heap requests).1, written ++ payloads⟩,
        .ok ()) := by
  induction requests generalizing heap written payloads with
  | nil =>
    obtain rfl : payloads = [] := List.map_eq_nil_iff.mp hout.symm
    rw [List.append_nil]
    exact exec_idle w _ buffer heap written
  | cons request requests ih =>
    rw [Refinement.Machine.run_cons] at hout ⊢
    obtain ⟨p, payloads, rfl⟩ : ∃ p ps, payloads = p :: ps := by
      cases payloads with
      | nil => cases hout
      | cons p ps => exact ⟨p, ps, rfl⟩
    obtain ⟨hhead, htail⟩ := List.cons.inj hout
    have hrest :=
      ih _ (written ++ [p]) (fun r hr => haddress r (List.mem_cons_of_mem _ hr)) htail
    rw [List.append_assoc, List.singleton_append] at hrest
    rw [← hrest]
    exact exec_answered w _ buffer heap written (haddress request (List.mem_cons_self ..))
      (Prod.ext rfl hhead) requests

end ModbusServerClient

/-! ## Frames -/

namespace Transport

/-- A request that is sent, with its bytes. -/
def Frame : Transport → Type
  | tcp => TcpFrame
  | rtu crc16modbus => RtuFrame crc16modbus

/-- The bytes of a frame. -/
def payload : (w : Transport) → w.Frame → Buffer
  | tcp => TcpFrame.payload
  | rtu _ => RtuFrame.payload

/-- What the frame asks for. -/
def content : (w : Transport) → w.Frame → RequestContent
  | tcp, (f : TcpFrame) => f.request.body.content
  | rtu _, (f : RtuFrame _) => f.request.body.content

/-- What a frame carries besides its body: transaction id and unit id, or the address byte. -/
def header : (w : Transport) → w.Frame → Option Int × Int
  | tcp, (f : TcpFrame) => (some f.request.id, f.request.unitId)
  | rtu _, (f : RtuFrame _) => (none, (toByte f.request.address).toNat)

/-- The response frame to a frame, around the payload of a body. -/
def responseFrame : (w : Transport) → w.Frame → Buffer → Buffer
  | tcp, (f : TcpFrame), pdu => mbapFrame f.request.id.toNat 0 f.request.unitId.toNat pdu
  | rtu crc16modbus, (f : RtuFrame _), pdu =>
    ModbusRTURequest.frame crc16modbus (toByte f.request.address).toNat pdu

/-- The request that is decoded of a frame. -/
structure Carries (w : Transport) (f : w.Frame) (r : w.Request) : Prop where
  decoded : w.Decoded r
  content : (w.body r).content = w.content f
  address : w.address r = (w.header f).2
  frame : w.frame r = w.responseFrame f

/-- The request handler accepts a frame at the front of what arrives. -/
theorem handle_frame (w : Transport) (f : w.Frame) (queue : List w.Request) (rest : Buffer) :
    ∃ r, w.Carries f r ∧
      ModbusServerRequestHandler.handle w.reader ⟨queue, []⟩ (w.payload f ++ rest) =
        ModbusServerRequestHandler.handle w.reader ⟨r :: queue, []⟩ rest := by
  cases w with
  | tcp =>
    obtain ⟨body, hcontent, hsome⟩ := TcpFrame.fromBuffer_append f rest
    refine ⟨_, ⟨decoded_tcp hsome, hcontent, rfl, rfl⟩, ?_⟩
    refine ModbusServerRequestHandler.handle_append (R := tcpReader) hsome rfl rfl ?_
    show ((TcpFrame.payload f).length : Int) - 6 + 6 = (TcpFrame.payload f).length
    omega
  | rtu crc16modbus =>
    obtain ⟨body, hcontent, hsome, hcorrupted, ⟨line, hline⟩, hcount⟩ :=
      RtuFrame.fromBuffer_append f rest
    refine ⟨_, ⟨decoded_rtu hsome hcorrupted, hcontent, rfl, rfl⟩, ?_⟩
    exact ModbusServerRequestHandler.handle_append (R := rtuReader crc16modbus) hsome hline
      hcorrupted hcount

/-- The request handler accepts the frames that arrive, and puts the last one in front. -/
theorem handle_frames (w : Transport) (frames : List w.Frame) (queue : List w.Request) :
    ∃ requests, List.Forall₂ w.Carries frames requests ∧
      ModbusServerRequestHandler.handle w.reader ⟨queue, []⟩ (frames.flatMap w.payload) =
        (⟨requests.reverse ++ queue, []⟩, .ok ()) := by
  induction frames generalizing queue with
  | nil =>
    have hnone : w.reader.fromBuffer [] = none := w.reader.fromBuffer_nil
    exact ⟨[], .nil, ModbusServerRequestHandler.handle_wait (h := ⟨queue, []⟩) hnone
      (.inr (.inr rfl))⟩
  | cons f frames ih =>
    obtain ⟨r, hr, hf⟩ := handle_frame w f queue (frames.flatMap w.payload)
    obtain ⟨requests, hrequests, hrest⟩ := ih (r :: queue)
    refine ⟨r :: requests, .cons hr hrequests, ?_⟩
    rw [List.flatMap_cons, hf, hrest, List.reverse_cons, List.append_assoc,
      List.singleton_append]

/-- The frame asks for the operation. -/
def FrameAsksFor (w : Transport) (f : w.Frame) (op : Operation) : Prop :=
  (w.content f).operation = some op

theorem asksFor_of_carries {w : Transport} {frames : List w.Frame} {requests : List w.Request}
    {ops : List Operation} (hcarries : List.Forall₂ w.Carries frames requests)
    (hasks : List.Forall₂ w.FrameAsksFor frames ops) : List.Forall₂ w.AsksFor requests ops := by
  induction hcarries generalizing ops with
  | nil =>
    cases hasks
    exact .nil
  | cons hr _ ih =>
    cases hasks with
    | cons hop hops => exact .cons ⟨hr.decoded, hr.content ▸ hop⟩ (ih hops)

theorem ignores_of_carries {w : Transport} {server : ModbusServer} {frames : List w.Frame}
    {requests : List w.Request} (hcarries : List.Forall₂ w.Carries frames requests)
    (haddress : ∀ f ∈ frames, server.ignores (w.header f).2 = false) :
    ∀ r ∈ requests, server.ignores (w.address r) = false := by
  induction hcarries with
  | nil => exact fun r hr => absurd hr List.not_mem_nil
  | cons hr _ ih =>
    intro r hmem
    rcases List.mem_cons.mp hmem with rfl | hmem
    · rw [hr.address]
      exact haddress _ (List.mem_cons_self ..)
    · exact ih (fun f hf => haddress f (List.mem_cons_of_mem _ hf)) r hmem

theorem zipWith_frame {w : Transport} {frames : List w.Frame} {requests : List w.Request}
    (hcarries : List.Forall₂ w.Carries frames requests) (answers : List Answer) :
    List.zipWith (fun r a => w.frame r a.pdu) requests answers =
      List.zipWith (fun f a => w.responseFrame f a.pdu) frames answers := by
  induction hcarries generalizing answers with
  | nil => rfl
  | cons hr _ ih =>
    cases answers with
    | nil => rfl
    | cons a answers => rw [List.zipWith_cons_cons, List.zipWith_cons_cons, ih, hr.frame]

end Transport

/-! ## What a data event does -/

namespace ModbusServerClient

open Transport

variable {w : Transport}

/-- The frames that arrive in one data event are served from the last one to the first. -/
theorem onData_eq (id : Option Int) (t : Tables) (heap : Heap) (written : List Buffer)
    {frames : List w.Frame} {ops : List Operation}
    (hasks : List.Forall₂ w.FrameAsksFor frames ops)
    (haddress : ∀ f ∈ frames, (ModbusServer.ofTables id t).ignores (w.header f).2 = false)
    (hrange : ∀ op ∈ ops, op.InRange (.load t heap)) :
    _onData w (.ofTables id t) ⟨.new, heap, written⟩ (frames.flatMap w.payload) =
      (⟨.new, (Memory.machine.run (.load t heap) ops.reverse).1.store t heap,
        written ++ List.zipWith (fun f a => w.responseFrame f a.pdu) frames.reverse
          (Memory.machine.run (.load t heap) ops.reverse).2⟩, .ok ()) := by
  obtain ⟨requests, hcarries, hhandle⟩ := handle_frames w frames []
  -- the queue is the list of requests from the last one to the first, and is served from
  -- its front
  have hcarries' : List.Forall₂ w.Carries frames.reverse requests.reverse :=
    List.forall₂_reverse_iff.mpr hcarries
  have hasks' := asksFor_of_carries hcarries' (List.forall₂_reverse_iff.mpr hasks)
  have hrun := (handle_represents w id t heap).run_eq hasks' (.load t heap) fun op hop =>
    ⟨Memory.whole_load t heap, hrange op (List.mem_reverse.mp hop)⟩
  rw [Memory.store_load] at hrun
  have hignores := ignores_of_carries hcarries' fun f hf => haddress f (List.mem_reverse.mp hf)
  have hout : ((serverMachine w id t).run heap requests.reverse).2 =
      (List.zipWith (fun r a => w.frame r a.pdu) requests.reverse
        (Memory.machine.run (.load t heap) ops.reverse).2).map fun p => .ok (some p) := by
    rw [hrun, List.map_zipWith]
  have hexec := exec_eq_run w id t [] heap written hignores hout
  rw [List.append_nil] at hhandle
  rw [_onData, ModbusServerRequestHandler.new, hhandle]
  show (onDataLoop w _).exec _ = _
  rw [hexec, hrun, zipWith_frame hcarries']

/-! ## When the order does not show -/

/-- What is promised of the frames of one data event: they are answered in their order, and the
tables are as if they had been served in their order. -/
structure ServedInOrder (w : Transport) (id : Option Int) (t : Tables) (heap : Heap)
    (written : List Buffer) (frames : List w.Frame) (ops : List Operation) : Prop where
  answered :
    (_onData w (.ofTables id t) ⟨.new, heap, written⟩ (frames.flatMap w.payload)).1.written =
    written ++ List.zipWith (fun f a => w.responseFrame f a.pdu) frames
      (Memory.machine.run (.load t heap) ops).2
  tables :
    (_onData w (.ofTables id t) ⟨.new, heap, written⟩ (frames.flatMap w.payload)).1.heap =
    (Memory.machine.run (.load t heap) ops).1.store t heap

/-- A list of frames that can be read backwards: the ids are the same in both directions,
and the operations have the same answers, and leave the same memory, in both. -/
structure Palindromic (w : Transport) (m : Memory) (frames : List w.Frame)
    (ops : List Operation) : Prop where
  headers : frames.map w.header = (frames.map w.header).reverse
  answers : (Memory.machine.run m ops).2.map Answer.pdu =
    (Memory.machine.run m ops.reverse).2.map Answer.pdu
  memory : (Memory.machine.run m ops).1 = (Memory.machine.run m ops.reverse).1

/-- A response frame determines what the frame carries and the payload of the body. -/
theorem responseFrame_eq_iff (f g : w.Frame) (p q : Buffer) :
    w.responseFrame f p = w.responseFrame g q ↔ w.header f = w.header g ∧ p = q := by
  cases w with
  | tcp =>
    obtain ⟨id, unitId, _, hf⟩ := TcpFrame.exists_parts f
    obtain ⟨id', unitId', _, hg⟩ := TcpFrame.exists_parts g
    simp only [responseFrame, header, hf.id_eq, hf.unitId_eq, hg.id_eq, hg.unitId_eq,
      Int.toNat_natCast]
    constructor
    · intro h
      obtain ⟨rfl, rfl, rfl⟩ :=
        mbapFrame_injective hf.id_lt hg.id_lt hf.unitId_lt hg.unitId_lt h
      exact ⟨rfl, rfl⟩
    · rintro ⟨h, rfl⟩
      obtain ⟨hid, hunit⟩ := Prod.mk.inj h
      rw [Int.ofNat_inj.mp (Option.some.inj hid), Int.ofNat_inj.mp hunit]
  | rtu crc16modbus =>
    simp only [responseFrame, header]
    constructor
    · intro h
      obtain ⟨ha, rfl⟩ := ModbusRTURequest.frame_injective crc16modbus h
      rw [toByte_toNat, toByte_toNat] at ha
      exact ⟨by rw [ha], rfl⟩
    · rintro ⟨h, rfl⟩
      rw [(Prod.mk.inj h).2]

/-- Two lists that are zipped with a function that keeps its arguments apart. -/
theorem zipWith_eq_iff {α β γ δ ε : Type} {f : α → β → γ} {h : α → δ} {g : β → ε}
    (hf : ∀ x y a b, f x a = f y b ↔ h x = h y ∧ g a = g b) {xs ys : List α} {as bs : List β}
    (hlen : xs.length = as.length) (hlen' : ys.length = bs.length) :
    List.zipWith f xs as = List.zipWith f ys bs ↔
    xs.map h = ys.map h ∧ as.map g = bs.map g := by
  induction xs generalizing ys as bs with
  | nil =>
    obtain rfl : as = [] := List.eq_nil_of_length_eq_zero hlen.symm
    cases ys with
    | nil =>
      obtain rfl : bs = [] := List.eq_nil_of_length_eq_zero hlen'.symm
      simp
    | cons y ys =>
      obtain ⟨b, bs, rfl⟩ := List.exists_cons_of_length_eq_add_one hlen'.symm
      simp
  | cons x xs ih =>
    obtain ⟨a, as, rfl⟩ := List.exists_cons_of_length_eq_add_one hlen.symm
    cases ys with
    | nil => simp
    | cons y ys =>
      obtain ⟨b, bs, rfl⟩ := List.exists_cons_of_length_eq_add_one hlen'.symm
      have hrest := ih (Nat.succ.inj hlen) (Nat.succ.inj hlen')
      simp only [List.zipWith_cons_cons, List.map_cons, List.cons.injEq, hf, hrest]
      constructor
      · rintro ⟨⟨hx, ha⟩, hxs, has⟩
        exact ⟨⟨hx, hxs⟩, ha, has⟩
      · rintro ⟨⟨hx, hxs⟩, ha, has⟩
        exact ⟨⟨hx, ha⟩, hxs, has⟩

/-- With different ids, only a list of at most one frame can be read backwards. -/
theorem palindromic_iff_length_le_one {m : Memory} {frames : List w.Frame}
    {ops : List Operation} (hasks : List.Forall₂ w.FrameAsksFor frames ops)
    (hnodup : (frames.map w.header).Nodup) :
    Palindromic w m frames ops ↔ frames.length ≤ 1 := by
  constructor
  · intro h
    by_contra hlen
    have hlast : frames.length - 1 < (frames.map w.header).length := by
      rw [List.length_map]
      omega
    have hpos : 0 < (frames.map w.header).length := by omega
    -- the first and the last header are the same
    have hfirst : (frames.map w.header)[0] = (frames.map w.header)[frames.length - 1] := by
      have hget := congrArg (fun l => l[0]?) h.headers
      simp only [List.getElem?_reverse hpos, List.length_map] at hget
      rw [List.getElem?_eq_getElem hpos, List.getElem?_eq_getElem (by omega)] at hget
      exact Option.some.inj hget
    have hindex := (List.Nodup.getElem_inj_iff hnodup).mp hfirst
    omega
  · intro hlen
    cases hasks with
    | nil => exact ⟨rfl, rfl, rfl⟩
    | cons _ hrest =>
      cases hrest with
      | nil => exact ⟨rfl, rfl, rfl⟩
      | cons => simp at hlen

/-- The frames of one data event are served in their order if and only if they can be read
backwards. -/
theorem servedInOrder_iff (id : Option Int) (t : Tables) (heap : Heap) (written : List Buffer)
    {frames : List w.Frame} {ops : List Operation}
    (hasks : List.Forall₂ w.FrameAsksFor frames ops)
    (haddress : ∀ f ∈ frames, (ModbusServer.ofTables id t).ignores (w.header f).2 = false)
    (hrange : ∀ op ∈ ops, op.InRange (.load t heap)) :
    ServedInOrder w id t heap written frames ops ↔ Palindromic w (.load t heap) frames ops := by
  have honData := onData_eq id t heap written hasks haddress hrange
  have hlen := hasks.length_eq
  have hlenReverse : frames.reverse.length =
      (Memory.machine.run (.load t heap) ops.reverse).2.length := by
    rw [Refinement.Machine.length_run, List.length_reverse, List.length_reverse, hlen]
  have hwritten := zipWith_eq_iff (g := Answer.pdu)
    (fun f g a b => responseFrame_eq_iff (w := w) f g a.pdu b.pdu) hlenReverse
    (hlen.trans (Refinement.Machine.length_run Memory.machine (.load t heap) ops).symm)
  have hwhole := Memory.whole_load t heap
  constructor
  · rintro ⟨hw, htables⟩
    rw [honData] at hw htables
    -- equal responses have equal headers and equal answers
    obtain ⟨hheaders, hanswers⟩ := hwritten.mp (List.append_cancel_left hw)
    refine ⟨?_, hanswers.symm, ?_⟩
    · rw [← List.map_reverse, hheaders]
    · exact (Memory.store_injective t heap
        (Memory.whole_run hwhole fun op hop => hrange op (List.mem_reverse.mp hop))
        (Memory.whole_run hwhole hrange) htables).symm
  · rintro ⟨hheaders, hanswers, hmemory⟩
    have hw := hwritten.mpr ⟨by rw [List.map_reverse, ← hheaders], hanswers.symm⟩
    refine ⟨?_, ?_⟩ <;> rw [honData]
    · rw [hw]
    · rw [hmemory]

/-- A write of the value 1 to register 0, with transaction id 1, to unit 1. -/
def writeOne : TcpFrame where
  request :=
    { id := 1, protocol := 0, length := 6, unitId := 1,
      body := .writeSingleRegister ⟨0, 1, zero_le_address, by decide⟩ }
  payload := [0, 1, 0, 0, 0, 6, 1, 6, 0, 0, 0, 1]
  sendable := trivial
  encoded := rfl

/-- A write of the value 2 to the same register, with transaction id 2. -/
def writeTwo : TcpFrame where
  request :=
    { id := 2, protocol := 0, length := 6, unitId := 1,
      body := .writeSingleRegister ⟨0, 2, zero_le_address, by decide⟩ }
  payload := [0, 2, 0, 0, 0, 6, 1, 6, 0, 0, 0, 2]
  sendable := trivial
  encoded := rfl

/-- Backwards these are the same three writes. -/
theorem servedInOrder_iff_writeOne_writeTwo :
    ServedInOrder .tcp none ⟨0, 1, 2, 3, by decide⟩ (fun _ => [0, 0]) []
        [writeOne, writeTwo, writeOne]
        [.writeRegister 0 1, .writeRegister 0 2, .writeRegister 0 1] ↔
      Palindromic .tcp (.load ⟨0, 1, 2, 3, by decide⟩ fun _ => [0, 0])
        [writeOne, writeTwo, writeOne]
        [.writeRegister 0 1, .writeRegister 0 2, .writeRegister 0 1] :=
  servedInOrder_iff none ⟨0, 1, 2, 3, by decide⟩ (fun _ => [0, 0]) []
    (.cons rfl (.cons rfl (.cons rfl .nil))) (fun _ _ => rfl) (by decide)

/-- The second write arrives last, and the first one wins. -/
theorem not_servedInOrder_writeOne_writeTwo :
    List.Forall₂ (FrameAsksFor .tcp) [writeOne, writeTwo]
      [.writeRegister 0 1, .writeRegister 0 2] ∧
      (∀ op ∈ [Operation.writeRegister 0 1, .writeRegister 0 2],
        op.InRange (.load ⟨0, 1, 2, 3, by decide⟩ fun _ => [0, 0])) ∧
      ¬ ServedInOrder .tcp none ⟨0, 1, 2, 3, by decide⟩ (fun _ => [0, 0]) []
        [writeOne, writeTwo]
        [.writeRegister 0 1, .writeRegister 0 2] :=
  ⟨.cons rfl (.cons rfl .nil), by decide, fun h => absurd (congrFun h.tables
    2) (by decide +kernel)⟩

end ModbusServerClient

end NodeModbus

import NodeModbus.Lib.Framing
import NodeModbus.Lib.Loop
import NodeModbus.Request.Frame

/-!
# The server's request handler

`ModbusServerRequestHandler` collects the bytes of a connection and takes
requests off the front of its buffer. TCP waits when the decoder returns null;
RTU decides between an incomplete frame and garbage, which it drops byte by
byte.

- `Reader`: what the handler uses of the request class it is made for.
- `handle`: one data event. `handle_eq`: it only depends on the buffer with the
  new bytes behind it, and adds what it accepts in front of the queue.
- `run_eq_feed`: a list of data events is `Framing.feed`.
- `drain_wait`, `drain_accept`: what happens at the front of a buffer.
- `tcpReader`, `rtuReader`: the two request classes.
-/

namespace NodeModbus

open Buffer

/-! ## The handler -/

/-- What the handler uses of a request class. A request the decoder returns has a positive byte
count, and there is none in an empty buffer, so every round of the loop consumes something. -/
structure Reader (ρ : Type) where
  fromBuffer : Buffer → Option ρ
  isRtu : Bool
  byteCount : ρ → Int
  corrupted : ρ → Bool
  toString : ρ → Except Thrown String
  fromBuffer_nil : fromBuffer [] = none
  byteCount_pos : ∀ {b r}, fromBuffer b = some r → 0 < byteCount r

/-- The requests that are waiting to be served, and the bytes that are no request yet. -/
structure ModbusServerRequestHandler (ρ : Type) where
  _requests : List ρ
  _buffer : Buffer
  deriving DecidableEq

namespace ModbusServerRequestHandler

variable {ρ : Type}

/-- The constructor. -/
def new : ModbusServerRequestHandler ρ := ⟨[], []⟩

/-- The queue is served from its front. -/
def shift (h : ModbusServerRequestHandler ρ) : Option ρ × ModbusServerRequestHandler ρ :=
  match h._requests with
  | [] => (none, h)
  | request :: requests => (some request, { h with _requests := requests })

/-- What is served leaves the queue. -/
theorem length_shift_lt {h h' : ModbusServerRequestHandler ρ} {request : ρ}
    (hshift : h.shift = (some request, h')) : h'._requests.length < h._requests.length := by
  unfold shift at hshift
  split at hshift
  · cases hshift
  · rename_i hrequests
    obtain ⟨-, rfl⟩ := Prod.mk.inj hshift
    rw [hrequests]
    exact Nat.lt_succ_self _

/-- The buffer may be the front of an RTU frame. -/
def plausibleFrameStart (buffer : Buffer) : Prop :=
  2 ≤ buffer.length ∧ isFunctionCode (buffer.getD 1 0).toNat = true ∧
    buffer.length ≤ MAX_RTU_ADU_SIZE

instance (buffer : Buffer) : Decidable (plausibleFrameStart buffer) :=
  inferInstanceAs (Decidable (_ ∧ _))

/-- The variables of the loop in `handle`. -/
structure HandleState (ρ : Type) where
  handler : ModbusServerRequestHandler ρ
  resyncing : Bool

open Loop in
/-- One round of the loop in `handle`: it ends with `break`, or when logging the request
throws. -/
def handleRound (R : Reader ρ) (s : HandleState ρ) :
    Round (HandleState ρ) (ModbusServerRequestHandler ρ × Except Thrown Unit) :=
  let buffer := s.handler._buffer
  match R.fromBuffer buffer with
  | none =>
    -- TCP waits for the rest; only RTU looks for the start of a frame
    if !R.isRtu then .leave (s.handler, .ok ())
    else if plausibleFrameStart buffer ∨ buffer.length = 0 then .leave (s.handler, .ok ())
    else .next
      { handler := { s.handler with _buffer := buffer.subarrayFrom 1 }, resyncing := true }
  | some request =>
    -- the request is logged before it is looked at, and the text of some cannot be made
    match R.toString request with
    | .error e => .leave (s.handler, .error e)
    | .ok _ =>
      if R.corrupted request then
        -- behind garbage a wrong CRC says that this is no frame, so one byte is dropped
        if s.resyncing then
          .next { s with handler := { s.handler with _buffer := buffer.subarrayFrom 1 } }
        else
          .next { s with handler :=
                    { s.handler with _buffer := buffer.subarrayFrom (R.byteCount request) } }
      else
        .next { handler := { _requests := request :: s.handler._requests,
                             _buffer := buffer.subarrayFrom (R.byteCount request) },
                resyncing := false }

/-- What a round that goes on has done: dropped a byte that starts no frame, dropped a byte or a
corrupted request, or accepted a request. -/
inductive Consumed (R : Reader ρ) (s : HandleState ρ) : HandleState ρ → Prop
  | garbage (hnone : R.fromBuffer s.handler._buffer = none) (hrtu : R.isRtu = true)
      (hstart : ¬ plausibleFrameStart s.handler._buffer) (hne : s.handler._buffer ≠ []) :
      Consumed R s { handler := { s.handler with _buffer := s.handler._buffer.subarrayFrom 1 },
                     resyncing := true }
  | slide {request : ρ} (hsome : R.fromBuffer s.handler._buffer = some request)
      (hcorrupted : R.corrupted request = true) (hresync : s.resyncing = true) :
      Consumed R s { s with handler :=
        { s.handler with _buffer := s.handler._buffer.subarrayFrom 1 } }
  | skip {request : ρ} (hsome : R.fromBuffer s.handler._buffer = some request)
      (hcorrupted : R.corrupted request = true) (hresync : s.resyncing = false) :
      Consumed R s { s with handler :=
        { s.handler with _buffer := s.handler._buffer.subarrayFrom (R.byteCount request) } }
  | accept {request : ρ} (hsome : R.fromBuffer s.handler._buffer = some request)
      (hcorrupted : R.corrupted request = false) :
      Consumed R s
        { handler := { _requests := request :: s.handler._requests,
                       _buffer := s.handler._buffer.subarrayFrom (R.byteCount request) },
          resyncing := false }

theorem handleRound_next {R : Reader ρ} {s s' : HandleState ρ}
    (h : handleRound R s = .next s') : Consumed R s s' := by
  unfold handleRound at h
  cases hb : R.fromBuffer s.handler._buffer with
  | none =>
    simp only [hb] at h
    split_ifs at h with hrtu hwait
    cases h
    -- it did not wait, so the buffer starts no frame and is not empty
    refine .garbage hb (by simpa using hrtu) (fun hp => hwait (.inl hp)) fun hnil =>
      hwait (.inr ?_)
    rw [hnil]
    rfl
  | some request =>
    simp only [hb] at h
    split at h
    · cases h
    · split_ifs at h with hc hr
      · cases h
        exact .slide hb hc hr
      · cases h
        exact .skip hb hc (by simpa using hr)
      · cases h
        exact .accept hb (by simpa using hc)

/-- A round that leaves the loop leaves queue and buffer alone. -/
theorem handleRound_leave {R : Reader ρ} {s : HandleState ρ}
    {r : ModbusServerRequestHandler ρ × Except Thrown Unit} (h : handleRound R s = .leave r) :
    r.1 = s.handler := by
  unfold handleRound at h
  cases hb : R.fromBuffer s.handler._buffer with
  | none =>
    simp only [hb] at h
    split_ifs at h <;> cases h <;> rfl
  | some request =>
    simp only [hb] at h
    split at h
    · cases h
      rfl
    · split_ifs at h

theorem ne_nil_of_fromBuffer (R : Reader ρ) {buffer : Buffer} {request : ρ}
    (h : R.fromBuffer buffer = some request) : buffer ≠ [] := by
  rintro rfl
  rw [R.fromBuffer_nil] at h
  cases h

/-- The loop in `handle`: every round shortens the buffer. -/
def handleLoop (R : Reader ρ) :
    Loop.Body (HandleState ρ) (ModbusServerRequestHandler ρ × Except Thrown Unit) where
  round := handleRound R
  measure s := s.handler._buffer.length
  decreases := by
    intro s s' h
    cases handleRound_next h with
    | garbage _ _ _ hne => exact length_subarrayFrom_lt hne (by decide)
    | slide hsome => exact length_subarrayFrom_lt (ne_nil_of_fromBuffer R hsome) (by decide)
    | skip hsome =>
      exact length_subarrayFrom_lt (ne_nil_of_fromBuffer R hsome) (R.byteCount_pos hsome)
    | accept hsome =>
      exact length_subarrayFrom_lt (ne_nil_of_fromBuffer R hsome) (R.byteCount_pos hsome)

/-- The method `handle`: the state it leaves, and whether it throws. -/
def handle (R : Reader ρ) (h : ModbusServerRequestHandler ρ) (data : Buffer) :
    ModbusServerRequestHandler ρ × Except Thrown Unit :=
  (handleLoop R).exec { handler := { h with _buffer := h._buffer ++ data }, resyncing := false }

/-- A list of data events, one after another. -/
def run (R : Reader ρ) (h : ModbusServerRequestHandler ρ) (chunks : List Buffer) :
    ModbusServerRequestHandler ρ :=
  chunks.foldl (fun h chunk => (handle R h chunk).1) h

/-! ## What a data event depends on -/

/-- What a handler without a queue makes of a buffer: the requests in the order in which they
are accepted, and the bytes that are kept. -/
def drain (R : Reader ρ) (buffer : Buffer) : List ρ × Buffer :=
  let h := (handle R new buffer).1
  (h._requests.reverse, h._buffer)

/-- Put more requests behind the queue. -/
def enqueue (h : ModbusServerRequestHandler ρ) (queue : List ρ) :
    ModbusServerRequestHandler ρ :=
  { h with _requests := h._requests ++ queue }

/-- A round of the loop does not look at the queue. -/
theorem handleRound_enqueue (R : Reader ρ) (queue : List ρ) (s : HandleState ρ) :
    handleRound R { s with handler := s.handler.enqueue queue } =
      (handleRound R s).map (fun s => { s with handler := s.handler.enqueue queue })
        fun r => (r.1.enqueue queue, r.2) := by
  unfold handleRound
  simp only [enqueue]
  cases R.fromBuffer s.handler._buffer with
  | none =>
    by_cases hwait : plausibleFrameStart s.handler._buffer ∨ s.handler._buffer.length = 0
    · cases R.isRtu <;> simp only [hwait] <;> rfl
    · cases R.isRtu <;> simp only [hwait] <;> rfl
  | some request =>
    simp only
    cases R.toString request with
    | error e => rfl
    | ok _ =>
      simp only
      split_ifs <;> rfl

/-- Nor does the loop. -/
theorem exec_enqueue (R : Reader ρ) (s : HandleState ρ) (queue : List ρ) :
    (handleLoop R).exec { s with handler := s.handler.enqueue queue } =
      (((handleLoop R).exec s).1.enqueue queue, ((handleLoop R).exec s).2) :=
  Loop.Body.exec_map (l := handleLoop R) (handleRound_enqueue R queue) s

/-- A data event depends on the buffer with the new bytes behind it. What it accepts goes in
front of the queue, the last one first. -/
theorem handle_eq (R : Reader ρ) (h : ModbusServerRequestHandler ρ) (data : Buffer) :
    (handle R h data).1 =
      { _requests := (drain R (h._buffer ++ data)).1.reverse ++ h._requests,
        _buffer := (drain R (h._buffer ++ data)).2 } := by
  have happend := exec_enqueue R
    { handler := { _requests := [], _buffer := h._buffer ++ data }, resyncing := false }
    h._requests
  have hfst := congrArg Prod.fst happend
  rw [drain, List.reverse_reverse]
  exact hfst

/-- Data events are `Framing.feed`. -/
theorem run_eq_feed (R : Reader ρ) (h : ModbusServerRequestHandler ρ) (chunks : List Buffer) :
    run R h chunks =
      { _requests := (Framing.feed (drain R) chunks h._buffer).1.reverse ++ h._requests,
        _buffer := (Framing.feed (drain R) chunks h._buffer).2 } := by
  -- the queue is the reverse of what has been accepted
  have hstep (accepted : List ρ) (buffer chunk : Buffer) :
      (handle R ⟨accepted.reverse, buffer⟩ chunk).1 =
        ⟨(accepted ++ (drain R (buffer ++ chunk)).1).reverse,
          (drain R (buffer ++ chunk)).2⟩ := by
    rw [handle_eq, List.reverse_append]
  have hrun : run R ⟨h._requests.reverse.reverse, h._buffer⟩ chunks = _ :=
    Framing.foldl_eq_feed (fun accepted buffer => mk accepted.reverse buffer) hstep chunks
      h._requests.reverse h._buffer
  rw [List.reverse_reverse, List.reverse_append, List.reverse_reverse] at hrun
  exact hrun

theorem run_new (R : Reader ρ) (chunks : List Buffer) :
    run R new chunks =
      { _requests := (Framing.feed (drain R) chunks []).1.reverse,
        _buffer := (Framing.feed (drain R) chunks []).2 } := by
  rw [run_eq_feed, new, List.append_nil]

/-! ## The two readers -/

end ModbusServerRequestHandler

/-- The handler of TCP connections. -/
def tcpReader : Reader ModbusTCPRequest where
  fromBuffer := ModbusTCPRequest.fromBuffer
  isRtu := false
  byteCount := ModbusTCPRequest.byteCount
  corrupted := ModbusTCPRequest.corrupted
  toString := ModbusTCPRequest.toString
  fromBuffer_nil := rfl
  byteCount_pos := ModbusTCPRequest.byteCount_pos

/-- The handler of serial lines. -/
def rtuReader (crc16modbus : Buffer → UInt16) : Reader ModbusRTURequest where
  fromBuffer := ModbusRTURequest.fromBuffer crc16modbus
  isRtu := true
  byteCount := ModbusRTURequest.byteCount
  corrupted := ModbusRTURequest.corrupted
  toString := ModbusRTURequest.toString
  fromBuffer_nil := rfl
  byteCount_pos h := Int.lt_trans (by decide) (ModbusRTURequest.byteCount_of_fromBuffer _ h).1

namespace ModbusServerRequestHandler

/-! ## What happens at the front of a buffer -/

/-- Without a request the handler waits, unless it is RTU and the buffer starts no frame. -/
theorem handle_wait {R : Reader ρ} {h : ModbusServerRequestHandler ρ} {data : Buffer}
    (hnone : R.fromBuffer (h._buffer ++ data) = none)
    (hwait : R.isRtu = false ∨ plausibleFrameStart (h._buffer ++ data) ∨
      (h._buffer ++ data).length = 0) :
    handle R h data = ({ h with _buffer := h._buffer ++ data }, .ok ()) := by
  refine Loop.Body.exec_leave (l := handleLoop R) ?_
  show handleRound R _ = _
  rcases hwait with htcp | hwait
  · simp [handleRound, hnone, htcp]
  · cases hrtu : R.isRtu
    · simp [handleRound, hnone, hrtu]
    · simp only [handleRound, hnone, hrtu, if_pos hwait]
      rfl

/-- A request that is not corrupted is accepted, and its bytes are consumed. -/
theorem handle_accept {R : Reader ρ} {h : ModbusServerRequestHandler ρ} {data : Buffer}
    {request : ρ} {line : String} (hsome : R.fromBuffer (h._buffer ++ data) = some request)
    (hline : R.toString request = .ok line) (hcorrupted : R.corrupted request = false) :
    handle R h data =
      handle R { _requests := request :: h._requests,
                 _buffer := (h._buffer ++ data).subarrayFrom (R.byteCount request) } [] := by
  rw [handle, handle, List.append_nil]
  refine Loop.Body.exec_next (l := handleLoop R) ?_
  show handleRound R _ = _
  simp [handleRound, hsome, hline, hcorrupted]

/-- A frame in front of what arrives is accepted, and the handler goes on behind it. -/
theorem handle_append {R : Reader ρ} {queue : List ρ} {payload rest : Buffer} {request : ρ}
    {line : String} (hsome : R.fromBuffer (payload ++ rest) = some request)
    (hline : R.toString request = .ok line) (hcorrupted : R.corrupted request = false)
    (hcount : R.byteCount request = payload.length) :
    handle R ⟨queue, []⟩ (payload ++ rest) = handle R ⟨request :: queue, []⟩ rest := by
  rw [handle_accept hsome hline hcorrupted, hcount, List.nil_append, subarrayFrom_natCast,
    List.drop_left, handle, handle, List.append_nil, List.nil_append]

/-- A frame that is all that arrives is accepted. -/
theorem handle_whole {R : Reader ρ} {queue : List ρ} {payload : Buffer} {request : ρ}
    {line : String} (hsome : R.fromBuffer payload = some request)
    (hline : R.toString request = .ok line) (hcorrupted : R.corrupted request = false)
    (hcount : R.byteCount request = payload.length) :
    handle R ⟨queue, []⟩ payload = (⟨request :: queue, []⟩, .ok ()) := by
  have happend := @handle_append ρ R queue payload [] request line
    (by rwa [List.append_nil]) hline hcorrupted hcount
  rw [List.append_nil] at happend
  rw [happend]
  exact handle_wait R.fromBuffer_nil (.inr (.inr rfl))

theorem drain_wait {R : Reader ρ} {buffer : Buffer} (hnone : R.fromBuffer buffer = none)
    (hwait : R.isRtu = false ∨ plausibleFrameStart buffer ∨ buffer.length = 0) :
    drain R buffer = ([], buffer) := by
  rw [drain, handle_wait hnone hwait]
  rfl

theorem drain_accept {R : Reader ρ} {buffer : Buffer} {request : ρ} {line : String}
    (hsome : R.fromBuffer buffer = some request) (hline : R.toString request = .ok line)
    (hcorrupted : R.corrupted request = false) :
    drain R buffer =
      (request :: (drain R (buffer.subarrayFrom (R.byteCount request))).1,
        (drain R (buffer.subarrayFrom (R.byteCount request))).2) := by
  have haccept := handle_accept (h := new) hsome hline hcorrupted
  rw [drain, haccept, handle_eq, List.append_nil]
  simp [new]

/-- A byte that starts no frame is dropped. -/
theorem drain_garbage {R : Reader ρ} {x : UInt8} (hnone : R.fromBuffer [x] = none)
    (hrtu : R.isRtu = true) : drain R [x] = ([], []) := by
  have hround : (handleLoop R).round { handler := ⟨[], [x]⟩, resyncing := false } =
      .next { handler := ⟨[], []⟩, resyncing := true } := by
    show handleRound R _ = _
    simp [handleRound, hnone, hrtu, plausibleFrameStart, subarrayFrom, clampIndex]
  have hround' : (handleLoop R).round { handler := ⟨[], []⟩, resyncing := true } =
      .leave (⟨[], []⟩, .ok ()) := by
    show handleRound R _ = _
    simp [handleRound, R.fromBuffer_nil, hrtu]
  have hexec := Loop.Body.exec_next hround
  rw [Loop.Body.exec_leave hround'] at hexec
  rw [drain, handle, new, List.nil_append, hexec]
  rfl

/-- What is accepted and kept weighs no more than what was there, when no request weighs
more than the bytes it consumes. -/
theorem drain_weight_le {R : Reader ρ} (weight : ρ → Nat)
    (h : ∀ b r, R.fromBuffer b = some r → (weight r : Int) ≤ R.byteCount r ∧
      weight r ≤ b.length)
    (buffer : Buffer) :
    ((drain R buffer).1.map weight).sum + (drain R buffer).2.length ≤ buffer.length := by
  have hloop := Loop.Body.exec_induction (l := handleLoop R) (P := fun s r =>
    (r.1._requests.map weight).sum + r.1._buffer.length ≤
      (s.handler._requests.map weight).sum + s.handler._buffer.length)
    (fun s r hr => ?_) (fun s s' hs ih => Nat.le_trans ih ?_)
    { handler := ⟨[], buffer⟩, resyncing := false }
  · rw [drain, handle, new, List.nil_append, List.map_reverse, List.sum_reverse]
    simpa using hloop
  · rw [handleRound_leave hr]
  · -- every other round takes bytes off, and a request it accepts weighs no more than those
    have hround : handleRound R s = .next s' := hs
    cases handleRound_next hround with
    | garbage =>
      show (s.handler._requests.map weight).sum + (s.handler._buffer.subarrayFrom 1).length ≤ _
      rw [length_subarrayFrom _ (by decide)]
      omega
    | slide =>
      show (s.handler._requests.map weight).sum + (s.handler._buffer.subarrayFrom 1).length ≤ _
      rw [length_subarrayFrom _ (by decide)]
      omega
    | @skip request hsome =>
      have hpos := R.byteCount_pos hsome
      show (s.handler._requests.map weight).sum +
        (s.handler._buffer.subarrayFrom (R.byteCount request)).length ≤ _
      rw [length_subarrayFrom _ (Int.le_of_lt hpos)]
      omega
    | @accept request hsome =>
      have hpos := R.byteCount_pos hsome
      obtain ⟨hcount, hle⟩ := h _ _ hsome
      show ((request :: s.handler._requests).map weight).sum +
        (s.handler._buffer.subarrayFrom (R.byteCount request)).length ≤ _
      rw [length_subarrayFrom _ (Int.le_of_lt hpos), List.map_cons, List.sum_cons]
      omega

end ModbusServerRequestHandler

end NodeModbus

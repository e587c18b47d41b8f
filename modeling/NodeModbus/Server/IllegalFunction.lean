import NodeModbus.Server.Client

/-!
# Functions a server does not support

For a function code up to `0x2B` without a decoder the factory means to make an
exception request with the code `0x01`, which the response handler would answer.
The constructor of the exception request refuses every code that is not known,
so nothing is made of the frame.

- `UnsupportedCode`: the codes that are logged as an illegal function.
- `onData_unsupported`: over TCP such a frame is kept, and nothing else happens.
- `not_answered`: it is answered in no state of the server.
-/

namespace NodeModbus

open Buffer Words

/-- A function code up to that of device identification, which is not one of the nine. -/
def UnsupportedCode (f : UInt8) : Prop :=
  1 ≤ f.toNat ∧ f.toNat ≤ 0x2B ∧ isFunctionCode f.toNat = false

instance (f : UInt8) : Decidable (UnsupportedCode f) := inferInstanceAs (Decidable (_ ∧ _))

/-- The factory makes nothing of a code that is not known. -/
theorem RequestFactory.fromBuffer_unsupported {f : UInt8} (hf : UnsupportedCode f)
    (data : Buffer) : RequestFactory.fromBuffer (f :: data) = none := by
  obtain ⟨-, -, hcode⟩ := hf
  have hnone : FC.ofCode? f.toNat = none := by
    rw [isFunctionCode] at hcode
    simpa using hcode
  rw [RequestFactory.fromBuffer_cons, hnone]
  rfl

namespace ModbusServerClient

open ModbusServerRequestHandler

/-- Replace what is kept of the data that arrived. -/
def keep {ρ : Type} (buffer : Buffer) (c : ModbusServerClient ρ) : ModbusServerClient ρ :=
  { c with _requestHandler := { c._requestHandler with _buffer := buffer } }

/-- A round of the loop that serves the queue does not look at what is kept. -/
theorem onDataRound_keep (w : Transport) (server : ModbusServer) (buffer : Buffer)
    (c : ModbusServerClient w.Request) :
    onDataRound w server (keep buffer c) =
      (onDataRound w server c).map (keep buffer) fun r => (keep buffer r.1, r.2) := by
  unfold onDataRound ModbusServerRequestHandler.shift keep
  cases c._requestHandler._requests with
  | nil => rfl
  | cons request requests =>
    simp only
    split
    · rfl
    · split <;> rfl

/-- Nor does the loop. -/
theorem exec_keep (w : Transport) (server : ModbusServer) (buffer : Buffer)
    (c : ModbusServerClient w.Request) :
    (onDataLoop w server).exec (keep buffer c) =
      (keep buffer ((onDataLoop w server).exec c).1, ((onDataLoop w server).exec c).2) :=
  Loop.Body.exec_map (l := onDataLoop w server) (onDataRound_keep w server buffer) c

/-! ## An unsupported frame -/

/-- Behind the request handler the queue is served. -/
theorem onData_of_handle {w : Transport} {server : ModbusServer}
    {c : ModbusServerClient w.Request} {data : Buffer}
    {requestHandler : ModbusServerRequestHandler w.Request}
    (h : handle w.reader c._requestHandler data = (requestHandler, .ok ())) :
    _onData w server c data =
      (onDataLoop w server).exec { c with _requestHandler := requestHandler } := by
  rw [_onData, h]

/-- A data event over TCP with a request for a function that is not supported keeps the
frame. All else is as if nothing had arrived. -/
theorem onData_unsupported (server : ModbusServer) (c : ModbusServerClient ModbusTCPRequest)
    (hbuffer : c._requestHandler._buffer = []) {id unitId : Nat} {f : UInt8} {data : Buffer}
    (hid : id < 65536) (hunit : unitId < 256) (hlen : data.length + 2 < 65536)
    (hf : UnsupportedCode f) :
    _onData .tcp server c (mbapFrame id 0 unitId (f :: data)) =
      (keep (mbapFrame id 0 unitId (f :: data)) (_onData .tcp server c []).1,
        (_onData .tcp server c []).2) := by
  obtain ⟨⟨queue, buffer⟩, heap, written⟩ := c
  obtain rfl : buffer = [] := hbuffer
  -- the header is read, and the factory makes nothing of the body
  have hzero : 0 < 65536 := by decide
  have hsplit := splitMbap_append (p := f :: data) hid hzero hunit hlen []
  rw [List.append_nil] at hsplit
  have hnone : ModbusTCPRequest.fromBuffer (mbapFrame id 0 unitId (f :: data)) = none := by
    rw [ModbusTCPRequest.fromBuffer_eq, hsplit, Option.bind_some,
      RequestFactory.fromBuffer_unsupported hf]
    rfl
  have hwait : handle tcpReader ⟨queue, []⟩ (mbapFrame id 0 unitId (f :: data)) =
      (⟨queue, mbapFrame id 0 unitId (f :: data)⟩, .ok ()) := handle_wait hnone (.inl rfl)
  have hidle : handle tcpReader ⟨queue, []⟩ [] = (⟨queue, []⟩, .ok ()) :=
    handle_wait rfl (.inl rfl)
  have hkept : _onData .tcp server ⟨⟨queue, []⟩, heap, written⟩
    (mbapFrame id 0 unitId (f :: data)) =
      (onDataLoop .tcp server).exec
        (keep (mbapFrame id 0 unitId (f :: data)) ⟨⟨queue, []⟩, heap, written⟩) :=
    onData_of_handle hwait
  have hnothing : _onData .tcp server ⟨⟨queue, []⟩, heap, written⟩ [] =
      (onDataLoop .tcp server).exec ⟨⟨queue, []⟩, heap, written⟩ := onData_of_handle hidle
  have hexec :=
    exec_keep .tcp server (mbapFrame id 0 unitId (f :: data)) ⟨⟨queue, []⟩, heap, written⟩
  rw [← hnothing] at hexec
  exact hkept.trans hexec

/-- What should come of a frame with function code `f`: of what is written, one frame is the
answer, an exception with the code for an illegal function; the tables are as they would be
without the frame, and nothing of it is kept. -/
structure Answered (server : ModbusServer) (c : ModbusServerClient ModbusTCPRequest)
    (id unitId : Nat) (f : UInt8) (data : Buffer) : Prop where
  written : List.Perm (_onData .tcp server c (mbapFrame id 0 unitId (f :: data))).1.written
    (mbapFrame id 0 unitId [f + 0x80, 0x01] :: (_onData .tcp server c []).1.written)
  tables : (_onData .tcp server c (mbapFrame id 0 unitId (f :: data))).1.heap =
    (_onData .tcp server c []).1.heap
  consumed :
    (_onData .tcp server c (mbapFrame id 0 unitId (f :: data))).1._requestHandler._buffer = []

/-- Whatever the state of a server with an empty buffer, and whatever the data of the frame, a
function that is not supported is not answered, and its frame is not consumed. -/
theorem not_answered (server : ModbusServer) (c : ModbusServerClient ModbusTCPRequest)
    (hbuffer : c._requestHandler._buffer = []) {id unitId : Nat} {f : UInt8} {data : Buffer}
    (hid : id < 65536) (hunit : unitId < 256) (hlen : data.length + 2 < 65536)
    (hf : UnsupportedCode f) :
    (_onData .tcp server c (mbapFrame id 0 unitId (f :: data))).1.written =
      (_onData .tcp server c []).1.written ∧
    (_onData .tcp server c (mbapFrame id 0 unitId (f :: data))).1._requestHandler._buffer =
      mbapFrame id 0 unitId (f :: data) ∧
    ¬ Answered server c id unitId f data := by
  have hdata := onData_unsupported server c hbuffer hid hunit hlen hf
  have hwritten : (_onData .tcp server c (mbapFrame id 0 unitId (f :: data))).1.written =
      (_onData .tcp server c []).1.written := by
    rw [hdata]
    rfl
  refine ⟨hwritten, by rw [hdata]; rfl, ?_⟩
  intro h
  -- there is one frame less than there should be
  have hperm := h.written.length_eq
  rw [hwritten, List.length_cons] at hperm
  omega

/-- Function code 7 with one data byte, for a server without tables. -/
theorem not_answered_readExceptionStatus :
    (_onData .tcp ⟨none, none, none, none, none⟩ ⟨.new, fun _ => [], []⟩
      (mbapFrame 1 0 1 [7, 0])).1.written =
        (_onData .tcp ⟨none, none, none, none, none⟩ ⟨.new, fun _ => [], []⟩ []).1.written ∧
    (_onData .tcp ⟨none, none, none, none, none⟩ ⟨.new, fun _ => [], []⟩
      (mbapFrame 1 0 1 [7, 0])).1._requestHandler._buffer = mbapFrame 1 0 1 [7, 0] ∧
    ¬ Answered ⟨none, none, none, none, none⟩ ⟨.new, fun _ => [], []⟩ 1 1 7 [0] :=
  not_answered _ _ rfl (by decide) (by decide) (by decide) (by decide)

/-- The server takes requests for every unit, and its buffer is empty; still it does not
answer. -/
theorem not_answered_code_seven :
    ¬ ∀ (server : ModbusServer) (c : ModbusServerClient ModbusTCPRequest) (id unitId : Nat)
        (f : UInt8) (data : Buffer),
        c._requestHandler._buffer = [] → id < 65536 → unitId < 256 → data.length + 2 < 65536 →
        UnsupportedCode f → server.ignores unitId = false →
        Answered server c id unitId f data := by
  intro h
  have hanswered := h ⟨none, none, none, none, none⟩ ⟨.new, fun _ => [], []⟩ 1 1 7 [] rfl
    (by decide) (by decide) (by decide) (by decide) rfl
  exact absurd hanswered.consumed (by decide)

end ModbusServerClient

end NodeModbus

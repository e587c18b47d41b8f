import NodeModbus.Client.ModbusClient

/-!
# Connecting again

A TCP client listens to the events `connect` and `close` in its request handler only.
What its response handler keeps of a connection, the bytes of a frame that was cut
and the responses that were not taken off, is there when the next one begins.

- `FreshStream`: the client makes of the next data what a client with a new response
  handler makes of them.
- `responseHandler_of_quiet`: only data change the response handler.
- `freshStream_iff`: the stream of a new connection is fresh if and only if nothing was
  left of the old one.
-/

namespace NodeModbus

open Buffer Words Transition ModbusTCPClientResponseHandler

/-- What is asked of a client when it has connected again: of the data that come in it makes the
responses that a new response handler makes of them, and whatever happens its request handler is
that of a client with a new response handler. -/
structure FreshStream (c : MBClient .tcp) : Prop where
  parsed : ∀ chunks, (run c._responseHandler chunks)._messages = (run new chunks)._messages
  handled : ∀ events, ((mbClientSystem .tcp c.unitId).after c events)._requestHandler =
    ((mbClientSystem .tcp c.unitId).after { c with _responseHandler := new }
      events)._requestHandler

/-- A new client. -/
def newClient (unitId : Int) : MBClient .tcp :=
  { unitId, _requestHandler := .new, _responseHandler := new }

/-- The event is none of the data. -/
def ClientEvent.IsHandler {w : Transport} : ClientEvent w → Prop
  | handler _ => True
  | data _ => False

/-- Only data change the response handler. -/
theorem responseHandler_of_quiet {w : Transport} (unitId : Int) (c : MBClient w)
    {events : List (ClientEvent w)} (h : ∀ e ∈ events, e.IsHandler) :
    ((mbClientSystem w unitId).after c events)._responseHandler = c._responseHandler := by
  induction events generalizing c with
  | nil => rfl
  | cons e events ih =>
    obtain ⟨he, hevents⟩ := List.forall_mem_cons.mp h
    refine (ih ((mbClientSystem w unitId).next c e) hevents).trans ?_
    cases e with
    | handler e => rfl
    | data data => exact he.elim

/-! ## What is left of a connection shows -/

/-- The first byte of a buffer is that of the transaction id. -/
theorem exists_id_of_fromBuffer {x : UInt8} {rest : Buffer} {r : ModbusTCPResponse}
    (h : ModbusTCPResponse.fromBuffer (x :: rest) = some r) :
    ∃ y : UInt8, r.id = (u16 x y : Nat) := by
  rw [ModbusTCPResponse.fromBuffer_eq] at h
  obtain ⟨m, hm, h⟩ := Option.bind_eq_some_iff.mp h
  obtain ⟨body, -, rfl⟩ := Option.map_eq_some_iff.mp h
  rcases rest with _ | ⟨i', _ | ⟨q, _ | ⟨q', _ | ⟨l, _ | ⟨l', _ | ⟨u, rest⟩⟩⟩⟩⟩⟩
  case cons.cons.cons.cons.cons.cons =>
    obtain rfl := Option.some.inj hm
    exact ⟨i', rfl⟩
  all_goals cases hm

/-- An exception, with a transaction id that begins with a byte. -/
def exceptionFrame (y : UInt8) : Buffer := [y, 0, 0, 0, 0, 3, 1, 0x81, 2]

theorem exists_exceptionFrame (y : UInt8) :
    ∃ r, ModbusTCPResponse.fromBuffer (exceptionFrame y) = some r := by
  have hsplit : splitMbap (exceptionFrame y) =
      some { id := u16 y 0, protocol := 0, length := 3, unitId := 1, bytes := [0x81, 2] } := rfl
  have hbody : ResponseFactory.fromBuffer [0x81, 2] =
      some (.exception { fc := .readCoil, code := 2, meiType := none }) := by decide
  rw [ModbusTCPResponse.fromBuffer_eq, hsplit, Option.bind_some, hbody]
  exact ⟨_, rfl⟩

/-- The messages after one data event. -/
theorem messages_run_one (h : ModbusTCPClientResponseHandler) (data : Buffer) :
    (run h [data])._messages = h._messages ++ (drain (h._buffer ++ data)).1 :=
  congrArg _messages (handleData_eq h data)

/-- With bytes left in its buffer a handler does not make of every frame what a new one makes of
it: the first byte that is left stands where the transaction id of the frame should. -/
theorem exists_messages_ne {h : ModbusTCPClientResponseHandler} (hmessages : h._messages = [])
    (hbuffer : h._buffer ≠ []) :
    ∃ data, (run h [data])._messages ≠ (run new [data])._messages := by
  obtain ⟨x, rest, hx⟩ := List.exists_cons_of_ne_nil hbuffer
  refine ⟨exceptionFrame (x + 1), fun heq => ?_⟩
  obtain ⟨r, hr⟩ := exists_exceptionFrame (x + 1)
  rw [messages_run_one, messages_run_one, hmessages, hx, List.nil_append] at heq
  have hnew : (new._messages ++ (drain (new._buffer ++ exceptionFrame (x + 1))).1) =
      r :: (drain ((exceptionFrame (x + 1)).subarrayFrom r.byteCount)).1 :=
    congrArg Prod.fst (drain_accept hr)
  rw [hnew] at heq
  cases hkept : ModbusTCPResponse.fromBuffer (x :: rest ++ exceptionFrame (x + 1)) with
  | none =>
    rw [drain_wait hkept] at heq
    cases heq
  | some r' =>
    rw [drain_accept hkept] at heq
    obtain ⟨rfl, -⟩ := List.cons.inj heq
    obtain ⟨y, hy⟩ := exists_id_of_fromBuffer hr
    obtain ⟨y', hy'⟩ := exists_id_of_fromBuffer hkept
    have hid : u16 (x + 1) y = u16 x y' := Int.ofNat.inj (hy.symm.trans hy')
    have hx1 : (x + 1).toNat = (x.toNat + 1) % 256 := UInt8.toNat_add x 1
    have hx2 := x.toNat_lt
    have hy1 := y.toNat_lt
    have hy2 := y'.toNat_lt
    unfold u16 at hid
    omega

/-! ## What a new connection starts with -/

/-- After a connection was closed and another one has begun, the client makes of the new
data what a new client makes of them if and only if the old connection had left neither a
part of a frame nor a response that was not taken off. -/
theorem freshStream_iff (unitId : Int) (before between : List (ClientEvent .tcp))
    (hbetween : ∀ e ∈ between, e.IsHandler) :
    FreshStream ((mbClientSystem .tcp unitId).after (newClient unitId)
      (before ++ [.handler .close] ++ between ++ [.handler .connect])) ↔
      ((mbClientSystem .tcp unitId).after (newClient unitId)
        before)._responseHandler._buffer = [] ∧
      ((mbClientSystem .tcp unitId).after (newClient unitId)
        before)._responseHandler._messages = [] := by
  have hquiet : ∀ e ∈ [.handler .close] ++ between ++ [.handler .connect], e.IsHandler := by
    simp only [List.forall_mem_append, List.forall_mem_singleton]
    exact ⟨⟨trivial, hbetween⟩, trivial⟩
  rw [List.append_assoc, List.append_assoc, ← List.append_assoc [_], System.after_append]
  -- the events in between leave the response handler as it is
  have hkept := responseHandler_of_quiet unitId
    ((mbClientSystem .tcp unitId).after (newClient unitId) before) hquiet
  revert hkept
  generalize (mbClientSystem .tcp unitId).after
    ((mbClientSystem .tcp unitId).after (newClient unitId) before)
    ([.handler .close] ++ between ++ [.handler .connect]) = c
  intro hkept
  rw [← hkept]
  constructor
  · intro hfresh
    have hmessages : c._responseHandler._messages = [] := hfresh.parsed []
    refine ⟨?_, hmessages⟩
    by_contra hbuffer
    obtain ⟨data, hne⟩ := exists_messages_ne hmessages hbuffer
    exact hne (hfresh.parsed [data])
  · rintro ⟨hbuffer, hmessages⟩
    have hnew : c._responseHandler = new := by
      cases hhandler : c._responseHandler with
      | mk buffer messages =>
        rw [hhandler] at hbuffer hmessages
        obtain rfl : buffer = [] := hbuffer
        obtain rfl : messages = [] := hmessages
        rfl
    refine ⟨fun chunks => by rw [hnew], fun events => ?_⟩
    rw [← hnew]

/-- A connection with one frame, and a connection that is closed behind the first bytes of a
frame. -/
def wholeFrame : List (ClientEvent .tcp) := [.handler .connect, .data (exceptionFrame 0)]

/-- Three bytes of a frame have come in. -/
def cutFrame : List (ClientEvent .tcp) := [.handler .connect, .data [0, 1, 0]]

theorem freshStream_iff_wholeFrame :
    FreshStream ((mbClientSystem .tcp 1).after (newClient 1)
      (wholeFrame ++ [.handler .close] ++ [] ++ [.handler .connect])) ↔
    ((mbClientSystem .tcp 1).after (newClient 1) wholeFrame)._responseHandler._buffer = [] ∧
    ((mbClientSystem .tcp 1).after (newClient 1) wholeFrame)._responseHandler._messages = [] :=
  freshStream_iff 1 wholeFrame [] fun _ he => nomatch he

/-- The bytes that are left of the old connection hide a frame of the new one. -/
theorem not_freshStream_cutFrame :
    (mbClientSystem .tcp 1).Runs (newClient 1)
        (cutFrame ++ [.handler .close] ++ [] ++ [.handler .connect]) ∧
      ¬ FreshStream ((mbClientSystem .tcp 1).after (newClient 1)
        (cutFrame ++ [.handler .close] ++ [] ++ [.handler .connect])) := by
  constructor
  · intro before e after hevents
    have he : e ∈ [ClientEvent.handler Event.connect, .data [0, 1, 0], .handler .close,
        .handler .connect] := by
      rw [show [ClientEvent.handler Event.connect, .data [0, 1, 0], .handler .close,
        .handler .connect] = before ++ e :: after from hevents]
      exact List.mem_append_right _ (List.mem_cons_self ..)
    simp only [List.mem_cons, List.not_mem_nil, or_false] at he
    rcases he with rfl | rfl | rfl | rfl
    · exact ⟨trivial, fun _ h => nomatch h⟩
    · trivial
    · exact ⟨trivial, fun _ h => nomatch h⟩
    · exact ⟨trivial, fun _ h => nomatch h⟩
  · intro hfresh
    exact absurd (hfresh.parsed [exceptionFrame 0]) (by decide)

end NodeModbus

import NodeModbus.Client.Draining
import NodeModbus.Client.ResponseHandler
import NodeModbus.Client.RtuResponseHandler

/-!
# The client

`MBClient` passes the data of its socket to the response handler, and the responses
that come out to the request handler.

- `MBClient`, `_onData`: the client, and its listener to the event `data`.
- `ClientEvent`, `mbClientSystem`: what can happen to a client, as a transition system.
- `exec_nil`, `exec_handled`, `exec_thrown`: the loop of `_onData`, response by response.
-/

namespace NodeModbus

open Buffer Transition

namespace Transport

/-- The response handler of a client. -/
def ResponseHandler : Transport → Type
  | tcp => ModbusTCPClientResponseHandler
  | rtu _ => ModbusRTUClientResponseHandler

/-- The response handler of a new client. -/
def newResponseHandler : (w : Transport) → w.ResponseHandler
  | tcp => ModbusTCPClientResponseHandler.new
  | rtu _ => ModbusRTUClientResponseHandler.new

/-- The method `handleData` of the response handler. -/
def handleData : (w : Transport) → w.ResponseHandler → Buffer → w.ResponseHandler
  | tcp => ModbusTCPClientResponseHandler.handleData
  | rtu _ => ModbusRTUClientResponseHandler.handleData

/-- The method `shift` of the response handler. -/
def shift : (w : Transport) → w.ResponseHandler → Option w.Response × w.ResponseHandler
  | tcp => ModbusTCPClientResponseHandler.shift
  | rtu _ => ModbusRTUClientResponseHandler.shift

/-- The responses that are waiting to be taken off. -/
def _messages : (w : Transport) → w.ResponseHandler → List w.Response
  | tcp => ModbusTCPClientResponseHandler._messages
  | rtu _ => ModbusRTUClientResponseHandler._messages

/-- The bytes that are kept for the next response. -/
def _buffer : (w : Transport) → w.ResponseHandler → Buffer
  | tcp => ModbusTCPClientResponseHandler._buffer
  | rtu _ => ModbusRTUClientResponseHandler._buffer

/-- The getter `unitId` of a response. -/
def responseUnitId : (w : Transport) → w.Response → Int
  | tcp => ModbusTCPResponse.unitId
  | rtu _ => ModbusRTUResponse.address

/-- The method `shift` takes the first response, if there is one. -/
theorem shift_eq (w : Transport) (h : w.ResponseHandler) :
    (w._messages h = [] ∧ w.shift h = (none, h)) ∨
      ∃ response h', w._messages h = response :: w._messages h' ∧ w._buffer h' = w._buffer h ∧
        w.shift h = (some response, h') := by
  cases w with
  | tcp =>
    obtain ⟨buffer, messages⟩ := h
    cases messages with
    | nil => exact .inl ⟨rfl, rfl⟩
    | cons response messages => exact .inr ⟨response, ⟨buffer, messages⟩, rfl, rfl, rfl⟩
  | rtu crc16modbus =>
    obtain ⟨buffer, messages⟩ := h
    cases messages with
    | nil => exact .inl ⟨rfl, rfl⟩
    | cons response messages => exact .inr ⟨response, ⟨buffer, messages⟩, rfl, rfl, rfl⟩

end Transport

/-- A client. For RTU the unit id is the address of the request handler. -/
structure MBClient (w : Transport) where
  unitId : Int
  _requestHandler : w.Client
  _responseHandler : w.ResponseHandler

namespace MBClient

variable {w : Transport}

/-- The getter `connectionState`. -/
def connectionState (c : MBClient w) : ConnectionState := c._requestHandler._state

/-- The getter `requestCount`. -/
def requestCount (c : MBClient w) : Nat := c._requestHandler.requestCount

open Loop in
/-- One round of the loop in `_onData`. Of a call that throws the loop is left. -/
def dataRound (c : MBClient w) : Round (MBClient w) (MBClient w × Except Thrown Unit) :=
  match w.shift c._responseHandler with
  | (none, _) => .leave (c, .ok ())
  | (some response, handler) =>
    let c := { c with _responseHandler := handler }
    if c.unitId = w.responseUnitId response then
      match w.handle c._requestHandler (some response) with
      | (requestHandler, .error e) =>
        .leave ({ c with _requestHandler := requestHandler }, .error e)
      | (requestHandler, .ok ()) => .next { c with _requestHandler := requestHandler }
    else .next c

/-- The loop in `_onData`: every round takes a response off. -/
def dataLoop : Loop.Body (MBClient w) (MBClient w × Except Thrown Unit) where
  round := dataRound
  measure c := (w._messages c._responseHandler).length
  decreases := by
    intro c c' hround
    rcases w.shift_eq c._responseHandler with ⟨-, hshift⟩ | ⟨response, handler, hmessages,
      -, hshift⟩
    · simp only [dataRound, hshift] at hround
      cases hround
    · rw [hmessages, List.length_cons]
      simp only [dataRound, hshift] at hround
      split at hround
      · split at hround
        · cases hround
        · cases hround
          exact Nat.lt_succ_self _
      · cases hround
        exact Nat.lt_succ_self _

/-- The listener to the event `data`. -/
def _onData (c : MBClient w) (data : Buffer) : MBClient w × Except Thrown Unit :=
  dataLoop.exec { c with _responseHandler := w.handleData c._responseHandler data }

/-- Without a response the loop ends. -/
theorem exec_nil {c : MBClient w} (h : w._messages c._responseHandler = []) :
    dataLoop.exec c = (c, .ok ()) := by
  refine Loop.Body.exec_leave ?_
  show dataRound c = _
  rcases w.shift_eq c._responseHandler with ⟨-, hshift⟩ | ⟨response, handler, hmessages,
    -, hshift⟩
  · simp only [dataRound, hshift]
  · rw [h] at hmessages
    cases hmessages

variable {c : MBClient w} {response : w.Response} {handler : w.ResponseHandler}
  {requestHandler : w.Client}

/-- A response that is handled makes room for the next one. -/
theorem exec_handled (hshift : w.shift c._responseHandler = (some response, handler))
    (hunit : c.unitId = w.responseUnitId response)
    (hhandle : w.handle c._requestHandler (some response) = (requestHandler, .ok ())) :
    dataLoop.exec c =
      dataLoop.exec
        { c with _responseHandler := handler, _requestHandler := requestHandler } := by
  refine Loop.Body.exec_next ?_
  show dataRound c = _
  simp only [dataRound, hshift, if_pos hunit, hhandle]

/-- What the request handler throws leaves the loop. -/
theorem exec_thrown (hshift : w.shift c._responseHandler = (some response, handler))
    (hunit : c.unitId = w.responseUnitId response) {e : Thrown}
    (hhandle : w.handle c._requestHandler (some response) = (requestHandler, .error e)) :
    dataLoop.exec c =
      ({ c with _responseHandler := handler, _requestHandler := requestHandler },
        .error e) := by
  refine Loop.Body.exec_leave ?_
  show dataRound c = _
  simp only [dataRound, hshift, if_pos hunit, hhandle]

end MBClient

/-! ## The client as a system -/

/-- What can happen to a client. -/
inductive ClientEvent (w : Transport) where
  | handler (e : Event w)
  | data (data : Buffer)

/-- A client and its events: responses come with the data. -/
def mbClientSystem (w : Transport) (unitId : Int) : System (MBClient w) (ClientEvent w) where
  init c := c.unitId = unitId ∧ w.Starts c._requestHandler ∧
    c._responseHandler = w.newResponseHandler
  allows c e :=
    match e with
    | .handler e => e.Allowed c._requestHandler ∧ ∀ response, e ≠ .handle response
    | .data _ => True
  next c e :=
    match e with
    | .handler e => { c with _requestHandler := (e.apply c.unitId c._requestHandler).1 }
    | .data data => (c._onData data).1

end NodeModbus

import NodeModbus.Lib.Transition
import NodeModbus.Response.Frame

/-!
# The client's request handler

`MBClientRequestHandler` keeps the requests of a client in a queue and sends one
of them at a time. It is a state machine: what it does is started by a call, by
an event of its socket or by a timer.

- `MBClientRequestHandler`: the fields of the handler, the timers it has set, and a
  log of what it has done.
- `_flush`, `handle`, `_clearAllRequests` and so on: its methods, on that state.
- `ModbusTCPClientRequestHandler`, `ModbusRTUClientRequestHandler`: what the two
  subclasses do.
- `Event`, `clientSystem`: the events, as a transition system.
- `Handled`: what a response can do to the handler.
-/

namespace NodeModbus

open Buffer

/-! ## User requests -/

/-- A request of the user. Two of them are different objects, which the key tells apart: it
counts the requests that were registered before. -/
structure UserRequest (ρ : Type) where
  key : Nat
  request : ρ
  deriving DecidableEq

/-- `UserRequestErrorCodes`. -/
inductive UserRequestErrorCodes where
  | outOfSync
  | protocol
  | timeout
  | manuallyCleared
  | modbusException
  | offline
  | crcMismatch
  deriving DecidableEq

/-- `UserRequestError`: what a promise is rejected with. -/
structure UserRequestError (ρ ω : Type) where
  err : UserRequestErrorCodes
  message : String
  request : Option ρ
  response : Option ω := none

/-- The states of the connection, as the handler knows it. -/
inductive ConnectionState where
  | offline
  | online
  deriving DecidableEq

/-- What a handler does. A promise takes the first of the calls that settle it; the others do
nothing. -/
inductive Action (ρ ω : Type) where
  | registered (u : UserRequest ρ)
  | resolved (u : UserRequest ρ) (response : ω)
  | rejected (u : UserRequest ρ) (err : UserRequestError ρ ω)
  | written (u : UserRequest ρ) (payload : Buffer)
  | state (s : ConnectionState)

/-! ## The common handler -/

/-- A handler, with what it has set going. `_requestId` is the field of the TCP handler. -/
structure MBClientRequestHandler (ρ ω : Type) where
  _requests : List (UserRequest ρ)
  _currentRequest : Option (UserRequest ρ)
  _state : ConnectionState
  _requestId : Nat
  /-- The requests that were registered. -/
  registered : Nat
  /-- The requests whose timeout is running. -/
  timers : List (UserRequest ρ)
  /-- The deferred calls of `_flush` that are due. -/
  flushes : Nat
  /-- What the handler has done, the oldest action first. -/
  log : List (Action ρ ω)

/-- What the handler uses of a request class and of a response class. -/
structure Messages (ρ ω : Type) where
  body : ρ → RequestBody
  createPayload : ρ → Except Thrown Buffer
  responseBody : ω → ResponseBody
  responseAddress : ω → Int

namespace MBClientRequestHandler

variable {ρ ω : Type}

/-- The constructor. -/
def new : MBClientRequestHandler ρ ω :=
  { _requests := [], _currentRequest := none, _state := .offline, _requestId := 0,
    registered := 0, timers := [], flushes := 0, log := [] }

/-- The getter `requestCount`. -/
def requestCount (c : MBClientRequestHandler ρ ω) : Nat := c._requests.length

/-- Put an action in the log. -/
def note (c : MBClientRequestHandler ρ ω) (a : Action ρ ω) : MBClientRequestHandler ρ ω :=
  { c with log := c.log ++ [a] }

/-- `userRequest.resolve(response)`. -/
def resolve (c : MBClientRequestHandler ρ ω) (u : UserRequest ρ) (response : ω) :
    MBClientRequestHandler ρ ω :=
  c.note (.resolved u response)

/-- `userRequest.reject(err)`. -/
def reject (c : MBClientRequestHandler ρ ω) (u : UserRequest ρ) (err : UserRequestError ρ ω) :
    MBClientRequestHandler ρ ω :=
  c.note (.rejected u err)

/-- `userRequest.start(cb)`, which sets the timer of the request. -/
def start (c : MBClientRequestHandler ρ ω) (u : UserRequest ρ) : MBClientRequestHandler ρ ω :=
  { c with timers := c.timers ++ [u] }

/-- `userRequest.done()`, which clears the timer of the request, if there is one. -/
def done (c : MBClientRequestHandler ρ ω) (u : UserRequest ρ) : MBClientRequestHandler ρ ω :=
  { c with timers := c.timers.filter fun v => v.key ≠ u.key }

/-- The request under way is given up, with its timer. Its promise is not settled here. -/
def _clearCurrentRequest (c : MBClientRequestHandler ρ ω) : MBClientRequestHandler ρ ω :=
  match c._currentRequest with
  | none => c
  | some u => { c.done u with _currentRequest := none }

/-- The loop in `_clearAllRequests`. -/
def rejectRequests :
    List (UserRequest ρ) → MBClientRequestHandler ρ ω → MBClientRequestHandler ρ ω
  | [], c => c
  | req :: requests, c =>
    rejectRequests requests
      ({ c with _requests := requests }.reject req
        { err := .outOfSync, message := "rejecting because of earlier OutOfSync error",
          request := some req.request })

/-- The request under way is given up, and those of the queue are rejected. -/
def _clearAllRequests (c : MBClientRequestHandler ρ ω) : MBClientRequestHandler ρ ω :=
  let c := c._clearCurrentRequest
  rejectRequests c._requests c

/-- Execute the next request. -/
def _flush (M : Messages ρ ω) (c : MBClientRequestHandler ρ ω) :
    MBClientRequestHandler ρ ω × Except Thrown Unit :=
  match c._currentRequest, c._requests with
  | some _, _ => (c, .ok ())
  | none, [] => (c, .ok ())
  | none, u :: requests =>
    let c := { c with _currentRequest := some u, _requests := requests }
    match c._state with
    | .offline =>
      let c := c.reject u { err := .offline, message := "no connection to modbus server",
                            request := some u.request }
      let c := c._clearCurrentRequest
      -- `setTimeout(this._flush.bind(this), 0)`
      ({ c with flushes := c.flushes + 1 }, .ok ())
    | .online =>
      -- the timer is running before it is known whether the request can be encoded
      let c := c.start u
      match M.createPayload u.request with
      | .error e => (c, .error e)
      | .ok payload => (c.note (.written u payload), .ok ())

/-- Make a user request of a request, and put it behind the queue. -/
def push (c : MBClientRequestHandler ρ ω) (request : ρ) : MBClientRequestHandler ρ ω :=
  let userRequest := { key := c.registered, request }
  { c with registered := c.registered + 1, _requests := c._requests ++ [userRequest] }.note
    (.registered userRequest)

/-- The method `registerRequest`. -/
def registerRequest (M : Messages ρ ω) (c : MBClientRequestHandler ρ ω) (request : ρ) :
    MBClientRequestHandler ρ ω × Except Thrown Unit :=
  _flush M (c.push request)

/-- The method `handle`. A response that is not there does nothing, nor does one when no
request is under way. -/
def handle (M : Messages ρ ω) (c : MBClientRequestHandler ρ ω) (response : Option ω) :
    MBClientRequestHandler ρ ω × Except Thrown Unit :=
  match response, c._currentRequest with
  | none, _ => (c, .ok ())
  | some _, none => (c, .ok ())
  | some response, some userRequest =>
    let request := userRequest.request
    let body := M.responseBody response
    if body.isException = false ∧ body.fc ≠ (M.body request).fc then
      -- nothing can be said of the other requests either
      let c := c.reject userRequest
        { err := .outOfSync, message := "request fc and response fc does not match.",
          request := some request }
      (c._clearAllRequests, .ok ())
    else match body with
      | .exception b =>
        -- the getter throws for an unknown code, before the promise is settled
        match b.message with
        | .error e => (c, .error e)
        | .ok message =>
          let c := c.reject userRequest
            { err := .modbusException,
              message := s!"ModbusException: {message} (Code {b.code}) " ++
                s!"(Device Address {M.responseAddress response})",
              request := some request, response := some response }
          _flush M c._clearCurrentRequest
      | _ =>
        let c := c.resolve userRequest response
        _flush M c._clearCurrentRequest

/-- The request under way is rejected. -/
def manuallyRejectCurrentRequest (M : Messages ρ ω) (c : MBClientRequestHandler ρ ω) :
    MBClientRequestHandler ρ ω × Except Thrown Unit :=
  match c._currentRequest with
  | none => (c, .ok ())
  | some u =>
    -- the request stays under way, so this flushes nothing
    _flush M
      (c.reject u { err := .manuallyCleared, message := "the request was manually cleared",
                    request := some u.request })

/-- The loop ends when a call throws. -/
def manuallyRejectRequests (M : Messages ρ ω) :
    Nat → MBClientRequestHandler ρ ω → MBClientRequestHandler ρ ω × Except Thrown Unit
  | 0, c => (c, .ok ())
  | numRequests + 1, c =>
    match c.manuallyRejectCurrentRequest M with
    | (c, .error e) => (c, .error e)
    | (c, .ok ()) => manuallyRejectRequests M numRequests c

/-- What a rejection does, a number of rejections does, when doing nothing and doing one
thing after another are things of its kind. -/
theorem manuallyRejectRequests_induction {M : Messages ρ ω}
    {R : MBClientRequestHandler ρ ω → MBClientRequestHandler ρ ω → Prop} (refl : ∀ c, R c c)
    (trans : ∀ {c c' c''}, R c c' → R c' c'' → R c c'')
    (step : ∀ c, R c (c.manuallyRejectCurrentRequest M).1) (numRequests : Nat)
    (c : MBClientRequestHandler ρ ω) : R c (c.manuallyRejectRequests M numRequests).1 := by
  induction numRequests generalizing c with
  | zero => exact refl c
  | succ numRequests ih =>
    have hfirst := step c
    rw [manuallyRejectRequests]
    -- a rejection that throws is the last one
    split
    · rename_i hthrow
      rw [hthrow] at hfirst
      exact hfirst
    · rename_i hreturn
      rw [hreturn] at hfirst
      exact trans hfirst (ih _)

/-- As many rejections as there are requests, those of the queue included. -/
def manuallylRejectAllRequests (M : Messages ρ ω) (c : MBClientRequestHandler ρ ω) :
    MBClientRequestHandler ρ ω × Except Thrown Unit :=
  manuallyRejectRequests M c.requestCount c

/-- The request under way is rejected with an error of the caller, and stays under way. -/
def customErrorRequest (c : MBClientRequestHandler ρ ω) (err : UserRequestError ρ ω) :
    MBClientRequestHandler ρ ω :=
  match c._currentRequest with
  | none => c
  | some u => c.reject u err

/-- The event `connect` of the socket. -/
def _onConnect (c : MBClientRequestHandler ρ ω) : MBClientRequestHandler ρ ω :=
  { c with _state := .online }.note (.state .online)

/-- The event `close` of the socket: all requests are rejected. -/
def _onClose (c : MBClientRequestHandler ρ ω) : MBClientRequestHandler ρ ω :=
  let c := { c with _state := .offline }.note (.state .offline)
  match c._currentRequest with
  | none => c._clearAllRequests
  | some u =>
    let c := c.reject u { err := .offline, message := "connection to modbus server closed",
                          request := some u.request }
    c._clearAllRequests

/-- The callback of the timer of a request, which is no longer running then. -/
def onTimeout (M : Messages ρ ω) (c : MBClientRequestHandler ρ ω) (u : UserRequest ρ) :
    MBClientRequestHandler ρ ω × Except Thrown Unit :=
  let c := c.done u
  let c := c.reject u { err := .timeout, message := "Req timed out", request := some u.request }
  -- the callback clears the request under way, whichever that is
  _flush M c._clearCurrentRequest

end MBClientRequestHandler

/-! ## The two subclasses -/

/-- TCP requests and responses. -/
def tcpMessages : Messages ModbusTCPRequest ModbusTCPResponse where
  body := ModbusTCPRequest.body
  createPayload := ModbusTCPRequest.createPayload
  responseBody := ModbusTCPResponse.body
  responseAddress := ModbusTCPResponse.unitId

/-- RTU requests and responses. -/
def rtuMessages (crc16modbus : Buffer → UInt16) :
    Messages ModbusRTURequest ModbusRTUResponse where
  body := ModbusRTURequest.body
  createPayload := ModbusRTURequest.createPayload crc16modbus
  responseBody := ModbusRTUResponse.body
  responseAddress := ModbusRTUResponse.address

/-- The handler of a TCP client. -/
abbrev ModbusTCPClientRequestHandler :
    Type := MBClientRequestHandler ModbusTCPRequest ModbusTCPResponse

/-- The handler of an RTU client. -/
abbrev ModbusRTUClientRequestHandler :
    Type := MBClientRequestHandler ModbusRTURequest ModbusRTUResponse

namespace ModbusTCPClientRequestHandler

/-- The method `register` of the TCP handler: a request gets the next transaction id. -/
def register (unitId : Int) (c : ModbusTCPClientRequestHandler) (requestBody : RequestBody) :
    ModbusTCPClientRequestHandler × Except Thrown Unit :=
  -- the id 0xFFFF is left out
  let requestId := (c._requestId + 1) % 0xFFFF
  let tcpRequest : ModbusTCPRequest :=
    { id := requestId, protocol := 0x00, length := requestBody.byteCount + 1, unitId,
      body := requestBody }
  { c with _requestId := requestId }.registerRequest tcpMessages tcpRequest

/-- The method `handle` of the TCP handler: it checks the transaction id and the protocol
first. -/
def handle (c : ModbusTCPClientRequestHandler) (response : Option ModbusTCPResponse) :
    ModbusTCPClientRequestHandler × Except Thrown Unit :=
  match response, c._currentRequest with
  | none, _ => (c, .ok ())
  | some _, none => (c, .ok ())
  | some response, some userRequest =>
    let request := userRequest.request
    if response.id ≠ request.id then
      let c := c.reject userRequest
        { err := .outOfSync, message := "request id and response id do not match.",
          request := some request }
      (c._clearAllRequests, .ok ())
    else if response.protocol ≠ 0x00 then
      let c := c.reject userRequest
        { err := .protocol, message := s!"Unknown protocol version {response.protocol}",
          request := some request }
      (c._clearAllRequests, .ok ())
    else MBClientRequestHandler.handle tcpMessages c (some response)

end ModbusTCPClientRequestHandler

namespace ModbusRTUClientRequestHandler

variable (crc16modbus : Buffer → UInt16)

/-- The method `register` of the RTU handler: a request goes to the address of the server. -/
def register (address : Int) (c : ModbusRTUClientRequestHandler) (requestBody : RequestBody) :
    ModbusRTUClientRequestHandler × Except Thrown Unit :=
  c.registerRequest (rtuMessages crc16modbus)
  { address, body := requestBody, corrupted := false }

/-- The method `handle` of the RTU handler: it checks the CRC first. -/
def handle (c : ModbusRTUClientRequestHandler) (response : Option ModbusRTUResponse) :
    ModbusRTUClientRequestHandler × Except Thrown Unit :=
  match response, c._currentRequest with
  | none, _ => (c, .ok ())
  | some _, none => (c, .ok ())
  | some response, some userRequest =>
    -- the CRC is that of the body encoded again, not of the bytes that came in
    match response.body.createPayload with
    | .error e => (c, .error e)
    | .ok payload =>
      let crc := crc16modbus ([toByte response.address] ++ payload)
      if response.crc ≠ some (crc.toNat : Int) then
        let c := c.reject userRequest
          { err := .crcMismatch, message := "the response payload does not match the crc",
            request := some userRequest.request, response := some response }
        (c._clearAllRequests, .ok ())
      else MBClientRequestHandler.handle (rtuMessages crc16modbus) c (some response)

end ModbusRTUClientRequestHandler

/-! ## What a response can do -/

/-- A response does nothing, or it rejects the request under way and all the others, or it
settles the request under way and makes room for the next one. -/
inductive Handled {ρ ω : Type} (M : Messages ρ ω) (c : MBClientRequestHandler ρ ω) :
    MBClientRequestHandler ρ ω → Prop
  | ignored : Handled M c c
  | cleared {u : UserRequest ρ} {err : UserRequestError ρ ω}
      (hcurrent : c._currentRequest = some u) :
    Handled M c (c.reject u err)._clearAllRequests
  | rejected {u : UserRequest ρ} {err : UserRequestError ρ ω}
      (hcurrent : c._currentRequest = some u) :
    Handled M c ((c.reject u err)._clearCurrentRequest._flush M).1
  | resolved {u : UserRequest ρ} {response : ω} (hcurrent : c._currentRequest = some u) :
    Handled M c ((c.resolve u response)._clearCurrentRequest._flush M).1

theorem MBClientRequestHandler.handled_handle {ρ ω : Type} (M : Messages ρ ω)
    (c : MBClientRequestHandler ρ ω) (response : Option ω) :
    Handled M c (c.handle M response).1 := by
  unfold handle
  split
  · exact .ignored
  · exact .ignored
  · rename_i hcurrent
    dsimp only
    split
    · exact .cleared hcurrent
    · split
      · split
        · exact .ignored
        · exact .rejected hcurrent
      · exact .resolved hcurrent

theorem ModbusTCPClientRequestHandler.handled_handle (c : ModbusTCPClientRequestHandler)
    (response : Option ModbusTCPResponse) : Handled tcpMessages c (handle c response).1 := by
  unfold handle
  split
  · exact .ignored
  · exact .ignored
  · rename_i hcurrent
    dsimp only
    split
    · exact .cleared hcurrent
    · split
      · exact .cleared hcurrent
      · exact MBClientRequestHandler.handled_handle tcpMessages c _

theorem ModbusRTUClientRequestHandler.handled_handle (crc16modbus : Buffer → UInt16)
    (c : ModbusRTUClientRequestHandler) (response : Option ModbusRTUResponse) :
    Handled (rtuMessages crc16modbus) c (handle crc16modbus c response).1 := by
  unfold handle
  split
  · exact .ignored
  · exact .ignored
  · rename_i hcurrent
    split
    · exact .ignored
    · dsimp only
      split
      · exact .cleared hcurrent
      · exact MBClientRequestHandler.handled_handle (rtuMessages crc16modbus) c _

/-! ## The handler as a system -/

namespace Transport

/-- The handler of a client. -/
abbrev Client (w : Transport) : Type := MBClientRequestHandler w.Request w.Response

/-- How the handler makes the bytes of a request, and what it reads of a response. -/
def messages : (w : Transport) → Messages w.Request w.Response
  | tcp => tcpMessages
  | rtu crc16modbus => rtuMessages crc16modbus

/-- The method `register` of the handler. -/
def register : (w : Transport) → Int → w.Client → RequestBody → w.Client × Except Thrown Unit
  | tcp => ModbusTCPClientRequestHandler.register
  | rtu crc16modbus => ModbusRTUClientRequestHandler.register crc16modbus

/-- The request that `register` makes of a body. -/
def request : (w : Transport) → Int → w.Client → RequestBody → w.Request
  | tcp, unitId, c, requestBody =>
    { id := ((c._requestId + 1) % 0xFFFF : Nat), protocol := 0x00,
      length := requestBody.byteCount + 1, unitId, body := requestBody : ModbusTCPRequest }
  | rtu _, address, _, requestBody =>
    { address, body := requestBody, corrupted := false : ModbusRTURequest }

/-- The handler that has taken a transaction id. -/
def advance : (w : Transport) → w.Client → w.Client
  | tcp, c => { c with _requestId := (c._requestId + 1) % 0xFFFF }
  | rtu _, c => c

theorem register_eq (w : Transport) (unitId : Int) (c : w.Client) (requestBody : RequestBody) :
    w.register unitId c requestBody =
      (w.advance c).registerRequest w.messages (w.request unitId c requestBody) := by
  cases w <;> rfl

/-- The method `handle` of the handler. -/
def handle : (w : Transport) → w.Client → Option w.Response → w.Client × Except Thrown Unit
  | tcp => ModbusTCPClientRequestHandler.handle
  | rtu crc16modbus => ModbusRTUClientRequestHandler.handle crc16modbus

theorem handled_handle (w : Transport) (c : w.Client) (response : Option w.Response) :
    Handled w.messages c (w.handle c response).1 := by
  cases w with
  | tcp => exact ModbusTCPClientRequestHandler.handled_handle c response
  | rtu crc16modbus => exact ModbusRTUClientRequestHandler.handled_handle crc16modbus c response

/-- The RTU handler does not listen to the event `close` of its socket. -/
def onClose : (w : Transport) → w.Client → w.Client
  | tcp, c => c._onClose
  | rtu _, c => c

/-- A new handler. The RTU handler is online at once when its socket is open. -/
inductive Starts : (w : Transport) → w.Client → Prop
  | tcp : Starts .tcp .new
  | rtu (crc16modbus : Buffer → UInt16) : Starts (.rtu crc16modbus) .new
  | rtuOpen (crc16modbus : Buffer → UInt16) :
    Starts (.rtu crc16modbus) (MBClientRequestHandler._onConnect .new)

end Transport

/-- What can happen to a handler. -/
inductive Event (w : Transport) where
  | register (requestBody : RequestBody)
  | connect
  | close
  | handle (response : Option w.Response)
  | timeout (u : UserRequest w.Request)
  | deferredFlush
  | manuallyRejectCurrentRequest
  | manuallyRejectRequests (numRequests : Nat)
  | manuallylRejectAllRequests
  | customErrorRequest (err : UserRequestError w.Request w.Response)

/-- One event, for a handler with a unit id (RTU: an address). A call that throws leaves the
state it has come to. -/
def Event.apply {w : Transport} (unitId : Int) (c : w.Client) :
    Event w → w.Client × Except Thrown Unit
  | register requestBody => w.register unitId c requestBody
  | connect => (c._onConnect, .ok ())
  | close => (w.onClose c, .ok ())
  | handle response => w.handle c response
  | timeout u => c.onTimeout w.messages u
  | deferredFlush => { c with flushes := c.flushes - 1 }._flush w.messages
  | manuallyRejectCurrentRequest => c.manuallyRejectCurrentRequest w.messages
  | manuallyRejectRequests numRequests => c.manuallyRejectRequests w.messages numRequests
  | manuallylRejectAllRequests => c.manuallylRejectAllRequests w.messages
  | customErrorRequest err => (c.customErrorRequest err, .ok ())

/-- A timer has to be running to expire, and a deferred call has to be due. -/
def Event.Allowed {w : Transport} (c : w.Client) : Event w → Prop
  | timeout u => u ∈ c.timers
  | deferredFlush => 0 < c.flushes
  | _ => True

/-- A handler and its events, in any order. -/
def clientSystem (w : Transport) (unitId : Int) : Transition.System w.Client (Event w) where
  init := w.Starts
  allows := Event.Allowed
  next c e := (e.apply unitId c).1

end NodeModbus

import Mathlib.Logic.Function.Basic
import NodeModbus.Lib.Effect
import NodeModbus.Server.Client

/-!
# A server with listeners

`ModbusServerResponseHandler` emits events on its server before and after it serves a
request, and leaves the request to listeners when the table it asks for is missing.
What the listeners of the user do is the parameter `Emitter`: they may change the
buffers, call the callback they are given, and throw.

- `EventName`, `Emission`: the events, with what the listeners are called with.
- `Emitter`: what the listeners do.
- `Serving`, `Emitter.emit`, `callback`: a request that is being served, and what has
  happened while it was.
- `Emitter.handle`: the response handler. `Emitter._onData`: a data event.
- `ConnectedServer`, `ListenedServer`: a server and its connections, without listeners and
  with them.
-/

namespace NodeModbus

open Buffer Effect
open ModbusServerResponseHandler
(maskedByte replaceStatus RegisterValues.length RegisterValues.toUint8Array)

/-! ## Events -/

/-- What an event is about. -/
inductive EventSubject where
  | readCoils
  | readDiscreteInputs
  | readHoldingRegisters
  | readInputRegisters
  | readDeviceIdentification
  | writeSingleCoil
  | writeSingleRegister
  | writeMultipleCoils
  | writeMultipleRegisters
  deriving DecidableEq

/-- With the prefix `pre`, without a prefix, or with the prefix `post`. -/
inductive EventPhase where
  | pre
  | plain
  | post
  deriving DecidableEq

/-- The name of an event: `preReadCoils` is `⟨.pre, .readCoils⟩`. -/
structure EventName where
  phase : EventPhase
  subject : EventSubject
  deriving DecidableEq

/-- An event that is emitted, with what its listeners are called with: the request (and the
callback), a table and its status, or a table. -/
inductive Emission (ρ : Type) where
  | request (name : EventName) (request : ρ)
  | status (name : EventName) (table : Ref) (status : List Bool)
  | table (name : EventName) (table : Ref)

/-- What the listeners of an event leave behind: their own state, the buffers, the payloads
they have called the callback with, and whether they throw. -/
structure Emitted (σ : Type) where
  listeners : σ
  heap : Heap
  called : List Buffer
  outcome : Except Thrown Unit

/-- A server as an `EventEmitter`, with its listeners. They have a state of their own. -/
structure Emitter (ρ σ : Type) where
  emit : Emission ρ → σ → Heap → Emitted σ
  listenerCount : EventName → σ → Nat

/-! ## A request that is being served -/

/-- What happens while requests are served: an event is emitted, a listener calls the
callback, or the handler does. -/
inductive Happening (ρ : Type) where
  | emitted (e : Emission ρ)
  | called (payload : Buffer)
  | answered (payload : Buffer)

/-- The payload the callback is called with, which is written to the socket. -/
def Happening.payload {ρ : Type} : Happening ρ → Option Buffer
  | emitted _ => none
  | called payload => some payload
  | answered payload => some payload

/-- The state of the listeners, the buffers in memory, and what has happened. -/
structure Serving (ρ σ : Type) where
  listeners : σ
  heap : Heap
  happened : List (Happening ρ)

variable {ρ σ : Type}

/-- What is done to serve a request. -/
abbrev Serve (ρ σ α : Type) : Type := Program (Serving ρ σ) Thrown α

/-- The handler calls the callback. -/
def callback (payload : Buffer) : Serve ρ σ Unit :=
  modify fun s => { s with happened := s.happened ++ [.answered payload] }

/-- The contents of a table. -/
def readTable (table : Ref) : Serve ρ σ Buffer := return (← get).heap table

/-- Change a table. -/
def writeTable (table : Ref) (b : Buffer) :
    Serve ρ σ Unit := modify fun s => { s with heap := s.heap.write table b }

/-- What a call throws is thrown. -/
def attempt {α : Type} (x : Except Thrown α) : Serve ρ σ α := ExceptT.mk (pure x)

/-- Answer a request with a body. -/
def answerWith (R : Responder ρ) (request : ρ) (body : ResponseBody) : Serve ρ σ Unit := do
  let payload ← attempt (R.respond request body)
  callback payload

namespace Emitter

variable (E : Emitter ρ σ)

/-- The method `emit`. -/
def emits (e : Emission ρ) : Serve ρ σ Unit := fun s =>
  let r := E.emit e s.listeners s.heap
  (r.outcome, { listeners := r.listeners, heap := r.heap,
                happened := s.happened ++ .emitted e :: r.called.map .called })

/-! ## Reads -/

/-- A read of a table: it is left to the listeners of the event when the table is missing. -/
def readsTable (R : Responder ρ) (table : Option Ref) (subject : EventSubject) (request : ρ)
    (responseBody : Buffer → Except Thrown ResponseBody) : Serve ρ σ Unit :=
  match table with
  | none => E.emits (.request ⟨.plain, subject⟩ request)
  | some table => do
    E.emits (.request ⟨.pre, subject⟩ request)
    let body ← attempt (responseBody (← readTable table))
    answerWith R request body
    E.emits (.request ⟨.post, subject⟩ request)

/-- Function code 1. -/
def _handleReadCoil (R : Responder ρ) (server : ModbusServer) (request : ρ)
    (body : ReadCoilsRequestBody) : Serve ρ σ Unit :=
  E.readsTable R server.coils .readCoils request fun coils =>
    return .readCoils (← ReadBitsResponseBody.fromRequest body coils)

/-- Function code 2. -/
def _handleDiscreteInput (R : Responder ρ) (server : ModbusServer) (request : ρ)
    (body : ReadDiscreteInputsRequestBody) : Serve ρ σ Unit :=
  E.readsTable R server.discrete .readDiscreteInputs request fun discrete =>
    return .readDiscreteInputs (← ReadBitsResponseBody.fromRequest body discrete)

/-- Function code 3. -/
def _handleReadHoldingRegisters (R : Responder ρ) (server : ModbusServer) (request : ρ)
    (body : ReadHoldingRegistersRequestBody) : Serve ρ σ Unit :=
  E.readsTable R server.holding .readHoldingRegisters request fun holding =>
    return .readHoldingRegisters (← ReadHoldingRegistersResponseBody.fromRequest body holding)

/-- Function code 4. -/
def _handleReadInputRegisters (R : Responder ρ) (server : ModbusServer) (request : ρ)
    (body : ReadInputRegistersRequestBody) : Serve ρ σ Unit :=
  E.readsTable R server.input .readInputRegisters request fun input =>
    return .readInputRegisters (← ReadInputRegistersResponseBody.fromRequest body input)

/-- The checks come before the first event. When there are listeners for it, they answer. -/
def _handleReadDeviceIdentification (R : Responder ρ) (request : ρ)
    (body : ReadDeviceIdentificationRequestBody) : Serve ρ σ Unit := do
  if body.meiType ≠ READ_DEVICE_ID_MEI_TYPE then
    answerWith R request (.exception
      { fc := .readDeviceIdentification, code := 0x01, meiType := some body.meiType })
  else if body.readDeviceIdCode < 0x01 ∨ body.readDeviceIdCode > 0x04 then
    answerWith R request (.exception
      { fc := .readDeviceIdentification, code := 0x03, meiType := some body.meiType })
  else
    E.emits (.request ⟨.pre, .readDeviceIdentification⟩ request)
    if E.listenerCount ⟨.plain, .readDeviceIdentification⟩ (← get).listeners > 0 then
      E.emits (.request ⟨.plain, .readDeviceIdentification⟩ request)
      E.emits (.request ⟨.post, .readDeviceIdentification⟩ request)
    else
      answerWith R request
        (.exception
          { fc := .readDeviceIdentification, code := 0x01, meiType := some body.meiType })
      E.emits (.request ⟨.post, .readDeviceIdentification⟩ request)

/-! ## Single writes -/

/-- Function code 5. A refused request has its first event only. -/
def _handleWriteSingleCoil (R : Responder ρ) (server : ModbusServer) (request : ρ)
    (body : WriteSingleCoilRequestBody) : Serve ρ σ Unit :=
  match server.coils with
  | none => E.emits (.request ⟨.plain, .writeSingleCoil⟩ request)
  | some coils => do
    E.emits (.request ⟨.pre, .writeSingleCoil⟩ request)
    let responseBody := WriteSingleCoilResponseBody.fromRequest body
    let address := body.address
    let oldValue ← attempt ((← readTable coils).readUInt8 (address / 8))
    -- the getter gives one of the two values, so this answer is not reached
    if body.value ≠ 0xFF00 ∧ body.value ≠ 0x0000 then
      answerWith R request
        (.exception { fc := .writeSingleCoil, code := 0x03, meiType := none })
    else
      let newValue := maskedByte (body.value = 0xFF00) oldValue (address % 8).toNat
      -- `address / 8 > length` of numbers that are not rounded
      if responseBody._address > 8 * (← readTable coils).length then
        answerWith R request
          (.exception { fc := .writeSingleCoil, code := 0x02, meiType := none })
      else
        writeTable coils (← attempt ((← readTable coils).writeUInt8 newValue (address / 8)))
        answerWith R request (.writeSingleCoil responseBody)
        E.emits (.request ⟨.post, .writeSingleCoil⟩ request)

/-- Function code 6. A refused request has its first event only. -/
def _handleWriteSingleHoldingRegister (R : Responder ρ) (server : ModbusServer) (request : ρ)
    (body : WriteSingleRegisterRequestBody) : Serve ρ σ Unit :=
  match server.holding with
  | none => E.emits (.request ⟨.plain, .writeSingleRegister⟩ request)
  | some holding => do
    E.emits (.request ⟨.pre, .writeSingleRegister⟩ request)
    let responseBody := WriteSingleRegisterResponseBody.fromRequest body
    if responseBody._address * 2 > (← readTable holding).length then
      answerWith R request
        (.exception { fc := .writeSingleHoldingRegister, code := 0x02, meiType := none })
    else
      writeTable holding
        (← attempt ((← readTable holding).writeUInt16BE responseBody._value
          (responseBody._address * 2)))
      answerWith R request (.writeSingleRegister responseBody)
      E.emits (.request ⟨.post, .writeSingleRegister⟩ request)

/-! ## Multiple writes -/

/-- The new status is computed before the listeners of `writeMultipleCoils` are called, and
fills the whole table after that. -/
def _handleWriteMultipleCoils (R : Responder ρ) (server : ModbusServer) (request : ρ)
    (body : WriteMultipleCoilsRequestBody) : Serve ρ σ Unit :=
  match server.coils with
  | none => E.emits (.request ⟨.plain, .writeMultipleCoils⟩ request)
  | some coils => do
    E.emits (.request ⟨.pre, .writeMultipleCoils⟩ request)
    let responseBody := WriteMultipleCoilsResponseBody.fromRequest body
    let oldStatus ← attempt (BufferUtils.bufferToArrayStatus (← readTable coils))
    let requestCoilValues ← attempt (BufferUtils.bufferToArrayStatus body.valuesAsBuffer)
    let start := body.address
    let stop := start + body.quantity
    let newStatus := replaceStatus start stop oldStatus 0 requestCoilValues
    E.emits (.status ⟨.plain, .writeMultipleCoils⟩ coils oldStatus)
    let bytes ← attempt (BufferUtils.arrayStatusToBuffer newStatus)
    let table ← readTable coils
    writeTable coils (← attempt (table.fill bytes 0 table.length))
    E.emits (.status ⟨.post, .writeMultipleCoils⟩ coils newStatus)
    answerWith R request (.writeMultipleCoils responseBody)
    E.emits (.request ⟨.post, .writeMultipleCoils⟩ request)

/-- Function code 16. The listeners of `writeMultipleRegisters` come before the table is
filled. -/
def _handleWriteMultipleHoldingRegisters (R : Responder ρ) (server : ModbusServer) (request : ρ)
    (body : WriteMultipleRegistersRequestBody) : Serve ρ σ Unit :=
  match server.holding with
  | none => E.emits (.request ⟨.plain, .writeMultipleRegisters⟩ request)
  | some holding => do
    E.emits (.request ⟨.pre, .writeMultipleRegisters⟩ request)
    -- entries are compared with bytes when the values are an array
    let length := RegisterValues.length body.values
    if body.address * 2 + length > (← readTable holding).length then
      answerWith R request
        (.exception { fc := .writeMultipleHoldingRegisters, code := 0x02, meiType := none })
    else
      E.emits (.table ⟨.plain, .writeMultipleRegisters⟩ holding)
      writeTable holding
        (← attempt ((← readTable holding).fill (RegisterValues.toUint8Array body.values)
          (body.address * 2) (body.address * 2 + length)))
      E.emits (.table ⟨.post, .writeMultipleRegisters⟩ holding)
      answerWith R request
        (.writeMultipleRegisters (WriteMultipleRegistersResponseBody.fromRequest body))
      E.emits (.request ⟨.post, .writeMultipleRegisters⟩ request)

/-! ## The dispatcher, and data events -/

/-- The method `handle`. -/
def handle (R : Responder ρ) (server : ModbusServer) (request : ρ) : Serve ρ σ Unit :=
  match R.body request with
  | .exception body =>
    answerWith R request (.exception (ExceptionResponseBody.fromRequest body))
  | .readCoils body => E._handleReadCoil R server request body
  | .readDiscreteInputs body => E._handleDiscreteInput R server request body
  | .readDeviceIdentification body => E._handleReadDeviceIdentification R request body
  | .readHoldingRegisters body => E._handleReadHoldingRegisters R server request body
  | .readInputRegisters body => E._handleReadInputRegisters R server request body
  | .writeSingleCoil body => E._handleWriteSingleCoil R server request body
  | .writeSingleRegister body => E._handleWriteSingleHoldingRegister R server request body
  | .writeMultipleCoils body => E._handleWriteMultipleCoils R server request body
  | .writeMultipleRegisters body => E._handleWriteMultipleHoldingRegisters R server request body

end Emitter

/-- A connection to a server with listeners: its request handler, and what has happened. -/
structure ListenedClient (w : Transport) (σ : Type) where
  _requestHandler : ModbusServerRequestHandler w.Request
  serving : Serving w.Request σ

namespace Emitter

variable (w : Transport) (E : Emitter w.Request σ)

open Loop in
/-- One round of the loop in `_onData`. -/
def onDataRound (server : ModbusServer) (c : ListenedClient w σ) :
    Round (ListenedClient w σ) (ListenedClient w σ × Except Thrown Unit) :=
  match c._requestHandler.shift with
  | (none, _) => .leave (c, .ok ())
  | (some request, requestHandler) =>
    if server.ignores (w.address request) then .next
      { c with _requestHandler := requestHandler }
    else match exec (E.handle w.responder server request) c.serving with
      | (.error e, serving) => .leave (⟨requestHandler, serving⟩, .error e)
      | (.ok (), serving) => .next ⟨requestHandler, serving⟩

/-- The loop in `_onData`: every round takes a request off the queue. -/
def onDataLoop (server : ModbusServer) :
    Loop.Body (ListenedClient w σ) (ListenedClient w σ × Except Thrown Unit) where
  round := E.onDataRound w server
  measure c := c._requestHandler._requests.length
  decreases := by
    intro c c' h
    unfold onDataRound at h
    split at h
    · cases h
    · rename_i request requestHandler hshift
      -- the next round starts with what `shift` has left of the queue
      refine lt_of_eq_of_lt ?_ (ModbusServerRequestHandler.length_shift_lt hshift)
      split at h
      · cases h
        rfl
      · split at h
        · cases h
        · cases h
          rfl

/-- The method `_onData`: the state it leaves, and whether it throws. -/
def _onData (server : ModbusServer) (c : ListenedClient w σ) (data : Buffer) :
    ListenedClient w σ × Except Thrown Unit :=
  match ModbusServerRequestHandler.handle w.reader c._requestHandler data with
  | (requestHandler, .error e) => ({ c with _requestHandler := requestHandler }, .error e)
  | (requestHandler, .ok ()) =>
    (E.onDataLoop w server).exec { c with _requestHandler := requestHandler }

variable {w} (server : ModbusServer) {request : w.Request} (requests : List w.Request)
  (buffer : Buffer) {serving serving' : Serving w.Request σ}

theorem exec_idle (serving : Serving w.Request σ) :
    (E.onDataLoop w server).exec ⟨⟨[], buffer⟩, serving⟩ = (⟨⟨[], buffer⟩, serving⟩, .ok ()) :=
  Loop.Body.exec_leave rfl

/-- A request for another slave is dropped. -/
theorem exec_ignored (serving : Serving w.Request σ)
    (h : server.ignores (w.address request) = true) :
    (E.onDataLoop w server).exec ⟨⟨request :: requests, buffer⟩, serving⟩ =
      (E.onDataLoop w server).exec ⟨⟨requests, buffer⟩, serving⟩ :=
  Loop.Body.exec_next (if_pos h)

/-- A request that is served makes room for the next one. -/
theorem exec_served (h : server.ignores (w.address request) = false)
    (hexec : exec (E.handle w.responder server request) serving = (.ok (), serving')) :
    (E.onDataLoop w server).exec ⟨⟨request :: requests, buffer⟩, serving⟩ =
      (E.onDataLoop w server).exec ⟨⟨requests, buffer⟩, serving'⟩ := by
  refine Loop.Body.exec_next ?_
  show E.onDataRound w server ⟨⟨request :: requests, buffer⟩, serving⟩ = _
  simp [onDataRound, ModbusServerRequestHandler.shift, h, hexec]

/-- What is thrown leaves the loop. -/
theorem exec_thrown (h : server.ignores (w.address request) = false) {e : Thrown}
    (hexec : exec (E.handle w.responder server request) serving = (.error e, serving')) :
    (E.onDataLoop w server).exec ⟨⟨request :: requests, buffer⟩, serving⟩ =
      (⟨⟨requests, buffer⟩, serving'⟩, .error e) := by
  refine Loop.Body.exec_leave ?_
  show E.onDataRound w server ⟨⟨request :: requests, buffer⟩, serving⟩ = _
  simp [onDataRound, ModbusServerRequestHandler.shift, h, hexec]

end Emitter

/-! ## Connections -/

/-- A server and its connections, each with the request handler that was made for it, and
what was written to which socket. -/
structure ConnectedServer (ι : Type) (w : Transport) where
  connection : ι → ModbusServerRequestHandler w.Request
  heap : Heap
  written : List (ι × Buffer)

/-- The same, with listeners, and what has happened on which connection. -/
structure ListenedServer (ι : Type) (w : Transport) (σ : Type) where
  connection : ι → ModbusServerRequestHandler w.Request
  listeners : σ
  heap : Heap
  happened : List (ι × Happening w.Request)

variable {ι : Type} [DecidableEq ι]

/-- The connections have data events, one after another: every one of them is one step,
which throws or does not. -/
def ConnectedServer.machine (w : Transport) (server : ModbusServer) :
    Refinement.Machine (ConnectedServer ι w) (ι × Buffer) (Except Thrown Unit) where
  step s event :=
    let r := ModbusServerClient._onData w server ⟨s.connection event.1, s.heap, []⟩ event.2
    ({ connection := Function.update s.connection event.1 r.1._requestHandler
       heap := r.1.heap
       written := s.written ++ r.1.written.map (event.1, ·) }, r.2)

/-- The server with its connections and the listeners of the user, as a machine that takes
data events. -/
def Emitter.machine (w : Transport) (E : Emitter w.Request σ) (server : ModbusServer) :
    Refinement.Machine (ListenedServer ι w σ) (ι × Buffer) (Except Thrown Unit) where
  step s event :=
    let r := E._onData w server ⟨s.connection event.1, ⟨s.listeners, s.heap, []⟩⟩ event.2
    ({ connection := Function.update s.connection event.1 r.1._requestHandler
       listeners := r.1.serving.listeners
       heap := r.1.serving.heap
       happened := s.happened ++ r.1.serving.happened.map (event.1, ·) }, r.2)

end NodeModbus

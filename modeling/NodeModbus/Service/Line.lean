import NodeModbus.Client.Calls
import NodeModbus.Service.SerialAnswers
import NodeModbus.Service.Serving

/-!
# A serial line

One RTU client and one RTU server with four tables, at the two ends of a serial line.
The client writes a request when it has got the response to the one before, so that
one frame is on the line, or none.

- `SerialLine`: the two parties, and what is on its way between them.
- `LineEvent`, `lineSystem`: what can happen, as a transition system.
- `operations`, `resolutions`: what the user has asked for, and what the user has got.
- `InTurn`: the calls are served one after another, in their order.
-/

namespace NodeModbus

open Buffer Framing MBClientRequestHandler Transition

/-! ## The parties -/

/-- A client and a server, and the bytes on their way to the server and to the client. -/
structure SerialLine (crc16modbus : Buffer → UInt16) where
  client : MBClient (.rtu crc16modbus)
  requestHandler : ModbusServerRequestHandler ModbusRTURequest
  heap : Heap
  up : Wire UInt8
  down : Wire UInt8

/-- What can happen on a serial line. -/
inductive LineEvent where
  /-- The user calls a request method. -/
  | call (unsafeBytes : Nat → UInt8) (k : Call)
  /-- The client has its event `open`. -/
  | opened
  /-- The next bytes arrive at the server. -/
  | upstream (k : Nat)
  /-- The next bytes arrive at the client. -/
  | downstream (k : Nat)

/-- Bytes arrive, on one side or the other. -/
def LineEvent.Delivers (e : LineEvent) : Prop := (∃ k, e = .upstream k) ∨ ∃ k, e = .downstream k

/-- The promise that is resolved, and what its response says. -/
def Action.resolution {ρ : Type} :
    Action ρ ModbusRTUResponse → Option (UserRequest ρ × ResponseContent)
  | resolved u response => some (u, response.body.content)
  | _ => none

variable {crc16modbus : Buffer → UInt16}

namespace SerialLine

/-- The request handler of the client. -/
def handler (s : SerialLine crc16modbus) :
    ModbusRTUClientRequestHandler := s.client._requestHandler

/-- What a client has done that has come to another state. -/
def added (s : SerialLine crc16modbus) (c : MBClient (.rtu crc16modbus)) :
    List (Action ModbusRTURequest ModbusRTUResponse) :=
  c._requestHandler.log.drop s.handler.log.length

/-- The client has come to another state, and what it has written is on its way. -/
def absorb (s : SerialLine crc16modbus) (c : MBClient (.rtu crc16modbus)) :
    SerialLine crc16modbus :=
  { s with client := c, up := s.up.send ((s.added c).filterMap Action.payload) }

/-- The user calls when the line is open, and for operations in the tables. No piece that
arrives at the server ends behind the first byte of a request. -/
def Allowed (m : Memory) (s : SerialLine crc16modbus) : LineEvent → Prop
  | .call unsafeBytes k =>
    s.handler._state = .online ∧ ∀ requestBody, k.body unsafeBytes = .ok requestBody →
      requestBody.Sendable ∧ (∃ p, requestBody.createPayload = .ok p) ∧
        ∃ op, requestBody.content.operation = some op ∧ op.InRange m
  | .opened => True
  | .upstream k => (s.up.deliver k).Uncut fun _ n => n = 1
  | .downstream _ => True

/-- The line after an event: what one side writes is on its way to the other one. -/
def next (server : ModbusServer) (s : SerialLine crc16modbus) :
    LineEvent → SerialLine crc16modbus
  | .call unsafeBytes k =>
    let c := s.client
    s.absorb
      (c.withHandler (k.apply (.rtu crc16modbus) c.unitId unsafeBytes c._requestHandler).1)
  | .opened => s.absorb (s.client.withHandler s.handler._onConnect)
  | .upstream k =>
    let result :=
      (ModbusServerClient._onData (.rtu crc16modbus) server ⟨s.requestHandler, s.heap, []⟩
        (s.up.next k)).1
    { s with requestHandler := result._requestHandler, heap := result.heap,
             up := s.up.deliver k, down := s.down.send result.written }
  | .downstream k =>
    { s with down := s.down.deliver k }.absorb (s.client._onData (s.down.next k)).1

/-- The requests of the user, in the order of the calls. -/
def requests (s : SerialLine crc16modbus) : List (UserRequest ModbusRTURequest) :=
  registrations s.handler.log

/-- The operations the user has asked for. -/
def operations (s : SerialLine crc16modbus) : List Operation :=
  s.requests.filterMap fun u => u.request.body.content.operation

/-- The promises that are resolved, in their order, with what the user has got. -/
def resolutions (s : SerialLine crc16modbus) :
    List (UserRequest ModbusRTURequest × ResponseContent) :=
  s.handler.log.filterMap Action.resolution

/-- No promise is rejected. The promises are resolved in the order of the calls, with what
the memory answers when the operations are carried out in that order. The tables are those
after the operations that the user has the answers of, or after one more. -/
structure InTurn (m : Memory) (t : Tables) (heap : Heap) (s : SerialLine crc16modbus) :
    Prop where
  kept : ∀ u err, .rejected u err ∉ s.handler.log
  answers : s.resolutions <+: s.requests.zip (Memory.observed.run m s.operations).2
  tables : ∃ n, (n = s.resolutions.length ∨ n = s.resolutions.length + 1) ∧
    s.heap = (Memory.machine.run m (s.operations.take n)).1.store t heap

end SerialLine

/-- A new client of a unit that the server does not ignore, and a server with tables. -/
def lineSystem (crc16modbus : Buffer → UInt16) (id : Option Int) (t : Tables) (heap : Heap) :
    System (SerialLine crc16modbus) LineEvent where
  init s := (Transport.rtu crc16modbus).Starts s.handler ∧ s.client._responseHandler = .new ∧
    IsUInt8 s.client.unitId ∧ (ModbusServer.ofTables id t).ignores s.client.unitId = false ∧
    s.requestHandler = .new ∧ s.heap = heap ∧ s.up = .empty ∧ s.down = .empty
  allows := SerialLine.Allowed (.load t heap)
  next := SerialLine.next (.ofTables id t)

/-! ## Requests on the line -/

/-- A request of the client: its number, its frame, and the operation it asks for. -/
structure Turn (crc16modbus : Buffer → UInt16) where
  key : Nat
  frame : RtuFrame crc16modbus
  op : Operation
  asks : frame.request.body.content.operation = some op

/-- The request, as the client knows it. -/
def Turn.request (x : Turn crc16modbus) :
    UserRequest ModbusRTURequest := ⟨x.key, x.frame.request⟩

/-- Where the request is that is under way: there is none, its frame is on its way, or it
was served and the answer is on its way. -/
inductive OnLine (m : Memory) (done : List (Turn crc16modbus)) :
    Option (Turn crc16modbus) → List (Turn crc16modbus) → List (RtuFrame crc16modbus) →
    List SerialAnswer → Prop
  | idle : OnLine m done none done [] []
  | asked (x : Turn crc16modbus) : OnLine m done (some x) done [x.frame] []
  | answered (x : Turn crc16modbus) (g : SerialAnswer)
      (hg : g.answer = (Memory.machine.run m (done.map Turn.op)).1.answer x.op) :
      OnLine m done (some x) (done ++ [x]) [] [g]

end NodeModbus

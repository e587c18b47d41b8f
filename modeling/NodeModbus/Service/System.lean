import Mathlib.Logic.Function.Basic
import NodeModbus.Lib.Linearization
import NodeModbus.Lib.Wire
import NodeModbus.Service.Answers
import NodeModbus.Service.Client

/-!
# Clients of one TCP server

Any number of TCP clients and one server with four tables. Every client has a
connection to the server, and gets a new one when its socket connects again. What is
written to a socket is on its way until the other side has a data event.

- `Connection`, `Session`, `Service`: one connection, one client with its connections,
  and all of them with the tables of the server.
- `Session.served`: what a data event of the server does.
- `Session.absorb`: what follows when a client has done something: what it has
  written is on its way.
- `ServiceEvent`, `serviceSystem`: what can happen, as a transition system.
-/

namespace NodeModbus

open Buffer Framing Linearization Transition

/-! ## The parties -/

/-- A connection: the request handler the server has made for it, and the bytes on their way
to the server and to the client. -/
structure Connection where
  requestHandler : ModbusServerRequestHandler ModbusTCPRequest
  up : Wire UInt8
  down : Wire UInt8

/-- The method `_onConnection`. -/
def Connection.new : Connection := ⟨.new, .empty, .empty⟩

/-- A client and its connections. When it connects again it leaves the old ones behind,
where bytes may still be on their way to the server. -/
structure Session where
  client : MBClient .tcp
  /-- The number of the connection the client uses. -/
  current : Nat
  connection : Nat → Connection

/-- The client whose request handler has come to another state. -/
def MBClient.withHandler {w : Transport} (c : MBClient w) (handler : w.Client) : MBClient w :=
  { c with _requestHandler := handler }

namespace Session

/-- The request handler of the client. -/
def handler (s : Session) : ModbusTCPClientRequestHandler := s.client._requestHandler

/-- The response handler of the client. -/
def responses (s : Session) : ModbusTCPClientResponseHandler := s.client._responseHandler

/-- The connection in use. -/
def link (s : Session) : Connection := s.connection s.current

/-- Change one connection. -/
def modify (s : Session) (n : Nat) (f : Connection → Connection) : Session :=
  { s with connection := Function.update s.connection n (f (s.connection n)) }

/-- What a client has done that has come to another state. -/
def added (s : Session) (c : MBClient .tcp) :
    List (Action ModbusTCPRequest ModbusTCPResponse) :=
  c._requestHandler.log.drop s.handler.log.length

/-- The client has come to another state, and what it has written is on its way. -/
def absorb (s : Session) (c : MBClient .tcp) : Session :=
  { s.modify s.current fun link =>
      { link with up := link.up.send ((s.added c).filterMap Action.payload) } with
    client := c }

/-- The next connection is used. -/
def reconnect (s : Session) : Session := { s with current := s.current + 1 }

/-- The next bytes of the connection arrive at the client. -/
def receive (s : Session) (k : Nat) : Session :=
  s.modify s.current fun link => { link with down := link.down.deliver k }

/-- A data event of the server: the requests that are complete are served, and what is
answered is on its way back. -/
def served (server : ModbusServer) (heap : Heap) (s : Session) (n k : Nat) : Session × Heap :=
  let link := s.connection n
  let result :=
    (ModbusServerClient._onData .tcp server ⟨link.requestHandler, heap, []⟩ (link.up.next k)).1
  (s.modify n fun link =>
    { requestHandler := result._requestHandler, up := link.up.deliver k,
      down := link.down.send result.written }, result.heap)

end Session

/-- The calls of the users, and the answers they got. -/
abbrev History (ι : Type) : Type := List (Mark (ι × Nat) Operation ResponseContent)

/-- The clients `ι`, the tables of the server, and what the users have seen. -/
structure Service (ι : Type) where
  session : ι → Session
  heap : Heap
  history : History ι

/-- The memory behind a server, with the answers as a client reads them. -/
def Memory.observed : Refinement.Machine Memory Operation ResponseContent :=
  Memory.machine.mapOut Answer.content

/-- What the user of a client notices: a request method is called, or a promise is resolved. -/
def Action.mark {ι : Type} (i : ι) :
    Action ModbusTCPRequest ModbusTCPResponse →
    Option (Mark (ι × Nat) Operation ResponseContent)
  | registered u => u.request.body.content.operation.map (.call (i, u.key))
  | resolved u response => some (.ret (i, u.key) response.body.content)
  | _ => none

namespace Service

variable {ι : Type} [DecidableEq ι]

/-- The session of a client is replaced. -/
def setSession (s : Service ι) (i : ι) (session : Session) : Service ι :=
  { s with session := Function.update s.session i session }

/-- The client has come to another state. -/
def absorb (s : Service ι) (i : ι) (c : MBClient .tcp) : Service ι :=
  { s.setSession i ((s.session i).absorb c) with
    history := s.history ++ ((s.session i).added c).filterMap (Action.mark i) }

end Service

/-! ## The system -/

/-- A request frame must not be cut behind a whole register of a write of several registers. -/
def RequestCut (frame : Buffer) (k : Nat) : Prop := frame[7]? = some 16 ∧ 13 ≤ k ∧ k % 2 = 1

/-- A response frame must not be cut behind the byte count of holding registers. -/
def ResponseCut (frame : Buffer) (k : Nat) : Prop := frame[7]? = some 3 ∧ 9 ≤ k

instance (frame : Buffer) (k : Nat) : Decidable (RequestCut frame k) :=
  inferInstanceAs (Decidable (_ ∧ _))

instance (frame : Buffer) (k : Nat) : Decidable (ResponseCut frame k) :=
  inferInstanceAs (Decidable (_ ∧ _))

/-- The next transaction id is not that of a pending request, nor of a frame that is on its
way. -/
def Session.IdFree (s : Session) : Prop :=
  (∀ u ∈ s.handler.pending, u.request.id ≠ ((s.handler._requestId + 1) % 0xFFFF : Nat)) ∧
    ∀ frame ∈ s.link.up.frames ++ s.link.down.frames,
      frame.take 2 ≠ Words.be16 ((s.handler._requestId + 1) % 0xFFFF)

instance (s : Session) : Decidable s.IdFree := inferInstanceAs (Decidable (_ ∧ _))

/-- What can happen to the clients and the server. -/
inductive ServiceEvent (ι : Type) where
  /-- A user calls a request method. -/
  | call (i : ι) (unsafeBytes : Nat → UInt8) (k : Call)
  /-- The socket of a client connects, over a new connection. -/
  | connect (i : ι)
  /-- Something else happens to a client. -/
  | event (i : ι) (e : Event .tcp)
  /-- The next bytes of a connection arrive at the server. -/
  | upstream (i : ι) (n k : Nat)
  /-- The next bytes arrive at a client. -/
  | downstream (i : ι) (k : Nat)

namespace Service

variable {ι : Type} [DecidableEq ι]

/-- The requests of the users are sent as they are and ask for operations in the tables, the
transaction ids do not come round to one that is still in use, no frame is cut at a bad
place, and a client that connects has no part of a response left. -/
def Allowed (m : Memory) (s : Service ι) : ServiceEvent ι → Prop
  | .call i unsafeBytes k => ∀ requestBody, k.body unsafeBytes = .ok requestBody →
      requestBody.Sendable ∧ (∃ p, requestBody.createPayload = .ok p) ∧
        (∃ op, requestBody.content.operation = some op ∧ op.InRange m) ∧ (s.session i).IdFree
  | .connect i => (s.session i).responses = .new
  | .event i e =>
    Event.Allowed (w := .tcp) (s.session i).handler e ∧ (e.Internal ∨ e = .close) ∧
      ∀ response, e ≠ .handle response
  | .upstream i n k =>
    n ≤ (s.session i).current ∧ (((s.session i).connection n).up.deliver k).Uncut RequestCut
  | .downstream i k => ((s.session i).link.down.deliver k).Uncut ResponseCut

/-- The service after an event. Only a client that calls, or whose answer arrives, adds to
the history. -/
def next (server : ModbusServer) (s : Service ι) : ServiceEvent ι → Service ι
  | .call i unsafeBytes k =>
    let c := (s.session i).client
    s.absorb i (c.withHandler (k.apply .tcp c.unitId unsafeBytes c._requestHandler).1)
  | .connect i =>
    let c := (s.session i).client
    let s := s.absorb i (c.withHandler c._requestHandler._onConnect)
    s.setSession i (s.session i).reconnect
  | .event i e =>
    let c := (s.session i).client
    s.absorb i (c.withHandler (e.apply c.unitId c._requestHandler).1)
  | .upstream i n k =>
    let result := (s.session i).served server s.heap n k
    { s.setSession i result.1 with heap := result.2 }
  | .downstream i k =>
    let data := (s.session i).link.down.next k
    let s := s.setSession i ((s.session i).receive k)
    s.absorb i ((s.session i).client._onData data).1

end Service

/-- A new client of a unit, which has no connection yet. -/
structure Session.Starts (s : Session) : Prop where
  handler : s.handler = .new
  responses : s.responses = .new
  connection : ∀ n, s.connection n = .new
  unitId : IsUInt8 s.client.unitId

/-- New clients, none of which the server ignores, and a server with tables. -/
def serviceSystem (ι : Type) [DecidableEq ι] (id : Option Int) (t : Tables) (heap : Heap) :
    System (Service ι) (ServiceEvent ι) where
  init s := (∀ i, (s.session i).Starts ∧
      (ModbusServer.ofTables id t).ignores (s.session i).client.unitId = false) ∧
    s.heap = heap ∧ s.history = []
  allows := Service.Allowed (.load t heap)
  next := Service.next (.ofTables id t)

end NodeModbus

import NodeModbus.Server.Memory
import NodeModbus.Server.Reassembly
import NodeModbus.Server.ResponseHandler

/-!
# The two transports of a server

The request class of a transport, with its reader and its responder.

- `fromWire_body`: the body of a request that was decoded.
- `respond_eq`: the payload of the response to a request that was decoded is the
  payload of its body in a frame.
- `RequestContent.operation`: the memory operation a request asks for.
-/

namespace NodeModbus

open Buffer Words

/-- The operation on the memory of a server a request asks for. -/
def RequestContent.operation : RequestContent → Option Operation
  | readCoils start count => some (.readCoils start.toNat count.toNat)
  | readDiscreteInputs start count => some (.readDiscreteInputs start.toNat count.toNat)
  | readHoldingRegisters start count => some (.readHoldingRegisters start.toNat count.toNat)
  | readInputRegisters start count => some (.readInputRegisters start.toNat count.toNat)
  | writeSingleCoil address value => some (.writeCoil address.toNat value)
  | writeSingleRegister address value =>
    some (.writeRegister address.toNat (UInt16.ofNat value.toNat))
  | writeMultipleCoils address _ values => some (.writeCoils address.toNat values)
  | writeMultipleRegisters address _ values =>
    some (.writeRegisters address.toNat (values.map fun v => UInt16.ofNat v.toNat))
  | readDeviceIdentification .. => none
  | exception .. => none

namespace Transport

/-- What the request handler uses of the request class. -/
def reader : (w : Transport) → Reader w.Request
  | tcp => tcpReader
  | rtu crc16modbus => rtuReader crc16modbus

/-- What the response handler uses of the request and response classes. -/
def responder : (w : Transport) → Responder w.Request
  | tcp => tcpResponder
  | rtu crc16modbus => rtuResponder crc16modbus

/-- The getter `body`. -/
def body (w : Transport) : w.Request → RequestBody := w.responder.body

/-- The getter `address`, which is the unit id. -/
def address : (w : Transport) → w.Request → Int
  | tcp => ModbusTCPRequest.address
  | rtu _ => ModbusRTURequest.address

/-- The bytes of a response to a request, around the payload of its body: the ids of the request
and a length, or its address and a CRC. -/
def frame : (w : Transport) → w.Request → Buffer → Buffer
  | tcp, (r : ModbusTCPRequest), pdu => mbapFrame r.id.toNat r.protocol.toNat r.unitId.toNat pdu
  | rtu crc16modbus, (r : ModbusRTURequest), pdu =>
    ModbusRTURequest.frame crc16modbus r.address pdu

theorem frame_injective (w : Transport) (request : w.Request) {p p' : Buffer}
    (h : w.frame request p = w.frame request p') : p = p' := by
  cases w with
  | tcp => exact congrArg (List.drop 7) h
  | rtu crc16modbus => exact (ModbusRTURequest.frame_injective crc16modbus h).2

/-- The request was decoded from bytes, and is not corrupted. -/
def Decoded (w : Transport) (r : w.Request) : Prop :=
  ∃ b, w.reader.fromBuffer b = some r ∧ w.reader.corrupted r = false

theorem decoded_tcp {b : Buffer} {r : ModbusTCPRequest}
    (h : ModbusTCPRequest.fromBuffer b = some r) : Decoded .tcp r :=
  ⟨b, h, rfl⟩

theorem decoded_rtu {crc16modbus : Buffer → UInt16} {b : Buffer} {r : ModbusRTURequest}
    (h : ModbusRTURequest.fromBuffer crc16modbus b = some r) (hcrc : r.corrupted = false) :
    Decoded (.rtu crc16modbus) r :=
  ⟨b, h, hcrc⟩

theorem fromWire_body {w : Transport} {r : w.Request} (h : w.Decoded r) :
    RequestFactory.FromWire (w.body r) := by
  obtain ⟨b, h, -⟩ := h
  cases w with
  | tcp =>
    have h' : ModbusTCPRequest.fromBuffer b = some r := h
    rw [ModbusTCPRequest.fromBuffer_eq] at h'
    obtain ⟨m, -, h'⟩ := Option.bind_eq_some_iff.mp h'
    obtain ⟨body, hbody, rfl⟩ := Option.map_eq_some_iff.mp h'
    exact RequestFactory.fromWire hbody
  | rtu crc16modbus =>
    obtain ⟨rest, hbody⟩ := ModbusRTURequest.exists_body crc16modbus h
    exact RequestFactory.fromWire hbody

/-- What is sent has a body with a payload. -/
theorem exists_createPayload_of_respond {w : Transport} {r : w.Request} {body : ResponseBody}
    {payload : Buffer} (h : w.responder.respond r body = .ok payload) :
    ∃ p, body.createPayload = .ok p := by
  cases w with
  | tcp =>
    obtain ⟨_, -, h⟩ := bind_eq_ok.mp h
    obtain ⟨_, -, h⟩ := bind_eq_ok.mp h
    obtain ⟨p, hp, -⟩ := bind_eq_ok.mp h
    exact ⟨p, hp⟩
  | rtu crc16modbus =>
    obtain ⟨_, -, h⟩ := bind_eq_ok.mp h
    obtain ⟨_, -, h⟩ := bind_eq_ok.mp h
    obtain ⟨p, hp, -⟩ := bind_eq_ok.mp h
    exact ⟨p, hp⟩

/-- The payload of the response to a request. -/
theorem respond_eq {w : Transport} {r : w.Request} (h : w.Decoded r) {body : ResponseBody}
    {p : Buffer} (hp : body.createPayload = .ok p) (hcount : body.byteCount = p.length)
    (hlen : p.length < 65535) : w.responder.respond r body = .ok (w.frame r p) := by
  obtain ⟨b, h, -⟩ := h
  cases w with
  | tcp =>
    have h' : ModbusTCPRequest.fromBuffer b = some r := h
    have hrange := ModbusTCPRequest.ranges_of_fromBuffer h'
    show (ModbusTCPResponse.fromRequest r body).createPayload = _
    rw [ModbusTCPResponse.createPayload_eq hp (by rw [← hcount]; rfl), if_pos]
    · rfl
    · exact ⟨hrange.1, hrange.2.1, isUInt16_natCast (n := p.length + 1) (by omega), hrange.2.2⟩
  | rtu crc16modbus =>
    have ha := ModbusRTURequest.range_of_fromBuffer crc16modbus h
    exact ModbusRTUResponse.createPayload_eq crc16modbus hp hcount ha

end Transport

end NodeModbus

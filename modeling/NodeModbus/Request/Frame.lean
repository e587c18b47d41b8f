import NodeModbus.Mbap
import NodeModbus.Request.RoundTrip

/-!
# Request frames

The two transports of a request: `ModbusTCPRequest` with its MBAP header and
`ModbusRTURequest` with unit address and CRC.

- `ModbusTCPRequest.fromBuffer_eq`, `ModbusRTURequest.fromBuffer_eq`: the two
  decoders through the body factory.
- `createPayload_eq`: the bytes of a frame.
- `Transport`: TCP and RTU under one type.
-/

namespace NodeModbus

open Buffer Words

/-! ## TCP -/

/-- A request over TCP: the fields of its header, and the body. -/
structure ModbusTCPRequest where
  id : Int
  protocol : Int
  length : Int
  unitId : Int
  body : RequestBody
  deriving DecidableEq

namespace ModbusTCPRequest

/-- The getter `address`. -/
def address (r : ModbusTCPRequest) : Int := r.unitId

/-- The getter `corrupted`. -/
def corrupted (_ : ModbusTCPRequest) : Bool := false

/-- The getter `byteCount`. -/
def byteCount (r : ModbusTCPRequest) : Int := r.length + 6

/-- The header is read, and the body behind it. `length` is taken as it was read. -/
def fromBuffer (buffer : Buffer) : Option ModbusTCPRequest :=
  tryOrNull do
    if buffer.length < 7 then
      return none
    let m ← readMbap buffer
    match RequestFactory.fromBuffer m.bytes with
    | none => return none
    | some body =>
      return some
        { id := m.id, protocol := m.protocol, length := m.length, unitId := m.unitId, body }

/-- The header, with the length of the body, and the bytes of the body behind it. -/
def createPayload (r : ModbusTCPRequest) : Except Thrown Buffer := do
  let body ← r.body.createPayload
  let payload ← Buffer.alloc (7 + r.body.byteCount)
  let payload ← mbapHeader r.id 0x0000 (r.body.byteCount + 1) r.unitId payload
  return Buffer.copy body payload 7

/-- What a request asks for, of which unit, and under which transaction id. -/
def content (r : ModbusTCPRequest) :
    Int × Int × RequestContent := (r.id, r.unitId, r.body.content)

/-- The class does not define `toString`. -/
def toString (_ : ModbusTCPRequest) : Except Thrown String := .ok "[object Object]"

/-- The request around a body, with the header that was read. -/
def ofMbap (m : Mbap) (body : RequestBody) : ModbusTCPRequest :=
  { id := m.id, protocol := m.protocol, length := m.length, unitId := m.unitId, body }

theorem fromBuffer_eq (buffer : Buffer) :
    fromBuffer buffer = (splitMbap buffer).bind fun m =>
      (RequestFactory.fromBuffer m.bytes).map (ofMbap m) := by
  by_cases h : buffer.length < 7
  · rw [splitMbap_eq_none h]
    simp only [fromBuffer, if_pos h]
    rfl
  · rw [← readMbap_eq]
    simp only [fromBuffer, if_neg h, bind, Except.bind]
    cases readMbap buffer with
    | error e => rfl
    | ok m =>
      simp only [Except.toOption, Option.bind_some]
      cases RequestFactory.fromBuffer m.bytes <;> rfl

/-- The byte count of what is decoded is that of the header field. -/
theorem byteCount_pos {buffer : Buffer} {r : ModbusTCPRequest}
    (h : fromBuffer buffer = some r) : 0 < r.byteCount := by
  rw [fromBuffer_eq] at h
  obtain ⟨m, -, h⟩ := Option.bind_eq_some_iff.mp h
  obtain ⟨body, -, rfl⟩ := Option.map_eq_some_iff.mp h
  show 0 < (m.length : Int) + 6
  omega

/-- The header fields of what is decoded are 16-bit numbers and a byte. -/
theorem ranges_of_fromBuffer {buffer : Buffer} {r : ModbusTCPRequest}
    (h : fromBuffer buffer = some r) :
    IsUInt16 r.id ∧ IsUInt16 r.protocol ∧ IsUInt8 r.unitId := by
  rw [fromBuffer_eq] at h
  obtain ⟨m, hm, h⟩ := Option.bind_eq_some_iff.mp h
  obtain ⟨body, -, rfl⟩ := Option.map_eq_some_iff.mp h
  rcases buffer with _ | ⟨i, _ | ⟨i', _ | ⟨q, _ | ⟨q', _ | ⟨l, _ | ⟨l', _ | ⟨u, rest⟩⟩⟩⟩⟩⟩⟩
  case cons.cons.cons.cons.cons.cons.cons =>
    obtain rfl := Option.some.inj hm
    exact ⟨isUInt16_u16 i i', isUInt16_u16 q q', isUInt8_toNat u⟩
  all_goals cases hm

/-- The bytes of a request whose body announces its own length. -/
theorem createPayload_eq {r : ModbusTCPRequest} {p : Buffer} (hp : r.body.createPayload = .ok p)
    (hcount : r.body.byteCount = p.length) :
    r.createPayload =
      if IsUInt16 r.id ∧ IsUInt16 (p.length + 1) ∧ IsUInt8 r.unitId then
        .ok (mbapFrame r.id.toNat 0 r.unitId.toNat p)
      else .error .rangeError := by
  have halloc : Buffer.alloc (7 + p.length) =
      .ok (0 :: 0 :: 0 :: 0 :: 0 :: 0 :: 0 :: List.replicate p.length 0) := by
    have := alloc_natCast (7 + p.length)
    rw [Int.natCast_add] at this
    rw [show (7 : Int) = ((7 : Nat) : Int) from rfl, this, Nat.add_comm]
    rfl
  have hzero : IsUInt16 0 := by decide
  simp only [createPayload, hp, hcount, halloc, bind, Except.bind, mbapHeader_eq, hzero,
    true_and]
  by_cases h : IsUInt16 r.id ∧ IsUInt16 (p.length + 1) ∧ IsUInt8 r.unitId
  · rw [if_pos h, if_pos h]
    have hcopy := copy_append p
      (be16 r.id.toNat ++ (be16 0 ++ (be16 (p.length + 1) ++ [UInt8.ofNat r.unitId.toNat])))
      (r := List.replicate p.length 0) (by rw [List.length_replicate])
    rw [List.length_replicate, List.take_length] at hcopy
    exact congrArg Except.ok hcopy
  · rw [if_neg h, if_neg h]

/-- A request whose fields are in range can be encoded when its body can. -/
theorem exists_createPayload {r : ModbusTCPRequest} {p : Buffer}
    (hp : r.body.createPayload = .ok p) (hid : IsUInt16 r.id) (hunit : IsUInt8 r.unitId)
    (hcount : 0 ≤ r.body.byteCount ∧ r.body.byteCount < 0xFFFF) :
    ∃ payload, r.createPayload = .ok payload := by
  obtain ⟨n, hn⟩ := Int.eq_ofNat_of_zero_le hcount.1
  have halloc : Buffer.alloc (7 + n) =
      .ok (0 :: 0 :: 0 :: 0 :: 0 :: 0 :: 0 :: List.replicate n 0) := by
    rw [Int.add_comm]
    exact alloc_natCast (n + 7)
  have hlength : IsUInt16 (n + 1) := by
    unfold IsUInt16
    omega
  have hzero : IsUInt16 0 := by decide
  simp only [createPayload, hp, hn, halloc, bind, Except.bind, mbapHeader_eq]
  rw [if_pos ⟨hid, hzero, hlength, hunit⟩]
  exact ⟨_, rfl⟩

/-- A frame whose body is decoded is decoded, whatever follows it. -/
theorem fromBuffer_mbapFrame_append {id protocol unitId : Nat} {p : Buffer} {body : RequestBody}
    (hi : id < 65536) (hq : protocol < 65536) (hu : unitId < 256) (hp : p.length + 1 < 65536)
    (hbody : RequestFactory.fromBuffer p = some body) (tail : Buffer) :
    fromBuffer (mbapFrame id protocol unitId p ++ tail) =
      some { id, protocol, length := (p.length + 1 : Nat), unitId, body } := by
  rw [fromBuffer_eq, splitMbap_append hi hq hu hp, Option.bind_some, hbody]
  rfl

end ModbusTCPRequest

/-! ## RTU -/

/-- A request over RTU: the address of a server, the body, and whether the CRC of what was read
is wrong. -/
structure ModbusRTURequest where
  address : Int
  body : RequestBody
  corrupted : Bool
  deriving DecidableEq

namespace ModbusRTURequest

variable (crc16modbus : Buffer → UInt16)

/-- The getter `byteCount`. -/
def byteCount (r : ModbusRTURequest) : Int := r.body.byteCount + 3

/-- The address, the body, and the CRC behind the body. A request whose CRC is wrong is
read as well. -/
def fromBuffer (buffer : Buffer) : Option ModbusRTURequest :=
  tryOrNull do
    if buffer.length < 1 + 2 then
      return none
    let address ← buffer.readUInt8 0
    match RequestFactory.fromBuffer (buffer.subarrayFrom 1) with
    | none => return none
    | some body =>
      -- the body says where the CRC is; throws when it has not arrived
      let payloadLength := 1 + body.byteCount
      let expectedCrc := crc16modbus (buffer.subarray 0 payloadLength)
      let actualCrc ← buffer.readUInt16LE payloadLength
      return some { address, body, corrupted := expectedCrc.toNat ≠ actualCrc }

/-- The bytes of address and body, and their CRC, the low byte first. -/
def createPayload (r : ModbusRTURequest) : Except Thrown Buffer := do
  let bodyPayload ← r.body.createPayload
  let crc := crc16modbus ([toByte r.address] ++ bodyPayload)
  let crBu ← Buffer.alloc 2
  let crBu ← crBu.writeUInt16LE crc.toNat 0
  return [toByte r.address] ++ bodyPayload ++ crBu

/-- What a request asks for, and of which unit: the address goes over the line as a byte. -/
def content (r : ModbusRTURequest) :
    UInt8 × RequestContent := (toByte r.address, r.body.content)

/-- The line that is logged for a request. -/
def toString (r : ModbusRTURequest) : Except Thrown String := do
  let address ← r.body.address
  pure s!"RTU Request: id: {r.address}, {r.body.name},address: {address},count: {r.body.count}"

/-- A request that has an address can be logged. -/
theorem toString_eq_ok {r : ModbusRTURequest} (h : r.body.fc ≠ .readDeviceIdentification) :
    ∃ line, r.toString = .ok line := by
  obtain ⟨address, haddress⟩ := RequestBody.address_eq_ok h
  exact ⟨_, by rw [toString, haddress]; rfl⟩

theorem fromBuffer_nil : fromBuffer crc16modbus [] = none := rfl

/-- The request around a body that was found behind the address. -/
def ofBody (a : UInt8) (rest : Buffer) (body : RequestBody) (actualCrc : Nat) :
    ModbusRTURequest :=
  { address := a.toNat, body,
    corrupted :=
      (crc16modbus (subarray (a :: rest) 0 (1 + body.byteCount))).toNat ≠ actualCrc }

theorem fromBuffer_cons (a : UInt8) (rest : Buffer) :
    fromBuffer crc16modbus (a :: rest) =
      if rest.length < 2 then none
      else (RequestFactory.fromBuffer rest).bind fun body =>
        (readUInt16LE (a :: rest) (1 + body.byteCount)).toOption.map
          (ofBody crc16modbus a rest body) := by
  have hfrom : subarrayFrom (a :: rest) 1 = rest := subarrayFrom_natCast (a :: rest) 1
  have hread : readUInt8 (a :: rest) 0 = .ok a.toNat := rfl
  by_cases h : rest.length < 2
  · have h' : (a :: rest).length < 1 + 2 := by simp; omega
    rw [if_pos h]
    simp only [fromBuffer, if_pos h']
    rfl
  · have h' : ¬ (a :: rest).length < 1 + 2 := by simp; omega
    rw [if_neg h]
    simp only [fromBuffer, if_neg h', bind, Except.bind, hread, hfrom]
    cases RequestFactory.fromBuffer rest with
    | none => rfl
    | some body =>
      simp only [Option.bind_some]
      cases readUInt16LE (a :: rest) (1 + body.byteCount) <;> rfl

/-- The parts of a frame that was decoded. -/
theorem exists_parts {buffer : Buffer} {r : ModbusRTURequest}
    (h : fromBuffer crc16modbus buffer = some r) :
    ∃ (a : UInt8) (rest : Buffer) (actualCrc : Nat), buffer = a :: rest ∧
      RequestFactory.fromBuffer rest = some r.body ∧
      readUInt16LE buffer (1 + r.body.byteCount) = .ok actualCrc ∧
      r = ofBody crc16modbus a rest r.body actualCrc := by
  rcases buffer with _ | ⟨a, rest⟩
  · cases h
  rw [fromBuffer_cons] at h
  split at h
  · cases h
  · obtain ⟨body, hbody, h⟩ := Option.bind_eq_some_iff.mp h
    obtain ⟨actualCrc, hcrc, rfl⟩ := Option.map_eq_some_iff.mp h
    exact ⟨a, rest, actualCrc, rfl, hbody, eq_ok_of_toOption hcrc, rfl⟩

/-- The body of what is decoded was decoded by the factory. -/
theorem exists_body {buffer : Buffer} {r : ModbusRTURequest}
    (h : fromBuffer crc16modbus buffer = some r) :
    ∃ rest, RequestFactory.fromBuffer rest = some r.body := by
  obtain ⟨a, rest, actualCrc, -, hbody, -, -⟩ := exists_parts crc16modbus h
  exact ⟨rest, hbody⟩

/-- The address of what is decoded is a byte. -/
theorem range_of_fromBuffer {buffer : Buffer} {r : ModbusRTURequest}
    (h : fromBuffer crc16modbus buffer = some r) : IsUInt8 r.address := by
  obtain ⟨a, rest, actualCrc, -, -, -, hr⟩ := exists_parts crc16modbus h
  rw [hr]
  exact isUInt8_toNat a

/-- The byte count of what is decoded is positive, and the buffer holds that many bytes. -/
theorem byteCount_of_fromBuffer {buffer : Buffer} {r : ModbusRTURequest}
    (h : fromBuffer crc16modbus buffer = some r) :
    3 < r.byteCount ∧ r.byteCount ≤ buffer.length := by
  obtain ⟨a, rest, actualCrc, rfl, hbody, hcrc, -⟩ := exists_parts crc16modbus h
  have hpos := RequestFactory.byteCount_pos hbody
  obtain ⟨n, hn⟩ := Int.eq_ofNat_of_zero_le (Int.le_of_lt hpos)
  -- the CRC behind the body was read, so it was there
  rw [hn, show (1 + (n : Int)) = ((1 + n : Nat) : Int) from by omega] at hcrc
  have hlen := le_length_of_readUInt16LE hcrc
  show 3 < r.body.byteCount + 3 ∧ r.body.byteCount + 3 ≤ _
  omega

/-- The bytes of a frame around the payload of a body. -/
def frame (address : Int) (p : Buffer) : Buffer :=
  toByte address :: (p ++ le16 (crc16modbus (toByte address :: p)).toNat)

theorem frame_injective {address address' : Int} {p p' : Buffer}
    (h : frame crc16modbus address p = frame crc16modbus address' p') :
    toByte address = toByte address' ∧ p = p' := by
  obtain ⟨ha, h⟩ := List.cons.inj h
  exact ⟨ha, (List.append_inj' h rfl).1⟩

theorem createPayload_eq {r : ModbusRTURequest} {p : Buffer}
    (hp : r.body.createPayload = .ok p) :
    r.createPayload crc16modbus = .ok (frame crc16modbus r.address p) := by
  have halloc : Buffer.alloc 2 = .ok [0, 0] := rfl
  have hcrc : IsUInt16 (crc16modbus (toByte r.address :: p)).toNat :=
    isUInt16_natCast (UInt16.toNat_lt _)
  simp [createPayload, hp, halloc, bind, Except.bind, pure, Except.pure, writeUInt16LE,
    setByte, hcrc, frame, le16]

@[simp] theorem length_frame (address : Int) (p : Buffer) :
    (frame crc16modbus address p).length = p.length + 3 := by
  simp [frame]

/-- A frame whose body is decoded is decoded with its CRC right, whatever follows it. -/
theorem fromBuffer_frame_append {address : Int} {p tail : Buffer} {body : RequestBody}
    (hbody : RequestFactory.fromBuffer
      (p ++ (le16 (crc16modbus (toByte address :: p)).toNat ++ tail)) = some body)
    (hcount : body.byteCount = p.length) :
    fromBuffer crc16modbus (frame crc16modbus address p ++ tail) =
      some { address := (toByte address).toNat, body, corrupted := false } := by
  have hstream : frame crc16modbus address p ++ tail =
      toByte address :: (p ++ (le16 (crc16modbus (toByte address :: p)).toNat ++ tail)) := by
    simp [frame]
  have hlen : ¬ (p ++ (le16 (crc16modbus (toByte address :: p)).toNat ++ tail)).length < 2 := by
    simp
    omega
  have hstart : (1 + body.byteCount : Int) = ((toByte address :: p).length : Nat) := by
    rw [hcount, List.length_cons]
    omega
  -- the bytes the CRC is computed over, and the CRC, are the ones that were sent
  have hsub : subarray
      (toByte address :: (p ++ (le16 (crc16modbus (toByte address :: p)).toNat ++ tail)))
      0 (1 + body.byteCount) = toByte address :: p := by
    rw [hstart]
    refine (subarray_natCast _ 0 (toByte address :: p).length).trans ?_
    rw [List.drop_zero, ← List.cons_append, List.take_left]
  have hread : readUInt16LE
      (toByte address :: (p ++ (le16 (crc16modbus (toByte address :: p)).toNat ++ tail)))
      (1 + body.byteCount) = .ok (crc16modbus (toByte address :: p)).toNat := by
    rw [hstart]
    exact readUInt16LE_le16 (toByte address :: p) tail (UInt16.toNat_lt _)
  rw [hstream, fromBuffer_cons, if_neg hlen, hbody, Option.bind_some, hread]
  simp [Except.toOption, ofBody, hsub]

/-- While the CRC is not there the decoder refuses. -/
theorem fromBuffer_eq_none {a : UInt8} {rest : Buffer} {body : RequestBody} {n : Nat}
    (hbody : RequestFactory.fromBuffer rest = some body) (hcount : body.byteCount = n)
    (hlen : rest.length < n + 2) : fromBuffer crc16modbus (a :: rest) = none := by
  have hread : readUInt16LE (a :: rest) (1 + body.byteCount) = .error .rangeError := by
    rw [hcount, show (1 + (n : Int)) = ((1 + n : Nat) : Int) from by omega]
    exact readUInt16LE_eq_error (by simp; omega)
  rw [fromBuffer_cons, hbody, Option.bind_some, hread]
  split <;> rfl

end ModbusRTURequest

/-! ## The two transports -/

/-- The two transports. The CRC is computed by a package. -/
inductive Transport where
  | tcp
  | rtu (crc16modbus : Buffer → UInt16)

/-- The request class. -/
def Transport.Request : Transport → Type
  | tcp => ModbusTCPRequest
  | rtu _ => ModbusRTURequest

end NodeModbus

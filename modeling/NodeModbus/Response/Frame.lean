import NodeModbus.Request.Frame
import NodeModbus.Response.RoundTrip

/-!
# Response frames

The two transports of a response: `ModbusTCPResponse` with its MBAP header and
`ModbusRTUResponse` with unit address and CRC.

- `ModbusTCPResponse.fromBuffer_eq`, `ModbusRTUResponse.fromBuffer_cons`: the
  decoders through the body factory.
- `createPayload_eq`: the bytes of a frame.
-/

namespace NodeModbus

open Buffer Words

/-! ## TCP -/

/-- A response over TCP: the fields of its header, and the body. -/
structure ModbusTCPResponse where
  id : Int
  protocol : Int
  bodyLength : Int
  unitId : Int
  body : ResponseBody
  deriving DecidableEq

namespace ModbusTCPResponse

/-- The getter `byteCount`. -/
def byteCount (r : ModbusTCPResponse) : Int := r.bodyLength + 6

/-- The response with a body, to a request. -/
def fromRequest (tcpRequest : ModbusTCPRequest) (modbusBody : ResponseBody) :
    ModbusTCPResponse :=
  { id := tcpRequest.id, protocol := tcpRequest.protocol,
    bodyLength := modbusBody.byteCount + 1, unitId := tcpRequest.unitId, body := modbusBody }

/-- The header is read, and the body behind it. `length` is taken as it was read. -/
def fromBuffer (buffer : Buffer) : Option ModbusTCPResponse :=
  tryOrNull do
    let m ← readMbap buffer
    match ResponseFactory.fromBuffer m.bytes with
    | none => return none
    | some body =>
      return some
        { id := m.id, protocol := m.protocol, bodyLength := m.length, unitId := m.unitId, body }

/-- The fields of the header as they are, and the bytes of the body behind them. -/
def createPayload (r : ModbusTCPResponse) : Except Thrown Buffer := do
  let payload ← Buffer.alloc r.byteCount
  let payload ← mbapHeader r.id r.protocol r.bodyLength r.unitId payload
  let body ← r.body.createPayload
  return Buffer.copy body payload 7

/-- What a response says, with its header fields. -/
def content (r : ModbusTCPResponse) : Int × Int × Int × Int × ResponseContent :=
  (r.id, r.protocol, r.bodyLength, r.unitId, r.body.content)

/-- The response around a body, with the header that was read. -/
def ofMbap (m : Mbap) (body : ResponseBody) : ModbusTCPResponse :=
  { id := m.id, protocol := m.protocol, bodyLength := m.length, unitId := m.unitId, body }

theorem fromBuffer_eq (buffer : Buffer) :
    fromBuffer buffer = (splitMbap buffer).bind fun m =>
      (ResponseFactory.fromBuffer m.bytes).map (ofMbap m) := by
  rw [← readMbap_eq]
  simp only [fromBuffer, bind, Except.bind]
  cases readMbap buffer with
  | error e => rfl
  | ok m =>
    simp only [Except.toOption, Option.bind_some]
    cases ResponseFactory.fromBuffer m.bytes <;> rfl

theorem fromBuffer_eq_none {buffer : Buffer} (h : buffer.length < 7) :
    fromBuffer buffer = none := by
  rw [fromBuffer_eq, splitMbap_eq_none h]
  rfl

/-- With seven bytes there, a response is decoded if and only if the factory decodes the
bytes of the body. -/
theorem fromBuffer_isSome_iff {b : Buffer} (h : 7 ≤ b.length) :
    (fromBuffer b).isSome ↔ ResponseFactory.Decodable (mbapBody b) := by
  obtain ⟨m, hm, -, hbytes⟩ := splitMbap_eq_some h
  rw [fromBuffer_eq, hm, Option.bind_some, Option.isSome_map, hbytes,
    ResponseFactory.fromBuffer_isSome_iff]

/-- The byte count of a response is what the length field announces. -/
theorem byteCount_eq {b : Buffer} {r : ModbusTCPResponse} (h : fromBuffer b = some r) :
    r.byteCount = (6 + mbapLength b : Nat) := by
  rw [fromBuffer_eq] at h
  obtain ⟨m, hm, h⟩ := Option.bind_eq_some_iff.mp h
  obtain ⟨body, -, rfl⟩ := Option.map_eq_some_iff.mp h
  have hlength := length_of_splitMbap hm
  show (m.length : Int) + 6 = _
  omega

/-- The bytes of a response whose body length is that of its body. -/
theorem createPayload_eq {r : ModbusTCPResponse} {p : Buffer}
    (hp : r.body.createPayload = .ok p) (hlength : r.bodyLength = p.length + 1) :
    r.createPayload =
      if IsUInt16 r.id ∧ IsUInt16 r.protocol ∧ IsUInt16 (p.length + 1) ∧ IsUInt8 r.unitId then
        .ok (mbapFrame r.id.toNat r.protocol.toNat r.unitId.toNat p)
      else .error .rangeError := by
  have halloc : Buffer.alloc r.byteCount =
      .ok (0 :: 0 :: 0 :: 0 :: 0 :: 0 :: 0 :: List.replicate p.length 0) := by
    have h := alloc_natCast (p.length + 7)
    rw [byteCount, hlength, show (p.length : Int) + 1 + 6 =
      ((p.length + 7 : Nat) : Int) from by omega, h]
    rfl
  simp only [createPayload, hp, halloc, bind, Except.bind, mbapHeader_eq, hlength]
  by_cases h : IsUInt16 r.id ∧ IsUInt16 r.protocol ∧ IsUInt16 (p.length + 1) ∧ IsUInt8 r.unitId
  · rw [if_pos h, if_pos h]
    have hcopy := copy_append p (be16 r.id.toNat ++ (be16 r.protocol.toNat ++
      (be16 (p.length + 1) ++ [UInt8.ofNat r.unitId.toNat]))) (r := List.replicate p.length 0)
      (by rw [List.length_replicate])
    rw [List.length_replicate, List.take_length] at hcopy
    exact congrArg Except.ok hcopy
  · rw [if_neg h, if_neg h]

/-- A frame whose body is decoded is decoded with its header, whatever follows it. -/
theorem fromBuffer_encoded {r : ModbusTCPResponse} {p frame : Buffer} {body : ResponseBody}
    (hp : r.body.createPayload = .ok p) (hlength : r.bodyLength = p.length + 1)
    (hframe : r.createPayload = .ok frame) (hbody : ResponseFactory.fromBuffer p = some body)
    (rest : Buffer) :
    fromBuffer (frame ++ rest) = some { r with body } ∧ frame.length = p.length + 7 := by
  rw [createPayload_eq hp hlength] at hframe
  split at hframe
  · rename_i hrange
    obtain ⟨hid, hprotocol, hlen, hunit⟩ := hrange
    obtain rfl := Except.ok.inj hframe
    unfold IsUInt16 at hid hprotocol hlen
    unfold IsUInt8 at hunit
    have hsplit := @splitMbap_append r.id.toNat r.protocol.toNat r.unitId.toNat p (by omega)
      (by omega) (by omega) (by omega) rest
    refine ⟨?_, by rw [length_mbapFrame]⟩
    rw [fromBuffer_eq, hsplit, Option.bind_some, hbody, Option.map_some, ofMbap]
    simp only [Int.toNat_of_nonneg hid.1, Int.toNat_of_nonneg hprotocol.1,
      Int.toNat_of_nonneg hunit.1, hlength]
    rfl
  · cases hframe

end ModbusTCPResponse

/-! ## RTU -/

/-- The CRC of a response that is made of a request is not known until its payload is made. -/
structure ModbusRTUResponse where
  address : Int
  crc : Option Int
  body : ResponseBody
  deriving DecidableEq

namespace ModbusRTUResponse

variable (crc16modbus : Buffer → UInt16)

/-- The getter `byteCount`. -/
def byteCount (r : ModbusRTUResponse) : Int := r.body.byteCount + 3

/-- The response with a body, to a request. -/
def fromRequest (rtuRequest : ModbusRTURequest) (modbusBody : ResponseBody) :
    ModbusRTUResponse :=
  { address := rtuRequest.address, crc := none, body := modbusBody }

/-- Of the calls that can throw only the read of the CRC is in a `try` block; the address is
there when it is read. -/
def fromBuffer (buffer : Buffer) : Option ModbusRTUResponse :=
  tryOrNull do
    if buffer.length < 1 then
      return none
    let address ← buffer.readUInt8 0
    match ResponseFactory.fromBuffer (buffer.subarrayFrom 1) with
    | none => return none
    | some body =>
      -- the body says where the CRC is
      let crc ← buffer.readUInt16LE (1 + body.byteCount)
      return some { address, crc := some (crc : Int), body }

/-- The bytes of address and body, and their CRC, the low byte first. -/
def createPayload (r : ModbusRTUResponse) : Except Thrown Buffer := do
  let payload ← Buffer.alloc r.byteCount
  let payload ← payload.writeUInt8 r.address 0
  let bodyPayload ← r.body.createPayload
  let payload := Buffer.copy bodyPayload payload 1
  let crc := crc16modbus (payload.subarray 0 (r.byteCount - 2))
  payload.writeUInt16LE crc.toNat (r.byteCount - 2)

theorem fromBuffer_nil : fromBuffer [] = none := rfl

theorem fromBuffer_cons (a : UInt8) (rest : Buffer) :
    fromBuffer (a :: rest) = (ResponseFactory.fromBuffer rest).bind fun body =>
      (readUInt16LE (a :: rest) (1 + body.byteCount)).toOption.map fun crc =>
        { address := a.toNat, crc := some (crc : Int), body } := by
  have hfrom : subarrayFrom (a :: rest) 1 = rest := subarrayFrom_natCast (a :: rest) 1
  have hread : readUInt8 (a :: rest) 0 = .ok a.toNat := rfl
  have hlen : ¬ (a :: rest).length < 1 := by simp
  simp only [fromBuffer, if_neg hlen, bind, Except.bind, hread, hfrom]
  cases ResponseFactory.fromBuffer rest with
  | none => rfl
  | some body =>
    simp only [Option.bind_some]
    cases readUInt16LE (a :: rest) (1 + body.byteCount) <;> rfl

/-- The parts of a frame that was decoded. -/
theorem exists_parts {buffer : Buffer} {r : ModbusRTUResponse}
    (h : fromBuffer buffer = some r) :
    ∃ (a : UInt8) (rest : Buffer) (crc : Nat), buffer = a :: rest ∧
      ResponseFactory.fromBuffer rest = some r.body ∧
      readUInt16LE buffer (1 + r.body.byteCount) = .ok crc ∧
      r = { address := a.toNat, crc := some (crc : Int), body := r.body } := by
  rcases buffer with _ | ⟨a, rest⟩
  · cases h
  · rw [fromBuffer_cons] at h
    obtain ⟨body, hbody, h⟩ := Option.bind_eq_some_iff.mp h
    obtain ⟨crc, hcrc, rfl⟩ := Option.map_eq_some_iff.mp h
    exact ⟨a, rest, crc, rfl, hbody, eq_ok_of_toOption hcrc, rfl⟩

theorem body_of_fromBuffer_cons {a : UInt8} {rest : Buffer} {r : ModbusRTUResponse}
    (h : fromBuffer (a :: rest) = some r) : ResponseFactory.fromBuffer rest = some r.body := by
  obtain ⟨a', rest', crc, hbuffer, hbody, -⟩ := exists_parts h
  rw [(List.cons.inj hbuffer).2]
  exact hbody

/-- The byte count of what is decoded is positive, and the buffer holds that many bytes. -/
theorem byteCount_of_fromBuffer {buffer : Buffer} {r : ModbusRTUResponse}
    (h : fromBuffer buffer = some r) : 3 < r.byteCount ∧ r.byteCount ≤ buffer.length := by
  obtain ⟨a, rest, crc, rfl, hbody, hcrc, -⟩ := exists_parts h
  have hpos := ResponseFactory.byteCount_pos hbody
  obtain ⟨n, hn⟩ := Int.eq_ofNat_of_zero_le (Int.le_of_lt hpos)
  -- the CRC behind the body was read, so it was there
  rw [hn, show (1 + (n : Int)) = ((1 + n : Nat) : Int) from by omega] at hcrc
  have hlen := le_length_of_readUInt16LE hcrc
  show 3 < r.body.byteCount + 3 ∧ r.body.byteCount + 3 ≤ _
  omega

/-- A frame whose body is decoded is decoded with its CRC, whatever follows it. -/
theorem fromBuffer_frame_append {address : Int} {p tail : Buffer} {body : ResponseBody}
    (hbody : ResponseFactory.fromBuffer
      (p ++ (le16 (crc16modbus (toByte address :: p)).toNat ++ tail)) = some body)
    (hcount : body.byteCount = p.length) :
    fromBuffer (ModbusRTURequest.frame crc16modbus address p ++ tail) =
      some { address := (toByte address).toNat,
             crc := some ((crc16modbus (toByte address :: p)).toNat : Int), body } := by
  have hstream : ModbusRTURequest.frame crc16modbus address p ++ tail =
      toByte address :: (p ++ (le16 (crc16modbus (toByte address :: p)).toNat ++ tail)) := by
    simp [ModbusRTURequest.frame]
  have hstart : (1 + body.byteCount : Int) = ((toByte address :: p).length : Nat) := by
    rw [hcount, List.length_cons]
    omega
  have hread : readUInt16LE
      (toByte address :: (p ++ (le16 (crc16modbus (toByte address :: p)).toNat ++ tail)))
      (1 + body.byteCount) = .ok (crc16modbus (toByte address :: p)).toNat := by
    rw [hstart]
    exact readUInt16LE_le16 (toByte address :: p) tail (UInt16.toNat_lt _)
  rw [hstream, fromBuffer_cons, hbody, Option.bind_some, hread]
  rfl

/-- While the CRC is not there the decoder refuses. -/
theorem fromBuffer_eq_none {a : UInt8} {rest : Buffer} {body : ResponseBody} {n : Nat}
    (hbody : ResponseFactory.fromBuffer rest = some body) (hcount : body.byteCount = n)
    (hlen : rest.length < n + 2) : fromBuffer (a :: rest) = none := by
  have hread : readUInt16LE (a :: rest) (1 + body.byteCount) = .error .rangeError := by
    rw [hcount, show (1 + (n : Int)) = ((1 + n : Nat) : Int) from by omega]
    exact readUInt16LE_eq_error (by simp; omega)
  rw [fromBuffer_cons, hbody, Option.bind_some, hread]
  rfl

/-- The bytes of a response whose body announces its own length. -/
theorem createPayload_eq {r : ModbusRTUResponse} {p : Buffer}
    (hp : r.body.createPayload = .ok p) (hcount : r.body.byteCount = p.length)
    (ha : IsUInt8 r.address) :
    r.createPayload crc16modbus = .ok (ModbusRTURequest.frame crc16modbus r.address p) := by
  have halloc : Buffer.alloc r.byteCount =
      .ok (0 :: (List.replicate p.length 0 ++ [0, 0])) := by
    rw [byteCount, hcount,
      show (p.length : Int) + 3 = ((p.length + 3 : Nat) : Int) from by omega, alloc_natCast,
      show p.length + 3 = p.length + 2 + 1 from rfl, List.replicate_succ,
      List.replicate_add]
    rfl
  have hbyte : UInt8.ofNat r.address.toNat = toByte r.address := by
    unfold IsUInt8 at ha
    rw [toByte, Int.emod_eq_of_lt ha.1 (by omega)]
  have hcopy : Buffer.copy p (toByte r.address :: (List.replicate p.length 0 ++ [0, 0])) 1 =
      toByte r.address :: (p ++ [0, 0]) :=
    copy_room [toByte r.address] [0, 0] List.length_replicate
  have hstart : r.byteCount - 2 = ((toByte r.address :: p).length : Nat) := by
    rw [byteCount, hcount, List.length_cons]
    omega
  have hsub : subarray (toByte r.address :: (p ++ [0, 0])) 0 (r.byteCount - 2) =
      toByte r.address :: p := by
    rw [hstart]
    refine (subarray_natCast _ 0 _).trans ?_
    rw [List.drop_zero, ← List.cons_append, List.take_left]
  have hcrc : IsUInt16 (crc16modbus (toByte r.address :: p)).toNat :=
    isUInt16_natCast (UInt16.toNat_lt _)
  have hwrite := writeUInt16LE_append (toByte r.address :: p) 0 0 [] hcrc
  have hset : writeUInt8 (0 :: (List.replicate p.length 0 ++ [0, 0])) r.address 0 =
      .ok (toByte r.address :: (List.replicate p.length 0 ++ [0, 0])) := by
    rw [writeUInt8, if_pos ha, hbyte]
    exact setByte_append [] 0 (toByte r.address) _
  simp only [createPayload, halloc, bind, Except.bind, hset, hp, hcopy, hsub]
  rw [hstart]
  simpa [ModbusRTURequest.frame] using hwrite

/-- The address and the bytes of a response that was encoded. -/
theorem createPayload_eq_ok {r : ModbusRTUResponse} {p payload : Buffer}
    (hp : r.body.createPayload = .ok p) (hcount : r.body.byteCount = p.length)
    (h : r.createPayload crc16modbus = .ok payload) :
    IsUInt8 r.address ∧ payload = ModbusRTURequest.frame crc16modbus r.address p := by
  -- the address was written into a byte
  have haddress : IsUInt8 r.address := by
    obtain ⟨_, _, hwrites⟩ := bind_eq_ok.mp h
    obtain ⟨_, hwrite, _⟩ := bind_eq_ok.mp hwrites
    exact isUInt8_of_writeUInt8 hwrite
  rw [createPayload_eq crc16modbus hp hcount haddress] at h
  exact ⟨haddress, (Except.ok.inj h).symm⟩

end ModbusRTUResponse

/-- The response class of a transport. -/
def Transport.Response : Transport → Type
  | tcp => ModbusTCPResponse
  | rtu _ => ModbusRTUResponse

end NodeModbus

import NodeModbus.Server.RequestHandler

/-!
# Reassembly of request streams

What the server's request handler makes of a stream of request frames that
arrives in chunks.

- `tcp_reassembles_iff`: over TCP the requests come out as they were sent, and
  none before its last byte, if and only if no chunk ends behind a whole register
  inside a write of several registers.
- `rtu_reassembles_iff`: over RTU they do if and only if no chunk ends one byte
  behind the start of a frame.
-/

namespace NodeModbus

open Buffer Words Framing ModbusServerRequestHandler

/-! ## TCP -/

/-- A request that is sent over TCP, with its bytes. -/
structure TcpFrame where
  request : ModbusTCPRequest
  payload : Buffer
  sendable : request.body.Sendable
  encoded : request.createPayload = .ok payload

namespace TcpFrame

/-- The lengths at which a frame cut short is taken for a shorter one: behind a whole
register of a write of several registers, none included. -/
def EarlyCut (f : TcpFrame) (k : Nat) : Prop :=
  f.request.body.fc = .writeMultipleHoldingRegisters ∧ 13 ≤ k ∧ k % 2 = 1

/-- How the frames are sent, for the framing library. -/
def format : Format UInt8 (Int × Int × RequestContent) TcpFrame where
  bytes := payload
  value f := f.request.content
  bad := EarlyCut

/-- The header fields and the payload of the body a frame is made of. -/
structure Parts (f : TcpFrame) (id unitId : Nat) (p : Buffer) : Prop where
  id_eq : f.request.id = id
  unitId_eq : f.request.unitId = unitId
  id_lt : id < 65536
  unitId_lt : unitId < 256
  length_lt : p.length + 1 < 65536
  framed : f.request.body.Framed p
  payload_eq : f.payload = mbapFrame id 0 unitId p

theorem exists_parts (f : TcpFrame) : ∃ id unitId p, f.Parts id unitId p := by
  have hencoded := f.encoded
  obtain ⟨p, hp, -⟩ := bind_eq_ok.mp hencoded
  have hframed := RequestBody.framed_of_sendable f.sendable hp
  rw [ModbusTCPRequest.createPayload_eq hp hframed.byteCount] at hencoded
  split at hencoded
  · rename_i hrange
    obtain ⟨hid, hlen, hunit⟩ := hrange
    unfold IsUInt16 at hid hlen
    unfold IsUInt8 at hunit
    exact ⟨f.request.id.toNat, f.request.unitId.toNat, p,
      { id_eq := (Int.toNat_of_nonneg hid.1).symm
        unitId_eq := (Int.toNat_of_nonneg hunit.1).symm
        id_lt := by omega
        unitId_lt := by omega
        length_lt := by omega
        framed := hframed
        payload_eq := (Except.ok.inj hencoded).symm }⟩
  · cases hencoded

theorem earlyCut_add_seven (f : TcpFrame) (k : Nat) :
    f.EarlyCut (k + 7) ↔ f.request.body.EarlyCut k := by
  unfold EarlyCut RequestBody.EarlyCut
  have hsendable := f.sendable
  cases hb : f.request.body with
  | writeMultipleRegisters b =>
    simp only [RequestBody.fc, true_and]
    omega
  | exception b =>
    rw [hb] at hsendable
    exact absurd hsendable id
  | _ => simp [RequestBody.fc]

/-- A frame is decoded, whatever follows it. -/
theorem fromBuffer_append (f : TcpFrame) (tail : Buffer) :
    ∃ body, body.content = f.request.body.content ∧
      ModbusTCPRequest.fromBuffer (f.payload ++ tail) =
        some { id := f.request.id, protocol := 0, length := f.payload.length - 6,
               unitId := f.request.unitId, body } := by
  obtain ⟨id, unitId, p, hf⟩ := f.exists_parts
  obtain ⟨body, hbody, hcontent, -⟩ := hf.framed.complete []
  have hlen : (f.payload.length : Int) - 6 = (p.length + 1 : Nat) := by
    rw [hf.payload_eq, length_mbapFrame]
    omega
  rw [List.append_nil] at hbody
  refine ⟨body, hcontent, ?_⟩
  rw [hlen, hf.payload_eq, hf.id_eq, hf.unitId_eq]
  exact ModbusTCPRequest.fromBuffer_mbapFrame_append hf.id_lt
    (by decide) hf.unitId_lt hf.length_lt hbody tail

/-- The TCP decoder recognises a frame. -/
theorem recognised (f : TcpFrame) :
    Recognised format (fun b => ModbusTCPRequest.fromBuffer b = none)
      (fun b r n => ModbusTCPRequest.fromBuffer b = some r ∧ r.byteCount = (n : Nat))
      ModbusTCPRequest.content f := by
  obtain ⟨id, unitId, p, hf⟩ := f.exists_parts
  refine ⟨?_, ?_, fun h => absurd h.2.1 (by decide)⟩
  · intro tail
    obtain ⟨body, hcontent, hsome⟩ := f.fromBuffer_append tail
    refine ⟨_, ⟨hsome, ?_⟩, ?_⟩
    · show (f.payload.length : Int) - 6 + 6 = (f.payload.length : Nat)
      omega
    · show (f.request.id, f.request.unitId, body.content) = f.request.content
      rw [ModbusTCPRequest.content, hcontent]
  · intro k hk hearly
    have hk' : k < f.payload.length := hk
    show ModbusTCPRequest.fromBuffer (f.payload.take k) = none
    rw [hf.payload_eq] at hk' ⊢
    rw [length_mbapFrame] at hk'
    -- the cut is in the header, or in the body, which refuses it
    rcases Nat.lt_or_ge k 7 with hk7 | hk7
    · have hshort : ((mbapFrame id 0 unitId p).take k).length < 7 := by
        rw [List.length_take]
        omega
      rw [ModbusTCPRequest.fromBuffer_eq, splitMbap_eq_none hshort]
      rfl
    · obtain ⟨j, rfl⟩ : ∃ j, k = j + 7 := ⟨k - 7, by omega⟩
      have hrefused := hf.framed.refused j (by omega) fun h =>
        hearly ((f.earlyCut_add_seven j).mpr h)
      rw [ModbusTCPRequest.fromBuffer_eq,
        splitMbap_take hf.id_lt (by decide) hf.unitId_lt hf.length_lt (by omega),
        Option.bind_some, hrefused]
      rfl

/-- At an early cut the decoder makes a request of other content. -/
theorem accepted_early (f : TcpFrame) {k : Nat} (hk : k < f.payload.length) (h : f.EarlyCut k) :
    ∃ r, ModbusTCPRequest.fromBuffer (f.payload.take k) = some r ∧
      (∃ n : Nat, r.byteCount = n) ∧ r.content ≠ f.request.content := by
  obtain ⟨id, unitId, p, hf⟩ := f.exists_parts
  rw [hf.payload_eq] at hk ⊢
  rw [length_mbapFrame] at hk
  obtain ⟨j, rfl⟩ : ∃ j, k = j + 7 := ⟨k - 7, by have := h.2.1; omega⟩
  obtain ⟨body, hbody, hcontent, -⟩ :=
    hf.framed.early j (by omega) ((f.earlyCut_add_seven j).mp h)
  refine ⟨{ id, protocol := 0, length := (p.length + 1 : Nat), unitId, body }, ?_,
    ⟨p.length + 7, ?_⟩, fun heq => ?_⟩
  · rw [ModbusTCPRequest.fromBuffer_eq,
      splitMbap_take hf.id_lt (by decide) hf.unitId_lt hf.length_lt (by omega),
      Option.bind_some, hbody]
    rfl
  · show ((p.length + 1 : Nat) : Int) + 6 = _
    omega
  · exact hcontent (congrArg (fun c => c.2.2) heq)

end TcpFrame

/-- The TCP handler as a drain. -/
theorem tcp_drain : Drain (fun b => ModbusTCPRequest.fromBuffer b = none)
    (fun b r n => ModbusTCPRequest.fromBuffer b = some r ∧ r.byteCount = (n : Nat))
    (drain tcpReader) where
  wait h := drain_wait h (.inl rfl)
  accept h := by
    obtain ⟨hsome, hcount⟩ := h
    have haccept := drain_accept (R := tcpReader) hsome rfl rfl
    rw [show tcpReader.byteCount _ = _ from hcount, subarrayFrom_natCast] at haccept
    exact haccept

/-- What is promised of a stream of frames: the requests are accepted in their order and as they
were sent, no byte is left over, and none is accepted before its last byte has arrived. -/
structure TcpReassembles (frames : List TcpFrame) (chunks : List Buffer) : Prop where
  accepted : (run tcpReader new chunks)._requests.reverse.map ModbusTCPRequest.content =
    frames.map fun f => f.request.content
  empty : (run tcpReader new chunks)._buffer = []
  notEarly : ∀ before after, chunks = before ++ after →
    ∀ pre f post, frames = pre ++ f :: post →
    before.flatten.length < ((pre ++ [f]).flatMap TcpFrame.payload).length →
    (run tcpReader new before)._requests.length ≤ pre.length

/-- Some chunk ends behind a whole register, none included, of a write of several registers that
has not arrived whole. -/
def CutsRegisterWrite (frames : List TcpFrame) (chunks : List Buffer) : Prop :=
  ∃ before after pre f post k, chunks = before ++ after ∧ frames = pre ++ f :: post ∧
    before.flatten.length = (pre.flatMap TcpFrame.payload).length + k ∧ k < f.payload.length ∧
    f.request.body.fc = .writeMultipleHoldingRegisters ∧ 13 ≤ k ∧ k % 2 = 1

theorem cutsRegisterWrite_iff (frames : List TcpFrame) (chunks : List Buffer) :
    CutsRegisterWrite frames chunks ↔
      ∃ f k, CutAt TcpFrame.format [] chunks frames f k ∧ f.EarlyCut k := by
  constructor
  · rintro ⟨before, after, pre, f, post, k, hchunks, hframes, hlen, hk, hcut⟩
    exact ⟨f, k, ⟨before, after, pre, post, hchunks, hframes, hk, hlen⟩, hcut⟩
  · rintro ⟨f, k, ⟨before, after, pre, post, hchunks, hframes, hk, hlen⟩, hcut⟩
    exact ⟨before, after, pre, f, post, k, hchunks, hframes, hlen, hk, hcut⟩

theorem tcpReassembles_iff (frames : List TcpFrame) (chunks : List Buffer) :
    TcpReassembles frames chunks ↔
      Reassembled TcpFrame.format (drain tcpReader) ModbusTCPRequest.content frames chunks := by
  constructor
  · rintro ⟨haccepted, hempty, hearly⟩
    simp only [run_new, List.reverse_reverse, List.length_reverse] at haccepted hempty hearly
    exact ⟨haccepted, hempty, hearly⟩
  · rintro ⟨hvalues, hempty, hearly⟩
    refine ⟨?_, ?_, ?_⟩ <;> simp only [run_new, List.reverse_reverse, List.length_reverse]
    · exact hvalues
    · exact hempty
    · exact hearly

/-- A stream of TCP frames is reassembled, however it is cut, if and only if no chunk ends
behind a whole register inside a write of several registers. -/
theorem tcp_reassembles_iff (frames : List TcpFrame) (chunks : List Buffer)
    (hstream : chunks.flatten = frames.flatMap TcpFrame.payload) :
    TcpReassembles frames chunks ↔ ¬ CutsRegisterWrite frames chunks := by
  rw [tcpReassembles_iff, cutsRegisterWrite_iff]
  refine reassembled_iff tcp_drain rfl (fun f _ => f.recognised) hstream ?_
  intro f _ k hk hcut
  obtain ⟨r, hr, ⟨n, hn⟩, hne⟩ := f.accepted_early hk hcut
  exact ⟨r, n, ⟨hr, hn⟩, hne⟩

/-- A write of the registers 0 and 1, with transaction id 1, to unit 1. -/
def writeTwoRegisters : TcpFrame where
  request :=
    { id := 1, protocol := 0, length := 11, unitId := 1,
      body := .writeMultipleRegisters
        { address := 0, values := .array [1, 2], byteCount := 10, numberOfBytes := 4,
          quantity := 2, valuesAsBuffer := [0, 1, 0, 2], valuesAsArray := [1, 2] } }
  payload := [0, 1, 0, 0, 0, 11, 1, 16, 0, 0, 0, 2, 4, 0, 1, 0, 2]
  sendable := ⟨⟨0, .array [1, 2], rfl⟩, by decide, by decide⟩
  encoded := rfl

/-- Two frames in three pieces, cut in front of the quantity and inside of the second header. -/
theorem tcp_reassembles_iff_writeTwoRegisters :
    TcpReassembles [writeTwoRegisters, writeTwoRegisters]
        [writeTwoRegisters.payload.take 10,
          writeTwoRegisters.payload.drop 10 ++ writeTwoRegisters.payload.take 4,
          writeTwoRegisters.payload.drop 4] ↔
      ¬ CutsRegisterWrite [writeTwoRegisters, writeTwoRegisters]
        [writeTwoRegisters.payload.take 10,
          writeTwoRegisters.payload.drop 10 ++ writeTwoRegisters.payload.take 4,
          writeTwoRegisters.payload.drop 4] :=
  tcp_reassembles_iff _ _ (by decide)

/-- The frame cut behind its first register: a write of one register is accepted, and the
rest of the frame is discarded with it. -/
theorem not_tcpReassembles_writeTwoRegisters :
    [writeTwoRegisters.payload.take 15, writeTwoRegisters.payload.drop 15].flatten =
        [writeTwoRegisters].flatMap TcpFrame.payload ∧
      ¬ TcpReassembles [writeTwoRegisters]
        [writeTwoRegisters.payload.take 15, writeTwoRegisters.payload.drop 15] :=
  ⟨by decide, fun h => absurd h.accepted (by decide)⟩

/-! ## RTU -/

section Rtu

variable (crc16modbus : Buffer → UInt16)

/-- A request that is sent over a serial line, with its bytes. -/
structure RtuFrame where
  request : ModbusRTURequest
  payload : Buffer
  sendable : request.body.Sendable
  fc_ne : request.body.fc ≠ .readDeviceIdentification
  encoded : request.createPayload crc16modbus = .ok payload

namespace RtuFrame

variable {crc16modbus}

/-- How the frames are sent, for the framing library. A frame must not be cut behind its first
byte. -/
def format : Format UInt8 (UInt8 × RequestContent) (RtuFrame crc16modbus) where
  bytes := payload
  value f := f.request.content
  bad _ k := k = 1

/-- The payload of the body a frame is made of. -/
structure Parts (f : RtuFrame crc16modbus) (p : Buffer) : Prop where
  framed : f.request.body.Framed p
  length_le : p.length ≤ 252
  payload_eq : f.payload = ModbusRTURequest.frame crc16modbus f.request.address p

theorem exists_parts (f : RtuFrame crc16modbus) : ∃ p, f.Parts p := by
  have hencoded := f.encoded
  obtain ⟨p, hp, -⟩ := bind_eq_ok.mp hencoded
  have hframed := RequestBody.framed_of_sendable f.sendable hp
  rw [ModbusRTURequest.createPayload_eq crc16modbus hp] at hencoded
  exact ⟨p, hframed, hframed.length_le f.sendable, (Except.ok.inj hencoded).symm⟩

end RtuFrame

/-- What the RTU handler accepts: a request whose CRC is right and that can be logged. -/
def RtuAccepts (b : Buffer) (r : ModbusRTURequest) (n : Nat) : Prop :=
  ModbusRTURequest.fromBuffer crc16modbus b = some r ∧ r.corrupted = false ∧
    (∃ line, r.toString = .ok line) ∧ r.byteCount = n

/-- The RTU handler waits at the front of a frame. -/
def RtuWaits (b : Buffer) : Prop :=
  ModbusRTURequest.fromBuffer crc16modbus b = none ∧ (plausibleFrameStart b ∨ b.length = 0)

variable {crc16modbus}

/-- The RTU handler as a drain. -/
theorem rtu_drain : Drain (RtuWaits crc16modbus) (RtuAccepts crc16modbus)
    (drain (rtuReader crc16modbus)) where
  wait h := drain_wait h.1 (.inr h.2)
  accept h := by
    obtain ⟨hsome, hcorrupted, ⟨line, hline⟩, hcount⟩ := h
    have haccept := drain_accept (R := rtuReader crc16modbus) hsome hline hcorrupted
    rw [show (rtuReader crc16modbus).byteCount _ = _ from hcount, subarrayFrom_natCast]
      at haccept
    exact haccept

/-- Cut behind its first byte or later, a frame is refused. -/
theorem RtuFrame.fromBuffer_take {f : RtuFrame crc16modbus} {p : Buffer} (hf : f.Parts p)
    {k : Nat} (hk : k < p.length + 2) :
    ModbusRTURequest.fromBuffer crc16modbus (toByte f.request.address ::
      (p ++ le16 (crc16modbus (toByte f.request.address :: p)).toNat).take k) = none := by
  rcases Nat.lt_or_ge k p.length with hlt | hge
  · rw [List.take_append_of_le_length (Nat.le_of_lt hlt)]
    by_cases hearly : f.request.body.EarlyCut k
    · -- the body is taken for a shorter one, but then there is no room for a CRC
      obtain ⟨body, hbody, -, hcount⟩ := hf.framed.early k hlt hearly
      exact ModbusRTURequest.fromBuffer_eq_none crc16modbus hbody hcount
        (by rw [List.length_take]; omega)
    · rw [ModbusRTURequest.fromBuffer_cons, hf.framed.refused k hlt hearly]
      split <;> rfl
  · -- the body is whole, and the CRC is cut
    obtain ⟨body, hbody, -, hcount⟩ := hf.framed.complete
      ((le16 (crc16modbus (toByte f.request.address :: p)).toNat).take (k - p.length))
    rw [List.take_append, List.take_of_length_le hge]
    exact ModbusRTURequest.fromBuffer_eq_none crc16modbus hbody hcount
      (by rw [List.length_append, List.length_take]; omega)

/-- Cut behind its second byte or later, a frame looks like one. -/
theorem RtuFrame.plausible_take {f : RtuFrame crc16modbus} {p : Buffer} (hf : f.Parts p)
    {k : Nat} (hpos : 0 < k) (hk : k < p.length + 2) :
    plausibleFrameStart (toByte f.request.address ::
      (p ++ le16 (crc16modbus (toByte f.request.address :: p)).toNat).take k) := by
  have hlen := hf.length_le
  obtain ⟨r, rfl⟩ := hf.framed.code
  obtain ⟨j, rfl⟩ : ∃ j, k = j + 1 := ⟨k - 1, by omega⟩
  have hcode : (UInt8.ofNat f.request.body.fc.code).toNat = f.request.body.fc.code :=
    toNat_ofNat_of_lt (by have := f.request.body.fc.code_le; omega)
  refine ⟨by simp, ?_, ?_⟩
  · rw [List.cons_append, List.take_succ_cons]
    show isFunctionCode (UInt8.ofNat f.request.body.fc.code).toNat = true
    rw [hcode, isFunctionCode_code]
  · rw [List.length_cons, List.length_take]
    unfold MAX_RTU_ADU_SIZE
    omega

/-- A frame is decoded with its CRC right, whatever follows it, and the request can be
logged. -/
theorem RtuFrame.fromBuffer_append (f : RtuFrame crc16modbus) (tail : Buffer) :
    ∃ body, body.content = f.request.body.content ∧
      RtuAccepts crc16modbus (f.payload ++ tail)
        { address := (toByte f.request.address).toNat, body, corrupted := false }
          f.payload.length := by
  obtain ⟨p, hf⟩ := f.exists_parts
  obtain ⟨body, hbody, hcontent, hcount⟩ :=
    hf.framed.complete (le16 (crc16modbus (toByte f.request.address :: p)).toNat ++ tail)
  have hfc : body.fc ≠ .readDeviceIdentification := by
    rw [← RequestBody.fc_content, hcontent, RequestBody.fc_content]
    exact f.fc_ne
  refine ⟨body, hcontent, ?_, rfl, ModbusRTURequest.toString_eq_ok hfc, ?_⟩
  · rw [hf.payload_eq]
    exact ModbusRTURequest.fromBuffer_frame_append crc16modbus hbody hcount
  · show body.byteCount + 3 = (f.payload.length : Nat)
    rw [hf.payload_eq, ModbusRTURequest.length_frame, hcount]
    omega

/-- The RTU decoder recognises a frame. -/
theorem RtuFrame.recognised (f : RtuFrame crc16modbus) :
    Recognised format (RtuWaits crc16modbus)
      (RtuAccepts crc16modbus) ModbusRTURequest.content f := by
  obtain ⟨p, hf⟩ := f.exists_parts
  have hpayload := hf.payload_eq
  refine ⟨?_, ?_, fun h => absurd (show (0 : Nat) = 1 from h) (by decide)⟩
  · intro tail
    obtain ⟨body, hcontent, haccepts⟩ := f.fromBuffer_append tail
    refine ⟨_, haccepts, ?_⟩
    show (toByte ((toByte f.request.address).toNat : Int), body.content) = f.request.content
    rw [hcontent, toByte_toNat, ModbusRTURequest.content]
  · intro k hk hbad
    have hk' : k < f.payload.length := hk
    have hk1 : k ≠ 1 := hbad
    show RtuWaits crc16modbus (f.payload.take k)
    rw [hpayload] at hk' ⊢
    rw [ModbusRTURequest.length_frame] at hk'
    cases k with
    | zero => exact ⟨rfl, .inr rfl⟩
    | succ k =>
      exact ⟨RtuFrame.fromBuffer_take hf (by omega),
        .inl (RtuFrame.plausible_take hf (by omega) (by omega))⟩

/-- The bytes a request of this content takes up on the line. -/
def rtuSize (content : UInt8 × RequestContent) : Nat := (content.2.byteCount + 3).toNat

theorem RtuFrame.size_eq (f : RtuFrame crc16modbus) :
    rtuSize f.request.content = f.payload.length := by
  obtain ⟨p, hf⟩ := f.exists_parts
  rw [hf.payload_eq, ModbusRTURequest.length_frame, rtuSize, ModbusRTURequest.content,
    hf.framed.length_eq]
  omega

/-- A request takes up what its byte count says, and its bytes are in the buffer. -/
theorem rtuSize_of_fromBuffer {b : Buffer} {r : ModbusRTURequest}
    (h : ModbusRTURequest.fromBuffer crc16modbus b = some r) :
    (rtuSize r.content : Int) ≤ r.byteCount ∧ rtuSize r.content ≤ b.length := by
  obtain ⟨hpos, hle⟩ := ModbusRTURequest.byteCount_of_fromBuffer crc16modbus h
  obtain ⟨rest, hbody⟩ := ModbusRTURequest.exists_body crc16modbus h
  have hcount : r.byteCount = r.body.content.byteCount + 3 := by
    rw [ModbusRTURequest.byteCount, RequestFactory.byteCount_eq hbody]
  rw [rtuSize, ModbusRTURequest.content, ← hcount]
  omega

/-- Alone, the first byte of a frame is dropped. -/
theorem rtu_drain_singleton (x : UInt8) : drain (rtuReader crc16modbus) [x] = ([], []) :=
  drain_garbage rfl rfl

/-- What is promised of a stream of frames: the requests are accepted in their order and as they
were sent, and no byte is left over. -/
structure RtuReassembles (frames : List (RtuFrame crc16modbus)) (chunks : List Buffer) :
    Prop where
  accepted : (run (rtuReader crc16modbus) new chunks)._requests.reverse.map
    ModbusRTURequest.content = frames.map fun f => f.request.content
  empty : (run (rtuReader crc16modbus) new chunks)._buffer = []

/-- Some chunk ends one byte behind the start of a frame. -/
def CutsAfterAddress (frames : List (RtuFrame crc16modbus)) (chunks : List Buffer) : Prop :=
  ∃ before after pre f post, chunks = before ++ after ∧ frames = pre ++ f :: post ∧
    before.flatten.length = (pre.flatMap RtuFrame.payload).length + 1

theorem cutsAfterAddress_iff (frames : List (RtuFrame crc16modbus)) (chunks : List Buffer) :
    CutsAfterAddress frames chunks ↔
      ∃ f k, CutAt RtuFrame.format [] chunks frames f k ∧ RtuFrame.format.bad f k := by
  constructor
  · rintro ⟨before, after, pre, f, post, hchunks, hframes, hlen⟩
    have hk : 1 < (RtuFrame.format.bytes f).length := by
      obtain ⟨p, hf⟩ := f.exists_parts
      show 1 < f.payload.length
      rw [hf.payload_eq, ModbusRTURequest.length_frame]
      omega
    exact ⟨f, 1, ⟨before, after, pre, post, hchunks, hframes, hk, hlen⟩, rfl⟩
  · rintro ⟨f, k, ⟨before, after, pre, post, hchunks, hframes, -, hlen⟩, hk⟩
    obtain rfl : k = 1 := hk
    exact ⟨before, after, pre, f, post, hchunks, hframes, hlen⟩

/-- A stream of RTU frames is reassembled, however it is cut, if and only if no chunk ends
one byte behind the start of a frame. -/
theorem rtu_reassembles_iff (frames : List (RtuFrame crc16modbus)) (chunks : List Buffer)
    (hstream : chunks.flatten = frames.flatMap RtuFrame.payload) :
    RtuReassembles frames chunks ↔ ¬ CutsAfterAddress frames chunks := by
  have hnil : RtuWaits crc16modbus [] := ⟨rfl, .inr rfl⟩
  have hweight := fun b => drain_weight_le (R := rtuReader crc16modbus)
    (fun r => rtuSize r.content) (fun b r h => rtuSize_of_fromBuffer h) b
  rw [cutsAfterAddress_iff]
  constructor
  · rintro ⟨haccepted, -⟩ hcut
    rw [run_new, List.reverse_reverse] at haccepted
    -- the address byte that is dropped is missing from what the requests take up
    refine values_ne_of_loss rtu_drain hnil (fun f _ => f.recognised) hstream hweight
      (fun f _ => f.size_eq) (fun f _ k hk hbad => ?_) hcut haccepted
    obtain rfl : k = 1 := hbad
    obtain ⟨x, hx⟩ := List.length_eq_one_iff.mp
      (show ((RtuFrame.format.bytes f).take 1).length = 1 by rw [List.length_take]; omega)
    rw [hx, rtu_drain_singleton]
    exact ⟨rfl, Nat.one_pos⟩
  · intro hcuts
    have hgood := reassembled_of_cuts rtu_drain hnil (fun f _ => f.recognised) hstream
      fun f k hcut hbad => hcuts ⟨f, k, hcut, hbad⟩
    constructor
    · rw [run_new, List.reverse_reverse]
      exact hgood.values
    · rw [run_new]
      exact hgood.empty

/-- The CRC of the one frame below. -/
def readOneCoilCrc (b : Buffer) : UInt16 := if b = [1, 1, 0, 0, 0, 1] then 0xCAFD else 0

/-- A read of one coil from unit 1. -/
def readOneCoil : RtuFrame readOneCoilCrc where
  request :=
    { address := 1, body := .readCoils ⟨0, 1, zero_le_address, one_le_count⟩,
      corrupted := false }
  payload := [1, 1, 0, 0, 0, 1, 0xFD, 0xCA]
  sendable := trivial
  fc_ne := by decide
  encoded := rfl

/-- Two frames in three pieces, the first one cut behind its function code and the second one
inside of its CRC. -/
theorem rtu_reassembles_iff_readOneCoil :
    RtuReassembles [readOneCoil, readOneCoil]
        [readOneCoil.payload.take 2, readOneCoil.payload.drop 2 ++ readOneCoil.payload.take 7,
          readOneCoil.payload.drop 7] ↔
      ¬ CutsAfterAddress [readOneCoil, readOneCoil]
        [readOneCoil.payload.take 2, readOneCoil.payload.drop 2 ++ readOneCoil.payload.take 7,
          readOneCoil.payload.drop 7] :=
  rtu_reassembles_iff _ _ (by decide)

/-- The frame cut behind its address: the address is dropped as garbage, and what follows is no
request. -/
theorem not_rtuReassembles_readOneCoil :
    [readOneCoil.payload.take 1, readOneCoil.payload.drop 1].flatten =
        [readOneCoil].flatMap RtuFrame.payload ∧
      (∀ chunk ∈ [readOneCoil.payload.take 1, readOneCoil.payload.drop 1], chunk ≠ []) ∧
      ¬ RtuReassembles [readOneCoil] [readOneCoil.payload.take 1, readOneCoil.payload.drop 1] :=
  ⟨by decide, by decide, fun h => absurd h.accepted (by decide)⟩

end Rtu

end NodeModbus

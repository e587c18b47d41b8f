import NodeModbus.Request.Frame

/-!
# The requests a client constructs

What comes back of the request bodies a client can construct, and whether their
frames have the length they announce.

- `Constructible`, `request_round_trip`: a body whose fields are in range comes
  back from its payload, the same whatever follows the payload.
- `InRange`, `HonestLengths`: the bodies with 16-bit fields, and what should hold of
  the lengths in their frames.
- `honestLengths_iff`: it holds for all of them but register writes of more than 120
  registers, whose byte count is cut off.
-/

namespace NodeModbus

open Buffer Words

namespace RequestBody

/-! ## Bodies in range -/

/-- The values of a multiple write, as a buffer. -/
def valuesAsBuffer : RequestBody → Option Buffer
  | writeMultipleCoils b => some b.valuesAsBuffer
  | writeMultipleRegisters b => some b.valuesAsBuffer
  | _ => none

/-- The bodies a client constructs with addresses and counts that are words: FC 15 for 1 to 1968
coils and FC 16 for 1 to 123 registers, of an array or of a buffer. -/
def InRange : RequestBody → Prop
  | readCoils b => IsUInt16 b.start ∧ IsUInt16 b.count
  | readDiscreteInputs b => IsUInt16 b.start ∧ IsUInt16 b.count
  | readHoldingRegisters b => IsUInt16 b.start ∧ IsUInt16 b.count
  | readInputRegisters b => IsUInt16 b.start ∧ IsUInt16 b.count
  | writeSingleCoil b => IsUInt16 b.address
  | writeSingleRegister b => IsUInt16 b.address
  | writeMultipleCoils b =>
    IsUInt16 b.address ∧ b.Constructed ∧ 1 ≤ b.quantity ∧ b.quantity ≤ 1968
  | writeMultipleRegisters b =>
    IsUInt16 b.address ∧ b.Constructed ∧ 1 ≤ b.quantity ∧ b.quantity ≤ 123
  | readDeviceIdentification _ => True
  | exception _ => False

/-- A write of more than 120 registers: the byte count of the body is cut off. -/
def LongRegisterWrite (b : RequestBody) : Prop :=
  b.fc = .writeMultipleHoldingRegisters ∧ 120 < b.count

/-- A body in range has a payload. -/
theorem InRange.createPayload_ok {b : RequestBody} (h : b.InRange) :
    ∃ p, b.createPayload = .ok p := by
  cases b with
  | readCoils r => exact (exists_wordsPayload_iff ..).mpr ⟨h.1, h.2⟩
  | readDiscreteInputs r => exact (exists_wordsPayload_iff ..).mpr ⟨h.1, h.2⟩
  | readHoldingRegisters r => exact (exists_wordsPayload_iff ..).mpr ⟨h.1, h.2⟩
  | readInputRegisters r => exact (exists_wordsPayload_iff ..).mpr ⟨h.1, h.2⟩
  | writeSingleCoil r => exact (exists_wordsPayload_iff ..).mpr ⟨h, isUInt16_coilValue _⟩
  | writeSingleRegister r => exact (exists_wordsPayload_iff ..).mpr ⟨h, r.value_range⟩
  | writeMultipleCoils r =>
    obtain ⟨ha, hcon, hpos, hle⟩ := h
    exact ⟨_, payload_writeMultipleCoils (hcon.coherent hpos hle) ha (by omega)⟩
  | writeMultipleRegisters r => exact ⟨_, payload_writeMultipleRegisters h.2.1.sized h.1⟩
  | readDeviceIdentification r => exact ⟨_, r.createPayload_eq⟩
  | exception r => exact absurd h id

/-- But for long register writes, a body in range is one that is sent. -/
theorem InRange.sendable {b : RequestBody} (h : b.InRange) (hshort : ¬ b.LongRegisterWrite) :
    b.Sendable := by
  cases b with
  | writeMultipleCoils r => exact h.2
  | writeMultipleRegisters r =>
    obtain ⟨-, hcon, hpos, -⟩ := h
    refine ⟨hcon, hpos, ?_⟩
    by_contra hlong
    exact hshort ⟨rfl, by show 120 < r.quantity; omega⟩
  | exception r => exact absurd h id
  | _ => trivial

/-! ## The round trip -/

/-- The bodies a client constructs, by the call of the constructor, with addresses, counts and
values in range. A coil buffer has as many bytes as its quantity needs. -/
inductive Constructible : RequestBody → Prop
  | readCoils {start count : Int} {r : ReadCoilsRequestBody} (hs : IsUInt16 start)
      (hc : 0 ≤ count ∧ count ≤ 2000) (h : ReadRequestBody.new start count = .ok r) :
      Constructible (.readCoils r)
  | readDiscreteInputs {start count : Int} {r : ReadDiscreteInputsRequestBody}
      (hs : IsUInt16 start) (hc : 0 ≤ count ∧ count ≤ 2000)
      (h : ReadRequestBody.new start count = .ok r) : Constructible (.readDiscreteInputs r)
  | readHoldingRegisters {start count : Int} {r : ReadHoldingRegistersRequestBody}
      (hs : IsUInt16 start) (hc : 0 ≤ count ∧ count ≤ 2000)
      (h : ReadRequestBody.new start count = .ok r) : Constructible (.readHoldingRegisters r)
  | readInputRegisters {start count : Int} {r : ReadInputRegistersRequestBody}
      (hs : IsUInt16 start) (hc : 0 ≤ count ∧ count ≤ 2000)
      (h : ReadRequestBody.new start count = .ok r) : Constructible (.readInputRegisters r)
  | writeSingleCoil {address : Int} {value : Bool} {r : WriteSingleCoilRequestBody}
      (ha : IsUInt16 address) (h : WriteSingleCoilRequestBody.new address value = .ok r) :
      Constructible (.writeSingleCoil r)
  | writeSingleRegister {address value : Int} {r : WriteSingleRegisterRequestBody}
      (ha : IsUInt16 address) (hv : IsUInt16 value)
      (h : WriteSingleRegisterRequestBody.new address value = .ok r) :
      Constructible (.writeSingleRegister r)
  | writeMultipleCoilsArray {unsafeBytes : Nat → UInt8} {address : Int} {values : List Bool}
      {r : WriteMultipleCoilsRequestBody} (ha : IsUInt16 address)
      (hlen : 1 ≤ values.length ∧ values.length ≤ 1968)
      (h : WriteMultipleCoilsRequestBody.new unsafeBytes address (.array values) none = .ok r) :
      Constructible (.writeMultipleCoils r)
  | writeMultipleCoilsBuffer {unsafeBytes : Nat → UInt8} {address : Int} {values : Buffer}
      {quantity : Nat} {r : WriteMultipleCoilsRequestBody} (ha : IsUInt16 address)
      (hq : 1 ≤ quantity ∧ quantity ≤ 1968) (hlen : values.length = (quantity + 7) / 8)
      (h : WriteMultipleCoilsRequestBody.new unsafeBytes address (.buffer values)
        (some quantity) = .ok r) : Constructible (.writeMultipleCoils r)
  | writeMultipleRegistersArray {address : Int} {values : List Int}
      {r : WriteMultipleRegistersRequestBody} (ha : IsUInt16 address)
      (hlen : 1 ≤ values.length ∧ values.length ≤ 123) (hv : ∀ v ∈ values, IsUInt16 v)
      (h : WriteMultipleRegistersRequestBody.new address (.array values) = .ok r) :
      Constructible (.writeMultipleRegisters r)
  | writeMultipleRegistersBuffer {address : Int} {values : Buffer} {n : Nat}
      {r : WriteMultipleRegistersRequestBody} (ha : IsUInt16 address) (hn : 1 ≤ n ∧ n ≤ 123)
      (hlen : values.length = 2 * n)
      (h : WriteMultipleRegistersRequestBody.new address (.buffer values) = .ok r) :
      Constructible (.writeMultipleRegisters r)
  | readDeviceIdentification {readDeviceIdCode objectId : Int}
      {r : ReadDeviceIdentificationRequestBody}
      (hc : 1 ≤ readDeviceIdCode ∧ readDeviceIdCode ≤ 4) (ho : IsUInt8 objectId)
      (h : ReadDeviceIdentificationRequestBody.new readDeviceIdCode objectId
        READ_DEVICE_ID_MEI_TYPE true = .ok r) : Constructible (.readDeviceIdentification r)

/-- The payload of `b` is read back as `b'`, whatever follows it, and `b'` says the same: it
is of the same kind, with the same fields, the same values in both forms, and the same byte
count. -/
structure ReadBackAs (b b' : RequestBody) : Prop where
  payload : ∃ p, b.createPayload = .ok p ∧ ∀ rest,
    RequestFactory.fromBuffer (p ++ rest) = some b'
  content : b'.content = b.content
  valuesAsBuffer : b'.valuesAsBuffer = b.valuesAsBuffer
  byteCount : b'.byteCount = b.byteCount

/-- But for the values of a multiple write, whose form is not sent, a body is known by its
content. -/
theorem eq_of_content {b b' : RequestBody} (hb : b.valuesAsBuffer = none)
    (h : b'.content = b.content) : b' = b := by
  cases b with
  | writeMultipleCoils r => cases hb
  | writeMultipleRegisters r => cases hb
  | _ r =>
    -- the fields of `r` are variables, which the content of `b'` gives
    cases r
    cases b' <;> cases h
    rfl

/-- A body without values that is sent comes back as it is. -/
theorem readBackAs_self {b : RequestBody} (h : b.InRange) (hb : b.valuesAsBuffer = none)
    (hsendable : b.Sendable) : ReadBackAs b b := by
  obtain ⟨p, hp⟩ := h.createPayload_ok
  have hframed := framed_of_sendable hsendable hp
  refine ⟨⟨p, hp, ?_⟩, rfl, rfl, rfl⟩
  intro rest
  obtain ⟨b', hb', hcontent, -⟩ := hframed.complete rest
  rw [hb', eq_of_content hb hcontent]

/-- A coil write whose buffer is as long as its quantity needs. -/
theorem readBackAs_writeMultipleCoils {r : WriteMultipleCoilsRequestBody} {n : Nat}
    (hc : r.Coherent n) (ha : IsUInt16 r.address) (hpos : 1 ≤ n) (hle : n ≤ 1968)
    (hlen : r.valuesAsBuffer.length = (n + 7) / 8) :
    ReadBackAs (.writeMultipleCoils r)
      (.writeMultipleCoils (.ofBuffer r.address r.valuesAsBuffer n)) := by
  have htake : r.valuesAsBuffer.take ((n + 7) / 8) = r.valuesAsBuffer :=
    List.take_of_length_le (Nat.le_of_eq hlen)
  have hpay := payload_writeMultipleCoils hc ha hle
  have hcontent := content_writeMultipleCoils hc hpos
  rw [htake] at hpay hcontent
  refine ⟨⟨_, hpay, ?_⟩, hcontent, rfl, ?_⟩
  · intro rest
    have ha' : r.address.toNat < 65536 := by
      unfold IsUInt16 at ha
      omega
    rw [fromBuffer_payload_writeMultipleCoils ha' hle hlen rest, Int.toNat_of_nonneg ha.1]
  · rw [WriteMultipleCoilsRequestBody.ofBuffer_eq _ _ (by omega)]
    exact hc.byteCount.symm

/-- A register write of any size. The byte counts are cut off alike. -/
theorem readBackAs_writeMultipleRegisters {r : WriteMultipleRegistersRequestBody} {n : Nat}
    (hs : r.Sized n) (ha : IsUInt16 r.address) :
    ReadBackAs (.writeMultipleRegisters r)
      (.writeMultipleRegisters (.ofBuffer r.address r.valuesAsBuffer)) := by
  refine ⟨⟨_, payload_writeMultipleRegisters hs ha, ?_⟩, content_writeMultipleRegisters hs,
    rfl, ?_⟩
  · intro rest
    have ha' : r.address.toNat < 65536 := by
      unfold IsUInt16 at ha
      omega
    rw [fromBuffer_payload_writeMultipleRegisters ha' hs.le hs.length_eq rest,
      Int.toNat_of_nonneg ha.1]
  · show min ((r.valuesAsBuffer.length : Int) + 6) 0xF6 = r.byteCount
    rw [hs.byteCount, hs.length_eq]
    rfl

/-- What a client constructs comes back from its payload, whatever follows the payload. -/
theorem request_round_trip {b : RequestBody} (h : Constructible b) : ∃ b', ReadBackAs b b' := by
  cases h with
  | readCoils hs hc h =>
    obtain ⟨rfl, rfl⟩ := ReadRequestBody.new_eq_ok h
    exact ⟨_, readBackAs_self ⟨hs, hc.1, by omega⟩ rfl trivial⟩
  | readDiscreteInputs hs hc h =>
    obtain ⟨rfl, rfl⟩ := ReadRequestBody.new_eq_ok h
    exact ⟨_, readBackAs_self ⟨hs, hc.1, by omega⟩ rfl trivial⟩
  | readHoldingRegisters hs hc h =>
    obtain ⟨rfl, rfl⟩ := ReadRequestBody.new_eq_ok h
    exact ⟨_, readBackAs_self ⟨hs, hc.1, by omega⟩ rfl trivial⟩
  | readInputRegisters hs hc h =>
    obtain ⟨rfl, rfl⟩ := ReadRequestBody.new_eq_ok h
    exact ⟨_, readBackAs_self ⟨hs, hc.1, by omega⟩ rfl trivial⟩
  | writeSingleCoil ha h =>
    obtain ⟨rfl, -⟩ := WriteSingleCoilRequestBody.new_eq_ok h
    exact ⟨_, readBackAs_self ha rfl trivial⟩
  | writeSingleRegister ha hv h =>
    obtain ⟨rfl, -⟩ := WriteSingleRegisterRequestBody.new_eq_ok h
    exact ⟨_, readBackAs_self ha rfl trivial⟩
  | writeMultipleCoilsArray ha hlen h =>
    have hc := WriteMultipleCoilsRequestBody.coherent_of_array h hlen.2
    rw [WriteMultipleCoilsRequestBody.new_array _ ha.2 hlen.2] at h
    obtain rfl := Except.ok.inj h
    exact ⟨_, readBackAs_writeMultipleCoils hc ha hlen.1 hlen.2 (Bits.length_pack _)⟩
  | @writeMultipleCoilsBuffer _ _ _ quantity r ha hq hlen h =>
    have hne : quantity ≠ 0 := by omega
    rw [WriteMultipleCoilsRequestBody.new_buffer _ ha.2 (by omega), if_neg (by omega),
      WriteMultipleCoilsRequestBody.ofBuffer_eq _ _ hne] at h
    obtain rfl := Except.ok.inj h
    exact ⟨_, readBackAs_writeMultipleCoils ⟨rfl, rfl, rfl, Nat.le_of_eq hlen.symm, rfl⟩ ha
      hq.1 hq.2 hlen⟩
  | writeMultipleRegistersArray ha hlen hv h =>
    have hs := WriteMultipleRegistersRequestBody.sized_of_array h
    rw [WriteMultipleRegistersRequestBody.new_array ha.2 hlen.2 hv] at h
    obtain rfl := Except.ok.inj h
    exact ⟨_, readBackAs_writeMultipleRegisters hs ha⟩
  | @writeMultipleRegistersBuffer _ values _ _ ha hn hlen h =>
    have hs := WriteMultipleRegistersRequestBody.sized_of_buffer h
    have hopt := WriteMultipleRegistersRequestBody.new_buffer values ha.2
    rw [h, if_pos (by omega)] at hopt
    obtain rfl := Option.some.inj hopt
    exact ⟨_, readBackAs_writeMultipleRegisters hs ha⟩
  | readDeviceIdentification hc ho h => exact ⟨_, readBackAs_self trivial rfl trivial⟩

/-- A write of three coils, from address 0 on. -/
def threeCoils : WriteMultipleCoilsRequestBody :=
  { address := 0, values := .array [true, false, true], quantity := 3, numberOfBytes := 1,
    byteCount := 7, valuesAsArray := [true, false, true], valuesAsBuffer := [5] }

theorem request_round_trip_threeCoils : ∃ b', ReadBackAs (.writeMultipleCoils threeCoils) b' :=
  request_round_trip (@Constructible.writeMultipleCoilsArray (fun _ => 0) 0 [true, false, true]
    threeCoils (by decide) (by decide) rfl)

/-! ## Honest lengths -/

/-- What should hold of the lengths in the frames of a body: the byte count is that of the
payload, the TCP frame holds all of the payload behind its header and its length field
counts what follows it, and both frames are decoded with their own length as byte count, and
the same content. -/
structure HonestLengths (crc16modbus : Buffer → UInt16) (b : RequestBody) : Prop where
  payload : ∃ p, b.createPayload = .ok p ∧ b.byteCount = p.length
  tcp : ∀ r : ModbusTCPRequest, r.body = b → IsUInt16 r.id → IsUInt8 r.unitId →
    ∃ p frame, b.createPayload = .ok p ∧ r.createPayload = .ok frame ∧ frame.drop 7 = p ∧
      frame.length = 6 + mbapLength frame ∧
      ∃ r', ModbusTCPRequest.fromBuffer frame = some r' ∧ r'.corrupted = false ∧
        r'.byteCount = frame.length ∧ r'.content = r.content
  rtu : ∀ r : ModbusRTURequest, r.body = b →
    ∃ frame, r.createPayload crc16modbus = .ok frame ∧
      ∃ r', ModbusRTURequest.fromBuffer crc16modbus frame = some r' ∧ r'.corrupted = false ∧
        r'.byteCount = frame.length ∧ r'.content = r.content

/-- The frames of a body that is sent are honest. -/
theorem honestLengths_of_framed (crc16modbus : Buffer → UInt16) {b : RequestBody} {p : Buffer}
    (hp : b.createPayload = .ok p) (hf : b.Framed p) (hle : p.length ≤ 252) :
    HonestLengths crc16modbus b := by
  refine ⟨⟨p, hp, hf.byteCount⟩, ?_, ?_⟩
  · rintro r rfl hid hunit
    obtain ⟨body, hbody, hcontent, -⟩ := hf.complete []
    rw [List.append_nil] at hbody
    have hlen : IsUInt16 (p.length + 1) := isUInt16_natCast (n := p.length + 1) (by omega)
    have hframe := ModbusTCPRequest.createPayload_eq hp hf.byteCount
    rw [if_pos ⟨hid, hlen, hunit⟩] at hframe
    unfold IsUInt16 at hid
    unfold IsUInt8 at hunit
    have hdecode := @ModbusTCPRequest.fromBuffer_mbapFrame_append r.id.toNat 0
      r.unitId.toNat p body (by omega) (by decide) (by omega) (by omega) hbody []
    rw [List.append_nil] at hdecode
    refine ⟨p, _, hp, hframe, rfl, ?_, _, hdecode, rfl, ?_, ?_⟩
    · show p.length + 7 = 6 + u16 _ _
      rw [u16_be16 (by omega)]
      omega
    · rw [length_mbapFrame]
      show ((p.length + 1 : Nat) : Int) + 6 = _
      omega
    · show ((r.id.toNat : Int), (r.unitId.toNat : Int), body.content) = r.content
      rw [ModbusTCPRequest.content, hcontent, Int.toNat_of_nonneg hid.1,
        Int.toNat_of_nonneg hunit.1]
  · rintro r rfl
    obtain ⟨body, hbody, hcontent, hcount⟩ :=
      hf.complete (le16 (crc16modbus (toByte r.address :: p)).toNat ++ [])
    have hdecode := ModbusRTURequest.fromBuffer_frame_append crc16modbus hbody hcount
    rw [List.append_nil] at hdecode
    refine ⟨_, ModbusRTURequest.createPayload_eq crc16modbus hp, _, hdecode, rfl, ?_, ?_⟩
    · rw [ModbusRTURequest.length_frame]
      show body.byteCount + 3 = _
      omega
    · show (toByte ((toByte r.address).toNat : Int), body.content) = r.content
      rw [toByte_toNat, hcontent, ModbusRTURequest.content]

/-- The payload of a long register write is longer than its byte count. -/
theorem byteCount_lt_of_long {b : RequestBody} {p : Buffer} (h : b.InRange)
    (hlong : b.LongRegisterWrite) (hp : b.createPayload = .ok p) : b.byteCount < p.length := by
  cases b with
  | writeMultipleRegisters r =>
    obtain ⟨ha, hcon, -, -⟩ := h
    have hs := hcon.sized
    have hquantity : 120 < r.quantity := hlong.2
    have hlen := hs.length_eq
    have hcount := hs.byteCount
    have hpay := payload_writeMultipleRegisters hs ha
    rw [show r.createPayload = .ok p from hp] at hpay
    obtain rfl := Except.ok.inj hpay
    show r.byteCount < _
    rw [length_header]
    omega
  | exception r => exact absurd h id
  | _ => cases hlong.1

/-- The lengths in the frames of a body in range are honest if and only if it is not a write of
more than 120 registers. -/
theorem honestLengths_iff (crc16modbus : Buffer → UInt16) {b : RequestBody} (h : b.InRange) :
    HonestLengths crc16modbus b ↔ ¬ b.LongRegisterWrite := by
  constructor
  · rintro ⟨⟨p, hp, hcount⟩, -, -⟩ hlong
    have hlt := byteCount_lt_of_long h hlong hp
    omega
  · intro hshort
    obtain ⟨p, hp⟩ := h.createPayload_ok
    have hframed := framed_of_sendable (h.sendable hshort) hp
    exact honestLengths_of_framed crc16modbus hp hframed (hframed.length_le (h.sendable hshort))

theorem honestLengths_iff_threeCoils :
    HonestLengths (fun _ => 0) (.writeMultipleCoils threeCoils) ↔
      ¬ LongRegisterWrite (.writeMultipleCoils threeCoils) :=
  honestLengths_iff (fun _ => 0)
    ⟨by decide,
      @WriteMultipleCoilsRequestBody.Constructed.array (fun _ => 0) 0 [true, false, true]
        threeCoils rfl,
      by decide, by decide⟩

/-- A write of 121 registers: its byte count is 246, and its payload has 248 bytes. -/
theorem not_honestLengths_registers :
    ∃ r, WriteMultipleRegistersRequestBody.new 0 (.buffer (List.replicate 242 0)) = .ok r ∧
      InRange (.writeMultipleRegisters r) ∧
      ¬ HonestLengths (fun _ => 0) (.writeMultipleRegisters r) := by
  have hopt := @WriteMultipleRegistersRequestBody.new_buffer 0 (List.replicate 242 0)
    (by decide)
  rw [List.length_replicate, if_pos (by decide)] at hopt
  cases hnew : WriteMultipleRegistersRequestBody.new 0 (.buffer (List.replicate 242 0)) with
  | error e =>
    rw [hnew] at hopt
    cases hopt
  | ok r =>
    have hquantity : r.quantity = 121 := by
      have hs := (WriteMultipleRegistersRequestBody.sized_of_buffer hnew).quantity
      rw [List.length_replicate] at hs
      exact hs
    have haddress : r.address = 0 := by
      rw [hnew] at hopt
      exact congrArg WriteMultipleRegistersRequestBody.address (Option.some.inj hopt)
    have hrange : InRange (.writeMultipleRegisters r) :=
      ⟨by rw [haddress]; decide, ⟨0, _, hnew⟩, by rw [hquantity]; decide,
        by rw [hquantity]; decide⟩
    refine ⟨r, rfl, hrange, ?_⟩
    rintro ⟨⟨p, hp, hcount⟩, -, -⟩
    have hlong : LongRegisterWrite (.writeMultipleRegisters r) :=
      ⟨rfl, by show 120 < r.quantity; rw [hquantity]; decide⟩
    have hlt := byteCount_lt_of_long hrange hlong hp
    omega

end RequestBody

end NodeModbus

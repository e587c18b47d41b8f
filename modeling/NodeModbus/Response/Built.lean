import NodeModbus.Response.Frame

/-!
# The responses a server builds

What comes back of the response bodies that can be built, whatever follows their
payload.

- `Built`: the bodies meant, by the call of the constructor.
- `readBack`, `Built.fromBuffer_append`: the body that is decoded of a payload. An
  exception for function code 43 without a MEI type is the only one that the bytes
  behind it can change.
- `ReadBackAs`, `Built.readBackAs`: it says the same, in every form.
- `ModbusTCPResponse.response_round_trip`: a TCP frame is decoded with its ids, its
  length and its body.
-/

namespace NodeModbus

open Buffer Words

/-! ## Payloads of counted data -/

theorem ReadBitsResponseBody.fromBuffer_payload (fc : FC) {values : Buffer}
    (hlen : values.length < 256) (rest : Buffer) :
    ReadBitsResponseBody.fromBuffer fc
        (UInt8.ofNat fc.code :: UInt8.ofNat values.length :: (values ++ rest)) =
      some (.ofBuffer values values.length) := by
  have hfc : (UInt8.ofNat fc.code).toNat = fc.code :=
    toNat_ofNat_of_lt (by have := fc.code_le; omega)
  have hn : (UInt8.ofNat values.length).toNat = values.length := toNat_ofNat_of_lt hlen
  rw [fromBuffer_cons, hn, if_pos ⟨hfc, by rw [List.length_append]; omega⟩, List.take_left]

theorem ReadHoldingRegistersResponseBody.fromBuffer_payload {values : Buffer}
    (hlen : values.length < 256) (rest : Buffer) :
    ReadHoldingRegistersResponseBody.fromBuffer
        (UInt8.ofNat FC.readHoldingRegisters.code :: UInt8.ofNat values.length ::
          (values ++ rest)) =
      .ok (some (.ofBuffer values.length values)) := by
  have hfc : (UInt8.ofNat FC.readHoldingRegisters.code).toNat = FC.readHoldingRegisters.code :=
    rfl
  have hn : (UInt8.ofNat values.length).toNat = values.length := toNat_ofNat_of_lt hlen
  rw [fromBuffer_cons, if_pos hfc, hn, List.take_left]

theorem ReadInputRegistersResponseBody.fromBuffer_payload {values : Buffer}
    (heven : values.length % 2 = 0) (hlen : values.length < 256) (rest : Buffer) :
    tryOrNull (ReadInputRegistersResponseBody.fromBuffer
        (UInt8.ofNat FC.readInputRegisters.code :: UInt8.ofNat values.length ::
          (values ++ rest))) =
      some (.ofPayload values.length values) := by
  have hn : (UInt8.ofNat values.length).toNat = values.length := toNat_ofNat_of_lt hlen
  rw [fromBuffer_cons, hn, if_pos ⟨rfl, heven, by rw [List.length_append]; omega⟩,
    List.take_left]

namespace ResponseBody

/-! ## Bodies that are built -/

/-- The bodies that are built: bits with the number of bytes they need, whole registers in a
buffer, fields that are words, and exceptions, which have a MEI type for function code 43
only. -/
inductive Built : ResponseBody → Prop
  | readCoils {bits : List Bool} {r : ReadCoilsResponseBody}
      (hlen : 1 ≤ bits.length ∧ bits.length ≤ 2000)
      (h : ReadBitsResponseBody.new (.array bits) (ceilDiv8 bits.length) = .ok r) :
      Built (.readCoils r)
  | readDiscreteInputs {bits : List Bool} {r : ReadDiscreteInputsResponseBody}
      (hlen : 1 ≤ bits.length ∧ bits.length ≤ 2000)
      (h : ReadBitsResponseBody.new (.array bits) (ceilDiv8 bits.length) = .ok r) :
      Built (.readDiscreteInputs r)
  | readHoldingRegisters {values : Buffer} {n : Nat} {r : ReadHoldingRegistersResponseBody}
      (hn : 1 ≤ n ∧ n ≤ 127) (hlen : values.length = 2 * n)
      (h : ReadHoldingRegistersResponseBody.new values.length (.buffer values) = .ok r) :
      Built (.readHoldingRegisters r)
  | readInputRegisters {values : Buffer} {n : Nat} {r : ReadInputRegistersResponseBody}
      (hn : 1 ≤ n ∧ n ≤ 127) (hlen : values.length = 2 * n)
      (h : ReadInputRegistersResponseBody.new values.length (.buffer values) none = .ok r) :
      Built (.readInputRegisters r)
  | writeSingleCoil {address : Int} {value : Bool} (ha : IsUInt16 address) :
      Built (.writeSingleCoil { _address := address, _value := value })
  | writeSingleRegister {address value : Int} (ha : IsUInt16 address) (hv : IsUInt16 value) :
      Built (.writeSingleRegister { _address := address, _value := value })
  | writeMultipleCoils {start quantity : Int} (hs : IsUInt16 start) (hq : IsUInt16 quantity) :
      Built (.writeMultipleCoils { _start := start, _quantity := quantity })
  | writeMultipleRegisters {start quantity : Int} (hs : IsUInt16 start)
      (hq : IsUInt16 quantity) :
        Built (.writeMultipleRegisters { _start := start, _quantity := quantity })
  | exception {fc : FC} {code : Int} {meiType : Option Int} (hc : IsUInt8 code)
      (hmei : ∀ m ∈ meiType, fc = .readDeviceIdentification ∧ IsUInt8 m) :
      Built (.exception { fc, code, meiType })

/-- An exception for function code 43 in the layout of the other function codes. -/
def LegacyException : ResponseBody → Prop
  | exception b => b.fc = .readDeviceIdentification ∧ b.meiType = none
  | _ => False

/-- The body that is decoded of the payload of a body: of bits and registers it has the
bytes. -/
def readBack : ResponseBody → ResponseBody
  | readCoils b => readCoils (.ofBuffer b.valuesAsBuffer b.valuesAsBuffer.length)
  | readDiscreteInputs b =>
    readDiscreteInputs (.ofBuffer b.valuesAsBuffer b.valuesAsBuffer.length)
  | readHoldingRegisters b =>
    readHoldingRegisters (.ofBuffer b.valuesAsBuffer.length b.valuesAsBuffer)
  | readInputRegisters b =>
    readInputRegisters (.ofPayload b.valuesAsBuffer.length b.valuesAsBuffer)
  | b => b

/-- The constructor of the bit responses, with the bits in an array. -/
theorem new_ofArray (bits : List Bool) :
    ReadBitsResponseBody.new (.array bits) (ceilDiv8 bits.length) =
      .ok (ReadBitsResponseBody.ofArray bits) := by
  rw [ReadBitsResponseBody.new_array, WriteMultipleCoilsRequestBody.ceilDiv8_natCast]
  rfl

theorem readBits_eq {bits : List Bool} {r : ReadBitsResponseBody}
    (h : ReadBitsResponseBody.new (.array bits) (ceilDiv8 bits.length) = .ok r) :
    r = ReadBitsResponseBody.ofArray bits := by
  rw [new_ofArray] at h
  exact (Except.ok.inj h).symm

theorem wellFormed_ofArray (bits : List Bool) :
    (ReadBitsResponseBody.ofArray bits).WellFormed := by
  refine ⟨.array bits, ?_⟩
  rw [ReadBitsResponseBody.new_array, ReadBitsResponseBody.ofArray, Bits.length_pack]

theorem Built.wellFormed {b : ResponseBody} (h : b.Built) : b.WellFormed := by
  cases h with
  | readCoils hlen h =>
    rw [readBits_eq h]
    exact wellFormed_ofArray _
  | readDiscreteInputs hlen h =>
    rw [readBits_eq h]
    exact wellFormed_ofArray _
  | @readHoldingRegisters values n r hn hlen h =>
    have heven : values.length % 2 = 0 := by omega
    exact ⟨.buffer values, heven, h⟩
  | @readInputRegisters values n r hn hlen h =>
    have heven : values.length % 2 = 0 := by omega
    exact ⟨.buffer values, none, heven, h⟩
  | @exception fc code meiType hc hmei =>
    intro hne
    obtain ⟨m, hm⟩ := Option.ne_none_iff_exists'.mp hne
    exact (hmei m hm).1
  | _ => trivial

/-! ## What is decoded -/

/-- `p` is the payload of `b`, and `b'` is decoded of it, whatever follows it. -/
structure DecodesTo (b : ResponseBody) (p : Buffer) (b' : ResponseBody) : Prop where
  payload : b.createPayload = .ok p
  decoded : ∀ rest, (b.LegacyException → rest = []) →
    ResponseFactory.fromBuffer (p ++ rest) = some b'

theorem readBits_decodesTo (fc : FC) (mk : ReadBitsResponseBody → ResponseBody)
    {bits : List Bool} (hlen : bits.length ≤ 2000)
    (hpayload : ∀ r, (mk r).createPayload = ReadBitsResponseBody.createPayload fc r)
    (hdec : ∀ buffer, tryOrNull (ResponseFactory.decoder fc buffer) =
      (ReadBitsResponseBody.fromBuffer fc buffer).map mk) :
    DecodesTo (mk (.ofArray bits))
      (UInt8.ofNat fc.code :: UInt8.ofNat (Bits.pack bits).length :: Bits.pack bits)
      (mk (.ofBuffer (Bits.pack bits) (Bits.pack bits).length)) := by
  have hbytes : (Bits.pack bits).length = (bits.length + 7) / 8 := Bits.length_pack bits
  have hroom : (Bits.pack bits).length < 256 := by omega
  constructor
  · rw [hpayload, ReadBitsResponseBody.createPayload_ofArray, if_pos (by omega), hbytes]
  · intro rest _
    rw [List.cons_append, List.cons_append, ResponseFactory.fromBuffer_code, hdec,
      ReadBitsResponseBody.fromBuffer_payload fc hroom, Option.map_some]

theorem readHoldingRegisters_decodesTo {values : Buffer} (heven : values.length % 2 = 0)
    (hlen : values.length < 256) :
    DecodesTo (readHoldingRegisters (.ofBuffer values.length values))
      (UInt8.ofNat FC.readHoldingRegisters.code :: UInt8.ofNat values.length :: values)
      (readHoldingRegisters (.ofBuffer values.length values)) := by
  constructor
  · show registersPayload .readHoldingRegisters values.length (.buffer values) = _
    exact (@registersPayload_eq .readHoldingRegisters (.buffer values) heven).trans
      (if_pos hlen)
  · intro rest _
    rw [List.cons_append, List.cons_append, ResponseFactory.fromBuffer_code,
      ResponseFactory.decoder, ResponseFactory.tryOrNull_map,
      ReadHoldingRegistersResponseBody.fromBuffer_payload hlen,
      tryOrNull_ok, Option.map_some]

theorem readInputRegisters_decodesTo {values : Buffer} (heven : values.length % 2 = 0)
    (hlen : values.length < 256) :
    DecodesTo (readInputRegisters (.ofBuffer values.length values))
      (UInt8.ofNat FC.readInputRegisters.code :: UInt8.ofNat values.length :: values)
      (readInputRegisters (.ofPayload values.length values)) := by
  constructor
  · show registersPayload .readInputRegisters values.length (.buffer values) = _
    exact (@registersPayload_eq .readInputRegisters (.buffer values) heven).trans
      (if_pos hlen)
  · intro rest _
    rw [List.cons_append, List.cons_append, ResponseFactory.fromBuffer_code,
      ResponseFactory.decoder, ResponseFactory.tryOrNull_map,
      ReadInputRegistersResponseBody.fromBuffer_payload heven hlen,
      Option.map_some]

/-- A body of two words whose decoder is a function of them. -/
theorem words_decodesTo {b : ResponseBody} {first second : Int}
    (hb : b.createPayload = wordsPayload b.fc first second) (h₁ : IsUInt16 first)
    (h₂ : IsUInt16 second) (mk : Nat × Nat → ResponseBody)
    (hdec : ∀ buffer, tryOrNull (ResponseFactory.decoder b.fc buffer) =
      (fields b.fc buffer).map mk)
    (hmk : mk (first.toNat, second.toNat) = b) :
    DecodesTo b (UInt8.ofNat b.fc.code :: (be16 first.toNat ++ be16 second.toNat)) b := by
  constructor
  · rw [hb, wordsPayload_eq, if_pos ⟨h₁, h₂⟩]
  · intro rest _
    rw [List.cons_append, ResponseFactory.fromBuffer_code, hdec, ← List.cons_append,
      RequestBody.fields_payload b.fc h₁ h₂, Option.map_some, hmk]

theorem readDeviceIdentification_decodesTo {r : ReadDeviceIdentificationResponseBody}
    (hlen : r.objects.length ≤ 255) :
    ∃ p, DecodesTo (readDeviceIdentification r) p (readDeviceIdentification r) := by
  have hp := r.createPayload_eq.trans (if_pos (by omega))
  refine ⟨_, hp, ?_⟩
  intro rest _
  have hread := ReadDeviceIdentificationResponseBody.fromBuffer_payload hp rest
  simp only [List.cons_append] at hread ⊢
  rw [ResponseFactory.fromBuffer_code, ResponseFactory.decoder, tryOrNull_ok, hread,
    Option.map_some]

theorem exception_decodesTo {r : ExceptionResponseBody} (hc : IsUInt8 r.code)
    (hmei : ∀ m ∈ r.meiType, r.fc = .readDeviceIdentification ∧ IsUInt8 m) :
    DecodesTo (exception r) r.bytes (exception r) := by
  have hfc : FC.ofCode? (((UInt8.ofNat (r.fc.code + 0x80)).toNat : Int) - 0x80) =
      some r.fc := by
    have hle := r.fc.code_le
    rw [toNat_ofNat_of_lt (by omega)]
    simp
  constructor
  · exact r.createPayload_eq.trans (if_pos ⟨hc, fun m hm => (hmei m hm).2⟩)
  · intro rest hrest
    obtain ⟨fc, code, meiType⟩ := r
    rw [ExceptionResponseBody.bytes, List.cons_append, ResponseFactory.fromBuffer_exception,
      ExceptionResponseBody.fromBuffer_cons, hfc, Option.bind_some]
    have hcode : ((UInt8.ofNat code.toNat).toNat : Int) = code := toNat_ofNat_of_isUInt8 hc
    cases meiType with
    | none =>
      -- only behind function code 43 a second byte is looked for
      by_cases hdevice : fc = .readDeviceIdentification
      · rw [hrest ⟨hdevice, rfl⟩]
        simp only [List.append_nil, Option.map_some, hcode]
      · rcases rest with _ | ⟨y, rest⟩
        · simp only [List.append_nil, Option.map_some, hcode]
        · simp only [List.cons_append, List.nil_append, if_neg hdevice, Option.map_some, hcode]
    | some m =>
      obtain ⟨rfl, hm⟩ := hmei m rfl
      have hm' : ((UInt8.ofNat m.toNat).toNat : Int) = m := toNat_ofNat_of_isUInt8 hm
      simp only [List.cons_append, List.nil_append, if_true, Option.map_some, hcode, hm']

theorem eq_ofBuffer_of_new {values : Buffer} {r : ReadHoldingRegistersResponseBody}
    (h : ReadHoldingRegistersResponseBody.new values.length (.buffer values) = .ok r) :
    r = .ofBuffer values.length values := by
  rw [ReadHoldingRegistersResponseBody.new_buffer] at h
  exact (Except.ok.inj h).symm

theorem eq_inputOfBuffer_of_new {values : Buffer} {r : ReadInputRegistersResponseBody}
    (h : ReadInputRegistersResponseBody.new values.length (.buffer values) none = .ok r) :
    r = .ofBuffer values.length values := by
  rw [ReadInputRegistersResponseBody.new, readWords_half] at h
  exact (Except.ok.inj h).symm

/-- A body that is built comes back, from its payload and whatever follows it. -/
theorem Built.decodesTo {b : ResponseBody} (h : b.Built) : ∃ p, DecodesTo b p b.readBack := by
  cases h with
  | readCoils hlen h =>
    obtain rfl := readBits_eq h
    exact ⟨_, readBits_decodesTo .readCoil ResponseBody.readCoils hlen.2 (fun _ => rfl)
      fun _ => rfl⟩
  | readDiscreteInputs hlen h =>
    obtain rfl := readBits_eq h
    exact ⟨_, readBits_decodesTo .readDiscreteInput ResponseBody.readDiscreteInputs hlen.2
      (fun _ => rfl) fun _ => rfl⟩
  | readHoldingRegisters hn hlen h =>
    obtain rfl := eq_ofBuffer_of_new h
    exact ⟨_, readHoldingRegisters_decodesTo (by omega) (by omega)⟩
  | readInputRegisters hn hlen h =>
    obtain rfl := eq_inputOfBuffer_of_new h
    exact ⟨_, readInputRegisters_decodesTo (by omega) (by omega)⟩
  | @writeSingleCoil address value ha =>
    refine ⟨_,
      words_decodesTo (b := .writeSingleCoil { _address := address, _value := value }) rfl ha
      (isUInt16_coilValue value)
      (fun p => .writeSingleCoil { _address := p.1, _value := p.2 = 0xFF00 }) ?_ ?_⟩
    · intro buffer
      exact decoder_writeSingleCoil buffer
    · cases value <;> simp [Int.toNat_of_nonneg ha.1]
  | @writeSingleRegister address value ha hv =>
    refine ⟨_,
      words_decodesTo (b := .writeSingleRegister { _address := address, _value := value }) rfl
      ha hv (fun p => .writeSingleRegister { _address := p.1, _value := p.2 }) ?_ ?_⟩
    · intro buffer
      exact decoder_writeSingleRegister buffer
    · simp only [Int.toNat_of_nonneg ha.1, Int.toNat_of_nonneg hv.1]
  | @writeMultipleCoils start quantity hs hq =>
    refine ⟨_,
      words_decodesTo (b := .writeMultipleCoils { _start := start, _quantity := quantity }) rfl
      hs hq (fun p => .writeMultipleCoils { _start := p.1, _quantity := p.2 }) ?_ ?_⟩
    · intro buffer
      exact decoder_writeMultipleCoils buffer
    · simp only [Int.toNat_of_nonneg hs.1, Int.toNat_of_nonneg hq.1]
  | @writeMultipleRegisters start quantity hs hq =>
    refine ⟨_,
      words_decodesTo (b := .writeMultipleRegisters { _start := start, _quantity := quantity })
      rfl hs hq (fun p => .writeMultipleRegisters { _start := p.1, _quantity := p.2 }) ?_ ?_⟩
    · intro buffer
      exact decoder_writeMultipleRegisters buffer
    · simp only [Int.toNat_of_nonneg hs.1, Int.toNat_of_nonneg hq.1]
  | exception hc hmei => exact ⟨_, exception_decodesTo hc hmei⟩

theorem Built.byteCount_le {b : ResponseBody} (h : b.Built) : b.byteCount ≤ 256 := by
  cases h with
  | readCoils hlen h =>
    obtain rfl := readBits_eq h
    show (((_ + 7) / 8 : Nat) : Int) + 2 ≤ 256
    omega
  | readDiscreteInputs hlen h =>
    obtain rfl := readBits_eq h
    show (((_ + 7) / 8 : Nat) : Int) + 2 ≤ 256
    omega
  | @readHoldingRegisters values n r hn hlen h =>
    obtain rfl := eq_ofBuffer_of_new h
    show 2 + (values.length : Int) ≤ 256
    omega
  | @readInputRegisters values n r hn hlen h =>
    obtain rfl := eq_inputOfBuffer_of_new h
    show 2 + (values.length : Int) ≤ 256
    omega
  | exception hc hmei =>
    show ExceptionResponseBody.byteCount _ ≤ 256
    unfold ExceptionResponseBody.byteCount
    split <;> decide
  | _ => exact (by decide : (5 : Int) ≤ 256)

theorem Built.byteCount_readBack {b : ResponseBody} (h : b.Built) :
    b.readBack.byteCount = b.byteCount := by
  cases h with
  | readCoils hlen h =>
    obtain rfl := readBits_eq h
    show ((Bits.pack _).length : Int) + 2 = (((_ + 7) / 8 : Nat) : Int) + 2
    rw [Bits.length_pack]
  | readDiscreteInputs hlen h =>
    obtain rfl := readBits_eq h
    show ((Bits.pack _).length : Int) + 2 = (((_ + 7) / 8 : Nat) : Int) + 2
    rw [Bits.length_pack]
  | readHoldingRegisters hn hlen h =>
    obtain rfl := eq_ofBuffer_of_new h
    rfl
  | @readInputRegisters values n r hn hlen h =>
    obtain rfl := eq_inputOfBuffer_of_new h
    show 2 + ((words values).length : Int) * 2 = 2 + (values.length : Int)
    rw [length_words]
    omega
  | _ => rfl

/-! ## What goes over a serial line -/

/-- The bodies whose end can be told from their own bytes: those that are built, with a MEI
type in an exception for function code 43, and device identifications of up to 255 objects. -/
inductive SelfDelimiting : ResponseBody → Prop
  | built {b : ResponseBody} (h : b.Built) (hmei : ¬ b.LegacyException) : SelfDelimiting b
  | readDeviceIdentification {r : ReadDeviceIdentificationResponseBody}
      (h : r.objects.length ≤ 255) : SelfDelimiting (.readDeviceIdentification r)

theorem SelfDelimiting.wellFormed {b : ResponseBody} (h : b.SelfDelimiting) : b.WellFormed := by
  cases h with
  | built h _ => exact h.wellFormed
  | readDeviceIdentification h => trivial

theorem SelfDelimiting.decodesTo {b : ResponseBody} (h : b.SelfDelimiting) :
    ∃ p, DecodesTo b p b.readBack := by
  cases h with
  | built h _ => exact h.decodesTo
  | readDeviceIdentification h => exact readDeviceIdentification_decodesTo h

theorem SelfDelimiting.not_legacy {b : ResponseBody} (h : b.SelfDelimiting) :
    ¬ b.LegacyException := by
  cases h with
  | built _ hmei => exact hmei
  | readDeviceIdentification _ => exact id

theorem SelfDelimiting.byteCount_readBack {b : ResponseBody} (h : b.SelfDelimiting) :
    b.readBack.byteCount = b.byteCount := by
  cases h with
  | built h _ => exact h.byteCount_readBack
  | readDeviceIdentification h => rfl

/-- What is decoded of a holding register response cut behind its byte count takes all of
what is there. -/
theorem byteCount_readHoldingRegisters_take (values : Buffer) {k : Nat}
    (hlen : values.length < 256) (hk : k ≤ values.length) {b' : ResponseBody}
    (h : ResponseFactory.fromBuffer (UInt8.ofNat FC.readHoldingRegisters.code ::
      UInt8.ofNat values.length :: values.take k) = some b') :
    b'.byteCount = (k + 2 : Nat) := by
  have hfc : (UInt8.ofNat FC.readHoldingRegisters.code).toNat = FC.readHoldingRegisters.code :=
    rfl
  have hn : (UInt8.ofNat values.length).toNat = values.length := toNat_ofNat_of_lt hlen
  rw [ResponseFactory.fromBuffer_code, ResponseFactory.decoder, ResponseFactory.tryOrNull_map,
    ReadHoldingRegistersResponseBody.fromBuffer_cons, if_pos hfc, hn, tryOrNull_ok,
    Option.map_some, List.take_take, Nat.min_eq_right hk] at h
  obtain rfl := Option.some.inj h
  show 2 + ((values.take k).length : Int) = _
  rw [List.length_take, Nat.min_eq_left hk]
  omega

/-- What is decoded of a payload cut short takes all of what is there. -/
theorem Built.byteCount_of_take {b : ResponseBody} {p : Buffer} (h : b.Built)
    (hp : b.createPayload = .ok p) {k : Nat} (hk : k < p.length) {b' : ResponseBody}
    (hb' : ResponseFactory.fromBuffer (p.take k) = some b') : b'.byteCount = k := by
  have hframed := framed_of_wellFormed h.wellFormed hp
  have hearly : b.EarlyCut k := by
    by_contra hcut
    rw [hframed.refused k hk hcut] at hb'
    cases hb'
  cases h with
  | @readHoldingRegisters values n r hn hlen h =>
    obtain rfl := eq_ofBuffer_of_new h
    have hpayload := (@readHoldingRegisters_decodesTo values (by omega) (by omega)).payload
    rw [hp] at hpayload
    obtain rfl := Except.ok.inj hpayload
    obtain ⟨j, rfl⟩ : ∃ j, k = j + 2 := ⟨k - 2, by have := show 2 ≤ k from hearly; omega⟩
    simp only [List.length_cons] at hk
    exact byteCount_readHoldingRegisters_take values (by omega) (by omega) hb'
  | @exception fc code meiType hc hmei =>
    obtain ⟨hne, rfl⟩ := hearly
    obtain ⟨m, rfl⟩ := Option.ne_none_iff_exists'.mp hne
    have hpayload :=
      (exception_decodesTo (r := { fc, code, meiType := some m }) hc hmei).payload
    rw [hp] at hpayload
    obtain rfl := Except.ok.inj hpayload
    -- function code and MEI type are taken for an exception of two bytes
    rw [ExceptionResponseBody.bytes, List.take_succ_cons, ResponseFactory.fromBuffer_exception,
      ExceptionResponseBody.fromBuffer_cons] at hb'
    obtain ⟨e, he, rfl⟩ := Option.map_eq_some_iff.mp hb'
    obtain ⟨fc', -, he⟩ := Option.bind_eq_some_iff.mp he
    obtain rfl := Option.some.inj he
    rfl
  | _ => exact absurd hearly id

theorem SelfDelimiting.byteCount_of_take {b : ResponseBody} {p : Buffer} (h : b.SelfDelimiting)
    (hp : b.createPayload = .ok p) {k : Nat} (hk : k < p.length) {b' : ResponseBody}
    (hb' : ResponseFactory.fromBuffer (p.take k) = some b') : b'.byteCount = k := by
  cases h with
  | built h _ => exact h.byteCount_of_take hp hk hb'
  | readDeviceIdentification h =>
    rw [(framed_readDeviceIdentification hp).refused k hk id] at hb'
    cases hb'

/-! ## What comes back says the same -/

/-- The bits of a bit response. -/
def bits : ResponseBody → List Bool
  | readCoils b => b.valuesAsArray
  | readDiscreteInputs b => b.valuesAsArray
  | _ => []

/-- The data of a read response, as a buffer. -/
def valuesAsBuffer : ResponseBody → Option Buffer
  | readCoils b => some b.valuesAsBuffer
  | readDiscreteInputs b => some b.valuesAsBuffer
  | readHoldingRegisters b => some b.valuesAsBuffer
  | readInputRegisters b => some b.valuesAsBuffer
  | _ => none

/-- `b'` says what `b` says: it is of the same kind, with the same fields, registers and
data bytes, and its bits are those of `b`, with "off" in the rest of the last byte. -/
structure ReadBackAs (b b' : ResponseBody) : Prop where
  content : b'.content = b.content
  valuesAsBuffer : b'.valuesAsBuffer = b.valuesAsBuffer
  bits : ∃ padding, b'.bits = b.bits ++ List.replicate padding false

theorem readBackAs_refl (b : ResponseBody) : ReadBackAs b b :=
  ⟨rfl, rfl, 0, (List.append_nil _).symm⟩

theorem Built.readBackAs {b : ResponseBody} (h : b.Built) : ReadBackAs b b.readBack := by
  cases h with
  | readCoils hlen h =>
    obtain rfl := readBits_eq h
    exact ⟨rfl, rfl, _, Bits.unpack_pack _⟩
  | readDiscreteInputs hlen h =>
    obtain rfl := readBits_eq h
    exact ⟨rfl, rfl, _, Bits.unpack_pack _⟩
  | readHoldingRegisters hn hlen h =>
    obtain rfl := eq_ofBuffer_of_new h
    exact readBackAs_refl _
  | readInputRegisters hn hlen h =>
    obtain rfl := eq_inputOfBuffer_of_new h
    exact ⟨rfl, rfl, 0, rfl⟩
  | _ => exact readBackAs_refl _

theorem SelfDelimiting.readBackAs {b : ResponseBody} (h : b.SelfDelimiting) :
    ReadBackAs b b.readBack := by
  cases h with
  | built h _ => exact h.readBackAs
  | readDeviceIdentification h => exact readBackAs_refl _

end ResponseBody

/-! ## TCP frames -/

namespace ModbusTCPResponse

/-- The answer to a request comes back from its frame, whatever follows the frame: with the
ids of the request, the length of the frame as byte count, and a body that says the same. -/
theorem response_round_trip {request : ModbusTCPRequest} {body : ResponseBody}
    (hid : IsUInt16 request.id) (hprotocol : IsUInt16 request.protocol)
    (hunit : IsUInt8 request.unitId) (hbody : body.Built) :
    ∃ frame r, (fromRequest request body).createPayload = .ok frame ∧
      (∀ rest, fromBuffer (frame ++ rest) = some r) ∧ r.id = request.id ∧
      r.protocol = request.protocol ∧ r.unitId = request.unitId ∧ r.byteCount = frame.length ∧
      body.ReadBackAs r.body := by
  obtain ⟨p, hp⟩ := hbody.decodesTo
  have hframed := ResponseBody.framed_of_wellFormed hbody.wellFormed hp.payload
  have hdecoded := hp.decoded [] fun _ => rfl
  rw [List.append_nil] at hdecoded
  have hle := hbody.byteCount_le
  rw [hframed.byteCount] at hle
  have hlength : (fromRequest request body).bodyLength = p.length + 1 :=
    congrArg (· + 1) hframed.byteCount
  have hframe := createPayload_eq (r := fromRequest request body) hp.payload hlength
  rw [if_pos ⟨hid, hprotocol, isUInt16_natCast (n := p.length + 1) (by omega), hunit⟩] at hframe
  have hfrom := fromBuffer_encoded hp.payload hlength hframe hdecoded
  refine ⟨_, { fromRequest request body with body := body.readBack }, hframe,
    fun rest => (hfrom rest).1, rfl, rfl, rfl, ?_, hbody.readBackAs⟩
  show (fromRequest request body).bodyLength + 6 = _
  rw [hlength, (hfrom []).2]
  omega

/-- A request for the coils 0, 1 and 2. -/
def threeCoils : ModbusTCPRequest :=
  { id := 1, protocol := 0, length := 6, unitId := 1,
    body := .readCoils ⟨0, 3, zero_le_address, by decide⟩ }

theorem response_round_trip_threeCoils :
    ∃ frame r,
      (fromRequest threeCoils (.readCoils (.ofArray [true, false, true]))).createPayload =
        .ok frame ∧
      (∀ rest, fromBuffer (frame ++ rest) = some r) ∧ r.id = threeCoils.id ∧
      r.protocol = threeCoils.protocol ∧ r.unitId = threeCoils.unitId ∧
      r.byteCount = frame.length ∧
      (ResponseBody.readCoils (.ofArray [true, false, true])).ReadBackAs r.body :=
  response_round_trip (by decide) (by decide) (by decide)
    (@ResponseBody.Built.readCoils [true, false, true] (.ofArray [true, false, true])
      (by decide) (ResponseBody.new_ofArray _))

end ModbusTCPResponse

end NodeModbus

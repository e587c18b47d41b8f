import NodeModbus.Request.RoundTrip
import NodeModbus.Response.Factory

/-!
# Response payloads, whole and cut short

What `ResponseFactory.fromBuffer` makes of the payload of a response body: of the
whole payload, and of the payload cut at any place.

- `WellFormed`: the bodies meant. The byte count of a read response is that of
  its data, registers are whole words, and only an exception for function code 43
  has the MEI layout.
- `Framed`, `framed_of_wellFormed`: a payload decodes to a body of the same
  content, and cut short it is refused, with two exceptions.
- `EarlyCut`: the exceptions. A holding register response cut behind its byte
  count is decoded with the data that is there, and an exception in the MEI
  layout cut behind its second byte is decoded as one of two bytes.
-/

namespace NodeModbus

open Buffer Words

namespace ResponseBody

/-- The bodies whose byte count is that of their data, with whole words for registers. The
echoes and the identification of a device are all meant. -/
def WellFormed : ResponseBody → Prop
  | readCoils b => ReadBitsResponseBody.WellFormed b
  | readDiscreteInputs b => ReadBitsResponseBody.WellFormed b
  | readHoldingRegisters b => b.WellFormed
  | readInputRegisters b => b.WellFormed
  | exception b => b.meiType ≠ none → b.fc = .readDeviceIdentification
  | _ => True

/-- The lengths at which a payload cut short is still decoded. -/
def EarlyCut : ResponseBody → Nat → Prop
  | readHoldingRegisters _, k => 2 ≤ k
  | exception b, k => b.meiType ≠ none ∧ k = 2
  | _, _ => False

/-- What the factory makes of the payload `p` of a body, whole and cut short. -/
structure Framed (b : ResponseBody) (p : Buffer) : Prop where
  byteCount : b.byteCount = p.length
  complete : ∃ b', ResponseFactory.fromBuffer p = some b' ∧ b'.content = b.content
  refused : ∀ k < p.length, ¬ b.EarlyCut k → ResponseFactory.fromBuffer (p.take k) = none
  early : ∀ k < p.length, b.EarlyCut k → ∃ b', ResponseFactory.fromBuffer (p.take k) = some b' ∧
    b'.content ≠ b.content

/-! ## Write echoes -/

/-- A body of five bytes whose decoder is a function of the two fields. -/
theorem framed_of_words {b : ResponseBody} {p : Buffer} {first second : Int}
    (hp : wordsPayload b.fc first second = .ok p) (hcount : b.byteCount = 5)
    (hearly : ∀ k, ¬ b.EarlyCut k) (mk : Nat × Nat → ResponseBody)
    (hdec : ∀ buffer, tryOrNull (ResponseFactory.decoder b.fc buffer) =
      (fields b.fc buffer).map mk)
    (hmk : IsUInt16 first → IsUInt16 second → mk (first.toNat, second.toNat) = b) :
    Framed b p := by
  rw [wordsPayload_eq] at hp
  split at hp
  · rename_i hrange
    obtain ⟨h₁, h₂⟩ := hrange
    obtain rfl := Except.ok.inj hp
    refine ⟨hcount, ⟨b, ?_, rfl⟩, ?_, fun k _ h => absurd h (hearly k)⟩
    · -- the decoder behind the function code reads both fields back
      have hfields := RequestBody.fields_payload b.fc h₁ h₂ []
      rw [List.append_nil] at hfields
      rw [ResponseFactory.fromBuffer_code, hdec, hfields, Option.map_some, hmk h₁ h₂]
    · intro k hk _
      cases k with
      | zero => rfl
      | succ k =>
        have hlen : (UInt8.ofNat b.fc.code ::
            (be16 first.toNat ++ be16 second.toNat).take k).length < 5 := by
          simp at hk ⊢
          omega
        rw [List.take_succ_cons, ResponseFactory.fromBuffer_code, hdec,
          RequestBody.fields_eq_none _ hlen, Option.map_none]
  · cases hp

/-- The decoders of the echoes, as functions of the two words. -/
theorem decoder_writeSingleCoil (buffer : Buffer) :
    tryOrNull (ResponseFactory.decoder .writeSingleCoil buffer) =
      (fields .writeSingleCoil buffer).map fun p =>
        writeSingleCoil { _address := p.1, _value := p.2 = 0xFF00 } := by
  rw [ResponseFactory.decoder, ResponseFactory.tryOrNull_map,
    WriteSingleCoilResponseBody.fromBuffer, tryOrNull_map_fields, Option.map_map]
  rfl

theorem decoder_writeSingleRegister (buffer : Buffer) :
    tryOrNull (ResponseFactory.decoder .writeSingleHoldingRegister buffer) =
      (fields .writeSingleHoldingRegister buffer).map fun p =>
        writeSingleRegister { _address := p.1, _value := p.2 } := by
  rw [ResponseFactory.decoder, ResponseFactory.tryOrNull_map,
    WriteSingleRegisterResponseBody.fromBuffer, tryOrNull_map_fields, Option.map_map]
  rfl

theorem decoder_writeMultipleCoils (buffer : Buffer) :
    tryOrNull (ResponseFactory.decoder .writeMultipleCoils buffer) =
      (fields .writeMultipleCoils buffer).map fun p =>
        writeMultipleCoils { _start := p.1, _quantity := p.2 } := by
  rw [ResponseFactory.decoder, ResponseFactory.tryOrNull_map,
    WriteMultipleCoilsResponseBody.fromBuffer, tryOrNull_map_fields, Option.map_map]
  rfl

theorem decoder_writeMultipleRegisters (buffer : Buffer) :
    tryOrNull (ResponseFactory.decoder .writeMultipleHoldingRegisters buffer) =
      (fields .writeMultipleHoldingRegisters buffer).map fun p =>
        writeMultipleRegisters { _start := p.1, _quantity := p.2 } := by
  rw [ResponseFactory.decoder, ResponseFactory.tryOrNull_map,
    WriteMultipleRegistersResponseBody.fromBuffer, tryOrNull_map_fields, Option.map_map]
  rfl

theorem framed_writeSingleCoil {r : WriteSingleCoilResponseBody} {p : Buffer}
    (hp : r.createPayload = .ok p) : Framed (.writeSingleCoil r) p := by
  refine framed_of_words (b := .writeSingleCoil r) hp rfl (fun _ => id)
    (fun p => .writeSingleCoil { _address := p.1, _value := p.2 = 0xFF00 })
    decoder_writeSingleCoil ?_
  intro h₁ _
  have hvalue : decide ((if r._value then (0xFF00 : Int) else 0x0000).toNat = 0xFF00) =
      r._value := by
    cases r._value <;> rfl
  simp only [Int.toNat_of_nonneg h₁.1, hvalue]

theorem framed_writeSingleRegister {r : WriteSingleRegisterResponseBody} {p : Buffer}
    (hp : r.createPayload = .ok p) : Framed (.writeSingleRegister r) p := by
  refine framed_of_words (b := .writeSingleRegister r) hp rfl (fun _ => id)
    (fun p => .writeSingleRegister { _address := p.1, _value := p.2 })
    decoder_writeSingleRegister ?_
  intro h₁ h₂
  simp only [Int.toNat_of_nonneg h₁.1, Int.toNat_of_nonneg h₂.1]

theorem framed_writeMultipleCoils {r : WriteMultipleCoilsResponseBody} {p : Buffer}
    (hp : r.createPayload = .ok p) : Framed (.writeMultipleCoils r) p := by
  refine framed_of_words (b := .writeMultipleCoils r) hp rfl (fun _ => id)
    (fun p => .writeMultipleCoils { _start := p.1, _quantity := p.2 })
    decoder_writeMultipleCoils ?_
  intro h₁ h₂
  simp only [Int.toNat_of_nonneg h₁.1, Int.toNat_of_nonneg h₂.1]

theorem framed_writeMultipleRegisters {r : WriteMultipleRegistersResponseBody} {p : Buffer}
    (hp : r.createPayload = .ok p) : Framed (.writeMultipleRegisters r) p := by
  refine framed_of_words (b := .writeMultipleRegisters r) hp rfl (fun _ => id)
    (fun p => .writeMultipleRegisters { _start := p.1, _quantity := p.2 })
    decoder_writeMultipleRegisters ?_
  intro h₁ h₂
  simp only [Int.toNat_of_nonneg h₁.1, Int.toNat_of_nonneg h₂.1]

/-! ## Read responses -/

/-- A payload of function code, number of bytes and data: cut short, it is missing
everything but the function code, or some of the data. -/
theorem take_counted (f n : UInt8) (data : Buffer) {k : Nat}
    (hk : k < (f :: n :: data).length) :
    (f :: n :: data).take k = [] ∨ (f :: n :: data).take k = [f] ∨
      ∃ j < data.length, k = j + 2 ∧ (f :: n :: data).take k = f :: n :: data.take j := by
  rcases k with _ | _ | j
  · exact .inl rfl
  · exact .inr (.inl rfl)
  · rw [List.length_cons, List.length_cons] at hk
    exact .inr (.inr ⟨j, by omega, rfl, rfl⟩)

theorem framed_readBits {fc : FC} {r : ReadBitsResponseBody} {p : Buffer}
    (mk : ReadBitsResponseBody → ResponseBody) (data : Buffer → ResponseContent)
    (hr : r.WellFormed) (hp : ReadBitsResponseBody.createPayload fc r = .ok p)
    (hcount : (mk r).byteCount = r.byteCount) (hearly : ∀ k, ¬ (mk r).EarlyCut k)
    (hcontent : ∀ b, (mk b).content = data b.valuesAsBuffer)
    (hdec : ∀ buffer, tryOrNull (ResponseFactory.decoder fc buffer) =
      (ReadBitsResponseBody.fromBuffer fc buffer).map mk) :
    Framed (mk r) p := by
  rw [ReadBitsResponseBody.createPayload_eq fc hr] at hp
  split at hp
  · rename_i hlen
    obtain rfl := Except.ok.inj hp
    have hfc : (UInt8.ofNat fc.code).toNat = fc.code :=
      toNat_ofNat_of_lt (by have := fc.code_le; omega)
    have hn : (UInt8.ofNat r.valuesAsBuffer.length).toNat = r.valuesAsBuffer.length :=
      toNat_ofNat_of_lt hlen
    refine ⟨?_, ⟨mk (.ofBuffer r.valuesAsBuffer r.valuesAsBuffer.length), ?_, ?_⟩,
      fun k hk _ => ?_, fun k _ h => absurd h (hearly k)⟩
    · rw [hcount, ReadBitsResponseBody.byteCount, hr.numberOfBytes]
      rfl
    · rw [ResponseFactory.fromBuffer_code, hdec, ReadBitsResponseBody.fromBuffer_cons, hn,
        if_pos ⟨hfc, Nat.le_refl _⟩, List.take_length, Option.map_some]
    · rw [hcontent, hcontent, ReadBitsResponseBody.ofBuffer]
    · -- with both header bytes there, the byte count is larger than what is left
      rcases take_counted _ _ _ hk with h | h | ⟨j, hj, -, h⟩
      · rw [h]
        rfl
      · rw [h, ResponseFactory.fromBuffer_code, hdec,
          ReadBitsResponseBody.fromBuffer_short (by simp), Option.map_none]
      · rw [h, ResponseFactory.fromBuffer_code, hdec, ReadBitsResponseBody.fromBuffer_cons, hn,
          if_neg, Option.map_none]
        rw [List.length_take]
        omega
  · cases hp

/-- The words of the bytes of whole words. -/
theorem words_bytes {values : RegisterValues} (h : values.IsWords) :
    2 * (words values.bytes).length = values.bytes.length := by
  rw [length_words]
  cases values with
  | array values =>
    rw [RegisterValues.bytes, length_ofWords]
    omega
  | buffer values =>
    have h' : values.length % 2 = 0 := h
    rw [RegisterValues.bytes]
    omega

theorem words_bytes_array {values : List Int} (h : ∀ v ∈ values, IsUInt16 v) :
    (words (RegisterValues.array values).bytes).map (↑) = values := by
  rw [RegisterValues.bytes, words_ofWords_toNat h]

/-- A holding register response of whole words: its fields. -/
theorem readHoldingRegisters_fields {r : ReadHoldingRegistersResponseBody}
    {values : RegisterValues} (hw : values.IsWords)
    (h : ReadHoldingRegistersResponseBody.new values.bytes.length values = .ok r) :
    r._byteCount = values.bytes.length ∧ r.values = values ∧
    r.byteCount = values.bytes.length + 2 ∧
      r.valuesAsArray = (words values.bytes).map (↑) := by
  cases values with
  | array values =>
    have hlen : (RegisterValues.array values).bytes.length = 2 * values.length := by
      rw [RegisterValues.bytes, length_ofWords, List.length_map]
    rw [ReadHoldingRegistersResponseBody.new_array _ hw] at h
    obtain rfl := Except.ok.inj h
    refine ⟨rfl, rfl, ?_, (words_bytes_array hw).symm⟩
    rw [hlen]
    show 2 + (values.length : Int) * 2 = _
    omega
  | buffer values =>
    rw [ReadHoldingRegistersResponseBody.new_buffer] at h
    obtain rfl := Except.ok.inj h
    exact ⟨rfl, rfl, Int.add_comm _ _, rfl⟩

/-- An input register response of whole words: its fields. -/
theorem readInputRegisters_fields {r : ReadInputRegistersResponseBody} {values : RegisterValues}
    {payload : Option Buffer} (hw : values.IsWords)
    (h : ReadInputRegistersResponseBody.new values.bytes.length values payload = .ok r) :
    r._byteCount = values.bytes.length ∧ r.values = values ∧
    r.byteCount = values.bytes.length + 2 ∧
      r.valuesAsArray = (words values.bytes).map (↑) := by
  cases values with
  | array values =>
    have hlen : (RegisterValues.array values).bytes.length = 2 * values.length := by
      rw [RegisterValues.bytes, length_ofWords, List.length_map]
    obtain rfl := Except.ok.inj h
    refine ⟨rfl, rfl, ?_, (words_bytes_array hw).symm⟩
    rw [hlen]
    show 2 + (values.length : Int) * 2 = _
    omega
  | buffer values =>
    rw [ReadInputRegistersResponseBody.new, readWords_half] at h
    obtain rfl := Except.ok.inj h
    exact ⟨rfl, rfl, Int.add_comm _ _, rfl⟩

theorem framed_readHoldingRegisters {r : ReadHoldingRegistersResponseBody} {p : Buffer}
    (hr : r.WellFormed) (hp : r.createPayload = .ok p) :
    Framed (.readHoldingRegisters r) p := by
  obtain ⟨values, hw, hnew⟩ := hr
  obtain ⟨hbytes, hvalues, hcount, harray⟩ := readHoldingRegisters_fields hw hnew
  rw [ReadHoldingRegistersResponseBody.createPayload, hbytes, hvalues, registersPayload_eq _ hw]
    at hp
  split at hp
  · rename_i hlen
    obtain rfl := Except.ok.inj hp
    have hfc : (UInt8.ofNat FC.readHoldingRegisters.code).toNat =
      FC.readHoldingRegisters.code := rfl
    have hn : (UInt8.ofNat values.bytes.length).toNat = values.bytes.length :=
      toNat_ofNat_of_lt hlen
    have hdec : ∀ buffer, tryOrNull (ResponseFactory.decoder .readHoldingRegisters buffer) =
        (tryOrNull (ReadHoldingRegistersResponseBody.fromBuffer buffer)).map
        readHoldingRegisters :=
      fun _ => ResponseFactory.tryOrNull_map _ _
    refine ⟨hcount, ⟨readHoldingRegisters (.ofBuffer values.bytes.length values.bytes), ?_, ?_⟩,
      fun k hk hearly => ?_, fun k hk hearly => ?_⟩
    · rw [ResponseFactory.fromBuffer_code, hdec,
        ReadHoldingRegistersResponseBody.fromBuffer_cons, if_pos hfc, hn, List.take_length,
        tryOrNull_ok, Option.map_some]
    · rw [content, content, harray, ReadHoldingRegistersResponseBody.ofBuffer]
    · rcases take_counted _ _ _ hk with h | h | ⟨j, -, rfl, -⟩
      · rw [h]
        rfl
      · rw [h, ResponseFactory.fromBuffer_code, hdec,
          ReadHoldingRegistersResponseBody.fromBuffer_short (by simp), Option.map_none]
      · exact absurd (show 2 ≤ j + 2 by omega) hearly
    · -- the data in front of the cut is taken for all of it
      have h2 : 2 ≤ k := hearly
      obtain ⟨j, rfl⟩ := Nat.exists_eq_add_of_le' h2
      have hj : j < values.bytes.length := by
        rw [List.length_cons, List.length_cons] at hk
        omega
      refine ⟨readHoldingRegisters (.ofBuffer values.bytes.length (values.bytes.take j)),
        ?_, ?_⟩
      · rw [List.take_succ_cons, List.take_succ_cons, ResponseFactory.fromBuffer_code, hdec,
          ReadHoldingRegistersResponseBody.fromBuffer_cons, if_pos hfc, hn, tryOrNull_ok,
          List.take_take, Nat.min_eq_right (Nat.le_of_lt hj), Option.map_some]
      · intro heq
        -- equal contents would have the same number of registers
        rw [content, content, harray, ReadHoldingRegistersResponseBody.ofBuffer] at heq
        have hsize := congrArg List.length (ResponseContent.readHoldingRegisters.inj heq)
        have hhalf := words_bytes hw
        rw [List.length_map, List.length_map, length_words, List.length_take] at hsize
        omega
  · cases hp

theorem framed_readInputRegisters {r : ReadInputRegistersResponseBody} {p : Buffer}
    (hr : r.WellFormed) (hp : r.createPayload = .ok p) : Framed (.readInputRegisters r) p := by
  obtain ⟨values, payload, hw, hnew⟩ := hr
  obtain ⟨hbytes, hvalues, hcount, harray⟩ := readInputRegisters_fields hw hnew
  rw [ReadInputRegistersResponseBody.createPayload, hbytes, hvalues, registersPayload_eq _ hw]
    at hp
  split at hp
  · rename_i hlen
    obtain rfl := Except.ok.inj hp
    have hfc : (UInt8.ofNat FC.readInputRegisters.code).toNat = FC.readInputRegisters.code :=
      rfl
    have hn : (UInt8.ofNat values.bytes.length).toNat = values.bytes.length :=
      toNat_ofNat_of_lt hlen
    have hhalf := words_bytes hw
    have hdec : ∀ buffer, tryOrNull (ResponseFactory.decoder .readInputRegisters buffer) =
        (tryOrNull (ReadInputRegistersResponseBody.fromBuffer buffer)).map readInputRegisters :=
      fun _ => ResponseFactory.tryOrNull_map _ _
    refine ⟨hcount, ⟨readInputRegisters (.ofPayload values.bytes.length values.bytes), ?_, ?_⟩,
      fun k hk _ => ?_, fun k _ h => absurd h id⟩
    · rw [ResponseFactory.fromBuffer_code, hdec,
        ReadInputRegistersResponseBody.fromBuffer_cons, hn,
        if_pos ⟨hfc, by omega, Nat.le_refl _⟩, List.take_length, Option.map_some]
    · rw [content, content, harray, ReadInputRegistersResponseBody.ofPayload]
    · rcases take_counted _ _ _ hk with h | h | ⟨j, hj, -, h⟩
      · rw [h]
        rfl
      · rw [h, ResponseFactory.fromBuffer_code, hdec,
          ReadInputRegistersResponseBody.fromBuffer_short (by simp), Option.map_none]
      · rw [h, ResponseFactory.fromBuffer_code, hdec,
          ReadInputRegistersResponseBody.fromBuffer_cons, hn, if_neg, Option.map_none]
        rw [List.length_take]
        omega
  · cases hp

/-! ## Device identification -/

theorem framed_readDeviceIdentification {r : ReadDeviceIdentificationResponseBody} {p : Buffer}
    (hp : r.createPayload = .ok p) : Framed (.readDeviceIdentification r) p := by
  have hread := ReadDeviceIdentificationResponseBody.fromBuffer_payload hp []
  have hcut := fun k hk => ReadDeviceIdentificationResponseBody.fromBuffer_take hp (k := k) hk
  rw [ReadDeviceIdentificationResponseBody.createPayload_eq] at hp
  split at hp
  · obtain rfl := Except.ok.inj hp
    refine ⟨r.byteCount_eq, ⟨readDeviceIdentification r, ?_, rfl⟩, fun k hk _ => ?_,
      fun k _ h => absurd h id⟩
    · rw [List.append_nil] at hread
      rw [ResponseFactory.fromBuffer_code, ResponseFactory.decoder, tryOrNull_ok, hread,
        Option.map_some]
    · have hnone := hcut k hk
      cases k with
      | zero => rfl
      | succ k =>
        rw [List.take_succ_cons] at hnone ⊢
        rw [ResponseFactory.fromBuffer_code, ResponseFactory.decoder, tryOrNull_ok, hnone,
          Option.map_none]
  · cases hp

/-! ## Exceptions -/

theorem framed_exception {r : ExceptionResponseBody} {p : Buffer}
    (hr : (exception r).WellFormed) (hp : r.createPayload = .ok p) :
    Framed (.exception r) p := by
  rw [ExceptionResponseBody.createPayload_eq] at hp
  split at hp
  · rename_i hrange
    obtain ⟨hcode, hmei⟩ := hrange
    obtain rfl := Except.ok.inj hp
    have hfc : FC.ofCode? (((UInt8.ofNat (r.fc.code + 0x80)).toNat : Int) - 0x80) =
        some r.fc := by
      have hle := r.fc.code_le
      rw [toNat_ofNat_of_lt (by omega)]
      simp
    have hdec : ∀ rest,
      ResponseFactory.fromBuffer (UInt8.ofNat (r.fc.code + 0x80) :: rest) = _ :=
      fun rest => (ResponseFactory.fromBuffer_exception r.fc rest).trans
        (congrArg (Option.map exception)
          (ExceptionResponseBody.fromBuffer_cons (UInt8.ofNat (r.fc.code + 0x80)) rest))
    simp only [hfc, Option.bind_some] at hdec
    obtain ⟨fc, code, meiType⟩ := r
    cases meiType with
    | none =>
      -- two bytes, with none of the cuts long enough to be decoded
      refine ⟨rfl, ⟨exception ⟨fc, code, none⟩, ?_, rfl⟩, fun k hk _ => ?_,
        fun k _ h => absurd rfl h.1⟩
      · simp only [ExceptionResponseBody.bytes, hdec, toNat_ofNat_of_isUInt8 hcode]
        rfl
      · rcases k with _ | _ | k
        · rfl
        · exact hdec []
        · have hk2 : k + 1 + 1 < 2 := hk
          omega
    | some meiType =>
      obtain rfl : fc = .readDeviceIdentification := hr (by simp)
      have hm := toNat_ofNat_of_isUInt8 (hmei meiType rfl)
      refine ⟨rfl, ⟨exception ⟨.readDeviceIdentification, code, some meiType⟩, ?_, rfl⟩,
        fun k hk hearly => ?_, fun k hk hearly => ?_⟩
      · simp only [ExceptionResponseBody.bytes, hdec, if_true, toNat_ofNat_of_isUInt8 hcode, hm]
        rfl
      · rcases k with _ | _ | _ | k
        · rfl
        · exact hdec []
        · exact absurd ⟨by simp, rfl⟩ hearly
        · have hk3 : k + 1 + 1 + 1 < 3 := hk
          omega
      · -- the MEI type is taken for the exception code
        obtain ⟨-, rfl⟩ := hearly
        exact ⟨_, hdec [UInt8.ofNat meiType.toNat], by simp [content]⟩
  · cases hp

/-! ## All bodies -/

/-- The payload of every well-formed body is framed. -/
theorem framed_of_wellFormed {b : ResponseBody} {p : Buffer} (hb : b.WellFormed)
    (hp : b.createPayload = .ok p) : Framed b p := by
  cases b with
  | readCoils r =>
    exact framed_readBits readCoils .readCoils hb hp rfl (fun _ => id) (fun _ => rfl)
      fun _ => rfl
  | readDiscreteInputs r =>
    exact framed_readBits readDiscreteInputs .readDiscreteInputs hb hp rfl (fun _ => id)
      (fun _ => rfl) fun _ => rfl
  | readHoldingRegisters r => exact framed_readHoldingRegisters hb hp
  | readInputRegisters r => exact framed_readInputRegisters hb hp
  | writeSingleCoil r => exact framed_writeSingleCoil hp
  | writeSingleRegister r => exact framed_writeSingleRegister hp
  | writeMultipleCoils r => exact framed_writeMultipleCoils hp
  | writeMultipleRegisters r => exact framed_writeMultipleRegisters hp
  | readDeviceIdentification r => exact framed_readDeviceIdentification hp
  | exception r => exact framed_exception hb hp

end ResponseBody

end NodeModbus

import NodeModbus.Request.Factory

/-!
# Request payloads, whole and cut short

What `RequestFactory.fromBuffer` makes of the payload of a request body: of the
whole payload, of the payload with more bytes behind it, and of the payload cut
at any place.

- `Sendable`: the bodies meant, FC 1 to 6, 15, 16 and 43 with the quantities the
  protocol allows.
- `Framed`, `framed_of_sendable`: a payload decodes to a body of the same content
  whatever follows it, and cut short it is refused, with one exception.
- `EarlyCut`: the exception. A write of several registers cut after a whole
  register, none included, is decoded as a write of the registers that are there.
-/

namespace NodeModbus

open Buffer Words

namespace RequestBody

/-- The bodies a client sends: FC 1 to 6 and 43, FC 15 for 1 to 1968 coils, FC 16 for 1 to 120
registers. -/
def Sendable : RequestBody → Prop
  | writeMultipleCoils b => b.Constructed ∧ 1 ≤ b.quantity ∧ b.quantity ≤ 1968
  | writeMultipleRegisters b => b.Constructed ∧ 1 ≤ b.quantity ∧ b.quantity ≤ 120
  | exception _ => False
  | _ => True

/-- The lengths at which a payload cut short is still decoded. -/
def EarlyCut : RequestBody → Nat → Prop
  | writeMultipleRegisters _, k => 6 ≤ k ∧ k % 2 = 0
  | _, _ => False

/-- What the factory makes of the payload `p` of a body, whole and cut short. -/
structure Framed (b : RequestBody) (p : Buffer) : Prop where
  byteCount : b.byteCount = p.length
  code : ∃ r, p = UInt8.ofNat b.fc.code :: r
  complete : ∀ rest, ∃ b', RequestFactory.fromBuffer (p ++ rest) = some b' ∧
    b'.content = b.content ∧ b'.byteCount = p.length
  refused : ∀ k < p.length, ¬ b.EarlyCut k → RequestFactory.fromBuffer (p.take k) = none
  early : ∀ k < p.length, b.EarlyCut k → ∃ b', RequestFactory.fromBuffer (p.take k) = some b' ∧
    b'.content ≠ b.content ∧ b'.byteCount = k

/-! ## Bodies of five bytes -/

theorem fields_payload (fc : FC) {first second : Int} (h₁ : IsUInt16 first)
    (h₂ : IsUInt16 second) (rest : Buffer) :
    fields fc (UInt8.ofNat fc.code :: (be16 first.toNat ++ be16 second.toNat) ++ rest) =
      some (first.toNat, second.toNat) := by
  have hfc : (UInt8.ofNat fc.code).toNat = fc.code :=
    toNat_ofNat_of_lt (by have := fc.code_le; omega)
  unfold IsUInt16 at h₁ h₂
  show (if (UInt8.ofNat fc.code).toNat = fc.code then
    some (u16 (UInt8.ofNat (first.toNat / 256)) (UInt8.ofNat (first.toNat % 256)),
      u16 (UInt8.ofNat (second.toNat / 256)) (UInt8.ofNat (second.toNat % 256))) else none) = _
  rw [if_pos hfc, u16_be16 (by omega), u16_be16 (by omega)]

theorem fields_eq_none (fc : FC) {buffer : Buffer} (h : buffer.length < 5) :
    fields fc buffer = none := by
  rcases buffer with _ | ⟨f, _ | ⟨a, _ | ⟨a', _ | ⟨v, _ | ⟨v', rest⟩⟩⟩⟩⟩
  case cons.cons.cons.cons.cons =>
    simp at h
    omega
  all_goals rfl

/-- A body of five bytes whose decoder is a constructor behind `fields`. -/
theorem framed_of_words {b : RequestBody} {p : Buffer} {first second : Int}
    (hp : wordsPayload b.fc first second = .ok p) (hcount : b.byteCount = 5)
    (hearly : ∀ k, ¬ b.EarlyCut k) (new : Nat × Nat → Option RequestBody)
    (hdec : ∀ buffer, RequestFactory.decoder b.fc buffer = (fields b.fc buffer).bind new)
    (hnew : IsUInt16 first → IsUInt16 second → new (first.toNat, second.toNat) = some b) :
    Framed b p := by
  rw [wordsPayload_eq] at hp
  split at hp
  · rename_i hrange
    obtain ⟨h₁, h₂⟩ := hrange
    obtain rfl := Except.ok.inj hp
    refine ⟨hcount, ⟨_, rfl⟩, fun rest => ⟨b, ?_, rfl, hcount⟩, fun k hk _ => ?_,
      fun k _ h => absurd h (hearly k)⟩
    · -- whole: both fields are read back, and the constructor takes them
      rw [List.cons_append, RequestFactory.fromBuffer_code, hdec, ← List.cons_append,
        fields_payload _ h₁ h₂, Option.bind_some, hnew h₁ h₂]
    · -- cut short: one of the two fields is missing
      cases k with
      | zero => rfl
      | succ k =>
        have hlen : (UInt8.ofNat b.fc.code ::
            (be16 first.toNat ++ be16 second.toNat).take k).length < 5 := by
          simp at hk ⊢
          omega
        rw [List.take_succ_cons, RequestFactory.fromBuffer_code, hdec, fields_eq_none _ hlen,
          Option.bind_none]
  · cases hp

theorem framed_readRequest (fc : FC) {r : ReadRequestBody} (mk : ReadRequestBody → RequestBody)
    {p : Buffer} (hfc : (mk r).fc = fc) (hp : wordsPayload fc r.start r.count = .ok p)
    (hcount : (mk r).byteCount = 5) (hearly : ∀ k, ¬ (mk r).EarlyCut k)
    (hdec : ∀ buffer, RequestFactory.decoder fc buffer =
      ((fields fc buffer).bind fun p => (ReadRequestBody.new p.1 p.2).toOption).map mk) :
    Framed (mk r) p := by
  subst hfc
  refine framed_of_words hp hcount hearly
    (fun p => ((ReadRequestBody.new p.1 p.2).toOption).map mk) (fun buffer => ?_)
    fun h₁ h₂ => ?_
  · rw [hdec, Option.map_bind]
    rfl
  · simp only [Int.toNat_of_nonneg h₁.1, Int.toNat_of_nonneg h₂.1, ReadRequestBody.new_self]
    rfl

theorem framed_writeSingleCoil {r : WriteSingleCoilRequestBody} {p : Buffer}
    (hp : r.createPayload = .ok p) : Framed (.writeSingleCoil r) p := by
  refine framed_of_words (b := .writeSingleCoil r) hp rfl (fun _ => id) (fun p =>
    ((WriteSingleCoilRequestBody.new p.1 (p.2 = 0xFF00)).toOption).map .writeSingleCoil)
    (fun buffer => ?_) fun h₁ _ => ?_
  · show (WriteSingleCoilRequestBody.fromBuffer buffer).map writeSingleCoil = _
    rw [WriteSingleCoilRequestBody.fromBuffer, ofFields_eq, fieldsFcLast_eq, Option.map_bind]
    rfl
  · have hvalue : decide ((if r._value then (0xFF00 : Int) else 0x0000).toNat = 0xFF00) =
        r._value := by
      cases r._value <;> rfl
    simp only [Int.toNat_of_nonneg h₁.1, hvalue, WriteSingleCoilRequestBody.new_self]
    rfl

theorem framed_writeSingleRegister {r : WriteSingleRegisterRequestBody} {p : Buffer}
    (hp : r.createPayload = .ok p) : Framed (.writeSingleRegister r) p := by
  refine framed_of_words (b := .writeSingleRegister r) hp rfl (fun _ => id) (fun p =>
    ((WriteSingleRegisterRequestBody.new p.1 p.2).toOption).map .writeSingleRegister)
    (fun buffer => ?_) fun h₁ h₂ => ?_
  · show (WriteSingleRegisterRequestBody.fromBuffer buffer).map writeSingleRegister = _
    rw [WriteSingleRegisterRequestBody.fromBuffer, ofFields_eq, fieldsFcLast_eq,
      Option.map_bind]
    rfl
  · simp only [Int.toNat_of_nonneg h₁.1, Int.toNat_of_nonneg h₂.1,
      WriteSingleRegisterRequestBody.new_self]
    rfl

/-! ## Device identification -/

theorem framed_readDeviceIdentification {r : ReadDeviceIdentificationRequestBody} {p : Buffer}
    (hp : r.createPayload = .ok p) : Framed (.readDeviceIdentification r) p := by
  rw [ReadDeviceIdentificationRequestBody.createPayload_eq] at hp
  obtain rfl := Except.ok.inj hp
  refine ⟨rfl, ⟨_, rfl⟩, fun rest => ⟨.readDeviceIdentification r, ?_, rfl, rfl⟩,
    fun k hk _ => ?_, fun _ _ h => absurd h id⟩
  · have hbody : ReadDeviceIdentificationRequestBody.fromBuffer ([UInt8.ofNat 43,
        UInt8.ofNat r.meiType.toNat, UInt8.ofNat r.readDeviceIdCode.toNat,
        UInt8.ofNat r.objectId.toNat] ++ rest) = some r := by
      rw [ReadDeviceIdentificationRequestBody.fromBuffer_eq]
      simp only [List.cons_append, List.nil_append, toNat_ofNat_of_isUInt8 r.meiType_range,
        toNat_ofNat_of_isUInt8 r.readDeviceIdCode_range,
        toNat_ofNat_of_isUInt8 r.objectId_range]
      rfl
    rw [List.cons_append, show (43 : Nat) = FC.readDeviceIdentification.code from rfl,
      RequestFactory.fromBuffer_code]
    exact congrArg (Option.map readDeviceIdentification) hbody
  · have hshort : k = 0 ∨ k = 1 ∨ k = 2 ∨ k = 3 := by
      simp at hk
      omega
    rcases hshort with rfl | rfl | rfl | rfl <;> rfl

/-! ## Multiple writes -/

/-- The factory on the front of a coil write, whatever data bytes are there. -/
theorem fromBuffer_writeMultipleCoils {a q c : Nat} (ha : a < 65536) (hq : q < 65536)
    (hc : c < 256) (data : Buffer) :
    RequestFactory.fromBuffer (UInt8.ofNat FC.writeMultipleCoils.code ::
        (be16 a ++ (be16 q ++ UInt8.ofNat c :: data))) =
      if q ≤ 8 * (data.take c).length then
        some (writeMultipleCoils (WriteMultipleCoilsRequestBody.ofBuffer a (data.take c) q))
      else none := by
  rw [RequestFactory.fromBuffer_code]
  show (WriteMultipleCoilsRequestBody.fromBuffer (_ :: _ :: _ :: _ :: _ :: _ :: data)).map
    writeMultipleCoils = _
  rw [WriteMultipleCoilsRequestBody.fromBuffer_cons, u16_be16 ha, u16_be16 hq,
    toNat_ofNat_of_lt hc]
  by_cases h : q ≤ 8 * (data.take c).length
  · rw [if_pos ⟨rfl, h⟩, if_pos h]
    rfl
  · rw [if_neg fun h' => h h'.2, if_neg h]
    rfl

/-- The factory on the front of a register write, whatever data bytes are there. -/
theorem fromBuffer_writeMultipleRegisters {a q c : Nat} (ha : a < 65536) (hc : c < 256)
    (data : Buffer) :
    RequestFactory.fromBuffer (UInt8.ofNat FC.writeMultipleHoldingRegisters.code ::
        (be16 a ++ (be16 q ++ UInt8.ofNat c :: data))) =
      if (data.take c).length ≤ 246 ∧ (data.take c).length % 2 = 0 then
        some (writeMultipleRegisters
          (WriteMultipleRegistersRequestBody.ofBuffer a (data.take c)))
      else none := by
  rw [RequestFactory.fromBuffer_code]
  show (WriteMultipleRegistersRequestBody.fromBuffer (_ :: _ :: _ :: _ :: _ :: _ :: data)).map
    writeMultipleRegisters = _
  rw [WriteMultipleRegistersRequestBody.fromBuffer_cons, u16_be16 ha, toNat_ofNat_of_lt hc]
  by_cases h : (data.take c).length ≤ 246 ∧ (data.take c).length % 2 = 0
  · rw [if_pos ⟨rfl, h⟩, if_pos h]
    rfl
  · rw [if_neg fun h' => h h'.2, if_neg h]
    rfl

/-- Six bytes are needed to decode a multiple write. -/
theorem fromBuffer_take_multiple {fc : FC}
    (hfc : fc = .writeMultipleCoils ∨ fc = .writeMultipleHoldingRegisters) (r : Buffer)
    {k : Nat} (hk : k < 6) :
    RequestFactory.fromBuffer ((UInt8.ofNat fc.code :: r).take k) = none := by
  cases k with
  | zero => rfl
  | succ k =>
    have hlen : (UInt8.ofNat fc.code :: r.take k).length < 6 := by
      simp
      omega
    rw [List.take_succ_cons, RequestFactory.fromBuffer_code]
    rcases hfc with rfl | rfl
    · exact congrArg (Option.map writeMultipleCoils)
        (WriteMultipleCoilsRequestBody.fromBuffer_short hlen)
    · exact congrArg (Option.map writeMultipleRegisters)
        (WriteMultipleRegistersRequestBody.fromBuffer_short hlen)

/-- A cut behind the sixth byte of a multiple write cuts the data. -/
theorem take_header (f c : UInt8) (a q k : Nat) (data : Buffer) :
    (f :: (be16 a ++ (be16 q ++ c :: data))).take (k + 6) =
      f :: (be16 a ++ (be16 q ++ c :: data.take k)) := rfl

theorem append_header (f c : UInt8) (a q : Nat) (data rest : Buffer) :
    f :: (be16 a ++ (be16 q ++ c :: data)) ++ rest =
      f :: (be16 a ++ (be16 q ++ c :: (data ++ rest))) := rfl

theorem length_header (f c : UInt8) (a q : Nat) (data : Buffer) :
    (f :: (be16 a ++ (be16 q ++ c :: data))).length = data.length + 6 := rfl

/-- The payload of a coherent coil write. -/
theorem payload_writeMultipleCoils {r : WriteMultipleCoilsRequestBody} {n : Nat}
    (hc : r.Coherent n) (ha : IsUInt16 r.address) (hle : n ≤ 1968) :
    r.createPayload = .ok (UInt8.ofNat FC.writeMultipleCoils.code ::
      (be16 r.address.toNat ++ (be16 n ++
        UInt8.ofNat ((n + 7) / 8) :: r.valuesAsBuffer.take ((n + 7) / 8)))) := by
  have hpay := WriteMultipleCoilsRequestBody.createPayload_eq ha
    (by rw [hc.quantity]; exact isUInt16_natCast (by omega)) hc.numberOfBytes
    (by omega) hc.byteCount hc.length_le
  rw [hc.quantity, Int.toNat_natCast] at hpay
  exact hpay

/-- What is read back of it, whatever follows: the byte count cuts the data off. -/
theorem fromBuffer_payload_writeMultipleCoils {a n : Nat} {data : Buffer} (ha : a < 65536)
    (hle : n ≤ 1968) (hlen : data.length = (n + 7) / 8) (rest : Buffer) :
    RequestFactory.fromBuffer (UInt8.ofNat FC.writeMultipleCoils.code ::
        (be16 a ++ (be16 n ++ UInt8.ofNat ((n + 7) / 8) :: data)) ++ rest) =
      some (writeMultipleCoils (WriteMultipleCoilsRequestBody.ofBuffer a data n)) := by
  have htake : (data ++ rest).take ((n + 7) / 8) = data := List.take_left' hlen
  rw [append_header, fromBuffer_writeMultipleCoils ha (by omega) (by omega), htake,
    if_pos (by omega)]

/-- What is read back has the content that was sent: the padding bits of the last byte are
behind the quantity. -/
theorem content_writeMultipleCoils {r : WriteMultipleCoilsRequestBody} {n : Nat}
    (hc : r.Coherent n) (hpos : 1 ≤ n) :
    (writeMultipleCoils (.ofBuffer r.address (r.valuesAsBuffer.take ((n + 7) / 8)) n)).content =
      (writeMultipleCoils r).content := by
  rw [WriteMultipleCoilsRequestBody.ofBuffer_eq _ _ (by omega)]
  simp only [content, hc.quantity, hc.valuesAsArray, Bits.unpack_take, List.take_take]
  rw [Nat.min_eq_left (by omega)]

theorem framed_writeMultipleCoils {r : WriteMultipleCoilsRequestBody} {p : Buffer}
    (hr : Sendable (.writeMultipleCoils r)) (hp : r.createPayload = .ok p) :
    Framed (.writeMultipleCoils r) p := by
  obtain ⟨hcon, hpos, hle⟩ := hr
  have hc := hcon.coherent hpos hle
  have ha := (WriteMultipleCoilsRequestBody.ranges_of_createPayload hp).1
  obtain ⟨n, hn⟩ : ∃ n : Nat, r.quantity = n := ⟨r.quantity.toNat, by omega⟩
  rw [hn, Int.toNat_natCast] at hc
  have hpay := payload_writeMultipleCoils hc ha (by omega)
  rw [hp] at hpay
  obtain rfl := Except.ok.inj hpay
  have hlen : (r.valuesAsBuffer.take ((n + 7) / 8)).length = (n + 7) / 8 := by
    rw [List.length_take, Nat.min_eq_left hc.length_le]
  have ha' : r.address.toNat < 65536 := by
    unfold IsUInt16 at ha
    omega
  refine ⟨?_, ⟨_, rfl⟩, fun rest => ⟨writeMultipleCoils (.ofBuffer r.address
    (r.valuesAsBuffer.take ((n + 7) / 8)) n), ?_, content_writeMultipleCoils hc (by omega), ?_⟩,
    fun k hk _ => ?_, fun _ _ h => absurd h id⟩
  · rw [length_header, hlen]
    exact hc.byteCount
  · rw [fromBuffer_payload_writeMultipleCoils ha' (by omega) hlen, Int.toNat_of_nonneg ha.1]
  · rw [WriteMultipleCoilsRequestBody.ofBuffer_eq _ _ (by omega), length_header, hlen]
    rfl
  · rcases Nat.lt_or_ge k 6 with hk6 | hk6
    · exact fromBuffer_take_multiple (.inl rfl) _ hk6
    · obtain ⟨j, rfl⟩ : ∃ j, k = j + 6 := ⟨k - 6, by omega⟩
      rw [length_header, hlen] at hk
      -- fewer data bytes than the quantity needs
      rw [take_header, fromBuffer_writeMultipleCoils ha' (by omega) (by omega), if_neg]
      simp only [List.length_take]
      omega

/-- The payload of a register write of any size. -/
theorem payload_writeMultipleRegisters {r : WriteMultipleRegistersRequestBody} {n : Nat}
    (hs : r.Sized n) (ha : IsUInt16 r.address) :
    r.createPayload = .ok (UInt8.ofNat FC.writeMultipleHoldingRegisters.code ::
      (be16 r.address.toNat ++ (be16 n ++ UInt8.ofNat (2 * n) :: r.valuesAsBuffer))) := by
  have hle := hs.le
  have hpay := WriteMultipleRegistersRequestBody.createPayload_eq ha
    (by rw [hs.quantity]; exact isUInt16_natCast (by omega)) hs.numberOfBytes
    (by omega) hs.length_eq
  rw [hs.quantity, Int.toNat_natCast] at hpay
  exact hpay

/-- What is read back of it, whatever follows. -/
theorem fromBuffer_payload_writeMultipleRegisters {a n : Nat} {data : Buffer} (ha : a < 65536)
    (hle : n ≤ 123) (hlen : data.length = 2 * n) (rest : Buffer) :
    RequestFactory.fromBuffer (UInt8.ofNat FC.writeMultipleHoldingRegisters.code ::
        (be16 a ++ (be16 n ++ UInt8.ofNat (2 * n) :: data)) ++ rest) =
      some (writeMultipleRegisters (WriteMultipleRegistersRequestBody.ofBuffer a data)) := by
  rw [append_header, fromBuffer_writeMultipleRegisters ha (by omega), List.take_left' hlen,
    if_pos (by omega)]

/-- What is read back has the content that was sent. -/
theorem content_writeMultipleRegisters {r : WriteMultipleRegistersRequestBody} {n : Nat}
    (hs : r.Sized n) :
    (writeMultipleRegisters (.ofBuffer r.address r.valuesAsBuffer)).content =
      (writeMultipleRegisters r).content := by
  simp only [content, WriteMultipleRegistersRequestBody.ofBuffer, hs.quantity, hs.valuesAsArray,
    hs.length_eq]
  rw [Nat.mul_div_cancel_left n (by decide)]

theorem framed_writeMultipleRegisters {r : WriteMultipleRegistersRequestBody} {p : Buffer}
    (hr : Sendable (.writeMultipleRegisters r)) (hp : r.createPayload = .ok p) :
    Framed (.writeMultipleRegisters r) p := by
  obtain ⟨hcon, hpos, hle⟩ := hr
  have ha := WriteMultipleRegistersRequestBody.address_of_createPayload hp
  obtain ⟨n, hn⟩ : ∃ n : Nat, r.quantity = n := ⟨r.quantity.toNat, by omega⟩
  have hs := hcon.sized
  rw [hn, Int.toNat_natCast] at hs
  have hc := hs.coherent (by omega)
  have hpay := payload_writeMultipleRegisters hs ha
  rw [hp] at hpay
  obtain rfl := Except.ok.inj hpay
  have ha' : r.address.toNat < 65536 := by
    unfold IsUInt16 at ha
    omega
  have hlen := hc.length_eq
  refine ⟨?_, ⟨_, rfl⟩, fun rest =>
    ⟨writeMultipleRegisters (.ofBuffer r.address r.valuesAsBuffer),
    ?_, content_writeMultipleRegisters hs, ?_⟩, fun k hk hearly => ?_, fun k hk hearly => ?_⟩
  · rw [length_header, hlen]
    exact hc.byteCount
  · rw [fromBuffer_payload_writeMultipleRegisters ha' (by omega) hlen, Int.toNat_of_nonneg ha.1]
  · rw [length_header, hlen]
    show min ((r.valuesAsBuffer.length : Int) + 6) 0xF6 = _
    omega
  · rcases Nat.lt_or_ge k 6 with hk6 | hk6
    · exact fromBuffer_take_multiple (.inr rfl) _ hk6
    · obtain ⟨j, rfl⟩ : ∃ j, k = j + 6 := ⟨k - 6, by omega⟩
      rw [length_header, hlen] at hk
      -- a cut inside a register leaves an odd number of data bytes
      have hodd : ¬ (j + 6) % 2 = 0 := fun h => hearly ⟨by omega, h⟩
      rw [take_header, fromBuffer_writeMultipleRegisters ha' (by omega), if_neg]
      simp only [List.length_take]
      omega
  · -- the registers in front of the cut are taken for the whole request
    obtain ⟨j, rfl⟩ : ∃ j, k = j + 6 := ⟨k - 6, by have := hearly.1; omega⟩
    have heven : (j + 6) % 2 = 0 := hearly.2
    rw [length_header, hlen] at hk
    have hdata : ((r.valuesAsBuffer.take j).take (2 * n)).length = j := by
      simp only [List.length_take]
      omega
    refine ⟨writeMultipleRegisters
      (.ofBuffer r.address ((r.valuesAsBuffer.take j).take (2 * n))),
      ?_, ?_, ?_⟩
    · rw [take_header, fromBuffer_writeMultipleRegisters ha' (by omega), if_pos (by omega),
        Int.toNat_of_nonneg ha.1]
    · intro heq
      simp only [content, WriteMultipleRegistersRequestBody.ofBuffer,
        RequestContent.writeMultipleRegisters.injEq, hdata, hc.quantity] at heq
      omega
    · show min ((((r.valuesAsBuffer.take j).take (2 * n)).length : Int) + 6) 0xF6 = _
      rw [hdata]
      omega

/-! ## All bodies -/

/-- The payload of every body that is sent is framed. -/
theorem framed_of_sendable {b : RequestBody} {p : Buffer} (hb : b.Sendable)
    (hp : b.createPayload = .ok p) : Framed b p := by
  cases b with
  | readCoils r =>
    exact framed_readRequest .readCoil readCoils rfl hp rfl (fun _ => id) fun buffer => by
      rw [← fieldsFcFirst_eq, ← ofFields_eq]
      rfl
  | readDiscreteInputs r =>
    exact framed_readRequest .readDiscreteInput readDiscreteInputs rfl hp rfl (fun _ => id)
      fun buffer => by
        rw [← fieldsFcFirst_eq, ← ofFields_eq]
        rfl
  | readHoldingRegisters r =>
    exact framed_readRequest .readHoldingRegisters readHoldingRegisters rfl hp rfl (fun _ => id)
      fun buffer => by
        rw [← fieldsFcLast_eq, ← ofFields_eq]
        rfl
  | readInputRegisters r =>
    exact framed_readRequest .readInputRegisters readInputRegisters rfl hp rfl (fun _ => id)
      fun buffer => by
        rw [← fieldsFcLast_eq, ← ofFields_eq]
        rfl
  | writeSingleCoil r => exact framed_writeSingleCoil hp
  | writeSingleRegister r => exact framed_writeSingleRegister hp
  | writeMultipleCoils r => exact framed_writeMultipleCoils hb hp
  | writeMultipleRegisters r => exact framed_writeMultipleRegisters hb hp
  | readDeviceIdentification r => exact framed_readDeviceIdentification hp
  | exception r => exact absurd hb id

/-- The length of a payload follows from the content. -/
theorem Framed.length_eq {b : RequestBody} {p : Buffer} (h : Framed b p) :
    b.content.byteCount = p.length := by
  obtain ⟨b', hb', hcontent, hcount⟩ := h.complete []
  rw [← hcontent, ← RequestFactory.byteCount_eq hb', hcount]

/-- The longest payload is that of a write of 1968 coils. -/
theorem Framed.length_le {b : RequestBody} {p : Buffer} (h : Framed b p) (hb : b.Sendable) :
    p.length ≤ 252 := by
  have hlen := h.length_eq
  cases b with
  | writeMultipleCoils r =>
    have hle := hb.2.2
    simp only [content, RequestContent.byteCount, ceilDiv8] at hlen
    omega
  | writeMultipleRegisters r =>
    simp only [content, RequestContent.byteCount] at hlen
    omega
  | exception r => exact absurd hb id
  | _ =>
    simp only [content, RequestContent.byteCount] at hlen
    omega

end RequestBody

end NodeModbus

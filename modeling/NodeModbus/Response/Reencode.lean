import NodeModbus.Response.Factory

/-!
# Responses encoded again

Whether the body the response factory makes of a byte string encodes to the bytes it was
made of.

- `EchoesCoilValue`: a write single coil response carries one of the two values there are.
- `readDeviceIdentification_prefixFree`: device identification bodies are told apart from
  anything shorter, and from what follows them.
- `reencodes_iff_echoesCoilValue`: what is decoded encodes to its own bytes if and only if
  that is so.
-/

namespace NodeModbus

open Buffer Words

namespace ResponseFactory

/-- The answer to a write single coil request says "on" or "off". -/
def EchoesCoilValue : Buffer → Prop
  | f :: _ :: _ :: v :: v' :: _ =>
    f.toNat = FC.writeSingleCoil.code → u16 v v' = 0xFF00 ∨ u16 v v' = 0x0000
  | _ => True

/-! ## Read responses -/

theorem reencodes_readBits {fc : FC} {f : UInt8} (hf : f.toNat = fc.code) {rest : Buffer}
    {r : ReadBitsResponseBody} (h : ReadBitsResponseBody.fromBuffer fc (f :: rest) = some r) :
    Reencodes (f :: rest) r.byteCount (ReadBitsResponseBody.createPayload fc r) := by
  rcases rest with _ | ⟨n, data⟩
  · rw [ReadBitsResponseBody.fromBuffer_short (by simp)] at h
    cases h
  rw [ReadBitsResponseBody.fromBuffer_cons] at h
  split at h
  · rename_i hdata
    obtain rfl := Option.some.inj h
    have hn := n.toNat_lt
    have hlen : (data.take n.toNat).length = n.toNat := by
      rw [List.length_take]
      omega
    have hwell : (ReadBitsResponseBody.ofBuffer (data.take n.toNat) n.toNat).WellFormed := by
      refine ⟨.buffer (data.take n.toNat), ?_⟩
      show ReadBitsResponseBody.new _ ((data.take n.toNat).length : Nat) = _
      rw [hlen, ReadBitsResponseBody.new_buffer]
    have hpayload := ReadBitsResponseBody.createPayload_eq fc hwell
    have hbytes : (ReadBitsResponseBody.ofBuffer (data.take n.toNat) n.toNat).valuesAsBuffer =
        data.take n.toNat := rfl
    rw [hbytes, hlen, if_pos (by omega), ofNat_code hf, UInt8.ofNat_toNat] at hpayload
    constructor
    · show (n.toNat : Int) + 2 ≤ (f :: n :: data).length
      simp only [List.length_cons]
      omega
    · rw [hpayload]
      rfl
  · cases h

theorem reencodes_readHoldingRegisters {f : UInt8} (hf : f.toNat = FC.readHoldingRegisters.code)
    {rest : Buffer} {r : ReadHoldingRegistersResponseBody}
    (h : tryOrNull (ReadHoldingRegistersResponseBody.fromBuffer (f :: rest)) = some r) :
    Reencodes (f :: rest) r.byteCount r.createPayload := by
  rcases rest with _ | ⟨n, data⟩
  · rw [ReadHoldingRegistersResponseBody.fromBuffer_short (by simp)] at h
    cases h
  rw [ReadHoldingRegistersResponseBody.fromBuffer_cons, if_pos hf, tryOrNull_ok] at h
  obtain rfl := Option.some.inj h
  have hn := n.toNat_lt
  have hlen : (data.take n.toNat).length = min n.toNat data.length := List.length_take
  have hpayload : (ReadHoldingRegistersResponseBody.ofBuffer n.toNat
      (data.take n.toNat)).createPayload = .ok (f :: n :: data.take n.toNat) := by
    have halloc : Buffer.alloc 2 = .ok [0, 0] := rfl
    have hcounted := writeCounted .readHoldingRegisters n.toNat [] fun payload =>
      .ok (payload ++ data.take n.toNat)
    rw [if_pos hn, ofNat_code hf, UInt8.ofNat_toNat] at hcounted
    show registersPayload _ _ (.buffer _) = _
    rw [registersPayload, halloc]
    exact hcounted
  -- the byte count is that of the data that is there
  have hcount :
      (ReadHoldingRegistersResponseBody.ofBuffer n.toNat (data.take n.toNat)).byteCount =
      (min n.toNat data.length + 2 : Nat) := by
    show 2 + ((data.take n.toNat).length : Int) = _
    omega
  have htake : (f :: n :: data).take (min n.toNat data.length + 2) =
      f :: n :: data.take n.toNat := by
    rw [List.take_succ_cons, List.take_succ_cons, ← List.take_eq_take_min]
  rw [Reencodes, hpayload, hcount, Int.toNat_natCast, htake]
  simp only [List.length_cons]
  exact ⟨by omega, trivial⟩

/-- The bytes of the words of an even number of bytes. -/
theorem bytes_words {payload : Buffer} (h : payload.length % 2 = 0) :
    (RegisterValues.array ((words payload).map (↑))).bytes = payload := by
  have hcast : ∀ w ∈ words payload, (Int.toNat ∘ fun n : Nat => (n : Int)) w = id w :=
    fun _ _ => rfl
  rw [RegisterValues.bytes, List.map_map, List.map_congr_left hcast, List.map_id,
    ofWords_words_take, List.take_of_length_le (by omega)]

theorem reencodes_readInputRegisters {f : UInt8} (hf : f.toNat = FC.readInputRegisters.code)
    {rest : Buffer} {r : ReadInputRegistersResponseBody}
    (h : tryOrNull (ReadInputRegistersResponseBody.fromBuffer (f :: rest)) = some r) :
    Reencodes (f :: rest) r.byteCount r.createPayload := by
  rcases rest with _ | ⟨n, data⟩
  · rw [ReadInputRegistersResponseBody.fromBuffer_short (by simp)] at h
    cases h
  rw [ReadInputRegistersResponseBody.fromBuffer_cons] at h
  split at h
  · rename_i hdata
    obtain ⟨-, heven, hroom⟩ := hdata
    obtain rfl := Option.some.inj h
    have hn := n.toNat_lt
    have hlen : (data.take n.toNat).length = n.toNat := by
      rw [List.length_take]
      omega
    have hbytes := @bytes_words (data.take n.toNat) (by omega)
    have hwords : (RegisterValues.array ((words (data.take n.toNat)).map (↑))).IsWords := by
      intro v hv
      obtain ⟨w, hw, rfl⟩ := List.mem_map.mp hv
      exact isUInt16_natCast (words_lt _ w hw)
    have hpayload := registersPayload_eq .readInputRegisters hwords
    rw [hbytes, hlen, if_pos hn, ofNat_code hf, UInt8.ofNat_toNat] at hpayload
    have hcount :
        (ReadInputRegistersResponseBody.ofPayload n.toNat (data.take n.toNat)).byteCount =
        (n.toNat + 2 : Nat) := by
      show 2 + ((words (data.take n.toNat)).length : Int) * 2 = _
      rw [length_words]
      omega
    rw [Reencodes, hcount, Int.toNat_natCast]
    simp only [List.length_cons]
    exact ⟨by omega, hpayload⟩
  · cases h

/-! ## Write echoes -/

/-- The bytes behind a function code that a write echo was made of. -/
theorem exists_echo {α : Type} {fc : FC} {f : UInt8} {rest : Buffer} {mk : Nat × Nat → α}
    {r : α} (h : (fields fc (f :: rest)).map mk = some r) :
    ∃ a a' v v' tail, rest = a :: a' :: v :: v' :: tail ∧ r = mk (u16 a a', u16 v v') := by
  obtain ⟨p, hp, rfl⟩ := Option.map_eq_some_iff.mp h
  obtain ⟨a, a', v, v', tail, hrest, rfl⟩ := fields_eq_some hp
  exact ⟨a, a', v, v', tail, hrest, rfl⟩

/-! ## Device identification -/

theorem reencodes_readDeviceIdentification {buffer : Buffer}
    {r : ReadDeviceIdentificationResponseBody}
    (h : ReadDeviceIdentificationResponseBody.fromBuffer buffer = some r) :
    Reencodes buffer r.byteCount r.createPayload := by
  rcases buffer with _ | ⟨f, _ | ⟨m, _ | ⟨d, _ | ⟨c, _ | ⟨w, _ | ⟨n, _ | ⟨k, data⟩⟩⟩⟩⟩⟩⟩
  case cons.cons.cons.cons.cons.cons.cons =>
    rw [ReadDeviceIdentificationResponseBody.fromBuffer_cons] at h
    split at h
    · rename_i hf
      obtain ⟨objects, hparse, rfl⟩ := Option.map_eq_some_iff.mp h
      obtain ⟨hlen, tail, rfl⟩ :=
        ReadDeviceIdentificationResponseBody.parseObjects_eq_some hparse
      have hk := k.toNat_lt
      have hpayload := ReadDeviceIdentificationResponseBody.createPayload_eq
        (.ofObjects m d c w n objects)
      simp only [ReadDeviceIdentificationResponseBody.ofObjects, hlen, if_pos hk, ofNat_code hf,
        Int.toNat_natCast, UInt8.ofNat_toNat] at hpayload
      rw [Reencodes, ReadDeviceIdentificationResponseBody.byteCount_eq, Int.toNat_natCast]
      constructor
      · simp only [ReadDeviceIdentificationResponseBody.ofObjects, List.length_cons,
          List.length_append]
        omega
      · refine hpayload.trans (congrArg Except.ok ?_)
        simp only [ReadDeviceIdentificationResponseBody.ofObjects, List.take_succ_cons,
          List.take_left]
    · cases h
  all_goals
    rw [ReadDeviceIdentificationResponseBody.fromBuffer_short (by simp)] at h
    cases h

/-- The bytes of device identification bodies are a code in which no word is a prefix of
another: the payload of a body with at most 255 objects is as long as its byte count, it is
read back whatever follows it, and no shorter front of it is read as anything; what is read
was encoded in just the bytes that were looked at. -/
theorem readDeviceIdentification_prefixFree :
    (∀ r : ReadDeviceIdentificationResponseBody, r.objects.length ≤ 255 →
      ∃ p, r.createPayload = .ok p ∧ r.byteCount = p.length ∧
        (∀ rest, ReadDeviceIdentificationResponseBody.fromBuffer (p ++ rest) = some r) ∧
        ∀ q, q <+: p → q ≠ p → ReadDeviceIdentificationResponseBody.fromBuffer q = none) ∧
    ∀ b r, ReadDeviceIdentificationResponseBody.fromBuffer b = some r →
      Reencodes b r.byteCount r.createPayload := by
  constructor
  · intro r hlen
    have hp := r.createPayload_eq.trans (if_pos (by omega))
    refine ⟨_, hp, r.byteCount_eq,
      ReadDeviceIdentificationResponseBody.fromBuffer_payload hp, ?_⟩
    intro q hq hne
    have hshorter : q.length < List.length _ :=
      Nat.lt_of_le_of_ne hq.length_le fun hl => hne (hq.eq_of_length hl)
    rw [List.prefix_iff_eq_take.mp hq]
    exact ReadDeviceIdentificationResponseBody.fromBuffer_take hp hshorter
  · intro b r h
    exact reencodes_readDeviceIdentification h

/-- A body with one object, the vendor name `A`, with a byte behind its payload. -/
theorem readDeviceIdentification_prefixFree_vendorName :
    ∃ (r : ReadDeviceIdentificationResponseBody) (p : Buffer),
      r.objects.map DeviceIdentificationObject.value = [[0x41]] ∧ r.createPayload = .ok p ∧
        ReadDeviceIdentificationResponseBody.fromBuffer (p ++ [0x2B]) = some r := by
  obtain ⟨p, hp, -, hread, -⟩ := readDeviceIdentification_prefixFree.1
    ⟨0x0E, 1, 1, 0, 0,
      [⟨0, [0x41], by decide, by decide⟩], by decide, by decide, by decide, by decide,
      by decide⟩ (by decide)
  exact ⟨_, p, rfl, hp, hread _⟩

/-! ## Exceptions -/

/-- The payload of an exception whose fields are bytes. -/
theorem exception_payload {fc : FC} {f : UInt8} (hf : (f.toNat : Int) - 0x80 = fc.code)
    (x : UInt8) (meiType : Option UInt8) :
    ExceptionResponseBody.createPayload
        { fc, code := x.toNat, meiType := meiType.map fun m => (m.toNat : Int) } =
      .ok (f :: (meiType.toList ++ [x])) := by
  have hcode : UInt8.ofNat (fc.code + 0x80) = f := by
    rw [show fc.code + 0x80 = f.toNat from by omega, UInt8.ofNat_toNat]
  rw [ExceptionResponseBody.createPayload_eq, if_pos]
  · cases meiType <;> simp [ExceptionResponseBody.bytes, hcode]
  · refine ⟨isUInt8_toNat x, ?_⟩
    intro m hm
    obtain ⟨m, -, rfl⟩ := Option.map_eq_some_iff.mp hm
    exact isUInt8_toNat m

theorem reencodes_exception {f : UInt8} {rest : Buffer} {r : ExceptionResponseBody}
    (h : tryOrNull (ExceptionResponseBody.fromBuffer (f :: rest)) = some r) :
    Reencodes (f :: rest) r.byteCount r.createPayload := by
  rw [ExceptionResponseBody.fromBuffer_cons] at h
  obtain ⟨fc, hfc, h⟩ := Option.bind_eq_some_iff.mp h
  have hf : (f.toNat : Int) - 0x80 = fc.code := FC.code_of_ofCode? hfc
  rcases rest with _ | ⟨x, _ | ⟨y, rest⟩⟩
  · cases h
  · obtain rfl := Option.some.inj h
    exact ⟨Int.le_refl _, exception_payload hf x none⟩
  · have hlen : (3 : Int) ≤ (f :: x :: y :: rest).length := by
      simp only [List.length_cons]
      omega
    -- the MEI type is read behind function code 43 only
    by_cases hmei : fc = .readDeviceIdentification
    · simp only [if_pos hmei] at h
      obtain rfl := Option.some.inj h
      exact ⟨hlen, exception_payload hf y (some x)⟩
    · simp only [if_neg hmei] at h
      obtain rfl := Option.some.inj h
      have htwo : (2 : Int) ≤ (f :: x :: y :: rest).length := by omega
      exact ⟨htwo, exception_payload hf x none⟩

/-! ## All bodies -/

/-- A response of a function code other than that of a coil write has no coil value. -/
theorem echoesCoilValue_of_ne {f : UInt8} (hf : f.toNat ≠ FC.writeSingleCoil.code)
    (rest : Buffer) : EchoesCoilValue (f :: rest) := by
  rcases rest with _ | ⟨a, _ | ⟨a', _ | ⟨v, _ | ⟨v', tail⟩⟩⟩⟩
  case cons.cons.cons.cons => exact fun h => absurd h hf
  all_goals trivial

/-- A decoder by function code: what it makes encodes to its bytes, but for a coil value. -/
theorem reencodes_decoder_iff {fc : FC} {f : UInt8} (hf : f.toNat = fc.code) {rest : Buffer}
    {body : ResponseBody} (h : tryOrNull (decoder fc (f :: rest)) = some body) :
    Reencodes (f :: rest) body.byteCount body.createPayload ↔ EchoesCoilValue (f :: rest) := by
  cases fc with
  | readCoil =>
    obtain ⟨r, hr, rfl⟩ := Option.map_eq_some_iff.mp h
    exact iff_of_true (reencodes_readBits hf hr)
      (echoesCoilValue_of_ne (by rw [hf]; decide) rest)
  | readDiscreteInput =>
    obtain ⟨r, hr, rfl⟩ := Option.map_eq_some_iff.mp h
    exact iff_of_true (reencodes_readBits hf hr)
      (echoesCoilValue_of_ne (by rw [hf]; decide) rest)
  | readHoldingRegisters =>
    rw [decoder, tryOrNull_map] at h
    obtain ⟨r, hr, rfl⟩ := Option.map_eq_some_iff.mp h
    exact iff_of_true (reencodes_readHoldingRegisters hf hr)
      (echoesCoilValue_of_ne (by rw [hf]; decide) rest)
  | readInputRegisters =>
    rw [decoder, tryOrNull_map] at h
    obtain ⟨r, hr, rfl⟩ := Option.map_eq_some_iff.mp h
    exact iff_of_true (reencodes_readInputRegisters hf hr)
      (echoesCoilValue_of_ne (by rw [hf]; decide) rest)
  | readDeviceIdentification =>
    obtain ⟨r, hr, rfl⟩ := Option.map_eq_some_iff.mp h
    exact iff_of_true (reencodes_readDeviceIdentification hr)
      (echoesCoilValue_of_ne (by rw [hf]; decide) rest)
  | writeSingleCoil =>
    rw [decoder, tryOrNull_map] at h
    obtain ⟨r, hr, rfl⟩ := Option.map_eq_some_iff.mp h
    rw [WriteSingleCoilResponseBody.fromBuffer, tryOrNull_map_fields] at hr
    obtain ⟨a, a', v, v', tail, rfl, rfl⟩ := exists_echo hr
    refine (reencodes_coil_iff hf a a' v v' tail).trans ?_
    exact ⟨fun hvalue _ => hvalue, fun hvalue => hvalue hf⟩
  | writeSingleHoldingRegister =>
    rw [decoder, tryOrNull_map] at h
    obtain ⟨r, hr, rfl⟩ := Option.map_eq_some_iff.mp h
    rw [WriteSingleRegisterResponseBody.fromBuffer, tryOrNull_map_fields] at hr
    obtain ⟨a, a', v, v', tail, rfl, rfl⟩ := exists_echo hr
    exact iff_of_true (reencodes_words hf a a' v v' tail)
      (echoesCoilValue_of_ne (by rw [hf]; decide) _)
  | writeMultipleCoils =>
    rw [decoder, tryOrNull_map] at h
    obtain ⟨r, hr, rfl⟩ := Option.map_eq_some_iff.mp h
    rw [WriteMultipleCoilsResponseBody.fromBuffer, tryOrNull_map_fields] at hr
    obtain ⟨a, a', v, v', tail, rfl, rfl⟩ := exists_echo hr
    exact iff_of_true (reencodes_words hf a a' v v' tail)
      (echoesCoilValue_of_ne (by rw [hf]; decide) _)
  | writeMultipleHoldingRegisters =>
    rw [decoder, tryOrNull_map] at h
    obtain ⟨r, hr, rfl⟩ := Option.map_eq_some_iff.mp h
    rw [WriteMultipleRegistersResponseBody.fromBuffer, tryOrNull_map_fields] at hr
    obtain ⟨a, a', v, v', tail, rfl, rfl⟩ := exists_echo hr
    exact iff_of_true (reencodes_words hf a a' v v' tail)
      (echoesCoilValue_of_ne (by rw [hf]; decide) _)

/-- What the factory makes of a byte string encodes to its bytes if and only if a coil value
in it is "on" or "off". -/
theorem reencodes_iff_echoesCoilValue {buffer : Buffer} {body : ResponseBody}
    (h : fromBuffer buffer = some body) :
    Reencodes buffer body.byteCount body.createPayload ↔ EchoesCoilValue buffer := by
  rcases buffer with _ | ⟨f, rest⟩
  · cases h
  rw [fromBuffer_cons] at h
  split at h
  · -- the function code of an exception is not that of a coil write
    rename_i hexception
    obtain ⟨r, hr, rfl⟩ := Option.map_eq_some_iff.mp h
    have hne : f.toNat ≠ FC.writeSingleCoil.code := by
      have hcode : FC.writeSingleCoil.code = 5 := rfl
      omega
    exact iff_of_true (reencodes_exception hr) (echoesCoilValue_of_ne hne rest)
  · obtain ⟨fc, hfc, hbody⟩ := Option.bind_eq_some_iff.mp h
    exact reencodes_decoder_iff (by exact_mod_cast FC.code_of_ofCode? hfc) hbody

end ResponseFactory

end NodeModbus

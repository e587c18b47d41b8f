import NodeModbus.Request.Constructible

/-!
# What the constructors accept, and what can be encoded

A constructor checks some of its arguments. The other checks are made when the body
is encoded, by the writes to its buffer.

- `Encodes`: whatever a call of a constructor makes can be encoded.
- `encodes_iff`, one for each constructor: the arguments for which this holds. They are
  refused, or they are in range; what is accepted and not in range is a negative address
  or count, and more than 2040 coils.
-/

namespace NodeModbus

open Buffer

/-- Whatever a call of a constructor makes can be encoded. -/
def Encodes {α : Type} (encode : α → Except Thrown Buffer) (made : Except Thrown α) : Prop :=
  ∀ b, made = .ok b → ∃ p, encode b = .ok p

section Encodes

variable {α β : Type} {encode : α → Except Thrown Buffer}

theorem encodes_error (encode : α → Except Thrown Buffer) (e : Thrown) :
    Encodes encode (.error e) :=
  fun _ h => nomatch h

theorem encodes_ok_iff {b : α} : Encodes encode (.ok b) ↔ ∃ p, encode b = .ok p :=
  ⟨fun h => h b rfl, fun h _ hb => Except.ok.inj hb ▸ h⟩

theorem map_eq_ok {f : α → β} {made : Except Thrown α} {b : β} (h : made.map f = .ok b) :
    ∃ a, made = .ok a ∧ f a = b := by
  cases made with
  | error e => cases h
  | ok a => exact ⟨a, rfl, Except.ok.inj h⟩

/-- The body is put into a larger type. -/
theorem encodes_map_iff (encode : β → Except Thrown Buffer) (mk : α → β)
    (made : Except Thrown α) :
    Encodes encode (made.map mk) ↔ Encodes (fun b => encode (mk b)) made := by
  cases made with
  | error e => exact iff_of_true (encodes_error _ _) (encodes_error _ _)
  | ok b =>
    have hok : Encodes (fun b => encode (mk b)) (.ok b) ↔ ∃ p, encode (mk b) = .ok p :=
      encodes_ok_iff
    exact Iff.trans encodes_ok_iff hok.symm

end Encodes

/-! ## Bodies of a fixed length -/

/-- A read request: negative starts and counts are accepted. -/
theorem ReadRequestBody.encodes_iff (fc : FC) (start count : Int) :
    Encodes (fun b => wordsPayload fc b.start b.count) (ReadRequestBody.new start count) ↔
      start > 0xFFFF ∨ count > 0x7D0 ∨ (0 ≤ start ∧ 0 ≤ count) := by
  rw [ReadRequestBody.new]
  by_cases hs : start > 0xFFFF
  · rw [dif_pos hs]
    exact iff_of_true (encodes_error _ _) (.inl hs)
  rw [dif_neg hs]
  by_cases hc : count > 0x7D0
  · rw [dif_pos hc]
    exact iff_of_true (encodes_error _ _) (.inr (.inl hc))
  rw [dif_neg hc, encodes_ok_iff, exists_wordsPayload_iff]
  show IsUInt16 start ∧ IsUInt16 count ↔ _
  unfold IsUInt16
  omega

/-- A single coil: a negative address is accepted. -/
theorem WriteSingleCoilRequestBody.encodes_iff (address : Int) (value : Bool) :
    Encodes createPayload (new address value) ↔ 0 ≤ address := by
  rw [new]
  by_cases ha : address > 0xFFFF
  · rw [dif_pos ha]
    exact iff_of_true (encodes_error _ _) (by omega)
  rw [dif_neg ha, encodes_ok_iff, createPayload, exists_wordsPayload_iff,
    and_iff_left (isUInt16_coilValue _)]
  show IsUInt16 address ↔ _
  unfold IsUInt16
  omega

/-- A single register: a negative address is accepted, when the value is a word. -/
theorem WriteSingleRegisterRequestBody.encodes_iff (address value : Int) :
    Encodes createPayload (new address value) ↔ 0 ≤ address ∨ ¬ IsUInt16 value := by
  rw [new]
  by_cases ha : address > 0xFFFF
  · rw [dif_pos ha]
    exact iff_of_true (encodes_error _ _) (.inl (by omega))
  rw [dif_neg ha]
  by_cases hv : value < 0 ∨ value > 0xFFFF
  · rw [dif_pos hv]
    refine iff_of_true (encodes_error _ _) (.inr ?_)
    unfold IsUInt16
    omega
  rw [dif_neg hv, encodes_ok_iff, createPayload, exists_wordsPayload_iff]
  show IsUInt16 address ∧ IsUInt16 value ↔ _
  unfold IsUInt16
  omega

/-- Every device identification request that is made can be encoded. -/
theorem ReadDeviceIdentificationRequestBody.encodes
    (made : Except Thrown ReadDeviceIdentificationRequestBody) : Encodes createPayload made :=
  fun b _ => ⟨_, b.createPayload_eq⟩

/-! ## Multiple coils -/

namespace WriteMultipleCoilsRequestBody

/-- A body whose sizes come from its quantity. The byte count of the data has to fit a byte. -/
theorem exists_createPayload_iff {b : WriteMultipleCoilsRequestBody}
    (hn : b.numberOfBytes = ceilDiv8 b.quantity) (hb : b.byteCount = ceilDiv8 b.quantity + 6)
    (hlen : b.quantity ≤ 8 * b.valuesAsBuffer.length) :
    (∃ p, b.createPayload = .ok p) ↔ IsUInt16 b.address ∧ 0 ≤ b.quantity ∧
    b.quantity ≤ 2040 := by
  constructor
  · rintro ⟨p, hp⟩
    obtain ⟨ha, hq, hbytes⟩ := ranges_of_createPayload hp
    rw [hn] at hbytes
    unfold ceilDiv8 IsUInt8 at hbytes
    exact ⟨ha, hq.1, by omega⟩
  · rintro ⟨ha, hpos, hle⟩
    obtain ⟨n, hquantity⟩ := Int.eq_ofNat_of_zero_le hpos
    have hq : IsUInt16 b.quantity := ⟨hpos, by omega⟩
    rw [hquantity, ceilDiv8_natCast] at hn hb
    exact ⟨_, createPayload_eq ha hq hn (by omega) hb (by omega)⟩

/-- An array: a negative address is accepted, and so are up to 15744 coils. -/
theorem encodes_array_iff (unsafeBytes : Nat → UInt8) (address : Int) (values : List Bool) :
    Encodes createPayload (new unsafeBytes address (.array values) none) ↔
      address > 0xFFFF ∨ values.length > 15744 ∨ (0 ≤ address ∧ values.length ≤ 2040) := by
  rw [new_array_eq]
  by_cases ha : address > 0xFFFF
  · rw [if_pos ha]
    exact iff_of_true (encodes_error _ _) (.inl ha)
  rw [if_neg ha]
  by_cases hl : values.length > 0x07b0 * 8
  · rw [if_pos hl]
    exact iff_of_true (encodes_error _ _) (.inr (.inl hl))
  rw [if_neg hl, encodes_ok_iff, exists_createPayload_iff]
  · show IsUInt16 address ∧ 0 ≤ (values.length : Int) ∧ (values.length : Int) ≤ 2040 ↔ _
    unfold IsUInt16
    omega
  · exact (ceilDiv8_natCast _).symm
  · rw [← ceilDiv8_natCast]
  · show (values.length : Int) ≤ 8 * (packedBytes unsafeBytes values).length
    rw [length_packedBytes]
    omega

/-- A buffer: a negative address is accepted, and so is a negative quantity. -/
theorem encodes_buffer_iff (unsafeBytes : Nat → UInt8) (address : Int) (values : Buffer)
    (quantity : Int) :
    Encodes createPayload (new unsafeBytes address (.buffer values) (some quantity)) ↔
      address > 0xFFFF ∨ values.length > 1968 ∨ 8 * values.length < quantity ∨
        (0 ≤ address ∧ 0 ≤ quantity ∧ quantity ≤ 2040) := by
  rw [new_buffer_eq]
  dsimp only
  by_cases ha : address > 0xFFFF
  · rw [if_pos ha]
    exact iff_of_true (encodes_error _ _) (.inl ha)
  rw [if_neg ha]
  by_cases hrefused : values.length > 0x07b0 ∨ values.length * 8 < quantity
  · rw [if_pos hrefused]
    refine iff_of_true (encodes_error _ _) ?_
    omega
  rw [if_neg hrefused, encodes_ok_iff, exists_createPayload_iff rfl rfl]
  · -- with the quantity 0 the length of the buffer is taken, which is never too large
    show IsUInt16 address ∧ 0 ≤ (if quantity = 0 then (values.length : Int) else quantity) ∧
      (if quantity = 0 then (values.length : Int) else quantity) ≤ 2040 ↔ _
    unfold IsUInt16
    split <;> omega
  · show (if quantity = 0 then (values.length : Int) else quantity) ≤ 8 * values.length
    split <;> omega

/-- The byte count of what is made is that of the data, and the header. -/
theorem Constructed.byteCount {b : WriteMultipleCoilsRequestBody} (h : b.Constructed) :
    b.byteCount = b.numberOfBytes + 6 := by
  cases h with
  | @array unsafeBytes address values _ h =>
    rw [new_array_eq] at h
    split_ifs at h
    cases h
    rfl
  | buffer h =>
    rw [new_buffer_eq] at h
    dsimp only at h
    split_ifs at h <;> cases h <;> rfl

end WriteMultipleCoilsRequestBody

/-! ## Multiple registers -/

namespace WriteMultipleRegistersRequestBody

/-- What is made of registers can be encoded when its address can. -/
theorem Sized.exists_createPayload_iff {b : WriteMultipleRegistersRequestBody} {n : Nat}
    (h : b.Sized n) : (∃ p, b.createPayload = .ok p) ↔ IsUInt16 b.address :=
  ⟨fun ⟨_, hp⟩ => address_of_createPayload hp,
    fun ha => ⟨_, RequestBody.payload_writeMultipleRegisters h ha⟩⟩

/-- An array: a negative address is accepted, when the values are words. -/
theorem encodes_array_iff (address : Int) (values : List Int) :
    Encodes createPayload (new address (.array values)) ↔
      0 ≤ address ∨ values.length > 123 ∨ ∃ v ∈ values, ¬ IsUInt16 v := by
  constructor
  · intro hencodes
    by_contra hno
    have hwords : ∀ v ∈ values, IsUInt16 v := by
      intro v hv
      by_contra hv'
      exact hno (.inr (.inr ⟨v, hv, hv'⟩))
    have hnew := @new_array address values (by omega) (by omega) hwords
    obtain ⟨p, hp⟩ := hencodes _ hnew
    exact hno (.inl (address_of_createPayload hp).1)
  · intro h b hb
    obtain ⟨haddress, ha, hl, hwords⟩ := accepted_of_array hb
    rw [(sized_of_array hb).exists_createPayload_iff, haddress]
    rcases h with h | h | ⟨v, hv, hv'⟩
    · exact ⟨h, ha⟩
    · omega
    · exact absurd (hwords v hv) hv'

/-- A buffer: a negative address is accepted, when the buffer is one of whole words. -/
theorem encodes_buffer_iff (address : Int) (values : Buffer) :
    Encodes createPayload (new address (.buffer values)) ↔
      0 ≤ address ∨ values.length > 246 ∨ values.length % 2 ≠ 0 := by
  constructor
  · intro hencodes
    by_contra hno
    have hnew := @new_buffer address values (by omega)
    rw [if_pos (by omega)] at hnew
    obtain ⟨p, hp⟩ := hencodes _ (eq_ok_of_toOption hnew)
    exact hno (.inl (address_of_createPayload hp).1)
  · intro h b hb
    have hs := sized_of_buffer hb
    obtain ⟨rfl, ha, hl, heven⟩ := accepted_of_buffer hb
    rw [hs.exists_createPayload_iff]
    show IsUInt16 address
    unfold IsUInt16
    omega

end WriteMultipleRegistersRequestBody

end NodeModbus

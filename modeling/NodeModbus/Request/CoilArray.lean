import NodeModbus.Request.Encodable
import NodeModbus.BufferUtils

/-!
# Coil arrays in requests

What the payload of a write multiple coils request has of the array it was made
of. The constructor packs at most 1968 coils, but counts all of them, and makes
room for all of them in a buffer that is not initialised.

- `createPayload_array`: the payload of any array that has one.
- `packedCompletely_iff`: the payload is that of the packed array exactly up to
  1968 coils.
-/

namespace NodeModbus

open Buffer Words

namespace WriteMultipleCoilsRequestBody

/-- The payload for an array of coils is determined by the address and the array: its fields
are the address, the number of coils and of data bytes, the data bytes are the coils, padded
with zeros, and the buffer that holds the same bits has the same payload. -/
def PackedCompletely (address : Int) (values : List Bool) : Prop :=
  ∃ payload : Buffer,
    (∀ unsafeBytes, ∃ b, new unsafeBytes address (.array values) none = .ok b ∧
      b.createPayload = .ok payload) ∧
    payload.length = 6 + (values.length + 7) / 8 ∧
    payload.readUInt16BE 1 = .ok address.toNat ∧
    payload.readUInt16BE 3 = .ok values.length ∧
    payload.readUInt8 5 = .ok ((values.length + 7) / 8) ∧
    (∀ i, Bits.bitAt (payload.drop 6) i = values.getD i false) ∧
    ∀ packed unsafeBytes, BufferUtils.arrayStatusToBuffer values = .ok packed →
      ∃ b, new unsafeBytes address (.buffer packed) (some values.length) = .ok b ∧
        b.createPayload = .ok payload

/-- The payload with some data bytes. -/
def payloadWith (address quantity : Nat) (data : Buffer) : Buffer :=
  UInt8.ofNat FC.writeMultipleCoils.code :: (be16 address ++ (be16 quantity ++
    UInt8.ofNat ((quantity + 7) / 8) :: data))

/-- The body and the payload of an array of at most 2040 coils. -/
theorem exists_createPayload_array (unsafeBytes : Nat → UInt8) {address : Int}
    (ha : IsUInt16 address) {values : List Bool} (hlen : values.length ≤ 2040) :
    ∃ b, new unsafeBytes address (.array values) none = .ok b ∧
      b.createPayload =
        .ok (payloadWith address.toNat values.length (packedBytes unsafeBytes values)) := by
  have ha' := ha
  unfold IsUInt16 at ha'
  refine ⟨_, (new_array_eq ..).trans (by rw [if_neg (by omega), if_neg (by omega)]), ?_⟩
  rw [createPayload_eq (n := (values.length + 7) / 8) ha (isUInt16_natCast (by omega)) rfl
    (by omega) rfl (by rw [length_packedBytes])]
  rw [List.take_of_length_le (by rw [length_packedBytes]), Int.toNat_natCast]
  rfl

/-- An array with a payload is in range, and its data bytes are those the constructor left
in the buffer. -/
theorem createPayload_array {unsafeBytes : Nat → UInt8} {address : Int} {values : List Bool}
    {b : WriteMultipleCoilsRequestBody} {p : Buffer}
    (hnew : new unsafeBytes address (.array values) none = .ok b)
    (hp : b.createPayload = .ok p) :
    IsUInt16 address ∧ values.length ≤ 2040 ∧
      p = payloadWith address.toNat values.length (packedBytes unsafeBytes values) := by
  obtain ⟨ha, _, hbytes⟩ := ranges_of_createPayload hp
  have hin : IsUInt16 address ∧ values.length ≤ 2040 := by
    rw [new_array_eq] at hnew
    split_ifs at hnew
    cases hnew
    refine ⟨ha, ?_⟩
    have hbytes' : IsUInt8 ((values.length + 7) / 8 : Nat) := hbytes
    unfold IsUInt8 at hbytes'
    omega
  obtain ⟨b', hnew', hp'⟩ := exists_createPayload_array unsafeBytes hin.1 hin.2
  rw [hnew] at hnew'
  obtain rfl := Except.ok.inj hnew'
  rw [hp] at hp'
  exact ⟨hin.1, hin.2, Except.ok.inj hp'⟩

/-- The payload for the buffer that holds the same bits. -/
theorem exists_createPayload_pack (unsafeBytes : Nat → UInt8) {address : Int}
    {values : List Bool} (ha : IsUInt16 address) (hlen : values.length ≤ 2040) :
    ∃ b, new unsafeBytes address (.buffer (Bits.pack values)) (some values.length) = .ok b ∧
      b.createPayload = .ok (payloadWith address.toNat values.length (Bits.pack values)) := by
  have ha' := ha
  unfold IsUInt16 at ha'
  have htotal : (if values.length = 0 then (Bits.pack values).length else values.length) =
      values.length := by
    rw [Bits.length_pack]
    split <;> omega
  refine ⟨_, (new_buffer _ ha'.2 (by rw [Bits.length_pack]; omega)).trans
    (if_neg (by rw [Bits.length_pack]; omega)), ?_⟩
  rw [createPayload_eq (n := (values.length + 7) / 8) ha
    (isUInt16_natCast (by rw [htotal]; omega)) (by rw [ofBuffer, htotal, ceilDiv8_natCast])
    (by omega) (by rw [ofBuffer, htotal, ceilDiv8_natCast])
    (by rw [ofBuffer, Bits.length_pack])]
  simp only [ofBuffer, htotal, Int.toNat_natCast]
  rw [List.take_of_length_le (by rw [Bits.length_pack])]
  rfl

/-- Up to 1968 coils everything is packed. -/
theorem packedCompletely_of_le {address : Int} {values : List Bool} (ha : IsUInt16 address)
    (hlen : values.length ≤ 1968) : PackedCompletely address values := by
  have haddress : address.toNat < 65536 := by
    unfold IsUInt16 at ha
    omega
  refine ⟨payloadWith address.toNat values.length (Bits.pack values), ?_, ?_, ?_, ?_,
    ?_, ?_, ?_⟩
  · intro unsafeBytes
    have hpayload :=
      exists_createPayload_array unsafeBytes ha (show values.length ≤ 2040 by omega)
    rwa [packedBytes_of_le unsafeBytes hlen] at hpayload
  · simp [payloadWith]
    omega
  · refine (readUInt16BE_append [UInt8.ofNat FC.writeMultipleCoils.code] _ _ _).trans ?_
    rw [u16_be16 haddress]
  · refine (readUInt16BE_append (UInt8.ofNat FC.writeMultipleCoils.code :: be16 address.toNat) _
      _ _).trans ?_
    rw [u16_be16 (by omega)]
  · refine (readUInt8_append (UInt8.ofNat FC.writeMultipleCoils.code :: (be16 address.toNat ++
      be16 values.length)) _ _).trans ?_
    rw [toNat_ofNat_of_lt (by omega)]
  · intro i
    exact Bits.bitAt_pack values i
  · intro packed unsafeBytes hpacked
    rw [BufferUtils.arrayStatusToBuffer_eq] at hpacked
    obtain rfl := Except.ok.inj hpacked
    exact exists_createPayload_pack unsafeBytes ha (by omega)

/-- Behind the packed coils the buffer is what it was. -/
theorem getElem?_packedBytes (unsafeBytes : Nat → UInt8) {values : List Bool}
    (hlen : 1968 < values.length) :
    (packedBytes unsafeBytes values)[246]? = some (unsafeBytes 246) := by
  have hpack : (Bits.pack (values.take 1968)).length = 246 := by
    rw [Bits.length_pack, List.length_take]
    omega
  rw [packedBytes, List.getElem?_append_right (by omega), hpack, List.getElem?_drop,
    List.getElem?_map, List.getElem?_range (by omega)]
  rfl

/-- Of more than 1968 coils the payload has bytes that were in memory before. -/
theorem not_packedCompletely {address : Int} {values : List Bool}
    (hlen : 1968 < values.length) : ¬ PackedCompletely address values := by
  rintro ⟨payload, harray, _⟩
  have hdata : ∀ unsafeBytes, payload =
      payloadWith address.toNat values.length (packedBytes unsafeBytes values) := by
    intro unsafeBytes
    obtain ⟨b, hnew, hp⟩ := harray unsafeBytes
    exact (createPayload_array hnew hp).2.2
  -- the buffer may have been zero, or all ones
  have heq := (hdata fun _ => 0).symm.trans (hdata fun _ => 0xFF)
  simp only [payloadWith, List.cons.injEq, List.append_cancel_left_eq, true_and] at heq
  have hbyte := getElem?_packedBytes (fun _ => 0) hlen
  rw [heq, getElem?_packedBytes (fun _ => 0xFF) hlen] at hbyte
  exact absurd (Option.some.inj hbyte) (by decide)

/-- Of the arrays the constructor accepts and that have a payload, those up to 1968 coils
are packed completely, and no longer one is. -/
theorem packedCompletely_iff {unsafeBytes : Nat → UInt8} {address : Int} {values : List Bool}
    {b : WriteMultipleCoilsRequestBody} {p : Buffer}
    (hnew : new unsafeBytes address (.array values) none = .ok b)
    (hp : b.createPayload = .ok p) :
    PackedCompletely address values ↔ values.length ≤ 1968 := by
  obtain ⟨ha, _, _⟩ := createPayload_array hnew hp
  constructor
  · intro hpacked
    by_contra hlen
    exact not_packedCompletely (by omega) hpacked
  · intro hlen
    exact packedCompletely_of_le ha hlen

/-- The ten coils of the two bytes `0xCD`, `0x01`. -/
theorem packedCompletely_iff_ten : ∃ b p,
    new (fun _ => 0x5A) 19
      (.array [true, false, true, true, false, false, true, true, true, false]) none =
      .ok b ∧ b.createPayload = .ok p ∧
    PackedCompletely 19 [true, false, true, true, false, false, true, true, true, false] := by
  obtain ⟨b, hnew, hp⟩ := @exists_createPayload_array (fun _ => 0x5A) 19 (by decide)
    [true, false, true, true, false, false, true, true, true, false] (by decide)
  exact ⟨b, _, hnew, hp, (packedCompletely_iff hnew hp).mpr (by decide)⟩

/-- One coil more than are packed: the last data byte is whatever was in memory. -/
theorem not_packedCompletely_at_1969 :
    (∃ b p, new (fun _ => 0x5A) 0 (.array (List.replicate 1969 true)) none = .ok b ∧
      b.createPayload = .ok p) ∧ ¬ PackedCompletely 0 (List.replicate 1969 true) := by
  constructor
  · obtain ⟨b, hnew, hp⟩ := @exists_createPayload_array (fun _ => 0x5A) 0 (by decide)
      (List.replicate 1969 true) (by rw [List.length_replicate]; omega)
    exact ⟨b, _, hnew, hp⟩
  · exact not_packedCompletely (by rw [List.length_replicate]; omega)

end WriteMultipleCoilsRequestBody

end NodeModbus

import NodeModbus.Request.Factory

/-!
# Requests encoded again

Whether the body the request factory makes of a byte string encodes to the bytes
it was made of.

- `Understood`: the byte count of the body is there, and its payload is that many
  bytes of the string.
- `Consistent`: the redundant fields on the wire agree. A coil value is one of the
  two there are, and the byte count of a multiple write is what its quantity
  needs, with all the registers there and not more than 120 of them.
- `understood_iff`: what is decoded encodes to its own bytes if and only if its
  fields are consistent.
-/

namespace NodeModbus

open Buffer Words

namespace RequestFactory

/-- What should hold of every byte string: a body that is made of it encodes to its bytes. -/
def Understood (buffer : Buffer) : Prop :=
  ∀ body, fromBuffer buffer = some body → Reencodes buffer body.byteCount body.createPayload

/-- The redundant fields behind a function code agree. -/
def ConsistentFields (fc : FC) (fields : Buffer) : Prop :=
  match fc with
  | .writeSingleCoil =>
    match fields with
    | _ :: _ :: v :: v' :: _ => u16 v v' = 0xFF00 ∨ u16 v v' = 0x0000
    | _ => True
  | .writeMultipleCoils =>
    match fields with
    | _ :: _ :: q :: q' :: n :: _ => n.toNat = (u16 q q' + 7) / 8
    | _ => True
  | .writeMultipleHoldingRegisters =>
    match fields with
    | _ :: _ :: q :: q' :: n :: data =>
      n.toNat = 2 * u16 q q' ∧ n.toNat ≤ 240 ∧ n.toNat ≤ data.length
    | _ => True
  | _ => True

/-- The redundant fields of a request agree. -/
def Consistent : Buffer → Prop
  | [] => True
  | f :: rest => ∀ fc, FC.ofCode? f.toNat = some fc → ConsistentFields fc rest

/-! ## Bodies of five bytes -/

theorem reencodes_readRequest {fc : FC} {f : UInt8} (hf : f.toNat = fc.code) {rest : Buffer}
    {r : ReadRequestBody} (mk : ReadRequestBody → RequestBody) (hcount : (mk r).byteCount = 5)
    (hpayload : (mk r).createPayload = wordsPayload fc r.start r.count)
    (h : ((fields fc (f :: rest)).bind fun p => (ReadRequestBody.new p.1 p.2).toOption) =
      some r) :
    Reencodes (f :: rest) (mk r).byteCount (mk r).createPayload := by
  obtain ⟨p, hp, hnew⟩ := Option.bind_eq_some_iff.mp h
  obtain ⟨a, a', v, v', tail, rfl, rfl⟩ := fields_eq_some hp
  obtain ⟨hs, hc⟩ := ReadRequestBody.new_eq_ok (eq_ok_of_toOption hnew)
  rw [hcount, hpayload, hs, hc]
  exact reencodes_words hf a a' v v' tail

theorem reencodes_writeSingleCoil_iff {f : UInt8} (hf : f.toNat = FC.writeSingleCoil.code)
    {rest : Buffer} {r : WriteSingleCoilRequestBody}
    (h : WriteSingleCoilRequestBody.fromBuffer (f :: rest) = some r) :
    Reencodes (f :: rest) 5 r.createPayload ↔ ConsistentFields .writeSingleCoil rest := by
  rw [WriteSingleCoilRequestBody.fromBuffer, ofFields_eq, fieldsFcLast_eq] at h
  obtain ⟨p, hp, hnew⟩ := Option.bind_eq_some_iff.mp h
  obtain ⟨a, a', v, v', tail, rfl, rfl⟩ := fields_eq_some hp
  obtain ⟨ha, hv⟩ := WriteSingleCoilRequestBody.new_eq_ok (eq_ok_of_toOption hnew)
  rw [WriteSingleCoilRequestBody.createPayload, ha, hv]
  exact reencodes_coil_iff hf a a' v v' tail

theorem reencodes_writeSingleRegister {f : UInt8}
    (hf : f.toNat = FC.writeSingleHoldingRegister.code) {rest : Buffer}
    {r : WriteSingleRegisterRequestBody}
    (h : WriteSingleRegisterRequestBody.fromBuffer (f :: rest) = some r) :
    Reencodes (f :: rest) 5 r.createPayload := by
  rw [WriteSingleRegisterRequestBody.fromBuffer, ofFields_eq, fieldsFcLast_eq] at h
  obtain ⟨p, hp, hnew⟩ := Option.bind_eq_some_iff.mp h
  obtain ⟨a, a', v, v', tail, rfl, rfl⟩ := fields_eq_some hp
  obtain ⟨ha, hv⟩ := WriteSingleRegisterRequestBody.new_eq_ok (eq_ok_of_toOption hnew)
  rw [WriteSingleRegisterRequestBody.createPayload, ha, hv]
  exact reencodes_words hf a a' v v' tail

/-! ## Multiple writes -/

/-- The six bytes in front of the data of a multiple write. -/
theorem exists_header {rest : Buffer} (h : ¬ rest.length < 5) :
    ∃ a a' q q' n data, rest = a :: a' :: q :: q' :: n :: data := by
  rcases rest with _ | ⟨a, _ | ⟨a', _ | ⟨q, _ | ⟨q', _ | ⟨n, data⟩⟩⟩⟩⟩
  case cons.cons.cons.cons.cons => exact ⟨a, a', q, q', n, data, rfl⟩
  all_goals exact absurd (by simp) h

/-- A header that is written is the one that was read when quantity, byte count and data are. -/
theorem header_eq_iff {f a a' q q' c n : UInt8} {quantity : Nat} {data data' : Buffer}
    (hq : quantity < 65536) :
    f :: (be16 (u16 a a') ++ (be16 quantity ++ c :: data)) =
      f :: a :: a' :: q :: q' :: n :: data' ↔
      quantity = u16 q q' ∧ c = n ∧ data = data' := by
  have hback : [a, a', q, q'] = be16 (u16 a a') ++ be16 (u16 q q') := by
    rw [be16_u16, be16_u16]
    rfl
  have hread : f :: a :: a' :: q :: q' :: n :: data' =
      f :: (be16 (u16 a a') ++ (be16 (u16 q q') ++ n :: data')) := by
    rw [← List.append_assoc, ← hback]
    rfl
  rw [hread]
  constructor
  · intro h
    obtain ⟨-, h⟩ := List.append_inj (List.cons.inj h).2 rfl
    obtain ⟨hquantity, h⟩ := List.append_inj h rfl
    obtain ⟨hcount, hdata⟩ := List.cons.inj h
    exact ⟨be16_injective hq (u16_lt q q') hquantity, hcount, hdata⟩
  · rintro ⟨rfl, rfl, rfl⟩
    rfl

theorem ofNat_eq_iff {m : Nat} {n : UInt8} (hm : m < 256) :
    UInt8.ofNat m = n ↔ m = n.toNat := by
  constructor
  · rintro rfl
    exact (toNat_ofNat_of_lt hm).symm
  · rintro rfl
    exact UInt8.ofNat_toNat

/-- The payload of a coil write that was decoded. Without a quantity the number of data bytes is
taken for it. -/
theorem payload_ofBuffer_coils {a quantity total : Nat} {values : Buffer} (ha : a < 65536)
    (hlen : values.length < 256) (hle : quantity ≤ 8 * values.length)
    (htotal : total = if quantity = 0 then values.length else quantity) :
    (WriteMultipleCoilsRequestBody.ofBuffer a values quantity).byteCount =
      ((total + 7) / 8 + 6 : Nat) ∧
      (WriteMultipleCoilsRequestBody.ofBuffer a values quantity).createPayload =
        .ok (UInt8.ofNat FC.writeMultipleCoils.code ::
          (be16 a ++ (be16 total ++
            UInt8.ofNat ((total + 7) / 8) :: values.take ((total + 7) / 8)))) := by
  have hbound : total ≤ 8 * values.length := by
    rw [htotal]
    split <;> omega
  have hquantity : (WriteMultipleCoilsRequestBody.ofBuffer a values quantity).quantity =
      total := by
    rw [htotal]
    rfl
  have hbytes : (WriteMultipleCoilsRequestBody.ofBuffer a values quantity).numberOfBytes =
      ((total + 7) / 8 : Nat) := by
    rw [← WriteMultipleCoilsRequestBody.ceilDiv8_natCast, htotal]
    rfl
  have hcount : (WriteMultipleCoilsRequestBody.ofBuffer a values quantity).byteCount =
      ((total + 7) / 8 : Nat) + 6 := by
    rw [← WriteMultipleCoilsRequestBody.ceilDiv8_natCast, htotal]
    rfl
  have hroom : (total + 7) / 8 ≤ values.length := by omega
  have hpayload := WriteMultipleCoilsRequestBody.createPayload_eq
    (b := .ofBuffer a values quantity) (isUInt16_natCast ha)
    (by rw [hquantity]; exact isUInt16_natCast (by omega)) hbytes (by omega) hcount hroom
  rw [hquantity, Int.toNat_natCast] at hpayload
  exact ⟨hcount, hpayload⟩

/-- A coil write comes back with the byte count its quantity needs. -/
theorem reencodes_writeMultipleCoils_iff {f : UInt8} (hf : f.toNat = FC.writeMultipleCoils.code)
    {rest : Buffer} {r : WriteMultipleCoilsRequestBody}
    (h : WriteMultipleCoilsRequestBody.fromBuffer (f :: rest) = some r) :
    Reencodes (f :: rest) r.byteCount r.createPayload ↔
    ConsistentFields .writeMultipleCoils rest := by
  have hshort : ¬ rest.length < 5 := by
    intro hlt
    rw [WriteMultipleCoilsRequestBody.fromBuffer_short (by rw [List.length_cons]; omega)] at h
    cases h
  obtain ⟨a, a', q, q', n, data, rfl⟩ := exists_header hshort
  rw [WriteMultipleCoilsRequestBody.fromBuffer_cons] at h
  split at h
  · rename_i hdecodes
    obtain rfl := Option.some.inj h
    obtain ⟨-, hle⟩ := hdecodes
    have hn := n.toNat_lt
    have hlen : (data.take n.toNat).length = min n.toNat data.length := List.length_take
    obtain ⟨total, htotal⟩ : ∃ total,
        total = if u16 q q' = 0 then (data.take n.toNat).length else u16 q q' := ⟨_, rfl⟩
    obtain ⟨hcount, hpayload⟩ := payload_ofBuffer_coils (u16_lt a a') (by omega) hle htotal
    have hbound : total ≤ 8 * (data.take n.toNat).length := by
      rw [htotal]
      split <;> omega
    -- the bytes that come back are the first ones of the data
    have hdata : (data.take n.toNat).take ((total + 7) / 8) = data.take ((total + 7) / 8) := by
      rw [List.take_take, Nat.min_eq_left (by omega)]
    rw [Reencodes, hcount, hpayload, ofNat_code hf,
      hdata, Int.toNat_natCast, Except.ok.injEq]
    show _ ∧ _ = f :: a :: a' :: q :: q' :: n :: data.take ((total + 7) / 8) ↔
      n.toNat = (u16 q q' + 7) / 8
    rw [header_eq_iff (by omega), ofNat_eq_iff (by omega)]
    simp only [List.length_cons]
    constructor
    · rintro ⟨-, hquantity, hbytes, -⟩
      rw [← hbytes, hquantity]
    · intro hbytes
      have hquantity : total = u16 q q' := by
        rw [htotal]
        split <;> omega
      exact ⟨by omega, hquantity, by rw [hquantity, hbytes], trivial⟩
  · cases h

/-- A register write comes back when all its registers are there, up to 120 of them. -/
theorem reencodes_writeMultipleRegisters_iff {f : UInt8}
    (hf : f.toNat = FC.writeMultipleHoldingRegisters.code) {rest : Buffer}
    {r : WriteMultipleRegistersRequestBody}
    (h : WriteMultipleRegistersRequestBody.fromBuffer (f :: rest) = some r) :
    Reencodes (f :: rest) r.byteCount r.createPayload ↔
      ConsistentFields .writeMultipleHoldingRegisters rest := by
  have hshort : ¬ rest.length < 5 := by
    intro hlt
    rw [WriteMultipleRegistersRequestBody.fromBuffer_short (by rw [List.length_cons]; omega)]
      at h
    cases h
  obtain ⟨a, a', q, q', n, data, rfl⟩ := exists_header hshort
  rw [WriteMultipleRegistersRequestBody.fromBuffer_cons] at h
  split at h
  · rename_i hdecodes
    obtain rfl := Option.some.inj h
    obtain ⟨-, hle, heven⟩ := hdecodes
    have hlen : (data.take n.toNat).length = min n.toNat data.length := List.length_take
    have hpayload := WriteMultipleRegistersRequestBody.createPayload_eq
      (b := .ofBuffer (u16 a a') (data.take n.toNat)) (isUInt16_u16 a a')
      (isUInt16_natCast (n := (data.take n.toNat).length / 2) (by omega)) rfl (by omega) rfl
    -- above 240 bytes the byte count is cut off
    have hcount :
        (WriteMultipleRegistersRequestBody.ofBuffer (u16 a a') (data.take n.toNat)).byteCount =
        (min (data.take n.toNat).length 240 + 6 : Nat) := by
      show min (((data.take n.toNat).length : Int) + 6) 0xF6 = _
      omega
    rw [Reencodes, hcount, hpayload, ofNat_code hf,
      Int.toNat_natCast, Except.ok.injEq]
    show _ ∧ f :: (be16 (u16 a a') ++ (be16 ((data.take n.toNat).length / 2) ++
        UInt8.ofNat (data.take n.toNat).length :: data.take n.toNat)) =
      f :: a :: a' :: q :: q' :: n :: data.take (min (data.take n.toNat).length 240) ↔
      n.toNat = 2 * u16 q q' ∧ n.toNat ≤ 240 ∧ n.toNat ≤ data.length
    rw [header_eq_iff (by omega), ofNat_eq_iff (by omega)]
    simp only [List.length_cons]
    constructor
    · rintro ⟨-, hquantity, hbytes, hdata⟩
      have hsize := congrArg List.length hdata
      have hcut : (data.take (min (data.take n.toNat).length 240)).length =
          min (min (data.take n.toNat).length 240) data.length := List.length_take
      omega
    · rintro ⟨hbytes, hle', hroom⟩
      refine ⟨by omega, by omega, by omega, ?_⟩
      rw [hlen, Nat.min_eq_left hroom, Nat.min_eq_left hle']
  · cases h

/-! ## All bodies -/

theorem reencodes_readDeviceIdentification {f : UInt8}
    (hf : f.toNat = FC.readDeviceIdentification.code) {rest : Buffer}
    {r : ReadDeviceIdentificationRequestBody}
    (h : ReadDeviceIdentificationRequestBody.fromBuffer (f :: rest) = some r) :
    Reencodes (f :: rest) 4 r.createPayload := by
  rw [ReadDeviceIdentificationRequestBody.fromBuffer_eq] at h
  rcases rest with _ | ⟨m, _ | ⟨d, _ | ⟨o, tail⟩⟩⟩
  case cons.cons.cons =>
    simp only [if_pos hf] at h
    obtain rfl := Option.some.inj h
    constructor
    · show (4 : Int) ≤ (f :: m :: d :: o :: tail).length
      simp only [List.length_cons]
      omega
    · have hcode : UInt8.ofNat 43 = f := ofNat_code hf
      show ReadDeviceIdentificationRequestBody.createPayload _ = .ok [f, m, d, o]
      rw [ReadDeviceIdentificationRequestBody.createPayload_eq, hcode]
      simp only [Int.toNat_natCast, UInt8.ofNat_toNat]
  all_goals cases h

/-- The decoder of a function code: what it makes encodes to its bytes if and only if the fields
agree. -/
theorem reencodes_iff {fc : FC} {f : UInt8} (hf : f.toNat = fc.code) {rest : Buffer}
    {body : RequestBody} (h : decoder fc (f :: rest) = some body) :
    Reencodes (f :: rest) body.byteCount body.createPayload ↔ ConsistentFields fc rest := by
  cases fc with
  | readCoil =>
    obtain ⟨r, hr, rfl⟩ := Option.map_eq_some_iff.mp h
    rw [ReadCoilsRequestBody.fromBuffer, ofFields_eq, fieldsFcFirst_eq] at hr
    exact iff_of_true (reencodes_readRequest hf .readCoils rfl rfl hr) trivial
  | readDiscreteInput =>
    obtain ⟨r, hr, rfl⟩ := Option.map_eq_some_iff.mp h
    rw [ReadDiscreteInputsRequestBody.fromBuffer, ofFields_eq, fieldsFcFirst_eq] at hr
    exact iff_of_true (reencodes_readRequest hf .readDiscreteInputs rfl rfl hr) trivial
  | readHoldingRegisters =>
    obtain ⟨r, hr, rfl⟩ := Option.map_eq_some_iff.mp h
    rw [ReadHoldingRegistersRequestBody.fromBuffer, ofFields_eq, fieldsFcLast_eq] at hr
    exact iff_of_true (reencodes_readRequest hf .readHoldingRegisters rfl rfl hr) trivial
  | readInputRegisters =>
    obtain ⟨r, hr, rfl⟩ := Option.map_eq_some_iff.mp h
    rw [ReadInputRegistersRequestBody.fromBuffer, ofFields_eq, fieldsFcLast_eq] at hr
    exact iff_of_true (reencodes_readRequest hf .readInputRegisters rfl rfl hr) trivial
  | writeSingleCoil =>
    obtain ⟨r, hr, rfl⟩ := Option.map_eq_some_iff.mp h
    exact reencodes_writeSingleCoil_iff hf hr
  | writeSingleHoldingRegister =>
    obtain ⟨r, hr, rfl⟩ := Option.map_eq_some_iff.mp h
    exact iff_of_true (reencodes_writeSingleRegister hf hr) trivial
  | writeMultipleCoils =>
    obtain ⟨r, hr, rfl⟩ := Option.map_eq_some_iff.mp h
    exact reencodes_writeMultipleCoils_iff hf hr
  | writeMultipleHoldingRegisters =>
    obtain ⟨r, hr, rfl⟩ := Option.map_eq_some_iff.mp h
    exact reencodes_writeMultipleRegisters_iff hf hr
  | readDeviceIdentification =>
    obtain ⟨r, hr, rfl⟩ := Option.map_eq_some_iff.mp h
    exact iff_of_true (reencodes_readDeviceIdentification hf hr) trivial

/-- What the factory makes of a byte string encodes to its bytes if and only if the fields
agree. -/
theorem reencodes_iff_consistent {buffer : Buffer} {body : RequestBody}
    (h : fromBuffer buffer = some body) :
    Reencodes buffer body.byteCount body.createPayload ↔ Consistent buffer := by
  rcases buffer with _ | ⟨f, rest⟩
  · cases h
  rw [fromBuffer_cons] at h
  obtain ⟨fc, hfc, h⟩ := Option.bind_eq_some_iff.mp h
  have hf : f.toNat = fc.code := by exact_mod_cast FC.code_of_ofCode? hfc
  rw [reencodes_iff hf h]
  constructor
  · intro hfields fc' hfc'
    obtain rfl : fc = fc' := Option.some.inj (hfc.symm.trans hfc')
    exact hfields
  · intro hconsistent
    exact hconsistent fc hfc

/-- A byte string is understood if and only if it is not decoded at all, or its redundant fields
agree. -/
theorem understood_iff (buffer : Buffer) :
    Understood buffer ↔ (Decodable buffer → Consistent buffer) := by
  rw [← fromBuffer_isSome_iff]
  constructor
  · intro h hsome
    obtain ⟨body, hbody⟩ := Option.isSome_iff_exists.mp hsome
    exact (reencodes_iff_consistent hbody).mp (h body hbody)
  · intro h body hbody
    exact (reencodes_iff_consistent hbody).mpr (h (Option.isSome_iff_exists.mpr ⟨body, hbody⟩))

/-- A write of the registers 0 and 1 of which only the first has arrived: it is decoded as a
write of one register. -/
theorem not_understood_partialWrite : ¬ Understood [16, 0, 0, 0, 2, 4, 0, 1] := by
  intro h
  have hbody : fromBuffer [16, 0, 0, 0, 2, 4, 0, 1] =
      some (.writeMultipleRegisters (.ofBuffer 0 [0, 1])) := by decide
  exact absurd (h _ hbody).2 (by decide)

end RequestFactory

end NodeModbus

import NodeModbus.Request.Frame

/-!
# The bytes a request is made of

A decoder looks at a buffer that may go on behind the request. How far it looks
is not always what the byte count of the request says.

- `extent`: the bytes of a body its decoder has looked at.
- `fromBuffer_take`: of those bytes, or of more, the decoder makes the same body.
- `ModbusRTURequest.fromBuffer_take`: the same for a frame, when the bytes that were
  looked at end before the frame does.
-/

namespace NodeModbus

open Buffer Words

/-- The bytes of a body, as far as its decoder has looked at them. -/
def RequestBody.extent : RequestBody → Nat
  | writeMultipleCoils b => b.valuesAsBuffer.length + 6
  | writeMultipleRegisters b => b.valuesAsBuffer.length + 6
  | readDeviceIdentification _ => 4
  | exception _ => 0
  | _ => 5

theorem fields_take (fc : FC) (b : Buffer) {n : Nat} (hn : 5 ≤ n) :
    fields fc (b.take n) = fields fc b := by
  obtain ⟨k, rfl⟩ : ∃ k, n = k + 5 := ⟨n - 5, by omega⟩
  rcases b with _ | ⟨f, _ | ⟨a, _ | ⟨a', _ | ⟨v, _ | ⟨v', rest⟩⟩⟩⟩⟩ <;> rfl

theorem five_le_length_of_fields {α : Type} {fc : FC} {b : Buffer} {g : Nat × Nat → Option α}
    {x : α} (h : (fields fc b).bind g = some x) : 5 ≤ b.length := by
  rcases b with _ | ⟨f, _ | ⟨a, _ | ⟨a', _ | ⟨v, _ | ⟨v', rest⟩⟩⟩⟩⟩
  case cons.cons.cons.cons.cons => simp
  all_goals cases h

/-- Taking at least what there is of the first `n` entries does not change them. -/
theorem take_take_of_length_le {α : Type} {l : List α} {n k : Nat} (h : (l.take n).length ≤ k) :
    (l.take k).take n = l.take n := by
  rw [List.length_take] at h
  rcases Nat.lt_or_ge k n with hkn | hnk
  · rw [List.take_of_length_le (show l.length ≤ k by omega)]
  · rw [List.take_take, Nat.min_eq_left hnk]

namespace RequestFactory

/-- A body of five bytes. -/
theorem fiveBytes_take {α : Type} {fc : FC} {buffer : Buffer} {body : RequestBody}
    {new : Nat × Nat → Option α} (mk : α → RequestBody) (hmk : ∀ x, (mk x).extent = 5)
    (h : ((fields fc buffer).bind new).map mk = some body) :
    body.extent ≤ buffer.length ∧
      ∀ {n}, body.extent ≤ n → ((fields fc (buffer.take n)).bind new).map mk = some body := by
  obtain ⟨b, hb, rfl⟩ := Option.map_eq_some_iff.mp h
  rw [hmk]
  refine ⟨five_le_length_of_fields hb, ?_⟩
  intro n hn
  rw [fields_take fc buffer hn, h]

/-- A decoder has looked at the bytes of its body, and makes the same of them alone. -/
theorem decoder_take {fc : FC} {buffer : Buffer} {body : RequestBody}
    (h : decoder fc buffer = some body) :
    body.extent ≤ buffer.length ∧
      ∀ {n}, body.extent ≤ n → decoder fc (buffer.take n) = some body := by
  cases fc with
  | readCoil =>
    simp only [decoder, ReadCoilsRequestBody.fromBuffer, ofFields_eq, fieldsFcFirst_eq] at h ⊢
    exact fiveBytes_take .readCoils (fun _ => rfl) h
  | readDiscreteInput =>
    simp only [decoder, ReadDiscreteInputsRequestBody.fromBuffer, ofFields_eq, fieldsFcFirst_eq]
      at h ⊢
    exact fiveBytes_take .readDiscreteInputs (fun _ => rfl) h
  | readHoldingRegisters =>
    simp only [decoder, ReadHoldingRegistersRequestBody.fromBuffer, ofFields_eq,
      fieldsFcLast_eq] at h ⊢
    exact fiveBytes_take .readHoldingRegisters (fun _ => rfl) h
  | readInputRegisters =>
    simp only [decoder, ReadInputRegistersRequestBody.fromBuffer, ofFields_eq, fieldsFcLast_eq]
      at h ⊢
    exact fiveBytes_take .readInputRegisters (fun _ => rfl) h
  | writeSingleCoil =>
    simp only [decoder, WriteSingleCoilRequestBody.fromBuffer, ofFields_eq, fieldsFcLast_eq]
      at h ⊢
    exact fiveBytes_take .writeSingleCoil (fun _ => rfl) h
  | writeSingleHoldingRegister =>
    simp only [decoder, WriteSingleRegisterRequestBody.fromBuffer, ofFields_eq, fieldsFcLast_eq]
      at h ⊢
    exact fiveBytes_take .writeSingleRegister (fun _ => rfl) h
  | writeMultipleCoils =>
    obtain ⟨b, hb, rfl⟩ := Option.map_eq_some_iff.mp h
    rcases buffer with _ | ⟨f, _ | ⟨a, _ | ⟨a', _ | ⟨q, _ | ⟨q', _ | ⟨c, data⟩⟩⟩⟩⟩⟩
    case cons.cons.cons.cons.cons.cons =>
      rw [WriteMultipleCoilsRequestBody.fromBuffer_cons] at hb
      split at hb
      · rename_i hok
        obtain rfl := Option.some.inj hb
        have hextent : (RequestBody.writeMultipleCoils (.ofBuffer (u16 a a') (data.take c.toNat)
            (u16 q q'))).extent = (data.take c.toNat).length + 6 := rfl
        rw [hextent]
        refine ⟨by simp only [List.length_cons, List.length_take]; omega, ?_⟩
        intro n hn
        obtain ⟨k, rfl⟩ : ∃ k, n = k + 6 := ⟨n - 6, by omega⟩
        have hdata : (data.take k).take c.toNat = data.take c.toNat :=
          take_take_of_length_le (by omega)
        show (WriteMultipleCoilsRequestBody.fromBuffer
          (f :: a :: a' :: q :: q' :: c :: data.take k)).map RequestBody.writeMultipleCoils = _
        rw [WriteMultipleCoilsRequestBody.fromBuffer_cons, hdata, if_pos hok]
        rfl
      · cases hb
    all_goals
      rw [WriteMultipleCoilsRequestBody.fromBuffer_short (by simp)] at hb
      cases hb
  | writeMultipleHoldingRegisters =>
    obtain ⟨b, hb, rfl⟩ := Option.map_eq_some_iff.mp h
    rcases buffer with _ | ⟨f, _ | ⟨a, _ | ⟨a', _ | ⟨q, _ | ⟨q', _ | ⟨c, data⟩⟩⟩⟩⟩⟩
    case cons.cons.cons.cons.cons.cons =>
      rw [WriteMultipleRegistersRequestBody.fromBuffer_cons] at hb
      split at hb
      · rename_i hok
        obtain rfl := Option.some.inj hb
        have hextent : (RequestBody.writeMultipleRegisters (.ofBuffer (u16 a a')
            (data.take c.toNat))).extent = (data.take c.toNat).length + 6 := rfl
        rw [hextent]
        refine ⟨by simp only [List.length_cons, List.length_take]; omega, ?_⟩
        intro n hn
        obtain ⟨k, rfl⟩ : ∃ k, n = k + 6 := ⟨n - 6, by omega⟩
        have hdata : (data.take k).take c.toNat = data.take c.toNat :=
          take_take_of_length_le (by omega)
        show (WriteMultipleRegistersRequestBody.fromBuffer
          (f :: a :: a' :: q :: q' :: c :: data.take k)).map
          RequestBody.writeMultipleRegisters = _
        rw [WriteMultipleRegistersRequestBody.fromBuffer_cons, hdata, if_pos hok]
        rfl
      · cases hb
    all_goals
      rw [WriteMultipleRegistersRequestBody.fromBuffer_short (by simp)] at hb
      cases hb
  | readDeviceIdentification =>
    rw [decoder, ReadDeviceIdentificationRequestBody.fromBuffer_eq] at h
    obtain ⟨b, hb, rfl⟩ := Option.map_eq_some_iff.mp h
    rcases buffer with _ | ⟨f, _ | ⟨m, _ | ⟨d, _ | ⟨o, rest⟩⟩⟩⟩
    case cons.cons.cons.cons =>
      have hextent : (RequestBody.readDeviceIdentification b).extent = 4 := rfl
      rw [hextent]
      refine ⟨by simp, ?_⟩
      intro n hn
      obtain ⟨k, rfl⟩ : ∃ k, n = k + 4 := ⟨n - 4, by omega⟩
      rw [decoder, ReadDeviceIdentificationRequestBody.fromBuffer_eq]
      exact h
    all_goals cases hb

/-- The factory has looked at the bytes of a body, and makes the same of them alone. -/
theorem fromBuffer_take {buffer : Buffer} {body : RequestBody}
    (h : fromBuffer buffer = some body) :
    body.extent ≤ buffer.length ∧
      ∀ {n}, body.extent ≤ n → fromBuffer (buffer.take n) = some body := by
  rcases buffer with _ | ⟨f, rest⟩
  · cases h
  have hsome := h
  rw [fromBuffer_cons] at h
  obtain ⟨fc, hcode, hdec⟩ := Option.bind_eq_some_iff.mp h
  obtain ⟨hle, htake⟩ := decoder_take hdec
  refine ⟨hle, ?_⟩
  intro n hn
  have hpos : 0 < body.extent := by
    cases fromWire hsome <;> exact Nat.succ_pos _
  obtain ⟨k, rfl⟩ : ∃ k, n = k + 1 := ⟨n - 1, by omega⟩
  have hagain := htake hn
  rw [List.take_succ_cons] at hagain ⊢
  rw [fromBuffer_cons, hcode]
  exact hagain

end RequestFactory

namespace ModbusRTURequest

variable {crc16modbus : Buffer → UInt16}

/-- A request whose CRC is right comes from a frame in front of the buffer. -/
theorem exists_frame {buffer : Buffer} {r : ModbusRTURequest}
    (h : fromBuffer crc16modbus buffer = some r) (hcorrupted : r.corrupted = false) :
    ∃ (a : UInt8) (p tail : Buffer), buffer = frame crc16modbus a.toNat p ++ tail ∧
      r.address = a.toNat ∧ r.body.byteCount = p.length ∧
      RequestFactory.fromBuffer (p ++ (le16 (crc16modbus (a :: p)).toNat ++ tail)) =
        some r.body := by
  obtain ⟨a, rest, actualCrc, rfl, hbody, hcrc, hr⟩ := exists_parts crc16modbus h
  obtain ⟨n, hn⟩ := Int.eq_ofNat_of_zero_le (Int.le_of_lt (RequestFactory.byteCount_pos hbody))
  have hstart : (1 + r.body.byteCount : Int) = ((n + 1 : Nat) : Int) := by omega
  rw [hstart] at hcrc
  have hlen := le_length_of_readUInt16LE hcrc
  have hsplit := eq_append_of_readUInt16LE hcrc
  -- the CRC that was read is the one of the bytes before it
  have hactual : actualCrc = (crc16modbus (a :: rest.take n)).toNat := by
    have hsub : subarray (a :: rest) 0 (1 + r.body.byteCount) = a :: rest.take n := by
      rw [hstart]
      exact subarray_natCast (a :: rest) 0 (n + 1)
    have hfine := congrArg ModbusRTURequest.corrupted hr
    rw [hcorrupted, ofBody, hsub] at hfine
    exact (not_not.mp (of_decide_eq_false hfine.symm)).symm
  subst hactual
  have hrest : rest = rest.take n ++
    (le16 (crc16modbus (a :: rest.take n)).toNat ++ rest.drop (n + 2)) :=
    (List.cons.inj hsplit).2
  refine ⟨a, rest.take n, rest.drop (n + 2), ?_, ?_, ?_, ?_⟩
  · rw [frame, toByte_toNat, List.cons_append, List.append_assoc, ← hrest]
  · rw [hr]
    rfl
  · rw [hn, List.length_take]
    rw [List.length_cons] at hlen
    omega
  · rw [← hrest]
    exact hbody

/-- When the decoder has not looked behind the frame, it makes the same of the frame alone. -/
theorem fromBuffer_frame {buffer : Buffer} {r : ModbusRTURequest}
    (h : fromBuffer crc16modbus buffer = some r) (hcorrupted : r.corrupted = false)
    (hextent : r.body.extent ≤ r.body.byteCount + 2) :
    fromBuffer crc16modbus (buffer.take r.byteCount.toNat) = some r := by
  obtain ⟨a, p, tail, rfl, haddress, hcount, hbody⟩ := exists_frame h hcorrupted
  have htake := (RequestFactory.fromBuffer_take hbody).2 (n := p.length + 2) (by omega)
  have hcrc : (le16 (crc16modbus (a :: p)).toNat ++ tail).take 2 =
    le16 (crc16modbus (a :: p)).toNat :=
    rfl
  rw [List.take_length_add_append, hcrc] at htake
  have hsize : r.byteCount.toNat = (frame crc16modbus a.toNat p).length := by
    rw [byteCount, hcount, length_frame]
    omega
  have hagain := @fromBuffer_frame_append crc16modbus a.toNat p [] r.body
    (by rw [toByte_toNat, List.append_nil]; exact htake) hcount
  rw [hsize, List.take_left, ← haddress]
  rw [List.append_nil, toByte_toNat, ← haddress, ← hcorrupted] at hagain
  exact hagain

end ModbusRTURequest

end NodeModbus

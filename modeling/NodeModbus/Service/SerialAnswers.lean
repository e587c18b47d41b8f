import NodeModbus.Client.CrcCheck
import NodeModbus.Service.Answers
import NodeModbus.Service.Client

/-!
# Answers on a serial line

An answer goes over a serial line in a frame without a length field. The client finds
its end all the same, however it is cut, and the CRC it computes of the response
it has decoded is the one in the frame.

- `SerialAnswer`: an answer in its frame. `received`: the response that is decoded of it.
- `recognised`: the decoder recognises the frame, and its front is not taken for one.
- `handle_eq`: the CRC check passes, so that the response is handled like any other.
-/

namespace NodeModbus

open Buffer Words Framing

namespace Answer

/-- What is decoded of the payload of an answer, whatever follows it. -/
theorem decodesTo_body {a : Answer} (h : a.Fits) : a.body.DecodesTo a.pdu a.body.readBack := by
  have hregisters (values : List UInt16) : (registerBytes values).length % 2 = 0 := by
    rw [length_registerBytes]
    omega
  have hpayload := createPayload_body h
  -- the payload is the one of the answer, so only what is decoded has to be looked at
  suffices hdecodes : ∃ p, a.body.DecodesTo p a.body.readBack by
    obtain ⟨p, hp⟩ := hdecodes
    obtain rfl := Except.ok.inj (hpayload.symm.trans hp.payload)
    exact hp
  cases a with
  | coils values =>
    exact ⟨_, ResponseBody.readBits_decodesTo .readCoil ResponseBody.readCoils h (fun _ => rfl)
      fun _ => rfl⟩
  | discreteInputs values =>
    exact ⟨_, ResponseBody.readBits_decodesTo .readDiscreteInput
      ResponseBody.readDiscreteInputs h (fun _ => rfl) fun _ => rfl⟩
  | holdingRegisters values =>
    have hlen : values.length ≤ 125 := h
    exact ⟨_, ResponseBody.readHoldingRegisters_decodesTo (hregisters values)
      (by rw [length_registerBytes]; omega)⟩
  | inputRegisters values =>
    have hlen : values.length ≤ 125 := h
    exact ⟨_, ResponseBody.readInputRegisters_decodesTo (hregisters values)
      (by rw [length_registerBytes]; omega)⟩
  | coilWritten address value =>
    exact ResponseBody.Built.decodesTo (.writeSingleCoil (isUInt16_natCast h))
  | registerWritten address value =>
    exact ResponseBody.Built.decodesTo
      (.writeSingleRegister (isUInt16_natCast h) (isUInt16_natCast value.toNat_lt))
  | coilsWritten address quantity =>
    exact ResponseBody.Built.decodesTo
      (.writeMultipleCoils (isUInt16_natCast h.1) (isUInt16_natCast h.2))
  | registersWritten address quantity =>
    exact ResponseBody.Built.decodesTo
      (.writeMultipleRegisters (isUInt16_natCast h.1) (isUInt16_natCast h.2))

/-- It has the size of the payload. -/
theorem byteCount_readBack {a : Answer} (h : a.Fits) :
    a.body.readBack.byteCount = a.pdu.length := by
  have hframed := ResponseBody.framed_of_wellFormed a.wellFormed_body (createPayload_body h)
  have hbits (values : List Bool) : ((Bits.pack values).length : Int) + 2 =
      ((values.length + 7) / 8 : Nat) + 2 := by
    rw [Bits.length_pack]
  rw [← hframed.byteCount]
  cases a with
  | coils values => exact hbits values
  | discreteInputs values => exact hbits values
  | inputRegisters values =>
    show 2 + ((words (registerBytes values)).length : Int) * 2 =
      2 + ((registerBytes values).length : Int)
    rw [length_words, length_registerBytes]
    omega
  | _ => rfl

/-- What is decoded of a payload cut short takes all of what is there, so that no CRC is
left. -/
theorem byteCount_of_take {a : Answer} (h : a.Fits) {k : Nat} (hk : k < a.pdu.length)
    {b : ResponseBody} (hb : ResponseFactory.fromBuffer (a.pdu.take k) = some b) :
    b.byteCount = k := by
  have hframed := ResponseBody.framed_of_wellFormed a.wellFormed_body (createPayload_body h)
  have hearly : a.body.EarlyCut k := by
    by_contra hcut
    rw [hframed.refused k hk hcut] at hb
    cases hb
  cases a with
  | holdingRegisters values =>
    have hlen : values.length ≤ 125 := h
    obtain ⟨j, rfl⟩ : ∃ j, k = j + 2 := ⟨k - 2, by have := show 2 ≤ k from hearly; omega⟩
    have hj : j + 2 < (registerBytes values).length + 2 := hk
    have hpdu : pdu (holdingRegisters values) = UInt8.ofNat FC.readHoldingRegisters.code ::
        UInt8.ofNat (registerBytes values).length :: registerBytes values := by
      rw [length_registerBytes]
      rfl
    rw [hpdu] at hb
    refine ResponseBody.byteCount_readHoldingRegisters_take (registerBytes values) ?_
      (by omega) hb
    rw [length_registerBytes]
    omega
  | _ => exact absurd hearly id

theorem not_legacy (a : Answer) : ¬ a.body.LegacyException := by
  cases a <;> exact id

/-- What is decoded says the same. -/
theorem content_readBack (a : Answer) : a.body.readBack.content = a.content := by
  rw [← content_body]
  cases a <;> rfl

theorem fc_readBack (a : Answer) : a.body.readBack.fc = a.body.fc := by
  cases a <;> rfl

theorem isException_readBack (a : Answer) : a.body.readBack.isException = false := by
  cases a <;> rfl

/-- The value of a coil is "on" or "off". -/
theorem echoesCoilValue (a : Answer) (tail : Buffer) :
    ResponseFactory.EchoesCoilValue (a.pdu ++ tail) := by
  cases a with
  | coilWritten address value =>
    intro _
    cases value with
    | true => exact .inl rfl
    | false => exact .inr rfl
  | _ => exact ResponseFactory.echoesCoilValue_of_ne (by decide) _

end Answer

/-! ## Frames -/

section Serial

variable (crc16modbus : Buffer → UInt16)

/-- An answer in a frame, with the address of the server. -/
structure SerialAnswer where
  address : UInt8
  answer : Answer
  fits : answer.Fits

variable {crc16modbus}

namespace SerialAnswer

/-- The bytes of the frame. -/
def payload (crc16modbus : Buffer → UInt16) (g : SerialAnswer) : Buffer :=
  ModbusRTURequest.frame crc16modbus g.address.toNat g.answer.pdu

/-- The response that is decoded of the frame. -/
def received (crc16modbus : Buffer → UInt16) (g : SerialAnswer) : ModbusRTUResponse :=
  { address := g.address.toNat,
    crc := some ((crc16modbus (g.address :: g.answer.pdu)).toNat : Int),
    body := g.answer.body.readBack }

/-- How the frames are sent, for the framing library: they may be cut anywhere. -/
def format (crc16modbus : Buffer → UInt16) : Format UInt8 ModbusRTUResponse SerialAnswer where
  bytes := payload crc16modbus
  value := received crc16modbus
  bad _ _ := False

theorem payload_eq (g : SerialAnswer) : g.payload crc16modbus =
    g.address :: (g.answer.pdu ++ le16 (crc16modbus (g.address :: g.answer.pdu)).toNat) := by
  rw [payload, ModbusRTURequest.frame, toByte_toNat]

/-- A frame is decoded, whatever follows it. -/
theorem fromBuffer_append (g : SerialAnswer) (tail : Buffer) :
    ModbusRTUResponse.fromBuffer (g.payload crc16modbus ++ tail) =
      some (g.received crc16modbus) := by
  have hbody := (Answer.decodesTo_body g.fits).decoded
    (le16 (crc16modbus (toByte g.address.toNat :: g.answer.pdu)).toNat ++ tail)
    fun hlegacy => absurd hlegacy g.answer.not_legacy
  rw [payload, ModbusRTUResponse.fromBuffer_frame_append crc16modbus hbody
    (Answer.byteCount_readBack g.fits), received, toByte_toNat]

/-- Cut short, a frame is refused. -/
theorem fromBuffer_take (g : SerialAnswer) {k : Nat} (hk : k < (g.payload crc16modbus).length) :
    ModbusRTUResponse.fromBuffer ((g.payload crc16modbus).take k) = none := by
  rw [payload_eq] at hk ⊢
  simp only [List.length_cons, List.length_append, length_le16] at hk
  cases k with
  | zero => exact ModbusRTUResponse.fromBuffer_nil
  | succ k =>
    rw [List.take_succ_cons]
    rcases Nat.lt_or_ge k g.answer.pdu.length with hlt | hge
    · -- the body is cut: what is decoded of it leaves no room for a CRC
      rw [List.take_append_of_le_length (Nat.le_of_lt hlt)]
      cases hbody : ResponseFactory.fromBuffer (g.answer.pdu.take k) with
      | none => rw [ModbusRTUResponse.fromBuffer_cons, hbody, Option.bind_none]
      | some body =>
        have hcount := Answer.byteCount_of_take g.fits hlt hbody
        exact ModbusRTUResponse.fromBuffer_eq_none hbody hcount
          (by rw [List.length_take]; omega)
    · -- the body is whole, and the CRC is cut
      rw [List.take_append, List.take_of_length_le hge]
      refine ModbusRTUResponse.fromBuffer_eq_none ((Answer.decodesTo_body g.fits).decoded _ ?_)
        (Answer.byteCount_readBack g.fits) ?_
      · exact fun hlegacy => absurd hlegacy g.answer.not_legacy
      · rw [List.length_append, List.length_take]
        omega

theorem length_payload (g : SerialAnswer) :
    (g.payload crc16modbus).length = g.answer.pdu.length + 3 := by
  rw [payload, ModbusRTURequest.length_frame]

theorem byteCount_received (g : SerialAnswer) :
    (g.received crc16modbus).byteCount = (g.payload crc16modbus).length := by
  show g.answer.body.readBack.byteCount + 3 = _
  rw [Answer.byteCount_readBack g.fits, length_payload]
  rfl

/-- The decoder recognises the frame. -/
theorem recognised (g : SerialAnswer) :
    Recognised (format crc16modbus) (fun b => ModbusRTUResponse.fromBuffer b = none)
      (fun b r n => ModbusRTUResponse.fromBuffer b = some r ∧ r.byteCount = (n : Nat)) id g :=
  ⟨fun tail => ⟨g.received crc16modbus, ⟨g.fromBuffer_append tail, g.byteCount_received⟩, rfl⟩,
    fun _ hk _ => g.fromBuffer_take hk, id⟩

/-- The answers that are whole come out of the response handler, and the rest is kept. -/
theorem handleData_stream {kept data front : Buffer} {arrived : List SerialAnswer}
    (hstream : kept ++ data = (format crc16modbus).flat arrived ++ front)
    (hnone : ModbusRTUResponse.fromBuffer front = none) :
    ModbusRTUClientResponseHandler.handleData ⟨kept, []⟩ data =
      ⟨front, arrived.map (received crc16modbus)⟩ := by
  obtain ⟨responses, hdrain, hresponses⟩ := ModbusRTUClientResponseHandler.drain_spec.drain_flat
    (fun (g : SerialAnswer) (_ : g ∈ arrived) => @recognised crc16modbus g) front
  rw [ModbusRTUClientResponseHandler.drain_spec.wait hnone, List.append_nil] at hdrain
  rw [List.map_id] at hresponses
  rw [ModbusRTUClientResponseHandler.handleData_eq, hstream, hdrain, hresponses]
  rfl

/-- The bytes of the CRC check are those in front of the CRC of the frame. -/
theorem checkedBytes_received (g : SerialAnswer) :
    (g.received crc16modbus).checkedBytes = .ok (g.address :: g.answer.pdu) := by
  have hdecoded := @fromBuffer_append crc16modbus g []
  rw [List.append_nil] at hdecoded
  have hechoes : ModbusRTUResponse.EchoesCoilValue (g.payload crc16modbus) := by
    rw [payload_eq] at hdecoded ⊢
    exact (ModbusRTUResponse.echoesCoilValue_cons_iff hdecoded).mpr (g.answer.echoesCoilValue _)
  have hchecks := (ModbusRTUResponse.checksReceived_iff crc16modbus _).mpr hechoes _ hdecoded
  rw [hchecks.received, byteCount_received, length_payload, payload_eq,
    show (((g.answer.pdu.length + 3 : Nat) : Int) - 2).toNat =
      g.answer.pdu.length + 1 from by omega,
    List.take_succ_cons, List.take_left]

/-- The response passes the CRC check. -/
theorem handle_eq (g : SerialAnswer) (c : ModbusRTUClientRequestHandler) :
    ModbusRTUClientRequestHandler.handle crc16modbus c (some (g.received crc16modbus)) =
      MBClientRequestHandler.handle (rtuMessages crc16modbus) c
        (some (g.received crc16modbus)) := by
  cases hcurrent : c._currentRequest with
  | none =>
    rw [MBClientRequestHandler.handle_of_idle _ hcurrent]
    unfold ModbusRTUClientRequestHandler.handle
    rw [hcurrent]
  | some u =>
    exact (ModbusRTUResponse.handle_eq_of_checkedBytes crc16modbus g.checkedBytes_received
      hcurrent).trans (if_pos rfl)

/-- It resolves the promise of the request under way, when that has its function code. -/
theorem handle_received (g : SerialAnswer) {c : ModbusRTUClientRequestHandler}
    {u : UserRequest ModbusRTURequest} (hcurrent : c._currentRequest = some u)
    (hfc : g.answer.body.fc = u.request.body.fc) :
    ModbusRTUClientRequestHandler.handle crc16modbus c (some (g.received crc16modbus)) =
      (c.resolve u (g.received crc16modbus))._clearCurrentRequest._flush
        (rtuMessages crc16modbus) :=
  (g.handle_eq c).trans
  (MBClientRequestHandler.handle_of_fc_eq (M := rtuMessages crc16modbus) hcurrent
    g.answer.isException_readBack (g.answer.fc_readBack.trans hfc))

end SerialAnswer

end Serial

end NodeModbus

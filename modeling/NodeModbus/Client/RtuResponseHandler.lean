import Mathlib.Data.List.Forall2
import NodeModbus.Lib.Framing
import NodeModbus.Lib.Loop
import NodeModbus.Response.Built

/-!
# The RTU client's response handler

`ModbusRTUClientResponseHandler` collects the bytes of a serial line and takes
responses off the front of its buffer until the decoder returns null. A frame has
no length field: the decoder has to find the end of the body on its own.

- `handleData`: one data event. `handleData_eq`: it only depends on the buffer with
  the new bytes behind it.
- `RtuResponseFrame`: a response that goes over the line, `ReceivedAs`: what should
  be made of it.
- `rtu_responses_reassemble`: the responses come out as they were sent, however the
  stream is cut.
-/

namespace NodeModbus

open Buffer Words Framing

/-! ## The handler -/

/-- The bytes that are waiting for the rest of a response, and the responses that came in. -/
structure ModbusRTUClientResponseHandler where
  _buffer : Buffer
  _messages : List ModbusRTUResponse
  deriving DecidableEq

namespace ModbusRTUClientResponseHandler

/-- The constructor. -/
def new : ModbusRTUClientResponseHandler := ⟨[], []⟩

/-- The messages are taken from the front. -/
def shift (h : ModbusRTUClientResponseHandler) :
    Option ModbusRTUResponse × ModbusRTUClientResponseHandler :=
  match h._messages with
  | [] => (none, h)
  | response :: messages => (some response, { h with _messages := messages })

open Loop in
/-- One round of the loop in `handleData`. -/
def handleRound (h : ModbusRTUClientResponseHandler) :
    Round ModbusRTUClientResponseHandler ModbusRTUClientResponseHandler :=
  match ModbusRTUResponse.fromBuffer h._buffer with
  | none => .leave h
  | some response =>
    .next { _buffer := h._buffer.subarrayFrom response.byteCount,
            _messages := h._messages ++ [response] }

/-- The loop in `handleData`: every round shortens the buffer. -/
def handleLoop : Loop.Body ModbusRTUClientResponseHandler ModbusRTUClientResponseHandler where
  round := handleRound
  measure h := h._buffer.length
  decreases := by
    intro h h' hround
    unfold handleRound at hround
    cases hsome : ModbusRTUResponse.fromBuffer h._buffer with
    | none =>
      rw [hsome] at hround
      cases hround
    | some response =>
      simp only [hsome] at hround
      cases hround
      have hne : h._buffer ≠ [] := by
        intro hnil
        rw [hnil, ModbusRTUResponse.fromBuffer_nil] at hsome
        cases hsome
      have hpos := (ModbusRTUResponse.byteCount_of_fromBuffer hsome).1
      exact length_subarrayFrom_lt hne (by omega)

/-- The method `handleData`. -/
def handleData (h : ModbusRTUClientResponseHandler) (data : Buffer) :
    ModbusRTUClientResponseHandler :=
  handleLoop.exec { h with _buffer := h._buffer ++ data }

/-- A list of data events, one after another. -/
def run (h : ModbusRTUClientResponseHandler) (chunks : List Buffer) :
    ModbusRTUClientResponseHandler :=
  chunks.foldl handleData h

/-! ## What a data event depends on -/

/-- What a handler without messages makes of a buffer: the responses and the bytes that are
kept. -/
def drain (buffer : Buffer) : List ModbusRTUResponse × Buffer :=
  let h := handleData new buffer
  (h._messages, h._buffer)

/-- Put more messages in front of the ones there are. -/
def prepend (messages : List ModbusRTUResponse) (h : ModbusRTUClientResponseHandler) :
    ModbusRTUClientResponseHandler :=
  { h with _messages := messages ++ h._messages }

/-- A round of the loop does not look at the messages. -/
theorem handleRound_prepend (messages : List ModbusRTUResponse)
    (h : ModbusRTUClientResponseHandler) :
    handleRound (h.prepend messages) =
      (handleRound h).map (prepend messages) (prepend messages) := by
  unfold handleRound prepend
  cases hsome : ModbusRTUResponse.fromBuffer h._buffer with
  | none => rfl
  | some response =>
    simp only [Loop.Round.map, List.append_assoc]

theorem exec_prepend (messages : List ModbusRTUResponse) (buffer : Buffer) :
    handleLoop.exec ⟨buffer, messages⟩ = (handleLoop.exec ⟨buffer, []⟩).prepend messages := by
  have hexec : handleLoop.exec (prepend messages { _buffer := buffer, _messages := [] }) =
      (handleLoop.exec ⟨buffer, []⟩).prepend messages :=
    Loop.Body.exec_map (l := handleLoop) (handleRound_prepend messages) _
  rw [prepend, List.append_nil] at hexec
  exact hexec

/-- A data event depends on the buffer with the new bytes behind it. -/
theorem handleData_eq (h : ModbusRTUClientResponseHandler) (data : Buffer) :
    handleData h data =
      { _buffer := (drain (h._buffer ++ data)).2,
        _messages := h._messages ++ (drain (h._buffer ++ data)).1 } :=
  exec_prepend h._messages (h._buffer ++ data)

/-- Data events are `Framing.feed`. -/
theorem run_eq_feed (h : ModbusRTUClientResponseHandler) (chunks : List Buffer) :
    run h chunks =
      { _buffer := (feed drain chunks h._buffer).2,
        _messages := h._messages ++ (feed drain chunks h._buffer).1 } :=
  foldl_eq_feed (fun messages buffer => ModbusRTUClientResponseHandler.mk buffer messages)
    (fun messages buffer => handleData_eq ⟨buffer, messages⟩) chunks h._messages h._buffer

/-- The handler as a drain. -/
theorem drain_spec : Drain (fun b => ModbusRTUResponse.fromBuffer b = none)
    (fun b r n => ModbusRTUResponse.fromBuffer b = some r ∧ r.byteCount = (n : Nat)) drain where
  wait {buffer} hnone := by
    have hround : handleLoop.round ⟨buffer, []⟩ = .leave ⟨buffer, []⟩ := by
      show handleRound _ = _
      simp only [handleRound, hnone]
    rw [drain, handleData, new, List.nil_append, Loop.Body.exec_leave hround]
  accept {buffer response n} h := by
    obtain ⟨hsome, hcount⟩ := h
    have hround : handleLoop.round ⟨buffer, []⟩ = .next ⟨buffer.drop n, [response]⟩ := by
      show handleRound _ = _
      simp only [handleRound, hsome, hcount, subarrayFrom_natCast, List.nil_append]
    -- what is decoded first stands in front
    simp only [drain, handleData, new, List.nil_append, Loop.Body.exec_next hround,
      exec_prepend [response], prepend, List.singleton_append]

end ModbusRTUClientResponseHandler

open ModbusRTUClientResponseHandler

/-! ## Reassembly -/

section Rtu

variable (crc16modbus : Buffer → UInt16)

/-- A response that is sent over a serial line, with its bytes. -/
structure RtuResponseFrame where
  response : ModbusRTUResponse
  payload : Buffer
  selfDelimiting : response.body.SelfDelimiting
  encoded : response.createPayload crc16modbus = .ok payload

/-- What a frame should be received as: with its address, the CRC of the bytes in front of
its CRC field, which is that field, and a body that says the same. -/
structure ReceivedAs (f : RtuResponseFrame crc16modbus) (r : ModbusRTUResponse) : Prop where
  address : r.address = f.response.address
  crc : ∃ covered, f.payload = covered ++ le16 (crc16modbus covered).toNat ∧
    r.crc = some ((crc16modbus covered).toNat : Int)
  body : f.response.body.ReadBackAs r.body

variable {crc16modbus}

namespace RtuResponseFrame

/-- The payload of the body a frame is made of, and what is decoded of it. -/
structure Parts (f : RtuResponseFrame crc16modbus) (p : Buffer) : Prop where
  address_range : IsUInt8 f.response.address
  decodes : f.response.body.DecodesTo p f.response.body.readBack
  byteCount : f.response.body.readBack.byteCount = p.length
  payload_eq : f.payload = ModbusRTURequest.frame crc16modbus f.response.address p

theorem exists_parts (f : RtuResponseFrame crc16modbus) : ∃ p, f.Parts p := by
  obtain ⟨p, hp⟩ := f.selfDelimiting.decodesTo
  have hframed := ResponseBody.framed_of_wellFormed f.selfDelimiting.wellFormed hp.payload
  obtain ⟨haddress, hpayload⟩ :=
    ModbusRTUResponse.createPayload_eq_ok crc16modbus hp.payload hframed.byteCount f.encoded
  exact ⟨p, haddress, hp, f.selfDelimiting.byteCount_readBack.trans hframed.byteCount, hpayload⟩

/-- The response that is decoded of a frame. -/
def received (f : RtuResponseFrame crc16modbus) : ModbusRTUResponse :=
  { address := f.response.address,
    crc := some ((crc16modbus (f.payload.take (f.payload.length - 2))).toNat : Int),
    body := f.response.body.readBack }

/-- How the frames are sent, for the framing library: they may be cut anywhere. -/
def format : Format UInt8 ModbusRTUResponse (RtuResponseFrame crc16modbus) where
  bytes := payload
  value := received
  bad _ _ := False

theorem take_frame (address : Int) (p : Buffer) :
    (ModbusRTURequest.frame crc16modbus address p).take
        ((ModbusRTURequest.frame crc16modbus address p).length - 2) = toByte address :: p := by
  rw [ModbusRTURequest.length_frame]
  show (toByte address :: (p ++ _)).take (p.length + 1) = _
  rw [List.take_succ_cons, List.take_left]

theorem receivedAs_received (f : RtuResponseFrame crc16modbus) :
    ReceivedAs crc16modbus f f.received := by
  obtain ⟨p, hf⟩ := f.exists_parts
  refine ⟨rfl, ⟨toByte f.response.address :: p, hf.payload_eq, ?_⟩, f.selfDelimiting.readBackAs⟩
  rw [received, hf.payload_eq, take_frame]

/-- A frame is decoded, whatever follows it. -/
theorem fromBuffer_append (f : RtuResponseFrame crc16modbus) (tail : Buffer) :
    ModbusRTUResponse.fromBuffer (f.payload ++ tail) = some f.received := by
  obtain ⟨p, hf⟩ := f.exists_parts
  have hbody := hf.decodes.decoded
    (le16 (crc16modbus (toByte f.response.address :: p)).toNat ++ tail)
    fun hlegacy => absurd hlegacy f.selfDelimiting.not_legacy
  have haddress : ((toByte f.response.address).toNat : Int) = f.response.address := by
    have hrange := hf.address_range
    unfold IsUInt8 at hrange
    rw [toByte, Int.emod_eq_of_lt hrange.1 (by omega), toNat_ofNat_of_isUInt8 hf.address_range]
  rw [hf.payload_eq, ModbusRTUResponse.fromBuffer_frame_append crc16modbus hbody hf.byteCount,
    received, hf.payload_eq, take_frame, haddress]

/-- Cut short, a frame is refused. -/
theorem fromBuffer_take (f : RtuResponseFrame crc16modbus) {k : Nat}
    (hk : k < f.payload.length) : ModbusRTUResponse.fromBuffer (f.payload.take k) = none := by
  obtain ⟨p, hf⟩ := f.exists_parts
  rw [hf.payload_eq, ModbusRTURequest.length_frame] at hk
  rw [hf.payload_eq, ModbusRTURequest.frame]
  cases k with
  | zero => exact ModbusRTUResponse.fromBuffer_nil
  | succ k =>
    rw [List.take_succ_cons]
    rcases Nat.lt_or_ge k p.length with hlt | hge
    · -- the body is cut: what is decoded of it leaves no room for a CRC
      rw [List.take_append_of_le_length (Nat.le_of_lt hlt)]
      cases hbody : ResponseFactory.fromBuffer (p.take k) with
      | none => rw [ModbusRTUResponse.fromBuffer_cons, hbody, Option.bind_none]
      | some body =>
        have hcount := f.selfDelimiting.byteCount_of_take hf.decodes.payload hlt hbody
        exact ModbusRTUResponse.fromBuffer_eq_none hbody hcount
          (by rw [List.length_take]; omega)
    · -- the body is whole, and the CRC is cut
      rw [List.take_append, List.take_of_length_le hge]
      refine ModbusRTUResponse.fromBuffer_eq_none (hf.decodes.decoded _ ?_) hf.byteCount ?_
      · intro hlegacy
        exact absurd hlegacy f.selfDelimiting.not_legacy
      · rw [List.length_append, List.length_take]
        omega

/-- The decoder recognises a frame. -/
theorem recognised (f : RtuResponseFrame crc16modbus) :
    Recognised format (fun b => ModbusRTUResponse.fromBuffer b = none)
      (fun b r n => ModbusRTUResponse.fromBuffer b = some r ∧ r.byteCount = (n : Nat))
        id f := by
  obtain ⟨p, hf⟩ := f.exists_parts
  refine ⟨?_, ?_, id⟩
  · intro tail
    refine ⟨f.received, ⟨f.fromBuffer_append tail, ?_⟩, rfl⟩
    show f.response.body.readBack.byteCount + 3 = (f.payload.length : Nat)
    rw [hf.byteCount, hf.payload_eq, ModbusRTURequest.length_frame]
    omega
  · intro k hk _
    exact f.fromBuffer_take hk

end RtuResponseFrame

/-- A stream of RTU responses is reassembled, however it is cut: exactly the responses that were
sent come out, in their order, and no byte is left over. -/
theorem rtu_responses_reassemble (frames : List (RtuResponseFrame crc16modbus))
    (chunks : List Buffer)
    (hstream : chunks.flatten = frames.flatMap RtuResponseFrame.payload) :
    List.Forall₂ (ReceivedAs crc16modbus) frames (run new chunks)._messages ∧
      (run new chunks)._buffer = [] := by
  have hgood := reassembled_of_cuts drain_spec ModbusRTUResponse.fromBuffer_nil
    (fun (f : RtuResponseFrame crc16modbus) _ => f.recognised) hstream fun f k _ => id
  have hmessages : (run new chunks)._messages = frames.map RtuResponseFrame.received := by
    rw [run_eq_feed]
    have hvalues := hgood.values
    rw [List.map_id] at hvalues
    exact hvalues
  constructor
  · rw [hmessages, List.forall₂_map_right_iff, List.forall₂_same]
    intro f _
    exact f.receivedAs_received
  · rw [run_eq_feed]
    exact hgood.empty

/-- The CRC of the one frame below. -/
def twoRegistersCrc (b : Buffer) : UInt16 := if b = [1, 3, 4, 0, 10, 0, 11] then 0xF69B else 0

/-- The registers 10 and 11, from unit 1. -/
def rtuTwoRegisters : RtuResponseFrame twoRegistersCrc where
  response :=
    { address := 1, crc := none, body := .readHoldingRegisters (.ofBuffer 4 [0, 10, 0, 11]) }
  payload := [1, 3, 4, 0, 10, 0, 11, 0x9B, 0xF6]
  selfDelimiting :=
    .built (@ResponseBody.Built.readHoldingRegisters [0, 10, 0, 11] 2 _ (by decide) rfl
    rfl) id
  encoded := rfl

/-- Two frames in three pieces: nothing comes out of a part of a frame. -/
theorem rtu_responses_reassemble_twoRegisters :
    List.Forall₂ (ReceivedAs twoRegistersCrc) [rtuTwoRegisters, rtuTwoRegisters]
        (run new [rtuTwoRegisters.payload.take 5,
          rtuTwoRegisters.payload.drop 5 ++ rtuTwoRegisters.payload.take 1,
          rtuTwoRegisters.payload.drop 1])._messages ∧
      (run new [rtuTwoRegisters.payload.take 5,
        rtuTwoRegisters.payload.drop 5 ++ rtuTwoRegisters.payload.take 1,
        rtuTwoRegisters.payload.drop 1])._buffer = [] :=
  rtu_responses_reassemble [rtuTwoRegisters, rtuTwoRegisters] _ (by decide)

end Rtu

end NodeModbus

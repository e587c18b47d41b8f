import NodeModbus.Lib.Framing
import NodeModbus.Lib.Loop
import NodeModbus.Lib.Transition
import NodeModbus.Response.Frame

/-!
# The TCP client's response handler

`ModbusTCPClientResponseHandler` collects the bytes of a connection and takes
responses off the front of its buffer until the decoder returns null.

- `handleData`: one data event. `handleData_eq`: it only depends on the buffer with
  the new bytes behind it, and adds what it decodes behind the messages.
- `run_eq_feed`: a list of data events is `Framing.feed`.
- `drain_wait`, `drain_accept`: what happens at the front of a buffer.
- `tcp_responses_reassemble_iff`: the responses come out as they were sent, and none
  before its last byte, if and only if no chunk ends where a response cut short
  is decoded.
- `responses_not_complete_iff`, `responses_run_not_complete_iff`: no complete frame
  stays in front of the buffer if and only if every complete frame that is come to
  can be decoded.
-/

namespace NodeModbus

open Buffer Framing

/-! ## The handler -/

/-- The bytes that are waiting for the rest of a response, and the responses that came in. -/
structure ModbusTCPClientResponseHandler where
  _buffer : Buffer
  _messages : List ModbusTCPResponse
  deriving DecidableEq

namespace ModbusTCPClientResponseHandler

/-- The constructor. -/
def new : ModbusTCPClientResponseHandler := ⟨[], []⟩

/-- The messages are taken from the front. -/
def shift (h : ModbusTCPClientResponseHandler) :
    Option ModbusTCPResponse × ModbusTCPClientResponseHandler :=
  match h._messages with
  | [] => (none, h)
  | response :: messages => (some response, { h with _messages := messages })

open Loop in
/-- One round of the loop in `handleData`. -/
def handleRound (h : ModbusTCPClientResponseHandler) :
    Round ModbusTCPClientResponseHandler ModbusTCPClientResponseHandler :=
  match ModbusTCPResponse.fromBuffer h._buffer with
  | none => .leave h
  | some response =>
    .next { _buffer := h._buffer.subarrayFrom response.byteCount,
            _messages := h._messages ++ [response] }

/-- The loop in `handleData`: every round shortens the buffer. -/
def handleLoop : Loop.Body ModbusTCPClientResponseHandler ModbusTCPClientResponseHandler where
  round := handleRound
  measure h := h._buffer.length
  decreases := by
    intro h h' hround
    unfold handleRound at hround
    cases hsome : ModbusTCPResponse.fromBuffer h._buffer with
    | none =>
      rw [hsome] at hround
      cases hround
    | some response =>
      simp only [hsome] at hround
      cases hround
      have hne : h._buffer ≠ [] := by
        intro hnil
        rw [hnil, ModbusTCPResponse.fromBuffer_eq_none (by decide)] at hsome
        cases hsome
      exact length_subarrayFrom_lt hne (by rw [ModbusTCPResponse.byteCount_eq hsome]; omega)

/-- The method `handleData`. -/
def handleData (h : ModbusTCPClientResponseHandler) (data : Buffer) :
    ModbusTCPClientResponseHandler :=
  handleLoop.exec { h with _buffer := h._buffer ++ data }

/-- A list of data events, one after another. -/
def run (h : ModbusTCPClientResponseHandler) (chunks : List Buffer) :
    ModbusTCPClientResponseHandler :=
  chunks.foldl handleData h

/-! ## What a data event depends on -/

/-- What a handler without messages makes of a buffer: the responses and the bytes that are
kept. -/
def drain (buffer : Buffer) : List ModbusTCPResponse × Buffer :=
  let h := handleData new buffer
  (h._messages, h._buffer)

/-- Put more messages in front of the ones there are. -/
def prepend (messages : List ModbusTCPResponse) (h : ModbusTCPClientResponseHandler) :
    ModbusTCPClientResponseHandler :=
  { h with _messages := messages ++ h._messages }

/-- A round of the loop does not look at the messages. -/
theorem handleRound_prepend (messages : List ModbusTCPResponse)
    (h : ModbusTCPClientResponseHandler) :
    handleRound (h.prepend messages) =
      (handleRound h).map (prepend messages) (prepend messages) := by
  unfold handleRound prepend
  cases hsome : ModbusTCPResponse.fromBuffer h._buffer with
  | none => rfl
  | some response =>
    simp only [Loop.Round.map, List.append_assoc]

/-- Nor does the loop. -/
theorem exec_prepend (messages : List ModbusTCPResponse) (h : ModbusTCPClientResponseHandler) :
    handleLoop.exec (h.prepend messages) = (handleLoop.exec h).prepend messages :=
  Loop.Body.exec_map (handleRound_prepend messages) h

/-- A data event depends on the buffer with the new bytes behind it. -/
theorem handleData_eq (h : ModbusTCPClientResponseHandler) (data : Buffer) :
    handleData h data =
      { _buffer := (drain (h._buffer ++ data)).2,
        _messages := h._messages ++ (drain (h._buffer ++ data)).1 } := by
  have hexec := exec_prepend h._messages { _buffer := h._buffer ++ data, _messages := [] }
  rw [prepend, List.append_nil] at hexec
  exact hexec

/-- Data events are `Framing.feed`. -/
theorem run_eq_feed (h : ModbusTCPClientResponseHandler) (chunks : List Buffer) :
    run h chunks =
      { _buffer := (feed drain chunks h._buffer).2,
        _messages := h._messages ++ (feed drain chunks h._buffer).1 } :=
  foldl_eq_feed (fun messages buffer => ModbusTCPClientResponseHandler.mk buffer messages)
    (fun messages buffer => handleData_eq ⟨buffer, messages⟩) chunks h._messages h._buffer

theorem run_new (chunks : List Buffer) :
    run new chunks =
      { _buffer := (feed drain chunks []).2, _messages := (feed drain chunks []).1 } := by
  rw [run_eq_feed, new, List.nil_append]

theorem drain_wait {buffer : Buffer} (hnone : ModbusTCPResponse.fromBuffer buffer = none) :
    drain buffer = ([], buffer) := by
  have hround : handleLoop.round ⟨buffer, []⟩ = .leave ⟨buffer, []⟩ := by
    show handleRound _ = _
    simp only [handleRound, hnone]
  rw [drain, handleData, new, List.nil_append, Loop.Body.exec_leave hround]

/-- A response is taken off, with the bytes it announces. -/
theorem drain_accept {buffer : Buffer} {response : ModbusTCPResponse}
    (hsome : ModbusTCPResponse.fromBuffer buffer = some response) :
    drain buffer =
      (response :: (drain (buffer.subarrayFrom response.byteCount)).1,
        (drain (buffer.subarrayFrom response.byteCount)).2) := by
  have hround : handleLoop.round ⟨buffer, []⟩ =
      .next ⟨buffer.subarrayFrom response.byteCount, [response]⟩ := by
    show handleRound _ = _
    simp only [handleRound, hsome, List.nil_append]
  have hqueue := exec_prepend [response] ⟨buffer.subarrayFrom response.byteCount, []⟩
  -- what is decoded first stands in front
  rw [prepend, List.append_nil] at hqueue
  simp only [drain, handleData, new, List.nil_append, Loop.Body.exec_next hround, hqueue,
    prepend, List.singleton_append]

/-- The handler as a drain. -/
theorem drain_spec : Drain (fun b => ModbusTCPResponse.fromBuffer b = none)
    (fun b r n => ModbusTCPResponse.fromBuffer b = some r ∧ r.byteCount = (n : Nat)) drain where
  wait h := drain_wait h
  accept h := by
    obtain ⟨hsome, hcount⟩ := h
    rw [drain_accept hsome, hcount, subarrayFrom_natCast]

end ModbusTCPClientResponseHandler

open ModbusTCPClientResponseHandler

/-! ## Reassembly -/

/-- A response that is sent over TCP, with its bytes. -/
structure TcpResponseFrame where
  response : ModbusTCPResponse
  payload : Buffer
  wellFormed : response.body.WellFormed
  bodyLength_eq : response.bodyLength = response.body.byteCount + 1
  encoded : response.createPayload = .ok payload

namespace TcpResponseFrame

/-- The lengths at which a frame cut short is taken for a shorter one: behind the byte count
of a holding register response, and in front of the exception code of an exception with a
MEI type. -/
def EarlyCut (f : TcpResponseFrame) (k : Nat) : Prop :=
  (∃ b, f.response.body = .readHoldingRegisters b ∧ 9 ≤ k) ∨
    (∃ b, f.response.body = .exception b ∧ b.meiType ≠ none ∧ k = 9)

/-- How the frames are sent, for the framing library. -/
def format : Format UInt8 (Int × Int × Int × Int × ResponseContent) TcpResponseFrame where
  bytes := payload
  value f := f.response.content
  bad := EarlyCut

/-- The header fields and the payload of the body a frame is made of. -/
structure Parts (f : TcpResponseFrame) (id protocol unitId : Nat) (p : Buffer) : Prop where
  id_eq : f.response.id = id
  protocol_eq : f.response.protocol = protocol
  bodyLength_eq : f.response.bodyLength = (p.length + 1 : Nat)
  unitId_eq : f.response.unitId = unitId
  id_lt : id < 65536
  protocol_lt : protocol < 65536
  unitId_lt : unitId < 256
  length_lt : p.length + 1 < 65536
  framed : f.response.body.Framed p
  payload_eq : f.payload = mbapFrame id protocol unitId p

theorem exists_parts (f : TcpResponseFrame) :
    ∃ id protocol unitId p, f.Parts id protocol unitId p := by
  have hencoded := f.encoded
  obtain ⟨_, _, h⟩ := bind_eq_ok.mp hencoded
  obtain ⟨_, _, h⟩ := bind_eq_ok.mp h
  obtain ⟨p, hp, -⟩ := bind_eq_ok.mp h
  have hframed := ResponseBody.framed_of_wellFormed f.wellFormed hp
  have hlength : f.response.bodyLength = p.length + 1 := by
    rw [f.bodyLength_eq, hframed.byteCount]
  rw [ModbusTCPResponse.createPayload_eq hp hlength] at hencoded
  split at hencoded
  · rename_i hrange
    obtain ⟨hid, hprotocol, hlen, hunit⟩ := hrange
    unfold IsUInt16 at hid hprotocol hlen
    unfold IsUInt8 at hunit
    exact ⟨f.response.id.toNat, f.response.protocol.toNat, f.response.unitId.toNat, p,
      { id_eq := (Int.toNat_of_nonneg hid.1).symm
        protocol_eq := (Int.toNat_of_nonneg hprotocol.1).symm
        bodyLength_eq := hlength
        unitId_eq := (Int.toNat_of_nonneg hunit.1).symm
        id_lt := by omega
        protocol_lt := by omega
        unitId_lt := by omega
        length_lt := by omega
        framed := hframed
        payload_eq := (Except.ok.inj hencoded).symm }⟩
  · cases hencoded

theorem earlyCut_add_seven (f : TcpResponseFrame) (k : Nat) :
    f.EarlyCut (k + 7) ↔ f.response.body.EarlyCut k := by
  unfold EarlyCut ResponseBody.EarlyCut
  cases f.response.body with
  | readHoldingRegisters b => simp
  | exception b => simp
  | _ => simp

/-- Cut behind its header, a frame is decoded as what the factory makes of the front of its
body. -/
theorem fromBuffer_take {f : TcpResponseFrame} {id protocol unitId : Nat} {p : Buffer}
    (hf : f.Parts id protocol unitId p) {k : Nat} (hk : k ≤ p.length) :
    ModbusTCPResponse.fromBuffer (f.payload.take (k + 7)) =
      (ResponseFactory.fromBuffer (p.take k)).map fun body =>
        { id, protocol, bodyLength := (p.length + 1 : Nat), unitId, body } := by
  rw [hf.payload_eq, ModbusTCPResponse.fromBuffer_eq,
    splitMbap_take hf.id_lt hf.protocol_lt hf.unitId_lt hf.length_lt hk, Option.bind_some]
  rfl

/-- The decoder recognises a frame. -/
theorem recognised (f : TcpResponseFrame) :
    Recognised format (fun b => ModbusTCPResponse.fromBuffer b = none)
      (fun b r n => ModbusTCPResponse.fromBuffer b = some r ∧ r.byteCount = (n : Nat))
      ModbusTCPResponse.content f := by
  obtain ⟨id, protocol, unitId, p, hf⟩ := f.exists_parts
  refine ⟨?_, ?_, ?_⟩
  · intro tail
    obtain ⟨body, hbody, hcontent⟩ := hf.framed.complete
    refine ⟨{ id, protocol, bodyLength := (p.length + 1 : Nat), unitId, body }, ⟨?_, ?_⟩, ?_⟩
    · show ModbusTCPResponse.fromBuffer (f.payload ++ tail) = _
      rw [hf.payload_eq, ModbusTCPResponse.fromBuffer_eq,
        splitMbap_append hf.id_lt hf.protocol_lt hf.unitId_lt hf.length_lt,
        Option.bind_some, hbody]
      rfl
    · show ((p.length + 1 : Nat) : Int) + 6 = (f.payload.length : Nat)
      rw [hf.payload_eq, length_mbapFrame]
      omega
    · show ((id : Int), (protocol : Int), ((p.length + 1 : Nat) : Int), (unitId : Int),
        body.content) = f.response.content
      rw [ModbusTCPResponse.content, hf.id_eq, hf.protocol_eq, hf.bodyLength_eq, hf.unitId_eq,
        hcontent]
  · intro k hk hearly
    have hk' : k < f.payload.length := hk
    show ModbusTCPResponse.fromBuffer (f.payload.take k) = none
    -- the cut is in the header, or in the body, which refuses it
    rcases Nat.lt_or_ge k 7 with hk7 | hk7
    · exact ModbusTCPResponse.fromBuffer_eq_none (by rw [List.length_take]; omega)
    · obtain ⟨j, rfl⟩ : ∃ j, k = j + 7 := ⟨k - 7, by omega⟩
      rw [hf.payload_eq, length_mbapFrame] at hk'
      have hrefused := hf.framed.refused j (by omega) fun h =>
        hearly ((f.earlyCut_add_seven j).mpr h)
      rw [fromBuffer_take hf (by omega), hrefused, Option.map_none]
  · rintro (⟨b, -, h⟩ | ⟨b, -, -, h⟩) <;> cases h

/-- At an early cut the decoder makes a response of other content. -/
theorem accepted_early (f : TcpResponseFrame) {k : Nat} (hk : k < f.payload.length)
    (h : f.EarlyCut k) :
    ∃ r, ModbusTCPResponse.fromBuffer (f.payload.take k) = some r ∧
      (∃ n : Nat, r.byteCount = n) ∧ r.content ≠ f.response.content := by
  obtain ⟨id, protocol, unitId, p, hf⟩ := f.exists_parts
  obtain ⟨j, rfl⟩ : ∃ j, k = j + 7 := by
    rcases h with ⟨b, -, hk⟩ | ⟨b, -, -, rfl⟩
    · exact ⟨k - 7, by omega⟩
    · exact ⟨2, rfl⟩
  have hj : j < p.length := by
    rw [hf.payload_eq, length_mbapFrame] at hk
    omega
  obtain ⟨body, hbody, hcontent⟩ := hf.framed.early j hj ((f.earlyCut_add_seven j).mp h)
  refine ⟨{ id, protocol, bodyLength := (p.length + 1 : Nat), unitId, body }, ?_,
    ⟨p.length + 7, ?_⟩, fun heq => ?_⟩
  · rw [fromBuffer_take hf (Nat.le_of_lt hj), hbody, Option.map_some]
  · show ((p.length + 1 : Nat) : Int) + 6 = _
    omega
  · exact hcontent (congrArg (fun c => c.2.2.2.2) heq)

end TcpResponseFrame

/-- What is promised of a stream of frames: the responses come out in their order and as they
were sent, no byte is left over, and no response comes out before its last byte has arrived. -/
structure TcpResponsesReassemble (frames : List TcpResponseFrame) (chunks : List Buffer) :
    Prop where
  produced : (run new chunks)._messages.map ModbusTCPResponse.content =
    frames.map fun f => f.response.content
  empty : (run new chunks)._buffer = []
  notEarly : ∀ before after, chunks = before ++ after →
    ∀ pre f post, frames = pre ++ f :: post →
    before.flatten.length < ((pre ++ [f]).flatMap TcpResponseFrame.payload).length →
    (run new before)._messages.length ≤ pre.length

/-- Some chunk ends inside a frame at a length at which it is taken for a shorter one. -/
def CutsResponse (frames : List TcpResponseFrame) (chunks : List Buffer) : Prop :=
  ∃ before after pre f post k, chunks = before ++ after ∧ frames = pre ++ f :: post ∧
    before.flatten.length = (pre.flatMap TcpResponseFrame.payload).length + k ∧
    k < f.payload.length ∧ f.EarlyCut k

theorem cutsResponse_iff (frames : List TcpResponseFrame) (chunks : List Buffer) :
    CutsResponse frames chunks ↔
      ∃ f k, CutAt TcpResponseFrame.format [] chunks frames f k ∧ f.EarlyCut k := by
  constructor
  · rintro ⟨before, after, pre, f, post, k, hchunks, hframes, hlen, hk, hcut⟩
    exact ⟨f, k, ⟨before, after, pre, post, hchunks, hframes, hk, hlen⟩, hcut⟩
  · rintro ⟨f, k, ⟨before, after, pre, post, hchunks, hframes, hk, hlen⟩, hcut⟩
    exact ⟨before, after, pre, f, post, k, hchunks, hframes, hlen, hk, hcut⟩

theorem tcpResponsesReassemble_iff (frames : List TcpResponseFrame) (chunks : List Buffer) :
    TcpResponsesReassemble frames chunks ↔
      Reassembled TcpResponseFrame.format drain ModbusTCPResponse.content frames chunks := by
  constructor
  · rintro ⟨hproduced, hempty, hearly⟩
    simp only [run_new] at hproduced hempty hearly
    exact ⟨hproduced, hempty, hearly⟩
  · rintro ⟨hvalues, hempty, hearly⟩
    refine ⟨?_, ?_, ?_⟩ <;> simp only [run_new]
    · exact hvalues
    · exact hempty
    · exact hearly

/-- A stream of TCP responses is reassembled, however it is cut, if and only if no chunk
ends behind the byte count inside a holding register response, or in front of the exception
code of an exception with a MEI type. -/
theorem tcp_responses_reassemble_iff (frames : List TcpResponseFrame) (chunks : List Buffer)
    (hstream : chunks.flatten = frames.flatMap TcpResponseFrame.payload) :
    TcpResponsesReassemble frames chunks ↔ ¬ CutsResponse frames chunks := by
  rw [tcpResponsesReassemble_iff, cutsResponse_iff]
  refine reassembled_iff drain_spec rfl (fun f _ => f.recognised) hstream ?_
  intro f _ k hk hcut
  obtain ⟨r, hr, ⟨n, hn⟩, hne⟩ := f.accepted_early hk hcut
  exact ⟨r, n, ⟨hr, hn⟩, hne⟩

/-- The registers 10 and 11, in answer to transaction id 1. -/
def twoRegisters : TcpResponseFrame where
  response :=
    { id := 1, protocol := 0, bodyLength := 7, unitId := 1,
      body := .readHoldingRegisters (.ofBuffer 4 [0, 10, 0, 11]) }
  payload := [0, 1, 0, 0, 0, 7, 1, 3, 4, 0, 10, 0, 11]
  wellFormed := ⟨.buffer [0, 10, 0, 11], rfl, rfl⟩
  bodyLength_eq := rfl
  encoded := rfl

/-- Two frames in three pieces, cut behind the function code and inside of the second header. -/
theorem tcp_responses_reassemble_iff_twoRegisters :
    TcpResponsesReassemble [twoRegisters, twoRegisters]
        [twoRegisters.payload.take 8,
          twoRegisters.payload.drop 8 ++ twoRegisters.payload.take 5,
          twoRegisters.payload.drop 5] ↔
      ¬ CutsResponse [twoRegisters, twoRegisters]
        [twoRegisters.payload.take 8,
          twoRegisters.payload.drop 8 ++ twoRegisters.payload.take 5,
          twoRegisters.payload.drop 5] :=
  tcp_responses_reassemble_iff _ _ (by decide)

/-- The frame cut behind its first register: a response with that register comes out, and
the rest of the frame stays. -/
theorem not_tcpResponsesReassemble_twoRegisters :
    [twoRegisters.payload.take 11, twoRegisters.payload.drop 11].flatten =
        [twoRegisters].flatMap TcpResponseFrame.payload ∧
      ¬ TcpResponsesReassemble [twoRegisters]
        [twoRegisters.payload.take 11, twoRegisters.payload.drop 11] :=
  ⟨by decide, fun h => absurd h.produced (by decide)⟩

/-! ## Frames that block a connection -/

/-- One data event: no complete frame is left in front of the buffer if and only if, from
the front on, every complete frame of the buffer with the new bytes can be decoded. -/
theorem responses_not_complete_iff (h : ModbusTCPClientResponseHandler) (data : Buffer) :
    ¬ Complete (handleData h data)._buffer ↔
    Clears ResponseFactory.Decodable (h._buffer ++ data) := by
  have hdrain : Drain (fun b => ModbusTCPResponse.fromBuffer b = none)
      (fun b r n => ModbusTCPResponse.fromBuffer b = some r ∧ n = 6 + mbapLength b) drain :=
    { wait := drain_spec.wait
      accept := by
        rintro b r n ⟨hsome, rfl⟩
        exact drain_spec.accept ⟨hsome, ModbusTCPResponse.byteCount_eq hsome⟩ }
  rw [handleData_eq]
  exact not_complete_drain_iff hdrain (fun b => ModbusTCPResponse.fromBuffer_eq_none)
    (fun b hlen => ModbusTCPResponse.fromBuffer_isSome_iff hlen) (h._buffer ++ data)

/-- A run: no data event leaves a complete frame in front of the buffer if and only if, at every
data event, every complete frame that is come to can be decoded. -/
theorem responses_run_not_complete_iff (chunks : List Buffer) :
    (∀ before after, chunks = before ++ after → ¬ Complete (run new before)._buffer) ↔
      ∀ before chunk after, chunks = before ++ chunk :: after →
        Clears ResponseFactory.Decodable ((run new before)._buffer ++ chunk) := by
  have hnew : ¬ Complete new._buffer := by decide
  exact Transition.foldl_prefixes_iff
    (P := fun h : ModbusTCPClientResponseHandler => ¬ Complete h._buffer) hnew
    responses_not_complete_iff chunks

/-- A complete frame with function code 7, which no decoder takes, and a valid response. -/
def unknownFirst : List Buffer :=
  [[0, 1, 0, 0, 0, 3, 1, 7, 0], [0, 2, 0, 0, 0, 4, 1, 1, 1, 1]]

/-- The frame stays in front of the buffer, and the valid one behind it is not delivered. -/
theorem not_responses_run_unknownFirst :
    (¬ ∀ before after, unknownFirst = before ++ after → ¬ Complete (run new before)._buffer) ∧
    (run new unknownFirst)._messages = [] :=
  ⟨fun h => absurd (h unknownFirst [] rfl) (by decide), by decide⟩

end NodeModbus

import Mathlib.Data.List.Induction
import NodeModbus.Lib.Framing
import NodeModbus.Lib.Transition
import NodeModbus.Request.Window
import NodeModbus.Server.Reassembly
import NodeModbus.Server.Totality

/-!
# What a CRC protects

Over RTU the CRC is computed over the bytes the byte count of the body announces,
and the values are cut out by the byte count field of the frame. The two lengths
are not always the same.

- `LooksBehind`: the decoder looks behind the CRC for values.
- `windowContent`: what the bytes under a CRC ask for.
- `run_readUnderCrc`: in a run that accepts no request whose decoder looks behind the CRC,
  every request is read from the bytes under its CRC.
-/

namespace NodeModbus

open Buffer Words ModbusServerRequestHandler

/-- A write of several registers with more than 242 data bytes, or a write of several coils
without a quantity whose data bytes are not all there. -/
def LooksBehind : Buffer → Prop
  | _ :: f :: _ :: _ :: q :: q' :: n :: data =>
    f.toNat = FC.writeMultipleHoldingRegisters.code ∧ 242 < n.toNat ∨
      f.toNat = FC.writeMultipleCoils.code ∧ u16 q q' = 0 ∧ data.length < n.toNat
  | _ => False

/-- What the body of a write of several coils asks for. Without a quantity it is the byte count
field that says how many coils are written. -/
def coilWriteContent : Buffer → Option RequestContent
  | _ :: x :: x' :: q :: q' :: n :: data =>
    let quantity := if u16 q q' = 0 then n.toNat else u16 q q'
    some (.writeMultipleCoils (u16 x x') quantity ((Bits.unpack data).take quantity))
  | _ => none

/-- What the bytes under a CRC ask for: unit address, and content of the body. -/
def windowContent (crc16modbus : Buffer → UInt16) : Buffer → Option (UInt8 × RequestContent)
  | [] => none
  | a :: pdu =>
    (if (pdu.headD 0).toNat = FC.writeMultipleCoils.code then coilWriteContent pdu
      else (RequestFactory.fromBuffer (pdu ++ le16 (crc16modbus (a :: pdu)).toNat)).map
        RequestBody.content).map (Prod.mk a)

/-! ## Accepted requests -/

/-- The first bits do not depend on where behind them the bytes are cut. -/
theorem take_unpack_take (bytes : Buffer) {n m : Nat} (h : n ≤ 8 * m) :
    (Bits.unpack (bytes.take m)).take n = (Bits.unpack bytes).take n := by
  rw [Bits.unpack_take, List.take_take, Nat.min_eq_left h]

/-- What a body of coils asks for is in the bytes its byte count announces. -/
theorem coilWriteContent_eq {p tail : Buffer} {b : WriteMultipleCoilsRequestBody} {a : UInt8}
    (hsome : WriteMultipleCoilsRequestBody.fromBuffer (p ++ tail) = some b)
    (hcount : b.byteCount = p.length) (hin : ¬ LooksBehind (a :: (p ++ tail))) :
    coilWriteContent p = some (RequestBody.writeMultipleCoils b).content := by
  -- the byte count is at least six, so the header is in the window
  obtain ⟨address, quantity, values, -, -, -, -, hb⟩ :=
    WriteMultipleCoilsRequestBody.eq_ofBuffer hsome
  have hsix : 6 ≤ p.length := by
    have hceil : b.byteCount = ceilDiv8 b.quantity + 6 := by
      rw [hb]
      rfl
    have hquantity : 0 ≤ b.quantity := by
      rw [hb]
      show (0 : Int) ≤ ((if quantity = 0 then values.length else quantity : Nat) : Int)
      omega
    unfold ceilDiv8 at hceil
    omega
  clear hb
  rcases p with _ | ⟨f, _ | ⟨x, _ | ⟨x', _ | ⟨q, _ | ⟨q', _ | ⟨n, data⟩⟩⟩⟩⟩⟩
  case cons.cons.cons.cons.cons.cons =>
    have hcons := WriteMultipleCoilsRequestBody.fromBuffer_cons f x x' q q' n (data ++ tail)
    rw [show f :: x :: x' :: q :: q' :: n :: (data ++ tail) =
      f :: x :: x' :: q :: q' :: n :: data ++ tail from rfl, hsome] at hcons
    split at hcons
    · rename_i hok
      obtain ⟨hf, hbits⟩ := hok
      obtain rfl := Option.some.inj hcons
      -- the data bytes are as many as the byte count field says, if it is that field that
      -- counts
      have hlen := List.length_take_le n.toNat (data ++ tail)
      have hall : u16 q q' = 0 → n.toNat ≤ (data ++ tail).length := fun hzero =>
        Nat.not_lt.mp fun hlt => hin (.inr ⟨hf, hzero, hlt⟩)
      have hquantity :
          (if u16 q q' = 0 then ((data ++ tail).take n.toNat).length else u16 q q') =
          if u16 q q' = 0 then n.toNat else u16 q q' := by
        split
        · rename_i hzero
          exact List.length_take_of_le (hall hzero)
        · rfl
      have hle : (if u16 q q' = 0 then n.toNat else u16 q q') ≤
          8 * ((data ++ tail).take n.toNat).length := by
        rw [← hquantity]
        split <;> omega
      show some (RequestContent.writeMultipleCoils _ _ _) = some (.writeMultipleCoils _ _ _)
      simp only [WriteMultipleCoilsRequestBody.ofBuffer, hquantity] at hcount ⊢
      generalize (if u16 q q' = 0 then n.toNat else u16 q q') = quantity at hle hcount ⊢
      unfold ceilDiv8 at hcount
      simp only [List.length_cons] at hcount
      -- the bits are in the window
      have hwindow : (Bits.unpack data).take quantity =
          (Bits.unpack (data ++ tail)).take quantity := by
        have hfront :=
          take_unpack_take (data ++ tail) (n := quantity) (m := data.length) (by omega)
        rw [List.take_left] at hfront
        exact hfront
      rw [hwindow, take_unpack_take _ (by omega)]
    · cases hcons
  all_goals
    simp at hsix

/-- The decoder of any other body does not look behind the CRC. -/
theorem extent_le_of_not_looksBehind {a : UInt8} {buffer : Buffer} {body : RequestBody}
    (hbody : RequestFactory.fromBuffer buffer = some body) (hfc : body.fc ≠ .writeMultipleCoils)
    (hin : ¬ LooksBehind (a :: buffer)) : (body.extent : Int) ≤ body.byteCount + 2 := by
  cases hb : body with
  | writeMultipleCoils b =>
    rw [hb] at hfc
    exact absurd rfl hfc
  | writeMultipleRegisters b =>
    subst hb
    rcases buffer with _ | ⟨f, rest⟩
    · cases hbody
    rw [RequestFactory.fromBuffer_cons] at hbody
    obtain ⟨fc, hcode, hdec⟩ := Option.bind_eq_some_iff.mp hbody
    obtain rfl : fc = .writeMultipleHoldingRegisters := (RequestFactory.fc_of_decoder hdec).symm
    obtain ⟨b', hb', heq⟩ := Option.map_eq_some_iff.mp hdec
    obtain rfl := RequestBody.writeMultipleRegisters.inj heq
    rcases rest with _ | ⟨x, _ | ⟨x', _ | ⟨q, _ | ⟨q', _ | ⟨n, data⟩⟩⟩⟩⟩
    case cons.cons.cons.cons.cons =>
      rw [WriteMultipleRegistersRequestBody.fromBuffer_cons] at hb'
      split at hb'
      · rename_i hok
        obtain rfl := Option.some.inj hb'
        -- at most two bytes are taken from behind the byte count, and those are the CRC
        have hlen := List.length_take_le n.toNat data
        have hn : ¬ 242 < n.toNat := fun hlt => hin (.inl ⟨hok.1, hlt⟩)
        show (((data.take n.toNat).length + 6 : Nat) : Int) ≤
          min (((data.take n.toNat).length : Int) + 6) 0xF6 + 2
        omega
      · cases hb'
    all_goals
      rw [WriteMultipleRegistersRequestBody.fromBuffer_short (by simp)] at hb'
      cases hb'
  | exception b =>
    have hwire := RequestFactory.fromWire hbody
    rw [hb] at hwire
    cases hwire
  | _ => simp [RequestBody.extent, RequestBody.byteCount]

variable {crc16modbus : Buffer → UInt16}

/-- A request that is accepted is read from the bytes under its CRC, when its decoder does
not look behind the CRC. -/
theorem exists_window {b : Buffer} {r : ModbusRTURequest}
    (h : ModbusRTURequest.fromBuffer crc16modbus b = some r) (hcorrupted : r.corrupted = false)
    (hin : ¬ LooksBehind b) :
    ∃ w tail, b = w ++ (le16 (crc16modbus w).toNat ++ tail) ∧
    r.byteCount = (w.length + 2 : Nat) ∧
      windowContent crc16modbus w = some r.content := by
  obtain ⟨a, p, tail, rfl, haddress, hcount, hbody⟩ :=
    ModbusRTURequest.exists_frame h hcorrupted
  have hframe : ModbusRTURequest.frame crc16modbus a.toNat p ++ tail =
      a :: (p ++ (le16 (crc16modbus (a :: p)).toNat ++ tail)) := by
    rw [ModbusRTURequest.frame, toByte_toNat, List.cons_append, List.append_assoc]
  rw [hframe] at hin ⊢
  refine ⟨a :: p, tail, rfl, ?_, ?_⟩
  · rw [ModbusRTURequest.byteCount, hcount, List.length_cons]
    omega
  rw [ModbusRTURequest.content, haddress, toByte_toNat]
  rcases p with _ | ⟨f, p⟩
  · have hpos := RequestFactory.byteCount_pos hbody
    rw [hcount] at hpos
    exact absurd hpos (by decide)
  have hcons := hbody
  rw [List.cons_append, RequestFactory.fromBuffer_cons] at hcons
  obtain ⟨fc, hcode, hdec⟩ := Option.bind_eq_some_iff.mp hcons
  have hf : f.toNat = fc.code := by exact_mod_cast FC.code_of_ofCode? hcode
  have hfc := RequestFactory.fc_of_decoder hdec
  by_cases hcoils : fc = .writeMultipleCoils
  · subst hcoils
    obtain ⟨body, hsome, hr⟩ := Option.map_eq_some_iff.mp hdec
    rw [← hr] at hcount ⊢
    have hcontent := coilWriteContent_eq hsome hcount hin
    rw [windowContent, List.headD_cons, if_pos hf, hcontent]
    rfl
  · have hother : f.toNat ≠ FC.writeMultipleCoils.code := by
      intro hcode'
      rw [hf] at hcode'
      exact hcoils (by cases fc <;> first | rfl | cases hcode')
    have hextent := extent_le_of_not_looksBehind hbody (hfc ▸ hcoils) hin
    -- of the window and its CRC alone the decoder makes the same body
    have htake := (RequestFactory.fromBuffer_take hbody).2 (n := (f :: p).length + 2) (by omega)
    have hcrc : (le16 (crc16modbus (a :: f :: p)).toNat ++ tail).take 2 =
        le16 (crc16modbus (a :: f :: p)).toNat := rfl
    rw [List.take_length_add_append, hcrc] at htake
    rw [windowContent, List.headD_cons, if_neg hother, htake]
    rfl

/-! ## Runs -/

/-- A request is accepted whose decoder looks behind the CRC. -/
def AcceptsBehind (crc16modbus : Buffer → UInt16) (b : Buffer) : Prop :=
  (∃ r, ModbusRTURequest.fromBuffer crc16modbus b = some r ∧ r.corrupted = false) ∧
    LooksBehind b

/-- The requests in a queue, the oldest first, are what the bytes under the CRCs in the
stream are interpreted as. -/
def ReadUnderCrc (crc16modbus : Buffer → UInt16)
    (interpret : Buffer → Option (UInt8 × RequestContent)) (stream : Buffer)
    (queue : List ModbusRTURequest) : Prop :=
  Windows.ReadFrom (fun w => le16 (crc16modbus w).toNat) interpret stream
    (queue.reverse.map ModbusRTURequest.content)

/-- A round moves bytes from the buffer to what is behind it, and adds a window when it
accepts a request. -/
theorem readUnderCrc_of_next {s s' : HandleState ModbusRTURequest}
    (hs : handleRound (rtuReader crc16modbus) s = .next s')
    (hin : ¬ AcceptsBehind crc16modbus s.handler._buffer) {past : Buffer}
    (hpast : ReadUnderCrc crc16modbus (windowContent crc16modbus) past s.handler._requests) :
    ∃ past', past' ++ s'.handler._buffer = past ++ s.handler._buffer ∧
      ReadUnderCrc crc16modbus (windowContent crc16modbus) past' s'.handler._requests := by
  have hskip : ∀ n : Nat, past ++ s.handler._buffer.take n ++ s.handler._buffer.drop n =
      past ++ s.handler._buffer := by
    intro n
    rw [List.append_assoc, List.take_append_drop]
  cases handleRound_next hs with
  | garbage =>
    refine ⟨past ++ s.handler._buffer.take 1, ?_, hpast.gap _⟩
    exact (congrArg _ (subarrayFrom_natCast s.handler._buffer 1)).trans (hskip 1)
  | slide =>
    refine ⟨past ++ s.handler._buffer.take 1, ?_, hpast.gap _⟩
    exact (congrArg _ (subarrayFrom_natCast s.handler._buffer 1)).trans (hskip 1)
  | @skip r hsome =>
    obtain ⟨n, hn⟩ := Int.eq_ofNat_of_zero_le (Int.le_of_lt (Reader.byteCount_pos _ hsome))
    refine ⟨past ++ s.handler._buffer.take n, ?_, hpast.gap _⟩
    show _ ++ s.handler._buffer.subarrayFrom _ = _
    rw [hn, subarrayFrom_natCast]
    exact hskip n
  | @accept r hsome hfine =>
    obtain ⟨w, tail, hb, hcount, hcontent⟩ := exists_window hsome hfine fun hlooks =>
      hin ⟨⟨r, hsome, hfine⟩, hlooks⟩
    refine ⟨past ++ (w ++ le16 (crc16modbus w).toNat), ?_, ?_⟩
    · show _ ++ s.handler._buffer.subarrayFrom ((rtuReader crc16modbus).byteCount r) = _
      rw [show (rtuReader crc16modbus).byteCount r = _ from hcount, subarrayFrom_natCast, hb,
        List.drop_length_add_append, List.append_assoc, List.append_assoc]
      rfl
    · show Windows.ReadFrom _ _ _
        ((r :: s.handler._requests).reverse.map ModbusRTURequest.content)
      rw [List.reverse_cons, List.map_append]
      exact hpast.window hcontent

/-- What the loop accepts is read from the bytes under a CRC, when it comes to no request whose
decoder looks behind its CRC. -/
theorem exec_readUnderCrc (s : HandleState ModbusRTURequest)
    (hin : ¬ ComesTo (rtuReader crc16modbus) (fun _ => AcceptsBehind crc16modbus) s.resyncing
      s.handler._buffer) {past : Buffer}
    (hpast : ReadUnderCrc crc16modbus (windowContent crc16modbus) past s.handler._requests) :
    ∃ past', past' ++ ((handleLoop (rtuReader crc16modbus)).exec s).1._buffer =
        past ++ s.handler._buffer ∧
      ReadUnderCrc crc16modbus (windowContent crc16modbus) past'
        ((handleLoop (rtuReader crc16modbus)).exec s).1._requests := by
  refine Loop.Body.exec_induction (l := handleLoop (rtuReader crc16modbus)) (P := fun s r =>
    ¬ ComesTo (rtuReader crc16modbus) (fun _ => AcceptsBehind crc16modbus) s.resyncing
      s.handler._buffer →
    ∀ past, ReadUnderCrc crc16modbus (windowContent crc16modbus) past s.handler._requests →
    ∃ past', past' ++ r.1._buffer = past ++ s.handler._buffer ∧
      ReadUnderCrc crc16modbus (windowContent crc16modbus) past' r.1._requests) ?_ ?_ s hin
      past hpast
  · intro s r hr _ past hpast
    rw [handleRound_leave hr]
    exact ⟨past, rfl, hpast⟩
  · intro s s' hs ih hin past hpast
    rw [comesTo_iff_of_next hs, not_or] at hin
    obtain ⟨past', hstream, hpast'⟩ := readUnderCrc_of_next hs hin.1 hpast
    obtain ⟨past'', hstream', hresult⟩ := ih hin.2 past' hpast'
    exact ⟨past'', hstream'.trans hstream, hresult⟩

/-- In a run whose data events come to no request that looks behind its CRC and is accepted,
every request is read from bytes of the stream under a CRC, and no byte is read for two of
them. -/
theorem run_readUnderCrc (crc16modbus : Buffer → UInt16) (chunks : List Buffer)
    (hin : Transition.Each (fun before chunk =>
      ¬ ComesTo (rtuReader crc16modbus) (fun _ => AcceptsBehind crc16modbus) false
        ((run (rtuReader crc16modbus) new before)._buffer ++ chunk)) chunks) :
    ReadUnderCrc crc16modbus (windowContent crc16modbus) chunks.flatten
      (run (rtuReader crc16modbus) new chunks)._requests := by
  obtain ⟨past, hstream, hpast⟩ : ∃ past,
      past ++ (run (rtuReader crc16modbus) new chunks)._buffer = chunks.flatten ∧
      ReadUnderCrc crc16modbus (windowContent crc16modbus) past
        (run (rtuReader crc16modbus) new chunks)._requests := by
    induction chunks using List.reverseRecOn with
    | nil => exact ⟨[], rfl, Windows.readFrom_nil⟩
    | append_singleton chunks chunk ih =>
      obtain ⟨hbefore, hchunk⟩ := Transition.each_concat.mp hin
      obtain ⟨past, hstream, hpast⟩ := ih hbefore
      obtain ⟨past', hstream', hpast'⟩ := exec_readUnderCrc
        { handler := { run (rtuReader crc16modbus) new chunks with
            _buffer := (run (rtuReader crc16modbus) new chunks)._buffer ++ chunk },
          resyncing := false } hchunk hpast
      have hrun : run (rtuReader crc16modbus) new (chunks ++ [chunk]) =
          (handle (rtuReader crc16modbus) (run (rtuReader crc16modbus) new chunks)
            chunk).1 := by
        rw [run, List.foldl_append]
        rfl
      rw [hrun]
      refine ⟨past', ?_, hpast'⟩
      rw [List.flatten_append, List.flatten_singleton, ← hstream, List.append_assoc]
      exact hstream'
  rw [← hstream]
  exact hpast.gap _

/-- The CRC of the write below; no two bytes `0xFF` stand in its stream. -/
def cutWriteCrc (b : Buffer) :
    UInt16 := if b = [1, 15, 0, 0, 0, 0, 4, 5] then 0x04BC else 0xFFFF

/-- A write of coils to unit 1 without a quantity, whose byte count field announces four
data bytes. One is there, and the CRC. -/
def cutWrite : Buffer := [1, 15, 0, 0, 0, 0, 4, 5, 0xBC, 0x04]

/-- A stream with two reads of one coil, the second one in two pieces. Both are read from
the bytes under their CRC. -/
theorem run_readUnderCrc_readOneCoil :
    ReadUnderCrc readOneCoilCrc (windowContent readOneCoilCrc)
      [readOneCoil.payload ++ readOneCoil.payload.take 3, readOneCoil.payload.drop 3].flatten
      (run (rtuReader readOneCoilCrc) new
        [readOneCoil.payload ++ readOneCoil.payload.take 3,
          readOneCoil.payload.drop 3])._requests := by
  refine run_readUnderCrc readOneCoilCrc _ ?_
  have hread : ∀ rest, ¬ LooksBehind (readOneCoil.payload ++ rest) := by
    rintro rest (⟨hcode, -⟩ | ⟨hcode, -⟩) <;> cases hcode
  have hfirst : handleRound (rtuReader readOneCoilCrc)
      ⟨⟨[], readOneCoil.payload ++ readOneCoil.payload.take 3⟩, false⟩ =
        .next ⟨⟨[readOneCoil.request], readOneCoil.payload.take 3⟩, false⟩ := rfl
  have hwaits : handleRound (rtuReader readOneCoilCrc)
      ⟨⟨[readOneCoil.request], readOneCoil.payload.take 3⟩, false⟩ =
        .leave (⟨[readOneCoil.request], readOneCoil.payload.take 3⟩, .ok ()) := rfl
  have hsecond : handleRound (rtuReader readOneCoilCrc)
    ⟨⟨[], readOneCoil.payload ++ []⟩, false⟩ =
      .next ⟨⟨[readOneCoil.request], []⟩, false⟩ := rfl
  have hempty : handleRound (rtuReader readOneCoilCrc) ⟨⟨[readOneCoil.request], []⟩, false⟩ =
      .leave (⟨[readOneCoil.request], []⟩, .ok ()) := rfl
  refine (Transition.each_concat (l := [_])).mpr ⟨(Transition.each_concat (l := [])).mpr
    ⟨Transition.each_nil _, fun hcomes => ?_⟩, fun hcomes => ?_⟩
  · rcases (comesTo_iff_of_next hfirst).mp hcomes with ⟨-, hlooks⟩ | hrest
    · exact hread _ hlooks
    · exact ((comesTo_iff_of_leave hwaits).mp hrest).2
  · rcases (comesTo_iff_of_next hsecond).mp hcomes with ⟨-, hlooks⟩ | hrest
    · exact hread _ hlooks
    · exact ((comesTo_iff_of_leave hempty).mp hrest).2

/-- Of the window in the stream only one thing can be read. -/
theorem interpret_cutWrite {interpret : Buffer → Option (UInt8 × RequestContent)}
    {stream : Buffer} {r : ModbusRTURequest} (hff : 0xFF ∉ stream)
    (h : ReadUnderCrc cutWriteCrc interpret stream [r]) :
    interpret [1, 15, 0, 0, 0, 0, 4, 5] = some r.content := by
  obtain ⟨windows, tail, hstream, hvalues⟩ := h
  obtain ⟨⟨gap, w⟩, rfl⟩ : ∃ p, windows = [p] := by
    refine List.length_eq_one_iff.mp ?_
    have hlen := congrArg List.length hvalues
    simpa using hlen.symm
  by_cases hw : w = [1, 15, 0, 0, 0, 0, 4, 5]
  · rw [← hw]
    exact (List.head_eq_of_cons_eq hvalues).symm
  · -- any other window would have two bytes behind it that are not there
    refine absurd ?_ hff
    simp [hstream, cutWriteCrc, hw, le16]

/-- The write is accepted with three coils, and with four when one more byte arrives with
it: what is written is not determined by the bytes under the CRC. -/
theorem not_readUnderCrc_cutWrite :
    ¬ ∀ crc16modbus : Buffer → UInt16, ∃ interpret : Buffer → Option (UInt8 × RequestContent),
        ∀ chunks : List Buffer, ReadUnderCrc crc16modbus interpret chunks.flatten
          (run (rtuReader crc16modbus) new chunks)._requests := by
  intro h
  obtain ⟨interpret, hread⟩ := h cutWriteCrc
  have hthree : (run (rtuReader cutWriteCrc) new [cutWrite])._requests =
      [⟨1, .writeMultipleCoils (.ofBuffer 0 [5, 0xBC, 4] 0), false⟩] := by decide
  have hfour : (run (rtuReader cutWriteCrc) new [cutWrite ++ [0]])._requests =
      [⟨1, .writeMultipleCoils (.ofBuffer 0 [5, 0xBC, 4, 0] 0), false⟩] := by decide
  have hthree' := interpret_cutWrite (by decide) (hthree ▸ hread [cutWrite])
  have hfour' := interpret_cutWrite (by decide) (hfour ▸ hread [cutWrite ++ [0]])
  rw [hthree'] at hfour'
  exact absurd hfour' (by decide)

end NodeModbus

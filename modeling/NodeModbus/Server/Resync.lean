import NodeModbus.Request.Window
import NodeModbus.Server.Reassembly
import NodeModbus.Server.Totality

/-!
# Frames behind garbage

Over RTU the handler looks for the start of a frame in what it cannot decode. It
drops one byte where there is no request, and one byte of a request whose CRC is
wrong, once it has dropped a byte before; without that it takes a request whose
CRC is wrong for a frame that was damaged, and drops all of it.

- `Straddles`: a request that begins before a frame ends inside of it, and is taken
  off as a whole.
- `exec_queuedOrKept_iff`: a frame at the end of what arrives is accepted or kept if
  and only if the handler does not come to such a request.
- `preserved_of_garbage`: it is when no request is decoded in front.
- `resync_iff`: when no valid frame begins in the garbage.
-/

namespace NodeModbus

open Buffer Words

namespace ModbusServerRequestHandler

section

variable {ρ : Type} {R : Reader ρ}

/-- A request in front begins before the last `n` bytes of the buffer, ends inside of them,
and is taken off as a whole: it can be logged, and its CRC is right, or nothing was dropped
before it. -/
def Straddles (R : Reader ρ) (n : Nat) (resyncing : Bool) (b : Buffer) : Prop :=
  ∃ request line, R.fromBuffer b = some request ∧ R.toString request = .ok line ∧
    (R.corrupted request = true → resyncing = false) ∧ n < b.length ∧
    (b.length : Int) < R.byteCount request + n

/-- Behind the start of the last `n` bytes there is nothing to come to. -/
theorem length_lt_of_comesTo_straddles {n : Nat} {resyncing : Bool} {b : Buffer}
    (h : ComesTo R (Straddles R n) resyncing b) : n < b.length := by
  induction h with
  | here h =>
    obtain ⟨request, line, -, -, -, hlt, -⟩ := h
    exact hlt
  | garbage _ _ _ _ _ ih =>
    exact Nat.lt_of_lt_of_le ih (subarrayFrom_suffix _ (by decide)).length_le
  | slide _ _ _ _ ih =>
    exact Nat.lt_of_lt_of_le ih (subarrayFrom_suffix _ (by decide)).length_le
  | skip hsome _ _ _ ih =>
    exact Nat.lt_of_lt_of_le ih
      (subarrayFrom_suffix _ (Int.le_of_lt (R.byteCount_pos hsome))).length_le
  | accept hsome _ _ _ ih =>
    exact Nat.lt_of_lt_of_le ih
      (subarrayFrom_suffix _ (Int.le_of_lt (R.byteCount_pos hsome))).length_le

/-- Once a byte was dropped, nothing straddles the start of the last `n` bytes, as long as every
request that begins before them is corrupted. -/
theorem not_comesTo_straddles_of_resyncing {n : Nat} {b : Buffer}
    (hcorrupted : ∀ {b' r}, b' <:+ b → n < b'.length → R.fromBuffer b' = some r →
      R.corrupted r = true) : ¬ ComesTo R (Straddles R n) true b := by
  intro h
  generalize hresyncing : true = resyncing at h
  induction h with
  | here h =>
    obtain ⟨request, line, hsome, -, hwhole, hn, -⟩ := h
    cases hresyncing.trans (hwhole (hcorrupted (List.suffix_refl _) hn hsome))
  | garbage _ _ _ _ _ ih =>
    exact ih (fun hb' => hcorrupted (hb'.trans (subarrayFrom_suffix _ (by decide)))) rfl
  | slide _ _ _ _ ih =>
    exact ih (fun hb' => hcorrupted (hb'.trans (subarrayFrom_suffix _ (by decide)))) rfl
  | skip => cases hresyncing
  | accept hsome hline hfine h _ =>
    -- behind an accepted request there are more bytes to come, so it begins before the last
    -- ones
    have hcomes : ComesTo R (Straddles R n) true _ := .accept hsome hline hfine h
    have hn := length_lt_of_comesTo_straddles hcomes
    cases hfine.symm.trans (hcorrupted (List.suffix_refl _) hn hsome)

/-- The loop only adds to the queue. -/
theorem requests_suffix_exec (R : Reader ρ) (s : HandleState ρ) :
    s.handler._requests <:+ ((handleLoop R).exec s).1._requests := by
  refine Loop.Body.exec_induction (l := handleLoop R) (P := fun s r =>
    s.handler._requests <:+ r.1._requests) ?_ ?_ s
  · intro s r hr
    exact handleRound_leave hr ▸ List.suffix_refl _
  · intro s s' hs ih
    refine List.IsSuffix.trans ?_ ih
    cases handleRound_next hs with
    | garbage => exact List.suffix_refl _
    | slide => exact List.suffix_refl _
    | skip => exact List.suffix_refl _
    | accept => exact List.suffix_cons _ _

/-- A request that is taken off as a whole straddles the start of the last `n` bytes if and
only if fewer than `n` bytes are left. -/
theorem straddles_iff_of_whole
    (hle : ∀ {b r}, R.fromBuffer b = some r → R.byteCount r ≤ b.length) {n : Nat}
    {resyncing : Bool} {b : Buffer} {request : ρ} {line : String}
    (hsome : R.fromBuffer b = some request) (hline : R.toString request = .ok line)
    (hwhole : R.corrupted request = true → resyncing = false) (hn : n < b.length) :
    Straddles R n resyncing b ↔ (b.subarrayFrom (R.byteCount request)).length < n := by
  have hpos := R.byteCount_pos hsome
  have hroom := hle hsome
  rw [length_subarrayFrom _ (Int.le_of_lt hpos)]
  constructor
  · rintro ⟨request', line', hsome', -, -, -, hover⟩
    obtain rfl := Option.some.inj (hsome.symm.trans hsome')
    omega
  · intro hlt
    exact ⟨request, line, hsome, hline, hwhole, hn, by omega⟩

/-- In front of the last `n` bytes, a round takes off a request that ends inside of them if
and only if it leaves fewer than `n` bytes. -/
theorem straddles_iff_of_next
    (hle : ∀ {b r}, R.fromBuffer b = some r → R.byteCount r ≤ b.length) {n : Nat}
    {s s' : HandleState ρ} (hs : handleRound R s = .next s')
    (hn : n < s.handler._buffer.length) :
    Straddles R n s.resyncing s.handler._buffer ↔ s'.handler._buffer.length < n := by
  have hbyte : ¬ (s.handler._buffer.subarrayFrom 1).length < n := by
    rw [length_subarrayFrom _ (by decide)]
    omega
  cases handleRound_next hs with
  | garbage hnone =>
    refine iff_of_false ?_ hbyte
    rintro ⟨request, line, hsome, -⟩
    cases hnone.symm.trans hsome
  | slide hsome hcorrupted hresync =>
    refine iff_of_false ?_ hbyte
    rintro ⟨request, line, hsome', -, hwhole, -, -⟩
    obtain rfl := Option.some.inj (hsome.symm.trans hsome')
    cases hresync.symm.trans (hwhole hcorrupted)
  | skip hsome _ hresync =>
    obtain ⟨line, hline⟩ := exists_line_of_next hs hsome
    exact straddles_iff_of_whole hle hsome hline (fun _ => hresync) hn
  | accept hsome hfine =>
    obtain ⟨line, hline⟩ := exists_line_of_next hs hsome
    refine straddles_iff_of_whole hle hsome hline ?_ hn
    intro hcorrupted
    cases hfine.symm.trans hcorrupted

variable [DecidableEq ρ]

/-- A round that accepts something else leaves the number of times a request is queued. -/
theorem count_of_next {request : ρ} {s s' : HandleState ρ} (hs : handleRound R s = .next s')
    (hother : ∀ {r}, R.fromBuffer s.handler._buffer = some r → R.corrupted r = false →
      r ≠ request) :
    s'.handler._requests.count request = s.handler._requests.count request := by
  cases handleRound_next hs with
  | garbage => rfl
  | slide => rfl
  | skip => rfl
  | accept hsome hfine => exact List.count_cons_of_ne (hother hsome hfine)

/-- A request is not found in a buffer that is shorter than it. -/
theorem count_exec_of_length_lt {request : ρ}
    (hle : ∀ {b r}, R.fromBuffer b = some r → R.byteCount r ≤ b.length) (s : HandleState ρ)
    (hlt : (s.handler._buffer.length : Int) < R.byteCount request) :
    ((handleLoop R).exec s).1._requests.count request = s.handler._requests.count request := by
  refine Loop.Body.exec_induction (l := handleLoop R) (P := fun s r =>
    (s.handler._buffer.length : Int) < R.byteCount request →
      r.1._requests.count request = s.handler._requests.count request) ?_ ?_ s hlt
  · intro s r hr _
    rw [handleRound_leave hr]
  · intro s s' hs ih hlt
    have hshort := (suffix_of_next hs).length_le
    rw [ih (by omega), count_of_next hs]
    rintro r hsome - rfl
    have hcount := hle hsome
    omega

/-- A request at the end of the buffer is accepted, or its bytes are kept, if and only if
the loop does not come to one that straddles its start. -/
theorem exec_queuedOrKept_iff {whole payload : Buffer} {request : ρ}
    (hle : ∀ {b r}, R.fromBuffer b = some r → R.byteCount r ≤ b.length)
    (hsome : R.fromBuffer payload = some request) (hfine : R.corrupted request = false)
    (hcount : R.byteCount request = payload.length)
    (hother : ∀ {b r}, b <:+ whole → payload.length < b.length → R.fromBuffer b = some r →
      R.corrupted r = false → r ≠ request)
    (s : HandleState ρ) (hwhole : s.handler._buffer <:+ whole)
    (hpayload : payload <:+ s.handler._buffer) :
    (s.handler._requests.count request < ((handleLoop R).exec s).1._requests.count request ∨
      payload <:+ ((handleLoop R).exec s).1._buffer) ↔
    ¬ ComesTo R (Straddles R payload.length) s.resyncing s.handler._buffer := by
  refine Loop.Body.exec_induction (l := handleLoop R) (P := fun s r =>
    s.handler._buffer <:+ whole → payload <:+ s.handler._buffer →
      ((s.handler._requests.count request < r.1._requests.count request ∨
        payload <:+ r.1._buffer) ↔
          ¬ ComesTo R (Straddles R payload.length) s.resyncing s.handler._buffer))
    ?_ ?_ s hwhole hpayload
  · intro s r hr _ hpayload
    rw [comesTo_iff_of_leave hr, handleRound_leave hr]
    refine iff_of_true (.inr hpayload) ?_
    rintro ⟨request', line, hsome', hline', -⟩
    rcases handleRound_leave_cases hr with ⟨-, hnone, -⟩ | ⟨request'', e, hsome'', hthrows, -⟩
    · cases hnone.symm.trans hsome'
    · obtain rfl := Option.some.inj (hsome'.symm.trans hsome'')
      cases hthrows.symm.trans hline'
  · intro s s' hs ih hwhole hpayload
    have hsuffix := suffix_of_next hs
    rcases Nat.lt_or_eq_of_le hpayload.length_le with hlt | heq
    · -- the frame is still ahead, and what the round accepts is another request
      have hsame := count_of_next hs (hother hwhole hlt)
      rw [comesTo_iff_of_next hs, straddles_iff_of_next hle hs hlt]
      rcases Nat.lt_or_ge s'.handler._buffer.length payload.length with hover | hroom
      · refine iff_of_false ?_ (not_not.mpr (.inl hover))
        rintro (hqueued | hkept)
        · rw [count_exec_of_length_lt hle s' (by omega), hsame] at hqueued
          exact Nat.lt_irrefl _ hqueued
        · have hshort := (hkept.trans (exec_suffix R s')).length_le
          omega
      · have hkept := List.suffix_of_suffix_length_le hpayload hsuffix hroom
        rw [or_iff_right (Nat.not_lt.mpr hroom), ← hsame]
        exact ih (hsuffix.trans hwhole) hkept
    · -- the frame is in front, and is accepted
      obtain rfl := hpayload.eq_of_length heq
      refine iff_of_true (.inl ?_) fun h =>
        absurd (length_lt_of_comesTo_straddles h) (Nat.lt_irrefl _)
      refine Nat.lt_of_lt_of_le ?_ ((requests_suffix_exec R s').sublist.count_le request)
      cases handleRound_next hs with
      | garbage hnone => cases hnone.symm.trans hsome
      | slide hsome' hcorrupted =>
        obtain rfl := Option.some.inj (hsome.symm.trans hsome')
        cases hfine.symm.trans hcorrupted
      | skip hsome' hcorrupted =>
        obtain rfl := Option.some.inj (hsome.symm.trans hsome')
        cases hfine.symm.trans hcorrupted
      | accept hsome' =>
        obtain rfl := Option.some.inj (hsome.symm.trans hsome')
        show _ < (request :: s.handler._requests).count request
        rw [List.count_cons_self]
        exact Nat.lt_succ_self _

end

end ModbusServerRequestHandler

/-! ## Over RTU -/

open ModbusServerRequestHandler

variable {crc16modbus : Buffer → UInt16}

/-- The window is itself a request frame, and its CRC is right. -/
def CrcValidFrame (crc16modbus : Buffer → UInt16) (window : Buffer) : Prop :=
  ∃ r, ModbusRTURequest.fromBuffer crc16modbus window = some r ∧ r.corrupted = false ∧
    r.byteCount = window.length

instance (crc16modbus : Buffer → UInt16) (window : Buffer) :
    Decidable (CrcValidFrame crc16modbus window) :=
  match h : ModbusRTURequest.fromBuffer crc16modbus window with
  | none => isFalse (by rintro ⟨r, hr, -⟩; cases h.symm.trans hr)
  | some r => decidable_of_iff (r.corrupted = false ∧ r.byteCount = window.length) <| by
      constructor
      · intro hr
        exact ⟨r, h, hr⟩
      · rintro ⟨r', hr', hvalid⟩
        obtain rfl := Option.some.inj (h.symm.trans hr')
        exact hvalid

/-- A request that is decoded with its CRC right as another one is, of which the decoder saw
no more than its frame, comes from a window that is a frame. -/
theorem crcValidFrame_of_fromBuffer {payload b : Buffer} {r : ModbusRTURequest}
    (hpayload : ModbusRTURequest.fromBuffer crc16modbus payload = some r)
    (hcount : r.byteCount = payload.length) (hcorrupted : r.corrupted = false)
    (h : ModbusRTURequest.fromBuffer crc16modbus b = some r) :
    CrcValidFrame crc16modbus (b.take r.byteCount.toNat) := by
  obtain ⟨a, rest, actualCrc, rfl, hbody, -, -⟩ :=
    ModbusRTURequest.exists_parts crc16modbus hpayload
  have hextent := (RequestFactory.fromBuffer_take hbody).1
  have hroom := (ModbusRTURequest.byteCount_of_fromBuffer crc16modbus h).2
  rw [ModbusRTURequest.byteCount, List.length_cons] at hcount
  refine ⟨r, ModbusRTURequest.fromBuffer_frame h hcorrupted (by omega), hcorrupted, ?_⟩
  rw [List.length_take, ModbusRTURequest.byteCount] at *
  omega

/-- What is promised of a frame behind garbage, in one data event: its request has been put
into the queue, or all its bytes are still there. -/
def Preserved (queue : List ModbusRTURequest) (g : Buffer) (f : RtuFrame crc16modbus) : Prop :=
  (∃ r, ModbusRTURequest.fromBuffer crc16modbus f.payload = some r ∧
    r.content = f.request.content ∧
    queue.count r <
      (handle (rtuReader crc16modbus) ⟨queue, []⟩ (g ++ f.payload)).1._requests.count r) ∨
  f.payload <:+ (handle (rtuReader crc16modbus) ⟨queue, []⟩ (g ++ f.payload)).1._buffer

/-- A frame behind other requests is accepted or kept if and only if the handler does not
come to a request that straddles its start. -/
theorem preserved_iff (queue : List ModbusRTURequest) (g : Buffer) (f : RtuFrame crc16modbus)
    (hother : ∀ {b r}, b <:+ g ++ f.payload → f.payload.length < b.length →
      ModbusRTURequest.fromBuffer crc16modbus b = some r → r.corrupted = false →
      ModbusRTURequest.fromBuffer crc16modbus f.payload ≠ some r) :
    Preserved queue g f ↔
      ¬ ComesTo (rtuReader crc16modbus)
        (Straddles (rtuReader crc16modbus) f.payload.length) false
        (g ++ f.payload) := by
  obtain ⟨body, hcontent, hsome, hfine, -, hcount⟩ := f.fromBuffer_append []
  rw [List.append_nil] at hsome
  generalize hr : ({ address := (toByte f.request.address).toNat, body, corrupted := false } :
    ModbusRTURequest) = r at hsome hfine hcount
  have hsent : r.content = f.request.content := by
    rw [← hr, ModbusRTURequest.content, ModbusRTURequest.content, hcontent, toByte_toNat]
  have hother' : ∀ {b r'}, b <:+ g ++ f.payload → f.payload.length < b.length →
      (rtuReader crc16modbus).fromBuffer b = some r' →
      (rtuReader crc16modbus).corrupted r' = false → r' ≠ r := by
    rintro b r' hb hlt hsome' hfine' rfl
    exact hother hb hlt hsome' hfine' hsome
  have hloop := exec_queuedOrKept_iff (R := rtuReader crc16modbus)
    (fun h => (ModbusRTURequest.byteCount_of_fromBuffer crc16modbus h).2) hsome hfine
    hcount hother'
    { handler := ⟨queue, g ++ f.payload⟩, resyncing := false } (List.suffix_refl _)
    (List.suffix_append _ _)
  rw [← hloop]
  constructor
  · rintro (⟨r', hsome', -, hqueued⟩ | hkept)
    · obtain rfl := Option.some.inj (hsome.symm.trans hsome')
      exact .inl hqueued
    · exact .inr hkept
  · rintro (hqueued | hkept)
    · exact .inl ⟨r, hsome, hsent, hqueued⟩
    · exact .inr hkept

/-- When no request is decoded in front, and every request that is decoded in the garbage has a
wrong CRC, the frame behind it is accepted or kept. -/
theorem preserved_of_garbage (queue : List ModbusRTURequest) (g : Buffer)
    (f : RtuFrame crc16modbus)
    (hnone : ModbusRTURequest.fromBuffer crc16modbus (g ++ f.payload) = none)
    (hgarbage : ∀ {b r}, b <:+ g ++ f.payload → f.payload.length < b.length →
      ModbusRTURequest.fromBuffer crc16modbus b = some r → r.corrupted = true) :
    Preserved queue g f := by
  refine (preserved_iff queue g f ?_).mpr ?_
  · intro b r hb hlt hsome hfine
    cases hfine.symm.trans (hgarbage hb hlt hsome)
  · intro h
    cases h with
    | here h =>
      obtain ⟨r, line, hsome, -⟩ := h
      cases hnone.symm.trans hsome
    | garbage _ _ _ _ h =>
      exact not_comesTo_straddles_of_resyncing
        (fun hb => hgarbage (hb.trans (subarrayFrom_suffix _ (by decide)))) h
    | skip hsome => cases hnone.symm.trans hsome
    | accept hsome => cases hnone.symm.trans hsome

/-- Behind garbage in which no valid frame begins, a frame is accepted or kept if and only
if the handler does not come to a request that begins in the garbage, ends inside of the
frame, and is taken off as a whole. -/
theorem resync_iff (queue : List ModbusRTURequest) (g : Buffer) (f : RtuFrame crc16modbus)
    (hgarbage : ∀ p n, p < g.length →
      ¬ CrcValidFrame crc16modbus (((g ++ f.payload).drop p).take n)) :
    Preserved queue g f ↔
      ¬ ComesTo (rtuReader crc16modbus)
        (Straddles (rtuReader crc16modbus) f.payload.length) false
        (g ++ f.payload) := by
  refine preserved_iff queue g f ?_
  -- the same request elsewhere would come from a window that is a frame
  rintro b r ⟨front, hfront⟩ hlt hb hfine hpayload
  have hlen := congrArg List.length hfront
  rw [List.length_append, List.length_append] at hlen
  have hcount : r.byteCount = f.payload.length := by
    obtain ⟨body, -, hsome, -, -, hcount⟩ := f.fromBuffer_append []
    rw [List.append_nil, hpayload] at hsome
    rw [Option.some.inj hsome]
    exact hcount
  refine hgarbage front.length r.byteCount.toNat (by omega) ?_
  rw [← hfront, List.drop_left]
  exact crcValidFrame_of_fromBuffer hpayload hcount hfine hb

/-- The CRC of the frame below, and of what a byte in front of it makes of it. -/
def noisyLineCrc (b : Buffer) : UInt16 :=
  if b = [1, 1, 0, 0, 0, 1] then 0xCAFD else if b = [0x11, 1, 1, 0, 0, 0] then 0x663F else 0

/-- A read of one coil from unit 1. -/
def readBehindNoise : RtuFrame noisyLineCrc where
  request := readOneCoil.request
  payload := readOneCoil.payload
  sendable := readOneCoil.sendable
  fc_ne := readOneCoil.fc_ne
  encoded := rfl

/-- In a single garbage byte no valid frame begins. -/
theorem not_crcValidFrame_noise {p n : Nat} (hp : p < [(0x11 : UInt8)].length) :
    ¬ CrcValidFrame noisyLineCrc ((([0x11] ++ readBehindNoise.payload).drop p).take n) := by
  have hshort : ∀ n < 10,
      ¬ CrcValidFrame noisyLineCrc (([0x11] ++ readBehindNoise.payload).take n) := by
    decide
  obtain rfl : p = 0 := by simpa using hp
  rcases Nat.lt_or_ge n 10 with hn | hn
  · exact hshort n hn
  · have hlen : ([0x11] ++ readBehindNoise.payload).length = 9 := rfl
    rw [List.drop_zero, List.take_of_length_le (by omega)]
    exact hshort 9 (by decide)

theorem resync_iff_noise :
    Preserved [] [0x11] readBehindNoise ↔
      ¬ ComesTo (rtuReader noisyLineCrc)
        (Straddles (rtuReader noisyLineCrc) readBehindNoise.payload.length) false
        ([0x11] ++ readBehindNoise.payload) :=
  resync_iff [] [0x11] readBehindNoise fun _ _ => not_crcValidFrame_noise

/-- With the unit address of the frame for its function code, the garbage byte is the start of a
request whose CRC is wrong. The eight bytes of it are dropped, and the frame with them. -/
theorem not_preserved_noise :
    ¬ ∀ (crc16modbus : Buffer → UInt16) (queue : List ModbusRTURequest) (g : Buffer)
        (f : RtuFrame crc16modbus),
        (∀ p n, p < g.length → ¬ CrcValidFrame crc16modbus (((g ++ f.payload).drop p).take n)) →
        Preserved queue g f := by
  intro h
  have hpreserved := h noisyLineCrc [] [0x11] readBehindNoise fun _ _ => not_crcValidFrame_noise
  have hdropped : handle (rtuReader noisyLineCrc) ⟨[], []⟩ ([0x11] ++ readBehindNoise.payload) =
      (⟨[], []⟩, .ok ()) := by decide
  rcases hpreserved with ⟨r, -, -, hqueued⟩ | hkept
  · rw [hdropped] at hqueued
    exact absurd hqueued (Nat.lt_irrefl _)
  · rw [hdropped] at hkept
    exact absurd hkept (by decide)

end NodeModbus

import NodeModbus.Server.RequestHandler

/-!
# When a data event returns

The loop in `handle` ends for every buffer. Whether it returns or throws depends
on the requests it comes to: each is logged, and the text of a device
identification request over RTU cannot be made.

- `ComesTo`: the handler, taking bytes off the front, comes to a position with some
  property.
- `handle_returns_iff`: a data event returns if and only if the handler does not
  come to a request that cannot be logged.
- `handle_suffix`, `handle_length_le`: what is kept is the end of what was there,
  and over RTU no more than a frame.
- `returns_iff`: over TCP every data event returns; over RTU it does if and only if
  the handler does not come to a device identification request.
- `run_requests_of_throws`: after one that throws no request is accepted any more.
-/

namespace NodeModbus

open Buffer

namespace ModbusServerRequestHandler

variable {ρ : Type}

/-! ## How the loop ends -/

/-- A request in front cannot be logged. -/
def Unloggable (R : Reader ρ) (b : Buffer) : Prop :=
  ∃ request e, R.fromBuffer b = some request ∧ R.toString request = .error e

/-- A round that leaves the loop waits, or throws because a request cannot be logged. -/
theorem handleRound_leave_cases {R : Reader ρ} {s : HandleState ρ}
    {r : ModbusServerRequestHandler ρ × Except Thrown Unit} (h : handleRound R s = .leave r) :
    (r = (s.handler, .ok ()) ∧ R.fromBuffer s.handler._buffer = none ∧
      (R.isRtu = false ∨ plausibleFrameStart s.handler._buffer ∨ s.handler._buffer = [])) ∨
    ∃ request e, R.fromBuffer s.handler._buffer = some request ∧ R.toString request = .error e ∧
      r = (s.handler, .error e) := by
  unfold handleRound at h
  cases hb : R.fromBuffer s.handler._buffer with
  | none =>
    simp only [hb] at h
    split_ifs at h with hrtu hwait
    · cases h
      exact .inl ⟨rfl, rfl, .inl (by simpa using hrtu)⟩
    · cases h
      rw [List.length_eq_zero_iff] at hwait
      exact .inl ⟨rfl, rfl, .inr hwait⟩
  | some request =>
    simp only [hb] at h
    cases hline : R.toString request with
    | error e =>
      rw [hline] at h
      cases h
      exact .inr ⟨request, e, rfl, hline, rfl⟩
    | ok line =>
      simp only [hline] at h
      split_ifs at h

/-- A round that goes on has logged its request. -/
theorem exists_line_of_next {R : Reader ρ} {s s' : HandleState ρ}
    (h : handleRound R s = .next s') {request : ρ}
    (hsome : R.fromBuffer s.handler._buffer = some request) :
    ∃ line, R.toString request = .ok line := by
  cases hline : R.toString request with
  | ok line => exact ⟨line, rfl⟩
  | error e =>
    simp only [handleRound, hsome, hline] at h
    cases h

theorem not_unloggable_of_next {R : Reader ρ} {s s' : HandleState ρ}
    (h : handleRound R s = .next s') : ¬ Unloggable R s.handler._buffer := by
  rintro ⟨request, e, hsome, hthrows⟩
  obtain ⟨line, hline⟩ := exists_line_of_next h hsome
  cases hthrows.symm.trans hline

/-! ## The positions the handler comes to -/

/-- Taking off what it takes off, the handler comes to a position with the property
`target`, which may ask whether garbage was dropped in front of the position. -/
inductive ComesTo (R : Reader ρ) (target : Bool → Buffer → Prop) : Bool → Buffer → Prop
  | here {resyncing : Bool} {b : Buffer} (h : target resyncing b) : ComesTo R target resyncing b
  | garbage {resyncing : Bool} {b : Buffer} (hnone : R.fromBuffer b = none)
      (hrtu : R.isRtu = true) (hstart : ¬ plausibleFrameStart b) (hne : b ≠ [])
      (h : ComesTo R target true (b.subarrayFrom 1)) : ComesTo R target resyncing b
  | slide {b : Buffer} {request : ρ} {line : String} (hsome : R.fromBuffer b = some request)
      (hline : R.toString request = .ok line) (hcorrupted : R.corrupted request = true)
      (h : ComesTo R target true (b.subarrayFrom 1)) : ComesTo R target true b
  | skip {b : Buffer} {request : ρ} {line : String} (hsome : R.fromBuffer b = some request)
      (hline : R.toString request = .ok line) (hcorrupted : R.corrupted request = true)
      (h : ComesTo R target false (b.subarrayFrom (R.byteCount request))) :
        ComesTo R target false b
  | accept {resyncing : Bool} {b : Buffer} {request : ρ} {line : String}
      (hsome : R.fromBuffer b = some request) (hline : R.toString request = .ok line)
      (hcorrupted : R.corrupted request = false)
      (h : ComesTo R target false (b.subarrayFrom (R.byteCount request))) :
      ComesTo R target resyncing b

/-- Where the handler leaves the loop it has come to the end. -/
theorem comesTo_iff_of_leave {R : Reader ρ} {target : Bool → Buffer → Prop} {s : HandleState ρ}
    {r : ModbusServerRequestHandler ρ × Except Thrown Unit}
    (hleave : handleRound R s = .leave r) :
    ComesTo R target s.resyncing s.handler._buffer ↔ target s.resyncing s.handler._buffer := by
  obtain ⟨⟨queue, b⟩, resyncing⟩ := s
  refine ⟨?_, .here⟩
  intro h
  rcases handleRound_leave_cases hleave with ⟨-, hnone, hwait⟩ | ⟨request, e, hsome, hthrows, -⟩
  · cases h with
    | here h => exact h
    | garbage _ hrtu hstart hne =>
      rcases hwait with htcp | hplausible | hnil
      · rw [hrtu] at htcp
        cases htcp
      · exact absurd hplausible hstart
      · exact absurd hnil hne
    | slide hsome => cases hnone.symm.trans hsome
    | skip hsome => cases hnone.symm.trans hsome
    | accept hsome => cases hnone.symm.trans hsome
  · -- a request that cannot be logged is not taken off
    have hnext : ∀ {request' line}, R.fromBuffer b = some request' →
        R.toString request' ≠ .ok line := by
      intro request' line hsome' hline
      obtain rfl := Option.some.inj (hsome.symm.trans hsome')
      cases hthrows.symm.trans hline
    cases h with
    | here h => exact h
    | garbage hnone => cases hnone.symm.trans hsome
    | slide hsome' hline => exact absurd hline (hnext hsome')
    | skip hsome' hline => exact absurd hline (hnext hsome')
    | accept hsome' hline => exact absurd hline (hnext hsome')

/-- A position of one kind is one of every wider kind. -/
theorem comesTo_congr {R : Reader ρ} {target target' : Bool → Buffer → Prop}
    (h : ∀ resyncing b, target resyncing b → target' resyncing b) {resyncing : Bool}
    {b : Buffer} (hcomes : ComesTo R target resyncing b) : ComesTo R target' resyncing b := by
  induction hcomes with
  | here hb => exact .here (h _ _ hb)
  | garbage hnone hrtu hstart hne _ ih => exact .garbage hnone hrtu hstart hne ih
  | slide hsome hline hcorrupted _ ih => exact .slide hsome hline hcorrupted ih
  | skip hsome hline hcorrupted _ ih => exact .skip hsome hline hcorrupted ih
  | accept hsome hline hcorrupted _ ih => exact .accept hsome hline hcorrupted ih

theorem not_comesTo_of_never {R : Reader ρ} {target : Bool → Buffer → Prop}
    (h : ∀ resyncing b, ¬ target resyncing b) (resyncing : Bool) (b : Buffer) :
    ¬ ComesTo R target resyncing b := by
  intro hcomes
  induction hcomes with
  | here hb => exact h _ _ hb
  | garbage _ _ _ _ _ ih => exact ih
  | slide _ _ _ _ ih => exact ih
  | skip _ _ _ _ ih => exact ih
  | accept _ _ _ _ ih => exact ih

/-- The handler comes to a position now, or behind what the round takes off. -/
theorem comesTo_iff_of_next {R : Reader ρ} {target : Bool → Buffer → Prop}
    {s s' : HandleState ρ} (h : handleRound R s = .next s') :
    ComesTo R target s.resyncing s.handler._buffer ↔
      target s.resyncing s.handler._buffer ∨
      ComesTo R target s'.resyncing s'.handler._buffer := by
  obtain ⟨⟨queue, b⟩, resyncing⟩ := s
  have hlog : ∀ {request}, R.fromBuffer b = some request →
    ∃ line, R.toString request = .ok line :=
    exists_line_of_next h
  cases handleRound_next h with
  | garbage hnone hrtu hstart hne =>
    constructor
    · intro hcomes
      cases hcomes with
      | here h => exact .inl h
      | garbage _ _ _ _ h => exact .inr h
      | slide hsome => cases hnone.symm.trans hsome
      | skip hsome => cases hnone.symm.trans hsome
      | accept hsome => cases hnone.symm.trans hsome
    · rintro (h | h)
      · exact .here h
      · exact .garbage hnone hrtu hstart hne h
  | slide hsome hcorrupted hresync =>
    obtain rfl : resyncing = true := hresync
    constructor
    · intro hcomes
      cases hcomes with
      | here h => exact .inl h
      | garbage hnone => cases hnone.symm.trans hsome
      | slide _ _ _ h => exact .inr h
      | accept hsome' _ hfine =>
        obtain rfl := Option.some.inj (hsome.symm.trans hsome')
        cases hcorrupted.symm.trans hfine
    · rintro (h | h)
      · exact .here h
      · exact .slide hsome (hlog hsome).choose_spec hcorrupted h
  | skip hsome hcorrupted hresync =>
    obtain rfl : resyncing = false := hresync
    constructor
    · intro hcomes
      cases hcomes with
      | here h => exact .inl h
      | garbage hnone => cases hnone.symm.trans hsome
      | skip hsome' _ _ h =>
        obtain rfl := Option.some.inj (hsome.symm.trans hsome')
        exact .inr h
      | accept hsome' _ hfine =>
        obtain rfl := Option.some.inj (hsome.symm.trans hsome')
        cases hcorrupted.symm.trans hfine
    · rintro (h | h)
      · exact .here h
      · exact .skip hsome (hlog hsome).choose_spec hcorrupted h
  | accept hsome hfine =>
    constructor
    · intro hcomes
      cases hcomes with
      | here h => exact .inl h
      | garbage hnone => cases hnone.symm.trans hsome
      | slide hsome' _ hcorrupted =>
        obtain rfl := Option.some.inj (hsome.symm.trans hsome')
        cases hcorrupted.symm.trans hfine
      | skip hsome' _ hcorrupted =>
        obtain rfl := Option.some.inj (hsome.symm.trans hsome')
        cases hcorrupted.symm.trans hfine
      | accept hsome' _ _ h =>
        obtain rfl := Option.some.inj (hsome.symm.trans hsome')
        exact .inr h
    · rintro (h | h)
      · exact .here h
      · exact .accept hsome (hlog hsome).choose_spec hfine h

/-! ## Returning and throwing -/

/-- The loop throws if and only if the handler comes to a request that cannot be logged. -/
theorem exec_returns_iff (R : Reader ρ) (s : HandleState ρ) :
    ((handleLoop R).exec s).2 = .ok () ↔
      ¬ ComesTo R (fun _ => Unloggable R) s.resyncing s.handler._buffer := by
  refine Loop.Body.exec_induction (l := handleLoop R) (P := fun s r => r.2 = .ok () ↔
    ¬ ComesTo R (fun _ => Unloggable R) s.resyncing s.handler._buffer) ?_ ?_ s
  · intro s r hr
    rw [comesTo_iff_of_leave hr]
    rcases handleRound_leave_cases hr with ⟨rfl, hnone, -⟩ | ⟨request, e, hsome, hline, rfl⟩
    · refine iff_of_true rfl ?_
      rintro ⟨request, e, hsome, -⟩
      cases hnone.symm.trans hsome
    · refine iff_of_false (fun h => nomatch h) ?_
      exact not_not.mpr ⟨request, e, hsome, hline⟩
  · intro s s' hs ih
    rw [ih, comesTo_iff_of_next hs, or_iff_right (not_unloggable_of_next hs)]

/-- A data event returns if and only if the handler does not come to a request that cannot be
logged. -/
theorem handle_returns_iff (R : Reader ρ) (h : ModbusServerRequestHandler ρ) (data : Buffer) :
    (handle R h data).2 = .ok () ↔
    ¬ ComesTo R (fun _ => Unloggable R) false (h._buffer ++ data) :=
  exec_returns_iff R _

theorem subarrayFrom_suffix (b : Buffer) {n : Int} (hn : 0 ≤ n) : b.subarrayFrom n <:+ b := by
  obtain ⟨m, rfl⟩ := Int.eq_ofNat_of_zero_le hn
  rw [subarrayFrom_natCast]
  exact List.drop_suffix m b

/-- Every round keeps an end of the buffer. -/
theorem suffix_of_next {R : Reader ρ} {s s' : HandleState ρ} (h : handleRound R s = .next s') :
    s'.handler._buffer <:+ s.handler._buffer := by
  cases handleRound_next h with
  | garbage => exact subarrayFrom_suffix _ (by decide)
  | slide => exact subarrayFrom_suffix _ (by decide)
  | skip hsome => exact subarrayFrom_suffix _ (Int.le_of_lt (R.byteCount_pos hsome))
  | accept hsome => exact subarrayFrom_suffix _ (Int.le_of_lt (R.byteCount_pos hsome))

/-- So does the loop. -/
theorem exec_suffix (R : Reader ρ) (s : HandleState ρ) :
    ((handleLoop R).exec s).1._buffer <:+ s.handler._buffer := by
  refine Loop.Body.exec_induction (l := handleLoop R) (P := fun s r =>
    r.1._buffer <:+ s.handler._buffer) ?_ ?_ s
  · intro s r hr
    exact handleRound_leave hr ▸ List.suffix_refl _
  · intro s s' hs ih
    exact ih.trans (suffix_of_next hs)

/-- What is kept of a data event is the end of what was there. -/
theorem handle_suffix (R : Reader ρ) (h : ModbusServerRequestHandler ρ) (data : Buffer) :
    (handle R h data).1._buffer <:+ h._buffer ++ data :=
  exec_suffix R _

/-- An RTU handler that returns keeps no more than one frame. -/
theorem handle_length_le {R : Reader ρ} (hrtu : R.isRtu = true)
    (h : ModbusServerRequestHandler ρ) (data : Buffer)
    (hreturns : (handle R h data).2 = .ok ()) :
    (handle R h data).1._buffer.length ≤ MAX_RTU_ADU_SIZE := by
  refine Loop.Body.exec_induction (l := handleLoop R) (P := fun _ r =>
    r.2 = .ok () → r.1._buffer.length ≤ MAX_RTU_ADU_SIZE) ?_ (fun _ _ _ ih => ih)
    { handler := { h with _buffer := h._buffer ++ data }, resyncing := false } hreturns
  intro s r hr hok
  rcases handleRound_leave_cases hr with ⟨rfl, -, hwait⟩ | ⟨request, e, -, -, rfl⟩
  · rcases hwait with htcp | hplausible | hnil
    · rw [hrtu] at htcp
      cases htcp
    · exact hplausible.2.2
    · show s.handler._buffer.length ≤ _
      rw [hnil]
      exact Nat.zero_le _
  · cases hok

end ModbusServerRequestHandler

/-! ## The two readers -/

open ModbusServerRequestHandler

/-- Seven bytes of a device identification request: unit address, function code 43, three
fields and the CRC. -/
def HoldsDeviceIdentification : Buffer → Prop
  | _ :: f :: _ :: _ :: _ :: _ :: _ :: _ => f.toNat = FC.readDeviceIdentification.code
  | _ => False

/-- What cannot be logged over RTU is a device identification request. -/
theorem holdsDeviceIdentification_of_fromBuffer {crc16modbus : Buffer → UInt16} {b : Buffer}
    {r : ModbusRTURequest} (h : ModbusRTURequest.fromBuffer crc16modbus b = some r)
    (hfc : r.body.fc = .readDeviceIdentification) : HoldsDeviceIdentification b := by
  have hlen := (ModbusRTURequest.byteCount_of_fromBuffer crc16modbus h).2
  obtain ⟨a, rest, actualCrc, rfl, hbody, -, -⟩ := ModbusRTURequest.exists_parts crc16modbus h
  have hcount : r.byteCount = 7 := by
    have hseven : r.body.byteCount = 4 := by
      cases hr : r.body with
      | readDeviceIdentification d => rfl
      | exception e =>
        have hwire := RequestFactory.fromWire hbody
        rw [hr] at hwire
        cases hwire
      | _ =>
        rw [hr] at hfc
        cases hfc
    rw [ModbusRTURequest.byteCount, hseven]
    rfl
  rw [hcount] at hlen
  rcases rest with _ | ⟨f, _ | ⟨m, _ | ⟨d, _ | ⟨o, _ | ⟨x, _ | ⟨y, tail⟩⟩⟩⟩⟩⟩
  case cons.cons.cons.cons.cons.cons =>
    rw [RequestFactory.fromBuffer_cons] at hbody
    obtain ⟨fc, hcode, hdec⟩ := Option.bind_eq_some_iff.mp hbody
    have hf : f.toNat = fc.code := by exact_mod_cast FC.code_of_ofCode? hcode
    rw [RequestFactory.fc_of_decoder hdec] at hfc
    rw [hfc] at hf
    exact hf
  all_goals
    simp only [List.length_cons, List.length_nil] at hlen
    omega

theorem unloggable_rtu_iff (crc16modbus : Buffer → UInt16) (b : Buffer) :
    Unloggable (rtuReader crc16modbus) b ↔ HoldsDeviceIdentification b := by
  constructor
  · rintro ⟨request, e, hsome, hline⟩
    refine holdsDeviceIdentification_of_fromBuffer hsome ?_
    by_contra hfc
    obtain ⟨line, hok⟩ := ModbusRTURequest.toString_eq_ok hfc
    cases hok.symm.trans hline
  · intro h
    rcases b with _ | ⟨a, _ | ⟨f, _ | ⟨m, _ | ⟨d, _ | ⟨o, _ | ⟨x, _ | ⟨y, tail⟩⟩⟩⟩⟩⟩⟩
    case cons.cons.cons.cons.cons.cons.cons =>
      have hf : f.toNat = FC.readDeviceIdentification.code := h
      have hfc : FC.ofCode? f.toNat = some .readDeviceIdentification := by
        rw [hf, FC.ofCode?_code]
      obtain ⟨body, hbody⟩ : ∃ body,
        RequestFactory.fromBuffer (f :: m :: d :: o :: x :: y :: tail) =
          some (.readDeviceIdentification body) := by
        rw [RequestFactory.fromBuffer_cons, hfc, Option.bind_some, RequestFactory.decoder,
          ReadDeviceIdentificationRequestBody.fromBuffer_eq]
        simp only [if_pos hf, Option.map_some]
        exact ⟨_, rfl⟩
      have hcrc : readUInt16LE (a :: f :: m :: d :: o :: x :: y :: tail) 5 =
        .ok (Words.u16 y x) :=
        readUInt16LE_append [a, f, m, d, o] x y tail
      have hlen : ¬ (f :: m :: d :: o :: x :: y :: tail).length < 2 := by simp
      have hsome : ModbusRTURequest.fromBuffer crc16modbus
        (a :: f :: m :: d :: o :: x :: y :: tail) =
          some (ModbusRTURequest.ofBody crc16modbus a (f :: m :: d :: o :: x :: y :: tail)
            (.readDeviceIdentification body) (Words.u16 y x)) := by
        rw [ModbusRTURequest.fromBuffer_cons, if_neg hlen, hbody, Option.bind_some]
        exact congrArg (fun crc => (Except.toOption crc).map _) hcrc
      exact ⟨_, _, hsome, rfl⟩
    all_goals exact absurd h id

theorem not_unloggable_tcp (b : Buffer) : ¬ Unloggable tcpReader b := by
  rintro ⟨request, e, -, hline⟩
  cases hline

/-- What should hold of a data event: it returns, it keeps the end of what was there, and
over RTU no more than a frame. -/
structure Returns {ρ : Type} (R : Reader ρ) (h : ModbusServerRequestHandler ρ) (data : Buffer) :
    Prop where
  returned : (handle R h data).2 = .ok ()
  suffix : (handle R h data).1._buffer <:+ h._buffer ++ data
  trimmed : R.isRtu = true → (handle R h data).1._buffer.length ≤ MAX_RTU_ADU_SIZE

/-- A data event is as it should be if and only if it returns. -/
theorem returns_iff_not_comesTo {ρ : Type} (R : Reader ρ) (h : ModbusServerRequestHandler ρ)
    (data : Buffer) :
    Returns R h data ↔ ¬ ComesTo R (fun _ => Unloggable R) false (h._buffer ++ data) := by
  rw [← handle_returns_iff]
  constructor
  · intro hreturns
    exact hreturns.returned
  · intro hok
    refine ⟨hok, handle_suffix R h data, ?_⟩
    intro hrtu
    exact handle_length_le hrtu h data hok

/-- Over TCP every data event returns, whatever is kept and whatever arrives. Over RTU it
does if and only if the handler does not come to a device identification request. -/
theorem returns_iff (crc16modbus : Buffer → UInt16) :
    (∀ (h : ModbusServerRequestHandler ModbusTCPRequest)
      (data : Buffer), Returns tcpReader h data) ∧
    ∀ (h : ModbusServerRequestHandler ModbusRTURequest) (data : Buffer),
      Returns (rtuReader crc16modbus) h data ↔
        ¬ ComesTo (rtuReader crc16modbus) (fun _ => HoldsDeviceIdentification) false
          (h._buffer ++ data) := by
  constructor
  · intro h data
    rw [returns_iff_not_comesTo]
    exact not_comesTo_of_never (fun _ => not_unloggable_tcp) _ _
  · intro h data
    rw [returns_iff_not_comesTo, not_iff_not]
    constructor
    · exact comesTo_congr fun _ b => (unloggable_rtu_iff crc16modbus b).mp
    · exact comesTo_congr fun _ b => (unloggable_rtu_iff crc16modbus b).mpr

/-! ## Throwing again -/

/-- A data event that throws leaves the request that cannot be logged in front of the buffer. -/
theorem unloggable_of_throws {ρ : Type} {R : Reader ρ} (h : ModbusServerRequestHandler ρ)
    (data : Buffer) (hthrows : (handle R h data).2 ≠ .ok ()) :
    Unloggable R (handle R h data).1._buffer := by
  refine Loop.Body.exec_induction (l := handleLoop R) (P := fun _ r =>
    r.2 ≠ .ok () → Unloggable R r.1._buffer) ?_ (fun _ _ _ ih => ih)
    { handler := { h with _buffer := h._buffer ++ data }, resyncing := false } hthrows
  intro s r hr hne
  rcases handleRound_leave_cases hr with ⟨rfl, -, -⟩ | ⟨request, e, hsome, hline, rfl⟩
  · exact absurd rfl hne
  · exact ⟨request, e, hsome, hline⟩

theorem holdsDeviceIdentification_append {b : Buffer} (h : HoldsDeviceIdentification b)
    (data : Buffer) : HoldsDeviceIdentification (b ++ data) := by
  rcases b with _ | ⟨a, _ | ⟨f, _ | ⟨m, _ | ⟨d, _ | ⟨o, _ | ⟨x, _ | ⟨y, tail⟩⟩⟩⟩⟩⟩⟩
  case cons.cons.cons.cons.cons.cons.cons => exact h
  all_goals exact absurd h id

/-- With a device identification request in front of the buffer, a data event throws and leaves
everything as it is: nothing that arrives later is looked at. -/
theorem handle_of_holdsDeviceIdentification (crc16modbus : Buffer → UInt16)
    {h : ModbusServerRequestHandler ModbusRTURequest}
    (hfront : HoldsDeviceIdentification h._buffer) (data : Buffer) :
    ∃ e, handle (rtuReader crc16modbus) h data =
      ({ h with _buffer := h._buffer ++ data }, .error e) := by
  obtain ⟨request, e, hsome, hline⟩ := (unloggable_rtu_iff crc16modbus _).mpr
    (holdsDeviceIdentification_append hfront data)
  refine ⟨e, Loop.Body.exec_leave (l := handleLoop (rtuReader crc16modbus)) ?_⟩
  show handleRound _ _ = _
  simp only [handleRound, hsome, hline]

/-- After a data event over RTU that throws, no request is accepted any more, whatever
arrives. -/
theorem run_requests_of_throws {crc16modbus : Buffer → UInt16}
    (h : ModbusServerRequestHandler ModbusRTURequest) (data : Buffer)
    (hthrows : (handle (rtuReader crc16modbus) h data).2 ≠ .ok ()) (chunks : List Buffer) :
    (run (rtuReader crc16modbus) (handle (rtuReader crc16modbus) h data).1 chunks)._requests =
      (handle (rtuReader crc16modbus) h data).1._requests := by
  have hfront := (unloggable_rtu_iff crc16modbus _).mp (unloggable_of_throws h data hthrows)
  generalize (handle (rtuReader crc16modbus) h data).1 = stuck at hfront
  induction chunks generalizing stuck with
  | nil => rfl
  | cons chunk chunks ih =>
    obtain ⟨e, he⟩ := handle_of_holdsDeviceIdentification crc16modbus hfront chunk
    rw [run, List.foldl_cons, ← run, he]
    exact ih _ (holdsDeviceIdentification_append hfront chunk)

/-- A device identification request from unit 1, with its CRC right: whatever the CRC is,
logging it throws, and the request stays in front of the buffer. -/
theorem not_returns_deviceIdentification :
    ¬ ∃ crc16modbus : Buffer → UInt16, Returns (rtuReader crc16modbus) new
      ([1, 43, 14, 1, 0] ++ Words.le16 (crc16modbus [1, 43, 14, 1, 0]).toNat) := by
  rintro ⟨crc16modbus, h⟩
  refine (returns_iff_not_comesTo _ _ _).mp h (.here ?_)
  exact (unloggable_rtu_iff crc16modbus _).mpr rfl

end NodeModbus

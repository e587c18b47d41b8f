import NodeModbus.Service.Late

/-!
# Whose answers are whose

On a serial line where requests are given up while they are on their way, every promise is
resolved with the answer to its own request, or to an earlier one that was given up. The
tables are those after the requests that were served, whatever became of their promises.

- `Follows`: where the requests are that were written. `absorb`, `call`, `opened`, `event`,
  `upstream`, `downstream`: every event keeps it.
- `attributed`: what the user sees, for every reachable state.
- `settled_of_still`: when nothing is on the line, every promise is settled.
- `exists_all_settled`: what is on the line only has to arrive.
-/

namespace NodeModbus

open Buffer Framing MBClientRequestHandler Transition
open ModbusRTUClientRequestHandler (handleAll)

variable {crc16modbus : Buffer → UInt16}

/-- Where the requests are that were written: their answers have come in, or are on their
way, or the requests are on their way. The answer to the request under way has not come in. -/
structure Follows (id : Option Int) (t : Tables) (heap : Heap) (s : SerialLine crc16modbus)
    (heard answered asked : List (Turn crc16modbus)) (gs : List SerialAnswer) : Prop where
  recalls : Recalls (.load t heap) s.client.unitId s.handler (heard ++ answered ++ asked)
  promises : Heard (.load t heap) s.handler.log heard
  awaited : ∀ u, s.handler._currentRequest = some u → u ∈ (answered ++ asked).map Turn.request
  wired : Wired id t heap s (heard ++ answered) (asked.map Turn.frame) gs
  answers : gs.map SerialAnswer.answer = (Memory.machine.run
    (Memory.machine.run (.load t heap) (heard.map Turn.op)).1 (answered.map Turn.op)).2
  sent : ∃ first, s.written = first ++ asked.map Turn.request

variable {id : Option Int} {t : Tables} {heap : Heap} {s : SerialLine crc16modbus}
  {heard answered asked : List (Turn crc16modbus)} {gs : List SerialAnswer}
  {added : List (Action ModbusRTURequest ModbusRTUResponse)}

namespace Follows

/-- The client has written requests, and resolved no promise. -/
theorem absorb (h : Follows id t heap s heard answered asked gs)
    {c : ModbusRTUClientRequestHandler} {written : List (Turn crc16modbus)}
    (hwrote : Wrote s.handler c added written) (hnone : added.filterMap Action.resolution = [])
    (hrecalls : Recalls (.load t heap) s.client.unitId c
      (heard ++ answered ++ asked ++ written)) :
    Follows id t heap (s.absorb (s.client.withHandler c)) heard answered
      (asked ++ written) gs := by
  obtain ⟨first, hsent⟩ := h.sent
  constructor
  case recalls =>
    rw [← List.append_assoc]
    exact hrecalls
  case promises =>
    show Heard (.load t heap) c.log heard
    rw [hwrote.log]
    exact h.promises.mono hnone
  case awaited =>
    intro u hu
    rw [← List.append_assoc, List.map_append]
    rcases hwrote.underWay u hu with hbefore | hnew
    · exact List.mem_append_left _ (h.awaited u hbefore)
    · exact List.mem_append_right _ hnew
  case wired =>
    rw [List.map_append]
    exact h.wired.absorb hwrote.log hwrote.payloads
  case answers => exact h.answers
  case sent =>
    refine ⟨first, ?_⟩
    show writes c.log = _
    rw [hwrote.log, writes_append, hwrote.requests,
      List.map_append, ← List.append_assoc, ← hsent]
    rfl

/-- The user calls a request method. -/
theorem call (h : Follows id t heap s heard answered asked gs) (unsafeBytes : Nat → UInt8)
    {k : Call} (hallowed : s.AllowedLate (.load t heap) (.line (.call unsafeBytes k))) :
    ∃ asked', Follows id t heap (s.next (.ofTables id t) (.call unsafeBytes k)) heard answered
      asked' gs := by
  cases hcall : k.body unsafeBytes with
  | error e =>
    have happly : s.next (.ofTables id t) (.call unsafeBytes k) =
      s.absorb (s.client.withHandler s.handler) :=
      congrArg (fun c => s.absorb (s.client.withHandler c))
        (Call.apply_error (w := .rtu crc16modbus) s.client.unitId s.handler hcall)
    rw [happly]
    refine ⟨asked ++ [], h.absorb (.refl _) rfl ?_⟩
    rw [List.append_nil]
    exact h.recalls
  | ok requestBody =>
    obtain ⟨hsendable, ⟨p, hp⟩, op, hop, hrange⟩ := hallowed requestBody hcall
    obtain ⟨x, hkey, hrequest, rfl⟩ :=
      @exists_turn crc16modbus s.handler.registered s.client.unitId _ _ _ hsendable hp hop
    have happly : s.next (.ofTables id t) (.call unsafeBytes k) =
        s.absorb (s.client.withHandler
          ((s.handler.push x.frame.request)._flush (rtuMessages crc16modbus)).1) := by
      rw [hrequest]
      exact congrArg (fun c => s.absorb (s.client.withHandler c))
        (@Call.apply_ok (.rtu crc16modbus) s.client.unitId unsafeBytes s.handler k _ hcall)
    obtain ⟨added, written, hwrote, hnone, hrecalls⟩ :=
      h.recalls.call hkey hrange (by rw [hrequest])
    rw [happly]
    exact ⟨_, h.absorb hwrote hnone hrecalls⟩

/-- The line is opened. -/
theorem opened (h : Follows id t heap s heard answered asked gs) :
    Follows id t heap (s.next (.ofTables id t) .opened) heard answered (asked ++ []) gs := by
  have hlog : s.handler._onConnect.log = s.handler.log ++ [.state .online] := rfl
  have hrecalls := h.recalls
  have hwrites : writes s.handler._onConnect.log = writes s.handler.log := by
    rw [hlog, writes_concat]
    exact List.append_nil _
  refine h.absorb ⟨hlog, rfl, rfl, fun u hu => .inl hu⟩ rfl ?_
  rw [List.append_nil]
  exact { hrecalls with
    inv := hrecalls.inv.onConnect
    encoded := hrecalls.encoded.concat (a := .state .online) hlog rfl
    writable :=
      ⟨hrecalls.writable.pending, fun u hu => hwrites ▸ hrecalls.writable.written u hu⟩
    written := hwrites ▸ hrecalls.written }

/-- A timer expires, or the user rejects requests. -/
theorem event (h : Follows id t heap s heard answered asked gs) {e : Event (.rtu crc16modbus)}
    (hallowed : s.AllowedLate (.load t heap) (.event e)) :
    ∃ asked', Follows id t heap (s.nextLate (.ofTables id t) (.event e)) heard answered
      asked' gs := by
  obtain ⟨hrunning, hinternal, hhandle⟩ := hallowed
  obtain ⟨added, written, hwrote, hnone, hrecalls⟩ :=
    h.recalls.event s.client.unitId hrunning hinternal hhandle
  exact ⟨_, h.absorb hwrote hnone hrecalls⟩

/-- What was written is in range. -/
theorem proper (h : Follows id t heap s heard answered asked gs) :
    (∀ x ∈ heard ++ answered, x.op.InRange (.load t heap)) ∧
      ∀ x ∈ asked, x.op.InRange (.load t heap) ∧ x.frame.request.address = s.client.unitId := by
  obtain ⟨hserved, hasked⟩ := List.forall_mem_append.mp h.recalls.proper
  exact ⟨fun x hx => (hserved x hx).1, hasked⟩

/-- Bytes arrive at the server. -/
theorem upstream (h : Follows id t heap s heard answered asked gs) {k : Nat}
    (hcut : (s.up.deliver k).Uncut fun _ n => n = 1) :
    ∃ answered' asked' gs',
      Follows id t heap (s.next (.ofTables id t) (.upstream k)) heard answered' asked' gs' := by
  obtain ⟨arrived, rest, gs', rfl, hanswers, hwired⟩ :=
    h.wired.upstream h.proper.1 h.proper.2 hcut
  obtain ⟨first, hsent⟩ := h.sent
  -- they are served from the last one to the first
  have hperm : (answered ++ arrived.reverse ++ rest).Perm (answered ++ (arrived ++ rest)) := by
    rw [List.append_assoc]
    exact ((List.reverse_perm arrived).append_right rest).append_left answered
  refine ⟨answered ++ arrived.reverse, rest, gs ++ gs', ?_, h.promises, ?_, ?_, ?_,
    first ++ arrived.map Turn.request, ?_⟩
  · refine h.recalls.perm ?_
    rw [List.append_assoc heard, List.append_assoc heard]
    exact hperm.append_left heard
  · intro u hu
    exact (hperm.map Turn.request).mem_iff.mpr (h.awaited u hu)
  · rw [← List.append_assoc]
    exact hwired
  · rw [List.map_append, h.answers, hanswers, List.map_append, List.map_append,
      Refinement.Machine.outputs_append, Refinement.Machine.run_append]
  · rw [List.append_assoc, ← List.map_append]
    exact hsent

theorem length_answered (h : Follows id t heap s heard answered asked gs) :
    gs.length = answered.length := by
  have hlens := congrArg List.length h.answers
  rw [List.length_map, Refinement.Machine.length_run, List.length_map] at hlens
  exact hlens

/-- The answers that come in first are those to the requests that were served first. -/
theorem exists_arrived {arrived rest : List SerialAnswer}
    (h : Follows id t heap s heard answered asked (arrived ++ rest)) :
    ∃ before after, answered = before ++ after ∧ before.length = arrived.length ∧
      arrived.map SerialAnswer.answer = (Memory.machine.run
        (Memory.machine.run (.load t heap) (heard.map Turn.op)).1 (before.map Turn.op)).2 ∧
      rest.map SerialAnswer.answer = (Memory.machine.run
        (Memory.machine.run (.load t heap) ((heard ++ before).map Turn.op)).1
          (after.map Turn.op)).2 := by
  obtain ⟨before, after, rfl, hlen⟩ :
      ∃ before after, answered = before ++ after ∧ before.length = arrived.length := by
    have hlens := h.length_answered
    rw [List.length_append] at hlens
    exact ⟨answered.take arrived.length, answered.drop arrived.length,
      (List.take_append_drop ..).symm, by rw [List.length_take]; omega⟩
  have hanswers := h.answers
  rw [List.map_append, List.map_append, Refinement.Machine.outputs_append] at hanswers
  obtain ⟨hbefore, hafter⟩ := List.append_inj hanswers (by
    rw [List.length_map, Refinement.Machine.length_run, List.length_map, hlen])
  refine ⟨before, after, rfl, hlen, hbefore, ?_⟩
  rw [List.map_append, Refinement.Machine.run_append]
  exact hafter

/-- Bytes arrive at the client. When they bring an answer, only what was waiting is still
pending. -/
theorem downstream (h : Follows id t heap s heard answered asked gs) (k : Nat) :
    ∃ heard' answered' asked' gs',
      Follows id t heap (s.next (.ofTables id t) (.downstream k)) heard' answered' asked' gs' ∧
      (s.next (.ofTables id t) (.downstream k)).requests = s.requests ∧
      (gs' = gs ∨ ∀ u, s.handler._currentRequest = some u →
        (s.next (.ofTables id t) (.downstream k)).handler.pending ⊆ s.handler._requests) := by
  obtain ⟨arrived, rest, rfl, hreceived, hnext⟩ :=
    h.wired.downstream h.recalls.writable.pending k
  obtain ⟨before, after, rfl, hlen, hbefore, hafter⟩ := h.exists_arrived
  have hrecalls := h.recalls
  rw [← List.append_assoc, List.append_assoc (heard ++ before)] at hrecalls
  obtain ⟨added, written, hwrote, hrecalls', hheard⟩ := hrecalls.handleAll h.promises hbefore
  obtain ⟨first, hsent⟩ := h.sent
  rw [hnext]
  refine ⟨heard ++ before, after, asked ++ written, rest,
    ⟨?_, ?_, ?_, ?_, ?_, first, ?_⟩, ?_, ?_⟩
  · rw [← List.append_assoc, List.append_assoc (heard ++ before)]
    exact hrecalls'
  · show Heard (.load t heap) (handleAll crc16modbus s.handler arrived).log _
    rw [hwrote.log]
    exact hheard
  · intro u hu
    rw [← List.append_assoc, List.map_append]
    rcases hwrote.underWay u hu with hcurrent | hnew
    · refine List.mem_append_left _ ?_
      cases arrived with
      | nil =>
        obtain rfl := List.eq_nil_of_length_eq_zero hlen
        exact h.awaited u hcurrent
      | cons g gs =>
        exact absurd hu (ModbusRTUClientRequestHandler.current_handleAll h.recalls.inv
          hcurrent g gs)
    · exact List.mem_append_right _ hnew
  · rw [List.map_append, List.append_assoc]
    exact hreceived.absorb hwrote.log hwrote.payloads
  · exact hafter
  · show writes (handleAll crc16modbus s.handler arrived).log = _
    rw [hwrote.log, writes_append, hwrote.requests,
      List.map_append, ← List.append_assoc, ← hsent]
    rfl
  · obtain ⟨-, added', hlog, hregistrations, -⟩ :=
      @SerialAnswer.advances_handleAll crc16modbus s.handler arrived
    show registrations (handleAll crc16modbus s.handler arrived).log =
      registrations s.handler.log
    rw [hlog, registrations_append, hregistrations, List.append_nil]
  · cases arrived with
    | nil => exact .inl rfl
    | cons g gs =>
      exact .inr fun u hu => ModbusRTUClientRequestHandler.pending_handleAll hu g gs

end Follows

/-! ## Runs -/

/-- Nothing has happened. -/
theorem follows_init (h : (lateSystem crc16modbus id t heap).init s) :
    Follows id t heap s [] [] [] [] := by
  have hwired := wired_init h
  have hstarts := h.1
  suffices hclient : Recalls (.load t heap) s.client.unitId s.handler
    ([] : List (Turn crc16modbus)) ∧
      s.handler.log.filterMap Action.resolution = [] ∧ s.handler._currentRequest = none ∧
      s.written = [] by
    obtain ⟨hrecalls, hresolutions, hcurrent, hwritten⟩ := hclient
    refine ⟨hrecalls, ?_, fun u hu => ?_, hwired, rfl, [], hwritten⟩
    · rw [Heard, hresolutions]
      exact .nil
    · cases hcurrent.symm.trans hu
  rw [SerialLine.written]
  generalize s.handler = c at hstarts ⊢
  cases hstarts with
  | rtu =>
    refine ⟨⟨inv_new, ?_, inv_new.writable _ rfl, ?_, ?_, .refl _⟩, rfl, rfl, rfl⟩
    · exact fun u payload hmem => absurd hmem List.not_mem_nil
    · exact List.forall_mem_nil _
    · exact List.forall_mem_nil _
  | rtuOpen =>
    refine ⟨⟨inv_new.onConnect, ?_, inv_new.onConnect.writable _ rfl, ?_, ?_, .refl _⟩, rfl,
      rfl, rfl⟩
    · intro u payload hmem
      cases List.mem_singleton.mp hmem
    · exact List.forall_mem_nil _
    · exact List.forall_mem_nil _

theorem Follows.next (h : Follows id t heap s heard answered asked gs)
    {e : LateEvent crc16modbus} (hallowed : s.AllowedLate (.load t heap) e) :
    ∃ heard' answered' asked' gs',
      Follows id t heap (s.nextLate (.ofTables id t) e) heard' answered' asked' gs' := by
  cases e with
  | event e =>
    obtain ⟨asked', hfollows⟩ := h.event hallowed
    exact ⟨_, _, _, _, hfollows⟩
  | line e =>
    cases e with
    | call unsafeBytes k =>
      obtain ⟨asked', hfollows⟩ := h.call unsafeBytes hallowed
      exact ⟨_, _, _, _, hfollows⟩
    | opened => exact ⟨_, _, _, _, h.opened⟩
    | upstream k =>
      obtain ⟨answered', asked', gs', hfollows⟩ := h.upstream hallowed
      exact ⟨_, _, _, _, hfollows⟩
    | downstream k =>
      obtain ⟨heard', answered', asked', gs', hfollows, -, -⟩ := h.downstream k
      exact ⟨_, _, _, _, hfollows⟩

theorem exists_follows (h : Reachable (lateSystem crc16modbus id t heap) s) :
    ∃ heard answered asked gs, Follows id t heap s heard answered asked gs := by
  induction h with
  | init h => exact ⟨[], [], [], [], follows_init h⟩
  | step e _ hallowed ih =>
    obtain ⟨heard, answered, asked, gs, hfollows⟩ := ih
    exact hfollows.next hallowed

/-- Nothing is on the line. -/
def SerialLine.Still (s : SerialLine crc16modbus) :
    Prop := s.up.frames = [] ∧ s.down.frames = []

/-- Nothing is pending when nothing is on the line. -/
theorem Follows.pending_of_still (h : Follows id t heap s heard answered asked gs)
    (hstill : s.Still) : s.handler.pending = [] := by
  obtain rfl : asked = [] :=
    List.map_eq_nil_iff.mp (List.map_eq_nil_iff.mp (h.wired.up.symm.trans hstill.1))
  obtain rfl : gs = [] := List.map_eq_nil_iff.mp (h.wired.down.symm.trans hstill.2)
  obtain rfl : answered = [] := List.eq_nil_of_length_eq_zero h.length_answered.symm
  cases hcurrent : s.handler._currentRequest with
  | none => exact pending_of_idle hcurrent (h.recalls.inv.requests_eq_nil hcurrent)
  | some u => exact absurd (h.awaited u hcurrent) List.not_mem_nil

/-- When nothing is pending, every promise is settled. -/
theorem Follows.settled_of_idle (h : Follows id t heap s heard answered asked gs)
    (hidle : s.handler.pending = []) : ∀ u ∈ s.requests, Settled s.handler.log u := by
  obtain ⟨finished, hfinished⟩ := h.recalls.inv.accounted
  intro u hu
  have hmem : u ∈ finished ++ s.handler.pending := hfinished.registrations ▸ hu
  rw [hidle, List.append_nil] at hmem
  exact hfinished.settled u hmem

/-- Bytes arrive, on one side or the other. -/
def LateEvent.Delivers (e : LateEvent crc16modbus) :
    Prop := ∃ d : LineEvent, d.Delivers ∧ e = .line d

/-- When everything arrives that is on the line, fewer requests are pending. -/
theorem Follows.exists_round (h : Follows id t heap s heard answered asked gs)
    (hpending : s.handler.pending ≠ []) :
    ∃ events : List (LateEvent crc16modbus), (∀ e ∈ events, e.Delivers) ∧
      (lateSystem crc16modbus id t heap).Runs s events ∧
      (∃ heard' answered' asked' gs',
        Follows id t heap ((lateSystem crc16modbus id t heap).after s events) heard' answered'
          asked' gs') ∧
      ((lateSystem crc16modbus id t heap).after s events).requests = s.requests ∧
      ((lateSystem crc16modbus id t heap).after s events).handler.pending.length <
        s.handler.pending.length := by
  obtain ⟨u, hcurrent⟩ : ∃ u, s.handler._currentRequest = some u := by
    refine Option.ne_none_iff_exists'.mp fun hnone => hpending ?_
    exact pending_of_idle hnone (h.recalls.inv.requests_eq_nil hnone)
  have hup := s.up.frames_deliver_all
  generalize s.up.frames.flatten.length = k at hup
  have hcut := Wire.uncut_of_frames_nil (fun (_ : Buffer) n => n = 1) hup
  obtain ⟨answered₁, asked₁, gs₁, h₁⟩ := h.upstream hcut
  have hdown := (s.next (.ofTables id t) (.upstream k)).down.frames_deliver_all
  generalize (s.next (.ofTables id t) (.upstream k)).down.frames.flatten.length = k' at hdown
  obtain ⟨heard₂, answered₂, asked₂, gs₂, h₂, hsame, hleft⟩ := h₁.downstream k'
  refine ⟨[.line (.upstream k), .line (.downstream k')], ?_, ?_,
    ⟨heard₂, answered₂, asked₂, gs₂, h₂⟩, hsame, ?_⟩
  · exact List.forall_mem_cons.mpr ⟨⟨_, .inl ⟨k, rfl⟩, rfl⟩,
      List.forall_mem_singleton.mpr ⟨_, .inr ⟨k', rfl⟩, rfl⟩⟩
  · exact System.runs_cons.mpr ⟨hcut, System.runs_cons.mpr ⟨trivial, each_nil _⟩⟩
  · rcases hleft with rfl | hleft
    · -- without an answer on the line, nothing would have been pending
      have hnone : gs₂ = [] := List.map_eq_nil_iff.mp (h₂.wired.down.symm.trans hdown)
      have hstill : (s.next (.ofTables id t) (.upstream k)).Still := by
        refine ⟨hup, ?_⟩
        rw [h₁.wired.down, hnone]
        rfl
      exact absurd (h₁.pending_of_still hstill) hpending
    · exact length_pending_lt h₂.recalls.inv hcurrent (hleft u hcurrent)

/-- After a number of rounds nothing is pending. -/
theorem Follows.exists_idle (h : Follows id t heap s heard answered asked gs) :
    ∃ events : List (LateEvent crc16modbus), (∀ e ∈ events, e.Delivers) ∧
      (lateSystem crc16modbus id t heap).Runs s events ∧
      ∀ u ∈ s.requests,
        Settled ((lateSystem crc16modbus id t heap).after s events).handler.log u := by
  refine ((lateSystem crc16modbus id t heap).exists_run_of_rounds (D := LateEvent.Delivers)
    (P := fun n s' => (∃ heard' answered' asked' gs',
      Follows id t heap s' heard' answered' asked' gs') ∧ s'.requests = s.requests ∧
      s'.handler.pending.length = n)
    ?round ⟨⟨_, _, _, _, h⟩, rfl, rfl⟩).imp ?idle
  case round =>
    rintro n s' ⟨⟨heard', answered', asked', gs', h'⟩, hsame', rfl⟩ hleft
    obtain ⟨events, hevents, hruns, hafter, hsame, hlt⟩ :=
      h'.exists_round (mt List.length_eq_zero_iff.mpr hleft)
    exact ⟨events, hevents, hruns, _, hlt, hafter, hsame.trans hsame', rfl⟩
  case idle =>
    rintro events ⟨hevents, hruns, ⟨heard', answered', asked', gs', h'⟩, hsame, hidle⟩
    refine ⟨hevents, hruns, ?_⟩
    rw [← hsame]
    exact h'.settled_of_idle (List.eq_nil_of_length_eq_zero hidle)

section Example

/-- The CRC of two reads of a register and of the answers 7 and 9. -/
def lateCrc (b : Buffer) : UInt16 :=
  if b = [1, 3, 0, 0, 0, 1] then 0x0A84
  else if b = [1, 3, 0, 1, 0, 1] then 0xCAD5
  else if b = [1, 3, 2, 0, 7] then 0x86F9
  else if b = [1, 3, 2, 0, 9] then 0x4278
  else 0

/-- Two registers, with the values 7 and 9. -/
def lateHeap : Heap := fun r => if r = registersOnly.holding then [0, 7, 0, 9] else []

/-- A new client and a new server, with nothing on the line. -/
def lateLine : SerialLine lateCrc :=
  { client := ⟨1, .new, ModbusRTUClientResponseHandler.new⟩, requestHandler := .new,
    heap := lateHeap, up := .empty, down := .empty }

/-- The first call: a read of register 0. -/
def firstRead : UserRequest ModbusRTURequest :=
  ⟨0, ⟨1, .readHoldingRegisters ⟨0, 1, zero_le_address, one_le_count⟩, false⟩⟩

/-- The timer of the first read expires when the answer is on its way, and that comes in
after the second call. -/
def lateRead : List (LateEvent lateCrc) :=
  [.line .opened, .line (.call (fun _ => 0) (.readHoldingRegisters 0 1)), .line (.upstream 8),
    .event (.timeout firstRead),
    .line (.call (fun _ => 0) (.readHoldingRegisters 1 1)), .line (.downstream 7)]

theorem reachable_lateRead :
    Reachable (lateSystem lateCrc none registersOnly lateHeap)
      ((lateSystem lateCrc none registersOnly lateHeap).after lateLine lateRead) := by
  have h₀ : Reachable (lateSystem lateCrc none registersOnly lateHeap) lateLine :=
    .init ⟨.rtu lateCrc, rfl, show IsUInt8 1 by decide, rfl, rfl, rfl, rfl, rfl⟩
  have h₁ := h₀.step (LateEvent.line .opened) trivial
  have h₂ := h₁.step (LateEvent.line (.call (fun _ => 0) (.readHoldingRegisters 0 1))) (by
    rintro _ ⟨⟩
    exact ⟨trivial, ⟨_, rfl⟩, _, rfl, by decide⟩)
  have h₃ := h₂.step (LateEvent.line (.upstream 8))
    (show (Wire.deliver _ 8).Uncut (fun (_ : Buffer) n => n = 1) by decide)
  have h₄ := h₃.step (LateEvent.event (.timeout firstRead))
    ⟨List.mem_cons_self .., trivial, fun response => nofun⟩
  have h₅ := h₄.step (LateEvent.line (.call (fun _ => 0) (.readHoldingRegisters 1 1))) (by
    rintro _ ⟨⟩
    exact ⟨trivial, ⟨_, rfl⟩, _, rfl, by decide⟩)
  exact h₅.step (LateEvent.line (.downstream 7)) trivial

/-- The promise of the second read gets the value of the first register. -/
example :
    ((lateSystem lateCrc none registersOnly lateHeap).after lateLine lateRead).resolutions.map
    (fun got => (got.1.key, got.2)) = [(1, .readHoldingRegisters [7])] := by decide

/-- Then the second request and its answer arrive as well. -/
theorem reachable_lateReadArrived :
    Reachable (lateSystem lateCrc none registersOnly lateHeap)
      ((lateSystem lateCrc none registersOnly lateHeap).after lateLine
        (lateRead ++ [.line (.upstream 8), .line (.downstream 7)])) := by
  have h₁ := reachable_lateRead.step (LateEvent.line (.upstream 8))
    (show (Wire.deliver _ 8).Uncut (fun (_ : Buffer) n => n = 1) by decide)
  exact h₁.step (LateEvent.line (.downstream 7)) trivial

end Example

end NodeModbus

import NodeModbus.Service.Ledger
import NodeModbus.Service.Wired

/-!
# Calls on a serial line

While no timer expires, the calls on a serial line take turns: each is served when the one
before has returned, in whatever pieces the bytes arrive.

- `Explains`: where every request is, besides what is on the line. `call`, `opened`,
  `upstream`, `downstream`: every event keeps it.
- `inTurn`: what the user sees, for every reachable state.
- `exists_all_returned`: the calls return, when what is on its way arrives.
-/

namespace NodeModbus

open Buffer Framing MBClientRequestHandler Transition

variable {crc16modbus : Buffer → UInt16}

/-! ## The line -/

/-- What has become of the calls, and what is on the line. -/
structure Explains (id : Option Int) (t : Tables) (heap : Heap) (s : SerialLine crc16modbus)
    (done : List (Turn crc16modbus)) (current : Option (Turn crc16modbus))
    (waiting served : List (Turn crc16modbus)) (frames : List (RtuFrame crc16modbus))
    (answers : List SerialAnswer) : Prop where
  ledger : Ledger (.load t heap) s.client.unitId s.handler done current waiting
  idle : current = none → waiting = []
  online : current ≠ none → s.handler._state = .online
  onLine : OnLine (.load t heap) done current served frames answers
  wired : Wired id t heap s served frames answers

variable {id : Option Int} {t : Tables} {heap : Heap} {s : SerialLine crc16modbus}
  {done waiting served : List (Turn crc16modbus)} {current : Option (Turn crc16modbus)}
  {frames : List (RtuFrame crc16modbus)} {answers : List SerialAnswer}

/-- The user calls a request method. -/
theorem Explains.call (h : Explains id t heap s done current waiting served frames answers)
    (unsafeBytes : Nat → UInt8) {k : Call}
    (hallowed : s.Allowed (.load t heap) (.call unsafeBytes k)) :
    ∃ current' waiting' frames',
      Explains id t heap (s.next (.ofTables id t) (.call unsafeBytes k)) done current'
      waiting' served frames' answers := by
  obtain ⟨honline, hbody⟩ := hallowed
  cases hcall : k.body unsafeBytes with
  | error e =>
    have happly : s.next (.ofTables id t) (.call unsafeBytes k) =
      s.absorb (s.client.withHandler s.handler) :=
      congrArg (fun c => s.absorb (s.client.withHandler c))
        (Call.apply_error (w := .rtu crc16modbus) s.client.unitId s.handler hcall)
    rw [happly]
    exact ⟨current, waiting, frames, h.ledger, h.idle, h.online, h.onLine,
      h.wired.absorb_nil (List.append_nil _).symm rfl⟩
  | ok requestBody =>
    obtain ⟨hsendable, ⟨p, hp⟩, op, hop, hrange⟩ := hbody requestBody hcall
    obtain ⟨x, hkey, hrequest, rfl⟩ :=
      @exists_turn crc16modbus s.handler.registered s.client.unitId _ _ _ hsendable hp hop
    have happly : s.next (.ofTables id t) (.call unsafeBytes k) =
        s.absorb (s.client.withHandler
          ((s.handler.push x.frame.request)._flush (rtuMessages crc16modbus)).1) := by
      rw [hrequest]
      exact congrArg (fun c => s.absorb (s.client.withHandler c))
        (@Call.apply_ok (.rtu crc16modbus) s.client.unitId unsafeBytes s.handler k _ hcall)
    obtain ⟨current', waiting', added, written, hidle, hstate, hlog, hwritten, hledger,
      honLine⟩ :=
      h.ledger.register honline hkey hrange (by rw [hrequest])
    rw [happly]
    exact ⟨current', waiting', frames ++ written, hledger, hidle, fun _ => hstate,
      honLine _ _ _ h.onLine, h.wired.absorb hlog hwritten⟩

/-- The line is opened. -/
theorem Explains.opened (h : Explains id t heap s done current waiting served frames answers) :
    Explains id t heap (s.next (.ofTables id t) .opened) done current waiting served frames
      answers := by
  have hlog : s.handler._onConnect.log = s.handler.log ++ [.state .online] := rfl
  exact ⟨h.ledger.onConnect, h.idle, fun _ => rfl, h.onLine, h.wired.absorb_nil hlog rfl⟩

/-- What is served is in range. -/
theorem Explains.served_inRange
    (h : Explains id t heap s done current waiting served frames answers) :
    ∀ x ∈ served, x.op.InRange (.load t heap) := by
  have hsub : ∀ x ∈ served, x ∈ done ++ (current.toList ++ waiting) := by
    intro x hx
    cases h.onLine with
    | idle => exact List.mem_append_left _ hx
    | asked y => exact List.mem_append_left _ hx
    | answered y g hg =>
      rw [← List.append_assoc]
      exact List.mem_append_left _ hx
  exact fun x hx => (h.ledger.proper x (hsub x hx)).1

/-- What is on its way to the server is the request under way, if anything. -/
theorem OnLine.exists_asked {m : Memory} (h : OnLine m done current served frames answers) :
    ∃ asked : List (Turn crc16modbus), frames = asked.map Turn.frame ∧ ∀ x ∈ asked,
      x ∈ current.toList := by
  cases h with
  | idle => exact ⟨[], rfl, List.forall_mem_nil _⟩
  | asked x => exact ⟨[x], rfl, fun y hy => hy⟩
  | answered x g hg => exact ⟨[], rfl, List.forall_mem_nil _⟩

/-- Bytes arrive at the server: a request that is whole is served, and its answer is on its
way. -/
theorem Explains.upstream (h : Explains id t heap s done current waiting served frames answers)
    {k : Nat} (hcut : (s.up.deliver k).Uncut fun _ n => n = 1) :
    ∃ served' frames' answers',
      Explains id t heap (s.next (.ofTables id t) (.upstream k)) done current waiting
      served' frames' answers' := by
  obtain ⟨asked, hframes, hasked⟩ := h.onLine.exists_asked
  have hproper : ∀ x ∈ asked, x.op.InRange (.load t heap) ∧ x.frame.request.address =
      s.client.unitId := fun x hx =>
    h.ledger.proper x (List.mem_append_right _ (List.mem_append_left _ (hasked x hx)))
  obtain ⟨arrived, rest, gs, rfl, hanswers, hwired⟩ :=
    (hframes ▸ h.wired).upstream h.served_inRange hproper hcut
  cases arrived with
  | nil =>
    obtain rfl := List.map_eq_nil_iff.mp hanswers
    rw [List.reverse_nil, List.append_nil, List.append_nil] at hwired
    exact ⟨served, frames, answers, h.ledger, h.idle, h.online, h.onLine, hframes ▸ hwired⟩
  | cons x arrived =>
    have honLine := h.onLine
    cases honLine with
    | idle => cases hframes
    | answered => cases hframes
    | asked y =>
      obtain rfl : x = y := List.mem_singleton.mp (hasked x (List.mem_cons_self ..))
      obtain ⟨-, hrest⟩ := List.cons.inj hframes
      obtain ⟨rfl, rfl⟩ := List.append_eq_nil_iff.mp (List.map_eq_nil_iff.mp hrest.symm)
      obtain ⟨g, rfl, hanswer⟩ := List.map_eq_singleton_iff.mp hanswers
      exact ⟨done ++ [x], [], [g], h.ledger, h.idle, h.online, .answered x g hanswer, hwired⟩

/-- Bytes arrive at the client: an answer that is whole resolves the promise of the request
under way, and the next request is put under way. -/
theorem Explains.downstream
    (h : Explains id t heap s done current waiting served frames answers) (k : Nat) :
    ∃ done' current' waiting' frames' answers',
      Explains id t heap (s.next (.ofTables id t) (.downstream k)) done'
        current' waiting' served frames' answers' ∧
      done' ++ (current'.toList ++ waiting') = done ++ (current.toList ++ waiting) ∧
      (answers ≠ [] → answers' = [] → done'.length = done.length + 1) := by
  obtain ⟨arrived, rest, hsplit, hreceived, hnext⟩ := h.wired.downstream h.ledger.encodes k
  rw [hnext]
  cases arrived with
  | nil =>
    obtain rfl : answers = rest := hsplit
    exact ⟨done, current, waiting, frames, answers,
      ⟨h.ledger, h.idle, h.online, h.onLine, hreceived.absorb_nil (List.append_nil _).symm rfl⟩,
      rfl, fun hne hnil => absurd hnil hne⟩
  | cons g arrived =>
    have honLine := h.onLine
    cases honLine with
    | idle => cases hsplit
    | asked => cases hsplit
    | answered x g' hanswer =>
      obtain ⟨rfl, hrestNil⟩ := List.cons.inj hsplit
      obtain ⟨rfl, rfl⟩ := List.append_eq_nil_iff.mp hrestNil.symm
      obtain ⟨c', current', waiting', added, written, hhandle, hidle, hwaiting, hstate, hlog,
        hwritten, hledger, honLine⟩ := h.ledger.handle (h.online nofun) hanswer
      have hone : ModbusRTUClientRequestHandler.handleAll crc16modbus s.handler [g'] = c' :=
        congrArg Prod.fst hhandle
      rw [hone]
      refine ⟨done ++ [x], current', waiting', written, [],
        ⟨hledger, hidle, fun _ => hstate, honLine, hreceived.absorb hlog hwritten⟩, ?_,
        fun _ _ => List.length_append⟩
      rw [hwaiting, List.append_assoc]
      rfl

/-! ## Runs -/

/-- Nothing has happened. -/
theorem explains_init (h : (lineSystem crc16modbus id t heap).init s) :
    Explains id t heap s [] none [] [] [] [] := by
  refine ⟨?_, fun _ => rfl, fun hne => absurd rfl hne, .idle, wired_init h⟩
  have hstarts := h.1
  generalize s.handler = c at hstarts ⊢
  cases hstarts with
  | rtu =>
    exact ⟨rfl, rfl, rfl, fun x hx => absurd hx List.not_mem_nil,
      fun u err hmem => absurd hmem List.not_mem_nil, rfl⟩
  | rtuOpen =>
    refine ⟨rfl, rfl, rfl, fun x hx => absurd hx List.not_mem_nil, fun u err hmem => ?_, rfl⟩
    cases List.mem_singleton.mp hmem

theorem exists_explains (h : Reachable (lineSystem crc16modbus id t heap) s) :
    ∃ done current waiting served frames answers,
      Explains id t heap s done current waiting served frames answers := by
  induction h with
  | init h => exact ⟨[], none, [], [], [], [], explains_init h⟩
  | step e _ hallowed ih =>
    obtain ⟨done, current, waiting, served, frames, answers, hexplains⟩ := ih
    cases e with
    | call unsafeBytes k =>
      obtain ⟨current', waiting', frames', hexplains'⟩ := hexplains.call unsafeBytes hallowed
      exact ⟨_, _, _, _, _, _, hexplains'⟩
    | opened => exact ⟨_, _, _, _, _, _, hexplains.opened⟩
    | upstream k =>
      obtain ⟨served', frames', answers', hexplains'⟩ := hexplains.upstream hallowed
      exact ⟨_, _, _, _, _, _, hexplains'⟩
    | downstream k =>
      obtain ⟨done', current', waiting', frames', answers', hexplains', -⟩ :=
        hexplains.downstream k
      exact ⟨_, _, _, _, _, _, hexplains'⟩

theorem Explains.operations_eq
    (h : Explains id t heap s done current waiting served frames answers) :
    s.operations = (done ++ (current.toList ++ waiting)).map Turn.op := by
  rw [SerialLine.operations, SerialLine.requests, h.ledger.registered]
  exact Turn.operations_eq _

/-- What has become of the calls, as the user sees it. -/
theorem Explains.outcomes_eq
    (h : Explains id t heap s done current waiting served frames answers) :
    s.requests.zip (Memory.observed.run (.load t heap) s.operations).2 =
      Turn.outcomes (.load t heap) (done ++ (current.toList ++ waiting)) := by
  rw [h.operations_eq, SerialLine.requests, h.ledger.registered]
  rfl

/-- What was served are the calls that have returned, and at most one more. -/
theorem Explains.exists_served
    (h : Explains id t heap s done current waiting served frames answers) :
    ∃ n, (n = done.length ∨ n = done.length + 1) ∧
    served = (done ++ (current.toList ++ waiting)).take n := by
  cases h.onLine with
  | idle => exact ⟨done.length, .inl rfl, List.take_left.symm⟩
  | asked x => exact ⟨done.length, .inl rfl, List.take_left.symm⟩
  | answered x g hg =>
    refine ⟨done.length + 1, .inr rfl, ?_⟩
    rw [List.take_append, List.take_of_length_le (Nat.le_succ _), Nat.add_sub_cancel_left]
    rfl

/-- On a serial line that is open when the user calls, and where no timer expires, no
promise is rejected, whatever the pieces in which the bytes arrive, and the calls are served
in their order, one at a time. -/
theorem inTurn (h : Reachable (lineSystem crc16modbus id t heap) s) :
    s.InTurn (.load t heap) t heap := by
  obtain ⟨done, current, waiting, served, frames, answers, hexplains⟩ := exists_explains h
  have hresolutions : s.resolutions = Turn.outcomes (.load t heap) done :=
    hexplains.ledger.resolutions
  obtain ⟨n, hn, hserved⟩ := hexplains.exists_served
  refine ⟨hexplains.ledger.kept, ?_, n, ?_, ?_⟩
  · rw [hexplains.outcomes_eq, Turn.outcomes_append, hresolutions]
    exact List.prefix_append ..
  · rw [hresolutions, Turn.length_outcomes]
    exact hn
  · rw [hexplains.wired.tables, hexplains.operations_eq, ← List.map_take, ← hserved]

/-! ## Progress -/

/-- When everything arrives that is on its way, at the server and then at the client, the
call returns whose request is under way. -/
theorem Explains.exists_round
    (h : Explains id t heap s done current waiting served frames answers)
    (hcurrent : current ≠ none) :
    ∃ events : List LineEvent, (∀ e ∈ events, e.Delivers) ∧
    (lineSystem crc16modbus id t heap).Runs s events ∧
      ∃ done' current' waiting' served' frames' answers',
        Explains id t heap ((lineSystem crc16modbus id t heap).after s events) done' current'
          waiting' served' frames'
          answers' ∧
        done' ++ (current'.toList ++ waiting') = done ++ (current.toList ++ waiting) ∧
        done'.length = done.length + 1 := by
  have hup := s.up.frames_deliver_all
  generalize s.up.frames.flatten.length = k at hup
  have hcut := Wire.uncut_of_frames_nil (fun (_ : Buffer) n => n = 1) hup
  obtain ⟨served₁, frames₁, answers₁, h₁⟩ := h.upstream hcut
  have hframes : frames₁ = [] := List.map_eq_nil_iff.mp (h₁.wired.up.symm.trans hup)
  -- so the answer is on its way
  have hanswers : answers₁ ≠ [] := by
    subst hframes
    have honLine := h₁.onLine
    cases honLine with
    | idle => exact absurd rfl hcurrent
    | answered x g hg => exact List.cons_ne_nil _ _
  have hdown := (s.next (.ofTables id t) (.upstream k)).down.frames_deliver_all
  generalize (s.next (.ofTables id t) (.upstream k)).down.frames.flatten.length = k' at hdown
  obtain ⟨done₂, current₂, waiting₂, frames₂, answers₂, h₂, hsame, hreturns⟩ := h₁.downstream k'
  have hnone : answers₂ = [] := List.map_eq_nil_iff.mp (h₂.wired.down.symm.trans hdown)
  refine ⟨[.upstream k, .downstream k'], ?_, ?_, done₂, current₂, waiting₂, served₁, frames₂,
    answers₂, h₂, hsame, hreturns hanswers hnone⟩
  · exact List.forall_mem_cons.mpr
      ⟨.inl ⟨k, rfl⟩, List.forall_mem_singleton.mpr (.inr ⟨k', rfl⟩)⟩
  · exact System.runs_cons.mpr ⟨hcut, System.runs_cons.mpr ⟨trivial, each_nil _⟩⟩

/-- After a number of rounds all the calls have returned. -/
theorem Explains.exists_idle
    (h : Explains id t heap s done current waiting served frames answers) :
    ∃ events : List LineEvent, (∀ e ∈ events, e.Delivers) ∧
    (lineSystem crc16modbus id t heap).Runs s events ∧
      ∃ served' frames' answers',
        Explains id t heap ((lineSystem crc16modbus id t heap).after s events)
        (done ++ (current.toList ++ waiting)) none [] served' frames' answers' := by
  refine ((lineSystem crc16modbus id t heap).exists_run_of_rounds (D := LineEvent.Delivers)
    (P := fun n s' => ∃ done' current' waiting' served' frames' answers',
      Explains id t heap s' done' current' waiting' served' frames' answers' ∧
        done' ++ (current'.toList ++ waiting') = done ++ (current.toList ++ waiting) ∧
        (current'.toList ++ waiting').length = n)
    ?round ⟨_, _, _, _, _, _, h, rfl, rfl⟩).imp ?idle
  case round =>
    rintro n s' ⟨done', current', waiting', served', frames', answers', h', hsame', rfl⟩ hleft
    have hcurrent : current' ≠ none := by
      rintro rfl
      rw [h'.idle rfl] at hleft
      exact hleft rfl
    obtain ⟨events, hevents, hruns, done₂, current₂, waiting₂, served₂, frames₂, answers₂, h₂,
      hsame, hlen⟩ :=
      h'.exists_round hcurrent
    have hlens := congrArg List.length hsame
    rw [List.length_append, hlen, @List.length_append _ done'] at hlens
    exact ⟨events, hevents, hruns,
      _, by omega, done₂, current₂, waiting₂, served₂, frames₂, answers₂, h₂,
      hsame.trans hsame', rfl⟩
  case idle =>
    rintro events ⟨hevents, hruns, done', current', waiting', served', frames', answers', h',
      hsame, hleft⟩
    obtain ⟨hnone, rfl⟩ := List.append_eq_nil_iff.mp (List.eq_nil_of_length_eq_zero hleft)
    obtain rfl := Option.toList_eq_nil_iff.mp hnone
    refine ⟨hevents, hruns, served', frames', answers', ?_⟩
    rw [← hsame, Option.toList_none, List.append_nil, List.append_nil]
    exact h'

/-- From every state there are deliveries after which every call has returned, with what the
memory answers when the operations are carried out in the order of the calls, and the tables
are those after all of them. -/
theorem exists_all_returned (h : Reachable (lineSystem crc16modbus id t heap) s) :
    ∃ events : List LineEvent, (∀ e ∈ events, e.Delivers) ∧
    (lineSystem crc16modbus id t heap).Runs s events ∧
      ((lineSystem crc16modbus id t heap).after s events).resolutions =
        s.requests.zip (Memory.observed.run (.load t heap) s.operations).2 ∧
      ((lineSystem crc16modbus id t heap).after s events).heap =
        (Memory.machine.run (.load t heap) s.operations).1.store t heap := by
  obtain ⟨done, current, waiting, served, frames, answers, hexplains⟩ := exists_explains h
  obtain ⟨events, hevents, hruns, served', frames', answers', hafter⟩ := hexplains.exists_idle
  refine ⟨events, hevents, hruns, ?_, ?_⟩
  · rw [hexplains.outcomes_eq]
    exact hafter.ledger.resolutions
  · rw [hexplains.operations_eq, hafter.wired.tables]
    have honLine := hafter.onLine
    cases honLine
    rfl

section Example

/-- The CRC of a write of the value 7 to register 1, of a read of the registers 0 and 1, and
of its answer. -/
def twoCallsCrc (b : Buffer) : UInt16 :=
  if b = [1, 6, 0, 1, 0, 7] then 0xC899
  else if b = [1, 3, 0, 0, 0, 2] then 0x0BC4
  else if b = [1, 3, 4, 0, 0, 0, 7] then 0xF1BB
  else 0

/-- A new client and a new server, with nothing on the line. -/
def newLine : SerialLine twoCallsCrc :=
  { client := ⟨1, .new, ModbusRTUClientResponseHandler.new⟩, requestHandler := .new,
    heap := registersHeap, up := .empty, down := .empty }

/-- The user writes a register, and reads both while the write is under way. -/
def twoCalls : List LineEvent :=
  [.opened, .call (fun _ => 0) (.writeSingleRegister 1 7),
    .call (fun _ => 0) (.readHoldingRegisters 0 2)]

/-- The write arrives in two pieces, and its answer arrives. -/
def firstReturned : List LineEvent := twoCalls ++ [.upstream 5, .upstream 3, .downstream 8]

theorem reachable_twoCalls :
    Reachable (lineSystem twoCallsCrc none registersOnly registersHeap)
      ((lineSystem twoCallsCrc none registersOnly registersHeap).after newLine twoCalls) := by
  have h₀ : Reachable (lineSystem twoCallsCrc none registersOnly registersHeap) newLine :=
    .init ⟨.rtu twoCallsCrc, rfl, show IsUInt8 1 by decide, rfl, rfl, rfl, rfl, rfl⟩
  have h₁ := h₀.step LineEvent.opened trivial
  have h₂ := h₁.step (LineEvent.call (fun _ => 0) (.writeSingleRegister 1 7)) ⟨rfl, by
    rintro _ ⟨⟩
    exact ⟨trivial, ⟨_, rfl⟩, _, rfl, by decide⟩⟩
  exact h₂.step (LineEvent.call (fun _ => 0) (.readHoldingRegisters 0 2)) ⟨rfl, by
    rintro _ ⟨⟩
    exact ⟨trivial, ⟨_, rfl⟩, _, rfl, by decide⟩⟩

theorem reachable_firstReturned :
    Reachable (lineSystem twoCallsCrc none registersOnly registersHeap)
      ((lineSystem twoCallsCrc none registersOnly registersHeap).after newLine
        firstReturned) := by
  have h₁ := reachable_twoCalls.step (LineEvent.upstream 5)
    (show (Wire.deliver _ 5).Uncut (fun (_ : Buffer) n => n = 1) by decide)
  have h₂ := h₁.step (LineEvent.upstream 3)
    (show (Wire.deliver _ 3).Uncut (fun (_ : Buffer) n => n = 1) by decide)
  exact h₂.step (LineEvent.downstream 8) trivial

theorem exists_all_returned_twoCalls :
    ∃ events : List LineEvent, (∀ e ∈ events, e.Delivers) ∧
      (lineSystem twoCallsCrc none registersOnly registersHeap).Runs
        ((lineSystem twoCallsCrc none registersOnly registersHeap).after newLine twoCalls)
          events ∧
      ((lineSystem twoCallsCrc none registersOnly registersHeap).after
        ((lineSystem twoCallsCrc none registersOnly registersHeap).after newLine twoCalls)
          events).resolutions =
          ((lineSystem twoCallsCrc none registersOnly registersHeap).after newLine
            twoCalls).requests.zip
            (Memory.observed.run (.load registersOnly registersHeap)
              ((lineSystem twoCallsCrc none registersOnly registersHeap).after newLine
                twoCalls).operations).2 ∧
      ((lineSystem twoCallsCrc none registersOnly registersHeap).after
        ((lineSystem twoCallsCrc none registersOnly registersHeap).after newLine twoCalls)
          events).heap =
          (Memory.machine.run (.load registersOnly registersHeap)
            ((lineSystem twoCallsCrc none registersOnly registersHeap).after newLine
              twoCalls).operations).1.store registersOnly registersHeap :=
  exists_all_returned reachable_twoCalls

theorem inTurn_firstReturned :
    ((lineSystem twoCallsCrc none registersOnly registersHeap).after newLine
      firstReturned).InTurn (.load registersOnly registersHeap) registersOnly registersHeap :=
  inTurn reachable_firstReturned

end Example

end NodeModbus

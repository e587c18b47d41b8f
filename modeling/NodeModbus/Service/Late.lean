import NodeModbus.Service.Ledger
import NodeModbus.Service.Wired

/-!
# Late answers on a serial line

A frame on a serial line has no transaction id. When the timer of a request has expired,
or the user has rejected it, its answer may still come in, and is then taken for that of
the request which is under way.

- `LateEvent`, `lateSystem`: a serial line where timers expire and users reject requests.
- `OwnOrLate`: the answers a promise can be resolved with.
- `SerialLine.Attributed`: what is to be shown of every reachable state.
- `Recalls`, `Heard`: what the client knows of the requests it has written, and what
  became of the answers that came in. `event`, `call`, `handleAll`: every step keeps it.
-/

namespace NodeModbus

open Buffer Framing MBClientRequestHandler Transition
open ModbusRTUClientRequestHandler (handleAll)

variable {crc16modbus : Buffer → UInt16}

/-! ## The line -/

/-- What can happen on a serial line, also when something goes wrong. -/
inductive LateEvent (crc16modbus : Buffer → UInt16) where
  | line (e : LineEvent)
  /-- A timer expires, or the user rejects requests, or a deferred flush is due. -/
  | event (e : Event (.rtu crc16modbus))

/-- The operations that requests ask for. -/
def operationsOf (requests : List (UserRequest ModbusRTURequest)) : List Operation :=
  requests.filterMap fun u => u.request.body.content.operation

/-- The promise `got` is resolved with the answer to the request of `answered`. That is its
own request, or an earlier one of the same function code. The promise of that one, or of one
before it, was rejected then. -/
structure OwnOrLate (log : List (Action ModbusRTURequest ModbusRTUResponse))
    (got answered : UserRequest ModbusRTURequest × ResponseContent) : Prop where
  content : got.2 = answered.2
  fc : got.1.request.body.fc = answered.1.request.body.fc
  own : got.1 = answered.1 ∨
    answered.1.key < got.1.key ∧ ∃ u err, .rejected u err ∈ log ∧ u.key ≤ answered.1.key

namespace SerialLine

/-- The user may also call when the line is not open. -/
def AllowedLate (m : Memory) (s : SerialLine crc16modbus) : LateEvent crc16modbus → Prop
  | .line (.call unsafeBytes k) => ∀ requestBody, k.body unsafeBytes = .ok requestBody →
      requestBody.Sendable ∧ (∃ p, requestBody.createPayload = .ok p) ∧
        ∃ op, requestBody.content.operation = some op ∧ op.InRange m
  | .line e => s.Allowed m e
  | .event e =>
    Event.Allowed (w := .rtu crc16modbus) s.handler e ∧ e.Internal ∧ ∀ response,
    e ≠ .handle response

/-- The line after an event. -/
def nextLate (server : ModbusServer) (s : SerialLine crc16modbus) :
    LateEvent crc16modbus → SerialLine crc16modbus
  | .line e => s.next server e
  | .event e =>
    s.absorb (s.client.withHandler
      (Event.apply (w := .rtu crc16modbus) s.client.unitId s.handler e).1)

/-- The requests that were written, in this order. -/
def written (s : SerialLine crc16modbus) :
    List (UserRequest ModbusRTURequest) := writes s.handler.log

/-- The requests `order` were served, in this order: the first ones that were written, each
of them once. The tables are what they make of them. What the promises are resolved with are
answers to these requests, in their order, and no answer is taken twice. -/
structure Attributed (m : Memory) (t : Tables) (heap : Heap) (s : SerialLine crc16modbus)
    (order : List (UserRequest ModbusRTURequest)) : Prop where
  served : ∃ n, order.Perm (s.written.take n)
  once : order.Nodup
  tables : s.heap = (Memory.machine.run m (operationsOf order)).1.store t heap
  answers : List.SublistForall₂ (OwnOrLate s.handler.log) s.resolutions
    (order.zip (Memory.observed.run m (operationsOf order)).2)

end SerialLine

/-- A serial line where requests may be rejected while they are on their way. -/
def lateSystem (crc16modbus : Buffer → UInt16) (id : Option Int) (t : Tables) (heap : Heap) :
    System (SerialLine crc16modbus) (LateEvent crc16modbus) where
  init := (lineSystem crc16modbus id t heap).init
  allows := SerialLine.AllowedLate (.load t heap)
  next := SerialLine.nextLate (.ofTables id t)

/-! ## The client -/

/-- The user request is one for an operation in the tables, and has a frame. -/
def Asked (crc16modbus : Buffer → UInt16) (m : Memory) (unitId : Int)
    (u : UserRequest ModbusRTURequest) : Prop :=
  ∃ x : Turn crc16modbus, x.request = u ∧ x.op.InRange m ∧ x.frame.request.address = unitId

/-- What the client knows of its requests, of which it has written `turns`. -/
structure Recalls (m : Memory) (unitId : Int) (c : ModbusRTUClientRequestHandler)
    (turns : List (Turn crc16modbus)) : Prop where
  inv : Inv c
  encoded : Encoded (rtuMessages crc16modbus) c
  writable : Writable (rtuMessages crc16modbus) c
  pending : ∀ u ∈ c.pending, Asked crc16modbus m unitId u
  proper : ∀ x ∈ turns, x.op.InRange m ∧ x.frame.request.address = unitId
  written : (turns.map Turn.request).Perm (writes c.log)

/-- The promises were resolved with some of the answers to the requests `heard`, which have
come in. -/
def Heard (m : Memory) (log : List (Action ModbusRTURequest ModbusRTUResponse))
    (heard : List (Turn crc16modbus)) : Prop :=
  List.SublistForall₂ (OwnOrLate log) (log.filterMap Action.resolution) (Turn.outcomes m heard)

/-- The client has come from `c` to `c'`. It has written the requests `written`, and the one
under way is one of them or was under way. -/
structure Wrote (c c' : ModbusRTUClientRequestHandler)
    (added : List (Action ModbusRTURequest ModbusRTUResponse))
    (written : List (Turn crc16modbus)) : Prop where
  log : c'.log = c.log ++ added
  payloads : added.filterMap Action.payload = (written.map Turn.frame).map RtuFrame.payload
  requests : writes added = written.map Turn.request
  underWay : ∀ u, c'._currentRequest = some u → c._currentRequest = some u ∨
    u ∈ written.map Turn.request

variable {m : Memory} {unitId : Int} {c c' c'' : ModbusRTUClientRequestHandler}
  {turns heard late : List (Turn crc16modbus)}
  {added added' : List (Action ModbusRTURequest ModbusRTUResponse)}

theorem Wrote.refl (c : ModbusRTUClientRequestHandler) :
    Wrote c c [] ([] : List (Turn crc16modbus)) :=
  ⟨(List.append_nil _).symm, rfl, rfl, fun _ hu => .inl hu⟩

theorem Wrote.trans {written written' : List (Turn crc16modbus)} (h : Wrote c c' added written)
    (h' : Wrote c' c'' added' written') :
    Wrote c c'' (added ++ added') (written ++ written') := by
  constructor
  · rw [h'.log, h.log, List.append_assoc]
  · rw [List.filterMap_append, h.payloads, h'.payloads, List.map_append, List.map_append]
  · rw [writes_append, h.requests, h'.requests, List.map_append]
  · intro u hu
    rw [List.map_append]
    rcases h'.underWay u hu with hu | hu
    · exact (h.underWay u hu).imp_right (List.mem_append_left _)
    · exact .inr (List.mem_append_right _ hu)

theorem OwnOrLate.mono {log : List (Action ModbusRTURequest ModbusRTUResponse)}
    {got answered : UserRequest ModbusRTURequest × ResponseContent}
    (h : OwnOrLate log got answered)
    (added : List (Action ModbusRTURequest ModbusRTUResponse)) :
    OwnOrLate (log ++ added) got answered := by
  obtain ⟨hcontent, hfc, hown⟩ := h
  refine ⟨hcontent, hfc, hown.imp_right ?_⟩
  rintro ⟨hkey, u, err, hmem, hle⟩
  exact ⟨hkey, u, err, List.mem_append_left _ hmem, hle⟩

theorem resolutions_of_silent (h : ∀ a ∈ added, Silent a) :
    added.filterMap Action.resolution = [] := by
  refine List.filterMap_eq_nil_iff.mpr fun a ha => ?_
  have hsilent := h a ha
  cases a with
  | resolved u response => exact hsilent.elim
  | _ => rfl

/-- Without a promise that is resolved nothing changes. -/
theorem Heard.mono {log : List (Action ModbusRTURequest ModbusRTUResponse)}
    (h : Heard m log heard) (hnone : added.filterMap Action.resolution = []) :
    Heard m (log ++ added) heard := by
  rw [Heard, List.filterMap_append, hnone, List.append_nil]
  exact List.SublistForall₂.mono h fun _ _ hown => hown.mono added

namespace Recalls

/-- What the client writes are requests for operations in the tables. -/
theorem extend (h : Recalls m unitId c turns) (hinv : Inv c')
    (hencoded : Encoded (rtuMessages crc16modbus) c')
    (hwritable : Writable (rtuMessages crc16modbus) c') (hlog : c'.log = c.log ++ added)
    (hpending : ∀ u ∈ c'.pending, Asked crc16modbus m unitId u)
    (hwrites : ∀ u ∈ writes added, Asked crc16modbus m unitId u)
    (hcurrent : ∀ u, c'._currentRequest = some u → c._currentRequest = some u ∨
      u ∈ writes added) :
    ∃ written, Wrote c c' added written ∧ Recalls m unitId c' (turns ++ written) := by
  obtain ⟨written, hpayloads, hrequests, hproper⟩ :=
    exists_written (fun x : Turn crc16modbus => x.frame.encoded)
    (fun u b hmem => hencoded u b (by rw [hlog]; exact List.mem_append_right _ hmem)) hwrites
  refine ⟨written, ⟨hlog, ?_, hrequests.symm, hrequests ▸ hcurrent⟩, hinv, hencoded, hwritable,
    hpending, List.forall_mem_append.mpr ⟨h.proper, hproper⟩, ?_⟩
  · rw [List.map_map]
    exact hpayloads
  · rw [List.map_append, hlog, writes_append, hrequests]
    exact h.written.append_right _

/-- What is pending is worked off. -/
theorem work (h : Recalls m unitId c turns) (hupdates : Updates (rtuMessages crc16modbus) c c')
    (hinv : Inv c') :
    ∃ added written, Wrote c c' added written ∧ Recalls m unitId c' (turns ++ written) := by
  obtain ⟨hpending, added, hlog, -, hwrites⟩ := Updates.advances hupdates
  obtain ⟨finished, hfinished⟩ := h.inv.accounted
  have hwritable := hupdates.invariant Update.writable h.writable
  obtain ⟨written, hwrote, hrecalls⟩ :=
    h.extend hinv (hupdates.encoded h.encoded) hwritable hlog
    (fun u hu => h.pending u (hpending hu)) (fun u hu => h.pending u (hwrites hu))
    fun u hu => current_or_written hfinished hlog hpending hu
    (written_of_current hinv hwritable hu)
  exact ⟨added, written, hwrote, hrecalls⟩

/-- What was written was registered, and every request was registered once. -/
theorem nodup_written (h : Recalls m unitId c turns) : (turns.map Turn.request).Nodup := by
  obtain ⟨finished, hfinished⟩ := h.inv.accounted
  refine (List.Perm.nodup_iff h.written).mpr
    (hfinished.writes.nodup (hfinished.nodup.sublist ?_))
  rw [MBClientRequestHandler.pending, ← List.append_assoc]
  exact List.sublist_append_left ..

/-- A request that was written and is not under way is done. -/
theorem finished_of_gone (h : Recalls m unitId c turns)
    {finished : List (UserRequest ModbusRTURequest)} (hfinished : Accounted finished c)
    {x : Turn crc16modbus} (hx : x ∈ turns) (hgone : c._currentRequest ≠ some x.request) :
    x.request ∈ finished :=
  (List.mem_append.mp
    (hfinished.writes.subset (h.written.subset (List.mem_map_of_mem hx)))).resolve_right
    fun hmem => hgone (Option.mem_toList.mp hmem)

/-- A request whose answer has not come in and which is no longer under way: its promise was
rejected, or that of an earlier one. -/
theorem exists_rejected (h : Recalls m unitId c (heard ++ late)) (hheard : Heard m c.log heard)
    {x : Turn crc16modbus} (hx : x ∈ late) (hcurrent : c._currentRequest ≠ some x.request) :
    ∃ u err, .rejected u err ∈ c.log ∧ u.key ≤ x.key := by
  obtain ⟨finished, hfinished⟩ := h.inv.accounted
  have hdone := h.finished_of_gone hfinished (List.mem_append_right _ hx) hcurrent
  obtain ⟨a, ha, hsettles⟩ := List.mem_filterMap.mp (hfinished.settled _ hdone)
  cases a with
  | rejected u err =>
    obtain rfl := Option.some.inj hsettles
    exact ⟨_, err, ha, Nat.le_refl _⟩
  | resolved u response =>
    obtain rfl := Option.some.inj hsettles
    -- it was resolved with the answer to another request, since its own has not come in
    obtain ⟨answered, hanswered, hown⟩ := List.SublistForall₂.exists_of_mem hheard
      (List.mem_filterMap.mpr ⟨_, ha, rfl⟩)
    obtain ⟨y, hy, hyrequest⟩ := List.mem_map.mp (List.of_mem_zip hanswered).1
    rcases hown.own with hsame | ⟨hkey, u, err, hmem, hle⟩
    · have hnodup := h.nodup_written
      rw [List.map_append] at hnodup
      exact absurd (hyrequest.trans hsame.symm)
        ((List.nodup_append.mp hnodup).2.2 _ (List.mem_map_of_mem hy) _
          (List.mem_map_of_mem hx))
    · exact ⟨u, err, hmem, Nat.le_of_lt (Nat.lt_of_le_of_lt hle hkey)⟩
  | registered u => cases hsettles
  | written u payload => cases hsettles
  | state s => cases hsettles

/-- An event that is not a response. -/
theorem event (h : Recalls m unitId c turns) (n : Int) {e : Event (.rtu crc16modbus)}
    (hallowed : Event.Allowed (w := .rtu crc16modbus) c e) (he : e.Internal)
    (hhandle : ∀ response, e ≠ .handle response) :
    ∃ added written, Wrote c (Event.apply (w := .rtu crc16modbus) n c e).1 added written ∧
      added.filterMap Action.resolution = [] ∧
      Recalls m unitId (Event.apply (w := .rtu crc16modbus) n c e).1 (turns ++ written) := by
  obtain ⟨added, written, hwrote, hrecalls⟩ :=
    h.work (updates_apply (w := .rtu crc16modbus) n c he)
    (inv_apply (w := .rtu crc16modbus) n h.inv e hallowed)
  obtain ⟨⟨added', hlog, hsilent⟩, -, -⟩ :=
    extends_internal (w := .rtu crc16modbus) n c he hhandle
  obtain rfl : added = added' := List.append_cancel_left (hwrote.log.symm.trans hlog)
  exact ⟨added, written, hwrote, resolutions_of_silent hsilent, hrecalls⟩

/-- A request is registered. -/
theorem call (h : Recalls m unitId c turns) {x : Turn crc16modbus} (hkey : x.key = c.registered)
    (hrange : x.op.InRange m) (haddress : x.frame.request.address = unitId) :
    ∃ added written, Wrote c ((c.push x.frame.request)._flush (rtuMessages crc16modbus)).1 added
      written ∧
      added.filterMap Action.resolution = [] ∧
      Recalls m unitId ((c.push x.frame.request)._flush (rtuMessages crc16modbus)).1
        (turns ++ written) := by
  have hrequest : (⟨c.registered, x.frame.request⟩ : UserRequest ModbusRTURequest) =
      x.request := by
    rw [← hkey]
    rfl
  have hpush : (c.push x.frame.request).log = c.log ++ [.registered x.request] :=
    congrArg (fun u => c.log ++ [.registered u]) hrequest
  have hasked : ∀ u ∈ (c.push x.frame.request).pending, Asked crc16modbus m unitId u := by
    intro u hu
    have hmem : u ∈ c.pending ++ [x.request] := by
      rw [← hrequest, MBClientRequestHandler.pending, List.append_assoc]
      exact hu
    rcases List.mem_append.mp hmem with hold | hnew
    · exact h.pending u hold
    · exact ⟨x, (List.mem_singleton.mp hnew).symm, hrange, haddress⟩
  obtain ⟨hpending, added, hlog, -, hwrites⟩ :=
    advances_flush (rtuMessages crc16modbus) (c.push x.frame.request)
  obtain ⟨⟨added', hlog', hsilent⟩, -, -⟩ :=
    extends_flush (rtuMessages crc16modbus) (c.push x.frame.request)
  obtain rfl : added = added' := List.append_cancel_left (hlog.symm.trans hlog')
  have hboth := hlog
  rw [hpush, List.append_assoc] at hboth
  obtain ⟨finished, hfinished⟩ := h.inv.accounted
  have hinv := h.inv.registerRequest (M := rtuMessages crc16modbus) x.frame.request
  have hwritable := (h.writable.push (M := rtuMessages crc16modbus) x.frame.encoded).flush.1
  have hencoded : Encoded (rtuMessages crc16modbus) (c.push x.frame.request) :=
    h.encoded.concat (a := .registered x.request) hpush rfl
  obtain ⟨written, hwrote, hrecalls⟩ :=
    h.extend hinv (Updates.encoded (.single .flush) hencoded) hwritable hboth
    (fun u hu => hasked u (hpending hu)) (fun u hu => hasked u (hwrites hu))
    fun u hu => current_or_written (hfinished.push x.frame.request) hlog hpending hu
      (written_of_current hinv hwritable hu)
  exact ⟨_, written, hwrote,
    (List.filterMap_cons_none rfl).trans (resolutions_of_silent hsilent), hrecalls⟩

/-- It does not matter in which order the requests are listed. -/
theorem perm (h : Recalls m unitId c turns) {turns' : List (Turn crc16modbus)}
    (hperm : turns'.Perm turns) : Recalls m unitId c turns' :=
  { h with
    proper := fun x hx => h.proper x (hperm.subset hx)
    written := (hperm.map _).trans h.written }

/-- The answer to the request `x` comes in, whatever request is under way. -/
theorem handle {x : Turn crc16modbus} (h : Recalls m unitId c (heard ++ x :: late))
    (hheard : Heard m c.log heard) {g : SerialAnswer}
    (hanswer : g.answer = (Memory.machine.run m (heard.map Turn.op)).1.answer x.op) :
    ∃ added written,
      Wrote c (ModbusRTUClientRequestHandler.handle crc16modbus c
        (some (g.received crc16modbus))).1 added written ∧
      Recalls m unitId (ModbusRTUClientRequestHandler.handle crc16modbus c
        (some (g.received crc16modbus))).1
        (heard ++ x :: late ++ written) ∧
      Heard m (c.log ++ added) (heard ++ [x]) := by
  have hhandled :=
    ModbusRTUClientRequestHandler.handled_handle crc16modbus c (some (g.received crc16modbus))
  obtain ⟨added, written, hwrote, hrecalls⟩ :=
    h.work (updates_handled hhandled) (h.inv.handled hhandled)
  obtain ⟨resolved, silent, hlog, hsilent, hresolved⟩ :=
    @log_handle _ _ (rtuMessages crc16modbus) c
      (g.received crc16modbus) g.answer.isException_readBack
  rw [← g.handle_eq] at hlog
  obtain rfl := List.append_cancel_left (hwrote.log.symm.trans hlog)
  refine ⟨_, written, hwrote, hrecalls, ?_⟩
  have hnone := resolutions_of_silent hsilent
  rcases hresolved with rfl | ⟨u, hcurrent, hfc, rfl⟩
  · have hheard' := hheard.mono hnone
    rw [Heard, Turn.outcomes_append]
    exact List.SublistForall₂.append_right hheard' _
  · rw [Heard, List.filterMap_append, List.filterMap_append, hnone, List.append_nil,
      Turn.outcomes_append]
    refine List.SublistForall₂.concat
      (List.SublistForall₂.mono hheard fun _ _ hown => hown.mono _) ⟨?_, ?_, ?_⟩
    · exact g.answer.content_readBack.trans (congrArg Answer.content hanswer)
    · have hasks : g.answer.body.fc = x.request.request.body.fc := by
        rw [hanswer, ResponseBody.fc_of_answer (Answer.content_body _)]
        exact (RequestBody.fc_of_operation x.asks).symm
      exact (hfc.symm.trans g.answer.fc_readBack).trans hasks
    · by_cases hsame : u = x.request
      · exact .inl hsame
      · -- another request is under way, so this one has been given up
        have hgone : c._currentRequest ≠ some x.request := fun hx =>
          hsame (Option.some.inj (hcurrent.symm.trans hx))
        obtain ⟨finished, hfinished⟩ := h.inv.accounted
        have hdone :=
          h.finished_of_gone hfinished (List.mem_append_right _ (List.mem_cons_self ..)) hgone
        have hunder : u ∈ c.pending := List.mem_append_left _ (Option.mem_toList.mpr hcurrent)
        obtain ⟨v, err, hmem, hle⟩ := h.exists_rejected hheard (List.mem_cons_self ..) hgone
        exact .inr ⟨hfinished.key_lt_key hdone hunder, v, err, List.mem_append_left _ hmem, hle⟩

/-- The answers to requests come in, in the order in which these were served. -/
theorem handleAll {arrived : List (Turn crc16modbus)}
    (h : Recalls m unitId c (heard ++ arrived ++ late)) (hheard : Heard m c.log heard)
    {gs : List SerialAnswer}
    (hanswers : gs.map SerialAnswer.answer =
      (Memory.machine.run (Memory.machine.run m (heard.map Turn.op)).1
        (arrived.map Turn.op)).2) :
    ∃ added written, Wrote c (handleAll crc16modbus c gs) added written ∧
      Recalls m unitId (handleAll crc16modbus c gs) (heard ++ arrived ++ late ++ written) ∧
      Heard m (c.log ++ added) (heard ++ arrived) := by
  induction gs generalizing c heard arrived late with
  | nil =>
    cases arrived with
    | nil =>
      refine ⟨[], [], .refl c, ?_, ?_⟩
      · rw [List.append_nil]
        exact h
      · rw [List.append_nil, List.append_nil]
        exact hheard
    | cons x arrived => cases hanswers
  | cons g gs ih =>
    cases arrived with
    | nil => cases hanswers
    | cons x arrived =>
      obtain ⟨hanswer, hanswers⟩ := List.cons.inj hanswers
      rw [List.append_assoc, List.cons_append] at h
      obtain ⟨added, written, hwrote, hrecalls, hheard'⟩ := h.handle hheard hanswer
      have hsplit : heard ++ x :: (arrived ++ late) ++ written =
          heard ++ [x] ++ arrived ++ (late ++ written) := by
        simp only [List.append_assoc, List.cons_append, List.nil_append]
      have hrun : (Memory.machine.run m ((heard ++ [x]).map Turn.op)).1 =
          (Memory.machine.run m (heard.map Turn.op)).1.update x.op := by
        rw [List.map_append, Refinement.Machine.run_append]
        rfl
      rw [hsplit] at hrecalls
      rw [← hwrote.log] at hheard'
      obtain ⟨added', written', hwrote', hrecalls', hheard''⟩ :=
        ih hrecalls hheard' (by rw [hrun]; exact hanswers)
      refine ⟨added ++ added', written ++ written', hwrote.trans hwrote', ?_, ?_⟩
      · have hsplit' : heard ++ x :: arrived ++ late ++ (written ++ written') =
            heard ++ [x] ++ arrived ++ (late ++ written) ++ written' := by
          simp only [List.append_assoc, List.cons_append, List.nil_append]
        rw [hsplit']
        exact hrecalls'
      · rw [hwrote.log, List.append_assoc, List.append_assoc] at hheard''
        exact hheard''

end Recalls

end NodeModbus

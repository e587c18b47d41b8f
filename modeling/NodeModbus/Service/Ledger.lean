import NodeModbus.Service.Line

/-!
# What an RTU client knows of its requests

The requests of the client of a serial line have returned, or are under way, or are
waiting, in the order of the calls.

- `Turn.outcomes`: what the user gets when the requests are served in their order.
- `Ledger`: where every request is. `push`, `flush`, `resolve`: what becomes of it.
- `Ledger.register`, `Ledger.handle`: a request is registered, and an answer comes in.
-/

namespace NodeModbus

open Buffer Framing MBClientRequestHandler

variable {crc16modbus : Buffer → UInt16}

namespace Turn

/-- The promises of requests, with the answers when they are served one after another. -/
def outcomes (m : Memory) (turns : List (Turn crc16modbus)) :
    List (UserRequest ModbusRTURequest × ResponseContent) :=
  (turns.map request).zip (Memory.observed.run m (turns.map op)).2

theorem length_outcomes (m : Memory) (turns : List (Turn crc16modbus)) :
    (outcomes m turns).length = turns.length := by
  rw [outcomes, List.length_zip, List.length_map, Refinement.Machine.length_run,
    List.length_map, Nat.min_self]

theorem outcomes_append (m : Memory) (turns turns' : List (Turn crc16modbus)) :
    outcomes m (turns ++ turns') =
      outcomes m turns ++ outcomes (Memory.machine.run m (turns.map op)).1 turns' := by
  have hstate : (Memory.observed.run m (turns.map op)).1 =
      (Memory.machine.run m (turns.map op)).1 := by
    rw [Memory.observed, Refinement.Machine.run_mapOut]
  rw [outcomes, List.map_append, List.map_append, Refinement.Machine.outputs_append, hstate]
  refine List.zip_append ?_
  rw [List.length_map, Refinement.Machine.length_run, List.length_map]

/-- The operations that the requests ask for. -/
theorem operations_eq (turns : List (Turn crc16modbus)) :
    ((turns.map request).filterMap fun u => u.request.body.content.operation) =
      turns.map op := by
  induction turns with
  | nil => rfl
  | cons x turns ih =>
    refine (List.filterMap_cons_some ?_).trans (congrArg _ ih)
    exact x.asks

end Turn

/-! ## The client -/

/-- What the client knows of its requests: those that have returned, the one under way, and
those that are waiting. -/
structure Ledger (m : Memory) (unitId : Int) (c : ModbusRTUClientRequestHandler)
    (done : List (Turn crc16modbus)) (current : Option (Turn crc16modbus))
    (waiting : List (Turn crc16modbus)) : Prop where
  registered : registrations c.log = (done ++ (current.toList ++ waiting)).map Turn.request
  underWay : c._currentRequest = current.map Turn.request
  queue : c._requests = waiting.map Turn.request
  proper : ∀ x ∈ done ++ (current.toList ++ waiting), x.op.InRange m ∧
    x.frame.request.address = unitId
  kept : ∀ u err, .rejected u err ∉ c.log
  resolutions : c.log.filterMap Action.resolution = Turn.outcomes m done

namespace Ledger

variable {m : Memory} {unitId : Int} {c : ModbusRTUClientRequestHandler}
  {done waiting : List (Turn crc16modbus)} {current : Option (Turn crc16modbus)}
  {x : Turn crc16modbus}

/-- An action that is no rejection. -/
theorem not_rejected_concat {log : List (Action ModbusRTURequest ModbusRTUResponse)}
    {a : Action ModbusRTURequest ModbusRTUResponse} (h : ∀ u err, .rejected u err ∉ log)
    (ha : ∀ u err, a ≠ .rejected u err) : ∀ u err, .rejected u err ∉ log ++ [a] := by
  rintro u err hmem
  rcases List.mem_append.mp hmem with hmem | hmem
  · exact h u err hmem
  · exact ha u err (List.mem_singleton.mp hmem).symm

/-- What is pending can be encoded. -/
theorem encodes (h : Ledger m unitId c done current waiting) :
    ∀ u ∈ c.pending, ∃ payload, (rtuMessages crc16modbus).createPayload u.request =
      .ok payload := by
  have hpending : c.pending = (current.toList ++ waiting).map Turn.request := by
    rw [pending, h.underWay, h.queue, List.map_append, Option.toList_map]
  rw [hpending]
  exact List.forall_mem_map.mpr fun x _ => ⟨x.frame.payload, x.frame.encoded⟩

/-- A request is put behind those that are waiting. -/
theorem push (h : Ledger m unitId c done current waiting) (hkey : x.key = c.registered)
    (hrange : x.op.InRange m) (haddress : x.frame.request.address = unitId) :
    Ledger m unitId (c.push x.frame.request) done current (waiting ++ [x]) := by
  have hrequest : (⟨c.registered, x.frame.request⟩ : UserRequest ModbusRTURequest) =
      x.request := by
    rw [← hkey]
    rfl
  have hlog : (c.push x.frame.request).log = c.log ++ [.registered x.request] :=
    congrArg (fun u => c.log ++ [.registered u]) hrequest
  have hlast : done ++ (current.toList ++ (waiting ++ [x])) =
      done ++ (current.toList ++ waiting) ++ [x] := by
    simp only [List.append_assoc]
  constructor
  case registered =>
    rw [hlog, registrations_concat, h.registered, hlast]
    show _ ++ [x].map Turn.request = _
    rw [← List.map_append]
  case underWay => exact h.underWay
  case queue =>
    show c._requests ++ [_] = _
    rw [hrequest, h.queue, List.map_append]
    rfl
  case proper =>
    rw [hlast]
    exact List.forall_mem_append.mpr
      ⟨h.proper, List.forall_mem_singleton.mpr ⟨hrange, haddress⟩⟩
  case kept =>
    rw [hlog]
    exact not_rejected_concat h.kept fun u err heq => nomatch heq
  case resolutions =>
    rw [hlog, List.filterMap_append, h.resolutions]
    exact List.append_nil _

/-- The promise of the request under way is resolved with the answer of its operation. -/
theorem resolve (h : Ledger m unitId c done (some x) waiting) {response : ModbusRTUResponse}
    (hresponse : response.body.content =
      ((Memory.machine.run m (done.map Turn.op)).1.answer x.op).content) :
    Ledger m unitId (c.resolve x.request response)._clearCurrentRequest
      (done ++ [x]) none waiting := by
  have hcurrent : c._currentRequest = some x.request := h.underWay
  rw [clearCurrentRequest_eq (c := c.resolve x.request response) hcurrent]
  constructor
  case registered =>
    show registrations (c.log ++ [.resolved x.request response]) = _
    rw [registrations_concat, h.registered, List.append_assoc]
    exact List.append_nil _
  case underWay => rfl
  case queue => exact h.queue
  case proper =>
    rw [List.append_assoc]
    exact h.proper
  case kept => exact not_rejected_concat h.kept fun u err heq => nomatch heq
  case resolutions =>
    show (c.log ++ [Action.resolved x.request response]).filterMap Action.resolution = _
    rw [List.filterMap_append, h.resolutions, Turn.outcomes_append]
    show _ ++ [(x.request, response.body.content)] = _
    rw [hresponse]
    rfl

/-- The first request that is waiting is put under way, and written. -/
theorem flush (h : Ledger m unitId c done none waiting) (honline : c._state = .online) :
    ∃ current waiting' added, waiting = current.toList ++ waiting' ∧
    (current = none → waiting' = []) ∧
      (c._flush (rtuMessages crc16modbus)).2 = .ok () ∧
      (c._flush (rtuMessages crc16modbus)).1._state = .online ∧
      (c._flush (rtuMessages crc16modbus)).1.log = c.log ++ added ∧
      added.filterMap Action.payload = current.toList.map (fun x => x.frame.payload) ∧
      Ledger m unitId (c._flush (rtuMessages crc16modbus)).1 done current waiting' := by
  have hcurrent : c._currentRequest = none := h.underWay
  cases waiting with
  | nil =>
    rw [flush_of_idle fun _ => h.queue]
    exact ⟨none, [], [], rfl, fun _ => rfl, rfl, honline, (List.append_nil _).symm, rfl, h⟩
  | cons x waiting =>
    have hrequests : c._requests = x.request :: waiting.map Turn.request := h.queue
    have hpayload : (rtuMessages crc16modbus).createPayload x.request.request =
      .ok x.frame.payload :=
      x.frame.encoded
    have hflush : c._flush (rtuMessages crc16modbus) =
        (({ c with
            _currentRequest := some x.request
            _requests := waiting.map Turn.request }.start x.request).note
          (.written x.request x.frame.payload), .ok ()) := by
      rw [flush_online hcurrent hrequests honline]
      simp only [hpayload]
    rw [hflush]
    refine ⟨some x, waiting, [.written x.request x.frame.payload], rfl, nofun, rfl,
      honline, rfl, rfl, ?_⟩
    constructor
    case registered =>
      show registrations (c.log ++ [.written x.request x.frame.payload]) = _
      rw [registrations_concat, h.registered]
      exact List.append_nil _
    case underWay => rfl
    case queue => rfl
    case proper => exact h.proper
    case kept => exact not_rejected_concat h.kept fun u err heq => nomatch heq
    case resolutions =>
      show (c.log ++ [Action.written x.request x.frame.payload]).filterMap Action.resolution = _
      rw [List.filterMap_append, h.resolutions]
      exact List.append_nil _

/-- The client notes that the line is open. -/
theorem onConnect (h : Ledger m unitId c done current waiting) :
    Ledger m unitId c._onConnect done current waiting :=
  { h with
    registered := by
      show registrations (c.log ++ [.state .online]) = _
      rw [registrations_concat, h.registered]
      exact List.append_nil _
    kept := not_rejected_concat h.kept fun u err heq => nomatch heq
    resolutions := by
      show (c.log ++ [Action.state .online]).filterMap Action.resolution = _
      rw [List.filterMap_append, h.resolutions]
      exact List.append_nil _ }

/-- A request is registered: it is written when none is under way, and has to wait otherwise. -/
theorem register (h : Ledger m unitId c done current waiting) (honline : c._state = .online)
    (hkey : x.key = c.registered) (hrange : x.op.InRange m)
    (haddress : x.frame.request.address = unitId) :
    ∃ current' waiting' added written, (current' = none → waiting' = []) ∧
      ((c.push x.frame.request)._flush (rtuMessages crc16modbus)).1._state = .online ∧
      ((c.push x.frame.request)._flush (rtuMessages crc16modbus)).1.log = c.log ++ added ∧
      added.filterMap Action.payload = written.map RtuFrame.payload ∧
      Ledger m unitId ((c.push x.frame.request)._flush (rtuMessages crc16modbus)).1 done
        current' waiting' ∧
      ∀ served frames answers, OnLine m done current served frames answers →
        OnLine m done current' served (frames ++ written) answers := by
  have hlog : (c.push x.frame.request).log = c.log ++ [.registered x.request] := by
    rw [Turn.request, hkey]
    rfl
  have hpushed := h.push hkey hrange haddress
  cases current with
  | none =>
    obtain ⟨current', waiting', added, hsplit, hidle, -, hstate, hlog', hwritten, hledger⟩ :=
      hpushed.flush honline
    refine ⟨current', waiting', .registered x.request :: added, current'.toList.map Turn.frame,
      hidle, hstate, hlog'.trans (by rw [hlog, List.append_assoc]; rfl), ?_, hledger, ?_⟩
    · rw [List.map_map]
      exact hwritten
    · rintro served frames answers ⟨⟩
      cases current' with
      | none =>
        rw [hidle rfl] at hsplit
        exact absurd hsplit (List.append_ne_nil_of_right_ne_nil _ (List.cons_ne_nil _ _))
      | some y => exact .asked y
  | some y =>
    have hflush : ((c.push x.frame.request)._flush (rtuMessages crc16modbus)).1 =
      c.push x.frame.request :=
      flush_eq_self fun hnone => nomatch hnone.symm.trans h.underWay
    rw [hflush]
    refine ⟨some y, waiting ++ [x], [.registered x.request], [], nofun, honline, hlog, rfl,
      hpushed, ?_⟩
    rintro served frames answers honLine
    rw [List.append_nil]
    exact honLine

/-- The answer to the request under way comes in: its promise is resolved, and the next
request is written. -/
theorem handle (h : Ledger m unitId c done (some x) waiting) (honline : c._state = .online)
    {g : SerialAnswer}
    (hanswer : g.answer = (Memory.machine.run m (done.map Turn.op)).1.answer x.op) :
    ∃ c' current waiting' added written,
      ModbusRTUClientRequestHandler.handle crc16modbus c (some (g.received crc16modbus)) =
        (c', .ok ()) ∧
      (current = none → waiting' = []) ∧ waiting = current.toList ++ waiting' ∧
      c'._state = .online ∧
      c'.log = c.log ++ added ∧ added.filterMap Action.payload = written.map RtuFrame.payload ∧
      Ledger m unitId c' (done ++ [x]) current waiting' ∧
      OnLine m (done ++ [x]) current (done ++ [x]) written [] := by
  have hfc : g.answer.body.fc = x.request.request.body.fc := by
    rw [hanswer, ResponseBody.fc_of_answer (Answer.content_body _)]
    exact (RequestBody.fc_of_operation x.asks).symm
  have hcontent : (g.received crc16modbus).body.content = _ :=
    g.answer.content_readBack.trans (congrArg Answer.content hanswer)
  have hcurrent : c._currentRequest = some x.request := h.underWay
  have hclear :=
    clearCurrentRequest_eq (c := c.resolve x.request (g.received crc16modbus)) hcurrent
  have honline' : (c.resolve x.request (g.received crc16modbus))._clearCurrentRequest._state =
      .online := by
    rw [hclear]
    exact honline
  have hlog : (c.resolve x.request (g.received crc16modbus))._clearCurrentRequest.log =
      c.log ++ [.resolved x.request (g.received crc16modbus)] := by
    rw [hclear]
    rfl
  obtain ⟨current, waiting', added, hwaiting, hidle, hreturns, hstate, hlog', hwritten,
    hledger⟩ :=
    (h.resolve hcontent).flush honline'
  refine ⟨_, current, waiting', .resolved x.request (g.received crc16modbus) :: added,
    current.toList.map Turn.frame,
    (g.handle_received hcurrent hfc).trans (Prod.ext rfl hreturns), hidle, hwaiting, hstate,
    hlog'.trans (by rw [hlog, List.append_assoc]; rfl), ?_, hledger, ?_⟩
  · rw [List.map_map]
    exact hwritten
  · cases current with
    | none => exact .idle
    | some y => exact .asked y

end Ledger

end NodeModbus

import NodeModbus.Server.Listeners

/-!
# Listeners that only observe

Listeners that leave the buffers as they are, never call the callback and never throw
change nothing: a server with such listeners does what the server without listeners
does, request by request and data event by data event. There must be none for
`readDeviceIdentification`, which take the request over.

- `Emitter.Observes`: such listeners.
- `Erases`: what is done with listeners comes to what is done without them.
- `Emitter.Observes.erases_handle`: this, for every request.
- `observers_change_nothing`: this, for all data events on all connections.
-/

namespace NodeModbus

open Buffer Effect Loop
open ModbusServerResponseHandler (Outcome answer storeAndAnswer)

variable {ρ σ : Type}

/-- The listeners leave the buffers as they are, call no callback, and do not throw. There
are none that answer a request for the device identification. -/
structure Emitter.Observes (E : Emitter ρ σ) : Prop where
  heap : ∀ e listeners heap, (E.emit e listeners heap).heap = heap
  called : ∀ e listeners heap, (E.emit e listeners heap).called = []
  outcome : ∀ e listeners heap, (E.emit e listeners heap).outcome = .ok ()
  count : ∀ listeners, E.listenerCount ⟨.plain, .readDeviceIdentification⟩ listeners = 0

/-- What was written to the socket. -/
def Serving.written (s : Serving ρ σ) : List Buffer := s.happened.filterMap Happening.payload

/-- What the handler gives to the callback without listeners. -/
def payloads : Except Thrown (Option Buffer) → List Buffer
  | .ok (some payload) => [payload]
  | _ => []

/-- From the state `s`, what is done with listeners comes to what is done without them: the
buffers, what is written and what is thrown. -/
structure Erases (s : Serving ρ σ) (x : Serve ρ σ Unit) (o : Outcome) : Prop where
  heap : (exec x s).2.heap = o.1
  written : (exec x s).2.written = s.written ++ payloads o.2
  outcome : (exec x s).1 = o.2.map fun _ => ()

/-! ## Steps -/

section Steps

variable {E : Emitter ρ σ} {s : Serving ρ σ} {x : Serve ρ σ Unit} {o : Outcome}
  {R : Responder ρ}

/-- To the outside an event changes nothing. -/
theorem Emitter.Observes.exec_emits (hE : E.Observes) (e : Emission ρ) (s : Serving ρ σ) :
    ∃ s' : Serving ρ σ, exec (E.emits e) s = (.ok (), s') ∧ s'.heap = s.heap ∧
    s'.written = s.written := by
  refine ⟨_, congrArg (·, _) (hE.outcome e s.listeners s.heap), hE.heap .., ?_⟩
  rw [Serving.written, hE.called, List.map_nil, List.filterMap_append]
  exact List.append_nil _

theorem erases_emits (hE : E.Observes) (e : Emission ρ) :
    Erases s (E.emits e) (s.heap, .ok none) := by
  obtain ⟨s', hexec, hheap, hwritten⟩ := hE.exec_emits e s
  constructor <;> rw [hexec]
  · exact hheap
  · exact hwritten.trans (List.append_nil _).symm
  · rfl

theorem erases_emits_bind (hE : E.Observes) (e : Emission ρ)
    (h : ∀ s' : Serving ρ σ, s'.heap = s.heap → Erases s' x o) :
    Erases s (do E.emits e; x) o := by
  obtain ⟨s', hexec, hheap, hwritten⟩ := hE.exec_emits e s
  have hs' := h s' hheap
  constructor <;> rw [exec_bind_ok hexec]
  · exact hs'.heap
  · rw [hs'.written, hwritten]
  · exact hs'.outcome

theorem erases_readTable_bind {table : Ref} {k : Buffer → Serve ρ σ Unit}
    (h : Erases s (k (s.heap table)) o) : Erases s (readTable table >>= k) o :=
  ⟨h.heap, h.written, h.outcome⟩

theorem erases_writeTable_bind {table : Ref} {b : Buffer}
    (h : Erases { s with heap := s.heap.write table b } x o) :
    Erases s (do writeTable table b; x) o :=
  ⟨h.heap, h.written, h.outcome⟩

/-- What a call throws is thrown, with the buffers as they are. -/
theorem erases_attempt_bind {α : Type} {r : Except Thrown α} {k : α → Serve ρ σ Unit}
    (hok : ∀ a, r = .ok a → Erases s (k a) o)
    (herror : ∀ e, r = .error e → o = (s.heap, .error e)) : Erases s (attempt r >>= k) o := by
  cases r with
  | ok a =>
    have h := hok a rfl
    exact ⟨h.heap, h.written, h.outcome⟩
  | error e =>
    rw [herror e rfl]
    exact ⟨rfl, (List.append_nil _).symm, rfl⟩

/-- A call that throws nothing. -/
theorem erases_attempt_ok {α : Type} {a : α} {k : α → Serve ρ σ Unit} (h : Erases s (k a) o) :
    Erases s (attempt (.ok a) >>= k) o :=
  ⟨h.heap, h.written, h.outcome⟩

theorem erases_answerWith (R : Responder ρ) (request : ρ) (body : ResponseBody) :
    Erases s (answerWith R request body) (answer R s.heap request (.ok body)) := by
  refine erases_attempt_bind ?_ ?_
  · rintro payload hpayload
    have hanswer : answer R s.heap request (.ok body) = (s.heap, .ok (some payload)) := by
      show (s.heap,
        (do return some (← R.respond request body) : Except Thrown (Option Buffer))) = _
      rw [hpayload]
      rfl
    rw [hanswer]
    refine ⟨rfl, ?_, rfl⟩
    show (s.happened ++ [Happening.answered payload]).filterMap Happening.payload = _
    rw [List.filterMap_append]
    rfl
  · rintro e he
    show (s.heap, (do return some (← R.respond request body) : Except Thrown (Option Buffer))) =
      _
    rw [he]
    rfl

/-- A table is changed, and what comes then answers the request. -/
theorem erases_store {table : Ref} {f : Buffer → Except Thrown Buffer} {request : ρ}
    {body : ResponseBody}
    (h : ∀ (b : Buffer) (s' : Serving ρ σ), s'.heap = s.heap.write table b →
      Erases s' x (answer R s'.heap request (.ok body))) :
    Erases s (do writeTable table (← attempt (f (← readTable table))); x)
      (storeAndAnswer R s.heap request table (f (s.heap table)) body) := by
  refine erases_readTable_bind (erases_attempt_bind ?_ ?_)
  · rintro b hb
    rw [hb]
    exact erases_writeTable_bind (h b _ rfl)
  · rintro e he
    rw [he]
    rfl

/-- An event that is emitted last, unless something was thrown. -/
theorem Erases.bind_emits (hE : E.Observes) (e : Emission ρ) (h : Erases s x o) :
    Erases s (do x; E.emits e) o := by
  obtain ⟨hheap, hwritten, houtcome⟩ := h
  cases hexec : exec x s with
  | mk r s' =>
    rw [hexec] at hheap hwritten houtcome
    cases r with
    | error e => constructor <;> rw [exec_bind_error hexec] <;> assumption
    | ok a =>
      obtain ⟨s'', hemits, hheap', hwritten'⟩ := hE.exec_emits e s'
      constructor <;> rw [exec_bind_ok hexec, hemits]
      · exact hheap'.trans hheap
      · exact hwritten'.trans hwritten
      · exact houtcome

end Steps

/-! ## The handlers -/

namespace Emitter.Observes

variable {E : Emitter ρ σ} (hE : E.Observes) (R : Responder ρ) (server : ModbusServer)
  (request : ρ) (s : Serving ρ σ)

include hE

theorem erases_readsTable (table : Option Ref) (subject : EventSubject)
    (responseBody : Buffer → Except Thrown ResponseBody) :
    Erases s (E.readsTable R table subject request responseBody)
      (match table with
        | none => (s.heap, .ok none)
        | some table => answer R s.heap request (responseBody (s.heap table))) := by
  cases table with
  | none => exact erases_emits hE _
  | some table =>
    dsimp only
    refine erases_emits_bind hE _ fun s' hs' => ?_
    rw [← hs']
    refine erases_readTable_bind (erases_attempt_bind ?_ ?_)
    · rintro body hbody
      rw [hbody]
      exact (erases_answerWith R request body).bind_emits hE _
    · rintro e he
      rw [he]
      rfl

theorem erases_handleReadDeviceIdentification (body : ReadDeviceIdentificationRequestBody) :
    Erases s (E._handleReadDeviceIdentification R request body)
      (ModbusServerResponseHandler._handleReadDeviceIdentification R s.heap request body) := by
  unfold Emitter._handleReadDeviceIdentification
    ModbusServerResponseHandler._handleReadDeviceIdentification
  split_ifs with hmei hcode
  · exact erases_answerWith R request _
  · exact erases_answerWith R request _
  · refine erases_emits_bind hE _ fun s' hs' => ?_
    have hcount : ¬ E.listenerCount ⟨.plain, .readDeviceIdentification⟩ s'.listeners > 0 := by
      rw [hE.count]
      exact Nat.lt_irrefl 0
    rw [← hs']
    have hanswers := (erases_answerWith (s := s') R request
      (.exception
        { fc := .readDeviceIdentification, code := 0x01,
          meiType := some body.meiType })).bind_emits hE
      (.request ⟨.post, .readDeviceIdentification⟩ request)
    have hexec : ∀ x y : Serve ρ σ Unit, exec (do
        if E.listenerCount ⟨.plain, .readDeviceIdentification⟩ (← get).listeners >
            0 then x else y) s' = exec y s' := by
      intro x y
      rw [exec_bind_ok (exec_get s'), if_neg hcount]
    constructor <;> rw [hexec]
    · exact hanswers.heap
    · exact hanswers.written
    · exact hanswers.outcome

theorem erases_handleWriteSingleCoil (body : WriteSingleCoilRequestBody) :
    Erases s (E._handleWriteSingleCoil R server request body)
      (ModbusServerResponseHandler._handleWriteSingleCoil R server s.heap request body) := by
  unfold Emitter._handleWriteSingleCoil ModbusServerResponseHandler._handleWriteSingleCoil
  cases server.coils with
  | none => exact erases_emits hE _
  | some coils =>
    dsimp only
    refine erases_emits_bind hE _ fun s' hs' => ?_
    rw [← hs']
    refine erases_readTable_bind (erases_attempt_bind ?_ ?_)
    · rintro oldValue hold
      rw [hold]
      dsimp only
      split_ifs with hvalue hrange
      · exact erases_answerWith R request _
      · refine erases_readTable_bind ?_
        rw [if_pos hrange]
        exact erases_answerWith R request _
      · refine erases_readTable_bind ?_
        rw [if_neg hrange]
        exact erases_store fun b s'' hs'' => (erases_answerWith R request _).bind_emits hE _
    · rintro e he
      rw [he]

theorem erases_handleWriteSingleHoldingRegister (body : WriteSingleRegisterRequestBody) :
    Erases s (E._handleWriteSingleHoldingRegister R server request body)
      (ModbusServerResponseHandler._handleWriteSingleHoldingRegister R server s.heap
        request body) := by
  unfold Emitter._handleWriteSingleHoldingRegister
    ModbusServerResponseHandler._handleWriteSingleHoldingRegister
  cases server.holding with
  | none => exact erases_emits hE _
  | some holding =>
    dsimp only
    refine erases_emits_bind hE _ fun s' hs' => ?_
    rw [← hs']
    refine erases_readTable_bind ?_
    split_ifs with hrange
    · exact erases_answerWith R request _
    · exact erases_store fun b s'' hs'' => (erases_answerWith R request _).bind_emits hE _

theorem erases_handleWriteMultipleCoils (body : WriteMultipleCoilsRequestBody) :
    Erases s (E._handleWriteMultipleCoils R server request body)
      (ModbusServerResponseHandler._handleWriteMultipleCoils R server s.heap request body) := by
  unfold Emitter._handleWriteMultipleCoils
  cases hcoils : server.coils with
  | none =>
    rw [ModbusServerResponseHandler._handleWriteMultipleCoils, hcoils]
    exact erases_emits hE _
  | some coils =>
    rw [ModbusServerResponseHandler._handleWriteMultipleCoils_eq R s.heap request body hcoils]
    dsimp only
    refine erases_emits_bind hE _ fun s' hs' => ?_
    rw [← hs', ModbusServerResponseHandler.coilByCoil_eq, BufferUtils.bufferToArrayStatus_eq]
    refine erases_readTable_bind ?_
    rw [BufferUtils.bufferToArrayStatus_eq]
    -- neither conversion throws
    refine erases_attempt_ok (erases_attempt_ok ?_)
    refine erases_emits_bind hE _ fun s'' hs'' => ?_
    rw [← hs'', BufferUtils.arrayStatusToBuffer_eq]
    refine erases_attempt_ok ?_
    refine erases_store (f := fun table => table.fill _ 0 table.length) fun b s₁ hs₁ => ?_
    refine erases_emits_bind hE _ fun s₂ hs₂ => ?_
    rw [← hs₂]
    exact (erases_answerWith R request _).bind_emits hE _

theorem erases_handleWriteMultipleHoldingRegisters (body : WriteMultipleRegistersRequestBody) :
    Erases s (E._handleWriteMultipleHoldingRegisters R server request body)
      (ModbusServerResponseHandler._handleWriteMultipleHoldingRegisters R server s.heap
        request body) := by
  unfold Emitter._handleWriteMultipleHoldingRegisters
    ModbusServerResponseHandler._handleWriteMultipleHoldingRegisters
  cases server.holding with
  | none => exact erases_emits hE _
  | some holding =>
    dsimp only
    refine erases_emits_bind hE _ fun s' hs' => ?_
    rw [← hs']
    refine erases_readTable_bind ?_
    split_ifs with hrange
    · exact erases_answerWith R request _
    · refine erases_emits_bind hE _ fun s'' hs'' => ?_
      rw [← hs'']
      refine erases_store fun b s₁ hs₁ => ?_
      refine erases_emits_bind hE _ fun s₂ hs₂ => ?_
      rw [← hs₂]
      exact (erases_answerWith R request _).bind_emits hE _

/-- Every request. -/
theorem erases_handle :
    Erases s (E.handle R server request)
      (ModbusServerResponseHandler.handle R server s.heap request) := by
  unfold Emitter.handle ModbusServerResponseHandler.handle
  cases R.body request with
  | exception body => exact erases_answerWith R request _
  | readCoils body => exact hE.erases_readsTable R request s server.coils .readCoils _
  | readDiscreteInputs body =>
    exact hE.erases_readsTable R request s server.discrete .readDiscreteInputs _
  | readDeviceIdentification body =>
    exact hE.erases_handleReadDeviceIdentification R request s body
  | readHoldingRegisters body =>
    exact hE.erases_readsTable R request s server.holding .readHoldingRegisters _
  | readInputRegisters body =>
    exact hE.erases_readsTable R request s server.input .readInputRegisters _
  | writeSingleCoil body => exact hE.erases_handleWriteSingleCoil R server request s body
  | writeSingleRegister body =>
    exact hE.erases_handleWriteSingleHoldingRegister R server request s body
  | writeMultipleCoils body => exact hE.erases_handleWriteMultipleCoils R server request s body
  | writeMultipleRegisters body =>
    exact hE.erases_handleWriteMultipleHoldingRegisters R server request s body

end Emitter.Observes

/-! ## Data events -/

variable {w : Transport} {E : Emitter w.Request σ}

/-- The connection without its listeners. -/
def ListenedClient.plain (c : ListenedClient w σ) : ModbusServerClient w.Request :=
  ⟨c._requestHandler, c.serving.heap, c.serving.written⟩

/-- One round of the loop, with listeners and without them. -/
theorem onDataRound_plain (hE : E.Observes) (server : ModbusServer) (c : ListenedClient w σ) :
    (∃ c' outcome, E.onDataRound w server c = .leave (c', outcome) ∧
      ModbusServerClient.onDataRound w server c.plain = .leave (c'.plain, outcome)) ∨
    ∃ c', E.onDataRound w server c = .next c' ∧
      ModbusServerClient.onDataRound w server c.plain = .next c'.plain := by
  obtain ⟨requestHandler, serving⟩ := c
  unfold Emitter.onDataRound ModbusServerClient.onDataRound ListenedClient.plain
  cases hshift : requestHandler.shift with
  | mk request rest =>
    cases request with
    | none => exact .inl ⟨_, _, rfl, rfl⟩
    | some request =>
      dsimp only
      split_ifs with hignores
      · exact .inr ⟨_, rfl, rfl⟩
      · obtain ⟨hheap, hwritten, houtcome⟩ :=
          hE.erases_handle w.responder server request serving
        generalize exec (E.handle w.responder server request) serving = result
          at hheap hwritten houtcome ⊢
        generalize ModbusServerResponseHandler.handle w.responder server serving.heap
          request = o at hheap hwritten houtcome ⊢
        obtain ⟨outcome, serving'⟩ := result
        obtain ⟨heap, result⟩ := o
        dsimp only at hheap hwritten houtcome
        subst hheap houtcome
        -- what was thrown leaves the loop
        cases result with
        | error e =>
          have hsame : serving'.written = serving.written := hwritten.trans (List.append_nil _)
          exact .inl ⟨_, _, rfl, by rw [hsame]⟩
        | ok payload =>
          cases payload with
          | none =>
            have hsame : serving'.written = serving.written :=
              hwritten.trans (List.append_nil _)
            exact .inr ⟨_, rfl, by rw [hsame]⟩
          | some payload => exact .inr ⟨_, rfl, by rw [hwritten]; rfl⟩

/-- The loop leaves what it leaves without listeners. -/
theorem onDataLoop_plain (hE : E.Observes) (server : ModbusServer) (c : ListenedClient w σ) :
    (ModbusServerClient.onDataLoop w server).exec c.plain =
      (((E.onDataLoop w server).exec c).1.plain, ((E.onDataLoop w server).exec c).2) := by
  refine Body.exec_induction (l := E.onDataLoop w server)
    (P := fun c r => (ModbusServerClient.onDataLoop w server).exec c.plain =
      (r.1.plain, r.2)) ?_ ?_ c
  · intro c r hround
    rcases onDataRound_plain hE server c with ⟨c', outcome, hleave, hplain⟩ | ⟨c', hnext, -⟩
    · obtain rfl := Round.leave.inj (hround.symm.trans hleave)
      exact Body.exec_leave hplain
    · cases hround.symm.trans hnext
  · intro c c' hround ih
    rcases onDataRound_plain hE server c with ⟨c'', outcome, hleave, -⟩ | ⟨c'', hnext, hplain⟩
    · cases hround.symm.trans hleave
    · obtain rfl := Round.next.inj (hround.symm.trans hnext)
      rw [← ih]
      exact Body.exec_next hplain

/-- A data event does what it does without listeners. -/
theorem onData_plain (hE : E.Observes) (server : ModbusServer) (c : ListenedClient w σ)
    (data : Buffer) :
    ModbusServerClient._onData w server c.plain data =
      ((E._onData w server c data).1.plain, (E._onData w server c data).2) := by
  obtain ⟨handler, serving⟩ := c
  unfold Emitter._onData ModbusServerClient._onData ListenedClient.plain
  dsimp only
  generalize ModbusServerRequestHandler.handle w.reader handler data = result
  obtain ⟨handler', e | ⟨⟨⟩⟩⟩ := result
  · rfl
  · exact onDataLoop_plain hE server ⟨handler', serving⟩

variable {ι : Type} [DecidableEq ι]

/-- The server without its listeners. -/
def ListenedServer.plain (s : ListenedServer ι w σ) : ConnectedServer ι w :=
  ⟨s.connection, s.heap, s.happened.filterMap fun p => p.2.payload.map (p.1, ·)⟩

/-- The machine with listeners represents the one without them. -/
theorem represents_observed (hE : E.Observes) (server : ModbusServer) :
    Refinement.Represents (ConnectedServer.machine (ι := ι) w server) (E.machine w server)
      (fun _ _ => True)
      ListenedServer.plain Eq fun _ outcome => outcome where
  step := by
    rintro s ⟨i, data⟩ _ rfl -
    have hplain : ModbusServerClient._onData w server ⟨s.connection i, s.heap, []⟩ data = _ :=
      onData_plain hE server ⟨s.connection i, ⟨s.listeners, s.heap, []⟩⟩ data
    have hwritten : ∀ happened : List (Happening w.Request),
        (happened.map (i, ·)).filterMap (fun p => p.2.payload.map (p.1, ·)) =
          (happened.filterMap Happening.payload).map (i, ·) := by
      intro happened
      rw [List.filterMap_map, List.map_filterMap]
      rfl
    simp only [ConnectedServer.machine, Emitter.machine, ListenedServer.plain, hplain,
      ListenedClient.plain, Serving.written, List.filterMap_append, hwritten]
  keep _ _ := trivial

/-- Whatever arrives on the connections of a server, in whatever order: listeners that only
observe change neither what it writes to any of them, nor its tables, nor what is thrown. -/
theorem observers_change_nothing (hE : E.Observes) (server : ModbusServer)
    (s : ListenedServer ι w σ) (events : List (ι × Buffer)) :
    (ConnectedServer.machine w server).run s.plain events =
      (((E.machine w server).run s events).1.plain, ((E.machine w server).run s events).2) := by
  have hsame : List.Forall₂ Eq events events := List.forall₂_same.mpr fun _ _ => rfl
  have hrun := (represents_observed hE server).run_eq hsame s fun _ _ => trivial
  have hlength := Refinement.Machine.length_run (E.machine w server) s events
  have houtcomes : List.zipWith (fun _ outcome => outcome) events
    ((E.machine w server).run s events).2 =
      ((E.machine w server).run s events).2 := by
    have hzip := List.map_snd_zip (Nat.le_of_eq hlength)
    rw [List.zip, List.map_zipWith] at hzip
    exact hzip
  rw [hrun, houtcomes]

/-- Listeners that count the events. -/
def counting (ρ : Type) : Emitter ρ Nat where
  emit _ count heap := ⟨count + 1, heap, [], .ok ()⟩
  listenerCount _ _ := 0

theorem observes_counting (ρ : Type) : (counting ρ).Observes :=
  ⟨fun _ _ _ => rfl, fun _ _ _ => rfl, fun _ _ _ => rfl, fun _ => rfl⟩

/-- A write of a register, which comes in two pieces. -/
theorem observers_change_nothing_counting :
    (ConnectedServer.machine .tcp ⟨none, none, none, some 0, none⟩).run
        ⟨fun _ : Unit => .new, fun _ => [0, 0, 0, 0], []⟩
        [((), [0, 1, 0, 0, 0]), ((), [6, 1, 6, 0, 1, 0, 7])] =
      ((((counting _).machine .tcp ⟨none, none, none, some 0, none⟩).run
          (⟨fun _ : Unit => .new, 0, fun _ => [0, 0, 0, 0], []⟩ : ListenedServer Unit .tcp Nat)
          [((), [0, 1, 0, 0, 0]), ((), [6, 1, 6, 0, 1, 0, 7])]).1.plain,
        (((counting _).machine .tcp ⟨none, none, none, some 0, none⟩).run
          (⟨fun _ : Unit => .new, 0, fun _ => [0, 0, 0, 0], []⟩ : ListenedServer Unit .tcp Nat)
          [((), [0, 1, 0, 0, 0]), ((), [6, 1, 6, 0, 1, 0, 7])]).2) :=
  observers_change_nothing (observes_counting _) _
    (⟨fun _ : Unit => .new, 0, fun _ => [0, 0, 0, 0], []⟩ : ListenedServer Unit .tcp Nat) _

end NodeModbus

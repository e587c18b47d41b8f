import NodeModbus.Client.Updates

/-!
# The state of the connection

A handler is told of its connection by the events of its socket. The TCP handler
listens to `connect` and `close`, the RTU handler to `open` only.

- `Quiet`: a call that leaves the state of the connection as it is, and writes nothing
  while it is offline.
- `quiet_apply`: so does every event that is not one of the socket's.
- `followsSocket_iff`: the state follows the socket over a whole run if and only if the
  client is a TCP client, or no `close` comes after an `open`.
-/

namespace NodeModbus

open Transition

/-! ## Calls that leave the connection as it is -/

namespace MBClientRequestHandler

variable {ρ ω : Type}

/-- The state of the connection stays, and nothing is written while it is offline. -/
structure Quiet (c c' : MBClientRequestHandler ρ ω) : Prop where
  state : c'._state = c._state
  silent : c._state = .offline → writes c'.log = writes c.log

variable {c c' c'' : MBClientRequestHandler ρ ω} {M : Messages ρ ω}

theorem Quiet.refl (c : MBClientRequestHandler ρ ω) : Quiet c c := ⟨rfl, fun _ => rfl⟩

theorem Quiet.trans (h : Quiet c c') (h' : Quiet c' c'') : Quiet c c'' := by
  refine ⟨h'.state.trans h.state, fun hoffline => ?_⟩
  exact (h'.silent (h.state.trans hoffline)).trans (h.silent hoffline)

theorem quiet_concat {a : Action ρ ω} (hlog : c'.log = c.log ++ [a]) (ha : a.writes = none)
    (hstate : c'._state = c._state) : Quiet c c' := by
  refine ⟨hstate, fun _ => ?_⟩
  rw [hlog, writes_concat, ha, Option.toList_none, List.append_nil]

/-- Flushing writes online only. -/
theorem quiet_flush (M : Messages ρ ω) (c : MBClientRequestHandler ρ ω) :
    Quiet c (c._flush M).1 := by
  have hflush := flushed M c
  generalize c._flush M = r at hflush ⊢
  cases hflush with
  | idle _ => exact .refl c
  | rejected _ _ _ => exact quiet_concat (a := .rejected _ _) rfl rfl rfl
  | failed _ _ hstate _ => exact ⟨rfl, fun hoffline => nomatch hstate.symm.trans hoffline⟩
  | written _ _ hstate _ => exact ⟨rfl, fun hoffline => nomatch hstate.symm.trans hoffline⟩

theorem Update.quiet (h : Update M c c') : Quiet c c' := by
  cases h with
  | note _ hwrites => exact quiet_concat rfl hwrites rfl
  | shift _ => exact ⟨rfl, fun _ => rfl⟩
  | done u => exact ⟨rfl, fun _ => rfl⟩
  | flushes n => exact ⟨rfl, fun _ => rfl⟩
  | flush => exact quiet_flush M c
  | clearCurrentRequest =>
    cases hcurrent : c._currentRequest with
    | none =>
      rw [_clearCurrentRequest, hcurrent]
      exact .refl c
    | some u =>
      rw [clearCurrentRequest_eq hcurrent]
      exact ⟨rfl, fun _ => rfl⟩

theorem Updates.quiet (h : Updates M c c') : Quiet c c' :=
  h.relates Quiet.refl Quiet.trans Update.quiet

theorem quiet_registerRequest (M : Messages ρ ω) (c : MBClientRequestHandler ρ ω)
    (request : ρ) : Quiet c (c.registerRequest M request).1 := by
  have hpush : Quiet c (c.push request) :=
    quiet_concat (a := .registered ⟨c.registered, request⟩) rfl rfl rfl
  exact hpush.trans (quiet_flush M _)

end MBClientRequestHandler

open MBClientRequestHandler

theorem quiet_register (w : Transport) (unitId : Int) (c : w.Client)
    (requestBody : RequestBody) : Quiet c (w.register unitId c requestBody).1 := by
  have hadvance : Quiet c (w.advance c) := by cases w <;> exact ⟨rfl, fun _ => rfl⟩
  rw [w.register_eq]
  exact hadvance.trans (quiet_registerRequest w.messages _ _)

/-! ## The events of the socket -/

/-- The state of a socket after an event. -/
def Event.socket {w : Transport} (s : ConnectionState) : Event w → ConnectionState
  | connect => .online
  | close => .offline
  | _ => s

/-- The state of a socket that is not open at first: that of the last connection event. -/
def socketState {w : Transport} (events : List (Event w)) : ConnectionState :=
  events.foldl Event.socket .offline

@[simp] theorem socketState_concat {w : Transport} (events : List (Event w)) (e : Event w) :
    socketState (events ++ [e]) = e.socket (socketState events) := by
  rw [socketState, List.foldl_append]
  rfl

/-- What an event that is not one of the socket does: its state stays, too. -/
theorem quiet_apply {w : Transport} (unitId : Int) (c : w.Client) {e : Event w}
    (hconnect : e ≠ .connect) (hclose : e ≠ .close) :
    Quiet c (e.apply unitId c).1 ∧ ∀ s, e.socket s = s := by
  cases e with
  | connect => exact absurd rfl hconnect
  | close => exact absurd rfl hclose
  | register requestBody => exact ⟨quiet_register w unitId c requestBody, fun _ => rfl⟩
  | _ => exact ⟨Updates.quiet (updates_apply unitId c trivial), fun _ => rfl⟩

/-! ## The state follows the socket -/

/-- The getter `MBClient.connectionState`. -/
def Transport.connectionState {w : Transport} (c : w.Client) : ConnectionState := c._state

/-- What is asked of the last one of some events, which takes the client from `c` to `c'`:
it is online exactly when its socket is, and offline it has nothing pending and has written
nothing. -/
structure FollowsSocket {w : Transport} (events : List (Event w)) (c c' : w.Client) : Prop where
  state : Transport.connectionState c' = .online ↔ socketState events = .online
  pending : Transport.connectionState c' = .offline → pending c' = []
  silent : Transport.connectionState c' = .offline → writes c'.log = writes c.log

/-- The client after some events, on a socket that is not open at first. -/
abbrev clientAfter (w : Transport) (unitId : Int) (events : List (Event w)) : w.Client :=
  (clientSystem w unitId).after .new events

theorem starts_new (w : Transport) : w.Starts .new := by
  cases w with
  | tcp => exact .tcp
  | rtu crc16modbus => exact .rtu crc16modbus

/-- The state after a step, when it was that of the socket before. -/
theorem state_apply {w : Transport} (unitId : Int) {c : w.Client} {e : Event w}
    {s : ConnectionState} (hc : c._state = s)
    (hlistens : e = .close → w = .tcp ∨ s = .offline) :
    (e.apply unitId c).1._state = e.socket s := by
  by_cases hconnect : e = .connect
  · rw [hconnect]
    rfl
  by_cases hclose : e = .close
  · subst hclose
    cases w with
    | tcp => exact (updates_onClose tcpMessages c).quiet.state
    | rtu crc16modbus =>
      -- it does not hear of the event
      rcases hlistens rfl with htcp | rfl
      · cases htcp
      · exact hc
  · obtain ⟨hquiet, hsocket⟩ := quiet_apply unitId c hconnect hclose
    rw [hsocket, hquiet.state, hc]

/-- A step that leads to an offline client writes nothing. -/
theorem writes_apply {w : Transport} (unitId : Int) (c : w.Client) (e : Event w)
    (hoffline : (e.apply unitId c).1._state = .offline) :
    writes (e.apply unitId c).1.log = writes c.log := by
  by_cases hconnect : e = .connect
  · subst hconnect
    cases hoffline
  by_cases hclose : e = .close
  · subst hclose
    cases w with
    | tcp =>
      -- the action that changes the state writes nothing either
      refine ((updates_onClose tcpMessages c).quiet.silent rfl).trans ?_
      exact (writes_concat ..).trans (List.append_nil _)
    | rtu crc16modbus => rfl
  · obtain ⟨hquiet, -⟩ := quiet_apply unitId c hconnect hclose
    exact hquiet.silent (hquiet.state.symm.trans hoffline)

/-- Until a socket is opened it is offline. -/
theorem socketState_of_not_mem {w : Transport} {events : List (Event w)}
    (h : .connect ∉ events) : socketState events = .offline := by
  induction events using List.reverseRecOn with
  | nil => rfl
  | append_singleton events e ih =>
    rw [List.mem_append, not_or] at h
    have hevents := ih h.1
    rw [socketState_concat, hevents]
    cases e with
    | connect => exact absurd (List.mem_singleton.mpr rfl) h.2
    | _ => rfl

/-- An RTU client that was opened once is online for good. -/
theorem state_of_mem (crc16modbus : Buffer → UInt16) (unitId : Int)
    {events : List (Event (.rtu crc16modbus))} (h : .connect ∈ events) :
    (clientAfter (.rtu crc16modbus) unitId events)._state = .online := by
  induction events using List.reverseRecOn with
  | nil => cases h
  | append_singleton events e ih =>
    rw [clientAfter, System.after_concat]
    show (e.apply unitId _).1._state = .online
    by_cases hconnect : e = .connect
    · rw [hconnect]
      rfl
    have hbefore := ih ((List.mem_append.mp h).resolve_right fun he =>
      hconnect (List.mem_singleton.mp he).symm)
    by_cases hclose : e = .close
    · rw [hclose]
      exact hbefore
    · exact (quiet_apply unitId _ hconnect hclose).1.state.trans hbefore

/-- The state is that of the socket, when a TCP client or no `close` after an `open` is
given. -/
theorem state_clientAfter (w : Transport) (unitId : Int) {events : List (Event w)}
    (h : w = .tcp ∨ Each (fun before e => e = .close → .connect ∉ before) events) :
    (clientAfter w unitId events)._state = socketState events := by
  induction events using List.reverseRecOn with
  | nil => rfl
  | append_singleton events e ih =>
    have hbefore := ih (h.imp_right fun heach => (each_concat.mp heach).1)
    rw [clientAfter, System.after_concat, socketState_concat]
    refine state_apply unitId hbefore fun hclose => h.imp_right fun heach => ?_
    have hlast := (each_concat.mp heach).2
    exact socketState_of_not_mem (hlast hclose)

/-- In a run of a client whose socket is not open at first, the state of the connection
follows the socket if and only if it is a TCP client, or no `close` comes after an `open`. -/
theorem followsSocket_iff (w : Transport) (unitId : Int) {events : List (Event w)}
    (h : (clientSystem w unitId).Runs .new events) :
    Each (fun before e => FollowsSocket (before ++ [e]) (clientAfter w unitId before)
      (clientAfter w unitId (before ++ [e]))) events ↔
    (w = .tcp ∨ Each (fun before e => e = .close → .connect ∉ before) events) := by
  constructor
  · intro hfollows
    cases w with
    | tcp => exact .inl rfl
    | rtu crc16modbus =>
      refine .inr fun before e after hevents hclose hopened => ?_
      have honline := state_of_mem crc16modbus unitId
        (List.mem_append_left [e] hopened)
      have hsocket := (hfollows before e after hevents).state.mp honline
      rw [socketState_concat, hclose] at hsocket
      cases hsocket
  · intro hlistens before e after hevents
    have hruns : (clientSystem w unitId).Runs .new (before ++ [e]) :=
      Each.of_append (r := after) (by rw [← List.append_cons, ← hevents]; exact h)
    have hinv : Inv (clientAfter w unitId (before ++ [e])) :=
      inv_reachable (hruns.reachable (starts_new w))
    have hstate : (clientAfter w unitId (before ++ [e]))._state = socketState (before ++ [e]) :=
      state_clientAfter w unitId (hlistens.imp_right fun heach =>
        Each.of_append (r := after) (by rw [← List.append_cons, ← hevents]; exact heach))
    refine ⟨?_, hinv.offline, ?_⟩
    · rw [Transport.connectionState, hstate]
    · intro hoffline
      rw [clientAfter, System.after_concat] at hoffline ⊢
      exact writes_apply unitId _ e hoffline

/-- Requests to an RTU client before and after its socket is opened, and the rejection of
the one under way. -/
def openedEvents : List (Event (.rtu fun _ => 0)) :=
  [.register (.readCoils ⟨0, 1, zero_le_address, one_le_count⟩), .connect,
    .register (.readCoils ⟨0, 1, zero_le_address, one_le_count⟩), .manuallyRejectCurrentRequest]

theorem runs_openedEvents : (clientSystem (.rtu fun _ => 0) 1).Runs .new openedEvents :=
  System.runs_cons.mpr ⟨trivial, System.runs_cons.mpr ⟨trivial, System.runs_cons.mpr ⟨trivial,
    System.runs_cons.mpr ⟨trivial, each_nil _⟩⟩⟩⟩

theorem followsSocket_iff_opened :
    Each (fun before e => FollowsSocket (before ++ [e]) (clientAfter (.rtu fun _ => 0) 1 before)
      (clientAfter (.rtu fun _ => 0) 1 (before ++ [e]))) openedEvents ↔
    (Transport.rtu (fun _ => 0) = .tcp ∨
      Each (fun before e => e = .close → .connect ∉ before) openedEvents) :=
  followsSocket_iff (.rtu fun _ => 0) 1 runs_openedEvents

/-- When the socket is closed again the RTU client is still online. -/
theorem not_followsSocket_closed :
    (clientSystem (.rtu fun _ => 0) 1).Runs .new [.connect, .close] ∧
      ¬ Each (fun before e => FollowsSocket (before ++ [e])
        (clientAfter (.rtu fun _ => 0) 1 before)
        (clientAfter (.rtu fun _ => 0) 1 (before ++ [e]))) [.connect, .close] := by
  refine ⟨each_concat (l := [_]).mpr ⟨each_concat (l := []).mpr ⟨each_nil _, trivial⟩, trivial⟩,
    fun hfollows => ?_⟩
  have hsocket := (hfollows [.connect] .close [] rfl).state.mp rfl
  cases hsocket

end NodeModbus

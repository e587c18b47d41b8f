import NodeModbus.Client.Accounting
import NodeModbus.Client.CrcCheck

/-!
# Draining the client's request handler

`_clearAllRequests` takes every request off the queue and rejects it. It runs when a
response is out of step with the request under way, and when the connection is closed.

- `SettledBy`, `RejectedWith`: the one action that settles a promise.
- `clearAllRequests_eq`, `onClose_eq`: what draining does, all at once.
- `drainedBy_of_mismatch`: a response that is out of step settles every promise, and
  leaves a handler that is ready for the next request.
- `closedOffline_iff`: the requests that are pending when the connection is closed are
  rejected as offline if and only if none of them waits in the queue.
-/

namespace NodeModbus

open Transition

variable {ρ ω : Type}

/-! ## The action that settles a promise -/

/-- The promise of a request is settled by an action: no action before it does so. -/
def SettledBy (log : List (Action ρ ω)) (u : UserRequest ρ) (a : Action ρ ω) : Prop :=
  a.settles = some u ∧ ∃ before after, log = before ++ a :: after ∧ ¬ Settled before u

/-- The promise of a request is rejected, with a code. -/
def RejectedWith (log : List (Action ρ ω)) (u : UserRequest ρ) (code : UserRequestErrorCodes) :
    Prop :=
  ∃ err, err.err = code ∧ SettledBy log u (.rejected u err)

variable {log : List (Action ρ ω)} {u : UserRequest ρ} {a b : Action ρ ω}

theorem settled_append (log more : List (Action ρ ω)) (u : UserRequest ρ) :
    Settled (log ++ more) u ↔ Settled log u ∨ Settled more u := by
  rw [Settled, List.filterMap_append, List.mem_append]
  exact Iff.rfl

theorem settled_cons (a : Action ρ ω) (log : List (Action ρ ω)) (u : UserRequest ρ) :
    Settled (a :: log) u ↔ a.settles = some u ∨ Settled log u := by
  rw [← List.singleton_append, settled_append, ← List.nil_append [a], settled_concat]
  exact or_congr_left (or_iff_right fun h => nomatch h)

theorem settledBy_concat (ha : a.settles = some u) (h : ¬ Settled log u) :
    SettledBy (log ++ [a]) u a :=
  ⟨ha, log, [], rfl, h⟩

/-- A promise that is settled stays settled by the same action. -/
theorem SettledBy.append (h : SettledBy log u a) (more : List (Action ρ ω)) :
    SettledBy (log ++ more) u a := by
  obtain ⟨ha, before, after, rfl, hbefore⟩ := h
  exact ⟨ha, before, after ++ more, by rw [List.append_assoc, List.cons_append], hbefore⟩

theorem SettledBy.settled (h : SettledBy log u a) : Settled log u := by
  obtain ⟨ha, before, after, rfl, -⟩ := h
  exact (settled_append ..).mpr (.inr ((settled_cons ..).mpr (.inl ha)))

/-- Only one action settles a promise. -/
theorem SettledBy.unique (ha : SettledBy log u a) (hb : SettledBy log u b) : a = b := by
  obtain ⟨ha, before, after, rfl, hbefore⟩ := ha
  obtain ⟨hb, before', after', hlog, hbefore'⟩ := hb
  -- the one that comes first would have settled the promise before the other
  rcases List.append_eq_append_iff.mp hlog with ⟨between, rfl, h⟩ | ⟨between, rfl, h⟩
  · rcases between with _ | ⟨x, between⟩
    · exact (List.cons.inj h).1
    · obtain ⟨rfl, -⟩ := List.cons.inj h
      exact absurd ((settled_append ..).mpr (.inr ((settled_cons ..).mpr (.inl ha)))) hbefore'
  · rcases between with _ | ⟨x, between⟩
    · exact (List.cons.inj h).1.symm
    · obtain ⟨rfl, -⟩ := List.cons.inj h
      exact absurd ((settled_append ..).mpr (.inr ((settled_cons ..).mpr (.inl hb)))) hbefore

theorem RejectedWith.append {code : UserRequestErrorCodes} (h : RejectedWith log u code)
    (more : List (Action ρ ω)) : RejectedWith (log ++ more) u code := by
  obtain ⟨err, herr, hby⟩ := h
  exact ⟨err, herr, hby.append more⟩

/-- A promise is rejected with one code. -/
theorem RejectedWith.unique {code code' : UserRequestErrorCodes} (h : RejectedWith log u code)
    (h' : RejectedWith log u code') : code = code' := by
  obtain ⟨err, rfl, hby⟩ := h
  obtain ⟨err', rfl, hby'⟩ := h'
  exact congrArg UserRequestError.err (Action.rejected.inj (hby.unique hby')).2

/-- Settling one request after another settles each of them. -/
theorem settledBy_map {f : UserRequest ρ → Action ρ ω} (hf : ∀ v, (f v).settles = some v)
    {us : List (UserRequest ρ)} (hu : u ∈ us) (h : ¬ Settled log u) :
    SettledBy (log ++ us.map f) u (f u) := by
  induction us generalizing log with
  | nil => cases hu
  | cons v us ih =>
    rw [List.map_cons, List.append_cons]
    by_cases hv : v = u
    · subst hv
      exact (settledBy_concat (hf v) h).append _
    · refine ih ((List.mem_cons.mp hu).resolve_left (Ne.symm hv)) ?_
      rw [settled_concat, hf v]
      rintro (hlog | heq)
      · exact h hlog
      · exact hv (Option.some.inj heq)

/-! ## Draining -/

namespace MBClientRequestHandler

variable {c : MBClientRequestHandler ρ ω}

/-- The error of `_clearAllRequests` for a request of the queue. -/
def drainedError (u : UserRequest ρ) : UserRequestError ρ ω :=
  { err := .outOfSync, message := "rejecting because of earlier OutOfSync error",
    request := some u.request }

/-- The rejection of a request of the queue. -/
def drained (u : UserRequest ρ) : Action ρ ω := .rejected u (drainedError u)

/-- The error of `_onClose` for the request under way. -/
def closedError (u : UserRequest ρ) : UserRequestError ρ ω :=
  { err := .offline, message := "connection to modbus server closed",
    request := some u.request }

/-- The rejection of the request under way. -/
def closed (u : UserRequest ρ) : Action ρ ω := .rejected u (closedError u)

/-- Draining rejects every request of the queue that is not settled before. -/
theorem rejectedWith_drained {log : List (Action ρ ω)} {us : List (UserRequest ρ)}
    {u : UserRequest ρ} (hu : u ∈ us) (h : ¬ Settled log u) :
    RejectedWith (log ++ us.map drained) u .outOfSync :=
  ⟨drainedError u, rfl, settledBy_map (f := drained) (fun _ => rfl) hu h⟩

theorem rejectRequests_eq {requests : List (UserRequest ρ)} (h : c._requests = requests) :
    rejectRequests requests c =
      { c with _requests := [], log := c.log ++ requests.map drained } := by
  induction requests generalizing c with
  | nil =>
    cases c
    cases h
    simp [rejectRequests]
  | cons u requests ih =>
    rw [rejectRequests, ih rfl]
    simp [reject, note, drained, drainedError]

/-- What draining does, when the one timer is that of the request under way. -/
theorem clearAllRequests_eq (htimers : c.timers = c._currentRequest.toList) :
    c._clearAllRequests = { c with _requests := [], _currentRequest := none, timers := [],
                                   log := c.log ++ c._requests.map drained } := by
  rw [_clearAllRequests, rejectRequests_eq rfl]
  cases hcurrent : c._currentRequest with
  | none => simp [_clearCurrentRequest, hcurrent, htimers]
  | some u => simp [clearCurrentRequest_eq hcurrent, done, htimers, hcurrent]

/-- What closing the connection does. -/
theorem onClose_eq (htimers : c.timers = c._currentRequest.toList) :
    c._onClose =
      { c with _state := .offline, _requests := [], _currentRequest := none, timers := [],
               log := c.log ++ .state .offline ::
                 (c._currentRequest.toList.map closed ++ c._requests.map drained) } := by
  unfold _onClose
  dsimp only
  split
  · rename_i hcurrent
    have hcurrent : c._currentRequest = none := hcurrent
    refine (clearAllRequests_eq ?_).trans ?_
    · exact htimers
    · simp [note, hcurrent]
  · rename_i u hcurrent
    have hcurrent : c._currentRequest = some u := hcurrent
    refine (clearAllRequests_eq ?_).trans ?_
    · exact htimers
    · simp [note, reject, closed, closedError, hcurrent]

/-- Draining when the request under way has been rejected. -/
theorem reject_clearAllRequests_eq {u : UserRequest ρ}
    (htimers : c.timers = c._currentRequest.toList) (err : UserRequestError ρ ω) :
    (c.reject u err)._clearAllRequests =
      { c with _requests := [], _currentRequest := none, timers := [],
               log := c.log ++ .rejected u err :: c._requests.map drained } := by
  refine (clearAllRequests_eq ?_).trans ?_
  · exact htimers
  · simp [reject, note]

/-! ## The next request -/

/-- A request is under way: its timer is running, and it was written behind a log if it can be
encoded. -/
structure Started (M : Messages ρ ω) (before : List (Action ρ ω))
    (c : MBClientRequestHandler ρ ω) (u : UserRequest ρ) : Prop where
  current : c._currentRequest = some u
  timers : c.timers = [u]
  written : ∀ payload, M.createPayload u.request = .ok payload →
    c.log = before ++ [.written u payload]

/-- An idle handler that is online starts the first request of its queue. -/
theorem started_flush (M : Messages ρ ω) {u : UserRequest ρ} {requests : List (UserRequest ρ)}
    (hcurrent : c._currentRequest = none) (hrequests : c._requests = u :: requests)
    (hstate : c._state = .online) (htimers : c.timers = []) :
    Started M c.log (c._flush M).1 u := by
  rw [flush_online hcurrent hrequests hstate]
  cases hpayload : M.createPayload u.request with
  | error e =>
    exact ⟨rfl, by simp [start, htimers], fun payload h => by rw [hpayload] at h; cases h⟩
  | ok payload =>
    refine ⟨rfl, by simp [note, start, htimers], ?_⟩
    intro payload' h
    rw [hpayload] at h
    rw [Except.ok.inj h]
    rfl

/-- So does one that has nothing to do when a request is registered. -/
theorem started_registerRequest (M : Messages ρ ω) (hpending : c.pending = [])
    (hstate : c._state = .online) (htimers : c.timers = []) (request : ρ) :
    Started M (c.log ++ [.registered ⟨c.registered, request⟩]) (c.registerRequest M request).1
      ⟨c.registered, request⟩ := by
  obtain ⟨hcurrent, hrequests⟩ := List.append_eq_nil_iff.mp hpending
  have hqueue : (c.push request)._requests = [⟨c.registered, request⟩] := by
    simp [push, note, hrequests]
  exact @started_flush _ _ (c.push request) M _ _ (Option.toList_eq_nil_iff.mp hcurrent)
    hqueue hstate htimers

/-- A response of another function code. -/
theorem handle_of_fc_ne {M : Messages ρ ω} {u : UserRequest ρ} {response : ω}
    (hcurrent : c._currentRequest = some u)
    (hexception : (M.responseBody response).isException = false)
    (hfc : (M.responseBody response).fc ≠ (M.body u.request).fc) :
    c.handle M (some response) =
      ((c.reject u { err := .outOfSync, message := "request fc and response fc does not match.",
                     request := some u.request })._clearAllRequests, .ok ()) := by
  simp only [handle, hcurrent]
  rw [if_pos ⟨hexception, hfc⟩]

end MBClientRequestHandler

open MBClientRequestHandler

namespace ModbusTCPClientRequestHandler

variable {c : ModbusTCPClientRequestHandler} {u : UserRequest ModbusTCPRequest}
  {response : ModbusTCPResponse}

theorem handle_of_id_ne (hcurrent : c._currentRequest = some u)
    (hid : response.id ≠ u.request.id) :
    handle c (some response) =
      ((c.reject u { err := .outOfSync, message := "request id and response id do not match.",
                     request := some u.request })._clearAllRequests, .ok ()) := by
  simp only [handle, hcurrent, if_pos hid]

theorem handle_of_protocol_ne (hcurrent : c._currentRequest = some u)
    (hid : response.id = u.request.id) (hprotocol : response.protocol ≠ 0x00) :
    handle c (some response) =
      ((c.reject u
        { err := .protocol, message := s!"Unknown protocol version {response.protocol}",
                     request := some u.request })._clearAllRequests, .ok ()) := by
  simp only [handle, hcurrent, if_neg (not_not.mpr hid), if_pos hprotocol]

/-- With the ids of the request the common handler goes on. -/
theorem handle_of_header (hcurrent : c._currentRequest = some u)
    (hid : response.id = u.request.id) (hprotocol : response.protocol = 0x00) :
    handle c (some response) = MBClientRequestHandler.handle tcpMessages c (some response) := by
  simp only [handle, hcurrent, if_neg (not_not.mpr hid), if_neg (not_not.mpr hprotocol)]

end ModbusTCPClientRequestHandler

/-- A client that is online and has nothing pending starts the next request that is
registered. -/
theorem started_register (w : Transport) (unitId : Int) {c : w.Client}
    (hstate : c._state = .online) (hpending : c.pending = []) (htimers : c.timers = [])
    (requestBody : RequestBody) :
    ∃ v, v.request = w.request unitId c requestBody ∧
      Started w.messages (c.log ++ [.registered v]) (w.register unitId c requestBody).1 v := by
  rw [w.register_eq]
  refine ⟨⟨c.registered, w.request unitId c requestBody⟩, rfl, ?_⟩
  cases w with
  | tcp =>
    exact @started_registerRequest _ _ (Transport.tcp.advance c) tcpMessages hpending hstate
      htimers _
  | rtu crc16modbus =>
    exact started_registerRequest (rtuMessages crc16modbus) hpending hstate htimers _

/-! ## A response that is out of step -/

/-- The first thing in which a response does not match the request under way, with the code the
request is rejected with. -/
inductive Mismatch :
    (w : Transport) → UserRequest w.Request → w.Response → UserRequestErrorCodes →
    Prop
  | id {u : UserRequest ModbusTCPRequest} {response : ModbusTCPResponse}
      (hid : response.id ≠ u.request.id) : Mismatch .tcp u response .outOfSync
  | protocol {u : UserRequest ModbusTCPRequest} {response : ModbusTCPResponse}
      (hid : response.id = u.request.id) (hprotocol : response.protocol ≠ 0x00) :
      Mismatch .tcp u response .protocol
  | tcpFc {u : UserRequest ModbusTCPRequest} {response : ModbusTCPResponse}
      (hid : response.id = u.request.id) (hprotocol : response.protocol = 0x00)
      (hexception : response.body.isException = false)
      (hfc : response.body.fc ≠ u.request.body.fc) : Mismatch .tcp u response .outOfSync
  | crc {crc16modbus : Buffer → UInt16} {u : UserRequest ModbusRTURequest}
      {response : ModbusRTUResponse} {bytes : Buffer}
      (hbytes : response.checkedBytes = .ok bytes)
      (hcrc : response.crc ≠ some ((crc16modbus bytes).toNat : Int)) :
      Mismatch (.rtu crc16modbus) u response .crcMismatch
  | rtuFc {crc16modbus : Buffer → UInt16} {u : UserRequest ModbusRTURequest}
      {response : ModbusRTUResponse} {bytes : Buffer}
      (hbytes : response.checkedBytes = .ok bytes)
      (hcrc : response.crc = some ((crc16modbus bytes).toNat : Int))
      (hexception : response.body.isException = false)
      (hfc : response.body.fc ≠ u.request.body.fc) :
        Mismatch (.rtu crc16modbus) u response .outOfSync

/-- The first mismatch, when a TCP response has one. -/
theorem exists_mismatch_tcp {u : UserRequest ModbusTCPRequest} {response : ModbusTCPResponse}
    (h : response.id ≠ u.request.id ∨ response.protocol ≠ 0x00 ∨
      (response.body.isException = false ∧ response.body.fc ≠ u.request.body.fc)) :
    ∃ code, Mismatch .tcp u response code := by
  by_cases hid : response.id = u.request.id
  · by_cases hprotocol : response.protocol = 0x00
    · obtain ⟨hexception, hfc⟩ := (h.resolve_left (not_not.mpr hid)).resolve_left
        (not_not.mpr hprotocol)
      exact ⟨_, .tcpFc hid hprotocol hexception hfc⟩
    · exact ⟨_, .protocol hid hprotocol⟩
  · exact ⟨_, .id hid⟩

/-- The first mismatch, when an RTU response that came in has one. -/
theorem exists_mismatch_rtu (crc16modbus : Buffer → UInt16) {u : UserRequest ModbusRTURequest}
    {buffer : Buffer} {response : ModbusRTUResponse}
    (hresponse : ModbusRTUResponse.fromBuffer buffer = some response)
    (h : (∀ bytes, response.checkedBytes = .ok bytes →
        response.crc ≠ some ((crc16modbus bytes).toNat : Int)) ∨
      (response.body.isException = false ∧ response.body.fc ≠ u.request.body.fc)) :
    ∃ code, Mismatch (.rtu crc16modbus) u response code := by
  obtain ⟨bytes, hbytes⟩ := ModbusRTUResponse.exists_checkedBytes hresponse
  by_cases hcrc : response.crc = some ((crc16modbus bytes).toNat : Int)
  · obtain ⟨hexception, hfc⟩ := h.resolve_left fun hall => hall bytes hbytes hcrc
    exact ⟨_, .rtuFc hbytes hcrc hexception hfc⟩
  · exact ⟨_, .crc hbytes hcrc⟩

/-- A response that is out of step rejects the request under way, and drains the queue. -/
theorem Mismatch.handle_eq {w : Transport} {u : UserRequest w.Request} {response : w.Response}
    {code : UserRequestErrorCodes} (h : Mismatch w u response code) {c : w.Client}
    (hcurrent : c._currentRequest = some u) :
    ∃ err, w.handle c (some response) = ((c.reject u err)._clearAllRequests, .ok ()) ∧
      err.err = code := by
  cases h with
  | id hid => exact ⟨_, ModbusTCPClientRequestHandler.handle_of_id_ne hcurrent hid, rfl⟩
  | protocol hid hprotocol =>
    exact ⟨_, ModbusTCPClientRequestHandler.handle_of_protocol_ne hcurrent hid hprotocol, rfl⟩
  | tcpFc hid hprotocol hexception hfc =>
    have hhandle := ModbusTCPClientRequestHandler.handle_of_header hcurrent hid hprotocol
    exact ⟨_, hhandle.trans (handle_of_fc_ne hcurrent hexception hfc), rfl⟩
  | @crc crc16modbus u response bytes hbytes hcrc =>
    have hhandle := ModbusRTUResponse.handle_eq_of_checkedBytes crc16modbus hbytes hcurrent
    exact ⟨_, hhandle.trans (if_neg hcrc), rfl⟩
  | @rtuFc crc16modbus u response bytes hbytes hcrc hexception hfc =>
    have hhandle := ModbusRTUResponse.handle_eq_of_checkedBytes crc16modbus hbytes hcurrent
    rw [if_pos hcrc] at hhandle
    exact ⟨_, hhandle.trans (handle_of_fc_ne hcurrent hexception hfc), rfl⟩

/-- What is promised of a response that is out of step with the request `u` under way: every
promise is settled, that of `u` is rejected with the code unless it was settled before, and
those in the queue are rejected in their order. The handler has nothing left to do, and
nothing was written. -/
structure DrainedBy (w : Transport) (unitId : Int) (c : w.Client) (u : UserRequest w.Request)
    (code : UserRequestErrorCodes) (c' : w.Client) : Prop where
  settled : ∀ v ∈ registrations c.log, Settled c'.log v
  rejected : ∀ v ∈ registrations c.log, ¬ Settled c.log v →
    v = u ∧ RejectedWith c'.log v code ∨ v ∈ c._requests ∧ RejectedWith c'.log v .outOfSync
  queued : ∀ v ∈ c._requests, ¬ Settled c.log v ∧ RejectedWith c'.log v .outOfSync
  log : ∃ err, err.err = code ∧ c'.log = c.log ++ .rejected u err :: c._requests.map drained
  written : writes c'.log = writes c.log
  timers : c'.timers = []
  pending : c'.pending = []
  state : c'._state = c._state
  next : c'._state = .online → ∀ requestBody, ∃ v, v.request = w.request unitId c' requestBody ∧
    Started w.messages (c'.log ++ [.registered v]) (w.register unitId c' requestBody).1 v

theorem writes_map_drained (us : List (UserRequest ρ)) :
    writes (us.map (drained (ω := ω))) = [] := by
  refine List.filterMap_eq_nil_iff.mpr ?_
  rintro a ha
  obtain ⟨v, -, rfl⟩ := List.mem_map.mp ha
  rfl

/-- A response that does not match the request under way drains the client, from any state
it comes to. -/
theorem drainedBy_of_mismatch (w : Transport) (unitId : Int) {c : w.Client}
    (h : Reachable (clientSystem w unitId) c) {u : UserRequest w.Request}
    (hcurrent : c._currentRequest = some u) {response : w.Response}
    {code : UserRequestErrorCodes} (hmismatch : Mismatch w u response code) :
    ∃ c', w.handle c (some response) = (c', .ok ()) ∧ DrainedBy w unitId c u code c' := by
  obtain ⟨⟨finished, haccounted⟩, -, -⟩ := inv_reachable h
  obtain ⟨err, hhandle, herr⟩ := hmismatch.handle_eq hcurrent
  rw [reject_clearAllRequests_eq haccounted.timers] at hhandle
  refine ⟨_, hhandle, ?_⟩
  -- the request under way first, then the queue
  have hlog : c.log ++ .rejected u err :: c._requests.map drained =
      c.log ++ [.rejected u err] ++ c._requests.map drained := List.append_cons ..
  have hfirst : ¬ Settled c.log u →
      RejectedWith (c.log ++ .rejected u err :: c._requests.map drained) u code := by
    intro hu
    rw [hlog]
    exact ⟨err, herr, (settledBy_concat (a := .rejected u err) rfl hu).append _⟩
  have hqueued : ∀ v ∈ c._requests, ¬ Settled c.log v ∧
      RejectedWith (c.log ++ .rejected u err :: c._requests.map drained) v .outOfSync := by
    intro v hv
    refine ⟨haccounted.waiting v hv, ?_⟩
    rw [hlog]
    refine rejectedWith_drained hv ?_
    rw [settled_concat]
    rintro (hsettled | heq)
    · exact haccounted.waiting v hv hsettled
    · exact haccounted.current_not_mem hcurrent (Option.some.inj heq ▸ hv)
  have hrejected : ∀ v ∈ registrations c.log, ¬ Settled c.log v →
      v = u ∧ RejectedWith (c.log ++ .rejected u err :: c._requests.map drained) v code ∨
        v ∈ c._requests ∧
          RejectedWith (c.log ++ .rejected u err :: c._requests.map drained) v .outOfSync := by
    intro v hv hunsettled
    rw [haccounted.registrations, pending, hcurrent] at hv
    rcases List.mem_append.mp hv with hv | hv
    · exact absurd (haccounted.settled v hv) hunsettled
    · rcases List.mem_cons.mp hv with rfl | hv
      · exact .inl ⟨rfl, hfirst hunsettled⟩
      · exact .inr ⟨hv, (hqueued v hv).2⟩
  refine ⟨?_, hrejected, hqueued, ⟨err, herr, rfl⟩, ?_, rfl, rfl, rfl, ?_⟩
  · intro v hv
    by_cases hunsettled : Settled c.log v
    · exact (settled_append ..).mpr (.inl hunsettled)
    · rcases hrejected v hv hunsettled with ⟨-, _, -, hby⟩ | ⟨-, _, -, hby⟩
      · exact hby.settled
      · exact hby.settled
  · show writes (c.log ++ _) = _
    rw [hlog, writes, List.filterMap_append, List.filterMap_append]
    show writes c.log ++ [] ++ writes (c._requests.map drained) = _
    rw [writes_map_drained, List.append_nil, List.append_nil]
  · intro hstate requestBody
    exact started_register w unitId hstate rfl rfl requestBody

/-- The call to read one coil. -/
def readCoil (start : Int) (h : start ≤ 0xFFFF) : Event .tcp :=
  .register (.readCoils ⟨start, 1, h, one_le_count⟩)

/-- A client that has one request under way and another in its queue. -/
def twoRequests : ModbusTCPClientRequestHandler :=
  let system := clientSystem .tcp 1
  system.next (system.next (_onConnect .new) (readCoil 0 zero_le_address))
    (readCoil 8 eight_le_address)

theorem reachable_twoRequests : Reachable (clientSystem .tcp 1) twoRequests := by
  have hconnect : Reachable (clientSystem .tcp 1) (_onConnect .new) :=
    .step Event.connect (.init Transport.Starts.tcp) trivial
  exact (hconnect.step (readCoil 0 zero_le_address) trivial).step
    (readCoil 8 eight_le_address) trivial

/-- An answer with the transaction id of the request that waits. -/
def earlyAnswer : ModbusTCPResponse :=
  { id := 2, protocol := 0, bodyLength := 4, unitId := 1,
    body := .readCoils { values := .array [true], numberOfBytes := 1, valuesAsArray := [true],
                         valuesAsBuffer := [1] } }

theorem drainedBy_of_mismatch_twoRequests :
    ∃ u c', ModbusTCPClientRequestHandler.handle twoRequests (some earlyAnswer) = (c', .ok ()) ∧
      DrainedBy .tcp 1 twoRequests u .outOfSync c' :=
  ⟨_, @drainedBy_of_mismatch .tcp 1 twoRequests reachable_twoRequests _ rfl earlyAnswer _
    (.id (by decide))⟩

/-! ## Closing the connection -/

namespace MBClientRequestHandler

variable {finished : List (UserRequest ρ)} {c : MBClientRequestHandler ρ ω} {u : UserRequest ρ}

/-- The change of state settles no promise. -/
theorem settled_state (log : List (Action ρ ω)) (s : ConnectionState) (u : UserRequest ρ) :
    Settled (log ++ [.state s]) u ↔ Settled log u :=
  (settled_concat ..).trans (or_iff_left fun h => nomatch h)

theorem Accounted.log_onClose (h : Accounted finished c) :
    c._onClose.log =
      c.log ++ [.state .offline] ++ c._currentRequest.toList.map closed ++
        c._requests.map drained := by
  rw [onClose_eq h.timers]
  simp

/-- The request under way is rejected as offline. -/
theorem Accounted.rejectedWith_onClose_current (h : Accounted finished c)
    (hu : u ∈ c._currentRequest.toList) (hunsettled : ¬ Settled c.log u) :
    RejectedWith c._onClose.log u .offline := by
  rw [h.log_onClose]
  refine RejectedWith.append ⟨closedError u, rfl, ?_⟩ _
  exact settledBy_map (f := closed) (fun _ => rfl) hu fun hs =>
    hunsettled ((settled_state ..).mp hs)

/-- The requests of the queue are rejected as out of sync. -/
theorem Accounted.rejectedWith_onClose_queue (h : Accounted finished c) (hu : u ∈ c._requests) :
    RejectedWith c._onClose.log u .outOfSync := by
  rw [h.log_onClose]
  refine rejectedWith_drained hu ?_
  rw [settled_append, settled_state]
  rintro (hsettled | hsettled)
  · exact h.waiting u hu hsettled
  · -- what is settled there is the request under way
    obtain ⟨a, ha, hau⟩ := List.mem_filterMap.mp hsettled
    obtain ⟨v, hv, rfl⟩ := List.mem_map.mp ha
    obtain rfl := Option.some.inj hau
    exact h.current_not_mem (Option.mem_toList.mp hv) hu

end MBClientRequestHandler

/-- What is asked of the event `close`: every promise that is not settled is rejected as
offline, no timer is left, and the handler is offline with nothing pending. -/
structure ClosedOffline (c : ModbusTCPClientRequestHandler) : Prop where
  rejected : ∀ u ∈ registrations c.log, ¬ Settled c.log u →
    RejectedWith c._onClose.log u .offline
  timers : c._onClose.timers = []
  state : c._onClose._state = .offline
  pending : c._onClose.pending = []

/-- Closing the connection fails everything that is pending as offline if and only if no request
waits in the queue: those are rejected as out of sync. -/
theorem closedOffline_iff (unitId : Int) {c : ModbusTCPClientRequestHandler}
    (h : Reachable (clientSystem .tcp unitId) c) : ClosedOffline c ↔ c._requests = [] := by
  obtain ⟨⟨finished, haccounted⟩, -, -⟩ : Inv c := inv_reachable h
  have hclose := onClose_eq haccounted.timers
  constructor
  · intro hclosed
    rw [List.eq_nil_iff_forall_not_mem]
    intro u hu
    have hregistered : u ∈ registrations c.log := by
      rw [haccounted.registrations]
      exact List.mem_append_right _ (List.mem_append_right _ hu)
    -- the promise is rejected once, and that is done by draining the queue
    have hoffline := hclosed.rejected u hregistered (haccounted.waiting u hu)
    exact absurd (hoffline.unique (haccounted.rejectedWith_onClose_queue hu)) (by decide)
  · intro hrequests
    refine ⟨?_, by rw [hclose], by rw [hclose], by rw [hclose]; rfl⟩
    intro u hu hunsettled
    rw [haccounted.registrations, pending, hrequests, List.append_nil] at hu
    have hcurrent := (List.mem_append.mp hu).resolve_left fun hu =>
      hunsettled (haccounted.settled u hu)
    exact haccounted.rejectedWith_onClose_current hcurrent hunsettled

theorem closedOffline_iff_twoRequests :
    ClosedOffline twoRequests ↔ twoRequests._requests = [] :=
  closedOffline_iff 1 reachable_twoRequests

/-- The request that waits is not failed as offline. -/
theorem not_closedOffline_twoRequests :
    Reachable (clientSystem .tcp 1) twoRequests ∧ ¬ ClosedOffline twoRequests := by
  refine ⟨reachable_twoRequests, fun hclosed => ?_⟩
  obtain ⟨⟨finished, haccounted⟩, -, -⟩ : Inv twoRequests := inv_reachable reachable_twoRequests
  have hwaits : ∃ u, u ∈ twoRequests._requests := ⟨_, List.mem_cons_self ..⟩
  obtain ⟨u, hu⟩ := hwaits
  have hregistered : u ∈ registrations twoRequests.log := by
    rw [haccounted.registrations]
    exact List.mem_append_right _ (List.mem_append_right _ hu)
  have hoffline := hclosed.rejected u hregistered (haccounted.waiting u hu)
  exact absurd (hoffline.unique (haccounted.rejectedWith_onClose_queue hu)) (by decide)

end NodeModbus

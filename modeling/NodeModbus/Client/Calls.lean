import NodeModbus.Client.Connection
import NodeModbus.Request.Encodable

/-!
# The calls of a client

A request method of `MBClient` constructs a request body and registers it. When the
constructor throws, the method returns a promise that is rejected. When the body cannot
be encoded, that is only found out when the request is started.

- `Call`: the methods with their arguments, `Call.apply`: what they do.
- `NeverHalfway`: what is asked of a call.
- `neverHalfway_iff`: a run in which no call fails halfway, and every timer that is
  running is that of a request that was written, is one in which the arguments of every
  call are refused or in range.
-/

namespace NodeModbus

open Buffer Transition

/-! ## The methods -/

/-- A call of a request method. The quantity of `writeMultipleCoils` is for a buffer only. -/
inductive Call where
  | readCoils (start count : Int)
  | readDiscreteInputs (start count : Int)
  | readHoldingRegisters (start count : Int)
  | readInputRegisters (start count : Int)
  | readDeviceIdentification (readDeviceIdCode objectId : Int)
  | writeSingleCoil (address : Int) (value : Bool)
  | writeSingleRegister (address value : Int)
  | writeMultipleCoils (start : Int) (values : CoilValues) (quantity : Int)
  | writeMultipleRegisters (start : Int) (values : RegisterValues)

/-- What a method returns: a promise that is rejected already, or the promise of a request. -/
inductive Returned where
  | rejected (e : Thrown)
  | promise

namespace Call

/-- The request body a method constructs. The contents of `Buffer.allocUnsafe` are the parameter
`unsafeBytes`. -/
def body (unsafeBytes : Nat → UInt8) : Call → Except Thrown RequestBody
  | readCoils start count => (ReadRequestBody.new start count).map .readCoils
  | readDiscreteInputs start count => (ReadRequestBody.new start count).map .readDiscreteInputs
  | readHoldingRegisters start count =>
    (ReadRequestBody.new start count).map .readHoldingRegisters
  | readInputRegisters start count => (ReadRequestBody.new start count).map .readInputRegisters
  | readDeviceIdentification readDeviceIdCode objectId =>
    (ReadDeviceIdentificationRequestBody.new readDeviceIdCode objectId READ_DEVICE_ID_MEI_TYPE
      true).map .readDeviceIdentification
  | writeSingleCoil address value =>
    (WriteSingleCoilRequestBody.new address value).map .writeSingleCoil
  | writeSingleRegister address value =>
    (WriteSingleRegisterRequestBody.new address value).map .writeSingleRegister
  | writeMultipleCoils start (.buffer values) quantity =>
    (WriteMultipleCoilsRequestBody.new unsafeBytes start (.buffer values) (some quantity)).map
      .writeMultipleCoils
  | writeMultipleCoils start (.array values) _ =>
    (WriteMultipleCoilsRequestBody.new unsafeBytes start (.array values) none).map
      .writeMultipleCoils
  | writeMultipleRegisters start values =>
    (WriteMultipleRegistersRequestBody.new start values).map .writeMultipleRegisters

/-- A method of the client of a unit. -/
def apply (w : Transport) (unitId : Int) (unsafeBytes : Nat → UInt8) (c : w.Client) (k : Call) :
    w.Client × Except Thrown Returned :=
  match k.body unsafeBytes with
  | .error e => (c, .ok (.rejected e))
  | .ok requestBody =>
    match w.register unitId c requestBody with
    | (c, .error e) => (c, .error e)
    | (c, .ok ()) => (c, .ok .promise)

/-! ## The arguments that are refused or in range -/

/-- The arguments of a call are refused by the constructor, or they can be encoded. -/
def Sound : Call → Prop
  | readCoils start count => start > 0xFFFF ∨ count > 0x7D0 ∨ (0 ≤ start ∧ 0 ≤ count)
  | readDiscreteInputs start count => start > 0xFFFF ∨ count > 0x7D0 ∨ (0 ≤ start ∧ 0 ≤ count)
  | readHoldingRegisters start count => start > 0xFFFF ∨ count > 0x7D0 ∨ (0 ≤ start ∧ 0 ≤ count)
  | readInputRegisters start count => start > 0xFFFF ∨ count > 0x7D0 ∨ (0 ≤ start ∧ 0 ≤ count)
  | readDeviceIdentification _ _ => True
  | writeSingleCoil address _ => 0 ≤ address
  | writeSingleRegister address value => 0 ≤ address ∨ ¬ IsUInt16 value
  | writeMultipleCoils start (.buffer values) quantity =>
    start > 0xFFFF ∨ values.length > 1968 ∨ 8 * values.length < quantity ∨
      (0 ≤ start ∧ 0 ≤ quantity ∧ quantity ≤ 2040)
  | writeMultipleCoils start (.array values) _ =>
    start > 0xFFFF ∨ values.length > 15744 ∨ (0 ≤ start ∧ values.length ≤ 2040)
  | writeMultipleRegisters start (.array values) =>
    0 ≤ start ∨ values.length > 123 ∨ ∃ v ∈ values, ¬ IsUInt16 v
  | writeMultipleRegisters start (.buffer values) =>
    0 ≤ start ∨ values.length > 246 ∨ values.length % 2 ≠ 0

/-- For these calls, and no others, whatever the constructor makes can be encoded. -/
theorem encodes_iff (unsafeBytes : Nat → UInt8) (k : Call) :
    Encodes RequestBody.createPayload (k.body unsafeBytes) ↔ k.Sound := by
  cases k with
  | readCoils start count =>
    exact (encodes_map_iff ..).trans (ReadRequestBody.encodes_iff .readCoil start count)
  | readDiscreteInputs start count =>
    exact (encodes_map_iff ..).trans
      (ReadRequestBody.encodes_iff .readDiscreteInput start count)
  | readHoldingRegisters start count =>
    exact (encodes_map_iff ..).trans
      (ReadRequestBody.encodes_iff .readHoldingRegisters start count)
  | readInputRegisters start count =>
    exact (encodes_map_iff ..).trans
      (ReadRequestBody.encodes_iff .readInputRegisters start count)
  | readDeviceIdentification readDeviceIdCode objectId =>
    exact (encodes_map_iff ..).trans
      (iff_true_intro (ReadDeviceIdentificationRequestBody.encodes _))
  | writeSingleCoil address value =>
    exact (encodes_map_iff ..).trans (WriteSingleCoilRequestBody.encodes_iff address value)
  | writeSingleRegister address value =>
    exact (encodes_map_iff ..).trans (WriteSingleRegisterRequestBody.encodes_iff address value)
  | writeMultipleCoils start values quantity =>
    cases values with
    | array values =>
      exact (encodes_map_iff ..).trans
        (WriteMultipleCoilsRequestBody.encodes_array_iff unsafeBytes start values)
    | buffer values =>
      exact (encodes_map_iff ..).trans
        (WriteMultipleCoilsRequestBody.encodes_buffer_iff unsafeBytes start values quantity)
  | writeMultipleRegisters start values =>
    cases values with
    | array values =>
      exact (encodes_map_iff ..).trans
        (WriteMultipleRegistersRequestBody.encodes_array_iff start values)
    | buffer values =>
      exact (encodes_map_iff ..).trans
        (WriteMultipleRegistersRequestBody.encodes_buffer_iff start values)

/-- The byte count of a body that can be encoded is a small number. -/
theorem byteCount_range {unsafeBytes : Nat → UInt8} {k : Call} {requestBody : RequestBody}
    {p : Buffer} (hbody : k.body unsafeBytes = .ok requestBody)
    (hp : requestBody.createPayload = .ok p) :
    0 ≤ requestBody.byteCount ∧ requestBody.byteCount ≤ 261 := by
  cases k with
  | writeMultipleCoils start values quantity =>
    have hcoils : ∃ b, WriteMultipleCoilsRequestBody.Constructed b ∧
        RequestBody.writeMultipleCoils b = requestBody := by
      cases values with
      | array values =>
        obtain ⟨b, hb, hmk⟩ := map_eq_ok hbody
        exact ⟨b, .array hb, hmk⟩
      | buffer values =>
        obtain ⟨b, hb, hmk⟩ := map_eq_ok hbody
        exact ⟨b, .buffer hb, hmk⟩
    obtain ⟨b, hb, rfl⟩ := hcoils
    have hbytes := (WriteMultipleCoilsRequestBody.ranges_of_createPayload hp).2.2
    show 0 ≤ b.byteCount ∧ b.byteCount ≤ 261
    rw [hb.byteCount]
    unfold IsUInt8 at hbytes
    omega
  | writeMultipleRegisters start values =>
    obtain ⟨b, hb, rfl⟩ := map_eq_ok hbody
    have hsized : b.Sized b.quantity.toNat :=
      WriteMultipleRegistersRequestBody.Constructed.sized ⟨_, _, hb⟩
    show 0 ≤ b.byteCount ∧ b.byteCount ≤ 261
    rw [hsized.byteCount]
    omega
  | _ =>
    obtain ⟨b, -, rfl⟩ := map_eq_ok hbody
    simp [RequestBody.byteCount]

end Call

/-! ## Requests that can be written -/

namespace MBClientRequestHandler

variable {ρ ω : Type} {M : Messages ρ ω} {c c' : MBClientRequestHandler ρ ω}

/-- Every request that is pending can be encoded, and the ones whose timer is running were
written. -/
structure Writable (M : Messages ρ ω) (c : MBClientRequestHandler ρ ω) : Prop where
  pending : ∀ u ∈ c.pending, ∃ payload, M.createPayload u.request = .ok payload
  written : ∀ u ∈ c.timers, u ∈ writes c.log

/-- Nothing is pending that was not, and no timer is running that was not. -/
theorem Writable.mono (h : Writable M c) (hpending : c'.pending ⊆ c.pending)
    (htimers : c'.timers ⊆ c.timers) (hwrites : writes c.log ⊆ writes c'.log) : Writable M c' :=
  ⟨fun u hu => h.pending u (hpending hu), fun u hu => hwrites (h.written u (htimers hu))⟩

theorem writes_subset_concat (log : List (Action ρ ω)) (a : Action ρ ω) :
    writes log ⊆ writes (log ++ [a]) := by
  rw [writes_concat]
  exact List.subset_append_left ..

theorem Writable.note (h : Writable M c) (a : Action ρ ω) : Writable M (c.note a) :=
  h.mono (List.Subset.refl _) (List.Subset.refl _) (writes_subset_concat ..)

/-- A request is put behind the queue. -/
theorem Writable.push (h : Writable M c) {request : ρ} {payload : Buffer}
    (hpayload : M.createPayload request = .ok payload) : Writable M (c.push request) := by
  refine ⟨fun u hu => ?_, fun u hu => writes_subset_concat _ _ (h.written u hu)⟩
  have hu' : u ∈ c.pending ++ [⟨c.registered, request⟩] := by
    rw [MBClientRequestHandler.pending, List.append_assoc]
    exact hu
  rcases List.mem_append.mp hu' with hu | hu
  · exact h.pending u hu
  · rw [List.mem_singleton.mp hu]
    exact ⟨payload, hpayload⟩

/-- Flushing throws nothing then, and the request that is started is written. -/
theorem Writable.flush (h : Writable M c) :
    Writable M (c._flush M).1 ∧ (c._flush M).2 = .ok () := by
  have hflush := flushed M c
  generalize c._flush M = r at hflush ⊢
  cases hflush with
  | idle _ => exact ⟨h, rfl⟩
  | @rejected u requests hcurrent hrequests _ =>
    refine ⟨h.mono ?_ (List.filter_subset_self ..) (writes_subset_concat ..), rfl⟩
    rw [pending_of_idle hcurrent hrequests]
    show c._currentRequest.toList ++ requests ⊆ u :: requests
    rw [hcurrent]
    exact List.subset_cons_self ..
  | @failed u requests e hcurrent hrequests _ hpayload =>
    -- the request was pending
    have hmem : u ∈ c.pending := by
      rw [pending_of_idle hcurrent hrequests]
      exact List.mem_cons_self ..
    obtain ⟨payload, hpayload'⟩ := h.pending u hmem
    cases hpayload.symm.trans hpayload'
  | @written u requests payload hcurrent hrequests _ _ =>
    refine ⟨⟨?_, fun v hv => ?_⟩, rfl⟩
    · show ∀ v ∈ u :: requests, _
      rw [← pending_of_idle hcurrent hrequests]
      exact h.pending
    · show v ∈ writes (c.log ++ [.written u payload])
      rw [writes_concat]
      rcases List.mem_append.mp hv with hv | hv
      · exact List.mem_append_left _ (h.written v hv)
      · exact List.mem_append_right _ hv

theorem Update.writable (hupdate : Update M c c') (h : Writable M c) : Writable M c' := by
  cases hupdate with
  | note _ _ => exact h.note _
  | @shift u requests hrequests =>
    refine h.mono ?_ (List.Subset.refl _) (List.Subset.refl _)
    rw [MBClientRequestHandler.pending, MBClientRequestHandler.pending, hrequests]
    exact ((List.sublist_cons_self ..).append_left _).subset
  | done u =>
    exact h.mono (List.Subset.refl _) (List.filter_subset_self ..) (List.Subset.refl _)
  | flushes n => exact h.mono (List.Subset.refl _) (List.Subset.refl _) (List.Subset.refl _)
  | flush => exact h.flush.1
  | clearCurrentRequest =>
    cases hcurrent : c._currentRequest with
    | none =>
      rw [_clearCurrentRequest, hcurrent]
      exact h
    | some u =>
      rw [clearCurrentRequest_eq hcurrent]
      exact h.mono (List.subset_append_right ..) (List.filter_subset_self ..)
        (List.Subset.refl _)

/-- With nothing pending there is nothing to write. -/
theorem Inv.writable (h : Inv c) (M : Messages ρ ω) (hpending : c.pending = []) :
    Writable M c := by
  obtain ⟨finished, haccounted⟩ := h.accounted
  have htimers : c.timers = [] := by
    rw [haccounted.timers]
    exact (List.append_eq_nil_iff.mp hpending).1
  constructor
  · rw [hpending]
    exact fun u hu => nomatch hu
  · rw [htimers]
    exact fun u hu => nomatch hu

/-- Online, flushing moves requests that stay pending. -/
theorem pending_flush (M : Messages ρ ω) (hstate : c._state = .online) :
    (c._flush M).1.pending = c.pending := by
  have hflush := flushed M c
  generalize c._flush M = r at hflush ⊢
  cases hflush with
  | idle _ => rfl
  | rejected _ _ hoffline => cases hstate.symm.trans hoffline
  | failed hcurrent hrequests _ _ => exact (pending_of_idle hcurrent hrequests).symm
  | written hcurrent hrequests _ _ => exact (pending_of_idle hcurrent hrequests).symm

/-- A request that can be encoded is registered without complaint. -/
theorem Inv.registerRequest_returns (h : Inv c) {request : ρ} {payload : Buffer}
    (hpayload : M.createPayload request = .ok payload) :
    (c.registerRequest M request).2 = .ok () := by
  rw [MBClientRequestHandler.registerRequest]
  have hflush := flushed M (c.push request)
  generalize (c.push request)._flush M = r at hflush ⊢
  cases hflush with
  | idle _ => rfl
  | rejected _ _ _ => rfl
  | written _ _ _ _ => rfl
  | @failed u requests e hcurrent hqueue _ hfails =>
    -- nothing was waiting, so it is this request that is started
    have hrequests := h.requests_eq_nil hcurrent
    have hfirst : c._requests ++ [⟨c.registered, request⟩] = u :: requests := hqueue
    rw [hrequests] at hfirst
    obtain ⟨rfl, -⟩ := List.cons.inj hfirst
    cases hpayload.symm.trans hfails

end MBClientRequestHandler

open MBClientRequestHandler

/-! ## The request of a call -/

section Request

variable (w : Transport) {unitId : Int}

/-- A request of a unit can be encoded when its body can. -/
theorem Transport.exists_createPayload (hunit : IsUInt8 unitId) (c : w.Client)
    {requestBody : RequestBody} {p : Buffer} (hp : requestBody.createPayload = .ok p)
    (hcount : 0 ≤ requestBody.byteCount ∧ requestBody.byteCount ≤ 261) :
    ∃ payload, w.messages.createPayload (w.request unitId c requestBody) = .ok payload := by
  cases w with
  | tcp =>
    have hid : IsUInt16 ((c._requestId + 1) % 0xFFFF : Nat) := isUInt16_natCast (by omega)
    exact @ModbusTCPRequest.exists_createPayload (Transport.tcp.request unitId c requestBody) p
      hp hid hunit ⟨hcount.1, Int.lt_of_le_of_lt hcount.2 (by decide)⟩
  | rtu crc16modbus =>
    exact ⟨_, @ModbusRTURequest.createPayload_eq crc16modbus
      ((Transport.rtu crc16modbus).request unitId c requestBody) p hp⟩

theorem Transport.exists_payload {c : w.Client} {requestBody : RequestBody} {payload : Buffer}
    (h : w.messages.createPayload (w.request unitId c requestBody) = .ok payload) :
    ∃ p, requestBody.createPayload = .ok p := by
  cases w with
  | tcp =>
    obtain ⟨p, hp, -⟩ := bind_eq_ok.mp h
    exact ⟨p, hp⟩
  | rtu crc16modbus =>
    obtain ⟨p, hp, -⟩ := bind_eq_ok.mp h
    exact ⟨p, hp⟩

/-- Online, a body that is registered is put behind what is pending. -/
theorem Transport.pending_register {c : w.Client} (hstate : c._state = .online) (unitId : Int)
    (requestBody : RequestBody) :
    (w.register unitId c requestBody).1.pending =
      c.pending ++ [⟨c.registered, w.request unitId c requestBody⟩] := by
  have hadvance : (w.advance c)._state = .online ∧ (w.advance c).pending = c.pending ∧
      (w.advance c).registered = c.registered := by
    cases w <;> exact ⟨hstate, rfl, rfl⟩
  obtain ⟨hstate', hpending, hregistered⟩ := hadvance
  rw [w.register_eq, registerRequest,
    pending_flush w.messages (c := (w.advance c).push _) hstate',
    ← hpending, ← hregistered]
  exact (List.append_assoc ..).symm

/-- A body whose request can be encoded is registered without complaint. -/
theorem Transport.register_returns {c : w.Client} (h : Inv c) {requestBody : RequestBody}
    {payload : Buffer}
    (hpayload : w.messages.createPayload (w.request unitId c requestBody) = .ok payload) :
    (w.register unitId c requestBody).2 = .ok () := by
  have hadvance : Inv (w.advance c) := by
    obtain ⟨⟨finished, haccounted⟩, hoccupied, hoffline⟩ := h
    cases w <;> exact ⟨⟨finished, { haccounted with }⟩, hoccupied, hoffline⟩
  rw [w.register_eq]
  exact hadvance.registerRequest_returns hpayload

end Request

/-! ## Calls that do not fail halfway -/

namespace Call

variable {w : Transport} {unitId : Int} {unsafeBytes : Nat → UInt8} {c : w.Client} {k : Call}

/-- What is asked of a call: it returns a promise that is rejected and leaves the handler as
it is, or it puts a request behind those that are pending, one that can be encoded. -/
def Whole (w : Transport) (unitId : Int) (unsafeBytes : Nat → UInt8) (c : w.Client) (k : Call) :
    Prop :=
  (∃ e, k.apply w unitId unsafeBytes c = (c, .ok (.rejected e))) ∨
    ∃ c' u payload, k.apply w unitId unsafeBytes c = (c', .ok .promise) ∧
    c'.pending = c.pending ++ [u] ∧
      w.messages.createPayload u.request = .ok payload

theorem apply_eq_of_error {e : Thrown} (hbody : k.body unsafeBytes = .error e) :
    k.apply w unitId unsafeBytes c = (c, .ok (.rejected e)) := by
  rw [apply, hbody]

theorem apply_eq_of_ok {requestBody : RequestBody}
    (hbody : k.body unsafeBytes = .ok requestBody) :
    k.apply w unitId unsafeBytes c =
      ((w.register unitId c requestBody).1,
        (w.register unitId c requestBody).2.map fun _ => .promise) := by
  rw [apply, hbody]
  dsimp only
  split
  · rename_i h
    rw [h]
    rfl
  · rename_i h
    rw [h]
    rfl

/-- A call to a client that is online is whole if and only if its arguments are refused or in
range. -/
theorem whole_iff (hunit : IsUInt8 unitId) (h : Inv c) (hstate : c._state = .online) :
    k.Whole w unitId unsafeBytes c ↔ k.Sound := by
  rw [← encodes_iff unsafeBytes]
  cases hbody : k.body unsafeBytes with
  | error e => exact iff_of_true (.inl ⟨e, apply_eq_of_error hbody⟩) (encodes_error _ _)
  | ok requestBody =>
    have hpending := w.pending_register hstate unitId requestBody
    rw [encodes_ok_iff, Whole, apply_eq_of_ok hbody]
    constructor
    · rintro (⟨e, hrejected⟩ | ⟨c', u, payload, hpromise, hpending', hpayload⟩)
      · cases hregister : (w.register unitId c requestBody).2 <;>
          rw [hregister] at hrejected <;> cases (Prod.mk.inj hrejected).2
      · -- the request that was put behind the others is the one of the body
        rw [← (Prod.mk.inj hpromise).1, hpending] at hpending'
        obtain rfl := List.head_eq_of_cons_eq (List.append_cancel_left hpending')
        exact w.exists_payload hpayload
    · rintro ⟨p, hp⟩
      obtain ⟨payload, hpayload⟩ := w.exists_createPayload hunit c hp (byteCount_range hbody hp)
      refine .inr ⟨_, _, payload, ?_, hpending, hpayload⟩
      rw [w.register_returns h hpayload]
      rfl

end Call

/-! ## Runs of calls -/

/-- What can happen to a client: a call of the user, or an event that registers no request. -/
inductive CallEvent (w : Transport) where
  | call (unsafeBytes : Nat → UInt8) (k : Call)
  | event (e : Event w)

/-- A call is possible at any time. The other events register nothing. -/
def CallEvent.Allowed {w : Transport} (c : w.Client) : CallEvent w → Prop
  | call _ _ => True
  | event e => e.Allowed c ∧ ∀ requestBody, e ≠ .register requestBody

/-- The client after a call or another event. -/
def CallEvent.next {w : Transport} (unitId : Int) (c : w.Client) : CallEvent w → w.Client
  | call unsafeBytes k => (k.apply w unitId unsafeBytes c).1
  | event e => (e.apply unitId c).1

/-- A client with a user that makes calls, in any order with the other events. -/
def callSystem (w : Transport) (unitId : Int) : System w.Client (CallEvent w) where
  init := w.Starts
  allows := CallEvent.Allowed
  next := CallEvent.next unitId

/-- A client with a user is a client with events. -/
theorem reachable_of_calls {w : Transport} {unitId : Int} {c : w.Client}
    (h : Reachable (callSystem w unitId) c) : Reachable (clientSystem w unitId) c := by
  induction h with
  | init h => exact .init h
  | @step c e _ hallowed ih =>
    cases e with
    | event e => exact ih.step e hallowed.1
    | call unsafeBytes k =>
      show Reachable _ (k.apply w unitId unsafeBytes c).1
      cases hbody : k.body unsafeBytes with
      | error e =>
        rw [Call.apply_eq_of_error hbody]
        exact ih
      | ok requestBody =>
        rw [Call.apply_eq_of_ok hbody]
        exact .step (Event.register requestBody) ih trivial

/-- The calls of a run that are made online. -/
def OnlineCalls {w : Transport} (unitId : Int) (s : w.Client)
    (P : w.Client → (Nat → UInt8) → Call → Prop) : List (CallEvent w) → Prop :=
  Each fun before e => ∀ unsafeBytes k, e = .call unsafeBytes k →
    ((callSystem w unitId).after s before)._state = .online →
      P ((callSystem w unitId).after s before) unsafeBytes k

/-- What is asked of a run: every call that is made online is whole, and after every event
the requests whose timer is running were written. -/
structure NeverHalfway (w : Transport) (unitId : Int) (s : w.Client)
    (events : List (CallEvent w)) : Prop where
  calls : OnlineCalls unitId s (fun c unsafeBytes k => k.Whole w unitId unsafeBytes c) events
  written : ∀ before after, events = before ++ after →
    ∀ u ∈ ((callSystem w unitId).after s before).timers,
      u ∈ writes ((callSystem w unitId).after s before).log

/-- Every step keeps the requests of a client ones that can be written, when a call that is
made online has arguments that are refused or in range. -/
theorem writable_next {w : Transport} {unitId : Int} (hunit : IsUInt8 unitId) {c : w.Client}
    (hinv : Inv c) (h : Writable w.messages c) (e : CallEvent w) (hallowed : e.Allowed c)
    (hsound : ∀ unsafeBytes k, e = .call unsafeBytes k → c._state = .online → k.Sound) :
    Writable w.messages (e.next unitId c) := by
  cases e with
  | call unsafeBytes k =>
    show Writable w.messages (k.apply w unitId unsafeBytes c).1
    cases hbody : k.body unsafeBytes with
    | error e =>
      rw [Call.apply_eq_of_error hbody]
      exact h
    | ok requestBody =>
      rw [Call.apply_eq_of_ok hbody]
      show Writable w.messages (w.register unitId c requestBody).1
      cases hstate : c._state with
      | offline =>
        -- the request is rejected at once
        have hregister := inv_register w unitId hinv requestBody
        refine hregister.writable w.messages (hregister.offline ?_)
        rw [(quiet_register w unitId c requestBody).state, hstate]
      | online =>
        obtain ⟨p, hp⟩ := (Call.encodes_iff unsafeBytes k).mpr (hsound _ _ rfl hstate) _ hbody
        obtain ⟨payload, hpayload⟩ :=
          w.exists_createPayload hunit c hp (Call.byteCount_range hbody hp)
        have hadvance : Writable w.messages (w.advance c) := by
          cases w <;> exact h.mono (List.Subset.refl _) (List.Subset.refl _)
            (List.Subset.refl _)
        rw [w.register_eq]
        exact (hadvance.push hpayload).flush.1
  | event e =>
    show Writable w.messages (e.apply unitId c).1
    have hstate : ∀ (a : Action w.Request w.Response) (s : ConnectionState),
        Writable w.messages ({ c with _state := s }.note a) := fun _ _ =>
      h.mono (List.Subset.refl _) (List.Subset.refl _) (writes_subset_concat ..)
    cases e with
    | register requestBody => exact absurd rfl (hallowed.2 requestBody)
    | connect => exact hstate _ .online
    | close =>
      cases w with
      | tcp =>
        exact Updates.invariant Update.writable (updates_onClose tcpMessages c)
          (hstate _ .offline)
      | rtu crc16modbus => exact h
    | _ => exact Updates.invariant Update.writable (updates_apply unitId c trivial) h

/-- In a run whose calls have such arguments, every request that is started is written. -/
theorem writable_after {w : Transport} {unitId : Int} (hunit : IsUInt8 unitId) {s : w.Client}
    (hs : w.Starts s) {events : List (CallEvent w)} (hrun : (callSystem w unitId).Runs s events)
    (hsound : OnlineCalls unitId s (fun _ _ k => k.Sound) events) :
    Writable w.messages ((callSystem w unitId).after s events) := by
  induction events using List.reverseRecOn with
  | nil =>
    have hpending : s.pending = [] := by cases hs <;> rfl
    have hinit : Reachable (clientSystem w unitId) s := .init hs
    have hinv : Inv s := inv_reachable hinit
    exact hinv.writable w.messages hpending
  | append_singleton events e ih =>
    obtain ⟨hevents, hallowed⟩ := each_concat.mp hrun
    obtain ⟨hsounds, hlast⟩ := each_concat.mp hsound
    have hinv : Inv ((callSystem w unitId).after s events) :=
      inv_reachable (reachable_of_calls (System.Runs.reachable hevents hs))
    rw [System.after_concat]
    exact writable_next hunit hinv (ih hevents hsounds) e hallowed hlast

/-- In a run of a client of a unit, no call fails halfway and no request is started that is
not written, if and only if the arguments of every call that is made online are refused or
in range. -/
theorem neverHalfway_iff (w : Transport) {unitId : Int} (hunit : IsUInt8 unitId) {s : w.Client}
    (hs : w.Starts s) {events : List (CallEvent w)}
    (hrun : (callSystem w unitId).Runs s events) :
    NeverHalfway w unitId s events ↔ OnlineCalls unitId s (fun _ _ k => k.Sound) events := by
  have hwhole : ∀ before e after, events = before ++ e :: after → ∀ unsafeBytes (k : Call),
      ((callSystem w unitId).after s before)._state = .online →
        (k.Whole w unitId unsafeBytes ((callSystem w unitId).after s before) ↔ k.Sound) := by
    rintro before e after rfl unsafeBytes k hstate
    have hbefore : (callSystem w unitId).Runs s before := Each.of_append (r := e :: after) hrun
    exact Call.whole_iff hunit
      (inv_reachable (reachable_of_calls (hbefore.reachable hs))) hstate
  constructor
  · rintro ⟨hcalls, -⟩ before e after hevents unsafeBytes k he hstate
    exact (hwhole before e after hevents unsafeBytes k hstate).mp
      (hcalls before e after hevents unsafeBytes k he hstate)
  · intro hsound
    constructor
    · intro before e after hevents unsafeBytes k he hstate
      exact (hwhole before e after hevents unsafeBytes k hstate).mpr
        (hsound before e after hevents unsafeBytes k he hstate)
    · rintro before after rfl
      have hbefore := writable_after hunit hs (Each.of_append (r := after) hrun)
        (Each.of_append (r := after) hsound)
      exact hbefore.written

/-- A connection, and one call. -/
def oneCall (k : Call) : List (CallEvent .tcp) := [.event .connect, .call (fun _ => 0) k]

theorem runs_oneCall (k : Call) : (callSystem .tcp 1).Runs .new (oneCall k) := by
  have hconnect : @CallEvent.Allowed .tcp .new (.event .connect) :=
    ⟨trivial, fun _ h => nomatch h⟩
  exact each_concat (l := [_]).mpr ⟨each_concat (l := []).mpr ⟨each_nil _, hconnect⟩, trivial⟩

/-- A read, and a write that is called while the read is under way. -/
theorem neverHalfway_iff_readCoils :
    NeverHalfway .tcp 1 .new
        (oneCall (.readCoils 0 1) ++ [.call (fun _ => 0) (.writeSingleRegister 1 7)]) ↔
      OnlineCalls 1 .new (fun _ _ k => k.Sound)
        (oneCall (.readCoils 0 1) ++ [.call (fun _ => 0) (.writeSingleRegister 1 7)]) :=
  neverHalfway_iff .tcp (by decide) .tcp (each_concat.mpr ⟨runs_oneCall _, trivial⟩)

/-- The constructor accepts a negative start, and the call throws when its timer is running. -/
theorem not_neverHalfway_negative :
    (callSystem .tcp 1).Runs .new (oneCall (.readCoils (-1) 1)) ∧
      ¬ NeverHalfway .tcp 1 .new (oneCall (.readCoils (-1) 1)) := by
  refine ⟨runs_oneCall _, ?_⟩
  rintro ⟨-, hwritten⟩
  have hstarted := hwritten (oneCall (.readCoils (-1) 1)) [] rfl _ (List.mem_singleton.mpr rfl)
  cases hstarted

end NodeModbus

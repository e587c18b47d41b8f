import NodeModbus.Client.ModbusClient
import NodeModbus.Client.RtuExceptions

/-!
# Exceptions in answer to a request

What the client makes of the frame of an exception for its request under way: the
bytes go through the response handler, the loop of `_onData` and the request handler.

- `Transport.exception`: the exception to a request, as it is received.
- `onData_exception`: the frame is decoded, and the request handler gets it, but for an
  RTU frame in the short layout of function code 43.
- `handle_exception`: what the request handler does.
- `settlesException_iff`: the request is settled and the next one starts if and only if
  the code is a known one, the frame is not one of those, the promise is not settled
  before, and the next request can be encoded.
-/

namespace NodeModbus

open Buffer Words Transition MBClientRequestHandler

namespace Transport

/-- An exception to a request, as it is received: with the ids of the request, or with the
CRC of its bytes. -/
def exception : (w : Transport) → Int → w.Request → ExceptionResponseBody → w.Response
  | tcp, unitId, request, b =>
    { id := request.id, protocol := 0x00, bodyLength := b.byteCount + 1, unitId,
      body := .exception b : ModbusTCPResponse }
  | rtu crc16modbus, address, _, b =>
    { address, crc := some ((crc16modbus (toByte address :: b.bytes)).toNat : Int),
      body := .exception b : ModbusRTUResponse }

/-- The bytes of a response. -/
def responsePayload : (w : Transport) → w.Response → Except Thrown Buffer
  | tcp => ModbusTCPResponse.createPayload
  | rtu crc16modbus => ModbusRTUResponse.createPayload crc16modbus

/-- The exception is one whose RTU frame has no end of its own. -/
def Undelimited : (w : Transport) → ExceptionResponseBody → Prop
  | tcp, _ => False
  | rtu _, b => b.fc = .readDeviceIdentification ∧ b.meiType = none

end Transport

/-! ## The request handler -/

namespace MBClientRequestHandler

variable {ρ ω : Type} {M : Messages ρ ω} {c : MBClientRequestHandler ρ ω} {u : UserRequest ρ}

/-- The error of `handle` for an exception. -/
def exceptionError (M : Messages ρ ω) (u : UserRequest ρ) (response : ω)
    (b : ExceptionResponseBody) (message : String) : UserRequestError ρ ω :=
  { err := .modbusException,
    message := s!"ModbusException: {message} (Code {b.code}) " ++
      s!"(Device Address {M.responseAddress response})",
    request := some u.request, response := some response }

/-- The common handler and an exception. -/
theorem handle_of_exception (hcurrent : c._currentRequest = some u) {response : ω}
    {b : ExceptionResponseBody} (hbody : M.responseBody response = .exception b) :
    c.handle M (some response) =
      match b.message with
      | .error e => (c, .error e)
      | .ok message =>
        (c.reject u (exceptionError M u response b message))._clearCurrentRequest._flush M := by
  have hexception : ¬ ((ResponseBody.exception b).isException = false ∧
      (ResponseBody.exception b).fc ≠ (M.body u.request).fc) := fun h => nomatch h.1
  simp only [handle, hcurrent, hbody, if_neg hexception]
  rfl

/-- What flushing does when a handler is online and no request is under way: the first
request of the queue, if there is one, is started, and written if it can be encoded. -/
structure Advanced (M : Messages ρ ω) (c : MBClientRequestHandler ρ ω) : Prop where
  returns_iff : (c._flush M).2 = .ok () ↔
    ∀ v ∈ c._requests.head?, ∃ payload, M.createPayload v.request = .ok payload
  current : (c._flush M).1._currentRequest = c._requests.head?
  timers : (c._flush M).1.timers = c.timers ++ c._requests.head?.toList
  log : ∃ added, (c._flush M).1.log = c.log ++ added
  written : (c._flush M).2 = .ok () → ∀ v ∈ c._requests.head?, v ∈ writes (c._flush M).1.log

theorem advanced_flush (M : Messages ρ ω) (hcurrent : c._currentRequest = none)
    (hstate : c._state = .online) : Advanced M c := by
  cases hrequests : c._requests with
  | nil =>
    have hflush : c._flush M = (c, .ok ()) := by rw [_flush, hcurrent, hrequests]
    constructor <;> simp [hflush, hrequests, hcurrent]
  | cons v requests =>
    have hflush := @flush_online _ _ c v M hcurrent requests hrequests hstate
    -- the request is under way before it is known whether it can be encoded
    cases hpayload : M.createPayload v.request with
    | error e =>
      rw [hpayload] at hflush
      constructor <;> simp [hflush, hrequests, hpayload, start]
    | ok payload =>
      rw [hpayload] at hflush
      constructor <;>
        simp [hflush, hrequests, hpayload, start, note, writes_concat, Action.writes]

/-- A request under way is rejected and cleared: the handler is online, and goes on with its
queue. -/
theorem Inv.advanced_reject (h : Inv c) (hcurrent : c._currentRequest = some u)
    (err : UserRequestError ρ ω) :
    Advanced M (c.reject u err)._clearCurrentRequest ∧
      (c.reject u err)._clearCurrentRequest._requests = c._requests ∧
      (c.reject u err)._clearCurrentRequest.timers = [] ∧
      (c.reject u err)._clearCurrentRequest.log = c.log ++ [.rejected u err] := by
  obtain ⟨finished, haccounted⟩ := h.accounted
  have hstate := h.online_of_current hcurrent
  have hclear : (c.reject u err)._clearCurrentRequest =
      { (c.reject u err).done u with _currentRequest := none } :=
        clearCurrentRequest_eq hcurrent
  rw [hclear]
  refine ⟨advanced_flush M rfl hstate, rfl, ?_, rfl⟩
  show c.timers.filter (fun v => v.key ≠ u.key) = []
  rw [haccounted.timers, hcurrent]
  simp

end MBClientRequestHandler

/-! ## The response handler -/

theorem ExceptionResponseBody.byteCount_eq (b : ExceptionResponseBody) :
    b.byteCount = (b.bytes.length : Nat) := by
  unfold byteCount bytes
  cases b.meiType <;> rfl

section

variable {b : ExceptionResponseBody} {frame : Buffer}

/-- Over TCP the length field says where the exception ends. -/
theorem handleData_exception_tcp {unitId : Int} {request : ModbusTCPRequest}
    (hcode : IsUInt8 b.code)
    (hmei : ∀ m ∈ b.meiType, b.fc = .readDeviceIdentification ∧ IsUInt8 m)
    (hframe : (Transport.tcp.exception unitId request b).createPayload = .ok frame) :
    ModbusTCPClientResponseHandler.handleData .new frame =
      ⟨[], [Transport.tcp.exception unitId request b]⟩ := by
  have hp := ResponseBody.exception_decodesTo hcode hmei
  have hlength : (Transport.tcp.exception unitId request b).bodyLength = b.bytes.length + 1 :=
    congrArg (· + 1) b.byteCount_eq
  have hdecoded := hp.decoded [] fun _ => rfl
  rw [List.append_nil] at hdecoded
  obtain ⟨hfrom, hlen⟩ :=
    ModbusTCPResponse.fromBuffer_encoded hp.payload hlength hframe hdecoded []
  rw [List.append_nil] at hfrom
  have hnil : ModbusTCPClientResponseHandler.drain [] = ([], []) :=
    ModbusTCPClientResponseHandler.drain_wait rfl
  have hdrain :=
    ModbusTCPClientResponseHandler.drain_spec.accept (n := frame.length) ⟨hfrom, ?_⟩
  · rw [List.drop_length, hnil] at hdrain
    show ModbusTCPClientResponseHandler.mk (ModbusTCPClientResponseHandler.drain frame).2
      (ModbusTCPClientResponseHandler.drain frame).1 = _
    rw [hdrain]
    rfl
  · show (Transport.tcp.exception unitId request b).bodyLength + 6 = _
    rw [hlength, hlen]
    omega

/-- Over RTU the exception has to end on its own. -/
theorem handleData_exception_rtu (crc16modbus : Buffer → UInt16) {address : Int}
    {request : ModbusRTURequest} (hcode : IsUInt8 b.code)
    (hmei : ∀ m ∈ b.meiType, b.fc = .readDeviceIdentification ∧ IsUInt8 m)
    (hframe : ((Transport.rtu crc16modbus).exception address request b).createPayload
      crc16modbus = .ok frame) :
    ((Transport.rtu crc16modbus).Undelimited b →
      ModbusRTUClientResponseHandler.handleData .new frame = ⟨frame, []⟩) ∧
    (¬ (Transport.rtu crc16modbus).Undelimited b →
      ModbusRTUClientResponseHandler.handleData .new frame =
        ⟨[], [(Transport.rtu crc16modbus).exception address request b]⟩) := by
  let f : SentResponse crc16modbus :=
    { response := (Transport.rtu crc16modbus).exception address request b, payload := frame,
      sendable := .built (.exception hcode hmei), encoded := hframe }
  have hdata : ModbusRTUClientResponseHandler.handleData .new frame =
      ⟨(ModbusRTUClientResponseHandler.drain frame).2,
        (ModbusRTUClientResponseHandler.drain frame).1⟩ := rfl
  rw [hdata]
  constructor
  · intro hundelimited
    obtain ⟨a, x, lo, hi, hpayload⟩ := f.exists_legacy hundelimited
    have hnone := SentResponse.fromBuffer_legacy a x lo hi []
    rw [← hpayload] at hnone
    rw [ModbusRTUClientResponseHandler.drain_spec.wait hnone]
  · intro hdelimited
    obtain ⟨r, hr, hdrain⟩ := f.drain_append hdelimited []
    have hnil : ModbusRTUClientResponseHandler.drain [] = ([], []) :=
      ModbusRTUClientResponseHandler.drain_spec.wait ModbusRTUResponse.fromBuffer_nil
    rw [List.append_nil, hnil] at hdrain
    obtain ⟨covered, hcovered, hcrc⟩ := hr.crc
    have hp := ResponseBody.exception_decodesTo hcode hmei
    have hcount : (ResponseBody.exception b).byteCount = (b.bytes.length : Nat) :=
      b.byteCount_eq
    have hpayload : frame = toByte address :: b.bytes ++
        le16 (crc16modbus (toByte address :: b.bytes)).toNat :=
      (ModbusRTUResponse.createPayload_eq_ok crc16modbus
        (r := (Transport.rtu crc16modbus).exception address request b) hp.payload hcount
        hframe).2
    -- the CRC is that of the bytes in front of it
    obtain rfl : covered = toByte address :: b.bytes :=
      (List.append_inj' (hcovered.symm.trans hpayload) rfl).1
    have hbody := eq_exception_of_readBackAs hr.body
    obtain ⟨address', crc', body'⟩ := r
    obtain rfl : address' = address := hr.address
    obtain rfl : crc' = some ((crc16modbus (toByte address' :: b.bytes)).toNat : Int) := hcrc
    obtain rfl : body' = .exception b := hbody
    rw [hdrain]
    rfl

end

/-! ## The client -/

section

variable {w : Transport} {b : ExceptionResponseBody} {frame : Buffer}

/-- The exception comes out of the response handler, when its frame ends on its own. -/
theorem handleData_exception {unitId : Int} {request : w.Request} (hcode : IsUInt8 b.code)
    (hmei : ∀ m ∈ b.meiType, b.fc = .readDeviceIdentification ∧ IsUInt8 m)
    (hframe : w.responsePayload (w.exception unitId request b) = .ok frame) :
    (w.Undelimited b → w._messages (w.handleData w.newResponseHandler frame) = []) ∧
    (¬ w.Undelimited b → w.shift (w.handleData w.newResponseHandler frame) =
      (some (w.exception unitId request b), w.newResponseHandler)) := by
  cases w with
  | tcp =>
    have hdata := handleData_exception_tcp hcode hmei hframe
    refine ⟨fun h => h.elim, fun _ => ?_⟩
    exact congrArg ModbusTCPClientResponseHandler.shift hdata
  | rtu crc16modbus =>
    obtain ⟨hundelimited, hdelimited⟩ := handleData_exception_rtu crc16modbus hcode hmei hframe
    refine ⟨fun h => ?_, fun h => ?_⟩
    · exact congrArg ModbusRTUClientResponseHandler._messages (hundelimited h)
    · exact congrArg ModbusRTUClientResponseHandler.shift (hdelimited h)

/-- The request handler of the transport passes the exception on to the common one. -/
theorem handle_exception {c : w.Client} {u : UserRequest w.Request} (hcode : IsUInt8 b.code)
    (hmei : ∀ m ∈ b.meiType, b.fc = .readDeviceIdentification ∧ IsUInt8 m)
    (hcurrent : c._currentRequest = some u) (unitId : Int) :
    w.handle c (some (w.exception unitId u.request b)) =
      match b.message with
      | .error e => (c, .error e)
      | .ok message =>
        (c.reject u (exceptionError w.messages u (w.exception unitId u.request b) b
          message))._clearCurrentRequest._flush w.messages := by
  cases w with
  | tcp =>
    refine (ModbusTCPClientRequestHandler.handle_of_header hcurrent rfl rfl).trans ?_
    exact handle_of_exception hcurrent rfl
  | rtu crc16modbus =>
    have hbytes : ModbusRTUResponse.checkedBytes
      ((Transport.rtu crc16modbus).exception unitId u.request b) =
        .ok (toByte unitId :: b.bytes) :=
      bind_eq_ok.mpr ⟨b.bytes, (ResponseBody.exception_decodesTo hcode hmei).payload, rfl⟩
    refine (ModbusRTUResponse.handle_eq_of_checkedBytes crc16modbus hbytes hcurrent).trans ?_
    exact (if_pos rfl).trans (handle_of_exception hcurrent rfl)

/-- A client that waits for the first byte of a response, and gets the frame of an exception. -/
theorem onData_exception {c : MBClient w} {u : UserRequest w.Request}
    (hidle : c._responseHandler = w.newResponseHandler) (hcode : IsUInt8 b.code)
    (hmei : ∀ m ∈ b.meiType, b.fc = .readDeviceIdentification ∧ IsUInt8 m)
    (hframe : w.responsePayload (w.exception c.unitId u.request b) = .ok frame) :
    (w.Undelimited b → (c._onData frame).1._requestHandler = c._requestHandler) ∧
    (¬ w.Undelimited b → c._onData frame =
      let handled := w.handle c._requestHandler (some (w.exception c.unitId u.request b))
      ({ c with _requestHandler := handled.1 }, handled.2)) := by
  obtain ⟨hundelimited, hdelimited⟩ := handleData_exception hcode hmei hframe
  rw [← hidle] at hundelimited hdelimited
  constructor
  · intro h
    rw [MBClient._onData, MBClient.exec_nil (hundelimited h)]
  · intro h
    let d : MBClient w := { c with _responseHandler := w.handleData c._responseHandler frame }
    have hdata : w.shift d._responseHandler = _ := hdelimited h
    have hunit : c.unitId = w.responseUnitId (w.exception c.unitId u.request b) := by
      cases w <;> rfl
    cases hhandle : w.handle c._requestHandler (some (w.exception c.unitId u.request b)) with
    | mk requestHandler result =>
      cases result with
      | error e => exact MBClient.exec_thrown hdata hunit hhandle
      | ok _ =>
        refine (MBClient.exec_handled hdata hunit hhandle).trans (MBClient.exec_nil ?_)
        show w._messages c._responseHandler = []
        rw [hidle]
        cases w <;> rfl

/-- What is asked of a data event with the frame of an exception to the request `u` under
way: it returns, the promise of `u` is rejected with the exception, its timer is cancelled,
and the next request is under way and written. -/
structure SettlesException (c : MBClient w) (u : UserRequest w.Request) (response : w.Response)
    (frame : Buffer) : Prop where
  returns : (c._onData frame).2 = .ok ()
  rejected : ¬ Settled c._requestHandler.log u ∧ ∃ err, err.err = .modbusException ∧
    err.response = some response ∧
    SettledBy (c._onData frame).1._requestHandler.log u (.rejected u err)
  timer : u ∉ (c._onData frame).1._requestHandler.timers
  next : (c._onData frame).1._requestHandler._currentRequest =
    c._requestHandler._requests.head? ∧ ∀ v ∈ c._requestHandler._requests.head?,
    v ∈ writes (c._onData frame).1._requestHandler.log

/-- An exception to the request under way settles it if and only if its code is one of those
with a message, its frame ends on its own, the promise is not settled before, and the next
request can be encoded. -/
theorem settlesException_iff {c : MBClient w}
    (h : Reachable (clientSystem w c.unitId) c._requestHandler)
    (hidle : c._responseHandler = w.newResponseHandler) {u : UserRequest w.Request}
    (hcurrent : c._requestHandler._currentRequest = some u) (hcode : IsUInt8 b.code)
    (hmei : ∀ m ∈ b.meiType, b.fc = .readDeviceIdentification ∧ IsUInt8 m)
    (hframe : w.responsePayload (w.exception c.unitId u.request b) = .ok frame) :
    SettlesException c u (w.exception c.unitId u.request b) frame ↔
      isErrorCode b.code = true ∧ ¬ w.Undelimited b ∧ ¬ Settled c._requestHandler.log u ∧
      ∀ v ∈ c._requestHandler._requests.head?, ∃ payload,
        w.messages.createPayload v.request = .ok payload := by
  have hinv := inv_reachable h
  obtain ⟨finished, haccounted⟩ := hinv.accounted
  have htimers : c._requestHandler.timers = [u] := by rw [haccounted.timers, hcurrent]; rfl
  obtain ⟨hlost, hdata⟩ := onData_exception hidle hcode hmei hframe
  by_cases hundelimited : w.Undelimited b
  · -- nothing comes out, and the timer is running on
    refine iff_of_false (fun hsettles => ?_) fun hcond => hcond.2.1 hundelimited
    have htimer := hsettles.timer
    rw [hlost hundelimited, htimers] at htimer
    exact htimer (List.mem_singleton.mpr rfl)
  · have hdata := hdata hundelimited
    rw [handle_exception hcode hmei hcurrent] at hdata
    cases hmessage : b.message with
    | error e =>
      rw [hmessage] at hdata
      have hunknown : isErrorCode b.code ≠ true := by
        intro hknown
        rw [ExceptionResponseBody.message, errorCodeToMessage, if_pos hknown] at hmessage
        cases hmessage
      refine iff_of_false (fun hsettles => ?_) fun hcond => hunknown hcond.1
      have hreturns := hsettles.returns
      rw [hdata] at hreturns
      cases hreturns
    | ok message =>
      rw [hmessage] at hdata
      have hknown : isErrorCode b.code = true := by
        by_contra hunknown
        rw [ExceptionResponseBody.message, errorCodeToMessage, if_neg hunknown] at hmessage
        cases hmessage
      -- the promise is rejected, and the handler goes on with what is left
      obtain ⟨⟨hreturns, hnext, hrunning, ⟨added, hlog⟩, hwritten⟩, hrequests, hcleared,
        hfirst⟩ :=
        hinv.advanced_reject (M := w.messages) hcurrent
          (exceptionError w.messages u (w.exception c.unitId u.request b) b message)
      rw [hrequests] at hreturns hnext hrunning hwritten
      constructor
      · intro hsettles
        refine ⟨hknown, hundelimited, hsettles.rejected.1, hreturns.mp ?_⟩
        have hcall := hsettles.returns
        rw [hdata] at hcall
        exact hcall
      · rintro ⟨-, -, hunsettled, hencoded⟩
        have hcall := hreturns.mpr hencoded
        refine ⟨?_, ⟨hunsettled,
          exceptionError w.messages u (w.exception c.unitId u.request b) b message, rfl, rfl,
          ?_⟩, ?_, ?_, ?_⟩ <;> rw [hdata]
        · exact hcall
        · dsimp only
          rw [hlog, hfirst]
          exact (settledBy_concat (a := .rejected u _) rfl hunsettled).append _
        · dsimp only
          rw [hrunning, hcleared, List.nil_append]
          intro hmem
          exact haccounted.current_not_mem hcurrent
            (List.mem_of_mem_head? (Option.mem_toList.mp hmem))
        · exact hnext
        · exact hwritten hcall

/-- A client that waits for the answer to the first of two requests. -/
def waitingClient : MBClient .tcp :=
  { unitId := 1, _requestHandler := twoRequests, _responseHandler := .new }

/-- The request it waits for. -/
def awaitedRequest : UserRequest ModbusTCPRequest :=
  { key := 0, request := { id := 1, protocol := 0, length := 6, unitId := 1,
                           body := .readCoils ⟨0, 1, zero_le_address, one_le_count⟩ } }

theorem settlesException_iff_illegalAddress :
    SettlesException waitingClient awaitedRequest
        (Transport.tcp.exception 1 awaitedRequest.request
          { fc := .readCoil, code := 2, meiType := none })
        [0, 1, 0, 0, 0, 3, 1, 0x81, 2] ↔
      isErrorCode 2 = true ∧
      ¬ Transport.tcp.Undelimited { fc := .readCoil, code := 2, meiType := none } ∧
      ¬ Settled waitingClient._requestHandler.log awaitedRequest ∧
      ∀ v ∈ waitingClient._requestHandler._requests.head?, ∃ payload,
        Transport.tcp.messages.createPayload v.request = .ok payload :=
  @settlesException_iff .tcp { fc := .readCoil, code := 2, meiType := none } _ waitingClient
    reachable_twoRequests rfl awaitedRequest rfl (by decide) (fun _ hm => nomatch hm) rfl

/-- The code 7 has no message: the data event throws. -/
theorem not_settlesException_unknown :
    Reachable (clientSystem .tcp 1) waitingClient._requestHandler ∧
      waitingClient._requestHandler._currentRequest = some awaitedRequest ∧
      Transport.tcp.responsePayload
          (Transport.tcp.exception 1 awaitedRequest.request
            { fc := .readCoil, code := 7, meiType := none }) =
        .ok [0, 1, 0, 0, 0, 3, 1, 0x81, 7] ∧
      ¬ SettlesException waitingClient awaitedRequest
        (Transport.tcp.exception 1 awaitedRequest.request
          { fc := .readCoil, code := 7, meiType := none }) [0, 1, 0, 0, 0, 3, 1, 0x81, 7] := by
  refine ⟨reachable_twoRequests, rfl, rfl, fun hsettles => ?_⟩
  have hthrows : (waitingClient._onData [0, 1, 0, 0, 0, 3, 1, 0x81, 7]).2 =
    .error (.error "") := rfl
  have hreturns := hsettles.returns
  rw [hthrows] at hreturns
  cases hreturns

end

end NodeModbus

import NodeModbus.BufferUtils
import NodeModbus.Response.Frame

/-!
# The server's response handler

`ModbusServerResponseHandler` serves one request from the tables of its server.
The tables are buffers in memory, which the server refers to, so that two tables
may be the same buffer. A server without user listeners: an event that is
emitted does nothing.

- `Heap`, `ModbusServer`: the buffers and the references to them.
- `Responder`: what the handler uses of a request class and of the response class
  it answers with.
- `maskedByte_eq`, `getElem?_replaceStatus`: what the two coil writes do to the bits.
- `coilByCoil`: the table that is written by way of boolean arrays.
- `handle`: the memory it leaves, and the payload it gives to the callback, if
  there is one, or what it throws.
-/

namespace NodeModbus

open Buffer

/-! ## Tables -/

/-- A reference to a buffer. -/
abbrev Ref := Nat

/-- The buffers in memory. -/
abbrev Heap := Ref → Buffer

/-- Replace the contents of a buffer. -/
def Heap.write (heap : Heap) (r : Ref) (b : Buffer) :
    Heap := fun r' => if r' = r then b else heap r'

@[simp] theorem Heap.write_self (heap : Heap) (r : Ref) (b : Buffer) :
    heap.write r b r = b := if_pos rfl

/-- The options of a server: its slave id, and its tables, each of which may be missing. -/
structure ModbusServer where
  id : Option Int
  coils : Option Ref
  discrete : Option Ref
  holding : Option Ref
  input : Option Ref

/-- What the handler uses of a request class, and of the response class for it: the payload
of the response `fromRequest` makes of a request and a body. -/
structure Responder (ρ : Type) where
  body : ρ → RequestBody
  respond : ρ → ResponseBody → Except Thrown Buffer

/-- TCP requests and responses. -/
def tcpResponder : Responder ModbusTCPRequest where
  body := ModbusTCPRequest.body
  respond request body := (ModbusTCPResponse.fromRequest request body).createPayload

/-- RTU requests and responses. -/
def rtuResponder (crc16modbus : Buffer → UInt16) : Responder ModbusRTURequest where
  body := ModbusRTURequest.body
  respond request body := (ModbusRTUResponse.fromRequest request body).createPayload crc16modbus

namespace ModbusServerResponseHandler

variable {ρ : Type}

/-- What a call of the handler leaves behind: the memory, and the payload the callback was
called with, or what was thrown. -/
abbrev Outcome := Heap × Except Thrown (Option Buffer)

/-- Answer a request with a body. -/
def answer (R : Responder ρ) (heap : Heap) (request : ρ) (body : Except Thrown ResponseBody) :
    Outcome :=
  (heap, do return some (← R.respond request (← body)))

/-- Store what was computed for a table, and answer with a body. -/
def storeAndAnswer (R : Responder ρ) (heap : Heap) (request : ρ) (table : Ref)
    (newTable : Except Thrown Buffer) (body : ResponseBody) : Outcome :=
  match newTable with
  | .error e => (heap, .error e)
  | .ok b => answer R (heap.write table b) request (.ok body)

/-- Answer a request with an exception. -/
def answerException (R : Responder ρ) (heap : Heap) (request : ρ) (fc : FC) (code : Int)
    (meiType : Option Int) : Outcome :=
  answer R heap request (.ok (.exception { fc, code, meiType }))

/-! ## Reads -/

/-- Function code 1: the coils of the request, or nothing without a table. -/
def _handleReadCoil (R : Responder ρ) (server : ModbusServer) (heap : Heap) (request : ρ)
    (body : ReadCoilsRequestBody) : Outcome :=
  match server.coils with
  | none => (heap, .ok none)
  | some coils =>
    answer R heap request do
      return .readCoils (← ReadBitsResponseBody.fromRequest body (heap coils))

/-- Function code 2: the inputs of the request, or nothing without a table. -/
def _handleDiscreteInput (R : Responder ρ) (server : ModbusServer) (heap : Heap) (request : ρ)
    (body : ReadDiscreteInputsRequestBody) : Outcome :=
  match server.discrete with
  | none => (heap, .ok none)
  | some discrete =>
    answer R heap request do
      return .readDiscreteInputs (← ReadBitsResponseBody.fromRequest body (heap discrete))

/-- Function code 3: the registers of the request, or nothing without a table. -/
def _handleReadHoldingRegisters (R : Responder ρ) (server : ModbusServer) (heap : Heap)
    (request : ρ) (body : ReadHoldingRegistersRequestBody) : Outcome :=
  match server.holding with
  | none => (heap, .ok none)
  | some holding =>
    answer R heap request do
      return .readHoldingRegisters
        (← ReadHoldingRegistersResponseBody.fromRequest body (heap holding))

/-- Function code 4: the registers of the request, or nothing without a table. -/
def _handleReadInputRegisters (R : Responder ρ) (server : ModbusServer) (heap : Heap)
    (request : ρ) (body : ReadInputRegistersRequestBody) : Outcome :=
  match server.input with
  | none => (heap, .ok none)
  | some input =>
    answer R heap request do
      return .readInputRegisters
        (← ReadInputRegistersResponseBody.fromRequest body (heap input))

/-- Without a listener for it, device identification is an illegal function. -/
def _handleReadDeviceIdentification (R : Responder ρ) (heap : Heap) (request : ρ)
    (body : ReadDeviceIdentificationRequestBody) : Outcome :=
  if body.meiType ≠ READ_DEVICE_ID_MEI_TYPE then
    answerException R heap request .readDeviceIdentification 0x01 (some body.meiType)
  else if body.readDeviceIdCode < 0x01 ∨ body.readDeviceIdCode > 0x04 then
    answerException R heap request .readDeviceIdentification 0x03 (some body.meiType)
  else answerException R heap request .readDeviceIdentification 0x01 (some body.meiType)

/-! ## Single writes -/

/-- `oldValue | 2 ** k`, or `oldValue & ~(2 ** k)`, on 32-bit integers. -/
def maskedByte (value : Bool) (oldValue k : Nat) : Int :=
  if value then (BitVec.ofNat 32 oldValue ||| BitVec.ofNat 32 (2 ^ k)).toInt
  else (BitVec.ofNat 32 oldValue &&& ~~~ BitVec.ofNat 32 (2 ^ k)).toInt

/-- The masked byte has the value at bit `k`, and is unchanged elsewhere. -/
theorem maskedByte_eq (value : Bool) (x : UInt8) {k : Nat} (hk : k < 8) :
    maskedByte value x.toNat k =
      (Bits.byte fun j => if j = k then value else x.toNat.testBit j).toNat := by
  -- a byte is the same number on 32 bits, so the two sides are compared bit by bit
  have hbit : ∀ y : UInt8, (BitVec.ofNat 32 y.toNat).toInt = y.toNat := by
    intro y
    have hy := y.toNat_lt
    rw [BitVec.toInt_eq_toNat_of_lt (by rw [BitVec.toNat_ofNat]; omega), BitVec.toNat_ofNat,
      Nat.mod_eq_of_lt (by omega)]
  rw [← hbit, maskedByte]
  have hbyte : ∀ j,
    (Bits.byte fun j => if j = k then value else x.toNat.testBit j).toNat.testBit j =
      if j = k then value else x.toNat.testBit j := by
    intro j
    rcases Nat.lt_or_ge j 8 with hj | hj
    · rw [Bits.testBit_byte _ hj]
    · rw [Bits.testBit_of_eight_le _ hj, if_neg (by omega), Bits.testBit_of_eight_le _ hj]
  cases value with
  | true =>
    rw [if_pos rfl]
    congr 1
    refine BitVec.eq_of_getLsbD_eq ?_
    intro j hj
    rw [BitVec.getLsbD_or, BitVec.getLsbD_ofNat, BitVec.getLsbD_ofNat,
      BitVec.getLsbD_ofNat, hbyte, Nat.testBit_two_pow]
    by_cases hjk : j = k
    · simp [hjk]
      omega
    · have hkj : ¬ k = j := fun h => hjk h.symm
      simp [hjk, hkj]
  | false =>
    rw [if_neg (by decide)]
    congr 1
    refine BitVec.eq_of_getLsbD_eq ?_
    intro j hj
    rw [BitVec.getLsbD_and, BitVec.getLsbD_not, BitVec.getLsbD_ofNat, BitVec.getLsbD_ofNat,
      BitVec.getLsbD_ofNat, hbyte, Nat.testBit_two_pow]
    by_cases hjk : j = k
    · simp [hjk]
    · have hkj : ¬ k = j := fun h => hjk h.symm
      simp [hj, hjk, hkj]

/-- Function code 5: the byte of the coil is read before the address is checked. -/
def _handleWriteSingleCoil (R : Responder ρ) (server : ModbusServer) (heap : Heap) (request : ρ)
    (body : WriteSingleCoilRequestBody) : Outcome :=
  match server.coils with
  | none => (heap, .ok none)
  | some coils =>
    let responseBody := WriteSingleCoilResponseBody.fromRequest body
    let address := body.address
    match (heap coils).readUInt8 (address / 8) with
    | .error e => (heap, .error e)
    | .ok oldValue =>
      -- the getter gives one of the two values, so this answer is not reached
      if body.value ≠ 0xFF00 ∧ body.value ≠ 0x0000 then
        answerException R heap request .writeSingleCoil 0x03 none
      else
        let newValue := maskedByte (body.value = 0xFF00) oldValue (address % 8).toNat
        -- `address / 8 > length` of numbers that are not rounded
        if responseBody._address > 8 * (heap coils).length then
          answerException R heap request .writeSingleCoil 0x02 none
        else
          storeAndAnswer R heap request coils ((heap coils).writeUInt8 newValue (address / 8))
            (.writeSingleCoil responseBody)

/-- Function code 6: the address is compared with the number of bytes. -/
def _handleWriteSingleHoldingRegister (R : Responder ρ) (server : ModbusServer) (heap : Heap)
    (request : ρ) (body : WriteSingleRegisterRequestBody) : Outcome :=
  match server.holding with
  | none => (heap, .ok none)
  | some holding =>
    let responseBody := WriteSingleRegisterResponseBody.fromRequest body
    if responseBody._address * 2 > (heap holding).length then
      answerException R heap request .writeSingleHoldingRegister 0x02 none
    else
      storeAndAnswer R heap request holding
        ((heap holding).writeUInt16BE responseBody._value (responseBody._address * 2))
        (.writeSingleRegister responseBody)

/-! ## Multiple writes -/

/-- The map over the old status, from index `i` on: in the range from `start` to `stop` the
values of the request are taken from their front, as long as there are any. -/
def replaceStatus (start stop : Int) : List Bool → Int → List Bool → List Bool
  | [], _, _ => []
  | byte :: oldStatus, i, requestCoilValues =>
    if i ≥ start ∧ i < stop then
      requestCoilValues.headD byte :: replaceStatus start stop oldStatus
      (i + 1) requestCoilValues.tail
    else byte :: replaceStatus start stop oldStatus (i + 1) requestCoilValues

/-- Behind the range nothing is replaced. -/
theorem replaceStatus_after {start stop i : Int} (h : stop ≤ i) (l values : List Bool) :
    replaceStatus start stop l i values = l := by
  induction l generalizing i with
  | nil => rfl
  | cons byte l ih =>
    have hout : ¬ (i ≥ start ∧ i < stop) := by omega
    rw [replaceStatus, if_neg hout, ih (by omega)]

theorem length_replaceStatus (start stop : Int) (l : List Bool) (i : Int) (values : List Bool) :
    (replaceStatus start stop l i values).length = l.length := by
  induction l generalizing i values with
  | nil => rfl
  | cons byte l ih =>
    rw [replaceStatus]
    split
    · rw [List.length_cons, List.length_cons, ih]
    · rw [List.length_cons, List.length_cons, ih]

/-- At index `k` the values in front of `k - a` are used up, and the map reads on from there. -/
theorem getElem?_replaceStatus_from (a stop : Nat) (l values : List Bool) (k i : Nat) :
    (replaceStatus a stop l k (values.drop (k - a)))[i]? =
      if a ≤ k + i ∧ k + i < stop then l[i]?.map fun byte =>
          values.getD (k + i - a) byte else l[i]? := by
  induction l generalizing k i with
  | nil => simp [replaceStatus]
  | cons byte l ih =>
    rcases Nat.lt_or_ge k stop with hk | hk
    · have hhead : (replaceStatus a stop (byte :: l) k (values.drop (k - a))) =
          (if a ≤ k then values.getD (k - a) byte else byte) ::
            replaceStatus a stop l ((k + 1 : Nat) : Int) (values.drop (k + 1 - a)) := by
        by_cases hak : a ≤ k
        · have hin : (k : Int) ≥ a ∧ (k : Int) < stop := by omega
          rw [replaceStatus, if_pos hin, if_pos hak, List.tail_drop, Nat.succ_sub hak,
            List.headD_eq_head?_getD, List.head?_drop, List.getD_eq_getElem?_getD]
          rfl
        · have hout : ¬ ((k : Int) ≥ a ∧ (k : Int) < stop) := by omega
          rw [replaceStatus, if_neg hout, if_neg hak, show k - a = 0 from by omega,
            show k + 1 - a = 0 from by omega]
          rfl
      rw [hhead]
      cases i with
      | zero =>
        by_cases hak : a ≤ k
        · simp [hak, hk]
        · simp [hak]
      | succ i =>
        rw [List.getElem?_cons_succ, List.getElem?_cons_succ, ih (k + 1) i,
          show k + 1 + i = k + (i + 1) from by omega]
    · rw [replaceStatus_after (by omega), if_neg (by omega)]

/-- What stands where after the map: a place in the range has its value, as far as there is one
for it. -/
theorem getElem?_replaceStatus (a stop : Nat) (l values : List Bool) (i : Nat) :
    (replaceStatus a stop l 0 values)[i]? =
      if a ≤ i ∧ i < stop then l[i]?.map fun byte => values.getD (i - a) byte else l[i]? := by
  have h := getElem?_replaceStatus_from a stop l values 0 i
  rwa [Nat.zero_sub, List.drop_zero, Nat.zero_add] at h

/-- The map puts the values over the window. -/
theorem replaceStatus_eq {a : Nat} {l values : List Bool} (h : a + values.length ≤ l.length)
    (rest : List Bool) :
    replaceStatus a ((a : Int) + values.length) l 0 (values ++ rest) =
      Overwrite.overwrite l a values := by
  refine List.ext_getElem? ?_
  intro i
  rw [← Int.natCast_add, getElem?_replaceStatus, Overwrite.getElem?_overwrite h]
  by_cases hia : i < a
  · rw [if_neg (by omega), if_pos hia]
  · by_cases hin : i < a + values.length
    · have hvalue : i - a < values.length := by omega
      rw [if_pos (by omega), if_neg hia, if_pos hin,
        List.getElem?_eq_getElem (show i < l.length by omega),
        List.getElem?_eq_getElem hvalue, Option.map_some, List.getD_append _ _ _ _ hvalue,
        List.getD_eq_getElem _ _ hvalue]
    · rw [if_neg (by omega), if_neg hia, if_neg hin]

/-- Function code 15: the address is not checked. The whole table is computed anew and
replaced. -/
def _handleWriteMultipleCoils (R : Responder ρ) (server : ModbusServer) (heap : Heap)
    (request : ρ) (body : WriteMultipleCoilsRequestBody) : Outcome :=
  match server.coils with
  | none => (heap, .ok none)
  | some coils =>
    let responseBody := WriteMultipleCoilsResponseBody.fromRequest body
    let start := body.address
    let stop := start + body.quantity
    let newTable : Except Thrown Buffer := do
      let oldStatus ← BufferUtils.bufferToArrayStatus (heap coils)
      let requestCoilValues ← BufferUtils.bufferToArrayStatus body.valuesAsBuffer
      let newStatus := replaceStatus start stop oldStatus 0 requestCoilValues
      (heap coils).fill (← BufferUtils.arrayStatusToBuffer newStatus) 0 (heap coils).length
    storeAndAnswer R heap request coils newTable (.writeMultipleCoils responseBody)

/-- The boolean arrays of the handler, for the coils from `start` up to `stop`. -/
def coilByCoil (start stop : Int) (coils outputs : Buffer) : Except Thrown Buffer := do
  let oldStatus ← BufferUtils.bufferToArrayStatus coils
  let requestCoilValues ← BufferUtils.bufferToArrayStatus outputs
  BufferUtils.arrayStatusToBuffer (replaceStatus start stop oldStatus 0 requestCoilValues)

/-- The handler fills its table with what the arrays give. -/
theorem _handleWriteMultipleCoils_eq (R : Responder ρ) {server : ModbusServer} (heap : Heap)
    (request : ρ) (body : WriteMultipleCoilsRequestBody) {coils : Ref}
    (h : server.coils = some coils) :
    _handleWriteMultipleCoils R server heap request body =
      storeAndAnswer R heap request coils
        (do (heap coils).fill
              (← coilByCoil body.address (body.address + body.quantity) (heap coils)
                body.valuesAsBuffer) 0 (heap coils).length)
        (.writeMultipleCoils (WriteMultipleCoilsResponseBody.fromRequest body)) := by
  simp only [_handleWriteMultipleCoils, h, coilByCoil, bind_assoc]

theorem coilByCoil_eq (start stop : Int) (coils outputs : Buffer) :
    coilByCoil start stop coils outputs =
      .ok (Bits.pack (replaceStatus start stop (Bits.unpack coils) 0
        (Bits.unpack outputs))) := by
  rw [coilByCoil, BufferUtils.bufferToArrayStatus_eq, BufferUtils.bufferToArrayStatus_eq]
  exact BufferUtils.arrayStatusToBuffer_eq _

/-- The coils in the window are the outputs, as far as there are any, and the others are as they
were. -/
theorem exists_coilByCoil (start stop : Nat) (coils outputs : Buffer) :
    ∃ table, coilByCoil start stop coils outputs = .ok table ∧ table.length = coils.length ∧
      ∀ i < 8 * coils.length, Bits.bitAt table i =
        if start ≤ i ∧ i < stop ∧ i < start + 8 * outputs.length then
          Bits.bitAt outputs (i - start)
        else Bits.bitAt coils i := by
  refine ⟨_, coilByCoil_eq start stop coils outputs, ?_, ?_⟩
  · rw [Bits.length_pack, length_replaceStatus, Bits.length_unpack]
    omega
  · intro i hi
    rw [Bits.bitAt_pack, List.getD_eq_getElem?_getD, getElem?_replaceStatus,
      Bits.getElem?_unpack_bitAt hi, Option.map_some]
    by_cases hin : start ≤ i ∧ i < stop
    · rw [if_pos hin, Option.getD_some, List.getD_eq_getElem?_getD]
      by_cases hout : i < start + 8 * outputs.length
      · rw [if_pos ⟨hin.1, hin.2, hout⟩, Bits.getElem?_unpack_bitAt (by omega),
          Option.getD_some]
      · rw [if_neg (by omega), List.getElem?_eq_none (by rw [Bits.length_unpack]; omega),
          Option.getD_none]
    · rw [if_neg hin, Option.getD_some, if_neg (by omega)]

/-- The length of the values as they are given, entries or bytes. -/
def RegisterValues.length : RegisterValues → Nat
  | .array values => values.length
  | .buffer values => values.length

/-- `new Uint8Array(values)`. -/
def RegisterValues.toUint8Array : RegisterValues → Buffer
  | .array values => values.map toByte
  | .buffer values => values

/-- Function code 16: the window has to end inside the table. -/
def _handleWriteMultipleHoldingRegisters (R : Responder ρ) (server : ModbusServer) (heap : Heap)
    (request : ρ) (body : WriteMultipleRegistersRequestBody) : Outcome :=
  match server.holding with
  | none => (heap, .ok none)
  | some holding =>
    -- entries are compared with bytes when the values are an array
    let length := RegisterValues.length body.values
    if body.address * 2 + length > (heap holding).length then
      answerException R heap request .writeMultipleHoldingRegisters 0x02 none
    else
      storeAndAnswer R heap request holding
        ((heap holding).fill (RegisterValues.toUint8Array body.values) (body.address * 2)
          (body.address * 2 + length))
        (.writeMultipleRegisters (WriteMultipleRegistersResponseBody.fromRequest body))

/-! ## The dispatcher -/

/-- The method `handle`. The class of a body determines its function code, so the checks of the
class in the single handlers do not fail. -/
def handle (R : Responder ρ) (server : ModbusServer) (heap : Heap) (request : ρ) : Outcome :=
  match R.body request with
  | .exception body =>
    answer R heap request (.ok (.exception (ExceptionResponseBody.fromRequest body)))
  | .readCoils body => _handleReadCoil R server heap request body
  | .readDiscreteInputs body => _handleDiscreteInput R server heap request body
  | .readDeviceIdentification body => _handleReadDeviceIdentification R heap request body
  | .readHoldingRegisters body => _handleReadHoldingRegisters R server heap request body
  | .readInputRegisters body => _handleReadInputRegisters R server heap request body
  | .writeSingleCoil body => _handleWriteSingleCoil R server heap request body
  | .writeSingleRegister body => _handleWriteSingleHoldingRegister R server heap request body
  | .writeMultipleCoils body => _handleWriteMultipleCoils R server heap request body
  | .writeMultipleRegisters body =>
    _handleWriteMultipleHoldingRegisters R server heap request body

end ModbusServerResponseHandler

end NodeModbus

import NodeModbus.Buffer

/-!
# Function codes, error codes and limits

The tables of `codes/` and `constants/`: the function codes with the reverse
lookup of the TypeScript enumeration, the exception codes with their messages,
and the size limit of an RTU frame.
-/

namespace NodeModbus

/-- The enumeration `FC` of `codes/function-codes.ts`. -/
inductive FC where
  | readCoil
  | readDiscreteInput
  | readHoldingRegisters
  | readInputRegisters
  | writeSingleCoil
  | writeSingleHoldingRegister
  | writeMultipleCoils
  | writeMultipleHoldingRegisters
  | readDeviceIdentification
  deriving DecidableEq, Repr

namespace FC

/-- The number of a function code. -/
def code : FC → Nat
  | readCoil => 1
  | readDiscreteInput => 2
  | readHoldingRegisters => 3
  | readInputRegisters => 4
  | writeSingleCoil => 5
  | writeSingleHoldingRegister => 6
  | writeMultipleCoils => 15
  | writeMultipleHoldingRegisters => 16
  | readDeviceIdentification => 43

/-- The reverse mapping `FC[x]` TypeScript generates for the enumeration. -/
def ofCode? (x : Int) : Option FC :=
  if x = 1 then some readCoil
  else if x = 2 then some readDiscreteInput
  else if x = 3 then some readHoldingRegisters
  else if x = 4 then some readInputRegisters
  else if x = 5 then some writeSingleCoil
  else if x = 6 then some writeSingleHoldingRegister
  else if x = 15 then some writeMultipleCoils
  else if x = 16 then some writeMultipleHoldingRegisters
  else if x = 43 then some readDeviceIdentification
  else none

@[simp] theorem ofCode?_code (fc : FC) : ofCode? fc.code = some fc := by
  cases fc <;> rfl

theorem code_of_ofCode? {x : Int} {fc : FC} (h : ofCode? x = some fc) : x = fc.code := by
  unfold ofCode? at h
  split_ifs at h with h₁ h₂ h₃ h₄ h₅ h₆ h₇ h₈ h₉ <;> cases h <;> assumption

theorem code_le (fc : FC) : fc.code ≤ 43 := by
  cases fc <;> decide

theorem code_pos (fc : FC) : 0 < fc.code := by
  cases fc <;> decide

end FC

/-- `isFunctionCode(x)`: the enumeration has an entry for `x`. -/
def isFunctionCode (x : Int) : Bool := (FC.ofCode? x).isSome

@[simp] theorem isFunctionCode_code (fc : FC) : isFunctionCode fc.code = true := by
  simp [isFunctionCode]

/-- `isErrorCode(x)`: the exception codes `codes/error-codes.ts` knows. -/
def isErrorCode (x : Int) : Bool :=
  x = 0x01 ∨ x = 0x02 ∨ x = 0x03 ∨ x = 0x04 ∨ x = 0x05 ∨ x = 0x06 ∨ x = 0x08 ∨ x = 0x0A ∨
  x = 0x0B

/-- `ErrorMessages[x]`. -/
def ErrorMessages (x : Int) : String :=
  if x = 0x01 then "ILLEGAL FUNCTION"
  else if x = 0x02 then "ILLEGAL DATA ADDRESS"
  else if x = 0x03 then "ILLEGAL DATA VALUE"
  else if x = 0x04 then "SLAVE DEVICE FAILURE"
  else if x = 0x05 then "ACKNOWLEDGE"
  else if x = 0x06 then "SLAVE DEVICE BUSY"
  else if x = 0x08 then "MEMORY PARITY ERROR"
  else if x = 0x0A then "GATEWAY PATH UNAVAILABLE"
  -- 0x0B; the table is only read at a known code
  else "GATEWAY TARGET DEVICE FAILED TO RESPOND"

/-- `errorCodeToMessage(x)`: throws an error without a text for an unknown code. -/
def errorCodeToMessage (x : Int) : Except Thrown String :=
  if isErrorCode x then .ok (ErrorMessages x) else .error (.error "")

/-- `LIMITS.MAX_RTU_ADU_SIZE`: unit address, 253 bytes of body, CRC. -/
def MAX_RTU_ADU_SIZE : Nat := 256

end NodeModbus

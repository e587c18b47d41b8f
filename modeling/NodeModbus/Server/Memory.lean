import NodeModbus.Lib.Bits
import NodeModbus.Lib.Overwrite
import NodeModbus.Lib.Refinement
import NodeModbus.Lib.Words

/-!
# The memory a server stands for

What a Modbus server is for, without buffers: a bit for every coil and discrete
input, a 16-bit word for every register, and requests that read a window of
them or write one.

- `Memory.step`: one operation, with its answer.
- `Operation.InRange`: the operations whose window lies in their table.
- `Answer.pdu`: the bytes of an answer.
- `Memory.length_update`: an operation leaves the tables as long as they are.
-/

namespace NodeModbus

open Words Overwrite

/-- The four tables, with their items. -/
structure Memory where
  coils : List Bool
  discreteInputs : List Bool
  holdingRegisters : List UInt16
  inputRegisters : List UInt16
  deriving DecidableEq

/-- What a request asks the memory for. -/
inductive Operation where
  | readCoils (start count : Nat)
  | readDiscreteInputs (start count : Nat)
  | readHoldingRegisters (start count : Nat)
  | readInputRegisters (start count : Nat)
  | writeCoil (address : Nat) (value : Bool)
  | writeRegister (address : Nat) (value : UInt16)
  | writeCoils (address : Nat) (values : List Bool)
  | writeRegisters (address : Nat) (values : List UInt16)
  deriving DecidableEq

/-- A read is answered with what was read, and a write with the address and with the value
or the number of the items written. -/
inductive Answer where
  | coils (values : List Bool)
  | discreteInputs (values : List Bool)
  | holdingRegisters (values : List UInt16)
  | inputRegisters (values : List UInt16)
  | coilWritten (address : Nat) (value : Bool)
  | registerWritten (address : Nat) (value : UInt16)
  | coilsWritten (address quantity : Nat)
  | registersWritten (address quantity : Nat)
  deriving DecidableEq

/-- A window of a table. -/
def window {α : Type} (table : List α) (start count : Nat) :
    List α := (table.drop start).take count

theorem length_window {α : Type} {table : List α} {start count : Nat}
    (h : start + count ≤ table.length) : (window table start count).length = count := by
  rw [window, List.length_take, List.length_drop]
  omega

/-- What stands behind a table is not in a window of it. -/
theorem window_append {α : Type} {table : List α} {start count : Nat}
    (h : start + count ≤ table.length) (r : List α) :
    window (table ++ r) start count = window table start count := by
  rw [window, List.drop_append_of_le_length (by omega),
    List.take_append_of_le_length (by rw [List.length_drop]; omega), window]

namespace Memory

/-- The memory after an operation. -/
def update (m : Memory) : Operation → Memory
  | .writeCoil address value => { m with coils := overwrite m.coils address [value] }
  | .writeRegister address value =>
    { m with holdingRegisters := overwrite m.holdingRegisters address [value] }
  | .writeCoils address values => { m with coils := overwrite m.coils address values }
  | .writeRegisters address values =>
    { m with holdingRegisters := overwrite m.holdingRegisters address values }
  | _ => m

/-- The answer to an operation. -/
def answer (m : Memory) : Operation → Answer
  | .readCoils start count => .coils (window m.coils start count)
  | .readDiscreteInputs start count => .discreteInputs (window m.discreteInputs start count)
  | .readHoldingRegisters start count =>
    .holdingRegisters (window m.holdingRegisters start count)
  | .readInputRegisters start count => .inputRegisters (window m.inputRegisters start count)
  | .writeCoil address value => .coilWritten address value
  | .writeRegister address value => .registerWritten address value
  | .writeCoils address values => .coilsWritten address values.length
  | .writeRegisters address values => .registersWritten address values.length

/-- One operation. -/
def step (m : Memory) (op : Operation) : Memory × Answer := (m.update op, m.answer op)

/-- The memory as a machine. -/
def machine : Refinement.Machine Memory Operation Answer := ⟨step⟩

end Memory

/-- The window of the operation lies in its table, and what is read fits into an answer. -/
def Operation.InRange (m : Memory) : Operation → Prop
  | readCoils start count => count ≤ 2000 ∧ start + count ≤ m.coils.length
  | readDiscreteInputs start count => count ≤ 2000 ∧ start + count ≤ m.discreteInputs.length
  | readHoldingRegisters start count => count ≤ 125 ∧ start + count ≤ m.holdingRegisters.length
  | readInputRegisters start count => count ≤ 125 ∧ start + count ≤ m.inputRegisters.length
  | writeCoil address _ => address < m.coils.length
  | writeRegister address _ => address < m.holdingRegisters.length
  | writeCoils address values => address + values.length ≤ m.coils.length
  | writeRegisters address values => address + values.length ≤ m.holdingRegisters.length

instance (m : Memory) : (op : Operation) → Decidable (op.InRange m)
  | .readCoils .. | .readDiscreteInputs ..
  | .readHoldingRegisters .. | .readInputRegisters .. => inferInstanceAs (Decidable (_ ∧ _))
  | .writeCoil .. | .writeRegister .. => inferInstanceAs (Decidable (_ < _))
  | .writeCoils .. | .writeRegisters .. => inferInstanceAs (Decidable (_ ≤ _))

/-- The lengths of the tables do not change. -/
theorem Memory.length_update {m : Memory} {op : Operation} (h : op.InRange m) :
    (m.update op).coils.length = m.coils.length ∧
      (m.update op).discreteInputs.length = m.discreteInputs.length ∧
      (m.update op).holdingRegisters.length = m.holdingRegisters.length ∧
      (m.update op).inputRegisters.length = m.inputRegisters.length := by
  cases op with
  | writeCoil address value => exact ⟨length_overwrite h, rfl, rfl, rfl⟩
  | writeRegister address value => exact ⟨rfl, rfl, length_overwrite h, rfl⟩
  | writeCoils address values => exact ⟨length_overwrite h, rfl, rfl, rfl⟩
  | writeRegisters address values => exact ⟨rfl, rfl, length_overwrite h, rfl⟩
  | _ => exact ⟨rfl, rfl, rfl, rfl⟩

/-- What is in range stays in range. -/
theorem Operation.InRange.update {m : Memory} {op op' : Operation} (h : op.InRange m)
    (h' : op'.InRange m) : op'.InRange (m.update op) := by
  obtain ⟨hc, hd, hh, hi⟩ := Memory.length_update h
  cases op' <;> simp only [InRange, hc, hd, hh, hi] at h' ⊢ <;> exact h'

/-! ## Answers as bytes -/

/-- The bytes of registers, big endian. -/
def registerBytes (registers : List UInt16) : List UInt8 := ofWords (registers.map UInt16.toNat)

@[simp] theorem length_registerBytes (registers : List UInt16) :
    (registerBytes registers).length = 2 * registers.length := by
  rw [registerBytes, length_ofWords, List.length_map]

/-- Function code and data of an answer: bits are packed from the low end of each byte, and the
last byte is filled up with zeros. -/
def Answer.pdu : Answer → List UInt8
  | coils values => 1 :: UInt8.ofNat ((values.length + 7) / 8) :: Bits.pack values
  | discreteInputs values => 2 :: UInt8.ofNat ((values.length + 7) / 8) :: Bits.pack values
  | holdingRegisters values => 3 :: UInt8.ofNat (2 * values.length) :: registerBytes values
  | inputRegisters values => 4 :: UInt8.ofNat (2 * values.length) :: registerBytes values
  | coilWritten address value => 5 :: (be16 address ++ be16 (if value then 0xFF00 else 0x0000))
  | registerWritten address value => 6 :: (be16 address ++ be16 value.toNat)
  | coilsWritten address quantity => 15 :: (be16 address ++ be16 quantity)
  | registersWritten address quantity => 16 :: (be16 address ++ be16 quantity)

end NodeModbus

import NodeModbus.Request.WriteMultiple
import NodeModbus.Response.Read

/-!
# The two forms of register values

Three bodies are made of registers, given as an array of numbers or as a buffer of
their bytes. What a user sees of a body does not depend on the form, but for one
class: the input registers take the low byte of each number for its bytes.

- `RegisterBody.form`: what is seen of a body.
- `readInputRegisters_forms`: the two forms of the input registers differ in the
  bytes, and in nothing else.
- `agrees_iff`: which classes agree.
-/

namespace NodeModbus

open Buffer Words

/-- The classes whose bodies are made of registers; the request has an address, too. -/
inductive RegisterBody where
  | readHoldingRegisters
  | readInputRegisters
  | writeMultipleRegisters (address : Int)
  deriving DecidableEq

/-- What is seen of a body: its values, its byte count and its payload. -/
@[ext] structure RegisterForm where
  valuesAsArray : List Int
  valuesAsBuffer : Buffer
  byteCount : Int
  payload : Except Thrown Buffer

namespace RegisterBody

/-- What is seen of the body the constructor makes of `n` registers; the responses are given
`2 * n` for the byte count. -/
def form (C : RegisterBody) (n : Nat) (values : RegisterValues) : Except Thrown RegisterForm :=
  match C with
  | readHoldingRegisters => do
    let b ← ReadHoldingRegistersResponseBody.new (2 * n : Nat) values
    return ⟨b.valuesAsArray, b.valuesAsBuffer, b.byteCount, b.createPayload⟩
  | readInputRegisters => do
    let b ← ReadInputRegistersResponseBody.new (2 * n : Nat) values none
    return ⟨b.valuesAsArray, b.valuesAsBuffer, b.byteCount, b.createPayload⟩
  | writeMultipleRegisters address => do
    let b ← WriteMultipleRegistersRequestBody.new address values
    return ⟨b.valuesAsArray, b.valuesAsBuffer, b.byteCount, b.createPayload⟩

/-- The body made of the numbers and the body made of their bytes look the same, and have
the numbers and the bytes. -/
def Agrees (C : RegisterBody) (values : List Int) : Prop :=
  C.form values.length (.array values) =
      C.form values.length (.buffer (ofWords (values.map Int.toNat))) ∧
    ∀ f, C.form values.length (.array values) = .ok f →
      f.valuesAsArray = values ∧ f.valuesAsBuffer = ofWords (values.map Int.toNat)

variable {values : List Int}

/-- Numbers and bytes have the same payload. -/
theorem registersPayload_forms (code : FC) (hv : ∀ v ∈ values, IsUInt16 v) :
    registersPayload code (2 * values.length : Nat) (.array values) =
      registersPayload code (2 * values.length : Nat)
        (.buffer (ofWords (values.map Int.toNat))) := by
  have hlen : (ofWords (values.map Int.toNat)).length = 2 * values.length := by
    rw [length_ofWords, List.length_map]
  have harray := @registersPayload_eq code (.array values) hv
  have hbuffer := registersPayload_buffer code (ofWords (values.map Int.toNat))
  rw [hlen] at hbuffer
  rw [hbuffer, ← hlen]
  rw [RegisterValues.bytes] at harray
  exact harray

theorem readHoldingRegisters_agrees (hv : ∀ v ∈ values, IsUInt16 v) :
    Agrees readHoldingRegisters values := by
  have hlen : (ofWords (values.map Int.toNat)).length = 2 * values.length := by
    rw [length_ofWords, List.length_map]
  have harray : form readHoldingRegisters values.length (.array values) =
      .ok ⟨values, ofWords (values.map Int.toNat), 2 + values.length * 2,
        registersPayload .readHoldingRegisters (2 * values.length : Nat) (.array values)⟩ := by
    rw [form, ReadHoldingRegistersResponseBody.new_array _ hv]
    rfl
  have hbuffer : form readHoldingRegisters values.length
    (.buffer (ofWords (values.map Int.toNat))) =
      .ok ⟨values, ofWords (values.map Int.toNat), 2 + values.length * 2,
        registersPayload .readHoldingRegisters (2 * values.length : Nat) (.array values)⟩ := by
    rw [form, ReadHoldingRegistersResponseBody.new_buffer, registersPayload_forms _ hv]
    refine congrArg Except.ok (RegisterForm.ext (words_ofWords_toNat hv) rfl ?_ rfl)
    show 2 + ((ofWords (values.map Int.toNat)).length : Int) = 2 + values.length * 2
    omega
  refine ⟨harray.trans hbuffer.symm, ?_⟩
  intro f hf
  rw [harray] at hf
  obtain rfl := Except.ok.inj hf
  exact ⟨rfl, rfl⟩

/-- Of the input registers only the bytes differ: the array leaves one byte of each number. -/
theorem readInputRegisters_forms (hv : ∀ v ∈ values, IsUInt16 v) :
    ∃ f, form readInputRegisters values.length (.buffer (ofWords (values.map Int.toNat))) =
      .ok f ∧
      f.valuesAsArray = values ∧ f.valuesAsBuffer = ofWords (values.map Int.toNat) ∧
      form readInputRegisters values.length (.array values) =
        .ok { f with valuesAsBuffer := values.map toByte } := by
  have hlen : (ofWords (values.map Int.toNat)).length = 2 * values.length := by
    rw [length_ofWords, List.length_map]
  refine ⟨⟨values, ofWords (values.map Int.toNat), 2 + values.length * 2,
    registersPayload .readInputRegisters (2 * values.length : Nat) (.array values)⟩, ?_, rfl,
    rfl, rfl⟩
  rw [form, ReadInputRegistersResponseBody.new, readWords_half, registersPayload_forms _ hv]
  refine congrArg Except.ok (RegisterForm.ext (words_ofWords_toNat hv) rfl ?_ rfl)
  show 2 + ((ofWords (values.map Int.toNat)).length : Int) = 2 + values.length * 2
  omega

/-- The byte a number leaves is not its two bytes. -/
theorem not_readInputRegisters_agrees (hpos : 1 ≤ values.length)
    (hv : ∀ v ∈ values, IsUInt16 v) : ¬ Agrees readInputRegisters values := by
  obtain ⟨f, -, -, -, harray⟩ := readInputRegisters_forms hv
  intro h
  have hbytes := (h.2 _ harray).2
  have hlength := congrArg List.length hbytes
  simp only [List.length_map, length_ofWords] at hlength
  omega

theorem writeMultipleRegisters_agrees (address : Int) (hlen : values.length ≤ 123)
    (hv : ∀ v ∈ values, IsUInt16 v) : Agrees (writeMultipleRegisters address) values := by
  by_cases ha : address > 0xFFFF
  · -- an address that is refused is refused in both forms
    have hrefused : ∀ v, form (writeMultipleRegisters address) values.length v =
        .error (.error "InvalidStartAddress") := by
      intro v
      simp [form, WriteMultipleRegistersRequestBody.new, bind, Except.bind, throw, throwThe,
        MonadExceptOf.throw, ha]
    refine ⟨(hrefused _).trans (hrefused _).symm, ?_⟩
    intro f hf
    rw [hrefused] at hf
    cases hf
  · have hbytes : (ofWords (values.map Int.toNat)).length = 2 * values.length := by
      rw [length_ofWords, List.length_map]
    have harray := WriteMultipleRegistersRequestBody.new_array (Int.not_lt.mp ha) hlen hv
    have hbuffer := eq_ok_of_toOption ((WriteMultipleRegistersRequestBody.new_buffer
      (ofWords (values.map Int.toNat)) (Int.not_lt.mp ha)).trans (if_pos (by omega)))
    -- the encoder looks at what the two bodies have in common
    have hbody : WriteMultipleRegistersRequestBody.ofBuffer address
      (ofWords (values.map Int.toNat)) =
        { address, values := .buffer (ofWords (values.map Int.toNat)),
          byteCount := min (2 * values.length + 6) 0xF6, numberOfBytes := 2 * values.length,
          quantity := values.length, valuesAsBuffer := ofWords (values.map Int.toNat),
          valuesAsArray := values } := by
      rw [WriteMultipleRegistersRequestBody.ofBuffer, words_ofWords_toNat hv, hbytes,
        Nat.mul_div_cancel_left _ (by decide : 0 < 2)]
      rfl
    rw [hbody] at hbuffer
    constructor
    · rw [form, form, harray, hbuffer]
      rfl
    · intro f hf
      rw [form, harray] at hf
      obtain rfl := Except.ok.inj hf
      exact ⟨rfl, rfl⟩

/-- For every list of 1 to 123 registers the numbers and their bytes make bodies that look
the same, in every class but the input registers, where they never do. -/
theorem agrees_iff (C : RegisterBody) (hpos : 1 ≤ values.length) (hlen : values.length ≤ 123)
    (hv : ∀ v ∈ values, IsUInt16 v) : C.Agrees values ↔ C ≠ readInputRegisters := by
  cases C with
  | readHoldingRegisters => exact iff_of_true (readHoldingRegisters_agrees hv) (by decide)
  | readInputRegisters =>
    exact iff_of_false (not_readInputRegisters_agrees hpos hv) fun h => h rfl
  | writeMultipleRegisters address =>
    exact iff_of_true (writeMultipleRegisters_agrees address hlen hv) (by simp)

/-- Three registers, one of them above 255. -/
theorem agrees_iff_three : (writeMultipleRegisters 7).Agrees [0x01, 0x02, 0xFFFE] ∧
    ¬ readInputRegisters.Agrees [0x01, 0x02, 0xFFFE] := by
  constructor
  · exact (agrees_iff _ (by decide) (by decide) (by decide)).mpr (by decide)
  · exact fun h => (agrees_iff _ (by decide) (by decide) (by decide)).mp h rfl

/-- The registers of a response that is made of an array: its bytes are `01`, `02` and `FE`. -/
theorem readInputRegisters_disagrees_three :
    ¬ readInputRegisters.Agrees [0x01, 0x02, 0xFFFE] ∧
      (form readInputRegisters 3 (.array [0x01, 0x02, 0xFFFE])).map
        RegisterForm.valuesAsBuffer =
        .ok [0x01, 0x02, 0xFE] :=
  ⟨not_readInputRegisters_agrees (by decide) (by decide), rfl⟩

end RegisterBody

end NodeModbus

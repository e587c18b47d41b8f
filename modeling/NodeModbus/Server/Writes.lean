import NodeModbus.Server.OutOfRange

/-!
# Writes at the end of a table

What the four write requests do at the end of their tables, which may be of any
length, and have an odd last byte.

- `TableWrite`: the items a request writes, coils or registers.
- `TableWrite.Stored`, `Unchanged`: the two ways in which a write may end.
- `exact_iff`: the single writes. Where there is no item they throw, but for the
  register addresses that are behind the end of the table and not next to it.
- `allOrNothing_iff`: the multiple writes. Coils are written as far as they exist.
-/

namespace NodeModbus

open Buffer Words Overwrite ModbusServerResponseHandler

/-! ## Writes -/

/-- How a table holds its items: `items` are its coils or registers, and `rest` are the
bytes that hold none. -/
structure Layout (α : Type) where
  items : Buffer → List α
  rest : Buffer → Buffer

/-- Every bit of the table is a coil. -/
def Layout.coils : Layout Bool := ⟨Bits.unpack, fun _ => []⟩

/-- A byte behind the last whole word is no register. -/
def Layout.registers : Layout UInt16 := ⟨NodeModbus.registers, oddByte⟩

/-- What a request writes: `values` are for the `count` items from `address` on. The answer
repeats the address and `field`. -/
structure TableWrite (α : Type) where
  layout : Layout α
  table : Ref
  address : Nat
  count : Nat
  values : List α
  field : Nat

namespace TableWrite

/-- The value of one coil, which is repeated as the wire value. -/
def coil (coils : Ref) (address : Nat) (value : Bool) : TableWrite Bool :=
  { layout := .coils, table := coils, address, count := 1, values := [value],
    field := if value then 0xFF00 else 0x0000 }

/-- The value of one register. -/
def register (holding : Ref) (address value : Nat) : TableWrite UInt16 :=
  { layout := .registers, table := holding, address, count := 1, values := [UInt16.ofNat value],
    field := value }

/-- The values are the bits of a buffer, which may be more. -/
def coils (coils : Ref) (address quantity : Nat) (values : Buffer) : TableWrite Bool :=
  { layout := .coils, table := coils, address, count := quantity, values := Bits.unpack values,
    field := quantity }

/-- The values are the words of a buffer. -/
def registers (holding : Ref) (address quantity : Nat) (values : Buffer) : TableWrite UInt16 :=
  { layout := .registers, table := holding, address, count := quantity,
    values := NodeModbus.registers values, field := quantity }

variable {α : Type}

/-- Every item of the window is in the table. -/
def Inside (heap : Heap) (x : TableWrite α) : Prop :=
  ∀ i, x.address ≤ i → i < x.address + x.count → i < (x.layout.items (heap x.table)).length

/-- The normal response. -/
def echo (fc : FC) (x : TableWrite α) : Buffer :=
  UInt8.ofNat fc.code :: (be16 x.address ++ be16 x.field)

/-- The items in the window are all there and take the values, nothing else changes, and the
normal response is sent. -/
structure Stored (w : Transport) (heap : Heap) (r : w.Request) (fc : FC) (x : TableWrite α)
    (o : Outcome) : Prop where
  inside : x.Inside heap
  items : ∀ i, (x.layout.items (o.1 x.table))[i]? =
    if x.address ≤ i ∧ i < x.address + x.count then x.values[i - x.address]?
    else (x.layout.items (heap x.table))[i]?
  rest : x.layout.rest (o.1 x.table) = x.layout.rest (heap x.table)
  others : ∀ t, t ≠ x.table → o.1 t = heap t
  sent : o.2 = .ok (some (w.frame r (x.echo fc)))

end TableWrite

/-- Nothing changes, and the exception for an illegal data address is sent. -/
def Unchanged (w : Transport) (heap : Heap) (r : w.Request) (fc : FC) (o : Outcome) : Prop :=
  o.1 = heap ∧ Refused w r fc o

/-- The requests for one item, by function code. -/
inductive SingleWrite (server : ModbusServer) :
    {α : Type} → RequestBody → FC → TableWrite α → Prop
  | coil {b : WriteSingleCoilRequestBody} {coils : Ref} {address : Nat}
      (ht : server.coils = some coils) (ha : b.address = address) :
      SingleWrite server (.writeSingleCoil b) .writeSingleCoil (.coil coils address b._value)
  | register {b : WriteSingleRegisterRequestBody} {holding : Ref} {address value : Nat}
      (ht : server.holding = some holding) (ha : b.address = address) (hv : b.value = value) :
      SingleWrite server (.writeSingleRegister b) .writeSingleHoldingRegister
        (.register holding address value)

/-- The requests for a number of items, by function code. -/
inductive MultipleWrite (server : ModbusServer) :
    {α : Type} → RequestBody → FC → TableWrite α → Prop
  | coils {b : WriteMultipleCoilsRequestBody} {coils : Ref} {address quantity : Nat}
      (ht : server.coils = some coils) (ha : b.address = address) (hq : b.quantity = quantity) :
      MultipleWrite server (.writeMultipleCoils b) .writeMultipleCoils
        (.coils coils address quantity b.valuesAsBuffer)
  | registers {b : WriteMultipleRegistersRequestBody} {holding : Ref} {address quantity : Nat}
      (ht : server.holding = some holding) (ha : b.address = address)
      (hq : b.quantity = quantity) :
        MultipleWrite server (.writeMultipleRegisters b) .writeMultipleHoldingRegisters
        (.registers holding address quantity b.valuesAsBuffer)

section Outcomes

variable {α : Type} {w : Transport} {heap : Heap} {r : w.Request} {fc : FC} {x : TableWrite α}

/-- A window that exists has been overwritten. -/
theorem stored_overwrite {b : Buffer} (hcount : x.values.length = x.count)
    (hin : x.address + x.count ≤ (x.layout.items (heap x.table)).length)
    (hitems : x.layout.items b = overwrite (x.layout.items (heap x.table)) x.address x.values)
    (hrest : x.layout.rest b = x.layout.rest (heap x.table)) :
    x.Stored w heap r fc (heap.write x.table b, .ok (some (w.frame r (x.echo fc)))) where
  inside := fun i _ hi => Nat.lt_of_lt_of_le hi hin
  items := by
    intro i
    rw [← hcount] at hin ⊢
    rw [← getElem?_overwrite_window hin, ← hitems]
    exact congrArg (fun b => (x.layout.items b)[i]?) (heap.write_self x.table b)
  rest := (congrArg x.layout.rest (heap.write_self x.table b)).trans hrest
  others := fun t ht => if_neg ht
  sent := rfl

/-- Registers that exist are stored when their bytes are overwritten. -/
theorem stored_registers {x : TableWrite UInt16} (hx : x.layout = .registers)
    (hcount : x.values.length = x.count)
    (hin : 2 * (x.address + x.count) ≤ (heap x.table).length) :
    x.Stored w heap r fc
      (heap.write x.table (overwrite (heap x.table) (2 * x.address) (registerBytes x.values)),
        .ok (some (w.frame r (x.echo fc)))) := by
  have hsize : x.address + x.count ≤ (registers (heap x.table)).length := by
    rw [length_registers]
    omega
  obtain ⟨hitems, hrest⟩ := registers_overwrite (b := heap x.table) (hcount ▸ hsize)
  refine stored_overwrite hcount ?_ ?_ ?_ <;> rw [hx]
  · exact hsize
  · exact hitems
  · exact hrest

theorem TableWrite.Stored.exists_sent {o : Outcome} (h : x.Stored w heap r fc o) :
    ∃ payload, o.2 = .ok (some payload) :=
  ⟨_, h.sent⟩

theorem Unchanged.exists_sent {o : Outcome} (h : Unchanged w heap r fc o) :
    ∃ payload, o.2 = .ok (some payload) :=
  ⟨_, h.2⟩

/-- A normal response is not an exception. -/
theorem not_unchanged_of_echo {heap' : Heap} :
    ¬ Unchanged w heap r fc (heap', .ok (some (w.frame r (x.echo fc)))) := by
  rintro ⟨-, hrefused⟩
  have hlen :=
    congrArg List.length (w.frame_injective r (Option.some.inj (Except.ok.inj hrefused)))
  cases hlen

end Outcomes

/-! ## Single writes -/

theorem inside_coil_iff (heap : Heap) (coils : Ref) (address : Nat) (value : Bool) :
    (TableWrite.coil coils address value).Inside heap ↔ address < 8 * (heap coils).length := by
  have hlen : (Layout.coils.items (heap coils)).length = 8 * (heap coils).length :=
    Bits.length_unpack _
  constructor
  · intro hin
    exact hlen ▸ hin address (Nat.le_refl _) (Nat.lt_succ_self _)
  · intro hlt i _ hi
    exact Nat.lt_of_lt_of_le hi (hlen.symm ▸ hlt)

theorem inside_register_iff (heap : Heap) (holding : Ref) (address value : Nat) :
    (TableWrite.register holding address value).Inside heap ↔
    2 * address + 1 < (heap holding).length := by
  have hlen : (Layout.registers.items (heap holding)).length = (heap holding).length / 2 :=
    length_registers _
  constructor
  · intro hin
    have hlt := hin address (Nat.le_refl _) (Nat.lt_succ_self _)
    have hlt' : address < (heap holding).length / 2 := hlen ▸ hlt
    omega
  · intro hlt i _ hi
    have hi' : i < address + 1 := hi
    show i < (Layout.registers.items (heap holding)).length
    omega

/-- What is promised of a request for one item: it is stored where there is such an item,
and refused where there is none. -/
structure TableWrite.Exact {α : Type} (w : Transport) (heap : Heap) (r : w.Request) (fc : FC)
    (x : TableWrite α) (o : Outcome) : Prop where
  stored : x.Inside heap → x.Stored w heap r fc o
  refused : ¬ x.Inside heap → Unchanged w heap r fc o

theorem TableWrite.Exact.exists_sent {α : Type} {w : Transport} {heap : Heap} {r : w.Request}
    {fc : FC} {x : TableWrite α} {o : Outcome} (h : x.Exact w heap r fc o) :
    ∃ payload, o.2 = .ok (some payload) := by
  by_cases hin : x.Inside heap
  · exact (h.stored hin).exists_sent
  · exact (h.refused hin).exists_sent

/-- What is thrown is no answer. -/
theorem not_exact_error {α : Type} {w : Transport} {heap : Heap} {r : w.Request} {fc : FC}
    {x : TableWrite α} (e : Thrown) : ¬ x.Exact w heap r fc (heap, .error e) := by
  intro h
  obtain ⟨payload, hsent⟩ := h.exists_sent
  cases hsent

section Handlers

variable {w : Transport} {r : w.Request} (hr : w.Decoded r) {server : ModbusServer}
  (heap : Heap)

/-- The byte of a coil behind the end is read before the address is looked at. -/
theorem handleWriteSingleCoil_throws {coils : Ref} (ht : server.coils = some coils)
    {b : WriteSingleCoilRequestBody} {address : Nat} (ha : b.address = address)
    (h : 8 * (heap coils).length ≤ address) :
    ∃ e, _handleWriteSingleCoil w.responder server heap r b = (heap, .error e) := by
  have hread : readUInt8 (heap coils) ((address : Int) / 8) = .error .rangeError :=
    readUInt8_eq_error (n := address / 8) (by omega)
  refine ⟨.rangeError, ?_⟩
  simp only [_handleWriteSingleCoil, ht, ha, hread]

/-- The first address behind the end passes the check, also when an odd byte is left, and
writing the register throws. -/
theorem handleWriteSingleHoldingRegister_throws {holding : Ref}
    (ht : server.holding = some holding) {b : WriteSingleRegisterRequestBody} {address : Nat}
    (ha : b.address = address) (h : (heap holding).length ≤ 2 * address + 1)
    (h' : 2 * address ≤ (heap holding).length) :
    ∃ e, _handleWriteSingleHoldingRegister w.responder server heap r b = (heap, .error e) := by
  have hindex : (address : Int) * 2 = ((2 * address : Nat) : Int) := by omega
  have hfits : ¬ ((2 * address : Nat) : Int) > (heap holding).length := by omega
  obtain ⟨e, hwrite⟩ := exists_writeUInt16BE_error b.value h
  refine ⟨e, ?_⟩
  simp only [_handleWriteSingleHoldingRegister, ht,
    WriteSingleRegisterResponseBody.fromRequest, ha, hindex, if_neg hfits, hwrite,
    storeAndAnswer]

include hr

/-- The addresses that do not pass the check are refused. -/
theorem handleWriteSingleHoldingRegister_refused {holding : Ref}
    (ht : server.holding = some holding) {b : WriteSingleRegisterRequestBody} {address : Nat}
    (ha : b.address = address) (h : (heap holding).length < 2 * address) :
    Unchanged w heap r .writeSingleHoldingRegister
      (_handleWriteSingleHoldingRegister w.responder server heap r b) := by
  have hbehind : (address : Int) * 2 > (heap holding).length := by omega
  have hrefused :
      answerException w.responder heap r .writeSingleHoldingRegister 0x02 none = _ :=
    answerException_eq hr heap .writeSingleHoldingRegister 0x02 (by decide)
  simp only [_handleWriteSingleHoldingRegister, ht,
    WriteSingleRegisterResponseBody.fromRequest, ha, if_pos hbehind, hrefused]
  exact ⟨rfl, rfl⟩

theorem exact_coil_iff {coils : Ref} (ht : server.coils = some coils)
    {b : WriteSingleCoilRequestBody} {address : Nat} (ha : b.address = address)
    (hlt : address < 65536) :
    (TableWrite.coil coils address b._value).Exact w heap r .writeSingleCoil
        (_handleWriteSingleCoil w.responder server heap r b) ↔
      (TableWrite.coil coils address b._value).Inside heap := by
  rw [inside_coil_iff]
  rcases Nat.lt_or_ge address (8 * (heap coils).length) with hin | hout
  · have hsize : address + 1 ≤ (Layout.coils.items (heap coils)).length := by
      rw [show (Layout.coils.items (heap coils)).length = _ from Bits.length_unpack _]
      exact hin
    rw [handleWriteSingleCoil_inside hr server heap ht ha hlt hin]
    refine iff_of_true ⟨fun _ => ?_, fun hout => ?_⟩ hin
    · exact stored_overwrite (x := .coil coils address b._value) rfl hsize
        (unpack_set hin b._value) rfl
    · exact absurd ((inside_coil_iff ..).mpr hin) hout
  · obtain ⟨e, he⟩ := handleWriteSingleCoil_throws (w := w) (r := r) heap ht ha hout
    rw [he]
    exact iff_of_false (not_exact_error e) (by omega)

theorem exact_register_iff {holding : Ref} (ht : server.holding = some holding)
    {b : WriteSingleRegisterRequestBody} {address value : Nat} (ha : b.address = address)
    (hv : b.value = value) (hlt : address < 65536) (hlt' : value < 65536) :
    (TableWrite.register holding address value).Exact w heap r .writeSingleHoldingRegister
        (_handleWriteSingleHoldingRegister w.responder server heap r b) ↔
      (TableWrite.register holding address value).Inside heap ∨
        (heap holding).length < 2 * address := by
  have hinside := inside_register_iff heap holding address value
  rcases Nat.lt_or_ge (2 * address + 1) (heap holding).length with hin | hout
  · rw [handleWriteSingleHoldingRegister_inside hr server heap ht ha hv hlt hlt' hin]
    refine iff_of_true ⟨fun _ => ?_, fun hout => ?_⟩ (.inl (hinside.mpr hin))
    · have hstored : (TableWrite.register holding address value).Stored w heap r
          .writeSingleHoldingRegister _ := stored_registers rfl rfl hin
      rw [show registerBytes (TableWrite.register holding address value).values =
        be16 value from registerBytes_singleton hlt'] at hstored
      exact hstored
    · exact absurd (hinside.mpr hin) hout
  · have hnot : ¬ (TableWrite.register holding address value).Inside heap := by
      rw [hinside]
      omega
    rcases Nat.lt_or_ge (heap holding).length (2 * address) with hbehind | hnext
    · exact iff_of_true ⟨fun hin => absurd hin hnot, fun _ =>
        handleWriteSingleHoldingRegister_refused hr heap ht ha hbehind⟩ (.inr hbehind)
    · obtain ⟨e, he⟩ := handleWriteSingleHoldingRegister_throws (w := w)
        (r := r) heap ht ha hout hnext
      rw [he]
      refine iff_of_false (not_exact_error e) ?_
      rintro (hin | hbehind)
      · exact hnot hin
      · omega

/-- A single write is exact if and only if its item exists, or it is for a register that is
behind the end of the table and not next to it. -/
theorem exact_iff {α : Type} {fc : FC} {x : TableWrite α}
    (h : SingleWrite server (w.body r) fc x) :
    x.Exact w heap r fc (handle w.responder server heap r) ↔
      x.Inside heap ∨ fc = .writeSingleHoldingRegister ∧
      (heap x.table).length < 2 * x.address := by
  have hwire := Transport.fromWire_body hr
  unfold handle
  rw [show w.responder.body r = w.body r from rfl]
  generalize w.body r = body at hwire h
  cases h with
  | coil ht ha =>
    cases hwire with
    | writeSingleCoil ha' hlt =>
      obtain rfl := Int.ofNat_inj.mp (ha.symm.trans ha')
      refine (exact_coil_iff hr heap ht ha hlt).trans (or_iff_left ?_).symm
      rintro ⟨hfc, -⟩
      cases hfc
  | register ht ha hv =>
    cases hwire with
    | writeSingleRegister ha' hv' hlt hlt' =>
      obtain rfl := Int.ofNat_inj.mp (ha.symm.trans ha')
      obtain rfl := Int.ofNat_inj.mp (hv.symm.trans hv')
      refine (exact_register_iff hr heap ht ha hv hlt hlt').trans (or_congr_right ?_)
      exact (and_iff_right rfl).symm

end Handlers

/-- The last coil of a table with eight coils. -/
theorem exact_iff_coil_seven :
    (TableWrite.coil 0 7 true).Exact .tcp (fun _ => [0])
      ⟨1, 0, 6, 1, .writeSingleCoil ⟨7, true, by decide⟩⟩
        .writeSingleCoil
        (handle tcpResponder ⟨none, some 0, some 1, some 2, some 3⟩ (fun _ => [0])
          ⟨1, 0, 6, 1, .writeSingleCoil ⟨7, true, by decide⟩⟩) ↔
      (TableWrite.coil 0 7 true).Inside (fun _ => [0]) ∨
        FC.writeSingleCoil = .writeSingleHoldingRegister ∧ 1 < 14 := by
  have hread : ModbusTCPRequest.fromBuffer [0, 1, 0, 0, 0, 6, 1, 5, 0, 7, 0xFF, 0] =
      some ⟨1, 0, 6, 1, .writeSingleCoil ⟨7, true, by decide⟩⟩ := by decide +kernel
  exact exact_iff (w := .tcp) (Transport.decoded_tcp hread) _ (.coil rfl rfl)

/-- Behind it the handler throws. -/
theorem not_exact_coil_eight :
    ¬ ∀ (w : Transport) (server : ModbusServer) (heap : Heap) (r : w.Request) (α : Type)
        (fc : FC) (x : TableWrite α), w.Decoded r → SingleWrite server (w.body r) fc x →
        x.Exact w heap r fc (handle w.responder server heap r) := by
  intro h
  have hread : ModbusTCPRequest.fromBuffer [0, 1, 0, 0, 0, 6, 1, 5, 0, 8, 0xFF, 0] =
      some ⟨1, 0, 6, 1, .writeSingleCoil ⟨8, true, by decide⟩⟩ := by decide +kernel
  have hexact := h .tcp ⟨none, some 0, some 1, some 2, some 3⟩ (fun _ => [0]) _ _ _
    (.coil 0 8 true) (Transport.decoded_tcp hread) (.coil rfl rfl)
  obtain ⟨payload, hsent⟩ := hexact.exists_sent
  cases hsent

/-! ## Multiple writes -/

/-- What is promised of a request for a number of items: all of them are stored, or nothing. -/
def TableWrite.AllOrNothing {α : Type} (w : Transport) (heap : Heap) (r : w.Request) (fc : FC)
    (x : TableWrite α) (o : Outcome) : Prop :=
  x.Stored w heap r fc o ∨ Unchanged w heap r fc o

section Handlers

variable {w : Transport} {r : w.Request} (hr : w.Decoded r) {server : ModbusServer}
  (heap : Heap)

/-- The coils are stored when all of them exist. -/
theorem stored_coils {coils : Ref} {address quantity : Nat} {values : Buffer}
    (hle : quantity ≤ 8 * values.length)
    (hin : (TableWrite.coils coils address quantity values).Inside heap) :
    (TableWrite.coils coils address quantity values).Stored w heap r .writeMultipleCoils
      (heap.write coils (Bits.pack (replaceStatus address ((address : Int) + quantity)
          (Bits.unpack (heap coils)) 0 (Bits.unpack values))),
        .ok (some (w.frame r ((TableWrite.coils coils address quantity values).echo
          .writeMultipleCoils)))) where
  inside := hin
  items := by
    intro i
    have hwhole :
        8 ∣ (replaceStatus address ((address : Int) + quantity) (Bits.unpack (heap coils)) 0
        (Bits.unpack values)).length := by
      rw [length_replaceStatus]
      exact ⟨_, Bits.length_unpack _⟩
    show (Bits.unpack (heap.write coils _ coils))[i]? = if address ≤ i ∧
      i < address + quantity then
      (Bits.unpack values)[i - address]? else (Bits.unpack (heap coils))[i]?
    rw [Heap.write_self, Bits.unpack_pack_of_dvd hwhole, ← Int.natCast_add,
      getElem?_replaceStatus]
    split
    · rename_i hwindow
      -- the coil exists, and there is a value for it
      have hlt : i < (Bits.unpack (heap coils)).length := hin i hwindow.1 hwindow.2
      have hvalue : i - address < (Bits.unpack values).length := by
        rw [Bits.length_unpack]
        omega
      rw [List.getElem?_eq_getElem hlt, Option.map_some, List.getD_eq_getElem _ _ hvalue,
        List.getElem?_eq_getElem hvalue]
    · rfl
  rest := rfl
  others := fun t ht => if_neg ht
  sent := rfl

include hr

/-- Coils are written as far as they exist, which is all of them or not. -/
theorem allOrNothing_coils_iff {coils : Ref} (ht : server.coils = some coils)
    {address quantity : Nat} {values : Buffer} (hlt : address < 65536) (hlt' : quantity < 65536)
    (hle : quantity ≤ 8 * values.length) {b : WriteMultipleCoilsRequestBody}
    (ha : b.address = address) (hq : b.quantity = quantity)
    (hvalues : b.valuesAsBuffer = values) :
    (TableWrite.coils coils address quantity values).AllOrNothing w heap r .writeMultipleCoils
        (_handleWriteMultipleCoils w.responder server heap r b) ↔
      (TableWrite.coils coils address quantity values).Inside heap := by
  rw [handleWriteMultipleCoils_any hr server heap ht ha hq hlt hlt', hvalues]
  constructor
  · rintro (hstored | hunchanged)
    · exact hstored.inside
    · exact absurd hunchanged
        (not_unchanged_of_echo (x := .coils coils address quantity values))
  · intro hin
    exact .inl (stored_coils heap hle hin)

/-- The check for the registers leaves none of them out. -/
theorem allOrNothing_registers {holding : Ref} (ht : server.holding = some holding)
    {address : Nat} {values : Buffer} (hlt : address < 65536) (hle : values.length ≤ 246)
    (heven : values.length % 2 = 0) :
    (TableWrite.registers holding address (values.length / 2) values).AllOrNothing w heap r
      .writeMultipleHoldingRegisters
      (_handleWriteMultipleHoldingRegisters w.responder server heap r
        (.ofBuffer address values)) := by
  rcases Nat.lt_or_ge (heap holding).length (2 * address + values.length) with hout | hin
  · have hbehind : (address : Int) * 2 + values.length > (heap holding).length := by omega
    have hrefused :
        answerException w.responder heap r .writeMultipleHoldingRegisters 0x02 none = _ :=
      answerException_eq hr heap .writeMultipleHoldingRegisters 0x02 (by decide)
    refine .inr ?_
    simp only [_handleWriteMultipleHoldingRegisters, ht,
      WriteMultipleRegistersRequestBody.ofBuffer, RegisterValues.length, if_pos hbehind,
      hrefused]
    exact ⟨rfl, rfl⟩
  · have hfits : 2 * (address + values.length / 2) ≤ (heap holding).length := by omega
    have hstored : (TableWrite.registers holding address (values.length / 2) values).Stored
        w heap r .writeMultipleHoldingRegisters _ :=
      stored_registers rfl (length_registers values) hfits
    have hbytes : registerBytes
        (TableWrite.registers holding address (values.length / 2) values).values = values :=
      registerBytes_of_even heven
    rw [hbytes] at hstored
    rw [handleWriteMultipleHoldingRegisters_inside hr server heap ht hlt hle hin]
    exact .inl hstored

/-- A multiple write is all or nothing if and only if all of its items exist, or it is for
registers. -/
theorem allOrNothing_iff {α : Type} {fc : FC} {x : TableWrite α}
    (h : MultipleWrite server (w.body r) fc x) :
    x.AllOrNothing w heap r fc (handle w.responder server heap r) ↔
      x.Inside heap ∨ fc = .writeMultipleHoldingRegisters := by
  have hwire := Transport.fromWire_body hr
  unfold handle
  rw [show w.responder.body r = w.body r from rfl]
  generalize w.body r = body at hwire h
  cases h with
  | coils ht ha hq =>
    cases hwire with
    | @writeMultipleCoils address quantity values hlt hlt' hlen hle =>
      obtain rfl := Int.ofNat_inj.mp ha
      have hq' := Int.ofNat_inj.mp hq
      refine (allOrNothing_coils_iff hr heap ht hlt ?_ ?_ rfl hq rfl).trans
        (or_iff_left ?_).symm
      · split at hq' <;> omega
      · show _ ≤ 8 * values.length
        split at hq' <;> omega
      · exact fun hfc => by cases hfc
  | registers ht ha hq =>
    cases hwire with
    | writeMultipleRegisters hlt hle heven =>
      obtain rfl := Int.ofNat_inj.mp ha
      obtain rfl := Int.ofNat_inj.mp hq
      exact iff_of_true (allOrNothing_registers hr heap ht hlt hle heven) (.inr rfl)

end Handlers

/-- The last four coils of a table with eight coils. -/
theorem allOrNothing_iff_lastFour :
    (TableWrite.coils 0 4 4 [0x0F]).AllOrNothing .tcp (fun _ => [0])
        ⟨1, 0, 8, 1, .writeMultipleCoils (.ofBuffer 4 [0x0F] 4)⟩ .writeMultipleCoils
        (handle tcpResponder ⟨none, some 0, some 1, some 2, some 3⟩ (fun _ => [0])
          ⟨1, 0, 8, 1, .writeMultipleCoils (.ofBuffer 4 [0x0F] 4)⟩) ↔
      (TableWrite.coils 0 4 4 [0x0F]).Inside (fun _ => [0]) ∨
        FC.writeMultipleCoils = .writeMultipleHoldingRegisters := by
  have hread : ModbusTCPRequest.fromBuffer [0, 1, 0, 0, 0, 8, 1, 15, 0, 4, 0, 4, 1, 0x0F] =
      some ⟨1, 0, 8, 1, .writeMultipleCoils (.ofBuffer 4 [0x0F] 4)⟩ := by decide +kernel
  exact allOrNothing_iff (w := .tcp) (Transport.decoded_tcp hread) _ (.coils rfl rfl rfl)

/-- Of four coils two exist: those are written. -/
theorem not_allOrNothing_halfOfFour :
    ¬ ∀ (w : Transport) (server : ModbusServer) (heap : Heap) (r : w.Request) (α : Type)
        (fc : FC) (x : TableWrite α), w.Decoded r → MultipleWrite server (w.body r) fc x →
        x.AllOrNothing w heap r fc (handle w.responder server heap r) := by
  intro h
  have hread : ModbusTCPRequest.fromBuffer [0, 1, 0, 0, 0, 8, 1, 15, 0, 6, 0, 4, 1, 0x0F] =
      some ⟨1, 0, 8, 1, .writeMultipleCoils (.ofBuffer 6 [0x0F] 4)⟩ := by decide +kernel
  rcases h .tcp ⟨none, some 0, some 1, some 2, some 3⟩ (fun _ => [0]) _ _ _
    (.coils 0 6 4 [0x0F]) (Transport.decoded_tcp hread)
    (.coils rfl rfl rfl) with hstored | hunchanged
  · exact absurd (hstored.inside 8 (by decide) (by decide)) (by decide)
  · exact absurd (congrFun hunchanged.1 0) (by decide +kernel)

end NodeModbus

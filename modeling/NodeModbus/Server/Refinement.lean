import NodeModbus.Server.Transport

/-!
# A server stands for a memory

The response handler over the buffers of a server represents the memory over its
bits and words: every request that is in range has the effect and the answer of
its operation.

- `Tables`: four different buffers.
- `Memory.load`, `Memory.store`: the memory a server stands for, and the buffers
  that stand for a memory.
- `handleWriteSingleCoil_inside` and the lemmas behind it: the writes on any table.
- `handleReadCoil_eq` and the lemmas behind it: one for each handler.
- `handle_represents`: a request is an operation. `handle_run_eq`: a sequence of
  requests is the sequence of their operations.
-/

namespace NodeModbus

open Buffer Words Overwrite ModbusServerResponseHandler

/-! ## Tables -/

/-- The tables of a server, none of which is missing, in buffers of their own. -/
structure Tables where
  coils : Ref
  discrete : Ref
  holding : Ref
  input : Ref
  nodup : [coils, discrete, holding, input].Nodup

/-- A server with all four tables. -/
def ModbusServer.ofTables (id : Option Int) (t : Tables) : ModbusServer :=
  { id, coils := some t.coils, discrete := some t.discrete, holding := some t.holding,
    input := some t.input }

/-- The registers of a buffer; an odd last byte does not count. -/
def registers (b : Buffer) : List UInt16 := (words b).map UInt16.ofNat

/-- The odd last byte of a buffer, if there is one. -/
def oddByte (b : Buffer) : Buffer := b.drop (2 * (b.length / 2))

theorem registers_append {rs : List UInt16} {pad : Buffer} (h : pad.length ≤ 1) :
    registers (registerBytes rs ++ pad) = rs := by
  have hlt : ∀ w ∈ rs.map UInt16.toNat, w < 65536 := by
    intro w hw
    obtain ⟨r, -, rfl⟩ := List.mem_map.mp hw
    exact r.toNat_lt
  rw [registers, registerBytes, words_ofWords hlt h, List.map_map]
  have hid : ∀ r ∈ rs, (UInt16.ofNat ∘ UInt16.toNat) r = id r := fun r _ => UInt16.ofNat_toNat
  rw [List.map_congr_left hid, List.map_id]

theorem registerBytes_registers (b : Buffer) :
    registerBytes (registers b) = ofWords (words b) := by
  rw [registerBytes, registers, List.map_map]
  have hid : ∀ w ∈ words b, (UInt16.toNat ∘ UInt16.ofNat) w = id w := fun w hw => by
    have := words_lt b w hw
    simp [Nat.mod_eq_of_lt this]
  rw [List.map_congr_left hid, List.map_id]

/-- A buffer is its registers and its odd byte. -/
theorem registerBytes_append_oddByte (b : Buffer) :
    registerBytes (registers b) ++ oddByte b = b := by
  rw [registerBytes_registers, ofWords_words_take, oddByte, List.take_append_drop]

theorem length_oddByte (b : Buffer) : (oddByte b).length ≤ 1 := by
  rw [oddByte, List.length_drop]
  omega

theorem registerBytes_append (rs vs : List UInt16) :
    registerBytes (rs ++ vs) = registerBytes rs ++ registerBytes vs := by
  rw [registerBytes, List.map_append, ofWords_append, registerBytes, registerBytes]

/-- A window of the registers is a window of twice the size of their bytes. -/
theorem registerBytes_window (rs : List UInt16) (start count : Nat) :
    registerBytes (window rs start count) =
      window (registerBytes rs) (2 * start) (2 * count) := by
  rw [registerBytes, window, window, registerBytes, drop_ofWords, take_ofWords, List.map_take,
    List.map_drop]

/-- Overwriting registers overwrites twice as many bytes. -/
theorem registerBytes_overwrite (rs vs : List UInt16) (a : Nat) :
    registerBytes (overwrite rs a vs) =
      overwrite (registerBytes rs) (2 * a) (registerBytes vs) := by
  have htake : (registerBytes rs).take (2 * a) = registerBytes (rs.take a) := by
    rw [registerBytes, take_ofWords, ← List.map_take, registerBytes]
  have hdrop : (registerBytes rs).drop (2 * a + 2 * vs.length) =
      registerBytes (rs.drop (a + vs.length)) := by
    rw [registerBytes, show 2 * a + 2 * vs.length =
      2 * (a + vs.length) from by omega, drop_ofWords, ← List.map_drop, registerBytes]
  rw [overwrite, overwrite, registerBytes_append, registerBytes_append,
    length_registerBytes, htake, hdrop]

/-- A buffer of whole words is its registers. -/
theorem registerBytes_of_even {b : Buffer} (h : b.length % 2 = 0) :
    registerBytes (registers b) = b := by
  have hb := registerBytes_append_oddByte b
  have hodd : oddByte b = [] := List.drop_of_length_le (by omega)
  rw [hodd, List.append_nil] at hb
  exact hb

/-- The window of a register table that is read. -/
theorem window_table {registers : List UInt16} {start count : Nat}
    (h : start + count ≤ registers.length) (pad : Buffer) :
    ((registerBytes registers ++ pad).drop (2 * start)).take (2 * count) =
      registerBytes (window registers start count) := by
  rw [registerBytes_window, ← window_append (r := pad) (by rw [length_registerBytes]; omega),
    window]

namespace Memory

/-- The memory the tables of a server stand for. -/
def load (t : Tables) (heap : Heap) : Memory :=
  { coils := Bits.unpack (heap t.coils), discreteInputs := Bits.unpack (heap t.discrete),
    holdingRegisters := registers (heap t.holding), inputRegisters := registers (heap t.input) }

/-- The buffers when the tables stand for a memory. Everything else, an odd last byte of a
register table included, is as it is in `heap`. -/
def store (t : Tables) (heap : Heap) (m : Memory) : Heap := fun r =>
  if r = t.coils then Bits.pack m.coils
  else if r = t.discrete then Bits.pack m.discreteInputs
  else if r = t.holding then registerBytes m.holdingRegisters ++ oddByte (heap t.holding)
  else if r = t.input then registerBytes m.inputRegisters ++ oddByte (heap t.input)
  else heap r

theorem store_load (t : Tables) (heap : Heap) : store t heap (load t heap) = heap := by
  funext r
  unfold store load
  split_ifs with h₁ h₂ h₃ h₄
  · rw [h₁, Bits.pack_unpack]
  · rw [h₂, Bits.pack_unpack]
  · rw [h₃, registerBytes_append_oddByte]
  · rw [h₄, registerBytes_append_oddByte]
  · rfl

variable (t : Tables) (heap : Heap) (m : Memory)

@[simp] theorem store_coils : store t heap m t.coils = Bits.pack m.coils := by
  simp [store]

@[simp] theorem store_discrete : store t heap m t.discrete = Bits.pack m.discreteInputs := by
  have h := t.nodup
  simp only [List.nodup_cons, List.mem_cons, not_or] at h
  rw [store, if_neg (Ne.symm h.1.1), if_pos rfl]

@[simp] theorem store_holding :
    store t heap m t.holding = registerBytes m.holdingRegisters ++ oddByte
      (heap t.holding) := by
  have h := t.nodup
  simp only [List.nodup_cons, List.mem_cons, not_or] at h
  rw [store, if_neg (Ne.symm h.1.2.1), if_neg (Ne.symm h.2.1.1), if_pos rfl]

@[simp] theorem store_input :
    store t heap m t.input = registerBytes m.inputRegisters ++ oddByte (heap t.input) := by
  have h := t.nodup
  simp only [List.nodup_cons, List.mem_cons, not_or] at h
  rw [store, if_neg (Ne.symm h.1.2.2.1), if_neg (Ne.symm h.2.1.2.1), if_neg (Ne.symm h.2.2.1.1),
    if_pos rfl]

/-- Writing the coil table writes the coils. -/
theorem write_coils (coils : List Bool) :
    (store t heap m).write t.coils (Bits.pack coils) = store t heap { m with coils } := by
  funext r
  rw [Heap.write]
  by_cases h : r = t.coils
  · rw [if_pos h, h, store_coils]
  · rw [if_neg h]
    simp only [store, if_neg h]

/-- Writing the holding register table writes the holding registers. -/
theorem write_holding (holdingRegisters : List UInt16) :
    (store t heap m).write t.holding
      (registerBytes holdingRegisters ++ oddByte (heap t.holding)) =
      store t heap { m with holdingRegisters } := by
  have hne := t.nodup
  simp only [List.nodup_cons, List.mem_cons, not_or] at hne
  funext r
  rw [Heap.write]
  by_cases h : r = t.holding
  · rw [if_pos h, h, store_holding]
  · rw [if_neg h]
    simp only [store, if_neg h]

/-- The bit tables fill whole bytes. -/
def Whole (m : Memory) : Prop := 8 ∣ m.coils.length ∧ 8 ∣ m.discreteInputs.length

theorem whole_load : (load t heap).Whole :=
  ⟨⟨_, Bits.length_unpack _⟩, ⟨_, Bits.length_unpack _⟩⟩

theorem Whole.update {m : Memory} (hm : m.Whole) {op : Operation} (h : op.InRange m) :
    (m.update op).Whole := by
  obtain ⟨hc, hd, -, -⟩ := length_update h
  exact ⟨hc ▸ hm.1, hd ▸ hm.2⟩

theorem whole_run {m : Memory} (hm : m.Whole) {ops : List Operation}
    (h : ∀ op ∈ ops, op.InRange m) : (machine.run m ops).1.Whole :=
  Refinement.Machine.run_invariant (M := machine) (P := Whole) (fun hm h => hm.update h)
    (fun h h' => Operation.InRange.update h h') hm h

/-- The memory is read back of the buffers that stand for it. -/
theorem load_store {m : Memory} (hm : m.Whole) : load t (store t heap m) = m := by
  simp only [load, store_coils, store_discrete, store_holding, store_input,
    Bits.unpack_pack_of_dvd hm.1, Bits.unpack_pack_of_dvd hm.2,
    registers_append (length_oddByte _)]

theorem store_injective {m m' : Memory} (hm : m.Whole) (hm' : m'.Whole)
    (h : store t heap m = store t heap m') : m = m' := by
  rw [← load_store t heap hm, h, load_store t heap hm']

end Memory

/-! ## What the writes store -/

/-- The byte that a coil write stores. -/
theorem pack_overwrite_coil {coils : List Bool} {address : Nat} (h : address < coils.length)
    (value : Bool) :
    (Bits.pack coils).set (address / 8) (Bits.byte fun j =>
        if j = address % 8 then value
          else ((Bits.pack coils).getD (address / 8) 0).toNat.testBit j) =
      Bits.pack (overwrite coils address [value]) := by
  rw [overwrite_singleton h, Bits.pack_set]
  refine congrArg _ (Bits.byte_congr ?_)
  intro k hk
  rw [Bits.getD_pack, Bits.testBit_byte _ hk]
  by_cases hka : k = address % 8
  · rw [if_pos hka, if_pos ⟨hka, h⟩]
  · rw [if_neg hka, if_neg fun h => hka h.1]

/-- The bytes that a register write stores. -/
theorem overwrite_table {registers values : List UInt16} {address : Nat}
    (h : address + values.length ≤ registers.length) (pad : Buffer) :
    overwrite (registerBytes registers ++ pad) (2 * address) (registerBytes values) =
      registerBytes (overwrite registers address values) ++ pad := by
  rw [registerBytes_overwrite, overwrite_append]
  rw [length_registerBytes, length_registerBytes]
  omega

/-- A coil write replaces one of the coils. -/
theorem unpack_set {b : Buffer} {address : Nat} (h : address < 8 * b.length) (value : Bool) :
    Bits.unpack (b.set (address / 8) (Bits.byte fun j =>
        if j = address % 8 then value else (b.getD (address / 8) 0).toNat.testBit j)) =
      overwrite (Bits.unpack b) address [value] := by
  have hlen : address < (Bits.unpack b).length := by rw [Bits.length_unpack]; exact h
  have hset := pack_overwrite_coil hlen value
  rw [Bits.pack_unpack] at hset
  have hwhole : 8 ∣ (overwrite (Bits.unpack b) address [value]).length := by
    rw [overwrite_singleton hlen, List.length_set]
    exact ⟨_, Bits.length_unpack b⟩
  rw [hset, Bits.unpack_pack_of_dvd hwhole]

theorem oddByte_append {rs : List UInt16} {pad : Buffer} (h : pad.length ≤ 1) :
    oddByte (registerBytes rs ++ pad) = pad := by
  have hlen : 2 * ((registerBytes rs ++ pad).length / 2) = (registerBytes rs).length := by
    rw [List.length_append, length_registerBytes]
    omega
  rw [oddByte, hlen, List.drop_left]

/-- A register write replaces registers, and leaves an odd byte alone. -/
theorem registers_overwrite {b : Buffer} {values : List UInt16} {address : Nat}
    (h : address + values.length ≤ (registers b).length) :
    registers (overwrite b (2 * address) (registerBytes values)) =
      overwrite (registers b) address values ∧
      oddByte (overwrite b (2 * address) (registerBytes values)) = oddByte b := by
  have htable := overwrite_table h (oddByte b)
  rw [registerBytes_append_oddByte] at htable
  rw [htable, registers_append (length_oddByte b), oddByte_append (length_oddByte b)]
  exact ⟨rfl, rfl⟩

theorem length_registers (b : Buffer) : (registers b).length = b.length / 2 := by
  rw [registers, List.length_map, length_words]

theorem registerBytes_singleton {v : Nat} (h : v < 65536) :
    registerBytes [UInt16.ofNat v] = be16 v := by
  have hv : (UInt16.ofNat v).toNat = v := by simp [Nat.mod_eq_of_lt h]
  rw [registerBytes, List.map_singleton, hv, ofWords_cons, ofWords_nil, List.append_nil]

/-! ## The handlers -/

section Handlers

variable {w : Transport} {r : w.Request} (hr : w.Decoded r)

include hr

theorem answer_eq (heap : Heap) {body : ResponseBody} {p : Buffer}
    (hp : body.createPayload = .ok p) (hcount : body.byteCount = p.length)
    (hlen : p.length < 65535) :
    answer w.responder heap r (.ok body) = (heap, .ok (some (w.frame r p))) := by
  show (heap, (do return some (← w.responder.respond r body) : Except Thrown (Option Buffer))) =
    _
  rw [Transport.respond_eq hr hp hcount hlen]
  rfl

/-- An echo of two 16-bit fields. -/
theorem answer_words (heap : Heap) (body : ResponseBody) (fc : FC) {first second : Nat}
    (hp : body.createPayload = wordsPayload fc first second) (hcount : body.byteCount = 5)
    (h₁ : first < 65536) (h₂ : second < 65536) :
    answer w.responder heap r (.ok body) =
      (heap, .ok (some (w.frame r (UInt8.ofNat fc.code :: (be16 first ++ be16 second))))) := by
  rw [wordsPayload_natCast fc h₁ h₂] at hp
  exact answer_eq hr heap hp hcount (by simp)

/-- An exception with a code, and no MEI type. -/
theorem answerException_eq (heap : Heap) (fc : FC) (code : Nat) (hcode : code < 256) :
    answerException w.responder heap r fc code none =
      (heap, .ok (some (w.frame r [UInt8.ofNat (fc.code + 0x80), UInt8.ofNat code]))) := by
  have hp := ExceptionResponseBody.createPayload_eq { fc, code, meiType := none }
  rw [if_pos ⟨isUInt8_natCast hcode, fun _ h => nomatch h⟩] at hp
  show answer w.responder heap r (.ok (.exception { fc, code, meiType := none })) = _
  exact answer_eq hr heap hp rfl (by simp)

/-- An answer with bits. -/
theorem answer_bits (heap : Heap) (body : ResponseBody) (fc : FC) {values : List Bool}
    (hp : body.createPayload = ReadBitsResponseBody.createPayload fc (.ofArray values))
    (hcount : body.byteCount = (ReadBitsResponseBody.ofArray values).byteCount)
    (hlen : values.length ≤ 2000) :
    answer w.responder heap r (.ok body) =
      (heap, .ok (some (w.frame r (UInt8.ofNat fc.code ::
        UInt8.ofNat ((values.length + 7) / 8) :: Bits.pack values)))) := by
  rw [ReadBitsResponseBody.createPayload_ofArray, if_pos (by omega)] at hp
  refine answer_eq hr heap hp (hcount.trans ?_) ?_
  · rw [List.length_cons, List.length_cons, Bits.length_pack]
    rfl
  · rw [List.length_cons, List.length_cons, Bits.length_pack]
    omega

/-- An answer with the bytes of registers. -/
theorem answer_registerBuffer (heap : Heap) (body : ResponseBody) (fc : FC) {values : Buffer}
    (hp : body.createPayload = registersPayload fc values.length (.buffer values))
    (hcount : body.byteCount = 2 + values.length) (hlen : values.length < 256) :
    answer w.responder heap r (.ok body) =
      (heap, .ok (some
        (w.frame r (UInt8.ofNat fc.code :: UInt8.ofNat values.length :: values)))) := by
  rw [registersPayload_buffer, if_pos hlen] at hp
  refine answer_eq hr heap hp (hcount.trans ?_) ?_
  · rw [List.length_cons, List.length_cons]
    omega
  · rw [List.length_cons, List.length_cons]
    omega

/-- An answer with registers. -/
theorem answer_registers (heap : Heap) (body : ResponseBody) (fc : FC) {values : List UInt16}
    (hp : body.createPayload =
      registersPayload fc (registerBytes values).length (.buffer (registerBytes values)))
    (hcount : body.byteCount = 2 + (registerBytes values).length) (hlen : values.length ≤ 125) :
    answer w.responder heap r (.ok body) =
      (heap, .ok (some (w.frame r (UInt8.ofNat fc.code :: UInt8.ofNat (2 * values.length) ::
        registerBytes values)))) := by
  rw [answer_registerBuffer hr heap body fc hp hcount (by rw [length_registerBytes]; omega),
    length_registerBytes]

/-! ### The writes, on any table -/

section Writes

variable (server : ModbusServer) (heap : Heap)

/-- A coil that exists is set, and the request is echoed. -/
theorem handleWriteSingleCoil_inside {coils : Ref} (ht : server.coils = some coils)
    {b : WriteSingleCoilRequestBody} {address : Nat} (ha : b.address = address)
    (hlt : address < 65536) (h : address < 8 * (heap coils).length) :
    _handleWriteSingleCoil w.responder server heap r b =
      (heap.write coils ((heap coils).set (address / 8)
        (Bits.byte fun j => if j = address % 8 then b._value
          else ((heap coils).getD (address / 8) 0).toNat.testBit j)),
        .ok (some (w.frame r (UInt8.ofNat FC.writeSingleCoil.code ::
          (be16 address ++ be16 (if b._value then 0xFF00 else 0x0000)))))) := by
  have hbyte : address / 8 < (heap coils).length := by omega
  have hindex : (address : Int) / 8 = ((address / 8 : Nat) : Int) := rfl
  have hbit : ((address : Int) % 8).toNat = address % 8 := by omega
  have hvalue : ¬ (b.value ≠ 0xFF00 ∧ b.value ≠ 0x0000) := by
    cases hv : b._value <;> simp [WriteSingleCoilRequestBody.value, hv]
  have hon : (decide (b.value = 0xFF00)) = b._value := by
    cases hv : b._value <;> simp [WriteSingleCoilRequestBody.value, hv]
  have hfits : ¬ (WriteSingleCoilResponseBody.fromRequest b)._address >
      8 * ((heap coils).length : Int) := by
    show ¬ b.address > _
    omega
  -- the byte that is stored is the old one with the coil replaced
  have hwrite := maskedByte_eq b._value ((heap coils).getD (address / 8) 0)
    (Nat.mod_lt address (by decide : 0 < 8))
  unfold _handleWriteSingleCoil
  simp only [ht, ha, hindex, readUInt8_natCast hbyte, hon, hbit, if_neg hvalue,
    if_neg hfits, hwrite, writeUInt8_natCast _ hbyte, storeAndAnswer]
  have hecho : (ResponseBody.writeSingleCoil (.fromRequest b)).createPayload =
      wordsPayload .writeSingleCoil address ((if b._value then 0xFF00 else 0x0000 : Nat)) := by
    show wordsPayload .writeSingleCoil b.address _ = _
    rw [ha]
    cases hv : b._value <;>
      simp [WriteSingleCoilResponseBody.fromRequest, WriteSingleCoilRequestBody.value, hv]
  refine answer_words hr _ _ _ hecho rfl hlt ?_
  split <;> omega

/-- A register that exists is set, and the request is echoed. -/
theorem handleWriteSingleHoldingRegister_inside {holding : Ref}
    (ht : server.holding = some holding) {b : WriteSingleRegisterRequestBody}
    {address value : Nat} (ha : b.address = address) (hv : b.value = value)
    (hlt : address < 65536) (hlt' : value < 65536)
    (h : 2 * address + 2 ≤ (heap holding).length) :
    _handleWriteSingleHoldingRegister w.responder server heap r b =
      (heap.write holding (overwrite (heap holding) (2 * address) (be16 value)),
        .ok (some (w.frame r (UInt8.ofNat FC.writeSingleHoldingRegister.code ::
          (be16 address ++ be16 value))))) := by
  have hindex : (address : Int) * 2 = ((2 * address : Nat) : Int) := by omega
  have hfits : ¬ ((2 * address : Nat) : Int) > (heap holding).length := by omega
  have hwrite := writeUInt16BE_natCast (v := (value : Int)) (isUInt16_natCast hlt') h
  rw [Int.toNat_natCast] at hwrite
  unfold _handleWriteSingleHoldingRegister
  simp only [ht, WriteSingleRegisterResponseBody.fromRequest, ha, hv, hindex,
    if_neg hfits, hwrite, storeAndAnswer]
  exact answer_words hr _ (.writeSingleRegister ⟨address, value⟩) .writeSingleHoldingRegister
    rfl rfl hlt hlt'

/-- Multiple coils are written as far as they exist, and the request is echoed. -/
theorem handleWriteMultipleCoils_any {coils : Ref} (ht : server.coils = some coils)
    {b : WriteMultipleCoilsRequestBody} {address quantity : Nat} (ha : b.address = address)
    (hq : b.quantity = quantity) (hlt : address < 65536) (hlt' : quantity < 65536) :
    _handleWriteMultipleCoils w.responder server heap r b =
      (heap.write coils (Bits.pack (replaceStatus address ((address : Int) + quantity)
          (Bits.unpack (heap coils)) 0 (Bits.unpack b.valuesAsBuffer))),
        .ok (some (w.frame r (UInt8.ofNat FC.writeMultipleCoils.code ::
          (be16 address ++ be16 quantity))))) := by
  have hsize :
      (Bits.pack (replaceStatus address ((address : Int) + quantity)
        (Bits.unpack (heap coils)) 0 (Bits.unpack b.valuesAsBuffer))).length =
        (heap coils).length := by
    rw [Bits.length_pack, length_replaceStatus, Bits.length_unpack]
    omega
  rw [_handleWriteMultipleCoils_eq _ heap r b ht, coilByCoil_eq, ha, hq,
    WriteMultipleCoilsResponseBody.fromRequest, ha, hq]
  show storeAndAnswer w.responder heap r coils (fill (heap coils) _ 0 (heap coils).length) _ = _
  rw [fill_all hsize]
  exact answer_words hr _ (.writeMultipleCoils ⟨address, quantity⟩) .writeMultipleCoils rfl rfl
    hlt hlt'

/-- Multiple registers that all exist are set, and the request is echoed. -/
theorem handleWriteMultipleHoldingRegisters_inside {holding : Ref}
    (ht : server.holding = some holding) {address : Nat} {values : Buffer}
    (hlt : address < 65536) (hle : values.length ≤ 246)
    (h : 2 * address + values.length ≤ (heap holding).length) :
    _handleWriteMultipleHoldingRegisters w.responder server heap r (.ofBuffer address values) =
      (heap.write holding (overwrite (heap holding) (2 * address) values),
        .ok (some (w.frame r (UInt8.ofNat FC.writeMultipleHoldingRegisters.code ::
          (be16 address ++ be16 (values.length / 2)))))) := by
  have hindex : (address : Int) * 2 = ((2 * address : Nat) : Int) := by omega
  have hfits : ¬ ((2 * address : Nat) : Int) + values.length > (heap holding).length := by omega
  unfold _handleWriteMultipleHoldingRegisters
  simp only [ht, WriteMultipleRegistersRequestBody.ofBuffer, RegisterValues.length,
    RegisterValues.toUint8Array, hindex, if_neg hfits, fill_natCast h, storeAndAnswer]
  exact answer_words hr _ (.writeMultipleRegisters ⟨address, (values.length / 2 : Nat)⟩)
    .writeMultipleHoldingRegisters rfl rfl hlt (by omega)

end Writes

/-! ### The handlers, on the tables of a memory -/

variable (id : Option Int) (t : Tables) (heap : Heap) {m : Memory}

theorem handleReadCoil_eq (hm : m.Whole) {b : ReadCoilsRequestBody} {start count : Nat}
    (hs : b.start = start) (hc : b.count = count)
    (h : (Operation.readCoils start count).InRange m) :
    _handleReadCoil w.responder (.ofTables id t) (m.store t heap) r b =
      (m.store t heap, .ok (some (w.frame r (m.answer (.readCoils start count)).pdu))) := by
  have hbody := ReadBitsResponseBody.fromRequest_eq hs hc (Bits.pack m.coils)
  rw [Bits.unpack_pack_of_dvd hm.1] at hbody
  show answer w.responder _ r _ = _
  rw [Memory.store_coils, hbody]
  refine answer_bits hr _ (.readCoils (.ofArray (window m.coils start count))) _ rfl rfl ?_
  rw [length_window h.2]
  exact h.1

theorem handleDiscreteInput_eq (hm : m.Whole) {b : ReadDiscreteInputsRequestBody}
    {start count : Nat} (hs : b.start = start) (hc : b.count = count)
    (h : (Operation.readDiscreteInputs start count).InRange m) :
    _handleDiscreteInput w.responder (.ofTables id t) (m.store t heap) r b =
      (m.store t heap,
        .ok (some (w.frame r (m.answer (.readDiscreteInputs start count)).pdu))) := by
  have hbody := ReadBitsResponseBody.fromRequest_eq hs hc (Bits.pack m.discreteInputs)
  rw [Bits.unpack_pack_of_dvd hm.2] at hbody
  show answer w.responder _ r _ = _
  rw [Memory.store_discrete, hbody]
  refine answer_bits hr _
    (.readDiscreteInputs (.ofArray (window m.discreteInputs start count))) _ rfl rfl ?_
  rw [length_window h.2]
  exact h.1

theorem handleReadHoldingRegisters_eq {b : ReadHoldingRegistersRequestBody} {start count : Nat}
    (hs : b.start = start) (hc : b.count = count)
    (h : (Operation.readHoldingRegisters start count).InRange m) :
    _handleReadHoldingRegisters w.responder (.ofTables id t) (m.store t heap) r b =
      (m.store t heap,
        .ok (some (w.frame r (m.answer (.readHoldingRegisters start count)).pdu))) := by
  obtain ⟨hmax, hrange⟩ := h
  have hbody := ReadHoldingRegistersResponseBody.fromRequest_eq hs hc
    (registerBytes m.holdingRegisters ++ oddByte (heap t.holding))
    (by rw [List.length_append, length_registerBytes]; omega)
  have hlen : 2 * count = (registerBytes (window m.holdingRegisters start count)).length := by
    rw [length_registerBytes, length_window hrange]
  rw [window_table hrange, hlen] at hbody
  show answer w.responder _ r _ = _
  rw [Memory.store_holding, hbody]
  refine answer_registers hr _ (.readHoldingRegisters (.ofBuffer _ _)) _ rfl rfl ?_
  rw [length_window hrange]
  exact hmax

theorem handleReadInputRegisters_eq {b : ReadInputRegistersRequestBody} {start count : Nat}
    (hs : b.start = start) (hc : b.count = count)
    (h : (Operation.readInputRegisters start count).InRange m) :
    _handleReadInputRegisters w.responder (.ofTables id t) (m.store t heap) r b =
      (m.store t heap,
        .ok (some (w.frame r (m.answer (.readInputRegisters start count)).pdu))) := by
  obtain ⟨hmax, hrange⟩ := h
  have hbody := ReadInputRegistersResponseBody.fromRequest_eq hs hc
    (registerBytes m.inputRegisters ++ oddByte (heap t.input))
    (by rw [List.length_append, length_registerBytes]; omega)
  have hlen : 2 * count = (registerBytes (window m.inputRegisters start count)).length := by
    rw [length_registerBytes, length_window hrange]
  rw [window_table hrange, hlen] at hbody
  show answer w.responder _ r _ = _
  rw [Memory.store_input, hbody]
  refine answer_registers hr _ (.readInputRegisters (.ofBuffer _ _)) _ rfl rfl ?_
  rw [length_window hrange]
  exact hmax

theorem handleWriteSingleCoil_eq {b : WriteSingleCoilRequestBody} {address : Nat}
    (ha : b.address = address) (hlt : address < 65536)
    (h : (Operation.writeCoil address b._value).InRange m) :
    _handleWriteSingleCoil w.responder (.ofTables id t) (m.store t heap) r b =
      ((m.update (.writeCoil address b._value)).store t heap,
        .ok (some (w.frame r (m.answer (.writeCoil address b._value)).pdu))) := by
  have hin : address < 8 * (m.store t heap t.coils).length := by
    have : address < m.coils.length := h
    rw [Memory.store_coils, Bits.length_pack]
    omega
  rw [handleWriteSingleCoil_inside hr (.ofTables id t) (m.store t heap) rfl ha hlt hin,
    Memory.store_coils, pack_overwrite_coil h, Memory.write_coils]
  rfl

theorem handleWriteSingleHoldingRegister_eq {b : WriteSingleRegisterRequestBody}
    {address value : Nat} (ha : b.address = address) (hv : b.value = value)
    (hlt : address < 65536) (hlt' : value < 65536)
    (h : (Operation.writeRegister address (UInt16.ofNat value)).InRange m) :
    _handleWriteSingleHoldingRegister w.responder (.ofTables id t) (m.store t heap) r b =
      ((m.update (.writeRegister address (UInt16.ofNat value))).store t heap,
        .ok (some
          (w.frame r (m.answer (.writeRegister address (UInt16.ofNat value))).pdu))) := by
  have hrange : address + [UInt16.ofNat value].length ≤ m.holdingRegisters.length := h
  have hin : 2 * address + 2 ≤ (m.store t heap t.holding).length := by
    rw [Memory.store_holding, List.length_append, length_registerBytes]
    rw [List.length_singleton] at hrange
    omega
  have hvalue : (UInt16.ofNat value).toNat = value := by simp [Nat.mod_eq_of_lt hlt']
  have htable := overwrite_table hrange (oddByte (heap t.holding))
  rw [registerBytes_singleton hlt'] at htable
  rw [handleWriteSingleHoldingRegister_inside hr (.ofTables id t)
    (m.store t heap) rfl ha hv hlt hlt' hin, Memory.store_holding, htable, Memory.write_holding,
    Memory.answer, Answer.pdu, hvalue]
  rfl

theorem handleWriteMultipleCoils_eq (hm : m.Whole) {address quantity : Nat} {values : Buffer}
    (hlt : address < 65536) (hlt' : quantity < 65536) (hle : quantity ≤ 8 * values.length)
    (h : (Operation.writeCoils address ((Bits.unpack values).take quantity)).InRange m)
    {b : WriteMultipleCoilsRequestBody} (ha : b.address = address) (hq : b.quantity = quantity)
    (hvalues : b.valuesAsBuffer = values) :
    _handleWriteMultipleCoils w.responder (.ofTables id t) (m.store t heap) r b =
      ((m.update (.writeCoils address ((Bits.unpack values).take quantity))).store t heap,
        .ok (some (w.frame r
          (m.answer (.writeCoils address ((Bits.unpack values).take quantity))).pdu))) := by
  have hlen : ((Bits.unpack values).take quantity).length = quantity := by
    rw [List.length_take, Bits.length_unpack, Nat.min_eq_left hle]
  have hrange : address + ((Bits.unpack values).take quantity).length ≤ m.coils.length := h
  -- the bits behind the quantity are offered to the map, which does not take them
  have hstatus := replaceStatus_eq hrange ((Bits.unpack values).drop quantity)
  rw [List.take_append_drop, hlen] at hstatus
  rw [handleWriteMultipleCoils_any hr (.ofTables id t) (m.store t heap) rfl ha hq hlt hlt',
    hvalues, Memory.store_coils, Bits.unpack_pack_of_dvd hm.1, hstatus, Memory.write_coils,
    Memory.answer, Answer.pdu, hlen]
  rfl

theorem handleWriteMultipleHoldingRegisters_eq {address : Nat} {values : Buffer}
    (hlt : address < 65536) (hle : values.length ≤ 246) (heven : values.length % 2 = 0)
    (h : (Operation.writeRegisters address (registers values)).InRange m) :
    _handleWriteMultipleHoldingRegisters w.responder (.ofTables id t) (m.store t heap) r
        (.ofBuffer address values) =
      ((m.update (.writeRegisters address (registers values))).store t heap,
        .ok (some
          (w.frame r (m.answer (.writeRegisters address (registers values))).pdu))) := by
  have hlen : (registers values).length = values.length / 2 := by
    rw [registers, List.length_map, length_words]
  have hrange : address + (registers values).length ≤ m.holdingRegisters.length := h
  have hin : 2 * address + values.length ≤ (m.store t heap t.holding).length := by
    rw [Memory.store_holding, List.length_append, length_registerBytes]
    omega
  have htable := overwrite_table hrange (oddByte (heap t.holding))
  rw [registerBytes_of_even heven] at htable
  rw [handleWriteMultipleHoldingRegisters_inside hr (.ofTables id t)
    (m.store t heap) rfl hlt hle hin, Memory.store_holding, htable, Memory.write_holding,
    Memory.answer, Answer.pdu, hlen]
  rfl

/-- A request that asks for an operation in range does what the operation does. -/
theorem handle_eq (hm : m.Whole) {op : Operation} (hop : (w.body r).content.operation = some op)
    (h : op.InRange m) :
    handle w.responder (.ofTables id t) (m.store t heap) r =
      ((m.update op).store t heap, .ok (some (w.frame r (m.answer op).pdu))) := by
  have hwire := Transport.fromWire_body hr
  unfold handle
  rw [show w.responder.body r = w.body r from rfl]
  generalize w.body r = body at hwire hop
  cases hwire with
  | @readCoils b start count hs hc =>
    obtain rfl : .readCoils start count = op := by
      simpa [RequestBody.content, RequestContent.operation, hs, hc] using hop
    exact handleReadCoil_eq hr id t heap hm hs hc h
  | @readDiscreteInputs b start count hs hc =>
    obtain rfl : .readDiscreteInputs start count = op := by
      simpa [RequestBody.content, RequestContent.operation, hs, hc] using hop
    exact handleDiscreteInput_eq hr id t heap hm hs hc h
  | @readHoldingRegisters b start count hs hc =>
    obtain rfl : .readHoldingRegisters start count = op := by
      simpa [RequestBody.content, RequestContent.operation, hs, hc] using hop
    exact handleReadHoldingRegisters_eq hr id t heap hs hc h
  | @readInputRegisters b start count hs hc =>
    obtain rfl : .readInputRegisters start count = op := by
      simpa [RequestBody.content, RequestContent.operation, hs, hc] using hop
    exact handleReadInputRegisters_eq hr id t heap hs hc h
  | @writeSingleCoil b address ha hlt =>
    obtain rfl : .writeCoil address b._value = op := by
      simpa [RequestBody.content, RequestContent.operation, ha] using hop
    exact handleWriteSingleCoil_eq hr id t heap ha hlt h
  | @writeSingleRegister b address value ha hv hlt hlt' =>
    obtain rfl : .writeRegister address (UInt16.ofNat value) = op := by
      simpa [RequestBody.content, RequestContent.operation, ha, hv] using hop
    exact handleWriteSingleHoldingRegister_eq hr id t heap ha hv hlt hlt' h
  | @writeMultipleCoils address quantity values hlt hlt' hlen hle =>
    -- a quantity of zero is taken for the number of bytes
    have htotal : ∃ total : Nat, (if quantity = 0 then values.length else quantity) = total ∧
        total < 65536 ∧ total ≤ 8 * values.length :=
          ⟨_, rfl, by split <;> omega, by split <;> omega⟩
    obtain ⟨total, htotal, hlt', hle⟩ := htotal
    obtain rfl : .writeCoils address ((Bits.unpack values).take total) = op := by
      simpa [RequestBody.content, RequestContent.operation,
        WriteMultipleCoilsRequestBody.ofBuffer, htotal] using hop
    exact handleWriteMultipleCoils_eq hr id t heap hm hlt hlt' hle h rfl
      (congrArg Int.ofNat htotal) rfl
  | @writeMultipleRegisters address values hlt hle heven =>
    obtain rfl : .writeRegisters address (registers values) = op := by
      have hmap : ((words values).map Nat.cast).map (fun v : Int => UInt16.ofNat v.toNat) =
          registers values := List.map_map ..
      rw [← hmap]
      exact Option.some.inj hop
    exact handleWriteMultipleHoldingRegisters_eq hr id t heap hlt hle heven h
  | readDeviceIdentification =>
    cases hop

end Handlers

/-! ## The server as a machine -/

/-- The response handler of a server with four tables. Its outputs are the payloads. -/
def serverMachine (w : Transport) (id : Option Int) (t : Tables) :
    Refinement.Machine Heap w.Request (Except Thrown (Option Buffer)) :=
  ⟨handle w.responder (.ofTables id t)⟩

/-- The request was decoded, and asks for the operation. -/
def Transport.AsksFor (w : Transport) (r : w.Request) (op : Operation) : Prop :=
  w.Decoded r ∧ (w.body r).content.operation = some op

/-- The tables of a server represent the memory. -/
theorem handle_represents (w : Transport) (id : Option Int) (t : Tables) (heap : Heap) :
    Refinement.Represents (serverMachine w id t) Memory.machine
      (fun m op => m.Whole ∧ op.InRange m) (Memory.store t heap) w.AsksFor
      (fun r a => .ok (some (w.frame r a.pdu))) where
  step := fun hr h => handle_eq hr.1 id t heap h.1 hr.2 h.2
  keep := fun h h' => ⟨h.1.update h.2, h.2.update h'.2⟩

/-- A sequence of requests does to the tables of a server what its operations do to the
memory they stand for, and every request is answered with the answer of its operation. -/
theorem handle_run_eq (w : Transport) (id : Option Int) (t : Tables) (heap : Heap)
    {requests : List w.Request} {ops : List Operation}
    (hasks : List.Forall₂ w.AsksFor requests ops)
    (hrange : ∀ op ∈ ops, op.InRange (.load t heap)) :
    (serverMachine w id t).run heap requests =
      ((Memory.machine.run (.load t heap) ops).1.store t heap,
        List.zipWith (fun r a => .ok (some (w.frame r a.pdu))) requests
          (Memory.machine.run (.load t heap) ops).2) := by
  have hrun := (handle_represents w id t heap).run_eq hasks (.load t heap)
    fun op hop => ⟨Memory.whole_load t heap, hrange op hop⟩
  rw [Memory.store_load] at hrun
  exact hrun

/-- Switching on coil 3, and reading the eight coils behind coil 2. -/
theorem handle_run_eq_tcp :
    ((serverMachine .tcp none ⟨0, 1, 2, 3, by decide⟩).run (fun _ => [0x00, 0xFF])
      [⟨1, 0, 6, 1, .writeSingleCoil ⟨3, true, by decide⟩⟩,
        ⟨2, 0, 6, 1, .readCoils ⟨2, 8, by decide, by decide⟩⟩]).2 =
      [.ok (some [0, 1, 0, 0, 0, 6, 1, 5, 0, 3, 0xFF, 0]),
        .ok (some [0, 2, 0, 0, 0, 4, 1, 1, 1, 0xC2])] := by
  have hwrite : ModbusTCPRequest.fromBuffer [0, 1, 0, 0, 0, 6, 1, 5, 0, 3, 0xFF, 0] =
      some ⟨1, 0, 6, 1, .writeSingleCoil ⟨3, true, by decide⟩⟩ := by decide +kernel
  have hread : ModbusTCPRequest.fromBuffer [0, 2, 0, 0, 0, 6, 1, 1, 0, 2, 0, 8] =
      some ⟨2, 0, 6, 1, .readCoils ⟨2, 8, by decide, by decide⟩⟩ := by decide +kernel
  have hasks : List.Forall₂ (Transport.AsksFor .tcp)
      [⟨1, 0, 6, 1, .writeSingleCoil ⟨3, true, by decide⟩⟩,
        ⟨2, 0, 6, 1, .readCoils ⟨2, 8, by decide, by decide⟩⟩]
      [.writeCoil 3 true, .readCoils 2 8] :=
    .cons ⟨Transport.decoded_tcp hwrite, rfl⟩ (.cons ⟨Transport.decoded_tcp hread, rfl⟩ .nil)
  rw [handle_run_eq .tcp none ⟨0, 1, 2, 3, by decide⟩ (fun _ => [0x00, 0xFF]) hasks
    (by decide +kernel)]
  rfl

end NodeModbus

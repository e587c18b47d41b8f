import NodeModbus.Lib.Refinement
import NodeModbus.Request.Constructible
import NodeModbus.Server.Refinement

/-!
# The tables that servers share

A table that is left out of the options of a server is one of the module. All servers
that leave it out have the same buffer.

- `ModbusServer.new`: the constructor, with the buffers of the module as explicit state.
- `handle_frame`, `handle_agree`: the buffers a request can change, and those its answer
  depends on.
- `isolated_iff`: requests to one server do not change the answers of another if and
  only if the two do not share the coils of the module, nor its holding registers.
-/

namespace NodeModbus

open Buffer Refinement Words ModbusServerResponseHandler

/-! ## The constructor -/

/-- `Partial<IModbusServerOptions>`: any of the options may be left out. -/
structure ModbusServerOptions where
  id : Option (Option Int)
  coils : Option (Option Ref)
  discrete : Option (Option Ref)
  holding : Option (Option Ref)
  input : Option (Option Ref)

/-- `DEFAULT_MODBUS_SERVER_OPTIONS`, with the buffers that are made when the module is
loaded. -/
def DEFAULT_MODBUS_SERVER_OPTIONS (buffers : Tables) : ModbusServer := .ofTables none buffers

/-- The constructor: the defaults, and over them the options that are given. -/
def ModbusServer.new (buffers : Tables) (options : ModbusServerOptions) : ModbusServer :=
  let defaults := DEFAULT_MODBUS_SERVER_OPTIONS buffers
  { id := options.id.getD defaults.id, coils := options.coils.getD defaults.coils,
    discrete := options.discrete.getD defaults.discrete,
    holding := options.holding.getD defaults.holding, input :=
      options.input.getD defaults.input }

/-! ## The buffers a request depends on -/

/-- The tables of a server. -/
def ModbusServer.tables (server : ModbusServer) : List Ref :=
  server.coils.toList ++ server.discrete.toList ++ server.holding.toList ++ server.input.toList

/-- The tables of a server that requests can change. -/
def ModbusServer.writable (server : ModbusServer) : List Ref :=
  server.coils.toList ++ server.holding.toList

/-- Two memories with the same contents in some of the buffers. -/
def Agree (refs : List Ref) (heap heap' : Heap) : Prop := ∀ r ∈ refs, heap r = heap' r

theorem Agree.write {refs : List Ref} {heap heap' : Heap} (h : Agree refs heap heap') (t : Ref)
    (b : Buffer) : Agree refs (heap.write t b) (heap'.write t b) := by
  intro r hr
  rw [Heap.write, Heap.write]
  split
  · rfl
  · exact h r hr

/-- Two outcomes with the same answer, after the same change of a table, if there is one. -/
def Alike (server : ModbusServer) (heap heap' : Heap) (o o' : Outcome) : Prop :=
  o.2 = o'.2 ∧ (o.1 = heap ∧ o'.1 = heap' ∨
    ∃ t ∈ server.writable, ∃ b, o.1 = heap.write t b ∧ o'.1 = heap'.write t b)

section Handlers

variable {ρ : Type} (R : Responder ρ) {server : ModbusServer} {heap heap' : Heap}

/-- Without a change. -/
theorem alike_self (result : Except Thrown (Option Buffer)) :
    Alike server heap heap' (heap, result) (heap', result) :=
  ⟨rfl, .inl ⟨rfl, rfl⟩⟩

theorem alike_storeAndAnswer {t : Ref} (ht : t ∈ server.writable) (request : ρ)
    (newTable : Except Thrown Buffer) (body : ResponseBody) :
    Alike server heap heap' (storeAndAnswer R heap request t newTable body)
      (storeAndAnswer R heap' request t newTable body) := by
  cases newTable with
  | error e => exact alike_self _
  | ok b => exact ⟨rfl, .inr ⟨t, ht, b, rfl, rfl⟩⟩

/-- A request does alike in two memories that agree on the tables of its server. -/
theorem handle_alike (h : Agree server.tables heap heap') (request : ρ) :
    Alike server heap heap' (handle R server heap request) (handle R server heap' request) := by
  have hcoils : ∀ t, server.coils = some t → heap t = heap' t ∧ t ∈ server.writable := by
    intro t ht
    exact ⟨h t (by simp [ModbusServer.tables, ht]), by simp [ModbusServer.writable, ht]⟩
  have hdiscrete : ∀ t, server.discrete = some t → heap t = heap' t := fun t ht =>
    h t (by simp [ModbusServer.tables, ht])
  have hholding : ∀ t, server.holding = some t → heap t = heap' t ∧ t ∈ server.writable := by
    intro t ht
    exact ⟨h t (by simp [ModbusServer.tables, ht]), by simp [ModbusServer.writable, ht]⟩
  have hinput : ∀ t, server.input = some t → heap t = heap' t := fun t ht =>
    h t (by simp [ModbusServer.tables, ht])
  unfold handle
  cases R.body request with
  | exception body => exact alike_self _
  | readCoils body =>
    dsimp only [_handleReadCoil]
    split
    · exact alike_self _
    · rename_i coils ht
      rw [(hcoils coils ht).1]
      exact alike_self _
  | readDiscreteInputs body =>
    dsimp only [_handleDiscreteInput]
    split
    · exact alike_self _
    · rename_i discrete ht
      rw [hdiscrete discrete ht]
      exact alike_self _
  | readHoldingRegisters body =>
    dsimp only [_handleReadHoldingRegisters]
    split
    · exact alike_self _
    · rename_i holding ht
      rw [(hholding holding ht).1]
      exact alike_self _
  | readInputRegisters body =>
    dsimp only [_handleReadInputRegisters]
    split
    · exact alike_self _
    · rename_i input ht
      rw [hinput input ht]
      exact alike_self _
  | readDeviceIdentification body =>
    dsimp only [_handleReadDeviceIdentification]
    split_ifs <;> exact alike_self _
  | writeSingleCoil body =>
    dsimp only [_handleWriteSingleCoil]
    split
    · exact alike_self _
    · rename_i coils ht
      rw [(hcoils coils ht).1]
      split
      · exact alike_self _
      · split_ifs
        · exact alike_self _
        · exact alike_self _
        · exact alike_storeAndAnswer R (hcoils coils ht).2 ..
  | writeSingleRegister body =>
    dsimp only [_handleWriteSingleHoldingRegister]
    split
    · exact alike_self _
    · rename_i holding ht
      rw [(hholding holding ht).1]
      split_ifs
      · exact alike_self _
      · exact alike_storeAndAnswer R (hholding holding ht).2 ..
  | writeMultipleCoils body =>
    dsimp only [_handleWriteMultipleCoils]
    split
    · exact alike_self _
    · rename_i coils ht
      rw [(hcoils coils ht).1]
      exact alike_storeAndAnswer R (hcoils coils ht).2 ..
  | writeMultipleRegisters body =>
    dsimp only [_handleWriteMultipleHoldingRegisters]
    split
    · exact alike_self _
    · rename_i holding ht
      rw [(hholding holding ht).1]
      split_ifs
      · exact alike_self _
      · exact alike_storeAndAnswer R (hholding holding ht).2 ..

/-- The answer is the same, and the tables still agree. -/
theorem handle_agree (h : Agree server.tables heap heap') (request : ρ) :
    (handle R server heap request).2 = (handle R server heap' request).2 ∧
      Agree server.tables (handle R server heap request).1
        (handle R server heap' request).1 := by
  obtain ⟨hanswer, ⟨hleft, hright⟩ | ⟨t, -, b, hleft, hright⟩⟩ := handle_alike R h request
  · exact ⟨hanswer, by rw [hleft, hright]; exact h⟩
  · exact ⟨hanswer, by rw [hleft, hright]; exact h.write t b⟩

/-- A request changes no buffer but the coils and the holding registers of its server. -/
theorem handle_frame {refs : List Ref} (hrefs : ∀ t ∈ server.writable, t ∉ refs)
    (h : Agree refs heap heap') (request : ρ) :
    Agree refs (handle R server heap request).1 heap' := by
  have hself : Agree server.tables heap heap := fun _ _ => rfl
  obtain ⟨-, ⟨hleft, -⟩ | ⟨t, ht, b, hleft, -⟩⟩ := handle_alike R hself request
  · rw [hleft]
    exact h
  · rw [hleft]
    intro r hr
    have hne : r ≠ t := fun heq => hrefs t ht (heq ▸ hr)
    exact (if_neg hne).trans (h r hr)

end Handlers

/-! ## Two servers -/

/-- Two servers, with their transports, that take requests one at a time. -/
def twoServers (w w' : Transport) (server server' : ModbusServer) :
    Machine Heap (w.Request ⊕ w'.Request) (Except Thrown (Option Buffer)) where
  step heap
    | .inl request => handle w.responder server heap request
    | .inr request => handle w'.responder server' heap request

section TwoServers

variable {w w' : Transport} {server server' : ModbusServer}

/-- Nothing that the second server can change is a table of the first one. -/
theorem unwinding_left (h : ∀ t ∈ server'.writable, t ∉ server.tables) :
    Unwinding (twoServers w w' server server') Sum.isLeft (Agree server.tables) where
  output {_ _ i} hagree hi := by
    cases i with
    | inl request => exact (handle_agree w.responder hagree request).1
    | inr request => cases hi
  own {_ _ i} hagree hi := by
    cases i with
    | inl request => exact (handle_agree w.responder hagree request).2
    | inr request => cases hi
  other {_ _ i} hagree hi := by
    cases i with
    | inl request => cases hi
    | inr request => exact handle_frame w'.responder h hagree request

/-- Nothing that the first server can change is a table of the second one. -/
theorem unwinding_right (h : ∀ t ∈ server.writable, t ∉ server'.tables) :
    Unwinding (twoServers w w' server server') Sum.isRight (Agree server'.tables) where
  output {_ _ i} hagree hi := by
    cases i with
    | inl request => cases hi
    | inr request => exact (handle_agree w'.responder hagree request).1
  own {_ _ i} hagree hi := by
    cases i with
    | inl request => cases hi
    | inr request => exact (handle_agree w'.responder hagree request).2
  other {_ _ i} hagree hi := by
    cases i with
    | inl request => exact handle_frame w.responder h hagree request
    | inr request => cases hi

end TwoServers

/-! ## Servers that share a table -/

/-- The contents of a table, or nothing when it is missing. -/
def Heap.contents (heap : Heap) (t : Option Ref) : Buffer := (t.map heap).getD []

/-- The memory a server stands for, with some of its tables missing or not. -/
def ModbusServer.memory (server : ModbusServer) (heap : Heap) : Memory :=
  { coils := Bits.unpack (heap.contents server.coils),
    discreteInputs := Bits.unpack (heap.contents server.discrete),
    holdingRegisters := registers (heap.contents server.holding),
    inputRegisters := registers (heap.contents server.input) }

/-- A valid request whose window lies in its table. -/
def ModbusServer.Serves (w : Transport) (server : ModbusServer) (heap : Heap)
    (request : w.Request) : Prop :=
  ∃ op, w.AsksFor request op ∧ op.InRange (server.memory heap)

/-- What is asked of two servers: of every interleaving of valid requests, each of the two
gives the answers it would give without the requests to the other one. -/
def Isolated (w w' : Transport) (server server' : ModbusServer) (heap : Heap) : Prop :=
  ∀ requests : List (w.Request ⊕ w'.Request),
    (∀ i ∈ requests, i.elim (server.Serves w heap) (server'.Serves w' heap)) →
      (twoServers w w' server server').Noninterfering Sum.isLeft heap requests ∧
        (twoServers w w' server server').Noninterfering Sum.isRight heap requests

/-- A body that is sent, and has no values to be read back in another form. -/
structure RequestBody.Plain (b : RequestBody) : Prop where
  inRange : b.InRange
  sendable : b.Sendable
  valuesAsBuffer : b.valuesAsBuffer = none

/-- It is the body of a request that is decoded. -/
theorem Transport.exists_decoded (w : Transport) {b : RequestBody} (h : b.Plain) :
    ∃ request, w.Decoded request ∧ w.body request = b := by
  obtain ⟨p, hp⟩ := h.inRange.createPayload_ok
  have hframed := RequestBody.framed_of_sendable h.sendable hp
  have hlen := hframed.length_le h.sendable
  cases w with
  | tcp =>
    have hlengths := RequestBody.honestLengths_of_framed (fun _ => 0) hp hframed hlen
    obtain ⟨_, frame, -, -, -, -, r, hr, -, -, hcontent⟩ :=
      hlengths.tcp ⟨0, 0, 0, 0, b⟩ rfl (show IsUInt16 0 by decide) (show IsUInt8 0 by decide)
    exact ⟨r, decoded_tcp hr, RequestBody.eq_of_content h.valuesAsBuffer
      (congrArg (fun c => c.2.2) hcontent)⟩
  | rtu crc16modbus =>
    have hlengths := RequestBody.honestLengths_of_framed crc16modbus hp hframed hlen
    obtain ⟨frame, -, r, hr, hcrc, -, hcontent⟩ := hlengths.rtu ⟨0, b, false⟩ rfl
    exact ⟨r, decoded_rtu hr hcrc,
      RequestBody.eq_of_content h.valuesAsBuffer (congrArg (fun c => c.2) hcontent)⟩

section Shared

variable {w w' : Transport} {server server' : ModbusServer} {buffers : Tables} {heap : Heap}

/-- A server does with a body what a server with all the tables of the module does. -/
def LikeDefaults (buffers : Tables) (server : ModbusServer) (b : RequestBody) : Prop :=
  ∀ {ρ : Type} (R : Responder ρ) (heap : Heap) (request : ρ), R.body request = b →
    handle R server heap request = handle R (DEFAULT_MODBUS_SERVER_OPTIONS buffers) heap request

/-- Two servers are not isolated when a write to the one changes what is read of the other. -/
theorem not_isolated {write read : RequestBody} (hwrite : write.Plain) (hread : read.Plain)
    (hlike : LikeDefaults buffers server write) (hlike' : LikeDefaults buffers server' read)
    {op op' : Operation} (hop : write.content.operation = some op)
    (hop' : read.content.operation = some op') (hrange : op.InRange (server.memory heap))
    (hrange' : op'.InRange (server'.memory heap)) (hload : op.InRange (.load buffers heap))
    (hload' : op'.InRange (.load buffers heap))
    (hdiffer : (((Memory.load buffers heap).update op).answer op').pdu ≠
      ((Memory.load buffers heap).answer op').pdu) :
    ¬ Isolated w w' server server' heap := by
  obtain ⟨r, hr, hbody⟩ := w.exists_decoded hwrite
  obtain ⟨r', hr', hbody'⟩ := w'.exists_decoded hread
  rw [← hbody] at hop
  rw [← hbody'] at hop'
  have hwhole := Memory.whole_load buffers heap
  have halone := handle_eq hr' none buffers heap hwhole hop' hload'
  have hfirst := handle_eq hr none buffers heap hwhole hop hload
  have hsecond :=
    handle_eq hr' none buffers heap (hwhole.update hload) hop' (hload.update hload')
  rw [Memory.store_load, ← DEFAULT_MODBUS_SERVER_OPTIONS, ← hlike' _ _ _ hbody'] at halone
  rw [Memory.store_load, ← DEFAULT_MODBUS_SERVER_OPTIONS, ← hlike _ _ _ hbody] at hfirst
  rw [← DEFAULT_MODBUS_SERVER_OPTIONS, ← hlike' _ _ _ hbody'] at hsecond
  intro hisolated
  have hvalid : ∀ i ∈ [Sum.inl r, Sum.inr r'],
      Sum.elim (server.Serves w heap) (server'.Serves w' heap) i := by
    intro i hi
    rcases List.mem_cons.mp hi with rfl | hi
    · exact ⟨op, ⟨hr, hop⟩, hrange⟩
    · rw [List.mem_singleton.mp hi]
      exact ⟨op', ⟨hr', hop'⟩, hrange'⟩
  -- the answers with the write, and without it
  have hanswers : [(handle w'.responder server' (handle w.responder server heap r).1 r').2] =
      [(handle w'.responder server' heap r').2] := (hisolated _ hvalid).2
  rw [hfirst, hsecond, halone] at hanswers
  have hframe := Option.some.inj (Except.ok.inj (List.head_eq_of_cons_eq hanswers))
  exact hdiffer (w'.frame_injective r' hframe)

theorem coils_memory_eq (h : server.coils = some buffers.coils) :
    (server.memory heap).coils = (Memory.load buffers heap).coils := by
  rw [ModbusServer.memory, h]
  rfl

theorem holdingRegisters_memory_eq (h : server.holding = some buffers.holding) :
    (server.memory heap).holdingRegisters = (Memory.load buffers heap).holdingRegisters := by
  rw [ModbusServer.memory, h]
  rfl

/-- Two servers with the coils of the module. -/
theorem not_isolated_of_coils (hsize : (heap buffers.coils).length = 1024)
    (h : server.coils = some buffers.coils) (h' : server'.coils = some buffers.coils) :
    ¬ Isolated w w' server server' heap := by
  have hlen : 1 ≤ (Memory.load buffers heap).coils.length := by
    show 1 ≤ (Bits.unpack (heap buffers.coils)).length
    rw [Bits.length_unpack, hsize]
    decide
  obtain ⟨v, rest, hcoils⟩ := List.exists_cons_of_length_pos hlen
  have hwrite : RequestBody.Plain (.writeSingleCoil ⟨0, !v, by decide⟩) :=
    ⟨show IsUInt16 0 by decide, trivial, rfl⟩
  have hread : RequestBody.Plain (.readCoils ⟨0, 1, by decide, by decide⟩) :=
    ⟨show IsUInt16 0 ∧ IsUInt16 1 by decide, trivial, rfl⟩
  refine not_isolated hwrite hread ?_ ?_ rfl rfl ?_ ?_ hlen ⟨by decide, hlen⟩ ?_
  · intro ρ R heap request hbody
    unfold handle
    rw [hbody]
    dsimp only [_handleWriteSingleCoil]
    rw [h]
    rfl
  · intro ρ R heap request hbody
    unfold handle
    rw [hbody]
    dsimp only [_handleReadCoil]
    rw [h']
    rfl
  · show 1 ≤ (server.memory heap).coils.length
    rw [coils_memory_eq h]
    exact hlen
  · refine ⟨by decide, ?_⟩
    rw [coils_memory_eq h']
    exact hlen
  · -- the coil is not what it was
    simp only [Memory.answer, Memory.update, hcoils, Overwrite.overwrite, window]
    cases v <;> simp [Answer.pdu] <;> decide

/-- Two servers with the holding registers of the module. -/
theorem not_isolated_of_holding (hsize : (heap buffers.holding).length = 1024)
    (h : server.holding = some buffers.holding) (h' : server'.holding = some buffers.holding) :
    ¬ Isolated w w' server server' heap := by
  have hlen : 1 ≤ (Memory.load buffers heap).holdingRegisters.length := by
    show 1 ≤ (registers (heap buffers.holding)).length
    rw [registers, List.length_map, length_words, hsize]
    decide
  obtain ⟨v, rest, hregisters⟩ := List.exists_cons_of_length_pos hlen
  obtain ⟨v', hne⟩ : ∃ v', v' ≠ v := by
    by_cases hzero : v = 0
    · exact ⟨1, by rw [hzero]; decide⟩
    · exact ⟨0, Ne.symm hzero⟩
  have hwrite : RequestBody.Plain
      (.writeSingleRegister ⟨0, v'.toNat, by decide, isUInt16_natCast v'.toNat_lt⟩) :=
    ⟨show IsUInt16 0 by decide, trivial, rfl⟩
  have hread : RequestBody.Plain (.readHoldingRegisters ⟨0, 1, by decide, by decide⟩) :=
    ⟨show IsUInt16 0 ∧ IsUInt16 1 by decide, trivial, rfl⟩
  have hvalue : UInt16.ofNat (v'.toNat : Int).toNat = v' := by simp
  have hop := congrArg (fun v => some (Operation.writeRegister 0 v)) hvalue
  refine not_isolated hwrite hread ?_ ?_ hop rfl ?_ ?_ hlen ⟨by decide, hlen⟩ ?_
  · intro ρ R heap request hbody
    unfold handle
    rw [hbody]
    dsimp only [_handleWriteSingleHoldingRegister]
    rw [h]
    rfl
  · intro ρ R heap request hbody
    unfold handle
    rw [hbody]
    dsimp only [_handleReadHoldingRegisters]
    rw [h']
    rfl
  · show 1 ≤ (server.memory heap).holdingRegisters.length
    rw [holdingRegisters_memory_eq h]
    exact hlen
  · refine ⟨by decide, ?_⟩
    rw [holdingRegisters_memory_eq h']
    exact hlen
  · -- the register is not what it was
    simp only [Memory.answer, Memory.update, hregisters, Overwrite.overwrite, window]
    intro hpdu
    have hbytes : registerBytes [v'] ++ [] = registerBytes [v] ++ [] := by
      rw [List.append_nil, List.append_nil]
      exact (List.cons.inj (List.cons.inj hpdu).2).2
    have hback := congrArg registers hbytes
    rw [registers_append (Nat.zero_le _), registers_append (Nat.zero_le _)] at hback
    exact hne (List.head_eq_of_cons_eq hback)

end Shared

/-! ## Servers without explicit tables -/

namespace ModbusServerOptions

/-- The buffers that are given. -/
def given (options : ModbusServerOptions) : List Ref :=
  options.coils.join.toList ++ options.discrete.join.toList ++ options.holding.join.toList ++
    options.input.join.toList

/-- The tables of an option: the one that is given, or that of the module. -/
theorem mem_getD {t r : Ref} (option : Option (Option Ref)) :
    r ∈ (option.getD (some t)).toList ↔ r ∈ option.join.toList ∨ option = none ∧ r = t := by
  rcases option with _ | _ | t' <;> simp [eq_comm]

end ModbusServerOptions

/-- The buffers of the tables. -/
def Tables.refs (t : Tables) : List Ref := [t.coils, t.discrete, t.holding, t.input]

/-- The buffers that are given to the one server are neither given to the other nor those of the
module. -/
structure Apart (buffers : Tables) (options options' : ModbusServerOptions) : Prop where
  given : ∀ t ∈ options.given, t ∉ options'.given
  left : ∀ t ∈ options.given, t ∉ buffers.refs
  right : ∀ t ∈ options'.given, t ∉ buffers.refs

/-- Neither server has the coils of the module when the other has them, nor the holding
registers. -/
def SharesNothing (options options' : ModbusServerOptions) : Prop :=
  ¬ (options.coils = none ∧ options'.coils = none) ∧
  ¬ (options.holding = none ∧ options'.holding = none)

theorem Apart.symm {buffers : Tables} {options options' : ModbusServerOptions}
    (h : Apart buffers options options') : Apart buffers options' options :=
  ⟨fun t ht ht' => h.given t ht' ht, h.right, h.left⟩

theorem SharesNothing.symm {options options' : ModbusServerOptions}
    (h : SharesNothing options options') : SharesNothing options' options :=
  ⟨fun hcoils => h.1 hcoils.symm, fun hholding => h.2 hholding.symm⟩

section Options

variable {buffers : Tables} {options options' : ModbusServerOptions} {t : Ref}

theorem mem_writable_new (h : t ∈ (ModbusServer.new buffers options).writable) :
    t ∈ options.given ∨ options.coils = none ∧ t = buffers.coils ∨
      options.holding = none ∧ t = buffers.holding := by
  rcases List.mem_append.mp h with h | h
  · exact ((ModbusServerOptions.mem_getD _).mp h).imp
      (by simp +contextual [ModbusServerOptions.given]) .inl
  · exact ((ModbusServerOptions.mem_getD _).mp h).imp
      (by simp +contextual [ModbusServerOptions.given]) .inr

theorem mem_tables_new (h : t ∈ (ModbusServer.new buffers options).tables) :
    t ∈ options.given ∨ options.coils = none ∧ t = buffers.coils ∨
      options.holding = none ∧ t = buffers.holding ∨ t = buffers.discrete ∨
      t = buffers.input := by
  simp only [ModbusServer.tables, List.mem_append] at h
  rcases h with ((h | h) | h) | h
  · exact ((ModbusServerOptions.mem_getD _).mp h).imp
      (by simp +contextual [ModbusServerOptions.given]) .inl
  · exact ((ModbusServerOptions.mem_getD _).mp h).imp
      (by simp +contextual [ModbusServerOptions.given]) fun h => .inr (.inr (.inl h.2))
  · exact ((ModbusServerOptions.mem_getD _).mp h).imp
      (by simp +contextual [ModbusServerOptions.given]) fun h => .inr (.inl h)
  · exact ((ModbusServerOptions.mem_getD _).mp h).imp
      (by simp +contextual [ModbusServerOptions.given]) fun h => .inr (.inr (.inr h.2))

/-- Nothing that the one server can change is a table of the other. -/
theorem writable_not_mem_tables (hapart : Apart buffers options options')
    (hshares : SharesNothing options options')
    (ht : t ∈ (ModbusServer.new buffers options).writable) :
    t ∉ (ModbusServer.new buffers options').tables := by
  have hnodup := buffers.nodup
  simp only [List.nodup_cons, List.mem_cons, not_or] at hnodup
  intro ht'
  rcases mem_writable_new ht with hgiven | ⟨hcoils, rfl⟩ | ⟨hholding, rfl⟩
  · rcases mem_tables_new ht' with h | ⟨-, rfl⟩ | ⟨-, rfl⟩ | rfl | rfl
    · exact hapart.given t hgiven h
    all_goals exact hapart.left _ hgiven (by simp [Tables.refs])
  · rcases mem_tables_new ht' with h | ⟨hcoils', -⟩ | ⟨-, h⟩ | h | h
    · exact hapart.right _ h (by simp [Tables.refs])
    · exact hshares.1 ⟨hcoils, hcoils'⟩
    · exact hnodup.1.2.1 h
    · exact hnodup.1.1 h
    · exact hnodup.1.2.2.1 h
  · rcases mem_tables_new ht' with h | ⟨-, h⟩ | ⟨hholding', -⟩ | h | h
    · exact hapart.right _ h (by simp [Tables.refs])
    · exact hnodup.1.2.1 h.symm
    · exact hshares.2 ⟨hholding, hholding'⟩
    · exact hnodup.2.1.1 h.symm
    · exact hnodup.2.2.1.1 h

end Options

/-- Requests to the one of two servers do not change the answers of the other if and only if
they share neither the coils of the module nor its holding registers. -/
theorem isolated_iff (w w' : Transport) {buffers : Tables}
    {options options' : ModbusServerOptions} (hapart : Apart buffers options options')
    {heap : Heap} (hsize : ∀ t ∈ buffers.refs, (heap t).length = 1024) :
    Isolated w w' (.new buffers options) (.new buffers options') heap ↔
    SharesNothing options options' := by
  constructor
  · intro hisolated
    constructor
    · rintro ⟨hcoils, hcoils'⟩
      have hcoilsSize : (heap buffers.coils).length = 1024 := hsize _ (by simp [Tables.refs])
      refine not_isolated_of_coils hcoilsSize ?_ ?_ hisolated
      · rw [ModbusServer.new, hcoils]
        rfl
      · rw [ModbusServer.new, hcoils']
        rfl
    · rintro ⟨hholding, hholding'⟩
      have hholdingSize : (heap buffers.holding).length = 1024 :=
        hsize _ (by simp [Tables.refs])
      refine not_isolated_of_holding hholdingSize ?_ ?_ hisolated
      · rw [ModbusServer.new, hholding]
        rfl
      · rw [ModbusServer.new, hholding']
        rfl
  · intro hshares requests _
    have hleft : Unwinding (twoServers w w' _ _) Sum.isLeft _ := unwinding_left fun t ht =>
      writable_not_mem_tables hapart.symm hshares.symm ht
    have hright : Unwinding (twoServers w w' _ _) Sum.isRight _ := unwinding_right fun t ht =>
      writable_not_mem_tables hapart hshares ht
    exact ⟨hleft.noninterfering (fun _ _ => rfl) requests,
      hright.noninterfering (fun _ _ => rfl) requests⟩

/-- A server with coils and holding registers of its own. -/
def ownTables : ModbusServerOptions :=
  { id := none, coils := some (some 4), discrete := none, holding := some (some 5),
    input := none }

/-- A server without options. -/
def noOptions : ModbusServerOptions :=
  { id := none, coils := none, discrete := none, holding := none, input := none }

theorem isolated_iff_ownTables :
    Isolated .tcp .tcp (.new ⟨0, 1, 2, 3, by decide⟩ noOptions)
      (.new ⟨0, 1, 2, 3, by decide⟩ ownTables)
      (fun _ => List.replicate 1024 0) ↔ SharesNothing noOptions ownTables :=
  isolated_iff .tcp .tcp ⟨by decide, by decide, by decide⟩ fun _ _ => List.length_replicate

/-- Two servers without options have the same tables. -/
theorem not_isolated_noOptions :
    ¬ Isolated .tcp .tcp (.new ⟨0, 1, 2, 3, by decide⟩ noOptions)
      (.new ⟨0, 1, 2, 3, by decide⟩ noOptions)
      (fun _ => List.replicate 1024 0) := by
  intro hisolated
  let buffers : Tables := ⟨0, 1, 2, 3, by decide⟩
  have hsize : (List.replicate 1024 (0 : UInt8)).length = 1024 := List.length_replicate
  exact @not_isolated_of_coils _ _ _ _ buffers _ hsize rfl rfl hisolated

end NodeModbus

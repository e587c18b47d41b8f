import NodeModbus.Service.Linearizable

/-!
# What is read is fresh

A client that reads gets of every coil and of every register what was there at first,
or what some client wrote. A write that returned before the read was called is never
missed: it is what the read finds, or another write to the same place is, which did not
return before that one was called.

- `Operation.setsCoil`, `Operation.setsRegister`: what an operation writes to one place.
- `cell_coil`, `cell_register`: a coil, or a register, is a cell of the memory.
- `reads_fresh`: this, for every read that has returned.
-/

namespace NodeModbus

open Linearization Overwrite Transition

/-! ## Places -/

namespace Operation

/-- What an operation writes to a coil. -/
def setsCoil (place : Nat) : Operation → Option Bool
  | writeCoil address value => written address [value] place
  | writeCoils address values => written address values place
  | _ => none

/-- What an operation writes to a holding register. -/
def setsRegister (place : Nat) : Operation → Option UInt16
  | writeRegister address value => written address [value] place
  | writeRegisters address values => written address values place
  | _ => none

end Operation

theorem cell_coil (place : Nat) :
    Cell Memory.observed (fun m op => op.InRange m) (fun m => m.coils.getD place false)
      (Operation.setsCoil place) where
  step := by
    rintro m op h
    cases op with
    | writeCoil address value =>
      exact getD_overwrite (h : address + [value].length ≤ _) place false
    | writeCoils address values => exact getD_overwrite h place false
    | _ => rfl
  keep h h' := h.update h'

theorem cell_register (place : Nat) :
    Cell Memory.observed (fun m op => op.InRange m) (fun m => m.holdingRegisters.getD place 0)
      (Operation.setsRegister place) where
  step := by
    rintro m op h
    cases op with
    | writeRegister address value =>
      exact getD_overwrite (h : address + [value].length ≤ _) place 0
    | writeRegisters address values => exact getD_overwrite h place 0
    | _ => rfl
  keep h h' := h.update h'

/-- An item of a window is the one at its place in the table. -/
theorem getD_of_window {α : Type} {table : List α} {start count j : Nat} {v : α}
    (h : (window table start count)[j]? = some v) (d : α) : table.getD (start + j) d = v := by
  rw [window, List.getElem?_take] at h
  split at h
  · rw [List.getElem?_drop] at h
    rw [List.getD_eq_getElem?_getD, h]
    rfl
  · cases h

/-! ## Reads -/

variable {ι : Type} {id : Option Int} {t : Tables} {heap : Heap} {s : Service ι}
  {order : Order ι} {i : ι} {k : Nat}

/-- Every call has a number of its own. -/
theorem Explained.call_unique (h : Explained id t heap s order) {op op' : Operation}
    (hop : .call (i, k) op ∈ s.history) (hop' : .call (i, k) op' ∈ s.history) : op = op' := by
  obtain ⟨sent, answers, htracked⟩ := h.tracked i
  obtain ⟨finished, hfinished⟩ := htracked.accounted
  obtain ⟨u, hu, hkey, hu'⟩ := htracked.called k op hop
  obtain ⟨v, hv, hkey', hv'⟩ := htracked.called k op' hop'
  have hnodup := hfinished.keys_nodup
  rw [← hfinished.registrations] at hnodup
  obtain rfl := List.inj_on_of_nodup_map hnodup hu hv (hkey.trans hkey'.symm)
  exact Option.some.inj (hu'.symm.trans hv')

/-- An operation that has returned was answered by a memory in which every coil and every
holding register is fresh. -/
theorem Explained.exists_memory (h : Explained id t heap s order) {op : Operation}
    {o : ResponseContent} (hcall : .call (i, k) op ∈ s.history)
    (hret : .ret (i, k) o ∈ s.history) :
    ∃ m : Memory, op.InRange m ∧ o = (m.answer op).content ∧
      (∀ place, Fresh s.history (Operation.setsCoil place)
        ((Memory.load t heap).coils.getD place false) (i, k)
        (m.coils.getD place false)) ∧
      ∀ place, Fresh s.history (Operation.setsRegister place)
        ((Memory.load t heap).holdingRegisters.getD place 0) (i, k)
          (m.holdingRegisters.getD place 0) := by
  obtain ⟨before, op', after, horder, ho⟩ := h.linearizes.answered (i, k) o hret
  have hmem : ((i, k), op') ∈ order := by
    rw [horder]
    exact List.mem_append_right _ (List.mem_cons_self ..)
  obtain rfl := h.call_unique (h.linearizes.called _ hmem) hcall
  have hbefore : ∀ op ∈ before.map Prod.snd, op.InRange (.load t heap) := by
    intro op hop
    obtain ⟨p, hp, rfl⟩ := List.mem_map.mp hop
    refine h.inRange p ?_
    rw [horder]
    exact List.mem_append_left _ hp
  have hstate : (Memory.observed.run (.load t heap) (before.map Prod.snd)).1 =
      (Memory.machine.run (.load t heap) (before.map Prod.snd)).1 := by
    rw [Memory.observed, Refinement.Machine.run_mapOut]
  have hcalls : ∀ k op op', .call k op ∈ s.history → .call k op' ∈ s.history → op = op' :=
    fun k op op' hop hop' => h.call_unique (i := k.1) (k := k.2) hop hop'
  refine ⟨(Memory.observed.run (.load t heap) (before.map Prod.snd)).1, ?_, ho, fun place => ?_,
    fun place => ?_⟩
  · rw [hstate]
    exact (h.inRange _ hmem).run hbefore
  · exact h.linearizes.fresh hcalls (cell_coil place) h.inRange horder
  · exact h.linearizes.fresh hcalls (cell_register place) h.inRange horder

variable [DecidableEq ι]

/-- A client that reads coils or holding registers gets, at every place, a value that is
fresh. -/
theorem reads_fresh (h : Reachable (serviceSystem ι id t heap) s) {o : ResponseContent}
    (hret : .ret (i, k) o ∈ s.history) :
    (∀ start count, .call (i, k) (.readCoils start count) ∈ s.history →
      ∃ values : List Bool, o = .readCoils (Bits.pack values) ∧ values.length = count ∧
        ∀ j v, values[j]? = some v → Fresh s.history (Operation.setsCoil (start + j))
          ((Memory.load t heap).coils.getD (start + j) false) (i, k) v) ∧
    ∀ start count, .call (i, k) (.readHoldingRegisters start count) ∈ s.history →
      ∃ values : List UInt16, o = .readHoldingRegisters (values.map fun v => (v.toNat : Int)) ∧
        values.length = count ∧
        ∀ j v, values[j]? = some v → Fresh s.history (Operation.setsRegister (start + j))
          ((Memory.load t heap).holdingRegisters.getD (start + j) 0) (i, k) v := by
  obtain ⟨order, h⟩ := exists_explained h
  constructor
  · intro start count hcall
    obtain ⟨m, ⟨-, hrange⟩, rfl, hcoils, -⟩ := h.exists_memory hcall hret
    refine ⟨window m.coils start count, rfl, length_window hrange, fun j v hv => ?_⟩
    rw [← getD_of_window hv false]
    exact hcoils (start + j)
  · intro start count hcall
    obtain ⟨m, ⟨-, hrange⟩, rfl, -, hregisters⟩ := h.exists_memory hcall hret
    refine ⟨window m.holdingRegisters start count, rfl, length_window hrange, fun j v hv => ?_⟩
    rw [← getD_of_window hv 0]
    exact hregisters (start + j)

theorem reads_fresh_writeAndRead :
    ∃ values : List UInt16,
      ResponseContent.readHoldingRegisters [7] =
        .readHoldingRegisters (values.map fun v => (v.toNat : Int)) ∧
      values.length = 1 ∧
      ∀ j v, values[j]? = some v →
        Fresh ((serviceSystem Bool none registersOnly registersHeap).after twoClients
          writeAndRead).history
          (Operation.setsRegister (1 + j))
          ((Memory.load registersOnly registersHeap).holdingRegisters.getD (1 + j) 0)
            (true, 0) v := by
  have hread :=
    (reads_fresh reachable_writeAndRead (i := true) (k := 0) (o := .readHoldingRegisters [7])
    (by rw [history_writeAndRead]; decide)).2 1 1
  exact hread (by rw [history_writeAndRead]; decide)

end NodeModbus

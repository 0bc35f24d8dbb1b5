/-
Module: ChipEight.Proofs.RegisterTransfer
Purpose: Registers that are put into memory and fetched from it again are as they were.
Main exports: Contents.storeAtIndex_of_held, Contents.storeAtIndex_inside,
  Contents.storeAtIndex_beside, Contents.storeAtIndex_idem, Contents.loadAtIndex,
  Contents.loadAtIndex_of_stored, Contents.storeAtIndex_loadAtIndex, Machine.perform_atIndex,
  Machine.register_transfer_inverse
-/
import ChipEight.Proofs.Conformance

namespace ChipEight

/-!
### Storing

Numbers are stored in a stretch of memory.  What is read there afterwards are these numbers, and to
store the numbers that are there already makes no difference.
-/

namespace Contents

variable {state : Contents} {count : Nat} {value : Nat → Nat}

theorem storeAtIndex_of_held
    (held : ∀ position < count, value position = state.memory (state.index + position)) :
    state.storeAtIndex count value = state := by
  have same : (state.storeAtIndex count value).memory = state.memory := by
    funext address
    unfold storeAtIndex
    dsimp only
    split
    · next inside =>
      obtain ⟨above, below⟩ := inside
      rw [held _ (by omega), Nat.add_sub_cancel' above]
    · rfl
  exact congrArg (fun memory => { state with memory }) same

theorem storeAtIndex_inside {position : Nat} (inside : position < count) :
    (state.storeAtIndex count value).memory (state.index + position) = value position := by
  have within : state.index ≤ state.index + position ∧
      state.index + position < state.index + count := by omega
  simp only [storeAtIndex, if_pos within, Nat.add_sub_cancel_left]

theorem storeAtIndex_beside {address : Nat}
    (beside : ¬ (state.index ≤ address ∧ address < state.index + count)) :
    (state.storeAtIndex count value).memory address = state.memory address :=
  if_neg beside

theorem storeAtIndex_idem :
    (state.storeAtIndex count value).storeAtIndex count value = state.storeAtIndex count value :=
  storeAtIndex_of_held fun _ inside => (storeAtIndex_inside inside).symm

/-- Put the bytes from `I` on into the registers up to the given one. -/
def loadAtIndex (state : Contents) (last : Nat) : Contents :=
  { state with
    register := fun name =>
      if name ≤ last then state.memory (state.index + name) else state.register name }

/-- What is loaded is what was stored, whatever has become of the registers in between. -/
theorem loadAtIndex_of_stored {register : Nat → Nat} {last : Nat} (fewer : last < count) :
    ({ state.storeAtIndex count value with register } : Contents).loadAtIndex last =
      { state.storeAtIndex count value with
        register := fun name => if name ≤ last then value name else register name } := by
  unfold loadAtIndex
  dsimp only
  congr 1
  funext name
  split
  · next loaded => exact storeAtIndex_inside (by omega)
  · rfl

/-- What was loaded is there already. -/
theorem storeAtIndex_loadAtIndex (last : Nat) :
    (state.loadAtIndex last).storeAtIndex (last + 1) (state.loadAtIndex last).register =
      state.loadAtIndex last :=
  storeAtIndex_of_held fun _ inside => if_pos (Nat.le_of_lt_succ inside)

end Contents

namespace Machine

variable {machine : Machine} {tracing : Bool} {word : UInt16} {row : Row} {count : Nat}

/-!
### Access to memory at `I`

An instruction that touches bytes from `I` on has the effect of its row if these bytes all lie in
memory.
-/

theorem execute_atIndex {instruction : Instruction}
    (touches : instruction.bytesAtIndex? = some count)
    (fits : machine.index.toNat + count ≤ 0x1000) :
    ∃ after, (machine.execute instruction).after = .ok after := by
  cases executed : (machine.execute instruction).after with
  | ok after => exact ⟨after, rfl⟩
  | error fault =>
      rcases execute_eq_error_iff.mp executed with
        ⟨rfl, _, _⟩ | ⟨⟨address, rfl⟩, _, _⟩ | ⟨count', touches', beyond, _⟩
      · cases touches
      · cases touches
      · cases touches.symm.trans touches'
        omega

theorem perform_atIndex (applies : row.Applies word)
    (touches : (row.instruction word).bytesAtIndex? = some count)
    (fits : machine.index.toNat + count ≤ 0x1000) :
    (machine.perform tracing word).result = .ok () ∧
      (machine.perform tracing word).machine.contents = row.effect word machine.contents := by
  obtain ⟨after, done⟩ := execute_atIndex touches fits
  obtain ⟨ended, reached⟩ := perform_of_done (Row.decode_of_applies applies) done
  rw [reached]
  exact ⟨ended, Row.contents_execute done⟩

theorem perform_storeRegisters (stores : Row.storeRegisters.Applies word)
    (fits : machine.index.toNat + (Row.storeRegisters.operand .x word + 1) ≤ 0x1000) :
    (machine.perform tracing word).result = .ok () ∧
      (machine.perform tracing word).machine.contents =
        machine.contents.storeAtIndex (Row.storeRegisters.operand .x word + 1)
          machine.contents.register := by
  refine perform_atIndex stores ?_ fits
  rw [Row.operand_x _ _ (by decide)]
  rfl

theorem perform_loadRegisters (loads : Row.loadRegisters.Applies word)
    (fits : machine.index.toNat + (Row.loadRegisters.operand .x word + 1) ≤ 0x1000) :
    (machine.perform tracing word).result = .ok () ∧
      (machine.perform tracing word).machine.contents =
        machine.contents.loadAtIndex (Row.loadRegisters.operand .x word) := by
  refine perform_atIndex loads ?_ fits
  rw [Row.operand_x _ _ (by decide)]
  rfl

/-!
### There and back
-/

section

variable {store load : UInt16} (stores : Row.storeRegisters.Applies store)
  (loads : Row.loadRegisters.Applies load)
  (fits : machine.index.toNat + (Row.storeRegisters.operand .x store + 1) ≤ 0x1000)

include stores fits

theorem store_of_store :
    let stored := machine.perform tracing store
    let again := stored.machine.perform tracing store
    again.result = .ok () ∧ again.machine = stored.machine := by
  intro stored again
  obtain ⟨_, contents⟩ : stored.result = .ok () ∧ stored.machine.contents = _ :=
    perform_storeRegisters stores fits
  have index : stored.machine.index.toNat = machine.index.toNat := congrArg Contents.index contents
  have register : stored.machine.contents.register = machine.contents.register := by
    rw [contents]
    rfl
  rw [← index] at fits
  obtain ⟨ended, contents'⟩ : again.result = .ok () ∧ again.machine.contents = _ :=
    perform_storeRegisters stores fits
  refine ⟨ended, contents_injective ?_⟩
  rw [contents', register, contents]
  exact Contents.storeAtIndex_idem

include loads

theorem load_of_store (replacement : Registers)
    (fewer : Row.loadRegisters.operand .x load ≤ Row.storeRegisters.operand .x store) :
    let ready := { (machine.perform tracing store).machine with registers := replacement }
    let loaded := ready.perform tracing load
    loaded.result = .ok () ∧
      loaded.machine = { ready with registers := loaded.machine.registers } ∧
      loaded.machine.contents.register = fun name =>
        if name ≤ Row.loadRegisters.operand .x load then machine.contents.register name
        else replacement.number name := by
  intro ready loaded
  obtain ⟨_, stored⟩ : (machine.perform tracing store).result = .ok () ∧ _ :=
    perform_storeRegisters stores fits
  have prepared : ready.contents = _ :=
    congrArg (fun state : Contents => { state with register := replacement.number }) stored
  have index : ready.index.toNat = machine.index.toNat := congrArg Contents.index prepared
  have fits' : ready.index.toNat + (Row.loadRegisters.operand .x load + 1) ≤ 0x1000 := by omega
  obtain ⟨ended, contents⟩ : loaded.result = .ok () ∧ loaded.machine.contents = _ :=
    perform_loadRegisters loads fits'
  refine ⟨ended, eq_of_registers_changed contents, ?_⟩
  rw [contents, prepared, Contents.loadAtIndex_of_stored (Nat.lt_succ_of_le fewer)]

theorem store_of_load
    (same : Row.loadRegisters.operand .x load = Row.storeRegisters.operand .x store) :
    let loaded := machine.perform tracing load
    let restored := loaded.machine.perform tracing store
    loaded.result = .ok () ∧ restored.result = .ok () ∧
      loaded.machine = { machine with registers := loaded.machine.registers } ∧
      restored.machine = loaded.machine := by
  intro loaded restored
  obtain ⟨ended, contents⟩ : loaded.result = .ok () ∧ loaded.machine.contents = _ :=
    perform_loadRegisters loads (same ▸ fits)
  have index : loaded.machine.index.toNat = machine.index.toNat := congrArg Contents.index contents
  rw [← index] at fits
  obtain ⟨ended', contents'⟩ : restored.result = .ok () ∧ restored.machine.contents = _ :=
    perform_storeRegisters stores fits
  refine ⟨ended, ended', eq_of_registers_changed contents, contents_injective ?_⟩
  rw [contents', contents, ← same]
  exact Contents.storeAtIndex_loadAtIndex _

end

/-- Registers that were stored in memory are loaded from there as they were.

Whatever has become of the registers in between, loading as many of them or fewer gives the old
bytes back and leaves the others alone.  To store registers that were just loaded, or just stored,
makes no difference.  All this needs is that the bytes lie in memory, and none of it touches `I`,
the program counter, or a byte beside them. -/
theorem register_transfer_inverse (machine : Machine) (tracing : Bool) (store : UInt16)
    (stores : Row.storeRegisters.Applies store)
    (fits : machine.index.toNat + Row.storeRegisters.operand .x store + 1 ≤ 0x1000) :
    let x := Row.storeRegisters.operand .x store
    let first := machine.index.toNat
    let v := machine.contents.register
    let stored := machine.perform tracing store
    let again := stored.machine.perform tracing store
    (stored.result = .ok () ∧
      stored.machine = { machine with memory := stored.machine.memory } ∧
      (∀ name ≤ x, stored.machine.contents.memory (first + name) = v name) ∧
      (∀ address, ¬ (first ≤ address ∧ address ≤ first + x) →
        stored.machine.contents.memory address = machine.contents.memory address)) ∧
    (∀ (replacement : Registers) (load : UInt16), Row.loadRegisters.Applies load →
      let y := Row.loadRegisters.operand .x load
      let ready := { stored.machine with registers := replacement }
      let loaded := ready.perform tracing load
      y ≤ x →
        loaded.result = .ok () ∧
        (∀ name ≤ y, loaded.machine.contents.register name = v name) ∧
        (∀ name, y < name →
          loaded.machine.contents.register name = ready.contents.register name) ∧
        loaded.machine = { ready with registers := loaded.machine.registers }) ∧
    (∀ load : UInt16, Row.loadRegisters.Applies load →
      let loaded := machine.perform tracing load
      let restored := loaded.machine.perform tracing store
      Row.loadRegisters.operand .x load = x →
        loaded.result = .ok () ∧ restored.result = .ok () ∧
        loaded.machine = { machine with registers := loaded.machine.registers } ∧
        restored.machine = loaded.machine ∧ restored.machine.memory = machine.memory) ∧
    again.result = .ok () ∧ again.machine = stored.machine := by
  intro x first v stored again
  obtain ⟨ended, contents⟩ : stored.result = .ok () ∧ stored.machine.contents = _ :=
    perform_storeRegisters stores fits
  refine ⟨⟨ended, eq_of_memory_changed contents, ?_, ?_⟩, ?_, ?_, store_of_store stores fits⟩
  · intro name inside
    rw [contents]
    exact Contents.storeAtIndex_inside (Nat.lt_succ_of_le inside)
  · intro address beside
    rw [contents]
    apply Contents.storeAtIndex_beside
    rintro ⟨above, below⟩
    exact beside ⟨above, Nat.le_of_lt_succ below⟩
  · intro replacement load loads y ready loaded fewer
    obtain ⟨ended, rest, registers⟩ : loaded.result = .ok () ∧ _ ∧ _ :=
      load_of_store stores loads fits replacement fewer
    refine ⟨ended, ?_, ?_, rest⟩
    · intro name inside
      rw [registers]
      exact if_pos inside
    · intro name beyond
      rw [registers]
      exact if_neg (Nat.not_le_of_lt beyond)
  · intro load loads loaded restored same
    obtain ⟨ended, ended', rest, kept⟩ :
        loaded.result = .ok () ∧ restored.result = .ok () ∧ _ ∧ _ :=
      store_of_load stores loads fits same
    refine ⟨ended, ended', rest, kept, ?_⟩
    rw [kept, rest]

/-- Three registers at the very end of memory, of which two are loaded after all have been
overwritten. -/
theorem register_transfer_inverse_at_end :
    let registers := (Registers.zeroed.set (Nibble.ofNat 0) 7).set (Nibble.ofNat 1) 8
    let machine := { powerOn default with registers, index := 0xFFD }
    let stored := machine.perform false 0xF255
    let ready := { stored.machine with registers := Registers.zeroed.set (Nibble.ofNat 2) 9 }
    let after := (ready.perform false 0xF165).machine.contents
    stored.result = .ok () ∧
      after.register 0 = 7 ∧ after.register 1 = 8 ∧ after.register 2 = 9 := by
  intro registers machine stored ready after
  obtain ⟨x, y⟩ : Row.storeRegisters.operand .x 0xF255 = 2 ∧
      Row.loadRegisters.operand .x 0xF165 = 1 := by decide
  obtain ⟨zero, one⟩ :
      machine.contents.register 0 = 7 ∧ machine.contents.register 1 = 8 := by decide +kernel
  obtain ⟨⟨ended, _⟩, loading, _⟩ :=
    register_transfer_inverse machine false 0xF255 (by decide) (by decide)
  have fetched := loading (Registers.zeroed.set (Nibble.ofNat 2) 9) 0xF165 (by decide)
  dsimp only at fetched
  rw [x, y] at fetched
  obtain ⟨_, inside, beyond, _⟩ := fetched (by decide)
  refine ⟨ended, ?_, ?_, ?_⟩
  · exact (inside 0 (by decide)).trans zero
  · exact (inside 1 (by decide)).trans one
  · exact beyond 2 (by decide)

end Machine

end ChipEight

/-
Module: ChipEight.Proofs.Restart
Purpose: A machine that was switched off and on and then loaded with programs shows nothing of its
  past: its memory is told by the programs alone, and all else is as in a new machine.
Main exports: Memory.Write.ofProgram, Machine.apply_load, Machine.applyAll_loads,
  Memory.loadedByte?, Memory.IsImage, Memory.isImage_afterAll, Machine.restart_history_free
-/
import ChipEight.Machine.Report
import ChipEight.Proofs.History
import ChipEight.Proofs.LastWrite

namespace ChipEight

/-!
### Loading as writing

A program is a write of its bytes, so the law of the last write tells what several programs that
were loaded over each other leave in memory.
-/

namespace Memory

/-- The write that puts a program into memory. -/
def Write.ofProgram (program : List UInt8) : Write :=
  .program (program.map fun byte => (byte.toNat : Int))

theorem attempt_ofProgram (memory : Memory) (program : List UInt8) :
    (Write.ofProgram program).attempt memory = memory.load program := by
  simp [Write.ofProgram, Write.attempt, Function.comp_def, ofInt_toNat]

theorem fits_ofProgram_iff {program : List UInt8} :
    (Write.ofProgram program).Fits ↔ program.length ≤ 3584 := by
  simp only [Write.Fits, Write.stop, Write.start, Write.values, Write.ofProgram, programStart,
    List.length_map]
  omega

/-- No program reaches below its start. -/
theorem valueAt?_ofProgram_below (program : List UInt8) {address : Nat} (below : address < 0x200) :
    (Write.ofProgram program).valueAt? address = none := by
  rw [Write.valueAt?, if_neg]
  intro both
  exact absurd (Int.ofNat_le.mp both.2) (Nat.not_le.mpr below)

/-- From its start on a program that is accepted has its bytes. -/
theorem valueAt?_ofProgram (program : List UInt8) (place : Nat) :
    ((Write.ofProgram program).valueAt? (0x200 + place)).map UInt8.ofInt =
      if program.length ≤ 3584 then program[place]? else none := by
  have above : (Write.ofProgram program).start ≤ (0x200 + place : Nat) :=
    Int.ofNat_le.mpr (Nat.le_add_right 0x200 place)
  have position : (((0x200 + place : Nat) : Int) - (Write.ofProgram program).start).toNat =
      place := by
    simp only [Write.start, Write.ofProgram, programStart]
    omega
  simp only [Write.valueAt?, fits_ofProgram_iff, above, and_true, position]
  split
  · simp [Write.ofProgram, Write.values, Function.comp_def, ofInt_toNat]
  · rfl

end Memory

namespace Machine

variable {machine : Machine} {tracing : Bool}

theorem apply_load (machine : Machine) (tracing : Bool) (program : List UInt8) :
    (machine.apply tracing (.load program)).machine =
      { machine with memory := machine.memory.carryOut (.ofProgram program) } := by
  rw [apply, load, Memory.carryOut, Memory.attempt_ofProgram]
  cases machine.memory.load program with
  | error fault => rfl
  | ok memory => rfl

theorem applyAll_reset (machine : Machine) (tracing : Bool) (rest : List Operation) :
    machine.applyAll tracing (.reset :: rest) = (powerOn machine.random).applyAll tracing rest := by
  rw [applyAll]
  rfl

/-- Programs that are loaded one after the other change nothing but memory. -/
theorem applyAll_loads (machine : Machine) (tracing : Bool) (programs : List (List UInt8)) :
    machine.applyAll tracing (programs.map .load) =
      { machine with memory := machine.memory.afterAll (programs.map .ofProgram) } := by
  induction programs generalizing machine with
  | nil => rfl
  | cons program rest ih =>
      rw [List.map_cons, applyAll, ih, apply_load]
      rfl

/-- Only a program that is too large is refused, and it leaves the machine as it was. -/
theorem apply_load_eq_error_iff {program : List UInt8} {complaint : Complaint} :
    (machine.apply tracing (.load program)).result = .error complaint ↔
      3584 < program.length ∧ complaint = .fault (.programTooLarge program.length 3584) ∧
        (machine.apply tracing (.load program)).machine = machine := by
  rw [apply, load]
  cases loaded : machine.memory.load program with
  | error fault =>
      obtain ⟨large, rfl⟩ := Memory.load_eq_error_iff.mp loaded
      constructor
      · intro refused
        cases refused
        exact ⟨large, rfl, rfl⟩
      · rintro ⟨_, rfl, _⟩
        rfl
  | ok memory =>
      obtain ⟨fits, _⟩ := Memory.load_eq_ok_iff.mp loaded
      have small : program.length ≤ 3584 := Memory.le_programLimit_iff.mpr fits
      constructor
      · intro refused
        cases refused
      · intro refused
        exact absurd refused.1 (Nat.not_lt.mpr small)

end Machine

/-!
### The image in memory
-/

theorem Font.byteAt_of_behind {address : Nat} (behind : 0x0A0 ≤ address) :
    Font.byteAt address = 0 := by
  have beyond : Font.bytes.length ≤ address - 0x050 := by
    rw [length_bytes, glyphHeight]
    omega
  rw [byteAt, if_pos (by omega), List.getElem?_eq_none beyond]
  rfl

namespace Memory

/-- The byte at a place of the last program that was accepted and reaches that far. -/
def loadedByte? (programs : List (List UInt8)) (place : Nat) : Option UInt8 :=
  programs.reverse.findSome? fun program =>
    if program.length ≤ 3584 then program[place]? else none

example : (List.range 4).map (loadedByte? [[1, 2, 3], [4]]) = [some 4, some 2, some 3, none] := by
  decide

/-- Memory holds the digit sprites, the given programs loaded over each other, and zeros. -/
structure IsImage (memory : Memory) (programs : List (List UInt8)) : Prop where
  lowZeros : ∀ address < 0x050, memory.byteAt address = 0
  sprites : (List.range' 0x050 80).map memory.byteAt = Font.bytes
  highZeros : ∀ address, 0x0A0 ≤ address → address < 0x200 → memory.byteAt address = 0
  program : ∀ place, memory.byteAt (0x200 + place) = (loadedByte? programs place).getD 0

theorem byteAt_afterAll_below (programs : List (List UInt8)) {address : Nat}
    (below : address < 0x200) :
    (initial.afterAll (programs.map .ofProgram)).byteAt address = Font.byteAt address := by
  have untouched :
      (programs.map Write.ofProgram).reverse.findSome? (·.valueAt? address) = none := by
    rw [List.findSome?_eq_none_iff]
    intro write listed
    obtain ⟨program, _, rfl⟩ := List.mem_map.mp (List.mem_reverse.mp listed)
    exact valueAt?_ofProgram_below program below
  rw [byteAt_afterAll, untouched, byteAt_initial]
  rfl

theorem byteAt_afterAll_program (programs : List (List UInt8)) (place : Nat) :
    (initial.afterAll (programs.map .ofProgram)).byteAt (0x200 + place) =
      (loadedByte? programs place).getD 0 := by
  have last : ((programs.map Write.ofProgram).reverse.findSome? (·.valueAt? (0x200 + place))).map
      UInt8.ofInt = loadedByte? programs place := by
    rw [← List.map_reverse, List.findSome?_map, List.map_findSome?, loadedByte?]
    congr 1
    funext program
    exact valueAt?_ofProgram program place
  have blank : Font.byteAt (0x200 + place) = 0 := Font.byteAt_of_behind (by omega)
  rw [byteAt_afterAll, last, byteAt_initial, blank]

theorem isImage_afterAll (programs : List (List UInt8)) :
    (initial.afterAll (programs.map .ofProgram)).IsImage programs where
  lowZeros address low := by
    rw [byteAt_afterAll_below programs (by omega), Font.byteAt, if_neg (Nat.not_le.mpr low)]
  sprites := by
    have same : (List.range' 0x050 80).map (initial.afterAll (programs.map .ofProgram)).byteAt =
        (List.range' 0x050 80).map Font.byteAt := by
      apply List.map_congr_left
      intro address listed
      obtain ⟨_, below⟩ := List.mem_range'_1.mp listed
      exact byteAt_afterAll_below programs (by omega)
    rw [same]
    decide
  highZeros address high below :=
    (byteAt_afterAll_below programs below).trans (Font.byteAt_of_behind high)
  program := byteAt_afterAll_program programs

end Memory

namespace Machine

/-- Whatever a machine went through, after a restart and any programs its memory holds the sprites
and the programs, loaded over each other, and everything else is as in a machine that was just
switched on.  A program is refused exactly if it is too large, and then nothing changes.  So a
machine that is restarted cannot be told from a new one that loads the same programs. -/
theorem restart_history_free (machine : Machine) (tracing : Bool) (programs : List (List UInt8))
    (source : RandomSource) :
    let after := machine.applyAll tracing (.reset :: programs.map .load)
    let fresh := (powerOn source).applyAll tracing (programs.map .load)
    (∀ (loading : Machine) (program : List UInt8) (complaint : Complaint),
      (loading.apply tracing (.load program)).result = .error complaint ↔
        3584 < program.length ∧ complaint = .fault (.programTooLarge program.length 3584) ∧
          (loading.apply tracing (.load program)).machine = loading) ∧
    after.memory.IsImage programs ∧
    after = { powerOn source with memory := after.memory, random := machine.random } ∧
    after.snapshot = fresh.snapshot ∧ after.draw = fresh.draw ∧ after.waiting = fresh.waiting := by
  intro after fresh
  have reached : after = { powerOn machine.random with
      memory := Memory.initial.afterAll (programs.map .ofProgram) } :=
    (applyAll_reset machine tracing _).trans (applyAll_loads _ tracing programs)
  have reached' : fresh = { powerOn source with
      memory := Memory.initial.afterAll (programs.map .ofProgram) } :=
    applyAll_loads (powerOn source) tracing programs
  have image := Memory.isImage_afterAll programs
  generalize Memory.initial.afterAll (programs.map .ofProgram) = memory at reached reached' image
  clear_value after fresh
  subst reached reached'
  dsimp only [powerOn]
  exact ⟨fun _ _ _ => apply_load_eq_error_iff, image, rfl, rfl, rfl, rfl⟩

end Machine

end ChipEight

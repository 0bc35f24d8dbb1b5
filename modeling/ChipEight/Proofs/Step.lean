/-
Module: ChipEight.Proofs.Step
Purpose: The ways in which a step can end.
Main exports: Machine.advanced, Machine.dispatch_of_done, Machine.perform_of_done,
  Machine.step_ok_iff, Machine.step_error_iff, Machine.started, Machine.fetch_started
-/
import ChipEight.Machine.Step
import ChipEight.Proofs.Execution

namespace ChipEight

open Result

namespace Machine

variable {machine after : Machine} {tracing goOn : Bool} {word : UInt16} {fault : Fault}
  {instruction : Instruction}

/-!
### The four endings of a step

A step ends while fetching, while decoding, while the instruction is carried out, or well.  In the
first two cases the program counter still stands on the word, in the other two it has moved on
before the instruction sees it.  A word that is given instead of fetched has the last three endings.
-/

/-- The machine with its program counter behind the word that it stood on. -/
def advanced (machine : Machine) : Machine :=
  { machine with pc := machine.pc + 2 }

section Dispatch

variable {advance : Int}

theorem dispatch_of_undecoded (undecoded : Instruction.decode word = none) :
    machine.dispatch tracing advance word =
      ⟨machine, .error (.illegalOpcode word.toNat machine.pc),
        traced tracing (Trace.opcode word)⟩ := by
  simp only [dispatch, decode, undecoded]

theorem dispatch_of_refused (decoded : Instruction.decode word = some instruction)
    (refused : ({ machine with pc := machine.pc + advance }.execute instruction).after =
      .error fault) :
    machine.dispatch tracing advance word =
      ⟨{ machine with pc := machine.pc + advance }, .error fault,
        traced tracing (Trace.opcode word)⟩ := by
  simp only [dispatch, decode, decoded, execute_of_refused refused]

theorem dispatch_of_done (decoded : Instruction.decode word = some instruction)
    (done : ({ machine with pc := machine.pc + advance }.execute instruction).after =
      .ok after) :
    machine.dispatch tracing advance word =
      ⟨after, .ok (),
        traced tracing (Trace.opcode word) ++
          traced tracing (Trace.instruction (machine.pc + advance - 2) instruction)⟩ := by
  simp only [dispatch, decode, decoded, execute_of_done done]

end Dispatch

theorem perform_of_done (decoded : Instruction.decode word = some instruction)
    (done : (machine.execute instruction).after = .ok after) :
    (machine.perform tracing word).result = .ok () ∧
      (machine.perform tracing word).machine = after := by
  have ready : ({ machine with pc := machine.pc + 0 }.execute instruction).after =
      .ok after := by
    rw [Int.add_zero]
    exact done
  rw [perform, dispatch_of_done decoded ready]
  exact ⟨rfl, rfl⟩

theorem step_of_unfetched (unfetched : machine.fetch = .error fault) :
    machine.step tracing = ⟨machine, .error fault, ""⟩ := by
  rw [step, unfetched]

theorem step_of_undecoded (fetched : machine.fetch = .ok word)
    (undecoded : Instruction.decode word = none) :
    machine.step tracing =
      ⟨machine, .error (.illegalOpcode word.toNat machine.pc),
        traced tracing (Trace.opcode word)⟩ := by
  rw [step, fetched]
  simp only [dispatch_of_undecoded undecoded, Outcome.map, Except.map]

theorem step_of_refused (fetched : machine.fetch = .ok word)
    (decoded : Instruction.decode word = some instruction)
    (refused : (machine.advanced.execute instruction).after = .error fault) :
    machine.step tracing =
      ⟨machine.advanced, .error fault, traced tracing (Trace.opcode word)⟩ := by
  rw [step, fetched]
  simp only [dispatch_of_refused decoded refused, Outcome.map, Except.map, advanced]

theorem step_of_done (fetched : machine.fetch = .ok word)
    (decoded : Instruction.decode word = some instruction)
    (done : (machine.advanced.execute instruction).after = .ok after) :
    machine.step tracing =
      ⟨after, .ok (!after.waiting),
        traced tracing (Trace.opcode word) ++
          traced tracing (Trace.instruction machine.pc instruction)⟩ := by
  rw [step, fetched]
  simp only [dispatch_of_done decoded done, Outcome.map, Except.map, Int.add_sub_cancel]

/-- A step ends well exactly when a word is fetched, stands for an instruction, and the instruction
is carried out. -/
theorem step_ok_iff :
    (machine.step tracing).result = .ok goOn ∧ (machine.step tracing).machine = after ↔
      ∃ word instruction, machine.fetch = .ok word ∧ Instruction.decode word = some instruction ∧
        (machine.advanced.execute instruction).after = .ok after ∧ goOn = !after.waiting := by
  constructor
  · intro ended
    obtain ⟨succeeded, reached⟩ := ended
    cases fetched : machine.fetch with
    | error fault => simp [step_of_unfetched fetched] at succeeded
    | ok word =>
        cases decoded : Instruction.decode word with
        | none => simp [step_of_undecoded fetched decoded] at succeeded
        | some instruction =>
            cases done : (machine.advanced.execute instruction).after with
            | error fault => simp [step_of_refused fetched decoded done] at succeeded
            | ok next =>
                rw [step_of_done fetched decoded done] at succeeded reached
                cases succeeded
                cases reached
                exact ⟨word, instruction, rfl, decoded, done, rfl⟩
  · intro carriedOut
    obtain ⟨word, instruction, fetched, decoded, done, rfl⟩ := carriedOut
    rw [step_of_done fetched decoded done]
    exact ⟨rfl, rfl⟩

/-- A step that faults leaves the machine as it was if the word could not be fetched or decoded, and
the advanced machine if the instruction was refused. -/
theorem step_error_iff :
    (machine.step tracing).result = .error fault ∧ (machine.step tracing).machine = after ↔
      (machine.fetch = .error fault ∧ after = machine) ∨
      (∃ word, machine.fetch = .ok word ∧ Instruction.decode word = none ∧
        fault = .illegalOpcode word.toNat machine.pc ∧ after = machine) ∨
      (∃ word instruction, machine.fetch = .ok word ∧
        Instruction.decode word = some instruction ∧
        (machine.advanced.execute instruction).after = .error fault ∧
        after = machine.advanced) := by
  constructor
  · intro ended
    obtain ⟨failed, reached⟩ := ended
    cases fetched : machine.fetch with
    | error cause =>
        rw [step_of_unfetched fetched] at failed reached
        cases failed
        exact .inl ⟨rfl, reached.symm⟩
    | ok word =>
        cases decoded : Instruction.decode word with
        | none =>
            rw [step_of_undecoded fetched decoded] at failed reached
            cases failed
            exact .inr (.inl ⟨word, rfl, decoded, rfl, reached.symm⟩)
        | some instruction =>
            cases done : (machine.advanced.execute instruction).after with
            | error cause =>
                rw [step_of_refused fetched decoded done] at failed reached
                cases failed
                exact .inr (.inr ⟨word, instruction, rfl, decoded, done, reached.symm⟩)
            | ok next => simp [step_of_done fetched decoded done] at failed
  · intro reasons
    rcases reasons with ⟨unfetched, rfl⟩ | ⟨word, fetched, undecoded, rfl, rfl⟩ |
      ⟨word, instruction, fetched, decoded, refused, rfl⟩
    · rw [step_of_unfetched unfetched]
      exact ⟨rfl, rfl⟩
    · rw [step_of_undecoded fetched undecoded]
      exact ⟨rfl, rfl⟩
    · rw [step_of_refused fetched decoded refused]
      exact ⟨rfl, rfl⟩

/-!
### The first word of a program
-/

/-- A machine that was just switched on and then given a program, if this is not too large. -/
def started (program : List UInt8) : Machine :=
  (Outcome.update (powerOn default) () ((powerOn default).load program)).machine

theorem load_started {program : List UInt8} (fits : program.length ≤ Memory.programLimit) :
    (powerOn default).load program = .ok (started program) := by
  have put : (powerOn default).memory.load program = .ok _ :=
    Memory.load_eq_ok_iff.mpr ⟨Memory.le_programLimit_iff.mp fits, rfl⟩
  simp only [started, load, put, Except.map, Outcome.update]

theorem fetch_started (high low : UInt8) :
    (started [high, low]).fetch = .ok (UInt16.ofNat (256 * high.toNat + low.toNat)) := by
  have small : [high, low].length ≤ Memory.programLimit := show 2 ≤ 3584 by decide
  obtain ⟨memory, put, same⟩ := map_eq_ok_iff.mp (load_started small)
  obtain ⟨fits, rfl⟩ := Memory.load_eq_ok_iff.mp put
  have inside : 0 ≤ (started [high, low]).pc ∧ (started [high, low]).pc + 2 ≤ 4096 := by
    rw [← same]
    exact show (0 : Int) ≤ 0x200 ∧ (0x202 : Int) ≤ 4096 by decide
  rw [fetch, Memory.word_eq_ok_iff]
  refine ⟨inside, ?_⟩
  simp only [← same, powerOn, Int.toNat_natCast, Memory.byteAt_splice]
  rfl

end Machine

end ChipEight

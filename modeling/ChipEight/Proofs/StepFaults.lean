/-
Module: ChipEight.Proofs.StepFaults
Purpose: Exactly which fault a step meets, for every word and every program counter.
Main exports: Row.execute_eq_error_iff, Machine.step_faults
-/
import ChipEight.Proofs.Contents
import ChipEight.Proofs.InstructionTable
import ChipEight.Proofs.Step

namespace ChipEight

namespace Row

variable {row other : Row} {word : UInt16} {machine : Machine} {fault : Fault}

/-!
### Faults of the rows

The instructions that can be refused were found without the table.  Here each of them is given back
to the row of its word.
-/

theorem applies_iff_eq (applies : row.Applies word) : other.Applies word ↔ other = row := by
  constructor
  · intro applies'
    exact eq_of_applies applies' applies
  · intro same
    rw [same]
    exact applies

theorem returnFromCall_applies_iff : returnFromCall.Applies word ↔ word = 0x00EE := by
  constructor
  · intro applies
    have fits := applies.1
    simp only [places, pattern, digits, List.zip_cons_cons, List.zip_nil_left,
      List.forall_mem_cons, Place.Fits] at fits
    exact UInt16.toNat_inj.mp (show word.toNat = 0x00EE by omega)
  · intro same
    rw [same]
    decide

/-- The instruction of a row touches more bytes at an address than memory has from there on. -/
def Overruns (row : Row) (word : UInt16) (address : Nat) : Prop :=
  match row with
  | storeDecimal => 0x1000 < address + 3
  | storeRegisters | loadRegisters => 0x1000 < address + (word.toNat / 0x100 % 0x10 + 1)
  | draw => 0x1000 < address + word.toNat % 0x10
  | _ => False

theorem overruns_iff {address : Nat} :
    row.Overruns word address ↔
      ∃ count, (row.instruction word).bytesAtIndex? = some count ∧ 0x1000 < address + count := by
  cases row <;>
    simp [Overruns, instruction, Instruction.bytesAtIndex?, Instruction.x, Instruction.n,
      Nibble.ofNat]

theorem mem_of_overruns {address : Nat} (beyond : row.Overruns word address) :
    row ∈ [storeDecimal, storeRegisters, loadRegisters, draw] := by
  cases row
  case storeDecimal | storeRegisters | loadRegisters | draw => decide
  all_goals exact beyond.elim

/-- The instruction of a row is refused for one of three reasons, and only some rows know each. -/
theorem execute_eq_error_iff :
    (machine.execute (row.instruction word)).after = .error fault ↔
      (returnFromCall = row ∧ machine.stack.depth = 0 ∧ fault = .stackUnderflow) ∨
      (call = row ∧ 16 ≤ machine.stack.depth ∧ fault = .stackOverflow) ∨
      (row.Overruns word machine.index.toNat ∧
        fault = .memoryOutOfBounds (max machine.index.toNat 0x1000)) := by
  have isReturn : row.instruction word = .returnFromCall ↔ returnFromCall = row := by
    cases row <;> simp [instruction]
  have isCall : (∃ address, row.instruction word = .call address) ↔ call = row := by
    cases row <;> simp [instruction]
  rw [Machine.execute_eq_error_iff, isReturn, isCall, overruns_iff]
  constructor
  · intro reasons
    rcases reasons with underflow | overflow | ⟨count, touched, beyond, blamed⟩
    · exact .inl underflow
    · exact .inr (.inl overflow)
    · exact .inr (.inr ⟨⟨count, touched, beyond⟩, blamed⟩)
  · intro reasons
    rcases reasons with underflow | overflow | ⟨⟨count, touched, beyond⟩, blamed⟩
    · exact .inl underflow
    · exact .inr (.inl overflow)
    · exact .inr (.inr ⟨count, touched, beyond, blamed⟩)

end Row

/-!
### Faults of a step

A step faults while fetching, which only the program counter decides, or it has a word at hand, and
then the word and the machine decide.
-/

theorem Keypad.get_digit (keypad : Keypad) (number : Nat) :
    keypad.get (number % 16 : Nat) = .ok (keypad.isPressed (Nibble.ofNat number)) := by
  have digit : number % 16 < 16 := Nat.mod_lt number (by decide)
  rw [get, keyOf, dif_pos (by omega)]
  rfl

namespace Machine

variable {machine : Machine} {tracing : Bool} {word : UInt16} {fault : Fault}

/-- Once its word is fetched, a step faults because no row applies to the word or because the
instruction of the one row that does is refused. -/
theorem step_eq_error_iff_of_fetched (fetched : machine.fetch = .ok word) :
    (machine.step tracing).result = .error fault ↔
      ((∀ row : Row, ¬ row.Applies word) ∧ fault = .illegalOpcode word.toNat machine.pc) ∨
      (word = 0x00EE ∧ machine.stack.depth = 0 ∧ fault = .stackUnderflow) ∨
      (Row.call.Applies word ∧ 16 ≤ machine.stack.depth ∧ fault = .stackOverflow) ∨
      (∃ row : Row, row.Applies word ∧ row.Overruns word machine.index.toNat ∧
        fault = .memoryOutOfBounds (max machine.index.toNat 0x1000)) := by
  rw [← Row.returnFromCall_applies_iff]
  cases decoded : Instruction.decode word with
  | none =>
      have none := Row.decode_eq_none_iff.mp decoded
      rw [step_of_undecoded fetched decoded]
      simp [none, eq_comm]
  | some instruction =>
      have applies := Row.applies_of_decode decoded
      generalize Row.ofInstruction instruction = row at applies
      have refused : (machine.step tracing).result = .error fault ↔
          (machine.advanced.execute (row.instruction word)).after = .error fault := by
        have decoded := Row.decode_of_applies applies
        cases done : (machine.advanced.execute (row.instruction word)).after with
        | error cause => simp [step_of_refused fetched decoded done]
        | ok after => simp [step_of_done fetched decoded done]
      have some : ¬ ∀ row : Row, ¬ row.Applies word := fun none => none row applies
      rw [refused, Row.execute_eq_error_iff]
      simp only [some, false_and, false_or]
      simp only [Row.applies_iff_eq applies, exists_eq_left]
      rfl

/-- A step faults in exactly these cases and with exactly these faults, whatever integer the program
counter is; the words without a row are spelled out.  No other access of a step can go wrong: the
range of two addresses that a word is fetched from never yields more or fewer bytes, the key that
the low digit of a register names exists, and a sprite is drawn without leaving the screen. -/
theorem step_faults (machine : Machine) (tracing : Bool) :
    (∀ fault : Fault, (machine.step tracing).result = .error fault ↔
      (machine.pc < 0 ∧ fault = .memoryOutOfBounds machine.pc) ∨
      (0x1000 < machine.pc + 2 ∧ fault = .memoryOutOfBounds (max machine.pc 0x1000)) ∨
      ((0 ≤ machine.pc ∧ machine.pc + 2 ≤ 0x1000) ∧
        ∃ word : UInt16, word.toNat = machine.contents.word ∧
          (((∀ row : Row, ¬ row.Applies word) ∧ fault = .illegalOpcode word.toNat machine.pc) ∨
          (word = 0x00EE ∧ machine.stack.depth = 0 ∧ fault = .stackUnderflow) ∨
          (Row.call.Applies word ∧ 16 ≤ machine.stack.depth ∧ fault = .stackOverflow) ∨
          (∃ row : Row, row.Applies word ∧ row.Overruns word machine.index.toNat ∧
            fault = .memoryOutOfBounds (max machine.index.toNat 0x1000))))) ∧
    (∀ word : UInt16, (∀ row : Row, ¬ row.Applies word) ↔ Row.Undefined word) ∧
    machine.memory.slice (some machine.pc) (some (machine.pc + 2)) =
      machine.fetch.map (fun word => [UInt8.ofNat (word.toNat / 0x100), UInt8.ofNat word.toNat]) ∧
    (∀ x : Register, machine.keypad.get ((machine.v x).toNat % 16 : Nat) =
      .ok (machine.keypad.isPressed (machine.keyIn x))) ∧
    (∀ (x y : Register) (sprite : Sprite),
      machine.screen.stampChecked false
          (sprite.cells ((machine.v x).toNat % 64 : Nat) ((machine.v y).toNat % 32 : Nat)) =
        .ok (machine.screen.drawSprite sprite ((machine.v x).toNat % 64 : Nat)
          ((machine.v y).toNat % 32 : Nat))) := by
  refine ⟨?_, fun _ => Row.undefined_iff.symm, machine.memory.slice_word machine.pc,
    fun x => machine.keypad.get_digit _, fun x y sprite => machine.screen.stampChecked_cells _ _ _⟩
  intro fault
  cases fetched : machine.fetch with
  | error cause =>
      have unfetched : (machine.step tracing).result = .error fault ↔
          machine.memory.word machine.pc = .error fault := by
        rw [step_of_unfetched fetched, ← fetch, fetched]
        simp only [Except.error.injEq]
      rw [unfetched, Memory.word_eq_error_iff]
      constructor
      · intro reasons
        rcases reasons with below | beyond
        · exact .inl below
        · exact .inr (.inl beyond)
      · intro reasons
        rcases reasons with below | beyond | ⟨inside, _⟩
        · exact .inl below
        · exact .inr beyond
        · -- A word inside memory would have been fetched.
          have read : machine.fetch = .ok _ := Memory.word_eq_ok_iff.mpr ⟨inside, rfl⟩
          cases fetched.symm.trans read
  | ok word =>
      have inside := (Memory.word_eq_ok_iff.mp fetched).1
      have value := toNat_fetched fetched
      rw [step_eq_error_iff_of_fetched fetched]
      constructor
      · intro reason
        exact .inr (.inr ⟨inside, word, value, reason⟩)
      · intro reasons
        rcases reasons with ⟨below, _⟩ | ⟨beyond, _⟩ | ⟨_, other, value', reason⟩
        · omega
        · omega
        · have same : other = word := UInt16.toNat_inj.mp (value'.trans value.symm)
          rw [← same]
          exact reason

end Machine

end ChipEight

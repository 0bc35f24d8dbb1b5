/-
Module: ChipEight.Proofs.Conformance
Purpose: The effect that the table gives to each row, and that a step has exactly this effect.
Main exports: Row.effect, Row.contents_execute, Row.effect_rest, Machine.step_conforms
-/
import ChipEight.Proofs.Contents
import ChipEight.Proofs.InstructionTable
import ChipEight.Proofs.Step
import Mathlib.Algebra.Group.Nat.Defs

namespace ChipEight

open Result

namespace Row

/-!
### What the rows say

Effects are given on plain numbers.  `x` and `y` are the numbers of registers, `n` is the operand
number of the row, `v` holds the registers as they were, and the program counter of `state` already
stands behind the word.
-/

/-- What the contents are after the instruction of a row. -/
def effect (row : Row) (word : UInt16) (state : Contents) : Contents :=
  let x := row.operand .x word
  let y := row.operand .y word
  let n := row.operand .n word
  let v := state.register
  match row with
  | clearScreen => { state with pixel := fun _ _ => false, draw := true }
  | returnFromCall =>
      match state.stack with
      | [] => state
      | address :: rest => { state with pc := address, stack := rest }
  | hostRoutine => state
  | jump => { state with pc := n }
  | call => { state with pc := n, stack := state.pc :: state.stack }
  | skipIfByte => state.skipWhen (v x = n)
  | skipUnlessByte => state.skipWhen (v x ≠ n)
  | skipIfSame => state.skipWhen (v x = v y)
  | setByte => state.write x n
  | addByte => state.write x ((v x + n) % 256)
  | copy => state.write x (v y)
  | bitOr => state.write x (v x ||| v y)
  | bitAnd => state.write x (v x &&& v y)
  | bitXor => state.write x (v x ^^^ v y)
  | add => state.writeFlagged x ((v x + v y) % 256) (255 < v x + v y)
  | subtract => state.writeFlagged x ((v x + 256 - v y) % 256) (v y ≤ v x)
  | shiftRight => state.writeFlagged x (v x / 2) (v x % 2 = 1)
  | subtractFrom => state.writeFlagged x ((v y + 256 - v x) % 256) (v x ≤ v y)
  | shiftLeft => state.writeFlagged x (2 * v x % 256) (128 ≤ v x)
  | skipUnlessSame => state.skipWhen (v x ≠ v y)
  | setIndex => { state with index := n }
  | jumpFrom => { state with pc := n + v 0 }
  | random =>
      { state.write x ((state.random.values state.random.consumed % 256).toNat &&& n) with
        random := { state.random with consumed := state.random.consumed + 1 } }
  | draw => state.drawSprite (v x % 64) (v y % 32) n
  | skipIfPressed => state.skipWhen (state.key (v x % 16) = true)
  | skipUnlessPressed => state.skipWhen (state.key (v x % 16) = false)
  | readDelay => state.write x state.delay
  | awaitKey =>
      match state.lowestKey? with
      | none => { state with pc := state.pc - 2, waiting := true }
      | some key => { state.write x key with waiting := false }
  | setDelay => { state with delay := v x }
  | setSound => { state with sound := v x }
  | addToIndex => { state with index := (state.index + v x) % 65536 }
  | selectGlyph => { state with index := 0x050 + 5 * (v x % 16) }
  | storeDecimal => state.storeAtIndex 3 fun position => v x / 10 ^ (2 - position) % 10
  | storeRegisters => state.storeAtIndex (x + 1) v
  | loadRegisters =>
      { state with
        register := fun name => if name ≤ x then state.memory (state.index + name) else v name }

/-!
### Operands

The operand places of a row are where the decoder takes the operands from.
-/

theorem operand_x (row : Row) (word : UInt16) (shown : .x ∈ row.pattern) :
    row.operand .x word = (Instruction.x word).val := by
  cases row
  all_goals
    first
    | exact absurd shown (by decide)
    | simp [operand, places, pattern, digits, Instruction.x, Nibble.ofNat]

theorem operand_y (row : Row) (word : UInt16) (shown : .y ∈ row.pattern) :
    row.operand .y word = (Instruction.y word).val := by
  cases row
  all_goals
    first
    | exact absurd shown (by decide)
    | simp [operand, places, pattern, digits, Instruction.y, Nibble.ofNat]

theorem operand_n (row : Row) (word : UInt16) :
    row.operand .n word = word.toNat % 16 ^ row.pattern.count .n := by
  cases row
  all_goals
    simp [operand, places, pattern, digits] <;> omega

variable {row : Row} {word : UInt16} {machine after : Machine}

/-- The difference of two bytes, the first being raised so that nothing is cut off. -/
theorem toNat_sub_eq (first second : UInt8) :
    (first - second).toNat = (first.toNat + 256 - second.toNat) % 256 := by
  have bound := second.toNat_lt
  rw [UInt8.toNat_sub]
  omega

theorem toNat_decimalDigits (value : UInt8) : ∀ position < 3,
    ((Machine.decimalDigits value)[position]?.getD 0).toNat =
      value.toNat / 10 ^ (2 - position) % 10 := by
  have bound := value.toNat_lt
  intro position inside
  have cases : position = 0 ∨ position = 1 ∨ position = 2 := by omega
  rcases cases with rfl | rfl | rfl
  · simp [Machine.decimalDigits]
    omega
  · simp [Machine.decimalDigits]
  · simp [Machine.decimalDigits]

theorem contents_execute (done : (machine.execute (row.instruction word)).after = .ok after) :
    after.contents = row.effect word machine.contents := by
  cases row
  case returnFromCall =>
    rw [instruction, Machine.after_returnFromCall] at done
    obtain ⟨⟨address, stack⟩, popped, rfl⟩ := map_eq_ok_iff.mp done
    have addresses := CallStack.pop_eq_ok_iff.mp popped
    simp [effect, Machine.contents, addresses]
  case call =>
    rw [instruction, Machine.after_call] at done
    obtain ⟨stack, pushed, rfl⟩ := map_eq_ok_iff.mp done
    obtain ⟨_, rfl⟩ := CallStack.push_eq_ok_iff.mp pushed
    simp [effect, Machine.contents, operand_n, pattern, Instruction.nnn]
  case draw =>
    obtain ⟨_, rfl⟩ := Machine.after_draw_eq_ok_iff.mp done
    rw [Machine.contents_drawn, effect, operand_x _ _ (by decide), operand_y _ _ (by decide),
      operand_n, Machine.contents_register, Machine.contents_register]
    rfl
  case storeDecimal =>
    rw [instruction, Machine.after_storeDecimal] at done
    obtain ⟨memory, written, rfl⟩ := map_eq_ok_iff.mp done
    rw [Machine.contents_written written, effect, operand_x _ _ (by decide),
      Machine.contents_register]
    apply Contents.storeAtIndex_congr
    exact toNat_decimalDigits _
  case storeRegisters =>
    rw [instruction, Machine.after_storeRegisters] at done
    obtain ⟨memory, written, rfl⟩ := map_eq_ok_iff.mp done
    rw [Machine.contents_written written, effect, operand_x _ _ (by decide),
      Registers.length_through]
    apply Contents.storeAtIndex_congr
    intro position inside
    exact Registers.getElem?_through _ (Nat.le_of_lt_succ inside)
  case loadRegisters =>
    rw [instruction, Machine.after_loadRegisters] at done
    obtain ⟨bytes, read, rfl⟩ := map_eq_ok_iff.mp done
    rw [Machine.contents_setThrough read, effect, operand_x _ _ (by decide)]
  -- The other instructions are always carried out.
  all_goals
    rw [instruction, Machine.execute, Outcome.after_done] at done
    cases done
  case clearScreen =>
    simp [effect, Machine.contents]
  case hostRoutine =>
    rfl
  case jump =>
    simp [effect, Machine.contents, operand_n, pattern, Instruction.nnn]
  case skipIfByte | skipUnlessByte =>
    rw [Machine.contents_skipWhen, effect, operand_x _ _ (by decide), operand_n,
      Machine.contents_register]
    apply Contents.skipWhen_congr
    simp [← UInt8.toNat_inj, toNat_nn, pattern]
  case skipIfSame | skipUnlessSame =>
    rw [Machine.contents_skipWhen, effect, operand_x _ _ (by decide), operand_y _ _ (by decide),
      Machine.contents_register, Machine.contents_register]
    apply Contents.skipWhen_congr
    simp [← UInt8.toNat_inj]
  case setByte =>
    rw [Machine.contents_setV, effect, operand_x _ _ (by decide), operand_n, toNat_nn]
    rfl
  case addByte =>
    rw [Machine.contents_setV, effect, operand_x _ _ (by decide), operand_n,
      Machine.contents_register, UInt8.toNat_add, toNat_nn]
    rfl
  case copy =>
    rw [Machine.contents_setV, effect, operand_x _ _ (by decide), operand_y _ _ (by decide),
      Machine.contents_register]
  case bitOr | bitAnd | bitXor =>
    rw [Machine.contents_setV, effect, operand_x _ _ (by decide), operand_y _ _ (by decide),
      Machine.contents_register, Machine.contents_register]
    simp
  case add =>
    rw [Machine.contents_setFlaggedV, effect, operand_x _ _ (by decide), operand_y _ _ (by decide),
      Machine.contents_register, Machine.contents_register]
    apply Contents.writeFlagged_congr
    · simp
    · simp
  case subtract | subtractFrom =>
    rw [Machine.contents_setFlaggedV, effect, operand_x _ _ (by decide), operand_y _ _ (by decide),
      Machine.contents_register, Machine.contents_register]
    apply Contents.writeFlagged_congr
    · exact toNat_sub_eq _ _
    · simp [UInt8.le_iff_toNat_le]
  case shiftRight =>
    rw [Machine.contents_setFlaggedV, effect, operand_x _ _ (by decide), Machine.contents_register]
    apply Contents.writeFlagged_congr
    · simp [Nat.shiftRight_eq_div_pow]
    · simp [Nat.testBit_zero]
  case shiftLeft =>
    rw [Machine.contents_setFlaggedV, effect, operand_x _ _ (by decide), Machine.contents_register]
    apply Contents.writeFlagged_congr
    · simp [Nat.shiftLeft_eq, Nat.mul_comm]
    · rw [Nat.testBit_eq_decide_div_mod_eq, decide_eq_true_iff]
      have bound := (machine.v (Instruction.x word)).toNat_lt
      omega
  case setIndex =>
    have bound : word.toNat % 4096 < 65536 := by omega
    simp [effect, Machine.contents, operand_n, pattern, Instruction.nnn, Nat.mod_eq_of_lt bound]
  case jumpFrom =>
    have base : machine.contents.register 0 = (machine.v Registers.base).toNat :=
      machine.contents_register Registers.base
    rw [effect, operand_n, base]
    rfl
  case random =>
    rw [Machine.contents_takeRandom, effect, operand_x _ _ (by decide), operand_n, toNat_nn]
    rfl
  case skipIfPressed | skipUnlessPressed =>
    rw [Machine.contents_skipWhen, effect, operand_x _ _ (by decide), Machine.contents_register]
    apply Contents.skipWhen_congr
    simp [machine.contents_key_keyIn]
  case readDelay =>
    rw [Machine.contents_setV, effect, operand_x _ _ (by decide)]
    rfl
  case awaitKey =>
    rw [Machine.contents_takeKey, effect, operand_x _ _ (by decide)]
    rfl
  case setDelay | setSound =>
    rw [effect, operand_x _ _ (by decide), Machine.contents_register]
    rfl
  case addToIndex =>
    rw [effect, operand_x _ _ (by decide), Machine.contents_register]
    simp [Machine.contents]
  case selectGlyph =>
    rw [effect, operand_x _ _ (by decide), Machine.contents_register]
    have address : (UInt16.ofNat (Font.glyphAddress
        (machine.keyIn (Instruction.x word)).val)).toNat =
          0x050 + 5 * ((machine.v (Instruction.x word)).toNat % 16) := by
      rw [UInt16.toNat_ofNat']
      simp only [Font.glyphAddress, Font.base, Font.glyphHeight, Machine.keyIn, Nibble.ofNat]
      omega
    exact congrArg (fun index => { machine.contents with index }) address

/-!
### Parts with few rows

The timers and the random source are the parts that hardly any row touches.
-/

/-- Each timer is changed by one row and by no other, and so is the random source. -/
theorem effect_rest (row : Row) (word : UInt16) (state : Contents) :
    (row.effect word state).delay =
        (if row = setDelay then state.register (row.operand .x word) else state.delay) ∧
      (row.effect word state).sound =
        (if row = setSound then state.register (row.operand .x word) else state.sound) ∧
      (row.effect word state).random =
        (if row = random then state.random.next.2 else state.random) := by
  cases row
  case skipIfByte | skipUnlessByte | skipIfSame | skipUnlessSame | skipIfPressed |
      skipUnlessPressed =>
    rw [effect, Contents.skipWhen_eq]
    exact ⟨rfl, rfl, rfl⟩
  case returnFromCall =>
    unfold effect
    cases state.stack with
    | nil => exact ⟨rfl, rfl, rfl⟩
    | cons address rest => exact ⟨rfl, rfl, rfl⟩
  case awaitKey =>
    unfold effect
    cases state.lowestKey? with
    | none => exact ⟨rfl, rfl, rfl⟩
    | some key => exact ⟨rfl, rfl, rfl⟩
  all_goals exact ⟨rfl, rfl, rfl⟩

end Row

/-!
### The whole step
-/

namespace Machine

/-- A step that ends well has the effect of exactly one row.  With the word at the program counter
in memory, one row and no other applies to it; and the machine after the step is the only one whose
contents are those that the row prescribes, starting from the contents before with the program
counter moved on by two. -/
theorem step_conforms (machine : Machine) (tracing goOn : Bool)
    (succeeded : (machine.step tracing).result = .ok goOn) :
    (0 ≤ machine.pc ∧ machine.pc + 2 ≤ 0x1000) ∧
    ∃ word : UInt16,
      word.toNat = machine.contents.word ∧
      (∃! row : Row, row.Applies word) ∧
      ∀ row : Row, row.Applies word → ∀ after : Machine,
        after = (machine.step tracing).machine ↔
          after.contents =
            row.effect word { machine.contents with pc := machine.pc + 2 } := by
  obtain ⟨word, instruction, fetched, decoded, done, _⟩ := step_ok_iff.mp ⟨succeeded, rfl⟩
  obtain ⟨inside, _⟩ := Memory.word_eq_ok_iff.mp fetched
  have applies := Row.applies_of_decode decoded
  refine ⟨inside, word, toNat_fetched fetched, ?_, ?_⟩
  · exact ⟨_, applies, fun other applies' => Row.eq_of_applies applies' applies⟩
  · intro row applies' after
    have same : instruction = row.instruction word :=
      Option.some.inj (decoded.symm.trans (Row.decode_of_applies applies'))
    rw [same] at done
    have reached : (machine.step tracing).machine.contents =
        row.effect word { machine.contents with pc := machine.pc + 2 } :=
      Row.contents_execute done
    constructor
    · intro same
      rw [same]
      exact reached
    · intro prescribed
      exact contents_injective (prescribed.trans reached.symm)

/-- The flag register added to itself, which is `8FF4`: the sum is lost and the carry stays. -/
theorem step_conforms_flagSum :
    let machine :=
      { started [0x8F, 0xF4] with registers := Registers.zeroed.set Registers.flag 200 }
    (machine.step false).result = .ok true ∧
      (machine.step false).machine.contents.register =
        Function.update machine.contents.register 0xF 1 := by
  intro machine
  have fetched : machine.fetch = .ok 0x8FF4 := fetch_started 0x8F 0xF4
  have succeeded : (machine.step false).result = .ok true :=
    congrArg Outcome.result (step_of_done fetched rfl rfl)
  obtain ⟨_, word, value, _, exactly⟩ := step_conforms machine false true succeeded
  have same : word = 0x8FF4 := UInt16.toNat_inj.mp (value.trans (toNat_fetched fetched).symm)
  rw [same] at exactly
  have applies : Row.add.Applies 0x8FF4 := by decide
  have reached := (exactly .add applies (machine.step false).machine).mp rfl
  have flag : machine.contents.register 0xF = 200 := by decide
  have x : Row.add.operand .x 0x8FF4 = 0xF := by decide
  have y : Row.add.operand .y 0x8FF4 = 0xF := by decide
  refine ⟨succeeded, ?_⟩
  rw [reached]
  simp [Row.effect, Contents.writeFlagged, Contents.write, x, y, flag]

end Machine

end ChipEight

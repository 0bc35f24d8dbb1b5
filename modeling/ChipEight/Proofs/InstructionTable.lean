/-
Module: ChipEight.Proofs.InstructionTable
Purpose: The table of instruction words, and its agreement with the decoder.
Main exports: Place, Row, Row.pattern, Row.Applies, Row.operand, Row.decode_of_applies,
  Row.applies_of_decode, Row.eq_of_applies, Row.decode_eq_none_iff, Row.Undefined,
  Row.undefined_iff
-/
import ChipEight.Instruction

namespace ChipEight

/-!
### The table

A row of the table shows the four digits of a word.  A place of it is either a fixed digit or
belongs to an operand: `x` and `y` name registers, and the places marked `n` make up a number.
-/

/-- What a row says about one digit of a word. -/
inductive Place where
  | digit (value : Nat)
  | x
  | y
  | n
deriving Repr, Inhabited, DecidableEq

instance (value : Nat) : OfNat Place value := ⟨.digit value⟩

/-- A fixed digit fits only itself, and an operand fits every digit. -/
def Place.Fits : Place → Nat → Prop
  | .digit value, found => found = value
  | _, _ => True

instance (place : Place) (found : Nat) : Decidable (place.Fits found) :=
  match place with
  | .digit value => inferInstanceAs (Decidable (found = value))
  | .x | .y | .n => .isTrue trivial

/-- The rows of the table. -/
inductive Row where
  | clearScreen
  | returnFromCall
  | hostRoutine
  | jump
  | call
  | skipIfByte
  | skipUnlessByte
  | skipIfSame
  | setByte
  | addByte
  | copy
  | bitOr
  | bitAnd
  | bitXor
  | add
  | subtract
  | shiftRight
  | subtractFrom
  | shiftLeft
  | skipUnlessSame
  | setIndex
  | jumpFrom
  | random
  | draw
  | skipIfPressed
  | skipUnlessPressed
  | readDelay
  | awaitKey
  | setDelay
  | setSound
  | addToIndex
  | selectGlyph
  | storeDecimal
  | storeRegisters
  | loadRegisters
deriving Repr, Inhabited, DecidableEq

namespace Row

/-- The digits that a row shows. -/
def pattern : Row → List Place
  | clearScreen => [0x0, 0x0, 0xE, 0x0]
  | returnFromCall => [0x0, 0x0, 0xE, 0xE]
  | hostRoutine => [0x0, .n, .n, .n]
  | jump => [0x1, .n, .n, .n]
  | call => [0x2, .n, .n, .n]
  | skipIfByte => [0x3, .x, .n, .n]
  | skipUnlessByte => [0x4, .x, .n, .n]
  | skipIfSame => [0x5, .x, .y, 0x0]
  | setByte => [0x6, .x, .n, .n]
  | addByte => [0x7, .x, .n, .n]
  | copy => [0x8, .x, .y, 0x0]
  | bitOr => [0x8, .x, .y, 0x1]
  | bitAnd => [0x8, .x, .y, 0x2]
  | bitXor => [0x8, .x, .y, 0x3]
  | add => [0x8, .x, .y, 0x4]
  | subtract => [0x8, .x, .y, 0x5]
  | shiftRight => [0x8, .x, .y, 0x6]
  | subtractFrom => [0x8, .x, .y, 0x7]
  | shiftLeft => [0x8, .x, .y, 0xE]
  | skipUnlessSame => [0x9, .x, .y, 0x0]
  | setIndex => [0xA, .n, .n, .n]
  | jumpFrom => [0xB, .n, .n, .n]
  | random => [0xC, .x, .n, .n]
  | draw => [0xD, .x, .y, .n]
  | skipIfPressed => [0xE, .x, 0x9, 0xE]
  | skipUnlessPressed => [0xE, .x, 0xA, 0x1]
  | readDelay => [0xF, .x, 0x0, 0x7]
  | awaitKey => [0xF, .x, 0x0, 0xA]
  | setDelay => [0xF, .x, 0x1, 0x5]
  | setSound => [0xF, .x, 0x1, 0x8]
  | addToIndex => [0xF, .x, 0x1, 0xE]
  | selectGlyph => [0xF, .x, 0x2, 0x9]
  | storeDecimal => [0xF, .x, 0x3, 0x3]
  | storeRegisters => [0xF, .x, 0x5, 0x5]
  | loadRegisters => [0xF, .x, 0x6, 0x5]

/-- The four digits of a word. -/
def digits (word : UInt16) : List Nat :=
  [word.toNat / 0x1000, word.toNat / 0x100 % 0x10, word.toNat / 0x10 % 0x10, word.toNat % 0x10]

/-- The places of a row, each with the digit that a word has there. -/
def places (row : Row) (word : UInt16) : List (Place × Nat) :=
  row.pattern.zip (digits word)

/-- Every digit of the word fits the row.  The two rows of group zero without operands go before the
one that has some. -/
def Applies (row : Row) (word : UInt16) : Prop :=
  (∀ place ∈ row.places word, place.1.Fits place.2) ∧
    (row = hostRoutine → word ≠ 0x00E0 ∧ word ≠ 0x00EE)

instance (row : Row) (word : UInt16) : Decidable (row.Applies word) :=
  inferInstanceAs (Decidable (_ ∧ _))

/-- The number that the digits of a word make up at the places of an operand. -/
def operand (row : Row) (name : Place) (word : UInt16) : Nat :=
  (row.places word).foldl
    (fun value (place, digit) => if place = name then 0x10 * value + digit else value) 0

example : addByte.Applies 0x7A12 ∧ addByte.operand .x 0x7A12 = 0xA ∧
    addByte.operand .n 0x7A12 = 0x12 := by decide

/-!
### The decoder

A row that applies to a word is what the decoder makes of the word, and the other way round.  So the
rows that apply to one word are all the same.
-/

/-- The instruction of a row, its operands being those that the decoder takes out of the word. -/
def instruction (row : Row) (word : UInt16) : Instruction :=
  match row with
  | clearScreen => .clearScreen
  | returnFromCall => .returnFromCall
  | hostRoutine => .hostRoutine (Instruction.nnn word)
  | jump => .jump (Instruction.nnn word)
  | call => .call (Instruction.nnn word)
  | skipIfByte => .skipIfByte (Instruction.x word) (Instruction.nn word)
  | skipUnlessByte => .skipUnlessByte (Instruction.x word) (Instruction.nn word)
  | skipIfSame => .skipIfSame (Instruction.x word) (Instruction.y word)
  | setByte => .setByte (Instruction.x word) (Instruction.nn word)
  | addByte => .addByte (Instruction.x word) (Instruction.nn word)
  | copy => .copy (Instruction.x word) (Instruction.y word)
  | bitOr => .bitOr (Instruction.x word) (Instruction.y word)
  | bitAnd => .bitAnd (Instruction.x word) (Instruction.y word)
  | bitXor => .bitXor (Instruction.x word) (Instruction.y word)
  | add => .add (Instruction.x word) (Instruction.y word)
  | subtract => .subtract (Instruction.x word) (Instruction.y word)
  | shiftRight => .shiftRight (Instruction.x word)
  | subtractFrom => .subtractFrom (Instruction.x word) (Instruction.y word)
  | shiftLeft => .shiftLeft (Instruction.x word)
  | skipUnlessSame => .skipUnlessSame (Instruction.x word) (Instruction.y word)
  | setIndex => .setIndex (Instruction.nnn word)
  | jumpFrom => .jumpFrom (Instruction.nnn word)
  | random => .random (Instruction.x word) (Instruction.nn word)
  | draw => .draw (Instruction.x word) (Instruction.y word) (Instruction.n word)
  | skipIfPressed => .skipIfPressed (Instruction.x word)
  | skipUnlessPressed => .skipUnlessPressed (Instruction.x word)
  | readDelay => .readDelay (Instruction.x word)
  | awaitKey => .awaitKey (Instruction.x word)
  | setDelay => .setDelay (Instruction.x word)
  | setSound => .setSound (Instruction.x word)
  | addToIndex => .addToIndex (Instruction.x word)
  | selectGlyph => .selectGlyph (Instruction.x word)
  | storeDecimal => .storeDecimal (Instruction.x word)
  | storeRegisters => .storeRegisters (Instruction.x word)
  | loadRegisters => .loadRegisters (Instruction.x word)

/-- The row that an instruction belongs to. -/
def ofInstruction : Instruction → Row
  | .hostRoutine _ => hostRoutine
  | .clearScreen => clearScreen
  | .returnFromCall => returnFromCall
  | .jump _ => jump
  | .call _ => call
  | .skipIfByte _ _ => skipIfByte
  | .skipUnlessByte _ _ => skipUnlessByte
  | .skipIfSame _ _ => skipIfSame
  | .setByte _ _ => setByte
  | .addByte _ _ => addByte
  | .copy _ _ => copy
  | .bitOr _ _ => bitOr
  | .bitAnd _ _ => bitAnd
  | .bitXor _ _ => bitXor
  | .add _ _ => add
  | .subtract _ _ => subtract
  | .shiftRight _ => shiftRight
  | .subtractFrom _ _ => subtractFrom
  | .shiftLeft _ => shiftLeft
  | .skipUnlessSame _ _ => skipUnlessSame
  | .setIndex _ => setIndex
  | .jumpFrom _ => jumpFrom
  | .random _ _ => random
  | .draw _ _ _ => draw
  | .skipIfPressed _ => skipIfPressed
  | .skipUnlessPressed _ => skipUnlessPressed
  | .readDelay _ => readDelay
  | .awaitKey _ => awaitKey
  | .setDelay _ => setDelay
  | .setSound _ => setSound
  | .addToIndex _ => addToIndex
  | .selectGlyph _ => selectGlyph
  | .storeDecimal _ => storeDecimal
  | .storeRegisters _ => storeRegisters
  | .loadRegisters _ => loadRegisters

theorem ofInstruction_instruction (row : Row) (word : UInt16) :
    ofInstruction (row.instruction word) = row := by
  cases row <;> rfl

variable {row other : Row} {word : UInt16} {code : Instruction}

/-- The last digit as the decoder sees it. -/
theorem val_n (word : UInt16) : (Instruction.n word).val = word.toNat % 0x10 := rfl

/-- The last two digits as the decoder sees them. -/
theorem toNat_nn (word : UInt16) : (Instruction.nn word).toNat = word.toNat % 0x100 := by
  simp [Instruction.nn]

theorem decode_of_applies (applies : row.Applies word) :
    Instruction.decode word = some (row.instruction word) := by
  have twoDigits : word.toNat % 0x100 = 0x10 * (word.toNat / 0x10 % 0x10) + word.toNat % 0x10 := by
    omega
  obtain ⟨fits, precedence⟩ := applies
  cases row <;>
    simp only [places, pattern, digits, List.zip_cons_cons, List.zip_nil_left, List.forall_mem_cons,
      List.not_mem_nil, Place.Fits, and_true, true_and, false_implies, implies_true] at fits
  -- The words of group zero are compared as a whole.
  case clearScreen =>
    have same : word = 0x00E0 := UInt16.toNat_inj.mp (show word.toNat = 0x00E0 by omega)
    rw [same]
    rfl
  case returnFromCall =>
    have same : word = 0x00EE := UInt16.toNat_inj.mp (show word.toNat = 0x00EE by omega)
    rw [same]
    rfl
  case hostRoutine =>
    obtain ⟨notClear, notReturn⟩ := precedence rfl
    simp [Instruction.decode, Instruction.group, fits, Instruction.decodeSystem, instruction,
      notClear, notReturn]
  -- In all other groups the fixed digits lead the decoder to the row.
  all_goals
    simp [Instruction.decode, Instruction.group, Instruction.decodeArithmetic,
      Instruction.decodeKey, Instruction.decodeTransfer, val_n, toNat_nn, fits, twoDigits,
      instruction]

theorem applies_decodeSystem (group : word.toNat / 0x1000 = 0x0) :
    (ofInstruction (Instruction.decodeSystem word)).Applies word := by
  unfold Instruction.decodeSystem
  split
  · next clear =>
    rw [clear]
    decide
  · next notClear =>
    split
    · next back =>
      rw [back]
      decide
    · next notBack =>
      refine ⟨?_, fun _ => ⟨notClear, notBack⟩⟩
      simp [ofInstruction, places, pattern, digits, Place.Fits, group]

theorem applies_of_decodeArithmetic (group : word.toNat / 0x1000 = 0x8)
    (decoded : Instruction.decodeArithmetic word = some code) :
    (ofInstruction code).Applies word := by
  rw [Instruction.decodeArithmetic, val_n] at decoded
  split at decoded
  case h_10 => cases decoded
  all_goals
    next digit =>
    cases decoded
    simp [ofInstruction, Applies, places, pattern, digits, Place.Fits, group, digit]

theorem applies_of_decodeKey (group : word.toNat / 0x1000 = 0xE)
    (decoded : Instruction.decodeKey word = some code) :
    (ofInstruction code).Applies word := by
  rw [Instruction.decodeKey, toNat_nn] at decoded
  split at decoded
  case h_3 => cases decoded
  all_goals
    next byte =>
    cases decoded
    simp [ofInstruction, Applies, places, pattern, digits, Place.Fits, group]
    omega

theorem applies_of_decodeTransfer (group : word.toNat / 0x1000 = 0xF)
    (decoded : Instruction.decodeTransfer word = some code) :
    (ofInstruction code).Applies word := by
  rw [Instruction.decodeTransfer, toNat_nn] at decoded
  split at decoded
  case h_10 => cases decoded
  all_goals
    next byte =>
    cases decoded
    simp [ofInstruction, Applies, places, pattern, digits, Place.Fits, group]
    omega

theorem applies_of_decode (decoded : Instruction.decode word = some code) :
    (ofInstruction code).Applies word := by
  have bound : word.toNat < 0x10000 := word.toNat_lt
  rw [Instruction.decode, Instruction.group] at decoded
  split at decoded
  case h_1 group =>
    cases decoded
    exact applies_decodeSystem group
  case h_9 group => exact applies_of_decodeArithmetic group decoded
  case h_15 group => exact applies_of_decodeKey group decoded
  case h_16 =>
    simp only [imp_false] at *
    exact applies_of_decodeTransfer (by omega) decoded
  -- Two groups have one instruction each, with a last digit of zero.
  case h_6 group | h_10 group =>
    split at decoded
    · next digit =>
      cases decoded
      rw [val_n] at digit
      simp [ofInstruction, Applies, places, pattern, digits, Place.Fits, group, digit]
    · cases decoded
  all_goals
    next group =>
    cases decoded
    simp [ofInstruction, Applies, places, pattern, digits, Place.Fits, group]

theorem eq_of_applies (applies : row.Applies word) (applies' : other.Applies word) :
    row = other := by
  have same : row.instruction word = other.instruction word :=
    Option.some.inj ((decode_of_applies applies).symm.trans (decode_of_applies applies'))
  rw [← ofInstruction_instruction row word, same, ofInstruction_instruction]

/-!
### Words without a row
-/

/-- The words of groups that are told apart further, with a last digit or byte that is not used. -/
def Undefined (word : UInt16) : Prop :=
  let group := word.toNat / 0x1000
  let digit := word.toNat % 0x10
  let byte := word.toNat % 0x100
  ((group = 0x5 ∨ group = 0x9) ∧ digit ≠ 0x0) ∨
  (group = 0x8 ∧ (0x8 ≤ digit ∧ digit ≤ 0xD ∨ digit = 0xF)) ∨
  (group = 0xE ∧ byte ∉ [0x9E, 0xA1]) ∨
  (group = 0xF ∧ byte ∉ [0x07, 0x0A, 0x15, 0x18, 0x1E, 0x29, 0x33, 0x55, 0x65])

theorem decode_eq_none_iff : Instruction.decode word = none ↔ ∀ row : Row, ¬ row.Applies word := by
  constructor
  · intro undecoded row applies
    rw [decode_of_applies applies] at undecoded
    cases undecoded
  · intro none
    cases decoded : Instruction.decode word with
    | none => rfl
    | some code => exact absurd (applies_of_decode decoded) (none _)

theorem decodeArithmetic_eq_none_iff :
    Instruction.decodeArithmetic word = none ↔
      0x8 ≤ word.toNat % 0x10 ∧ word.toNat % 0x10 ≤ 0xD ∨ word.toNat % 0x10 = 0xF := by
  rw [Instruction.decodeArithmetic, val_n]
  split
  case h_10 =>
    simp only [imp_false] at *
    simp only [true_iff]
    omega
  all_goals
    next digit => simp [digit]

theorem decodeKey_eq_none_iff :
    Instruction.decodeKey word = none ↔ word.toNat % 0x100 ∉ [0x9E, 0xA1] := by
  rw [Instruction.decodeKey, toNat_nn]
  split
  case h_3 notPressed notReleased =>
    simp only [List.mem_cons, List.not_mem_nil, or_false, not_or, true_iff]
    exact ⟨notPressed, notReleased⟩
  all_goals
    next byte => simp [byte]

theorem decodeTransfer_eq_none_iff :
    Instruction.decodeTransfer word = none ↔
      word.toNat % 0x100 ∉ [0x07, 0x0A, 0x15, 0x18, 0x1E, 0x29, 0x33, 0x55, 0x65] := by
  rw [Instruction.decodeTransfer, toNat_nn]
  split
  case h_10 => simp_all
  all_goals
    next byte => simp [byte]

/-- The words without a row are exactly these. -/
theorem undefined_iff : Undefined word ↔ ∀ row : Row, ¬ row.Applies word := by
  have bound : word.toNat < 0x10000 := word.toNat_lt
  rw [← decode_eq_none_iff, Instruction.decode, Instruction.group, Undefined]
  split
  case h_6 group | h_10 group =>
    rw [val_n]
    split
    · next digit => simp [group, digit]
    · next digit => simp [group, digit]
  case h_9 group => simp [group, decodeArithmetic_eq_none_iff]
  case h_15 group => simp [group, decodeKey_eq_none_iff]
  case h_16 =>
    simp only [imp_false] at *
    have group : word.toNat / 0x1000 = 0xF := by omega
    simp [group, decodeTransfer_eq_none_iff]
  all_goals
    next group => simp [group]

end Row

end ChipEight

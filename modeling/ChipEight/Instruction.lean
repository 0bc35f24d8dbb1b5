/-
Module: ChipEight.Instruction
Purpose: The instruction set and the words that stand for its instructions.
Main exports: Instruction, Instruction.decode
-/
import ChipEight.Registers

namespace ChipEight

/-- An address that an instruction can name. -/
abbrev Address := Fin 4096

/-- The instructions, with their operands taken out of the word. -/
inductive Instruction where
  /-- `0NNN`: a routine of the host processor; does nothing. -/
  | hostRoutine (address : Address)
  /-- `00E0` -/
  | clearScreen
  /-- `00EE` -/
  | returnFromCall
  /-- `1NNN` -/
  | jump (address : Address)
  /-- `2NNN` -/
  | call (address : Address)
  /-- `3XNN` -/
  | skipIfByte (x : Register) (byte : UInt8)
  /-- `4XNN` -/
  | skipUnlessByte (x : Register) (byte : UInt8)
  /-- `5XY0` -/
  | skipIfSame (x y : Register)
  /-- `6XNN` -/
  | setByte (x : Register) (byte : UInt8)
  /-- `7XNN` -/
  | addByte (x : Register) (byte : UInt8)
  /-- `8XY0` -/
  | copy (x y : Register)
  /-- `8XY1` -/
  | bitOr (x y : Register)
  /-- `8XY2` -/
  | bitAnd (x y : Register)
  /-- `8XY3` -/
  | bitXor (x y : Register)
  /-- `8XY4` -/
  | add (x y : Register)
  /-- `8XY5`: `x` minus `y` -/
  | subtract (x y : Register)
  /-- `8XY6` -/
  | shiftRight (x : Register)
  /-- `8XY7`: `y` minus `x` -/
  | subtractFrom (x y : Register)
  /-- `8XYE` -/
  | shiftLeft (x : Register)
  /-- `9XY0` -/
  | skipUnlessSame (x y : Register)
  /-- `ANNN` -/
  | setIndex (address : Address)
  /-- `BNNN` -/
  | jumpFrom (address : Address)
  /-- `CXNN` -/
  | random (x : Register) (mask : UInt8)
  /-- `DXYN` -/
  | draw (x y : Register) (height : Nibble)
  /-- `EX9E` -/
  | skipIfPressed (x : Register)
  /-- `EXA1` -/
  | skipUnlessPressed (x : Register)
  /-- `FX07` -/
  | readDelay (x : Register)
  /-- `FX0A` -/
  | awaitKey (x : Register)
  /-- `FX15` -/
  | setDelay (x : Register)
  /-- `FX18` -/
  | setSound (x : Register)
  /-- `FX1E` -/
  | addToIndex (x : Register)
  /-- `FX29` -/
  | selectGlyph (x : Register)
  /-- `FX33` -/
  | storeDecimal (x : Register)
  /-- `FX55` -/
  | storeRegisters (x : Register)
  /-- `FX65` -/
  | loadRegisters (x : Register)
deriving Repr, Inhabited, DecidableEq

namespace Instruction

/-!
### Fields of a word

A word has four hexadecimal digits.  The first one names a group of instructions; the others hold
operands, or tell the instructions of a group apart.
-/

/-- The first digit. -/
def group (word : UInt16) : Nat := word.toNat / 4096

/-- The second digit as a register. -/
def x (word : UInt16) : Register := Nibble.ofNat (word.toNat / 256)

/-- The third digit as a register. -/
def y (word : UInt16) : Register := Nibble.ofNat (word.toNat / 16)

/-- The last digit. -/
def n (word : UInt16) : Nibble := Nibble.ofNat word.toNat

/-- The last two digits. -/
def nn (word : UInt16) : UInt8 := UInt8.ofNat word.toNat

/-- The last three digits. -/
def nnn (word : UInt16) : Address := ⟨word.toNat % 4096, Nat.mod_lt _ (by decide)⟩

/-!
### Decoding

Group zero has two instructions of its own and is a host routine everywhere else, so it has no
illegal words.  The groups five, eight and nine are told apart by the last digit, the groups
fourteen and fifteen by the last two, and in all other groups every word is an instruction.
-/

/-- The instructions of group zero. -/
def decodeSystem (word : UInt16) : Instruction :=
  if word = 0x00E0 then clearScreen
  else if word = 0x00EE then returnFromCall
  else hostRoutine (nnn word)

/-- The instructions on two registers, by their last digit. -/
def decodeArithmetic (word : UInt16) : Option Instruction :=
  match (n word).val with
  | 0x0 => some (copy (x word) (y word))
  | 0x1 => some (bitOr (x word) (y word))
  | 0x2 => some (bitAnd (x word) (y word))
  | 0x3 => some (bitXor (x word) (y word))
  | 0x4 => some (add (x word) (y word))
  | 0x5 => some (subtract (x word) (y word))
  | 0x6 => some (shiftRight (x word))
  | 0x7 => some (subtractFrom (x word) (y word))
  | 0xE => some (shiftLeft (x word))
  | _ => none

/-- The instructions on keys, by their last two digits. -/
def decodeKey (word : UInt16) : Option Instruction :=
  match (nn word).toNat with
  | 0x9E => some (skipIfPressed (x word))
  | 0xA1 => some (skipUnlessPressed (x word))
  | _ => none

/-- The instructions on timers, the index register and memory, by their last two digits. -/
def decodeTransfer (word : UInt16) : Option Instruction :=
  match (nn word).toNat with
  | 0x07 => some (readDelay (x word))
  | 0x0A => some (awaitKey (x word))
  | 0x15 => some (setDelay (x word))
  | 0x18 => some (setSound (x word))
  | 0x1E => some (addToIndex (x word))
  | 0x29 => some (selectGlyph (x word))
  | 0x33 => some (storeDecimal (x word))
  | 0x55 => some (storeRegisters (x word))
  | 0x65 => some (loadRegisters (x word))
  | _ => none

/-- The instruction that a word stands for, if it stands for one. -/
def decode (word : UInt16) : Option Instruction :=
  match group word with
  | 0x0 => some (decodeSystem word)
  | 0x1 => some (jump (nnn word))
  | 0x2 => some (call (nnn word))
  | 0x3 => some (skipIfByte (x word) (nn word))
  | 0x4 => some (skipUnlessByte (x word) (nn word))
  | 0x5 => if (n word).val = 0 then some (skipIfSame (x word) (y word)) else none
  | 0x6 => some (setByte (x word) (nn word))
  | 0x7 => some (addByte (x word) (nn word))
  | 0x8 => decodeArithmetic word
  | 0x9 => if (n word).val = 0 then some (skipUnlessSame (x word) (y word)) else none
  | 0xA => some (setIndex (nnn word))
  | 0xB => some (jumpFrom (nnn word))
  | 0xC => some (random (x word) (nn word))
  | 0xD => some (draw (x word) (y word) (n word))
  | 0xE => decodeKey word
  | _ => decodeTransfer word

example : decode 0x8AB7 = some (subtractFrom 0xA 0xB) := by decide
example : decode 0x00E1 = some (hostRoutine 0x0E1) := by decide
example : decode 0x5121 = none := by decide

end Instruction

end ChipEight

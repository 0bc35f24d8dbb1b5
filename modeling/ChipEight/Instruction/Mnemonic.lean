/-
Module: ChipEight.Instruction.Mnemonic
Purpose: Instructions in assembly notation, as trace lines show them.
Main exports: Instruction.mnemonic
-/
import ChipEight.Instruction
import ChipEight.Text.Numeral

namespace ChipEight.Instruction

open Text

/-- A register in assembly notation: its number is written in base ten. -/
def registerName (register : Register) : String :=
  "V" ++ Numeral.decimal register.val

/-- An address in assembly notation. -/
def addressText (address : Address) : String :=
  Numeral.hexLiteral 4 address.val

/-- A byte in assembly notation, in base ten. -/
def byteText (byte : UInt8) : String :=
  Numeral.decimal byte.toNat

/-- An operation on two registers in assembly notation. -/
def onRegisters (operation : String) (x y : Register) : String :=
  operation ++ " " ++ registerName x ++ ", " ++ registerName y

/-- An instruction in assembly notation. -/
def mnemonic : Instruction → String
  | hostRoutine address => "SYS " ++ addressText address
  | clearScreen => "CLS"
  | returnFromCall => "RET"
  | jump address => "JP " ++ addressText address
  | call address => "CALL " ++ addressText address
  | skipIfByte x byte => "SE " ++ registerName x ++ ", " ++ byteText byte
  | skipUnlessByte x byte => "SNE " ++ registerName x ++ ", " ++ byteText byte
  | skipIfSame x y => onRegisters "SE" x y
  | setByte x byte => "LD " ++ registerName x ++ ", " ++ byteText byte
  | addByte x byte => "ADD " ++ registerName x ++ ", " ++ byteText byte
  | copy x y => onRegisters "LD" x y
  | bitOr x y => onRegisters "OR" x y
  | bitAnd x y => onRegisters "AND" x y
  | bitXor x y => onRegisters "XOR" x y
  | add x y => onRegisters "ADD" x y
  | subtract x y => onRegisters "SUB" x y
  | shiftRight x => "SHR " ++ registerName x
  | subtractFrom x y => onRegisters "SUBN" x y
  | shiftLeft x => "SHL " ++ registerName x
  | skipUnlessSame x y => onRegisters "SNE" x y
  | setIndex address => "LD I, " ++ addressText address
  | jumpFrom address => "JP V0, " ++ addressText address
  | random x mask => "RND " ++ registerName x ++ ", " ++ Numeral.hexLiteral 2 mask.toNat
  | draw x y height => onRegisters "DRW" x y ++ ", " ++ Numeral.decimal height.val
  | skipIfPressed x => "SKP " ++ registerName x
  | skipUnlessPressed x => "SKNP " ++ registerName x
  | readDelay x => "LD " ++ registerName x ++ ", DT"
  | awaitKey x => "LD " ++ registerName x ++ ", K"
  | setDelay x => "LD DT, " ++ registerName x
  | setSound x => "LD ST, " ++ registerName x
  | addToIndex x => "ADD I, " ++ registerName x
  | selectGlyph x => "LD F, " ++ registerName x
  | storeDecimal x => "LD B, " ++ registerName x
  | storeRegisters x => "LD [I], " ++ registerName x
  | loadRegisters x => "LD " ++ registerName x ++ ", [I]"

example : (draw 15 0 9).mnemonic = "DRW V15, V0, 9" := by decide

end ChipEight.Instruction

/-
Module: ChipEight.Fault
Purpose: The faults that stop a program, and how each is worded.
Main exports: Fault, Fault.message
-/
import ChipEight.Text.Numeral

namespace ChipEight

open Text

/-- A reason why the machine cannot go on.  Each one carries what its message shows, so that a
caller can react to the cause without reading the text. -/
inductive Fault where
  /-- The word at `address` is no instruction. -/
  | illegalOpcode (opcode address : Int)
  /-- A subroutine was called while the call stack was full. -/
  | stackOverflow
  /-- A return was executed outside every subroutine. -/
  | stackUnderflow
  /-- The program has `size` bytes and only `limit` fit. -/
  | programTooLarge (size limit : Int)
  /-- The first address of an access that lies outside memory. -/
  | memoryOutOfBounds (address : Int)
deriving Repr, Inhabited, DecidableEq

namespace Fault

/-- The sentence shown to the user. -/
def message : Fault → String
  | illegalOpcode opcode address =>
      "Illegal opcode " ++ Numeral.hexLiteral 4 opcode ++ " at address " ++
        Numeral.hexLiteral 3 address
  | stackOverflow =>
      "The CHIP-8 stack can contain at most 16 addresses. Limit exceeded"
  | stackUnderflow =>
      "Tried to return from a subroutine with an empty stack"
  | programTooLarge size limit =>
      "The program is " ++ Numeral.decimal size ++ " bytes long, at most " ++
        Numeral.decimal limit ++ " bytes fit in memory"
  | memoryOutOfBounds address =>
      "Memory access out of bounds at address " ++ Numeral.hexLiteral 4 address

end Fault

end ChipEight

/-
Module: ChipEight.Machine.Trace
Purpose: The text printed for each instruction while tracing is on.
Main exports: Trace.opcode, Trace.instruction
-/
import ChipEight.Instruction.Mnemonic

namespace ChipEight.Trace

open Text

/-!
A line of the trace has two parts.  The first one shows the word and is printed as soon as the word
is known; the second one shows where it stood and what it means and is printed after it was carried
out.  When an instruction fails its line therefore stays unfinished.
-/

/-- The first part of a line: the word that was fetched. -/
def opcode (word : UInt16) : String :=
  "opcode: " ++ Numeral.hexLiteral 4 word.toNat ++ "    "

/-- The second part of a line: where the instruction stood and what it is. -/
def instruction (address : Int) (carriedOut : Instruction) : String :=
  "mem_addr: " ++ Numeral.hexLiteral 4 address ++ "    instruction: " ++ carriedOut.mnemonic ++ "\n"

end ChipEight.Trace

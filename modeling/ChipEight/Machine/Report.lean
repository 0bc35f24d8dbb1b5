/-
Module: ChipEight.Machine.Report
Purpose: The state of the machine for people to read, and as plain data.
Main exports: Machine.report, Snapshot, Machine.snapshot
-/
import ChipEight.Machine.Basic

namespace ChipEight

open Text

namespace Machine

/-- A truth value as a report shows it. -/
def flagText (flag : Bool) : String :=
  if flag then "True" else "False"

/-- The variable registers in base ten between brackets. -/
def registersText (registers : Registers) : String :=
  "[" ++ String.intercalate ", "
    (registers.toList.map fun value => Numeral.decimal value.toNat) ++ "]"

/-- The state of the machine in four lines: the registers, the timers, the call stack and the two
flags.  Memory, screen and keypad are left out. -/
def report (machine : Machine) : String :=
  "PC_REGISTER:" ++ Numeral.hexLiteral 3 machine.pc ++
    " | IDX_REGISTER:" ++ Numeral.hexLiteral 3 machine.index.toNat ++
    " | VARIABLE_REGISTERS:" ++ registersText machine.registers ++
    "\nDT:" ++ Numeral.decimal machine.delay.toNat ++
    " | ST:" ++ Numeral.decimal machine.sound.toNat ++
    "\nSTACK:" ++ machine.stack.text ++
    "\nDRAW: " ++ flagText machine.draw ++ " | WAITING: " ++ flagText machine.waiting

end Machine

/-- A copy of the state of the machine as plain data.  The two flags are left out. -/
structure Snapshot where
  memory : List UInt8
  registers : List UInt8
  index : UInt16
  pc : Int
  /-- The return addresses, the oldest first. -/
  stack : List Int
  delay : UInt8
  sound : UInt8
  keys : List Bool
  /-- The rows of the screen from top to bottom. -/
  screen : List (List Bool)
deriving Repr, Inhabited, DecidableEq

/-- Take a copy of the state. -/
def Machine.snapshot (machine : Machine) : Snapshot where
  memory := machine.memory.bytes.toList
  registers := machine.registers.toList
  index := machine.index
  pc := machine.pc
  stack := machine.stack.oldestFirst
  delay := machine.delay
  sound := machine.sound
  keys := machine.keypad.toList
  screen := machine.screen.rows

end ChipEight

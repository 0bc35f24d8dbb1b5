/-
Module: ChipEight.Machine.Operation
Purpose: The operations that the surroundings may perform on the machine, as one type.
Main exports: Operation, Reply, Complaint, Machine.apply
-/
import ChipEight.Event
import ChipEight.Machine.Frame

namespace ChipEight

/-- An operation on the machine. -/
inductive Operation where
  /-- Carry out the instruction at the program counter. -/
  | step
  /-- Carry out a given word. -/
  | perform (word : UInt16)
  /-- Let the timers tick. -/
  | tick
  /-- Put a program into memory. -/
  | load (program : List UInt8)
  | reset
  /-- Press the key with a given number, or release it if the value is zero. -/
  | setKey (number value : Int)
  | handle (event : Event)
  /-- Run for one frame of the given number of instructions. -/
  | frame (cycles : Int)
deriving Repr, Inhabited, DecidableEq

/-- What an operation answers. -/
inductive Reply where
  | done
  | verdict (value : Bool)
deriving Repr, Inhabited, DecidableEq

/-- Why an operation was refused. -/
inductive Complaint where
  | fault (cause : Fault)
  | noSuchKey (cause : NoSuchKey)
deriving Repr, Inhabited, DecidableEq

/-- Perform an operation. -/
def Machine.apply (machine : Machine) (tracing : Bool) : Operation → Outcome Complaint Reply
  | .step => ((machine.step tracing).map .verdict).mapError .fault
  | .perform word => ((machine.perform tracing word).map fun _ => .done).mapError .fault
  | .tick => .succeed machine.tick .done
  | .load program => (Outcome.update machine .done (machine.load program)).mapError .fault
  | .reset => .succeed machine.reset .done
  | .setKey number value =>
      (Outcome.update machine .done
        ((machine.keypad.set number value).map fun keypad => { machine with keypad })).mapError
          .noSuchKey
  | .handle event =>
      let (after, goOn) := machine.handle event
      .succeed after (.verdict goOn)
  | .frame cycles => ((machine.runFrame tracing cycles).map .verdict).mapError .fault

end ChipEight

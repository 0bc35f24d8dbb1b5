/-
Module: ChipEight.Machine.Frame
Purpose: The work of the machine between two pictures.
Main exports: Machine.runCycles, Machine.runFrame
-/
import ChipEight.Machine.Step

namespace ChipEight.Machine

/-- Carry out a number of instructions, taking down the drawing flag after each.  The result tells
whether it was up after one of them, or whether `redraw` already held.  The first fault ends the
run. -/
def runCycles (tracing : Bool) : Nat → Bool → String → Machine → Outcome Fault Bool
  | 0, redraw, printed, machine => ⟨machine, .ok redraw, printed⟩
  | cycles + 1, redraw, printed, machine =>
      let outcome := machine.step tracing
      match outcome.result with
      | .error fault => ⟨outcome.machine, .error fault, printed ++ outcome.printed⟩
      | .ok _ =>
          runCycles tracing cycles (redraw || outcome.machine.draw) (printed ++ outcome.printed)
            { outcome.machine with draw := false }

/-- Carry out the instructions of one frame and then let the timers tick.  The result tells whether
the picture has to be drawn again.  A number of cycles below zero counts as none. -/
def runFrame (machine : Machine) (tracing : Bool) (cycles : Int) : Outcome Fault Bool :=
  let outcome := runCycles tracing cycles.toNat false "" machine
  match outcome.result with
  | .error _ => outcome
  | .ok _ => { outcome with machine := outcome.machine.tick }

end ChipEight.Machine

/-
Module: ChipEight.Machine.Step
Purpose: Fetching, decoding and carrying out one instruction.
Main exports: Machine.decode, Machine.dispatch, Machine.step
-/
import ChipEight.Machine.Execute
import ChipEight.Machine.Outcome
import ChipEight.Machine.Trace

namespace ChipEight.Machine

/-- The instruction that a word stands for.  The complaint about an illegal word names the current
program counter. -/
def decode (machine : Machine) (word : UInt16) : Except Fault Instruction :=
  match Instruction.decode word with
  | some instruction => .ok instruction
  | none => .error (.illegalOpcode word.toNat machine.pc)

/-- Text that is printed only while tracing is on. -/
@[inline]
def traced (tracing : Bool) (text : String) : String :=
  if tracing then text else ""

/-- Decode a word and carry it out, moving the program counter in between.  The trace names the
address two below the program counter that the instruction sees. -/
def dispatch (machine : Machine) (tracing : Bool) (advance : Int) (word : UInt16) :
    Outcome Fault Unit :=
  let opcode := traced tracing (Trace.opcode word)
  match machine.decode word with
  | .error fault => ⟨machine, .error fault, opcode⟩
  | .ok instruction =>
      let ready := { machine with pc := machine.pc + advance }
      let outcome := ready.execute instruction
      match outcome.result with
      | .error fault => ⟨outcome.machine, .error fault, opcode⟩
      | .ok _ =>
          ⟨outcome.machine, .ok (),
            opcode ++ traced tracing (Trace.instruction (ready.pc - 2) instruction)⟩

/-- Carry out a given word without fetching it and without moving on first. -/
def perform (machine : Machine) (tracing : Bool) (word : UInt16) : Outcome Fault Unit :=
  machine.dispatch tracing 0 word

/-- Carry out the instruction at the program counter.  The result tells whether the machine can go
on, that is whether it is not waiting for a key. -/
def step (machine : Machine) (tracing : Bool) : Outcome Fault Bool :=
  match machine.fetch with
  | .error fault => ⟨machine, .error fault, ""⟩
  | .ok word =>
      let outcome := machine.dispatch tracing 2 word
      outcome.map fun _ => !outcome.machine.waiting

end ChipEight.Machine

/-
Module: ChipEight.Machine.Basic
Purpose: The state of the machine and the operations that do not execute instructions.
Main exports: Machine, Machine.powerOn, Machine.reset, Machine.load, Machine.tick, Machine.beeping,
  Machine.fetch
-/
import ChipEight.CallStack
import ChipEight.Framebuffer
import ChipEight.Keypad
import ChipEight.Memory
import ChipEight.RandomSource
import ChipEight.Registers

namespace ChipEight

/-- The screen of the machine. -/
abbrev Screen := Framebuffer 64 32

/-- The state of the machine.  Everything that later behaviour can depend on is here. -/
structure Machine where
  memory : Memory
  stack : CallStack
  registers : Registers
  /-- The program counter.  Jumps and skips may carry it past the end of memory, which only the
  next fetch notices, so it is not bounded. -/
  pc : Int
  /-- The address register `I`. -/
  index : UInt16
  /-- The delay timer. -/
  delay : UInt8
  /-- The sound timer. -/
  sound : UInt8
  screen : Screen
  keypad : Keypad
  /-- Whether the screen was drawn on since the flag was last taken down. -/
  draw : Bool
  /-- Whether the last key instruction is still waiting for a key. -/
  waiting : Bool
  random : RandomSource

namespace Machine

/-- A machine that was just switched on. -/
def powerOn (random : RandomSource) : Machine where
  memory := .initial
  stack := .empty
  registers := .zeroed
  pc := Memory.programStart
  index := 0
  delay := 0
  sound := 0
  screen := .blank
  keypad := .released
  draw := false
  waiting := false
  random := random

instance : Inhabited Machine := ⟨powerOn default⟩

/-- Switch the machine off and on. -/
def reset (machine : Machine) : Machine :=
  { machine with
    memory := .initial
    stack := .empty
    registers := .zeroed
    pc := Memory.programStart
    index := 0
    delay := 0
    sound := 0
    screen := .blank
    keypad := .released
    draw := false
    waiting := false }

/-- Only the position in the random source survives that. -/
theorem reset_eq (machine : Machine) : machine.reset = powerOn machine.random :=
  rfl

/-- Put a program into memory. -/
def load (machine : Machine) (program : List UInt8) : Except Fault Machine :=
  (machine.memory.load program).map fun memory => { machine with memory }

/-- Let a sixtieth of a second pass: each timer above zero goes down by one. -/
def tick (machine : Machine) : Machine :=
  { machine with
    delay := if machine.delay > 0 then machine.delay - 1 else machine.delay
    sound := if machine.sound > 0 then machine.sound - 1 else machine.sound }

/-- Whether the buzzer sounds. -/
def beeping (machine : Machine) : Bool :=
  machine.sound > 0

/-- The word at the program counter. -/
def fetch (machine : Machine) : Except Fault UInt16 :=
  machine.memory.word machine.pc

end Machine

end ChipEight

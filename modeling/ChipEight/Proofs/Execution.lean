/-
Module: ChipEight.Proofs.Execution
Purpose: What an instruction leaves behind: its whole effect when it is carried out, and nothing
  when it is refused.
Main exports: Outcome.after, Machine.drawn, Action.outcome_enter, Action.outcome_leave,
  Action.outcome_drawAt, Action.outcome_writeAtIndex, Action.outcome_readAtIndex,
  Machine.execute_eq_update, Machine.execute_keeps, Instruction.bytesAtIndex?,
  Machine.execute_eq_error_iff, Sidelines, Instruction.draws, Instruction.sidelines,
  Machine.execute_withSidelines, Machine.sidelines_of_done
-/
import ChipEight.Machine.Execute
import ChipEight.Proofs.Memory

namespace ChipEight

open Result

/-- The machine that an operation leaves if it succeeds, or its complaint. -/
def Outcome.after {ε α : Type} (outcome : Outcome ε α) : Except ε Machine :=
  match outcome.result with
  | .ok _ => .ok outcome.machine
  | .error complaint => .error complaint

theorem Outcome.after_update {ε α : Type} (before : Machine) (value : α)
    (reached : Except ε Machine) : (update before value reached).after = reached := by
  cases reached with
  | error complaint => rfl
  | ok machine => rfl

@[simp] theorem Outcome.after_done {ε : Type} (machine : Machine) :
    (done machine : Outcome ε Unit).after = .ok machine :=
  rfl

/-- The machine after a sprite was drawn with its corner at a position. -/
def Machine.drawn (machine : Machine) (sprite : Sprite) (left top : Nat) : Machine :=
  let drawing := machine.screen.drawSprite sprite left top
  { machine with
    screen := drawing.1
    draw := true
    registers := machine.registers.set Registers.flag (if drawing.2 then 1 else 0) }

/-!
### All or nothing

An instruction that can fail has one access that fails, and assigns nothing in front of it.  So its
assignments are one change of the machine, which takes place as a whole or not at all.
-/

namespace Action

variable (machine : Machine)

theorem outcome_enter (address : Address) :
    (enter address).outcome machine =
      .update machine () ((machine.stack.push machine.pc).map fun stack =>
        { machine with stack, pc := address.val }) := by
  rw [enter, outcome_get_bind, outcome_access_bind]
  cases machine.stack.push machine.pc with
  | error fault => rfl
  | ok stack => rfl

theorem outcome_leave :
    leave.outcome machine =
      .update machine () (machine.stack.pop.map fun (address, stack) =>
        { machine with stack, pc := address }) := by
  rw [leave, outcome_get_bind, outcome_access_bind]
  cases machine.stack.pop with
  | error fault => rfl
  | ok top => rfl

theorem outcome_drawAt (x y : Register) (height : Nat) :
    (drawAt x y height).outcome machine =
      .update machine ()
        ((machine.memory.slice (some machine.index.toNat)
            (some (machine.index.toNat + height))).map fun sprite =>
          machine.drawn sprite ((machine.v x).toNat % 64) ((machine.v y).toNat % 32)) := by
  rw [drawAt, outcome_get_bind]
  dsimp only
  rw [outcome_access_bind]
  cases machine.memory.slice (some machine.index.toNat) (some (machine.index.toNat + height)) with
  | error fault => rfl
  | ok sprite => rfl

theorem outcome_writeAtIndex (bytes : List UInt8) :
    (writeAtIndex bytes).outcome machine =
      .update machine () ((machine.memory.write machine.index.toNat bytes).map fun memory =>
        { machine with memory }) := by
  rw [writeAtIndex, outcome_get_bind, outcome_access_bind]
  cases machine.memory.write machine.index.toNat bytes with
  | error fault => rfl
  | ok memory => rfl

theorem outcome_readAtIndex (last : Register) :
    (readAtIndex last).outcome machine =
      .update machine ()
        ((machine.memory.block machine.index.toNat (last.val + 1)).map (machine.setThrough last)) := by
  rw [readAtIndex, outcome_get_bind, outcome_access_bind]
  cases machine.memory.block machine.index.toNat (last.val + 1) with
  | error fault => rfl
  | ok bytes => rfl

end Action

namespace Machine

variable {machine after : Machine} {fault : Fault} {instruction : Instruction}

theorem after_call (address : Address) :
    (machine.execute (.call address)).after =
      (machine.stack.push machine.pc).map fun stack =>
        { machine with stack, pc := address.val } := by
  rw [execute, Action.outcome_enter, Outcome.after_update]

theorem after_returnFromCall :
    (machine.execute .returnFromCall).after =
      machine.stack.pop.map fun (address, stack) => { machine with stack, pc := address } := by
  rw [execute, Action.outcome_leave, Outcome.after_update]

theorem after_draw (x y : Register) (height : Nibble) :
    (machine.execute (.draw x y height)).after =
      (machine.memory.slice (some machine.index.toNat)
          (some (machine.index.toNat + height.val))).map fun sprite =>
        machine.drawn sprite ((machine.v x).toNat % 64) ((machine.v y).toNat % 32) := by
  rw [execute, Action.outcome_drawAt, Outcome.after_update]

theorem after_storeDecimal (x : Register) :
    (machine.execute (.storeDecimal x)).after =
      (machine.memory.write machine.index.toNat (decimalDigits (machine.v x))).map fun memory =>
        { machine with memory } := by
  rw [execute, Action.outcome_writeAtIndex, Outcome.after_update]

theorem after_storeRegisters (x : Register) :
    (machine.execute (.storeRegisters x)).after =
      (machine.memory.write machine.index.toNat (machine.registers.through x)).map fun memory =>
        { machine with memory } := by
  rw [execute, Action.outcome_writeAtIndex, Outcome.after_update]

theorem after_loadRegisters (x : Register) :
    (machine.execute (.loadRegisters x)).after =
      (machine.memory.block machine.index.toNat (x.val + 1)).map (machine.setThrough x) := by
  rw [execute, Action.outcome_readAtIndex, Outcome.after_update]

/-- Whether the next instruction is passed over or not, nothing but the program counter moves. -/
theorem skipWhen_eq (machine : Machine) (condition : Bool) :
    machine.skipWhen condition =
      { machine with pc := if condition then machine.pc + 2 else machine.pc } := by
  cases condition with
  | false => rfl
  | true => rfl

/-- An instruction has its whole effect, or it is refused and has none. -/
theorem execute_eq_update (machine : Machine) (instruction : Instruction) :
    machine.execute instruction = .update machine () (machine.execute instruction).after := by
  cases instruction
  case returnFromCall => rw [after_returnFromCall, execute, Action.outcome_leave]
  case call address => rw [after_call, execute, Action.outcome_enter]
  case draw x y height => rw [after_draw, execute, Action.outcome_drawAt]
  case storeDecimal x => rw [after_storeDecimal, execute, Action.outcome_writeAtIndex]
  case storeRegisters x => rw [after_storeRegisters, execute, Action.outcome_writeAtIndex]
  case loadRegisters x => rw [after_loadRegisters, execute, Action.outcome_readAtIndex]
  all_goals rfl

/-- An instruction that ends with a fault has not touched the machine. -/
theorem execute_keeps (failed : (machine.execute instruction).result = .error fault) :
    (machine.execute instruction).machine = machine := by
  rw [execute_eq_update] at failed ⊢
  cases reached : (machine.execute instruction).after with
  | error complaint => rfl
  | ok after =>
      rw [reached] at failed
      cases failed

theorem execute_of_refused (refused : (machine.execute instruction).after = .error fault) :
    machine.execute instruction = ⟨machine, .error fault, ""⟩ := by
  rw [execute_eq_update, refused]
  rfl

theorem execute_of_done (done : (machine.execute instruction).after = .ok after) :
    machine.execute instruction = ⟨after, .ok (), ""⟩ := by
  rw [execute_eq_update, done]
  rfl

end Machine

/-!
### Refused instructions

Only six instructions can be refused: the two that use the call stack, and the four that access
memory at `I`.  The latter differ in nothing but the number of bytes that they touch.
-/

/-- The number of bytes from `I` on that an instruction touches, if it accesses memory there. -/
def Instruction.bytesAtIndex? : Instruction → Option Nat
  | .draw _ _ height => some height.val
  | .storeDecimal _ => some 3
  | .storeRegisters last => some (last.val + 1)
  | .loadRegisters last => some (last.val + 1)
  | _ => none

namespace CallStack

variable {stack after : CallStack} {address : Int} {fault : Fault}

theorem push_eq_ok_iff :
    stack.push address = .ok after ↔ stack.depth < 16 ∧ after = ⟨address :: stack.addresses⟩ := by
  unfold push
  split
  · next full => simp [show ¬ stack.depth < 16 from Nat.not_lt.mpr full]
  · next room => simp [show stack.depth < 16 from Nat.lt_of_not_le room, eq_comm]

theorem push_eq_error_iff :
    stack.push address = .error fault ↔ 16 ≤ stack.depth ∧ fault = .stackOverflow := by
  unfold push
  split
  · next full => simp [show 16 ≤ stack.depth from full, eq_comm]
  · next room => simp [show ¬ 16 ≤ stack.depth from room]

theorem pop_eq_ok_iff :
    stack.pop = .ok (address, after) ↔ stack.addresses = address :: after.addresses := by
  cases after with
  | mk rest =>
      unfold pop
      split
      · next none => simp [none]
      · next top below some => simp [some]

theorem pop_eq_error_iff :
    stack.pop = .error fault ↔ stack.depth = 0 ∧ fault = .stackUnderflow := by
  unfold pop depth
  split
  · next none => simp [none, eq_comm]
  · next top below some => simp [some]

end CallStack

namespace Registers

theorem length_through (registers : Registers) (last : Register) :
    (registers.through last).length = last.val + 1 := by
  rw [through, List.length_take, Vector.length_toList]
  exact Nat.min_eq_left last.isLt

end Registers

namespace Machine

variable {machine : Machine} {fault : Fault} {instruction : Instruction}

/-- An instruction is refused for want of a return address, for want of room on the call stack, or
because the bytes it touches at `I` reach beyond the end of memory. -/
theorem execute_eq_error_iff :
    (machine.execute instruction).after = .error fault ↔
      (instruction = .returnFromCall ∧ machine.stack.depth = 0 ∧ fault = .stackUnderflow) ∨
      ((∃ address, instruction = .call address) ∧ 16 ≤ machine.stack.depth ∧
        fault = .stackOverflow) ∨
      (∃ count, instruction.bytesAtIndex? = some count ∧ 4096 < machine.index.toNat + count ∧
        fault = .memoryOutOfBounds (max machine.index.toNat 4096)) := by
  cases instruction with
  | returnFromCall =>
      simp [after_returnFromCall, map_eq_error_iff, CallStack.pop_eq_error_iff,
        Instruction.bytesAtIndex?]
  | call address =>
      simp [after_call, map_eq_error_iff, CallStack.push_eq_error_iff, Instruction.bytesAtIndex?]
  | draw x y height =>
      simp [after_draw, map_eq_error_iff, Memory.slice_eq_error_iff, Instruction.bytesAtIndex?]
  | storeDecimal x =>
      simp [after_storeDecimal, map_eq_error_iff, Memory.write_eq_error_iff, decimalDigits,
        Instruction.bytesAtIndex?]
  | storeRegisters x =>
      simp [after_storeRegisters, map_eq_error_iff, Memory.write_eq_error_iff,
        Registers.length_through, Instruction.bytesAtIndex?]
  | loadRegisters x =>
      simp [after_loadRegisters, map_eq_error_iff, Memory.block_eq_error_iff,
        Instruction.bytesAtIndex?]
  | _ => simp [execute, Instruction.bytesAtIndex?]

end Machine

/-!
### Sidelines

Five parts of the machine are hardly ever looked at by an instruction: the timers, the two flags and
the random source.  So an instruction does the same to a machine in which these are other ones, and
what it makes of them can be said apart from the rest.
-/

/-- The parts of a machine that hardly any instruction looks at. -/
structure Sidelines where
  delay : UInt8
  sound : UInt8
  draw : Bool
  waiting : Bool
  random : RandomSource

/-- The parts of a machine that hardly any instruction looks at. -/
def Machine.sidelines (machine : Machine) : Sidelines :=
  { delay := machine.delay
    sound := machine.sound
    draw := machine.draw
    waiting := machine.waiting
    random := machine.random }

/-- The machine with other ones in place of these parts. -/
def Machine.withSidelines (machine : Machine) (given : Sidelines) : Machine :=
  { machine with
    delay := given.delay
    sound := given.sound
    draw := given.draw
    waiting := given.waiting
    random := given.random }

namespace Instruction

/-- The instruction clears the screen or draws on it. -/
def draws : Instruction → Bool
  | clearScreen | draw _ _ _ => true
  | _ => false

/-- What an instruction of a machine makes of these parts, when they are the given ones. -/
def sidelines (instruction : Instruction) (machine : Machine) (given : Sidelines) : Sidelines where
  delay :=
    match instruction with
    | setDelay x => machine.v x
    | _ => given.delay
  sound :=
    match instruction with
    | setSound x => machine.v x
    | _ => given.sound
  draw := instruction.draws || given.draw
  waiting :=
    match instruction with
    | awaitKey _ => machine.keypad.lowest?.isNone
    | _ => given.waiting
  random :=
    match instruction with
    | random _ _ => given.random.next.2
    | _ => given.random

/-- The given parts are like those of the machine in what the instruction looks at. -/
structure SeesSame (instruction : Instruction) (machine : Machine) (given : Sidelines) : Prop where
  delay : ∀ x, instruction = readDelay x → given.delay = machine.delay
  number : ∀ x mask, instruction = random x mask → given.random.next.1 = machine.random.next.1

end Instruction

namespace Machine

variable {machine after : Machine} {instruction : Instruction} {given : Sidelines}

theorem skipWhen_withSidelines (machine : Machine) (given : Sidelines) (condition : Bool) :
    (machine.skipWhen condition).sidelines = machine.sidelines ∧
      (machine.withSidelines given).skipWhen condition =
        (machine.skipWhen condition).withSidelines given := by
  rw [skipWhen_eq, skipWhen_eq]
  exact ⟨rfl, rfl⟩

theorem takeKey_withSidelines (machine : Machine) (given : Sidelines) (x : Register) :
    (machine.takeKey x).sidelines =
        (Instruction.awaitKey x).sidelines machine machine.sidelines ∧
      (machine.withSidelines given).takeKey x =
        (machine.takeKey x).withSidelines
          ((Instruction.awaitKey x).sidelines machine given) := by
  dsimp only [takeKey, withSidelines, Instruction.sidelines]
  cases machine.keypad.lowest? with
  | none => exact ⟨rfl, rfl⟩
  | some key => exact ⟨rfl, rfl⟩

theorem takeRandom_withSidelines (x : Register) (mask : UInt8)
    (number : given.random.next.1 = machine.random.next.1) :
    (machine.withSidelines given).takeRandom x mask =
      (machine.takeRandom x mask).withSidelines
        ((Instruction.random x mask).sidelines machine given) := by
  dsimp only [takeRandom, withSidelines, setV, Instruction.sidelines]
  rw [number]
  rfl

/-- The result of an instruction on a machine with other sidelines: it is refused alike, and if it
is not, the machines differ in nothing but what it makes of the sidelines. -/
theorem execute_withSidelines (sees : instruction.SeesSame machine given) :
    Agree
      (fun after after' =>
        after.sidelines = instruction.sidelines machine machine.sidelines ∧
          after' = after.withSidelines (instruction.sidelines machine given))
      (machine.execute instruction).after
      ((machine.withSidelines given).execute instruction).after := by
  cases instruction
  case returnFromCall =>
    rw [after_returnFromCall, after_returnFromCall]
    exact Agree.map fun _ => ⟨rfl, rfl⟩
  case call address =>
    rw [after_call, after_call]
    exact Agree.map fun _ => ⟨rfl, rfl⟩
  case draw x y height =>
    rw [after_draw, after_draw]
    exact Agree.map fun _ => ⟨rfl, rfl⟩
  case storeDecimal x =>
    rw [after_storeDecimal, after_storeDecimal]
    exact Agree.map fun _ => ⟨rfl, rfl⟩
  case storeRegisters x =>
    rw [after_storeRegisters, after_storeRegisters]
    exact Agree.map fun _ => ⟨rfl, rfl⟩
  case loadRegisters x =>
    rw [after_loadRegisters, after_loadRegisters]
    exact Agree.map fun _ => ⟨rfl, rfl⟩
  all_goals rw [execute, execute, Outcome.after_done, Outcome.after_done]
  case skipIfByte | skipUnlessByte | skipIfSame | skipUnlessSame | skipIfPressed |
      skipUnlessPressed =>
    exact .ok (skipWhen_withSidelines machine given _)
  case awaitKey x => exact .ok (takeKey_withSidelines machine given x)
  case random x mask =>
    exact .ok ⟨rfl, takeRandom_withSidelines x mask (sees.number x mask rfl)⟩
  case readDelay x =>
    refine .ok ⟨rfl, ?_⟩
    rw [show (machine.withSidelines given).delay = machine.delay from sees.delay x rfl]
    rfl
  all_goals exact .ok ⟨rfl, rfl⟩

/-- What an instruction has made of the sidelines of the machine itself. -/
theorem sidelines_of_done (done : (machine.execute instruction).after = .ok after) :
    after.sidelines = instruction.sidelines machine machine.sidelines := by
  have sees : instruction.SeesSame machine machine.sidelines := ⟨fun _ _ => rfl, fun _ _ _ => rfl⟩
  have agree := execute_withSidelines sees
  rw [done] at agree
  generalize ((machine.withSidelines machine.sidelines).execute instruction).after = ran at agree
  cases agree with
  | ok both => exact both.1

end Machine

end ChipEight

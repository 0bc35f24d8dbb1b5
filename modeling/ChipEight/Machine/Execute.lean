/-
Module: ChipEight.Machine.Execute
Purpose: What each instruction does to the machine.
Main exports: Action.enter, Action.leave, Action.drawAt, Action.writeAtIndex, Action.readAtIndex,
  Machine.execute
-/
import ChipEight.Instruction
import ChipEight.Machine.Action
import ChipEight.Sprite

namespace ChipEight

/-!
When an instruction is executed the program counter already stands behind it.  An instruction that
cannot be carried out yields a fault, and the machine as far as it was changed until then.
-/

namespace Machine

/-- The contents of a register. -/
def v (machine : Machine) (register : Register) : UInt8 :=
  machine.registers.get register

/-- The machine with one register replaced. -/
def setV (machine : Machine) (register : Register) (value : UInt8) : Machine :=
  { machine with registers := machine.registers.set register value }

/-- The machine with one register replaced and the flag register set after it. -/
def setFlaggedV (machine : Machine) (register : Register) (value : UInt8) (raised : Bool) :
    Machine :=
  { machine with registers := machine.registers.setFlagged register value raised }

/-- The machine with its first registers replaced, up to the given one. -/
def setThrough (machine : Machine) (last : Register)
    (bytes : { bytes : List UInt8 // bytes.length = last.val + 1 }) : Machine :=
  have fits : bytes.val.length ≤ 16 := Nat.le_trans (Nat.le_of_eq bytes.property) last.isLt
  { machine with registers := machine.registers.replaceFirst bytes.val fits }

/-- Pass over the next instruction when a condition holds. -/
def skipWhen (machine : Machine) (condition : Bool) : Machine :=
  if condition then { machine with pc := machine.pc + 2 } else machine

/-- The key that the low digit of a register names. -/
def keyIn (machine : Machine) (register : Register) : Key :=
  Nibble.ofNat (machine.v register).toNat

/-- Store the lowest key held down, or go back to the same instruction when there is none. -/
def takeKey (machine : Machine) (register : Register) : Machine :=
  match machine.keypad.lowest? with
  | none => { machine with pc := machine.pc - 2, waiting := true }
  | some key => { machine.setV register (UInt8.ofNat key.val) with waiting := false }

/-- Store the next random number, cut down to the bits of a mask. -/
def takeRandom (machine : Machine) (register : Register) (mask : UInt8) : Machine :=
  let (number, source) := machine.random.next
  { machine.setV register (UInt8.ofInt number &&& mask) with random := source }

/-- The hundreds, tens and ones of a byte. -/
def decimalDigits (value : UInt8) : List UInt8 :=
  [value / 100, value / 10 % 10, value % 10]

end Machine

/-!
### Instructions that can fail

These use the call stack or the memory.  Each is the sequence of its assignments, and an assignment
in front of the access that fails would not be undone.
-/

namespace Action

/-- Enter a subroutine. -/
def enter (address : Address) : Action Unit := do
  let machine ← get
  let stack ← ofExcept (machine.stack.push machine.pc)
  modify fun machine => { machine with stack }
  modify fun machine => { machine with pc := address.val }

/-- Leave a subroutine. -/
def leave : Action Unit := do
  let machine ← get
  let (address, stack) ← ofExcept machine.stack.pop
  modify fun machine => { machine with stack }
  modify fun machine => { machine with pc := address }

/-- Draw the sprite at `I`, its corner brought onto the screen by wrapping round. -/
def drawAt (x y : Register) (height : Nat) : Action Unit := do
  let machine ← get
  let left := (machine.v x).toNat % 64
  let top := (machine.v y).toNat % 32
  let address := machine.index.toNat
  let sprite ← ofExcept (machine.memory.slice (some address) (some (address + height)))
  let (screen, collided) := machine.screen.drawSprite sprite left top
  modify fun machine => { machine with screen }
  modify fun machine => machine.setV Registers.flag (if collided then 1 else 0)
  modify fun machine => { machine with draw := true }

/-- Write bytes from `I` on. -/
def writeAtIndex (bytes : List UInt8) : Action Unit := do
  let machine ← get
  let memory ← ofExcept (machine.memory.write machine.index.toNat bytes)
  modify fun machine => { machine with memory }

/-- Read the registers up to the given one from `I` on. -/
def readAtIndex (last : Register) : Action Unit := do
  let machine ← get
  let bytes ← ofExcept (machine.memory.block machine.index.toNat (last.val + 1))
  modify fun machine => machine.setThrough last bytes

end Action

namespace Machine

/-- Carry out an instruction. -/
def execute (machine : Machine) : Instruction → Outcome Fault Unit
  | .hostRoutine _ => .done machine
  | .clearScreen => .done { machine with screen := .blank, draw := true }
  | .returnFromCall => Action.leave.outcome machine
  | .jump address => .done { machine with pc := address.val }
  | .call address => (Action.enter address).outcome machine
  | .skipIfByte x byte => .done (machine.skipWhen (machine.v x == byte))
  | .skipUnlessByte x byte => .done (machine.skipWhen (machine.v x != byte))
  | .skipIfSame x y => .done (machine.skipWhen (machine.v x == machine.v y))
  | .setByte x byte => .done (machine.setV x byte)
  | .addByte x byte => .done (machine.setV x (machine.v x + byte))
  | .copy x y => .done (machine.setV x (machine.v y))
  | .bitOr x y => .done (machine.setV x (machine.v x ||| machine.v y))
  | .bitAnd x y => .done (machine.setV x (machine.v x &&& machine.v y))
  | .bitXor x y => .done (machine.setV x (machine.v x ^^^ machine.v y))
  | .add x y =>
      let carry := decide ((machine.v x).toNat + (machine.v y).toNat > 255)
      .done (machine.setFlaggedV x (machine.v x + machine.v y) carry)
  | .subtract x y =>
      let enough := decide (machine.v x ≥ machine.v y)
      .done (machine.setFlaggedV x (machine.v x - machine.v y) enough)
  | .shiftRight x =>
      let low := (machine.v x).toNat.testBit 0
      .done (machine.setFlaggedV x (machine.v x >>> 1) low)
  | .subtractFrom x y =>
      let enough := decide (machine.v y ≥ machine.v x)
      .done (machine.setFlaggedV x (machine.v y - machine.v x) enough)
  | .shiftLeft x =>
      let high := (machine.v x).toNat.testBit 7
      .done (machine.setFlaggedV x (machine.v x <<< 1) high)
  | .skipUnlessSame x y => .done (machine.skipWhen (machine.v x != machine.v y))
  | .setIndex address => .done { machine with index := UInt16.ofNat address.val }
  | .jumpFrom address => .done { machine with pc := address.val + (machine.v Registers.base).toNat }
  | .random x mask => .done (machine.takeRandom x mask)
  | .draw x y height => (Action.drawAt x y height.val).outcome machine
  | .skipIfPressed x => .done (machine.skipWhen (machine.keypad.isPressed (machine.keyIn x)))
  | .skipUnlessPressed x => .done (machine.skipWhen (!machine.keypad.isPressed (machine.keyIn x)))
  | .readDelay x => .done (machine.setV x machine.delay)
  | .awaitKey x => .done (machine.takeKey x)
  | .setDelay x => .done { machine with delay := machine.v x }
  | .setSound x => .done { machine with sound := machine.v x }
  | .addToIndex x => .done { machine with index := machine.index + (machine.v x).toUInt16 }
  | .selectGlyph x =>
      .done { machine with index := UInt16.ofNat (Font.glyphAddress (machine.keyIn x).val) }
  | .storeDecimal x =>
      (Action.writeAtIndex (decimalDigits (machine.v x))).outcome machine
  | .storeRegisters x =>
      (Action.writeAtIndex (machine.registers.through x)).outcome machine
  | .loadRegisters x => (Action.readAtIndex x).outcome machine

end Machine

end ChipEight

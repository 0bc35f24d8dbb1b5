/-
Module: ChipEight.Proofs.Contents
Purpose: What a machine holds, as plain numbers, and what the operations of the machine do to it.
Main exports: Contents, Machine.contents, Machine.contents_injective,
  Machine.eq_of_memory_changed, Machine.eq_of_registers_changed, Machine.contents_setV,
  Machine.contents_setFlaggedV, Machine.contents_written, Machine.contents_setThrough,
  Machine.contents_takeKey, Machine.contents_takeRandom, Machine.after_draw_eq_ok_iff,
  Machine.contents_drawn
-/
import ChipEight.Proofs.Drawing
import ChipEight.Proofs.Execution
import Mathlib.Logic.Function.Basic

namespace ChipEight

open Result

/-!
### The view

The machine keeps its parts in vectors of bytes.  Here each part is a function from numbers to
numbers, so that the effect of an instruction can be said without widths and without bounds.
Numbers that name nothing give zero.
-/

/-- What a machine holds. -/
structure Contents where
  register : Nat → Nat
  index : Nat
  memory : Nat → Nat
  pc : Int
  /-- The return addresses, the most recent one first. -/
  stack : List Int
  delay : Nat
  sound : Nat
  /-- Whether the pixel in a column and a row is on. -/
  pixel : Nat → Nat → Bool
  key : Nat → Bool
  draw : Bool
  waiting : Bool
  random : RandomSource

/-- The number in a register. -/
def Registers.number (registers : Registers) (register : Nat) : Nat :=
  if inside : register < 16 then (registers.get ⟨register, inside⟩).toNat else 0

/-- Whether the key with a given number is held down. -/
def Keypad.isHeld (keypad : Keypad) (number : Nat) : Bool :=
  if inside : number < 16 then keypad.isPressed ⟨number, inside⟩ else false

/-- What a machine holds. -/
def Machine.contents (machine : Machine) : Contents where
  register := machine.registers.number
  index := machine.index.toNat
  memory address := (machine.memory.byteAt address).toNat
  pc := machine.pc
  stack := machine.stack.addresses
  delay := machine.delay.toNat
  sound := machine.sound.toNat
  pixel x y := machine.screen.pixelAt x y
  key := machine.keypad.isHeld
  draw := machine.draw
  waiting := machine.waiting
  random := machine.random

namespace Registers

variable {registers other : Registers}

@[simp] theorem number_val (registers : Registers) (register : Register) :
    registers.number register.val = (registers.get register).toNat := by
  simp [number]

theorem ext_number (same : registers.number = other.number) : registers = other := by
  cases registers with
  | mk cells =>
      cases other with
      | mk cells' =>
          congr 1
          apply Vector.ext
          intro register inside
          have value := congrFun same register
          simp only [number, dif_pos inside, get] at value
          exact UInt8.toNat_inj.mp value

/-- Setting a register changes its number and no other one. -/
@[simp] theorem number_set (register : Register) (value : UInt8) :
    (registers.set register value).number =
      Function.update registers.number register.val value.toNat := by
  funext name
  by_cases inside : name < 16
  · simp only [number, dif_pos inside, get_set, Function.update_apply]
    by_cases same : register = ⟨name, inside⟩
    · have : name = register.val := by rw [same]
      rw [if_pos same, if_pos this]
    · have : name ≠ register.val := fun equal => same (Fin.ext equal.symm)
      rw [if_neg same, if_neg this]
  · have : name ≠ register.val := fun equal => inside (equal ▸ register.isLt)
    simp only [number, dif_neg inside, Function.update_apply, if_neg this]

theorem getElem?_through (last : Register) {position : Nat} (inside : position ≤ last.val) :
    ((registers.through last)[position]?.getD 0).toNat = registers.number position := by
  have bound : position < 16 := Nat.lt_of_le_of_lt inside last.isLt
  simp [through, number, get, bound, Nat.lt_succ_of_le inside]

theorem number_replaceFirst {values : List UInt8} (fits : values.length ≤ 16) :
    (registers.replaceFirst values fits).number =
      fun name => if name < values.length then (values[name]?.getD 0).toNat
        else registers.number name := by
  funext name
  by_cases given : name < values.length
  · have inside : name < 16 := Nat.lt_of_lt_of_le given fits
    simp [number, inside, get_replaceFirst, given]
  · rw [if_neg given]
    by_cases inside : name < 16
    · simp [number, inside, get_replaceFirst, Nat.not_lt.mp given]
    · simp [number, inside]

end Registers

namespace Keypad

variable {keypad other : Keypad}

@[simp] theorem isHeld_val (key : Key) : keypad.isHeld key.val = keypad.isPressed key := by
  simp [isHeld]

theorem ext_isHeld (same : keypad.isHeld = other.isHeld) : keypad = other := by
  cases keypad with
  | mk pressed =>
      cases other with
      | mk pressed' =>
          congr 1
          apply Vector.ext
          intro key inside
          have value := congrFun same key
          simp only [isHeld, dif_pos inside, isPressed] at value
          exact value

end Keypad

/-- The view loses nothing: two machines that hold the same are the same. -/
theorem Machine.contents_injective : Function.Injective Machine.contents := by
  intro machine other same
  have field {α : Type} (part : Contents → α) : part machine.contents = part other.contents :=
    congrArg part same
  have memory : machine.memory = other.memory := by
    apply Memory.ext_byteAt
    intro address
    exact UInt8.toNat_inj.mp (congrFun (field Contents.memory) address)
  have screen : machine.screen = other.screen := by
    apply Framebuffer.ext_pixelAt
    intro x y
    exact congrFun (congrFun (field Contents.pixel) x) y
  have registers : machine.registers = other.registers :=
    Registers.ext_number (field Contents.register)
  have keypad : machine.keypad = other.keypad := Keypad.ext_isHeld (field Contents.key)
  have stack : machine.stack.addresses = other.stack.addresses := field Contents.stack
  have index : machine.index = other.index := UInt16.toNat_inj.mp (field Contents.index)
  have delay : machine.delay = other.delay := UInt8.toNat_inj.mp (field Contents.delay)
  have sound : machine.sound = other.sound := UInt8.toNat_inj.mp (field Contents.sound)
  have pc : machine.pc = other.pc := field Contents.pc
  have draw : machine.draw = other.draw := field Contents.draw
  have waiting : machine.waiting = other.waiting := field Contents.waiting
  have random : machine.random = other.random := field Contents.random
  cases machine with
  | mk =>
      cases other with
      | mk =>
          simp only at memory screen registers keypad stack index delay sound pc draw waiting random
          congr 1
          exact congrArg CallStack.mk stack

/-!
### Changes of the contents

The parts that the effects of instructions are made of, and the operations of the machine that they
describe.
-/

namespace Contents

/-- The number that the two bytes at the program counter make up, the high one coming first. -/
def word (state : Contents) : Nat :=
  0x100 * state.memory state.pc.toNat + state.memory (state.pc.toNat + 1)

/-- Put a number into a register. -/
def write (state : Contents) (register value : Nat) : Contents :=
  { state with register := Function.update state.register register value }

/-- Put a number into a register and then zero or one into the flag register. -/
def writeFlagged (state : Contents) (register value : Nat) (raised : Prop) [Decidable raised] :
    Contents :=
  (state.write register value).write 0xF (if raised then 1 else 0)

/-- Move the program counter on by two when a condition holds. -/
def skipWhen (state : Contents) (condition : Prop) [Decidable condition] : Contents :=
  if condition then { state with pc := state.pc + 2 } else state

theorem skipWhen_eq (state : Contents) (condition : Prop) [Decidable condition] :
    state.skipWhen condition =
      { state with pc := if condition then state.pc + 2 else state.pc } := by
  unfold skipWhen
  split
  · rfl
  · rfl

theorem skipWhen_congr (state : Contents) {condition other : Prop} [Decidable condition]
    [Decidable other] (same : condition ↔ other) :
    state.skipWhen condition = state.skipWhen other := by
  simp only [skipWhen, same]

theorem writeFlagged_congr (state : Contents) (register : Nat) {value value' : Nat}
    {raised raised' : Prop} [Decidable raised] [Decidable raised'] (sameValue : value = value')
    (sameFlag : raised ↔ raised') :
    state.writeFlagged register value raised = state.writeFlagged register value' raised' := by
  simp only [writeFlagged, sameValue, sameFlag]

/-- Put numbers into the bytes from `I` on, as many as `count` says. -/
def storeAtIndex (state : Contents) (count : Nat) (value : Nat → Nat) : Contents :=
  { state with
    memory := fun address =>
      if state.index ≤ address ∧ address < state.index + count then value (address - state.index)
      else state.memory address }

theorem storeAtIndex_congr (state : Contents) {count : Nat} {value value' : Nat → Nat}
    (same : ∀ position < count, value position = value' position) :
    state.storeAtIndex count value = state.storeAtIndex count value' := by
  unfold storeAtIndex
  congr 1
  funext address
  by_cases inside : state.index ≤ address ∧ address < state.index + count
  · rw [if_pos inside, if_pos inside]
    exact same _ (by omega)
  · rw [if_neg inside, if_neg inside]

/-- The lowest key that is held down. -/
def lowestKey? (state : Contents) : Option Nat :=
  (List.range 16).find? state.key

/-- The sprite of `height` rows at `I` covers a pixel when its corner is put at a position: the
pixel lies in the rectangle of the sprite, and its bit in the row of the sprite is set. -/
def Covers (state : Contents) (left top height x y : Nat) : Prop :=
  (left ≤ x ∧ x < left + 8) ∧ (top ≤ y ∧ y < top + height) ∧
    (state.memory (state.index + (y - top))).testBit (7 - (x - left)) = true

instance (state : Contents) (left top height x y : Nat) :
    Decidable (state.Covers left top height x y) :=
  inferInstanceAs (Decidable (_ ∧ _))

/-- A pixel on the screen that is on and covered by the sprite at `I`. -/
def Collides (state : Contents) (left top height : Nat) : Prop :=
  ∃ x < 64, ∃ y < 32, state.pixel x y = true ∧ state.Covers left top height x y

instance (state : Contents) (left top height : Nat) :
    Decidable (state.Collides left top height) :=
  inferInstanceAs (Decidable (∃ x < 64, ∃ y < 32, _ ∧ _))

/-- Flip the pixels on the screen that the sprite at `I` covers, and set the flag register when one
of them was on. -/
def drawSprite (state : Contents) (left top height : Nat) : Contents :=
  { state with
    pixel := fun x y =>
      state.pixel x y ^^ decide ((x < 64 ∧ y < 32) ∧ state.Covers left top height x y)
    register :=
      Function.update state.register 0xF (if state.Collides left top height then 1 else 0)
    draw := true }

end Contents

namespace Machine

variable {machine after : Machine}

/-- The view shows when nothing but memory has changed. -/
theorem eq_of_memory_changed {memory : Nat → Nat}
    (changed : after.contents = { machine.contents with memory }) :
    after = { machine with memory := after.memory } := by
  have same : after.contents.memory = memory := congrArg Contents.memory changed
  apply contents_injective
  rw [changed, ← same]
  rfl

theorem eq_of_registers_changed {register : Nat → Nat}
    (changed : after.contents = { machine.contents with register }) :
    after = { machine with registers := after.registers } := by
  have same : after.contents.register = register := congrArg Contents.register changed
  apply contents_injective
  rw [changed, ← same]
  rfl

theorem toNat_fetched {word : UInt16} (fetched : machine.fetch = .ok word) :
    word.toNat = machine.contents.word :=
  Memory.toNat_word fetched

theorem contents_register (machine : Machine) (register : Register) :
    machine.contents.register register.val = (machine.v register).toNat :=
  machine.registers.number_val register

/-- The key that the low digit of a register names. -/
theorem contents_key_keyIn (machine : Machine) (register : Register) :
    machine.contents.key ((machine.v register).toNat % 16) =
      machine.keypad.isPressed (machine.keyIn register) :=
  Keypad.isHeld_val (machine.keyIn register)

theorem contents_setV (x : Register) (value : UInt8) :
    (machine.setV x value).contents = machine.contents.write x.val value.toNat := by
  simp [setV, contents, Contents.write]

theorem contents_setFlaggedV (x : Register) (value : UInt8) (raised : Bool) :
    (machine.setFlaggedV x value raised).contents =
      machine.contents.writeFlagged x.val value.toNat (raised = true) := by
  have flag : Registers.flag.val = 0xF := rfl
  cases raised <;>
    simp [setFlaggedV, Registers.setFlagged, contents, Contents.writeFlagged, Contents.write, flag]

theorem contents_skipWhen (condition : Bool) :
    (machine.skipWhen condition).contents = machine.contents.skipWhen (condition = true) := by
  cases condition <;> simp [skipWhen, Contents.skipWhen, contents]

theorem contents_written {memory : Memory} {bytes : List UInt8}
    (written : machine.memory.write machine.index.toNat bytes = .ok memory) :
    { machine with memory }.contents =
      machine.contents.storeAtIndex bytes.length fun position =>
        (bytes[position]?.getD 0).toNat := by
  obtain ⟨fits, rfl⟩ := Memory.write_eq_ok_iff.mp written
  have bytesAfter : ∀ address,
      ((machine.memory.splice machine.index.toNat bytes fits).byteAt address).toNat =
        (machine.contents.storeAtIndex bytes.length fun position =>
          (bytes[position]?.getD 0).toNat).memory address := by
    intro address
    rw [Memory.byteAt_splice, apply_ite UInt8.toNat]
    rfl
  exact congrArg (fun memory => { machine.contents with memory }) (funext bytesAfter)

theorem contents_setThrough {last : Register}
    {bytes : { bytes : List UInt8 // bytes.length = last + 1 }}
    (read : machine.memory.block machine.index.toNat (last.val + 1) = .ok bytes) :
    (machine.setThrough last bytes).contents =
      { machine.contents with
        register := fun name =>
          if name ≤ last.val then machine.contents.memory (machine.contents.index + name)
          else machine.contents.register name } := by
  obtain ⟨_, same⟩ := Memory.slice_eq_ok_iff.mp (Memory.block_eq_ok_iff.mp read)
  simp only [contents, setThrough, Registers.number_replaceFirst, bytes.property, Nat.lt_succ_iff]
  congr 1
  funext name
  by_cases inside : name ≤ last.val
  · simp [same, inside, Nat.lt_succ_of_le inside]
  · rw [if_neg inside, if_neg inside]

theorem contents_takeRandom (x : Register) (mask : UInt8) :
    (machine.takeRandom x mask).contents =
      { machine.contents.write x.val
          ((machine.random.values machine.random.consumed % 256).toNat &&& mask.toNat) with
        random := { machine.random with consumed := machine.random.consumed + 1 } } := by
  simp only [takeRandom, RandomSource.next, contents, setV, Registers.number_set, UInt8.toNat_and,
    Memory.toNat_ofInt, Contents.write]

theorem lowestKey?_contents :
    machine.contents.lowestKey? = machine.keypad.lowest?.map Fin.val := by
  have numbers : List.range 16 = (List.finRange 16).map Fin.val := by decide
  rw [Contents.lowestKey?, numbers, List.find?_map, Keypad.lowest?]
  congr 2
  funext key
  exact Keypad.isHeld_val key

theorem contents_takeKey (x : Register) :
    (machine.takeKey x).contents =
      match machine.contents.lowestKey? with
      | none => { machine.contents with pc := machine.pc - 2, waiting := true }
      | some key => { machine.contents.write x.val key with waiting := false } := by
  rw [lowestKey?_contents, takeKey]
  cases found : machine.keypad.lowest? with
  | none => rfl
  | some key =>
      have value : (UInt8.ofNat key.val).toNat = key.val := by
        rw [UInt8.toNat_ofNat']
        exact Nat.mod_eq_of_lt (Nat.lt_trans key.isLt (by decide))
      simp [contents, setV, value, Contents.write]

/-!
### Drawing

A drawing is the only change that reaches three parts of the machine at once.  It is first taken out
of the access to memory, and then compared with the picture of the contents pixel by pixel.
-/

/-- The bytes from `I` on as a sprite. -/
def spriteAtIndex (machine : Machine) (height : Nat) : Sprite :=
  (List.range' machine.index.toNat height).map machine.memory.byteAt

theorem after_draw_eq_ok_iff {x y : Register} {height : Nibble} :
    (machine.execute (.draw x y height)).after = .ok after ↔
      machine.index.toNat + height.val ≤ 4096 ∧
        after = machine.drawn (machine.spriteAtIndex height.val) ((machine.v x).toNat % 64)
          ((machine.v y).toNat % 32) := by
  rw [after_draw, map_eq_ok_iff]
  constructor
  · intro parts
    obtain ⟨sprite, read, rfl⟩ := parts
    obtain ⟨fits, rfl⟩ := Memory.slice_eq_ok_iff.mp read
    exact ⟨fits, rfl⟩
  · intro parts
    obtain ⟨fits, rfl⟩ := parts
    exact ⟨_, Memory.slice_eq_ok_iff.mpr ⟨fits, rfl⟩, rfl⟩

theorem inside_screen_iff {x y : Nat} : Framebuffer.Inside 64 32 x y ↔ x < 64 ∧ y < 32 := by
  unfold Framebuffer.Inside
  omega

/-- The mask of the sprite at `I`, bit by bit. -/
theorem mask_spriteAtIndex (machine : Machine) (left top height x y : Nat) :
    (machine.spriteAtIndex height).mask left top x y =
      decide (machine.contents.Covers left top height x y) := by
  unfold Sprite.mask Contents.Covers
  rw [spriteAtIndex, List.length_map, List.length_range']
  split
  · next inside =>
    have rectangle : (left ≤ x ∧ x < left + 8) ∧ (top ≤ y ∧ y < top + height) := by omega
    have row : ((y : Int) - top).toNat = y - top := by omega
    have column : ((x : Int) - left).toNat = x - left := by omega
    have high : y - top < height := by omega
    simp [row, column, high, Sprite.bit, contents, rectangle]
  · next outside =>
    symm
    apply decide_eq_false
    intro covered
    obtain ⟨wide, tall, _⟩ := covered
    exact outside (by omega)

theorem collided_spriteAtIndex_iff {left top height : Nat} :
    (machine.screen.drawSprite (machine.spriteAtIndex height) left top).2 = true ↔
      machine.contents.Collides left top height := by
  rw [Framebuffer.collided_drawSprite_iff]
  constructor
  · intro collision
    obtain ⟨x, y, on, covered⟩ := collision
    -- A pixel that is on lies on the screen, so its position is a pair of natural numbers.
    have inside : Framebuffer.Inside 64 32 x y := by
      by_contra outside
      rw [Framebuffer.pixelAt_of_outside outside] at on
      cases on
    lift x to Nat using inside.1
    lift y to Nat using inside.2.2.1
    obtain ⟨wide, high⟩ := inside_screen_iff.mp inside
    rw [mask_spriteAtIndex, decide_eq_true_iff] at covered
    exact ⟨x, wide, y, high, on, covered⟩
  · intro collision
    obtain ⟨x, _, y, _, on, covered⟩ := collision
    refine ⟨x, y, on, ?_⟩
    rw [mask_spriteAtIndex, decide_eq_true_iff]
    exact covered

theorem contents_drawn (machine : Machine) (left top height : Nat) :
    (machine.drawn (machine.spriteAtIndex height) left top).contents =
      machine.contents.drawSprite left top height := by
  have pixels : (fun x y : Nat =>
      (machine.screen.drawSprite (machine.spriteAtIndex height) left top).1.pixelAt x y) =
        (machine.contents.drawSprite left top height).pixel := by
    funext x y
    rw [Framebuffer.pixelAt_drawSprite, mask_spriteAtIndex, ← Bool.decide_and]
    simp only [inside_screen_iff]
    rfl
  have registers : (machine.registers.set Registers.flag
      (if (machine.screen.drawSprite (machine.spriteAtIndex height) left top).2 then 1
        else 0)).number = (machine.contents.drawSprite left top height).register := by
    rw [Registers.number_set, apply_ite UInt8.toNat]
    simp only [collided_spriteAtIndex_iff]
    rfl
  exact congrArg₂ (fun pixel register =>
    ({ machine.contents with pixel, register, draw := true } : Contents)) pixels registers

end Machine

end ChipEight

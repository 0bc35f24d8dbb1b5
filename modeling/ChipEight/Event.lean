/-
Module: ChipEight.Event
Purpose: What the user does, and how it reaches the keypad.
Main exports: Event, Keyboard.layout, Keyboard.keyFor?, Machine.handle, Machine.handleAll
-/
import ChipEight.Machine.Basic

namespace ChipEight

/-- Something that the user did.  Keys of the host keyboard have integer codes; printing keys have
the code of their lower-case character. -/
inductive Event where
  | quit
  | keyDown (code : Int)
  | keyUp (code : Int)
  /-- Anything that does not concern the machine. -/
  | other
deriving Repr, Inhabited, DecidableEq

namespace Keyboard

/-!
The keypad has four rows, `123C`, `456D`, `789E` and `A0BF`.  They are laid over the left part of
the host keyboard, the rows that start with `1`, `q`, `a` and `z`.
-/

/-- The host keys that stand for keys of the keypad, in ascending order of their codes. -/
def layout : List (Char × Key) :=
  [('1', 0x1), ('2', 0x2), ('3', 0x3), ('4', 0xC),
   ('a', 0x7), ('c', 0xB), ('d', 0x9), ('e', 0x6),
   ('f', 0xE), ('q', 0x4), ('r', 0xD), ('s', 0x8),
   ('v', 0xF), ('w', 0x5), ('x', 0x0), ('z', 0xA)].map
    fun (character, digit) => (character, Nibble.ofNat digit)

/-- The code of the escape key. -/
def escape : Int := 27

/-- The key of the keypad that a host key stands for. -/
def keyFor? (code : Int) : Option Key :=
  (layout.find? fun (character, _) => Int.ofNat character.toNat == code).map Prod.snd

end Keyboard

namespace Machine

/-- Press or release the key that a host key stands for, if there is one. -/
def assignKey (machine : Machine) (code : Int) (down : Bool) : Machine :=
  match Keyboard.keyFor? code with
  | some key => { machine with keypad := machine.keypad.assign key down }
  | none => machine

/-- Take note of an event, and tell whether the user wants to go on. -/
def handle (machine : Machine) : Event → Machine × Bool
  | .quit => (machine, false)
  | .keyDown code =>
      if code = Keyboard.escape then (machine, false) else (machine.assignKey code true, true)
  | .keyUp code => (machine.assignKey code false, true)
  | .other => (machine, true)

/-- Take note of several events in order, and tell whether the user wants to go on after all of
them.  A wish to stop does not keep the events after it from being noted. -/
def handleAll (machine : Machine) (events : List Event) : Machine × Bool :=
  events.foldl
    (fun (current, goOn) event =>
      let (after, wish) := current.handle event
      (after, goOn && wish))
    (machine, true)

end Machine

end ChipEight

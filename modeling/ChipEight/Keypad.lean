/-
Module: ChipEight.Keypad
Purpose: The sixteen hexadecimal keys and which of them are held down.
Main exports: Keypad, Keypad.isPressed, Keypad.assign, Keypad.get, Keypad.set, Keypad.untouched,
  Keypad.lowest?, NoSuchKey
-/
import ChipEight.Nibble
import ChipEight.Text.Numeral
import ChipEight.Truth

namespace ChipEight

open Text

/-- The name of a key: a hexadecimal digit. -/
abbrev Key := Nibble

/-- The state of the keypad: for every key whether it is held down. -/
structure Keypad where
  pressed : Vector Bool 16
deriving DecidableEq

/-- The complaint about a number that names no key. -/
structure NoSuchKey where
  key : Int
deriving Repr, Inhabited, DecidableEq

/-- The sentence shown to the user. -/
def NoSuchKey.message (complaint : NoSuchKey) : String :=
  "CHIP-8 has no key " ++ Numeral.hexLiteral 0 complaint.key

namespace Keypad

/-- No key is held down. -/
def released : Keypad := ⟨Vector.replicate 16 false⟩

instance : Inhabited Keypad := ⟨released⟩

/-- Whether a key is held down. -/
def isPressed (keypad : Keypad) (key : Key) : Bool :=
  keypad.pressed[key]

/-- Press or release a key. -/
def assign (keypad : Keypad) (key : Key) (down : Bool) : Keypad :=
  ⟨keypad.pressed.set key.val down⟩

/-- The key that a number names. -/
def keyOf (number : Int) : Except NoSuchKey Key :=
  if inRange : 0 ≤ number ∧ number < 16 then .ok ⟨number.toNat, by omega⟩
  else .error ⟨number⟩

/-- Whether the key with a given number is held down. -/
def get (keypad : Keypad) (number : Int) : Except NoSuchKey Bool :=
  (keyOf number).map keypad.isPressed

/-- Press the key with a given number, or release it if the value is zero. -/
def set (keypad : Keypad) (number value : Int) : Except NoSuchKey Keypad :=
  (keyOf number).map fun key => keypad.assign key (Truth.ofNumber value)

/-- Whether no key is held down. -/
def untouched (keypad : Keypad) : Bool :=
  !keypad.pressed.any id

/-- The lowest key that is held down. -/
def lowest? (keypad : Keypad) : Option Key :=
  (List.finRange 16).find? keypad.isPressed

/-- The state of every key, in ascending order. -/
def toList (keypad : Keypad) : List Bool :=
  keypad.pressed.toList

/-- The keys that are held down, in ascending order. -/
def held (keypad : Keypad) : List Key :=
  (List.finRange 16).filter keypad.isPressed

/-- A key that was just assigned has the assigned state, and every other key keeps its own. -/
theorem isPressed_assign (keypad : Keypad) (key other : Key) (down : Bool) :
    (keypad.assign key down).isPressed other =
      if key = other then down else keypad.isPressed other := by
  simp [isPressed, assign, Vector.getElem_set, Fin.ext_iff]

end Keypad

end ChipEight

/-
Module: ChipEight.Text.Integer
Purpose: Reading a decimal integer from the text of a setting.
Main exports: Integer.Unreadable, Integer.scan?, Integer.read
-/
import ChipEight.Text.Blank
import ChipEight.Text.DecimalDigit

namespace ChipEight.Text.Integer

/-!
An integer is written as an optional sign and one or more decimal digits of any script, with white
space allowed around it but not inside.  A single underscore may stand between two digits.  Leading
zeros are allowed and count as digits, of which there may be no more than `digitLimit`.
-/

/-- A reason why a text is not read as an integer. -/
inductive Unreadable where
  | malformed
  /-- The number has more digits than are read. -/
  | tooLong (digits : Nat)
deriving Repr, Inhabited, DecidableEq

/-- The largest number of digits that is read. -/
def digitLimit : Nat := 4300

/-- The digits at the front of a text that stands behind a digit, and what comes after them.  An
underscore has to be followed by a digit. -/
def scan? : List Char → Option (List Nat × List Char)
  | [] => some ([], [])
  | '_' :: [] => none
  | '_' :: c :: rest => do
      let digit ← DecimalDigit.value? c
      let (digits, after) ← scan? rest
      return (digit :: digits, after)
  | c :: rest =>
      match DecimalDigit.value? c with
      | none => some ([], c :: rest)
      | some digit => do
          let (digits, after) ← scan? rest
          return (digit :: digits, after)

/-- The number with the given digits, the most significant one first. -/
def value (digits : List Nat) : Nat :=
  digits.foldl (fun sofar digit => 10 * sofar + digit) 0

/-- The number at the front of a text without a sign.  Only white space may come after it. -/
def unsigned : List Char → Except Unreadable Nat
  | [] => .error .malformed
  | c :: rest =>
      match DecimalDigit.value? c, scan? rest with
      | some first, some (others, after) =>
          if others.length + 1 > digitLimit then .error (.tooLong (others.length + 1))
          else if after.all Blank.isBlank then .ok (value (first :: others))
          else .error .malformed
      | _, _ => .error .malformed

/-- The number at the front of a text, with or without a sign. -/
def signed : List Char → Except Unreadable Int
  | '+' :: rest => (unsigned rest).map Int.ofNat
  | '-' :: rest => (unsigned rest).map fun n => -Int.ofNat n
  | text => (unsigned text).map Int.ofNat

/-- The integer that a text stands for. -/
def read (text : String) : Except Unreadable Int :=
  signed (text.toList.dropWhile Blank.isBlank)

example : read " -1_000\n" = .ok (-1000) := by rfl
example : read "1__0" = .error .malformed := by rfl
example : read "_1" = .error .malformed := by rfl
example : read "1_" = .error .malformed := by rfl
example : read "- 1" = .error .malformed := by rfl
example : read "" = .error .malformed := by rfl

end ChipEight.Text.Integer

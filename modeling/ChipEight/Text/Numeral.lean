/-
Module: ChipEight.Text.Numeral
Purpose: How integers are written in messages, reports and trace lines.
Main exports: Numeral.decimal, Numeral.hex, Numeral.hexLiteral, Numeral.hexByte
-/

namespace ChipEight.Text.Numeral

/-!
Every number this library prints goes through one of the functions below, so the reports and the
error messages agree on how a number looks.  Two bases are used.  Decimal numbers are written in
full; hexadecimal ones are padded with zeros up to a least width in which a minus sign counts as one
place, and a number wider than that is never cut.
-/

/-- The sign written in front of an integer: nothing for zero and above. -/
def sign (n : Int) : List Char :=
  if n < 0 then ['-'] else []

/-- An integer in base ten. -/
def decimal (n : Int) : String :=
  String.ofList (sign n ++ Nat.toDigits 10 n.natAbs)

/-- The characters of an integer in base sixteen: the sign, then zeros up to the least width, then
the digits in lower case. -/
def hexChars (width : Nat) (n : Int) : List Char :=
  let digits := Nat.toDigits 16 n.natAbs
  sign n ++ List.replicate (width - (sign n).length - digits.length) '0' ++ digits

/-- An integer in base sixteen, at least `width` places wide. -/
def hex (width : Nat) (n : Int) : String :=
  String.ofList (hexChars width n)

/-- An integer in base sixteen behind the marker `0x`, which does not count towards the width. -/
def hexLiteral (width : Nat) (n : Int) : String :=
  "0x" ++ hex width n

/-- A byte as exactly two digits. -/
def hexByte (byte : UInt8) : String :=
  hex 2 (Int.ofNat byte.toNat)

example : hexLiteral 4 (-16) = "0x-010" := by decide
example : hexLiteral 3 (-1) = "0x-01" := by decide
example : hexLiteral 3 0x10fe = "0x10fe" := by decide
example : hexLiteral 0 (-1) = "0x-1" := by decide
example : decimal (-20) = "-20" := by decide

end ChipEight.Text.Numeral

/-
Module: ChipEight.Text.Quoted
Purpose: A text as it is quoted in an error message.
Main exports: Quoted.delimiter, Quoted.escape, Quoted.quote
-/
import ChipEight.Text.Numeral
import ChipEight.Text.Printable

namespace ChipEight.Text.Quoted

/-!
Messages show a path or a malformed setting between quotation marks.  Single marks are used unless
the text holds a single mark and no double one.  A backslash and the mark in use are escaped, and so
is every character without a printed form: the three common ones by a letter, the others by their
code point in the narrowest of the widths two, four and eight.
-/

/-- The quotation mark put around a text. -/
def delimiter (text : List Char) : Char :=
  if text.contains '\'' && !text.contains '"' then '"' else '\''

/-- The escape for a character without a printed form. -/
def codePoint (c : Char) : List Char :=
  let n := c.toNat
  if n < 0x100 then ['\\', 'x'] ++ Numeral.hexChars 2 (Int.ofNat n)
  else if n < 0x10000 then ['\\', 'u'] ++ Numeral.hexChars 4 (Int.ofNat n)
  else ['\\', 'U'] ++ Numeral.hexChars 8 (Int.ofNat n)

/-- One character as it stands between the given quotation marks. -/
def escape (mark c : Char) : List Char :=
  if c = mark || c = '\\' then ['\\', c]
  else if c = '\n' then ['\\', 'n']
  else if c = '\r' then ['\\', 'r']
  else if c = '\t' then ['\\', 't']
  else if Printable.isPrintable c then [c]
  else codePoint c

/-- A text between quotation marks. -/
def quote (text : String) : String :=
  let mark := delimiter text.toList
  String.ofList ([mark] ++ text.toList.flatMap (escape mark) ++ [mark])

end ChipEight.Text.Quoted

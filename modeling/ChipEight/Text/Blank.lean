/-
Module: ChipEight.Text.Blank
Purpose: The white space allowed around an integer in a setting.
Main exports: Blank.isBlank
-/

namespace ChipEight.Text.Blank

/-- White space: the tab, the line breaks, the space, and the wider blanks outside ASCII.  The four
information separators `U+001C` to `U+001F` are not among them. -/
def isBlank (c : Char) : Bool :=
  let n := c.toNat
  (0x09 ≤ n && n ≤ 0x0D) || n = 0x20 || n = 0x85 || n = 0xA0 || n = 0x1680 ||
    (0x2000 ≤ n && n ≤ 0x200A) || n = 0x2028 || n = 0x2029 || n = 0x202F || n = 0x205F ||
    n = 0x3000

end ChipEight.Text.Blank

/-
Module: ChipEight.Font
Purpose: The built-in sprites of the sixteen hexadecimal digits.
Main exports: Font.bytes, Font.base, Font.glyphHeight, Font.glyphAddress
-/

namespace ChipEight.Font

/-- The digit sprites one after the other, five rows each.  Only the left half of a row is used. -/
def bytes : List UInt8 :=
  [0xF0, 0x90, 0x90, 0x90, 0xF0,
   0x20, 0x60, 0x20, 0x20, 0x70,
   0xF0, 0x10, 0xF0, 0x80, 0xF0,
   0xF0, 0x10, 0xF0, 0x10, 0xF0,
   0x90, 0x90, 0xF0, 0x10, 0x10,
   0xF0, 0x80, 0xF0, 0x10, 0xF0,
   0xF0, 0x80, 0xF0, 0x90, 0xF0,
   0xF0, 0x10, 0x20, 0x40, 0x40,
   0xF0, 0x90, 0xF0, 0x90, 0xF0,
   0xF0, 0x90, 0xF0, 0x10, 0xF0,
   0xF0, 0x90, 0xF0, 0x90, 0x90,
   0xE0, 0x90, 0xE0, 0x90, 0xE0,
   0xF0, 0x80, 0x80, 0x80, 0xF0,
   0xE0, 0x90, 0x90, 0x90, 0xE0,
   0xF0, 0x80, 0xF0, 0x80, 0xF0,
   0xF0, 0x80, 0xF0, 0x80, 0x80]

/-- Where the sprite of the digit zero starts in memory. -/
def base : Nat := 0x050

/-- The number of rows of a digit sprite. -/
def glyphHeight : Nat := 5

/-- Where the sprite of a digit starts in memory. -/
def glyphAddress (digit : Nat) : Nat :=
  base + glyphHeight * digit

/-- Sixteen sprites of equal height fill the table. -/
theorem length_bytes : bytes.length = 16 * glyphHeight := rfl

end ChipEight.Font

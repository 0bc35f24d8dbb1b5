/-
Module: ChipEight.Nibble
Purpose: Hexadecimal digits, which name registers, keys and sprite heights.
Main exports: Nibble, Nibble.ofNat
-/

namespace ChipEight

/-- A hexadecimal digit. -/
abbrev Nibble := Fin 16

/-- The last hexadecimal digit of a number. -/
def Nibble.ofNat (n : Nat) : Nibble := ⟨n % 16, Nat.mod_lt n (by decide)⟩

end ChipEight

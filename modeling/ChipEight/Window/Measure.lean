/-
Module: ChipEight.Window.Measure
Purpose: Lengths and positions as the window system takes them.
Main exports: Measure.narrow, Measure.span
-/

namespace ChipEight.Measure

/-!
The window system counts pixels in signed numbers of 32 bits.  It is handed integers of any size:
one that does not fit into a machine word is refused, and of any other one the low 32 bits are kept.
This changes nothing for lengths below `0x80000000`, which is two to the power 31.
-/

/-- The low 32 bits of an integer, as a signed number. -/
def narrow (n : Int) : Int :=
  n.bmod 0x100000000

/-- The part of a row of pixels that a square covers in it: the first pixel and the number of
pixels.  The square starts at a position and has a side; what lies outside the row is cut off, and a
side of zero or less covers nothing. -/
def span (limit : Nat) (position side : Int) : Nat × Nat :=
  let first := narrow position
  let length := narrow side
  let last := narrow (first + length)
  if length ≤ 0 then (0, 0) else (first.toNat, min last.toNat limit - first.toNat)

/-- Integers of 32 bits are taken as they are. -/
theorem narrow_of_small {n : Int} (low : -0x80000000 ≤ n) (high : n < 0x80000000) :
    narrow n = n := by
  apply Int.bmod_eq_of_le <;> omega

/-- A square in the positive part of the plane covers what lies below the limit of it. -/
theorem span_of_small {limit : Nat} {position side : Int}
    (start : 0 ≤ position) (extent : 0 < side) (small : position + side < 0x80000000) :
    span limit position side =
      (position.toNat, min (position + side).toNat limit - position.toNat) := by
  have first : narrow position = position := narrow_of_small (by omega) (by omega)
  have length : narrow side = side := narrow_of_small (by omega) (by omega)
  have last : narrow (position + side) = position + side := narrow_of_small (by omega) small
  simp only [span, first, length, last]
  rw [if_neg (by omega)]

end ChipEight.Measure

/-
Module: ChipEight.MachineWord
Purpose: The range of the integers that a machine word holds.
Main exports: MachineWord.fits, MachineWord.fits_iff
-/

namespace ChipEight.MachineWord

/-- The integer fits into a machine word, which is a signed number of 64 bits. -/
def fits (n : Int) : Bool :=
  -0x8000000000000000 ≤ n && n < 0x8000000000000000

/-- The range of a machine word, in the form of two inequalities. -/
theorem fits_iff {n : Int} : fits n = true ↔ -0x8000000000000000 ≤ n ∧ n < 0x8000000000000000 := by
  simp only [fits, Bool.and_eq_true, decide_eq_true_eq]

end ChipEight.MachineWord

/-
Module: ChipEight.Truth
Purpose: Numbers that stand for yes and no.
Main exports: Truth.ofNumber
-/

namespace ChipEight

/-- Where a number is asked for, yes is one and no is zero. -/
instance Truth.coe : Coe Bool Int where
  coe := Bool.toInt

/-- Any number but zero counts as yes. -/
def Truth.ofNumber (number : Int) : Bool :=
  number != 0

/-- An answer that was turned into a number is the answer again. -/
@[simp] theorem Truth.ofNumber_coe (answer : Bool) : ofNumber answer = answer := by
  cases answer <;> rfl

end ChipEight

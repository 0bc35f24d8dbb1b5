/-
Module: ChipEight.RandomSource
Purpose: Where the machine takes its random numbers from.
Main exports: RandomSource, RandomSource.next, RandomSource.cycling
-/

namespace ChipEight

/-- An endless sequence of numbers and how many of them were used.  The numbers may be any integers;
a consumer keeps the bits it needs. -/
structure RandomSource where
  values : Nat → Int
  consumed : Nat := 0

namespace RandomSource

/-- The next number, and the source after it was used. -/
def next (source : RandomSource) : Int × RandomSource :=
  (source.values source.consumed, { source with consumed := source.consumed + 1 })

/-- The source that goes round a list of numbers.  An empty list stands for zeros. -/
def cycling (script : List Int) : RandomSource where
  values position := script.getD (position % script.length) 0

instance : Inhabited RandomSource := ⟨cycling []⟩

end RandomSource

end ChipEight

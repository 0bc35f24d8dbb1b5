/-
Module: ChipEight.Allocation
Purpose: Which sequences are given memory, and the complaints about those that are not.
Main exports: AllocationError, AllocationError.message, Allocation.index, Allocation.reserve
-/
import ChipEight.MachineWord

namespace ChipEight

/-- A reason why a sequence is not made. -/
inductive AllocationError where
  /-- A number of items does not fit into a machine word. -/
  | notAnIndex
  /-- The sequence takes more bytes than memory has. -/
  | outOfMemory
deriving Repr, Inhabited, DecidableEq

/-- The sentence shown to the user.  Nothing more is said when memory runs out. -/
def AllocationError.message : AllocationError → String
  | notAnIndex => "cannot fit 'int' into an index-sized integer"
  | outOfMemory => ""

namespace Allocation

/-- The number of bytes in memory. -/
def available : Nat := 0x400000000

/-- Check a number of items.  It may be negative, in which case there are none. -/
def index (items : Int) : Except AllocationError Unit :=
  if MachineWord.fits items then .ok () else .error .notAnIndex

/-- Check that memory can hold a number of bytes and something besides. -/
def reserve (bytes : Nat) : Except AllocationError Unit :=
  if bytes < available then .ok () else .error .outOfMemory

end Allocation

end ChipEight

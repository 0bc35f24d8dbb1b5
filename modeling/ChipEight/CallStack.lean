/-
Module: ChipEight.CallStack
Purpose: The return addresses of the subroutines being executed.
Main exports: CallStack, CallStack.push, CallStack.pop, CallStack.oldestFirst, CallStack.text
-/
import ChipEight.Fault

namespace ChipEight

open Text

/-- The pending return addresses, the most recent one first. -/
structure CallStack where
  addresses : List Int := []
deriving Repr, Inhabited, DecidableEq

namespace CallStack

/-- How many return addresses a stack holds at most. -/
def capacity : Nat := 16

/-- The stack outside every subroutine. -/
def empty : CallStack := {}

/-- The number of pending returns. -/
def depth (stack : CallStack) : Nat :=
  stack.addresses.length

/-- The pending return addresses in the order in which they were pushed. -/
def oldestFirst (stack : CallStack) : List Int :=
  stack.addresses.reverse

/-- Remember a return address, unless the stack is full. -/
def push (stack : CallStack) (address : Int) : Except Fault CallStack :=
  if stack.depth ≥ capacity then .error .stackOverflow
  else .ok ⟨address :: stack.addresses⟩

/-- Take the most recent return address off a stack that has one. -/
def pop (stack : CallStack) : Except Fault (Int × CallStack) :=
  match stack.addresses with
  | [] => .error .stackUnderflow
  | address :: rest => .ok (address, ⟨rest⟩)

/-- The addresses in hexadecimal between brackets, the oldest first. -/
def text (stack : CallStack) : String :=
  "[" ++ String.intercalate ", " (stack.oldestFirst.map (Numeral.hexLiteral 3)) ++ "]"

end CallStack

end ChipEight

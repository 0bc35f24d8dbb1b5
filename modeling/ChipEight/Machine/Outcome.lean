/-
Module: ChipEight.Machine.Outcome
Purpose: What an operation on the machine leaves behind, whether it succeeds or not.
Main exports: Outcome
-/
import ChipEight.Machine.Basic

namespace ChipEight

/-- The result of an operation, together with the machine after it and the text it printed.  An
operation that fails still leaves a machine, and what it printed before failing stays printed. -/
structure Outcome (ε α : Type) where
  machine : Machine
  result : Except ε α
  printed : String := ""

namespace Outcome

variable {ε δ α β : Type}

/-- An operation that succeeds and prints nothing. -/
def succeed (machine : Machine) (value : α) : Outcome ε α :=
  { machine, result := .ok value }

/-- An operation that succeeds, prints nothing and has no more to say. -/
def done (machine : Machine) : Outcome ε Unit :=
  succeed machine ()

/-- An operation that yields a new machine, or a complaint about an unchanged one. -/
def update (before : Machine) (value : α) : Except ε Machine → Outcome ε α
  | .ok after => { machine := after, result := .ok value }
  | .error complaint => { machine := before, result := .error complaint }

/-- Give another value in place of the one an operation yields. -/
def map (outcome : Outcome ε α) (f : α → β) : Outcome ε β :=
  { outcome with result := outcome.result.map f }

/-- Give another complaint in place of the one an operation makes. -/
def mapError (outcome : Outcome ε α) (f : ε → δ) : Outcome δ α :=
  { outcome with result := outcome.result.mapError f }

end Outcome

end ChipEight

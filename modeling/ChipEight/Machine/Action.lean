/-
Module: ChipEight.Machine.Action
Purpose: What is done to the machine one assignment after the other, until an access fails.
Main exports: Action, Action.outcome
-/
import ChipEight.Machine.Outcome

namespace ChipEight

/-- Something that is done to the machine.  What it assigned before it failed stays assigned. -/
abbrev Action := EStateM Fault Machine

namespace Action

variable {α β : Type}

/-- What becomes of a machine to which an action is done. -/
def outcome (action : Action α) (machine : Machine) : Outcome Fault α :=
  match action.run machine with
  | .ok value after => { machine := after, result := .ok value }
  | .error fault after => { machine := after, result := .error fault }

/-!
An action is taken apart by its first part.  Only an access to another part of the machine can fail,
and it fails on the machine as the assignments before it have left it.
-/

theorem outcome_get_bind (machine : Machine) (next : Machine → Action β) :
    outcome (get >>= next) machine = (next machine).outcome machine :=
  rfl

theorem outcome_access_bind (machine : Machine) (access : Except Fault α) (next : α → Action β) :
    outcome (ofExcept access >>= next) machine =
      match access with
      | .ok value => (next value).outcome machine
      | .error fault => { machine, result := .error fault } := by
  cases access with
  | ok value => rfl
  | error fault => rfl

end Action

end ChipEight

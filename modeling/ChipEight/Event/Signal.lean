/-
Module: ChipEight.Event.Signal
Purpose: What the window system reports, which need not tell what the user did.
Main exports: Signal, SignalError, Signal.events, Script, Script.ofSignals
-/
import ChipEight.Event

namespace ChipEight

/-- What the window system reports. -/
inductive Signal where
  | event (what : Event)
  /-- A key was pressed or released, but there is no telling which one. -/
  | keyless
deriving Repr, Inhabited, DecidableEq

/-- The complaint about a signal that is not an event. -/
inductive SignalError where
  | keyless
deriving Repr, Inhabited, DecidableEq

/-- The sentence shown to the user. -/
def SignalError.message : SignalError → String
  | keyless => "'pygame.event.Event' object has no attribute 'key'"

/-- The events of a batch of signals; the error has those before the first signal that is none. -/
def Signal.events : List Signal → Except (List Event) (List Event)
  | [] => .ok []
  | .keyless :: _ => .error []
  | .event first :: rest =>
      match events rest with
      | .ok more => .ok (first :: more)
      | .error more => .error (first :: more)

/-- What the user does in the course of a run: a batch of events for each frame. -/
structure Script where
  batches : List (List Event) := []
  /-- If the script breaks off in the middle of a batch, the events of that batch so far. -/
  brokenOff : Option (List Event) := none
deriving Repr, Inhabited, DecidableEq

/-- The script that batches of signals make up, which breaks off at the first signal that is not an
event. -/
def Script.ofSignals : List (List Signal) → Script
  | [] => {}
  | batch :: rest =>
      match Signal.events batch with
      | .ok events =>
          let later := ofSignals rest
          { later with batches := events :: later.batches }
      | .error events => { brokenOff := some events }

end ChipEight

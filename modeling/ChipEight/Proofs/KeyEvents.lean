/-
Module: ChipEight.Proofs.KeyEvents
Purpose: A key of the keypad is held down if the last event about its host key was a press, whatever
  else has happened.
Main exports: Keyboard.codeOf, Keyboard.keyFor?_eq_some_iff, Event.code?, Event.key?, Event.edge?,
  Event.lastEdge?, Machine.handleChecked, Machine.handleEach, Machine.handleEach_eq,
  Machine.isPressed_handle, Machine.isPressed_handleAll, Machine.handleAll_congr,
  Machine.keys_follow_last_events
-/
import ChipEight.Proofs.Contents
import ChipEight.Proofs.FrameLoop
import Mathlib.Data.List.Induction

namespace ChipEight

namespace Keypad

/-- A keypad is determined by the states of its keys. -/
theorem ext_isPressed {keypad other : Keypad}
    (same : ∀ key, keypad.isPressed key = other.isPressed key) : keypad = other := by
  apply ext_isHeld
  funext number
  unfold isHeld
  split
  · exact same _
  · rfl

/-- The number of a key is one that names a key. -/
theorem set_val (keypad : Keypad) (key : Key) (down : Bool) :
    keypad.set key.val down = .ok (keypad.assign key down) := by
  have inRange : (0 : Int) ≤ key.val ∧ (key.val : Int) < 16 := ⟨by omega, by omega⟩
  rw [set, keyOf, dif_pos inRange, Truth.ofNumber_coe]
  rfl

end Keypad

/-!
### Host keys

The layout has every key of the keypad once, and no two of them under the same host key.
-/

namespace Keyboard

variable {code : Int} {key : Key}

/-- The code of the host key that stands for a key. -/
def codeOf (key : Key) : Int :=
  ((layout.find? fun (_, digit) => digit == key).map fun (character, _) =>
    Int.ofNat character.toNat).getD escape

theorem keyFor?_codeOf : ∀ key : Key, keyFor? (codeOf key) = some key := by
  decide

theorem codeOf_ne_escape : ∀ key : Key, codeOf key ≠ escape := by
  decide

/-- One host key stands for a key, and no other one does. -/
theorem keyFor?_eq_some_iff : keyFor? code = some key ↔ code = codeOf key := by
  constructor
  · intro found
    have listed : ∀ entry ∈ layout, codeOf entry.2 = Int.ofNat entry.1.toNat := by decide
    obtain ⟨entry, first, rfl⟩ := Option.map_eq_some_iff.mp found
    have here := List.find?_some first
    rw [listed entry (List.mem_of_find?_eq_some first)]
    exact (beq_iff_eq.mp here).symm
  · rintro rfl
    exact keyFor?_codeOf key

end Keyboard

/-!
### Events about a host key
-/

namespace Event

variable {event first second : Event} {code : Int} {key : Key} {events : List Event}

/-- The code of the host key that an event is about, if it is about one. -/
def code? : Event → Option Int
  | quit => none
  | keyDown code => some code
  | keyUp code => some code
  | other => none

/-- The key of the keypad that an event is about, if it is about one. -/
def key? (event : Event) : Option Key :=
  event.code?.bind Keyboard.keyFor?

/-- The state that an event brings a host key into, if it is about this host key. -/
def edge? (code : Int) : Event → Option Bool
  | quit => none
  | keyDown code' => if code' = code then some true else none
  | keyUp code' => if code' = code then some false else none
  | other => none

/-- The state that the last event about a host key brought it into, if there is such an event. -/
def lastEdge? (code : Int) (events : List Event) : Option Bool :=
  events.reverse.findSome? (edge? code)

theorem stops_iff : event.stops = true ↔ event = .quit ∨ event = .keyDown Keyboard.escape := by
  cases event <;> simp [stops]

theorem edge?_eq_none_iff : event.edge? code = none ↔ event.code? ≠ some code := by
  cases event <;> simp [edge?, code?]

theorem edge?_eq_some_true_iff : event.edge? code = some true ↔ event = .keyDown code := by
  cases event <;> simp [edge?]

/-- Events about two keys never both matter to the same key. -/
theorem edge?_eq_none_or (apart : first.key? ≠ second.key?) (key : Key) :
    first.edge? (Keyboard.codeOf key) = none ∨ second.edge? (Keyboard.codeOf key) = none := by
  rw [edge?_eq_none_iff, edge?_eq_none_iff, ← not_and_or]
  rintro ⟨same, same'⟩
  apply apart
  rw [key?, key?, same, same']

theorem edge?_of_unmapped (unmapped : event.key? = none) (key : Key) :
    event.edge? (Keyboard.codeOf key) = none := by
  rw [edge?_eq_none_iff]
  intro same
  rw [key?, same, Option.bind_some, Keyboard.keyFor?_codeOf] at unmapped
  cases unmapped

theorem lastEdge?_append (code : Int) (earlier later : List Event) :
    lastEdge? code (earlier ++ later) = (lastEdge? code later).or (lastEdge? code earlier) := by
  rw [lastEdge?, List.reverse_append, List.findSome?_append]
  rfl

theorem lastEdge?_cons (code : Int) (event : Event) (later : List Event) :
    lastEdge? code (event :: later) = (lastEdge? code later).or (event.edge? code) := by
  have alone : lastEdge? code [event] = event.edge? code := by
    rw [lastEdge?, List.reverse_singleton, List.findSome?_singleton]
  rw [← List.singleton_append, lastEdge?_append, alone]

theorem lastEdge?_eq_none_iff :
    lastEdge? code events = none ↔ ∀ event ∈ events, event.code? ≠ some code := by
  simp only [lastEdge?, List.findSome?_eq_none_iff, List.mem_reverse, edge?_eq_none_iff]

theorem lastEdge?_eq_some_true_iff :
    lastEdge? code events = some true ↔
      ∃ earlier later, events = earlier ++ .keyDown code :: later ∧
        ∀ event ∈ later, event.code? ≠ some code := by
  constructor
  · intro last
    obtain ⟨later, event, earlier, same, edge, silent⟩ := List.findSome?_eq_some_iff.mp last
    obtain rfl := edge?_eq_some_true_iff.mp edge
    refine ⟨earlier.reverse, later.reverse, ?_, ?_⟩
    · rw [← List.reverse_reverse events, same]
      simp
    · intro event among
      exact edge?_eq_none_iff.mp (silent event (List.mem_reverse.mp among))
  · rintro ⟨earlier, later, rfl, silent⟩
    rw [lastEdge?_append, lastEdge?_cons, lastEdge?_eq_none_iff.mpr silent,
      edge?_eq_some_true_iff.mpr rfl]
    rfl

end Event

namespace Machine

variable {machine : Machine} {events events' : List Event}

/-!
### Checked calls

The keypad refuses numbers that name no key, and every event is answered by itself.  Neither makes a
difference to what becomes of the machine.
-/

/-- Press or release the key that a host key stands for, by its number. -/
def assignKeyChecked (machine : Machine) (code : Int) (down : Bool) : Except NoSuchKey Machine :=
  match Keyboard.keyFor? code with
  | some key => (machine.keypad.set key.val down).map fun keypad => { machine with keypad }
  | none => .ok machine

/-- Take note of an event, with the answer whether the user wants to go on. -/
def handleChecked (machine : Machine) : Event → Except NoSuchKey (Machine × Bool)
  | .quit => .ok (machine, false)
  | .keyDown code =>
      if code = Keyboard.escape then .ok (machine, false)
      else (machine.assignKeyChecked code true).map fun after => (after, true)
  | .keyUp code => (machine.assignKeyChecked code false).map fun after => (after, true)
  | .other => .ok (machine, true)

/-- Take note of events one after the other, with the answers to all of them. -/
def handleEach (machine : Machine) : List Event → Except NoSuchKey (Machine × List Bool)
  | [] => .ok (machine, [])
  | event :: rest => do
      let (after, goOn) ← machine.handleChecked event
      let (last, answers) ← after.handleEach rest
      return (last, goOn :: answers)

theorem assignKeyChecked_eq (machine : Machine) (code : Int) (down : Bool) :
    machine.assignKeyChecked code down = .ok (machine.assignKey code down) := by
  rw [assignKeyChecked, assignKey]
  cases Keyboard.keyFor? code with
  | none => rfl
  | some key =>
      simp only [Keypad.set_val]
      rfl

theorem handleChecked_eq (machine : Machine) (event : Event) :
    machine.handleChecked event = .ok (machine.handle event) := by
  cases event with
  | quit => rfl
  | keyDown code =>
      rw [handleChecked, handle, assignKeyChecked_eq]
      split <;> rfl
  | keyUp code =>
      rw [handleChecked, handle, assignKeyChecked_eq]
      rfl
  | other => rfl

theorem handleAll_append (machine : Machine) (earlier later : List Event) :
    (machine.handleAll (earlier ++ later)).1 =
      ((machine.handleAll earlier).1.handleAll later).1 := by
  simp only [handleAll_eq_foldl, List.foldl_append]

theorem handleAll_cons (machine : Machine) (event : Event) (rest : List Event) :
    (machine.handleAll (event :: rest)).1 = ((machine.handle event).1.handleAll rest).1 := by
  simp only [handleAll_eq_foldl, List.foldl_cons]

/-- No call fails, and the answers follow from the events alone. -/
theorem handleEach_eq (machine : Machine) (events : List Event) :
    machine.handleEach events =
      .ok ((machine.handleAll events).1, events.map fun event => !event.stops) := by
  induction events generalizing machine with
  | nil => rfl
  | cons event rest ih =>
      rw [handleAll_cons, List.map_cons, ← machine.handle_goOn event, handleEach,
        handleChecked_eq]
      simp only [bind, Except.bind, ih]
      rfl

/-!
### The last event decides

One event brings the host key that it is about into a new state, and leaves the others alone.  Over
many events this leaves every host key in the state that the last event about it brought it into.
-/

theorem isPressed_assignKey (machine : Machine) (code : Int) (down : Bool) (key : Key) :
    (machine.assignKey code down).keypad.isPressed key =
      if code = Keyboard.codeOf key then down else machine.keypad.isPressed key := by
  simp only [← Keyboard.keyFor?_eq_some_iff, assignKey]
  cases Keyboard.keyFor? code with
  | none => simp
  | some key' => simp [Keypad.isPressed_assign]

theorem isPressed_handle (machine : Machine) (event : Event) (key : Key) :
    (machine.handle event).1.keypad.isPressed key =
      (event.edge? (Keyboard.codeOf key)).getD (machine.keypad.isPressed key) := by
  cases event with
  | quit => rfl
  | keyDown code =>
      rw [handle, Event.edge?]
      by_cases escape : code = Keyboard.escape
      · -- The escape key stands for no key of the keypad.
        rw [if_pos escape, escape, if_neg (Keyboard.codeOf_ne_escape key).symm, Option.getD_none]
      · rw [if_neg escape, isPressed_assignKey]
        split <;> rfl
  | keyUp code =>
      rw [handle, Event.edge?, isPressed_assignKey]
      split <;> rfl
  | other => rfl

/-- The induction takes the events from the last one backwards, as it is the last one about a key
that decides. -/
theorem isPressed_handleAll (machine : Machine) (events : List Event) (key : Key) :
    (machine.handleAll events).1.keypad.isPressed key =
      (Event.lastEdge? (Keyboard.codeOf key) events).getD (machine.keypad.isPressed key) := by
  induction events using List.reverseRecOn with
  | nil => rfl
  | append_singleton events last ih =>
      rw [handleAll_append, handleAll_cons, Event.lastEdge?_append, Event.lastEdge?_cons]
      change ((machine.handleAll events).1.handle last).1.keypad.isPressed key = _
      rw [isPressed_handle, ih]
      cases last.edge? (Keyboard.codeOf key) <;> rfl

theorem isPressed_handleAll_iff (machine : Machine) (events : List Event) (key : Key) :
    (machine.handleAll events).1.keypad.isPressed key = true ↔
      (∃ earlier later, events = earlier ++ .keyDown (Keyboard.codeOf key) :: later ∧
        ∀ event ∈ later, event.code? ≠ some (Keyboard.codeOf key)) ∨
      ((∀ event ∈ events, event.code? ≠ some (Keyboard.codeOf key)) ∧
        machine.keypad.isPressed key = true) := by
  rw [← Event.lastEdge?_eq_some_true_iff, ← Event.lastEdge?_eq_none_iff, isPressed_handleAll]
  cases Event.lastEdge? (Keyboard.codeOf key) events <;> simp

/-- Events do the same if the last ones about each key do. -/
theorem handleAll_congr
    (same : ∀ key, Event.lastEdge? (Keyboard.codeOf key) events =
      Event.lastEdge? (Keyboard.codeOf key) events') :
    (machine.handleAll events).1 = (machine.handleAll events').1 := by
  have keypads : (machine.handleAll events).1.keypad = (machine.handleAll events').1.keypad := by
    apply Keypad.ext_isPressed
    intro key
    rw [isPressed_handleAll, isPressed_handleAll, same key]
  obtain ⟨keypad, after⟩ := machine.handleAll_eq events
  obtain ⟨keypad', after'⟩ := machine.handleAll_eq events'
  rw [after, after'] at keypads ⊢
  exact congrArg (fun keypad => { machine with keypad }) keypads

theorem handleAll_swap (machine : Machine) (earlier later : List Event) {first second : Event}
    (apart : first.key? ≠ second.key?) :
    (machine.handleAll (earlier ++ first :: second :: later)).1 =
      (machine.handleAll (earlier ++ second :: first :: later)).1 := by
  apply handleAll_congr
  intro key
  simp only [Event.lastEdge?_append, Event.lastEdge?_cons]
  rcases Event.edge?_eq_none_or apart key with silent | silent <;> simp [silent]

theorem handleAll_drop (machine : Machine) (earlier later : List Event) {event : Event}
    (unmapped : event.key? = none) :
    (machine.handleAll (earlier ++ event :: later)).1 =
      (machine.handleAll (earlier ++ later)).1 := by
  apply handleAll_congr
  intro key
  simp [Event.lastEdge?_append, Event.lastEdge?_cons, Event.edge?_of_unmapped unmapped key]

/-- The keypad follows the last events about its keys.

Every key has one host key.  After any events it is held down if and only if the last event about
this host key was a press, or there was no such event and it was held down before.  No call fails,
the answer to an event is negative if and only if it is a wish to quit or a press of the escape key,
and nothing but the keypad changes.  So events about different keys may change places, and events
about no key may be left out. -/
theorem keys_follow_last_events (machine : Machine) (events : List Event) :
    (∀ key : Key, ∃ code : Int, (∀ other : Int, Keyboard.keyFor? other = some key ↔ other = code) ∧
      ((machine.handleAll events).1.keypad.isPressed key = true ↔
        (∃ earlier later, events = earlier ++ .keyDown code :: later ∧
          ∀ event ∈ later, event.code? ≠ some code) ∨
        ((∀ event ∈ events, event.code? ≠ some code) ∧ machine.keypad.isPressed key = true))) ∧
    machine.handleEach events =
      .ok ((machine.handleAll events).1, events.map fun event => !event.stops) ∧
    (∀ event : Event, event.stops = true ↔ event = .quit ∨ event = .keyDown Keyboard.escape) ∧
    (machine.handleAll events).1 =
      { machine with keypad := (machine.handleAll events).1.keypad } ∧
    (∀ (earlier later : List Event) (first second : Event), first.key? ≠ second.key? →
      (machine.handleAll (earlier ++ first :: second :: later)).1 =
        (machine.handleAll (earlier ++ second :: first :: later)).1) ∧
    (∀ (earlier later : List Event) (event : Event), event.key? = none →
      (machine.handleAll (earlier ++ event :: later)).1 =
        (machine.handleAll (earlier ++ later)).1) := by
  refine ⟨fun key => ⟨Keyboard.codeOf key, ?_, ?_⟩, handleEach_eq machine events, ?_, ?_, ?_, ?_⟩
  · exact fun _ => Keyboard.keyFor?_eq_some_iff
  · exact isPressed_handleAll_iff machine events key
  · exact fun _ => Event.stops_iff
  · obtain ⟨keypad, after⟩ := machine.handleAll_eq events
    rw [after]
  · exact fun earlier later _ _ => handleAll_swap machine earlier later
  · exact fun earlier later _ => handleAll_drop machine earlier later

/-- Two keys are pressed, and one of them is released after the wish to quit.  The two presses may
change places. -/
theorem keys_follow_last_events_two :
    let machine := powerOn default
    let events : List Event :=
      [.keyDown 120, .keyDown 113, .other, .quit, .keyUp 120, .keyDown Keyboard.escape]
    let after := (machine.handleAll events).1
    after.keypad.isPressed 0x4 = true ∧ after.keypad.isPressed 0x0 = false ∧
      (Event.keyDown 120).key? ≠ (Event.keyDown 113).key? ∧
      after = (machine.handleAll
        [.keyDown 113, .keyDown 120, .other, .quit, .keyUp 120, .keyDown Keyboard.escape]).1 := by
  intro machine events after
  obtain ⟨keys, _, _, _, swap, _⟩ := keys_follow_last_events machine events
  obtain ⟨q, onlyQ, pressedQ⟩ := keys 0x4
  obtain ⟨x, onlyX, pressedX⟩ := keys 0x0
  obtain rfl : 113 = q := (onlyQ 113).mp (by decide)
  obtain rfl : 120 = x := (onlyX 120).mp (by decide)
  have apart : (Event.keyDown 120).key? ≠ (Event.keyDown 113).key? := by decide
  refine ⟨?_, ?_, apart, swap [] _ _ _ apart⟩
  · exact pressedQ.mpr (.inl ⟨[.keyDown 120], _, rfl, by decide⟩)
  · rw [← Bool.not_eq_true, pressedX]
    rintro (⟨earlier, later, same, silent⟩ | ⟨silent, _⟩)
    · cases earlier with
      | nil =>
          obtain ⟨_, rfl⟩ := List.cons.inj same
          exact silent (.keyUp 120) (by decide) rfl
      | cons first rest =>
          have again : Event.keyDown 120 ∈ events.tail := by
            rw [same]
            simp
          exact absurd again (by decide)
    · exact silent (.keyDown 120) (by decide) rfl

end Machine

end ChipEight

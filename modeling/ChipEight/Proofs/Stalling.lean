/-
Module: ChipEight.Proofs.Stalling
Purpose: Steps that wait for a key in vain leave nothing behind but the waiting flag.
Main exports: Keypad.untouched_eq_isNone, Keypad.isLeast_of_lowest?, Machine.fetch_eq_ok_iff,
  Machine.step_stalled, Machine.step_takesKey, Machine.Unanswered, Machine.applyAll_stalled,
  Machine.stalling_transparent
-/
import ChipEight.Proofs.History
import ChipEight.Proofs.Waiting
import Mathlib.Order.Bounds.Defs

namespace ChipEight

/-!
### Two questions about the keypad

Whether a key is held down and which one is the lowest are found out separately.  The two answers
agree, so a key is only asked for when there is one.
-/

namespace Keypad

variable {keypad : Keypad} {key : Key}

theorem untouched_iff : keypad.untouched = true ↔ ∀ key, keypad.isPressed key = false := by
  simp [untouched, isPressed, Vector.any_eq_false, Fin.forall_iff]

theorem untouched_eq_isNone (keypad : Keypad) : keypad.untouched = keypad.lowest?.isNone := by
  rw [Bool.eq_iff_iff, Option.isNone_iff_eq_none, lowest?_eq_none_iff, untouched_iff]

/-- The search goes through the keys in ascending order, so nothing below what it finds is held
down. -/
theorem isLeast_of_lowest? (found : keypad.lowest? = some key) :
    IsLeast {other | keypad.isPressed other = true} key := by
  obtain ⟨held, place, inside, same, below⟩ := List.find?_eq_some_iff_getElem.mp found
  have position : key.val = place := by rw [← same, List.getElem_finRange, Fin.val_cast]
  refine ⟨held, fun other held' => ?_⟩
  by_contra notBelow
  have before : other.val < place := position ▸ Fin.not_le.mp notBelow
  have released := below other.val before
  rw [List.getElem_finRange, Fin.cast_mk, Fin.eta] at released
  rw [show keypad.isPressed other = true from held'] at released
  cases released

end Keypad

namespace Machine

variable {machine : Machine} {tracing : Bool} {word : UInt16} {x : Register} {key : Key}

theorem fetch_eq_ok_iff :
    machine.fetch = .ok word ↔
      (0 ≤ machine.pc ∧ machine.pc ≤ 0xFFE) ∧ word.toNat = machine.contents.word := by
  constructor
  · intro fetched
    have inside := (Memory.word_eq_ok_iff.mp fetched).1
    exact ⟨by omega, toNat_fetched fetched⟩
  · rintro ⟨inside, stands⟩
    refine Memory.word_eq_ok_iff.mpr ⟨by omega, ?_⟩
    rw [← UInt16.ofNat_toNat (x := word), stands]
    rfl

/-!
### One step

A machine that stands on a wait for a key either raises the flag and stays where it is, or takes the
lowest key and goes on.  In the second case it does not matter whether the flag was up before.
-/

theorem step_stalled (fetched : machine.fetch = .ok word)
    (decoded : Instruction.decode word = some (.awaitKey x))
    (untouched : machine.keypad.untouched = true) :
    (machine.step tracing).result = .ok false ∧
      (machine.step tracing).machine = { machine with waiting := true } := by
  have waits :
      (machine.advanced.execute (.awaitKey x)).after = .ok { machine with waiting := true } :=
    congrArg Except.ok (takeKey_advanced x (Keypad.untouched_iff.mp untouched))
  rw [step_of_done fetched decoded waits]
  exact ⟨rfl, rfl⟩

theorem takeKey_of_lowest? (found : machine.keypad.lowest? = some key) :
    machine.takeKey x = { machine.setV x (UInt8.ofNat key.val) with waiting := false } := by
  rw [takeKey, found]

theorem step_takesKey (fetched : machine.fetch = .ok word)
    (decoded : Instruction.decode word = some (.awaitKey x))
    (found : machine.keypad.lowest? = some key) :
    machine.step tracing =
      ⟨{ machine.advanced.setV x (UInt8.ofNat key.val) with waiting := false }, .ok true,
        traced tracing (Trace.opcode word) ++
          traced tracing (Trace.instruction machine.pc (.awaitKey x))⟩ := by
  have found' : machine.advanced.keypad.lowest? = some key := found
  rw [step_of_done fetched decoded (congrArg Except.ok (takeKey_of_lowest? found'))]
  rfl

/-!
### What happens beside the steps

Between the steps the timers tick and keys are pressed and released.  These operations do not look
at the waiting flag, so it makes no difference to them whether there were steps before.
-/

variable {operation : Operation} {operations : List Operation}

theorem apply_aside_waiting (aside : operation.Aside) (machine : Machine) (tracing waiting : Bool) :
    ({ machine with waiting }.apply tracing operation).machine =
      { (machine.apply tracing operation).machine with waiting } := by
  cases operation with
  | tick => rfl
  | setKey number down =>
      rw [apply, apply]
      cases machine.keypad.set number down with
      | error complaint => rfl
      | ok keypad => rfl
  | handle event =>
      obtain ⟨press, goOn, same⟩ := handle_eq event
      rw [apply, apply, same, same]
      rfl
  | step | perform | load | reset | frame => exact aside.elim

theorem applyAll_asides_waiting (asides : ∀ operation ∈ operations, operation.Aside)
    (machine : Machine) (tracing waiting : Bool) :
    { machine with waiting }.applyAll tracing operations =
      { machine.applyAll tracing operations with waiting } := by
  induction operations generalizing machine with
  | nil => rfl
  | cons operation rest ih =>
      obtain ⟨aside, later⟩ := List.forall_mem_cons.mp asides
      rw [applyAll, applyAll, apply_aside_waiting aside, ih later]

/-- Operations beside the steps concern the timers and the keypad only. -/
theorem applyAll_asides (asides : ∀ operation ∈ operations, operation.Aside) (machine : Machine)
    (tracing : Bool) :
    ∃ delay sound keypad,
      machine.applyAll tracing operations = { machine with delay, sound, keypad } := by
  induction operations generalizing machine with
  | nil => exact ⟨machine.delay, machine.sound, machine.keypad, rfl⟩
  | cons operation rest ih =>
      obtain ⟨aside, later⟩ := List.forall_mem_cons.mp asides
      obtain ⟨_, _, _, same⟩ := machine.apply_aside tracing aside
      obtain ⟨delay, sound, keypad, reached⟩ := ih later (machine.apply tracing operation).machine
      refine ⟨delay, sound, keypad, ?_⟩
      rw [applyAll, reached, same]

/-!
### Runs
-/

/-- Whenever one of the operations is a step, no key is held down at that time. -/
def Unanswered (tracing : Bool) : Machine → List Operation → Prop
  | _, [] => True
  | machine, operation :: rest =>
      (operation = .step → machine.keypad.untouched = true) ∧
        Unanswered tracing (machine.apply tracing operation).machine rest

instance decidableUnanswered (tracing : Bool) :
    ∀ (machine : Machine) (operations : List Operation),
      Decidable (Unanswered tracing machine operations)
  | _, [] => .isTrue trivial
  | machine, operation :: rest =>
      have := decidableUnanswered tracing (machine.apply tracing operation).machine rest
      inferInstanceAs (Decidable ((operation = .step → _) ∧ _))

theorem unanswered_append {earlier later : List Operation} :
    Unanswered tracing machine (earlier ++ later) ↔
      Unanswered tracing machine earlier ∧
        Unanswered tracing (machine.applyAll tracing earlier) later := by
  induction earlier generalizing machine with
  | nil => simp only [List.nil_append, Unanswered, applyAll, true_and]
  | cons operation rest ih =>
      rw [List.cons_append, Unanswered, Unanswered, applyAll, ih, and_assoc]

/-- What is left of a run without its steps. -/
theorem aside_of_mem_filter
    (kinds : ∀ operation ∈ operations, operation = .step ∨ operation.Aside) :
    ∀ operation ∈ operations.filter (· ≠ .step), operation.Aside := by
  intro operation kept
  obtain ⟨among, other⟩ := List.mem_filter.mp kept
  exact (kinds operation among).resolve_left (of_decide_eq_true other)

/-- Of a run of steps that wait in vain and of operations beside them nothing remains but what the
latter did, and the flag. -/
theorem applyAll_stalled (fetched : machine.fetch = .ok word)
    (decoded : Instruction.decode word = some (.awaitKey x))
    (kinds : ∀ operation ∈ operations, operation = .step ∨ operation.Aside)
    (unanswered : Unanswered tracing machine operations) :
    machine.applyAll tracing operations =
      { machine.applyAll tracing (operations.filter (· ≠ .step)) with
        waiting := machine.waiting || decide (.step ∈ operations) } := by
  induction operations generalizing machine with
  | nil => simp [applyAll]
  | cons operation rest ih =>
      obtain ⟨kind, restKinds⟩ := List.forall_mem_cons.mp kinds
      obtain ⟨untouched, restUnanswered⟩ := unanswered
      rcases kind with rfl | aside
      · have stalled : (machine.apply tracing .step).machine = { machine with waiting := true } :=
          (step_stalled fetched decoded (untouched rfl)).2
        rw [stalled] at restUnanswered
        have fetched' : { machine with waiting := true }.fetch = .ok word := fetched
        have later := ih fetched' restKinds restUnanswered
        rw [applyAll, stalled, later, applyAll_asides_waiting (aside_of_mem_filter restKinds)]
        simp
      · obtain ⟨delay, sound, keypad, same⟩ := machine.apply_aside tracing aside
        have other : operation ≠ .step := by
          rintro rfl
          exact aside
        have fetched' : (machine.apply tracing operation).machine.fetch = .ok word := by
          rw [same]
          exact fetched
        have later := ih fetched' restKinds restUnanswered
        have waiting : (machine.apply tracing operation).machine.waiting = machine.waiting := by
          rw [same]
        rw [applyAll, later, waiting, List.filter_cons_of_pos (by simpa using other), applyAll]
        simp [other.symm]

/-- The machine still stands on the same word. -/
theorem fetch_applyAll_stalled (fetched : machine.fetch = .ok word)
    (decoded : Instruction.decode word = some (.awaitKey x))
    (kinds : ∀ operation ∈ operations, operation = .step ∨ operation.Aside)
    (unanswered : Unanswered tracing machine operations) :
    (machine.applyAll tracing operations).fetch = .ok word := by
  obtain ⟨_, _, _, beside⟩ := applyAll_asides (aside_of_mem_filter kinds) machine tracing
  rw [applyAll_stalled fetched decoded kinds unanswered, beside]
  exact fetched

/-- Waiting for a key is transparent.  Let a machine stand on a wait for a key and take steps, while
the timers tick and keys are pressed and released between them, but no key is held down at the time
of a step.  Then each of the steps answers that the machine cannot go on.  After them the flag is
up, and nothing else has changed but the timers and the keypad, which are what they would be without
the steps.  Once keys are held down, the next step puts the lowest of them into the register of the
word, moves on and takes down the flag.  It does exactly what it would do if it were the first
step. -/
theorem stalling_transparent (machine : Machine) (tracing : Bool) (word : UInt16)
    (operations : List Operation) (inside : 0 ≤ machine.pc ∧ machine.pc ≤ 0xFFE)
    (stands : word.toNat = machine.contents.word) (awaits : Row.awaitKey.Applies word)
    (kinds : ∀ operation ∈ operations, operation = .step ∨ operation.Aside)
    (steps : .step ∈ operations) (unanswered : Unanswered tracing machine operations) :
    let stalled := machine.applyAll tracing operations
    let unstepped := machine.applyAll tracing (operations.filter (· ≠ .step))
    (∀ earlier later, operations = earlier ++ .step :: later →
      ((machine.applyAll tracing earlier).step tracing).result = .ok false) ∧
    stalled = { machine with
      waiting := true
      delay := stalled.delay
      sound := stalled.sound
      keypad := stalled.keypad } ∧
    stalled = { unstepped with waiting := true } ∧
    ∀ (keypad : Keypad) (tracing' : Bool), keypad.untouched = false →
      let ready := { stalled with keypad }
      ∃ key : Key, IsLeast {key | keypad.isPressed key = true} key ∧
        (ready.step tracing').result = .ok true ∧
        (ready.step tracing').machine.contents =
          { ready.contents.write (Row.awaitKey.operand .x word) key.val with
            pc := machine.pc + 2
            waiting := false } ∧
        ready.step tracing' = { unstepped with keypad }.step tracing' := by
  intro stalled unstepped
  have fetched : machine.fetch = .ok word := fetch_eq_ok_iff.mpr ⟨inside, stands⟩
  have decoded : Instruction.decode word = some (.awaitKey (Instruction.x word)) :=
    Row.decode_of_applies awaits
  have reached : stalled = { unstepped with waiting := true } := by
    have same := applyAll_stalled fetched decoded kinds unanswered
    rw [decide_eq_true steps, Bool.or_true] at same
    exact same
  obtain ⟨delay, sound, pad, beside⟩ :
      ∃ delay sound keypad, unstepped = { machine with delay, sound, keypad } :=
    applyAll_asides (aside_of_mem_filter kinds) machine tracing
  refine ⟨?_, ?_, reached, ?_⟩
  · rintro earlier later rfl
    obtain ⟨before, untouched, _⟩ := unanswered_append.mp unanswered
    have kindsBefore : ∀ operation ∈ earlier, operation = .step ∨ operation.Aside :=
      (List.forall_mem_append.mp kinds).1
    have there := fetch_applyAll_stalled fetched decoded kindsBefore before
    exact (step_stalled there decoded (untouched rfl)).1
  · rw [reached, beside]
  · intro keypad tracing' touched ready
    rw [Keypad.untouched_eq_isNone, Option.isNone_eq_false_iff, Option.isSome_iff_exists] at touched
    obtain ⟨key, found⟩ := touched
    have stands : { unstepped with keypad }.fetch = .ok word := by
      rw [beside]
      exact fetched
    have stands' : ready.fetch = .ok word := by
      simp only [ready, reached]
      exact stands
    have pc : machine.pc = ready.pc := by simp only [ready, reached, beside]
    have taken : ready.step tracing' = _ := step_takesKey stands' decoded found
    have found' : ready.advanced.keypad.lowest? = some key := found
    refine ⟨key, Keypad.isLeast_of_lowest? found, ?_, ?_, ?_⟩
    · rw [taken]
    · rw [taken, ← takeKey_of_lowest? found', contents_takeKey, lowestKey?_contents, found',
        Row.operand_x _ _ (by decide), pc]
      rfl
    · rw [taken, step_takesKey stands decoded found]
      simp only [ready, reached]
      rfl

/-- Two steps that wait in vain for `F30A`.  Between them a key is pressed and released again and
the timers tick, and after them two keys are pressed. -/
theorem stalling_transparent_released :
    let machine := { started [0xF3, 0x0A] with delay := 9 }
    let operations : List Operation :=
      [.step, .setKey 5 1, .tick, .handle (.keyUp 119), .step, .setKey 12 1, .setKey 9 1]
    let stalled := machine.applyAll false operations
    Unanswered false machine operations ∧ stalled.waiting = true ∧ stalled.delay = 8 ∧
      (stalled.step false).result = .ok true ∧
      (stalled.step false).machine.contents.register 3 = 9 ∧
      (stalled.step false).machine.pc = 0x202 := by
  intro machine operations stalled
  obtain ⟨word, unanswered, delay, touched, held, lowest⟩ :
      (0xF30A : UInt16).toNat = machine.contents.word ∧ Unanswered false machine operations ∧
        stalled.delay = 8 ∧ stalled.keypad.untouched = false ∧
        stalled.keypad.isPressed 9 = true ∧
        ∀ key, stalled.keypad.isPressed key = true → 9 ≤ key := by decide +kernel
  have kinds : ∀ operation ∈ operations, operation = .step ∨ operation.Aside := by
    simp [operations, Operation.Aside]
  have steps : .step ∈ operations := List.mem_cons_self
  have x : Row.awaitKey.operand .x 0xF30A = 3 := by decide
  obtain ⟨_, kept, _, next⟩ := stalling_transparent machine false 0xF30A operations
    (by decide) word (by decide) kinds steps unanswered
  obtain ⟨key, least, goesOn, after, _⟩ := next stalled.keypad false touched
  have nine : key = 9 := Fin.le_antisymm (least.2 held) (lowest key least.1)
  refine ⟨unanswered, congrArg Machine.waiting kept, delay, goesOn, ?_, ?_⟩
  · refine (congrFun (congrArg Contents.register after) 3).trans ?_
    rw [x, nine]
    exact Function.update_self 3 9 stalled.contents.register
  · exact congrArg Contents.pc after

end Machine

end ChipEight

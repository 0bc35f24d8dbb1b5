/-
Module: ChipEight.Proofs.Waiting
Purpose: A machine that waits for a key stands on the instruction that makes it wait, so that the
  answer of a step tells exactly whether this step had to wait.
Main exports: Machine.Parked, Machine.Parked.waiting_iff, Machine.parked_step,
  Machine.ReachableUndisturbed, Machine.step_halts_exactly
-/
import ChipEight.Proofs.InstructionTable
import ChipEight.Proofs.Reachability

namespace ChipEight

theorem Keypad.lowest?_eq_none_iff {keypad : Keypad} :
    keypad.lowest? = none ↔ ∀ key, keypad.isPressed key = false := by
  simp [lowest?]

namespace Machine

variable {machine after : Machine} {tracing goOn : Bool} {word : UInt16}
  {instruction : Instruction}

/-!
### The invariant

A step answers with the waiting flag, which most instructions leave as it is.  That the flag is
never left up by an earlier step rests on where the machine stands while it is up: the program
counter was put back onto the word that raised it, and the next step meets this word again.
-/

/-- If the machine waits for a key, the word at the program counter is a wait for a key. -/
def Parked (machine : Machine) : Prop :=
  machine.waiting = true →
    ∃ word x, machine.fetch = .ok word ∧ Instruction.decode word = some (.awaitKey x)

theorem parked_of_not_waiting (idle : machine.waiting = false) : machine.Parked := by
  intro waiting
  rw [idle] at waiting
  cases waiting

/-- As long as no key is held down, a wait for a key does nothing but raise the flag. -/
theorem takeKey_advanced (x : Register) (none : ∀ key, machine.keypad.isPressed key = false) :
    machine.advanced.takeKey x = { machine with waiting := true } := by
  have lowest : machine.advanced.keypad.lowest? = Option.none :=
    Keypad.lowest?_eq_none_iff.mpr none
  rw [takeKey, lowest, advanced, Int.add_sub_cancel]

theorem waiting_of_awaitKey {x : Register}
    (done : (machine.execute (.awaitKey x)).after = .ok after) :
    after.waiting = true ↔ ∀ key, machine.keypad.isPressed key = false := by
  have flag : after.waiting = machine.keypad.lowest?.isNone :=
    congrArg Sidelines.waiting (sidelines_of_done done)
  rw [flag, Option.isNone_iff_eq_none, Keypad.lowest?_eq_none_iff]

/-- Only a wait for a key changes the waiting flag. -/
theorem waiting_of_done (done : (machine.execute instruction).after = .ok after)
    (other : ∀ x, instruction ≠ .awaitKey x) : after.waiting = machine.waiting := by
  refine (congrArg Sidelines.waiting (sidelines_of_done done)).trans ?_
  cases instruction
  case awaitKey x => exact absurd rfl (other x)
  all_goals rfl

/-- A parked machine meets a wait for a key when its flag is up. -/
theorem Parked.awaits (parked : machine.Parked) (fetched : machine.fetch = .ok word)
    (decoded : Instruction.decode word = some instruction) (waiting : machine.waiting = true) :
    ∃ x, instruction = .awaitKey x := by
  obtain ⟨word', x, fetched', awaits⟩ := parked waiting
  cases fetched.symm.trans fetched'
  exact ⟨x, Option.some.inj (decoded.symm.trans awaits)⟩

/-- After the instruction of a parked machine the flag tells about this instruction only. -/
theorem Parked.waiting_iff (parked : machine.Parked) (fetched : machine.fetch = .ok word)
    (decoded : Instruction.decode word = some instruction)
    (done : (machine.advanced.execute instruction).after = .ok after) :
    after.waiting = true ↔
      (∃ x, instruction = .awaitKey x) ∧ ∀ key, machine.keypad.isPressed key = false := by
  by_cases awaits : ∃ x, instruction = .awaitKey x
  · obtain ⟨x, rfl⟩ := awaits
    exact (waiting_of_awaitKey done).trans ⟨fun none => ⟨⟨x, rfl⟩, none⟩, fun both => both.2⟩
  · have same := waiting_of_done done fun x equal => awaits ⟨x, equal⟩
    constructor
    · intro waiting
      exact absurd (parked.awaits fetched decoded (same.symm.trans waiting)) awaits
    · intro both
      exact absurd both.1 awaits

/-- A step keeps the machine parked, whether it ends well or not. -/
theorem parked_step (parked : machine.Parked) : (machine.step tracing).machine.Parked := by
  cases result : (machine.step tracing).result with
  | error fault =>
      rcases step_error_iff.mp ⟨result, rfl⟩ with
        ⟨_, same⟩ | ⟨_, _, _, _, same⟩ | ⟨word, instruction, fetched, decoded, refused, same⟩
      · rw [same]
        exact parked
      · rw [same]
        exact parked
      · -- A wait for a key is never refused, so the flag was not up.
        rw [same]
        intro waiting
        obtain ⟨x, rfl⟩ := parked.awaits fetched decoded waiting
        cases refused
  | ok goOn =>
      obtain ⟨word, instruction, fetched, decoded, done, _⟩ := step_ok_iff.mp ⟨result, rfl⟩
      intro waiting
      obtain ⟨⟨x, rfl⟩, none⟩ := (parked.waiting_iff fetched decoded done).mp waiting
      have reached : machine.advanced.takeKey x = (machine.step tracing).machine := by
        rw [execute, Outcome.after_done] at done
        exact Except.ok.inj done
      rw [← reached, takeKey_advanced x none]
      exact ⟨word, x, fetched, decoded⟩

/-!
### Reachable machines

A program that is put into memory while the machine waits may overwrite the word it stands on, so
this is left out.
-/

/-- The machines that can be reached when no operation carries out a word that was not fetched, and
programs are only put into memory while the machine does not wait for a key. -/
def ReachableUndisturbed : Machine → Prop :=
  ReachableBy fun machine operation =>
    (∀ word, operation ≠ .perform word) ∧
      ∀ program, operation = .load program → machine.waiting = false

theorem parked_apply {operation : Operation} (parked : machine.Parked)
    (fetching : ∀ word, operation ≠ .perform word)
    (undisturbed : ∀ program, operation = .load program → machine.waiting = false) :
    (machine.apply tracing operation).machine.Parked := by
  apply apply_preserves _ _ _ _ fetching parked
  · intro machine parked
    exact parked_step parked
  · intro machine _ _ _ _ parked
    exact parked
  · intro random
    exact parked_of_not_waiting rfl
  · intro program memory loads _
    exact parked_of_not_waiting (undisturbed program loads)

theorem ReachableUndisturbed.parked (reached : machine.ReachableUndisturbed) : machine.Parked := by
  apply reached.invariant
  · intro random
    exact parked_of_not_waiting rfl
  · intro machine tracing operation parked permitted
    exact parked_apply parked permitted.1 permitted.2

/-- A machine that waits for a key stands on a wait for a key inside memory.  Hence a step that ends
well answers that it cannot go on exactly when the word that it fetched is a wait for a key and no
key is held down, and answers that it can go on in every other case. -/
theorem step_halts_exactly (reached : machine.ReachableUndisturbed) :
    (machine.waiting = true →
      (0 ≤ machine.pc ∧ machine.pc + 2 ≤ 0x1000) ∧
      ∃ word : UInt16, machine.fetch = .ok word ∧ Row.awaitKey.Applies word) ∧
    (∀ tracing goOn : Bool, (machine.step tracing).result = .ok goOn →
      ∃ word : UInt16, machine.fetch = .ok word ∧
        (goOn = false ↔
          Row.awaitKey.Applies word ∧ ∀ key : Key, machine.keypad.isPressed key = false)) := by
  constructor
  · intro waiting
    obtain ⟨word, x, fetched, decoded⟩ := reached.parked waiting
    exact ⟨(Memory.word_eq_ok_iff.mp fetched).1, word, fetched, Row.applies_of_decode decoded⟩
  · intro tracing goOn result
    obtain ⟨word, instruction, fetched, decoded, done, rfl⟩ := step_ok_iff.mp ⟨result, rfl⟩
    have awaits : (∃ x, instruction = .awaitKey x) ↔ Row.awaitKey.Applies word := by
      constructor
      · rintro ⟨x, rfl⟩
        exact Row.applies_of_decode decoded
      · intro applies
        exact ⟨_, Option.some.inj (decoded.symm.trans (Row.decode_of_applies applies))⟩
    refine ⟨word, fetched, ?_⟩
    rw [Bool.not_eq_false', reached.parked.waiting_iff fetched decoded done, awaits]

/-- A program whose first step has to wait, as the second one has; when a key was pressed the third
one has not, although the flag was still up before it. -/
theorem step_halts_exactly_stalled :
    let loaded := ((powerOn default).apply false (.load [0xF3, 0x0A])).machine
    let waits := (loaded.apply false .step).machine
    let pressed := (waits.apply false (.setKey 7 1)).machine
    waits.waiting = true ∧ (waits.step false).result = .ok false ∧
      (∃ word, waits.fetch = .ok word ∧ Row.awaitKey.Applies word) ∧
      pressed.waiting = true ∧ (pressed.step false).result = .ok true ∧
      ¬ ∀ key, pressed.keypad.isPressed key = false := by
  intro loaded waits pressed
  have start : loaded.ReachableUndisturbed :=
    (ReachableBy.start default).next false _ ⟨nofun, fun _ _ => rfl⟩
  have reached : waits.ReachableUndisturbed := start.next false _ ⟨nofun, nofun⟩
  have reached' : pressed.ReachableUndisturbed := reached.next false _ ⟨nofun, nofun⟩
  obtain ⟨waiting, halted, waiting', resumed⟩ :
      waits.waiting = true ∧ (waits.step false).result = .ok false ∧
      pressed.waiting = true ∧ (pressed.step false).result = .ok true := by decide +kernel
  obtain ⟨_, parked⟩ := (step_halts_exactly reached).1 waiting
  obtain ⟨_, word', fetched', applies'⟩ := (step_halts_exactly reached').1 waiting'
  obtain ⟨word, fetched, exactly⟩ := (step_halts_exactly reached').2 false true resumed
  cases fetched.symm.trans fetched'
  refine ⟨waiting, halted, parked, waiting', resumed, fun none => ?_⟩
  cases exactly.mpr ⟨applies', none⟩

end Machine

end ChipEight

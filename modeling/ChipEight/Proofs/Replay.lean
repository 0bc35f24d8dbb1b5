/-
Module: ChipEight.Proofs.Replay
Purpose: A copy of the state tells all that later behaviour depends on, although it leaves out the
  two flags.
Main exports: RandomSource.Alike, Machine.Alike, Machine.alike_of_snapshot, Machine.execute_alike,
  Machine.Alike.step, Machine.Alike.apply, Observation, Machine.observations,
  Machine.snapshot_determines_future
-/
import ChipEight.Proofs.Waiting

namespace ChipEight

open Result

/-!
### What may differ

Two machines with the same copy may still differ in the flags, and in what their random sources
delivered before.  An instruction hands these differences on and does not look at them, apart from
the numbers that are still to come.
-/

/-- The sources will deliver the same numbers from now on. -/
def RandomSource.Alike (source other : RandomSource) : Prop :=
  ∀ ahead, source.values (source.consumed + ahead) = other.values (other.consumed + ahead)

theorem RandomSource.Alike.next {source other : RandomSource} (alike : source.Alike other) :
    source.next.1 = other.next.1 ∧ source.next.2.Alike other.next.2 := by
  refine ⟨alike 0, fun ahead => ?_⟩
  simpa only [RandomSource.next, Nat.add_assoc] using alike (1 + ahead)

namespace Machine

variable {machine other : Machine} {tracing tracing' : Bool}

/-- The machines differ at most in their flags and in the past of their random sources. -/
def Alike (machine other : Machine) : Prop :=
  ∃ draw waiting random,
    other = { machine with draw, waiting, random } ∧ machine.random.Alike random

theorem Alike.snapshot (alike : machine.Alike other) : machine.snapshot = other.snapshot := by
  obtain ⟨draw, waiting, random, rfl, _⟩ := alike
  rfl

theorem alike_of_snapshot (same : machine.snapshot = other.snapshot)
    (ahead : machine.random.Alike other.random) : machine.Alike other := by
  have field {α : Type} (part : Snapshot → α) : part machine.snapshot = part other.snapshot :=
    congrArg part same
  have memory : machine.memory = other.memory :=
    congrArg Memory.mk (Vector.toList_inj.mp (field Snapshot.memory))
  have registers : machine.registers = other.registers :=
    congrArg Registers.mk (Vector.toList_inj.mp (field Snapshot.registers))
  have keypad : machine.keypad = other.keypad :=
    congrArg Keypad.mk (Vector.toList_inj.mp (field Snapshot.keys))
  have stack : machine.stack = other.stack :=
    congrArg CallStack.mk (List.reverse_injective (field Snapshot.stack))
  have screen : machine.screen = other.screen :=
    Framebuffer.rows_injective (field Snapshot.screen)
  have index : machine.index = other.index := field Snapshot.index
  have pc : machine.pc = other.pc := field Snapshot.pc
  have delay : machine.delay = other.delay := field Snapshot.delay
  have sound : machine.sound = other.sound := field Snapshot.sound
  refine ⟨other.draw, other.waiting, other.random, ?_, ahead⟩
  rw [memory, registers, keypad, stack, screen, index, pc, delay, sound]

theorem powerOn_alike {source source' : RandomSource} (ahead : source.Alike source') :
    (powerOn source).Alike (powerOn source') :=
  ⟨false, false, source', rfl, ahead⟩

/-- An instruction does the same to machines that differ in nothing it looks at. -/
theorem execute_alike (alike : machine.Alike other) (instruction : Instruction) :
    Agree Alike (machine.execute instruction).after (other.execute instruction).after := by
  obtain ⟨draw, waiting, random, rfl, ahead⟩ := alike
  let given : Sidelines := { machine.sidelines with draw, waiting, random }
  have sees : instruction.SeesSame machine given := ⟨fun _ _ => rfl, fun _ _ _ => ahead.next.1.symm⟩
  refine (execute_withSidelines sees).imp fun after _ related => ?_
  obtain ⟨kept, rfl⟩ := related
  have others : instruction.sidelines machine given =
      { after.sidelines with
        draw := (instruction.sidelines machine given).draw
        waiting := (instruction.sidelines machine given).waiting
        random := (instruction.sidelines machine given).random } := by
    rw [kept]
    rfl
  refine ⟨_, _, _, congrArg after.withSidelines others, ?_⟩
  rw [show after.random = _ from congrArg Sidelines.random kept]
  cases instruction
  case random x mask => exact ahead.next.2
  all_goals exact ahead

end Machine

/-- The outcomes make the same complaint or yield values that are related, and leave machines that
are alike. -/
structure Outcome.Alike {ε α : Type} (related : α → α → Prop) (outcome other : Outcome ε α) :
    Prop where
  result : Agree related outcome.result other.result
  machine : outcome.machine.Alike other.machine

namespace Outcome

variable {ε δ α β : Type} {related : α → α → Prop} {outcome other : Outcome ε α}

theorem Alike.map {related' : β → β → Prop} (alike : outcome.Alike related other) {f : α → β}
    (holds : ∀ value value', related value value' → related' (f value) (f value')) :
    (outcome.map f).Alike related' (other.map f) := by
  obtain ⟨machine, result, printed⟩ := outcome
  obtain ⟨machine', result', printed'⟩ := other
  obtain ⟨agree, alike⟩ := alike
  cases agree with
  | error complaint => exact ⟨.error complaint, alike⟩
  | ok same => exact ⟨.ok (holds _ _ same), alike⟩

theorem Alike.mapError (alike : outcome.Alike related other) (f : ε → δ) :
    (outcome.mapError f).Alike related (other.mapError f) := by
  obtain ⟨machine, result, printed⟩ := outcome
  obtain ⟨machine', result', printed'⟩ := other
  obtain ⟨agree, alike⟩ := alike
  cases agree with
  | error complaint => exact ⟨.error (f complaint), alike⟩
  | ok same => exact ⟨.ok same, alike⟩

theorem update_alike {before before' : Machine} {result result' : Except ε Machine}
    (alike : before.Alike before') (agree : Agree Machine.Alike result result') (value : α) :
    (update before value result).Alike Eq (update before' value result') := by
  cases agree with
  | error complaint => exact ⟨.error complaint, alike⟩
  | ok reached => exact ⟨.ok rfl, reached⟩

end Outcome

namespace Machine

variable {machine other : Machine} {tracing tracing' : Bool}

/-!
### A step

The answer of a step is the waiting flag.  It is the same for both machines because each of them is
parked, so that the flag before the step does not matter.
-/

theorem Alike.step (alike : machine.Alike other) (parked : machine.Parked)
    (parked' : other.Parked) : (machine.step tracing).Alike Eq (other.step tracing') := by
  obtain ⟨fetch, pc, keypad⟩ :
      machine.fetch = other.fetch ∧ machine.pc = other.pc ∧ machine.keypad = other.keypad := by
    obtain ⟨_, _, _, rfl, _⟩ := alike
    exact ⟨rfl, rfl, rfl⟩
  have advanced : machine.advanced.Alike other.advanced := by
    obtain ⟨draw, waiting, random, rfl, ahead⟩ := alike
    exact ⟨draw, waiting, random, rfl, ahead⟩
  cases fetched : machine.fetch with
  | error fault =>
      rw [step_of_unfetched fetched, step_of_unfetched (fetch.symm.trans fetched)]
      exact ⟨.error fault, alike⟩
  | ok word =>
      have fetched' : other.fetch = .ok word := fetch.symm.trans fetched
      cases decoded : Instruction.decode word with
      | none =>
          rw [step_of_undecoded fetched decoded, step_of_undecoded fetched' decoded, pc]
          exact ⟨.error _, alike⟩
      | some instruction =>
          have agree := execute_alike advanced instruction
          generalize done : (machine.advanced.execute instruction).after = ran at agree
          generalize done' : (other.advanced.execute instruction).after = ran' at agree
          cases agree with
          | error fault =>
              rw [step_of_refused fetched decoded done, step_of_refused fetched' decoded done']
              exact ⟨.error fault, advanced⟩
          | @ok after after' alike =>
              have waiting : after.waiting = after'.waiting := by
                rw [Bool.eq_iff_iff, parked.waiting_iff fetched decoded done,
                  parked'.waiting_iff fetched' decoded done', keypad]
              rw [step_of_done fetched decoded done, step_of_done fetched' decoded done']
              exact ⟨.ok (congrArg Bool.not waiting), alike⟩

/-!
### Operations

The answer of a frame tells whether the drawing flag was up, so it may differ and is not compared.
-/

/-- The cycles of a frame end in the same way, whatever was to be drawn before. -/
theorem Alike.runCycles {cycles : Nat} {redraw redraw' : Bool} {printed printed' : String}
    (alike : machine.Alike other) (parked : machine.Parked) (parked' : other.Parked) :
    (runCycles tracing cycles redraw printed machine).Alike (fun _ _ => True)
      (runCycles tracing' cycles redraw' printed' other) := by
  induction cycles generalizing machine other redraw redraw' printed printed' with
  | zero => exact ⟨.ok trivial, alike⟩
  | succ cycles ih =>
      have stepped : (machine.step tracing).Alike Eq (other.step tracing') :=
        alike.step parked parked'
      have parked : (machine.step tracing).machine.Parked := parked_step parked
      have parked' : (other.step tracing').machine.Parked := parked_step parked'
      rw [Machine.runCycles, Machine.runCycles]
      generalize machine.step tracing = outcome at stepped parked ⊢
      generalize other.step tracing' = outcome' at stepped parked' ⊢
      obtain ⟨reached, result, text⟩ := outcome
      obtain ⟨reached', result', text'⟩ := outcome'
      obtain ⟨agree, alike⟩ := stepped
      cases agree with
      | error fault => exact ⟨.error fault, alike⟩
      | ok =>
          obtain ⟨_, waiting, random, rfl, ahead⟩ := alike
          exact ih ⟨false, waiting, random, rfl, ahead⟩ parked parked'

theorem Alike.tick (alike : machine.Alike other) : machine.tick.Alike other.tick := by
  obtain ⟨draw, waiting, random, rfl, ahead⟩ := alike
  exact ⟨draw, waiting, random, rfl, ahead⟩

theorem Alike.runFrame (alike : machine.Alike other) (parked : machine.Parked)
    (parked' : other.Parked) (cycles : Int) :
    (machine.runFrame tracing cycles).Alike (fun _ _ => True)
      (other.runFrame tracing' cycles) := by
  have ran : Outcome.Alike _ (Machine.runCycles tracing cycles.toNat false "" machine)
      (Machine.runCycles tracing' cycles.toNat false "" other) := alike.runCycles parked parked'
  rw [Machine.runFrame, Machine.runFrame]
  generalize Machine.runCycles tracing _ _ _ machine = outcome at ran ⊢
  generalize Machine.runCycles tracing' _ _ _ other = outcome' at ran ⊢
  obtain ⟨reached, result, text⟩ := outcome
  obtain ⟨reached', result', text'⟩ := outcome'
  obtain ⟨agree, alike⟩ := ran
  cases agree with
  | error fault => exact ⟨.error fault, alike⟩
  | ok => exact ⟨.ok trivial, alike.tick⟩

end Machine

/-- The operation neither carries out a word that was not fetched nor puts a program into memory. -/
def Operation.Regular : Operation → Prop
  | .perform _ | .load _ => False
  | _ => True

/-- The part of an answer that is compared. -/
def Operation.compared : Operation → Reply → Reply
  | .frame _, _ => .done
  | _, reply => reply

namespace Machine

variable {machine other : Machine} {tracing tracing' : Bool} {operation : Operation}

theorem Alike.apply (alike : machine.Alike other) (parked : machine.Parked)
    (parked' : other.Parked) (regular : operation.Regular) :
    (machine.apply tracing operation).Alike
      (fun reply reply' => operation.compared reply = operation.compared reply')
      (other.apply tracing' operation) := by
  cases operation with
  | step =>
      have stepped : (machine.step tracing).Alike Eq (other.step tracing') :=
        alike.step parked parked'
      exact (stepped.map fun _ _ same => congrArg Reply.verdict same).mapError Complaint.fault
  | perform | load => exact regular.elim
  | tick => exact ⟨.ok rfl, alike.tick⟩
  | reset =>
      obtain ⟨_, _, random, rfl, ahead⟩ := alike
      exact ⟨.ok rfl, powerOn_alike ahead⟩
  | setKey number down =>
      have updated : Agree Alike
          ((machine.keypad.set number down).map fun keypad => { machine with keypad })
          ((other.keypad.set number down).map fun keypad => { other with keypad }) := by
        obtain ⟨draw, waiting, random, rfl, ahead⟩ := alike
        exact Agree.map fun _ => ⟨draw, waiting, random, rfl, ahead⟩
      exact (Outcome.update_alike alike updated Reply.done).mapError Complaint.noSuchKey
  | handle event =>
      obtain ⟨press, goOn, same⟩ := handle_eq event
      obtain ⟨draw, waiting, random, rfl, ahead⟩ := alike
      rw [Machine.apply, Machine.apply, same, same]
      exact ⟨.ok rfl, draw, waiting, random, rfl, ahead⟩
  | frame cycles =>
      have ran : (machine.runFrame tracing cycles).Alike _ (other.runFrame tracing' cycles) :=
        alike.runFrame parked parked' cycles
      exact (ran.map fun _ _ _ => rfl).mapError Complaint.fault

end Machine

/-!
### Runs
-/

/-- What can be seen of an operation: how it ended, and a copy of the state after it. -/
structure Observation where
  result : Except Complaint Reply
  state : Snapshot

namespace Machine

variable {machine other : Machine} {tracing tracing' : Bool}

/-- What can be seen of operations that are performed one after the other, whether they are refused
or not. -/
def observations (machine : Machine) (tracing : Bool) : List Operation → List Observation
  | [] => []
  | operation :: rest =>
      let outcome := machine.apply tracing operation
      ⟨outcome.result.map operation.compared, outcome.machine.snapshot⟩ ::
        outcome.machine.observations tracing rest

/-- Nothing that is performed on parked machines that are alike can tell them apart. -/
theorem Alike.observations {operations : List Operation} (alike : machine.Alike other)
    (parked : machine.Parked) (parked' : other.Parked)
    (regular : ∀ operation ∈ operations, operation.Regular) :
    machine.observations tracing operations = other.observations tracing' operations := by
  induction operations generalizing machine other with
  | nil => rfl
  | cons operation rest ih =>
      obtain ⟨regular, later⟩ := List.forall_mem_cons.mp regular
      have applied : Outcome.Alike _ (machine.apply tracing operation)
          (other.apply tracing' operation) := alike.apply parked parked' regular
      have fetching : ∀ word, operation ≠ .perform word := by
        rintro word rfl
        exact regular
      have keeping : ∀ program, operation ≠ .load program := by
        rintro program rfl
        exact regular
      have seen : (machine.apply tracing operation).result.map operation.compared =
          (other.apply tracing' operation).result.map operation.compared :=
        applied.result.map_eq
      rw [Machine.observations, Machine.observations, seen, applied.machine.snapshot]
      congr 1
      apply ih applied.machine _ _ later
      · exact parked_apply parked fetching fun program loads => absurd loads (keeping program)
      · exact parked_apply parked' fetching fun program loads => absurd loads (keeping program)

/-- If two reachable machines have the same copy and their random sources will deliver the same
numbers, then whatever is performed on both ends in the same way and leaves the same copies,
operation by operation. -/
theorem snapshot_determines_future (reached : machine.ReachableUndisturbed)
    (reached' : other.ReachableUndisturbed) (same : machine.snapshot = other.snapshot)
    (ahead : machine.random.Alike other.random) (tracing tracing' : Bool)
    {operations : List Operation} (regular : ∀ operation ∈ operations, operation.Regular) :
    machine.observations tracing operations = other.observations tracing' operations :=
  (alike_of_snapshot same ahead).observations reached.parked reached'.parked regular

/-- A machine that is about to wait for a key, and the same machine after it waited in a frame of
one instruction.  Both flags differ, and nothing that is seen afterwards. -/
theorem snapshot_determines_future_waiting :
    let loaded := ((powerOn default).apply false (.load [0x00, 0xE0, 0xF0, 0x0A])).machine
    let cleared := (loaded.apply false .step).machine
    let waited := (cleared.apply false (.frame 1)).machine
    let operations : List Operation := [.step, .setKey 16 1, .setKey 7 1, .frame 3, .step]
    (cleared.draw = true ∧ waited.draw = false) ∧
      (cleared.waiting = false ∧ waited.waiting = true) ∧
      cleared.observations false operations = waited.observations true operations := by
  intro loaded cleared waited operations
  have start : loaded.ReachableUndisturbed :=
    (ReachableBy.start default).next false _ ⟨nofun, fun _ _ => rfl⟩
  have reached : cleared.ReachableUndisturbed := start.next false _ ⟨nofun, nofun⟩
  have reached' : waited.ReachableUndisturbed := reached.next false _ ⟨nofun, nofun⟩
  obtain ⟨drawn, going, untouched, fetched, delay, sound⟩ :
      cleared.draw = true ∧ cleared.waiting = false ∧
      (∀ key, cleared.keypad.isPressed key = false) ∧ cleared.fetch = .ok 0xF00A ∧
      cleared.delay = 0 ∧ cleared.sound = 0 := by decide +kernel
  have decoded : Instruction.decode 0xF00A = some (.awaitKey 0) := by decide
  have stepped : cleared.step false = ⟨{ cleared with waiting := true }, .ok false, ""⟩ :=
    step_of_done fetched decoded (congrArg Except.ok (takeKey_advanced 0 untouched))
  have waits : waited = { cleared with draw := false, waiting := true } := by
    change (cleared.runFrame false 1).machine = _
    rw [runFrame, Int.toNat_one, runCycles, stepped]
    simp [runCycles, tick, delay, sound]
  refine ⟨⟨drawn, congrArg Machine.draw waits⟩, ⟨going, congrArg Machine.waiting waits⟩, ?_⟩
  apply snapshot_determines_future reached reached'
  · rw [waits]
    rfl
  · rw [waits]
    exact fun _ => rfl
  · simp [operations, Operation.Regular]

end Machine

end ChipEight

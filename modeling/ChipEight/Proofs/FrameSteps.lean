/-
Module: ChipEight.Proofs.FrameSteps
Purpose: A frame does what as many plain steps do, although it takes down the drawing flag after
  each of them.
Main exports: Happening.draws, Machine.execute_flag, Machine.step_flag, Machine.afterSteps,
  Machine.afterSteps_flag, Machine.draw_afterSteps, Machine.runCycles_follows,
  Machine.frame_follows_steps
-/
import ChipEight.Proofs.Stalling
import ChipEight.Proofs.StepFaults

namespace ChipEight

open Result

/-!
### The drawing flag

An instruction raises the drawing flag or leaves it alone, and never looks at it.  So a machine with
another flag does the same, and its flag afterwards is known from the word alone.
-/

namespace Instruction

theorem draws_iff {word : UInt16} {instruction : Instruction}
    (decoded : decode word = some instruction) :
    instruction.draws = true ↔ Row.clearScreen.Applies word ∨ Row.draw.Applies word := by
  have applies := Row.applies_of_decode decoded
  rw [Row.applies_iff_eq applies, Row.applies_iff_eq applies]
  cases instruction <;> simp [draws, Row.ofInstruction]

end Instruction

/-- A word was carried out that clears the screen or draws on it. -/
def Happening.draws : Happening → Bool
  | executed word => Row.clearScreen.Applies word ∨ Row.draw.Applies word
  | _ => false

theorem Happening.draws_of_error {α : Type} (fetched : Except Fault UInt16) (fault : Fault) :
    (Happening.of fetched (.error fault : Except Fault α)).draws = false := by
  cases fetched with
  | error cause => rfl
  | ok word => rfl

namespace Machine

variable {machine : Machine} {tracing : Bool}

theorem execute_flag (machine : Machine) (instruction : Instruction) (draw : Bool) :
    Agree (fun after after' => after' = { after with draw := instruction.draws || draw })
      (machine.execute instruction).after ({ machine with draw }.execute instruction).after := by
  let given : Sidelines := { machine.sidelines with draw }
  have sees : instruction.SeesSame machine given := ⟨fun _ _ => rfl, fun _ _ _ => rfl⟩
  refine (execute_withSidelines sees).imp fun after _ related => ?_
  obtain ⟨kept, rfl⟩ := related
  have flag : instruction.sidelines machine given =
      { after.sidelines with draw := instruction.draws || draw } := by
    rw [kept]
    rfl
  exact congrArg after.withSidelines flag

/-- A step of a machine with another flag ends in the same way, and its flag was raised only if the
word draws. -/
theorem step_flag (machine : Machine) (tracing draw : Bool) :
    let outcome := machine.step tracing
    let raised := (Happening.of machine.fetch outcome.result).draws
    { machine with draw }.step tracing =
      { outcome with machine := { outcome.machine with draw := raised || draw } } := by
  cases fetched : machine.fetch with
  | error fault =>
      have fetched' : { machine with draw }.fetch = .error fault := fetched
      rw [step_of_unfetched fetched, step_of_unfetched fetched']
      rfl
  | ok word =>
      have fetched' : { machine with draw }.fetch = .ok word := fetched
      cases decoded : Instruction.decode word with
      | none =>
          rw [step_of_undecoded fetched decoded, step_of_undecoded fetched' decoded]
          rfl
      | some instruction =>
          have agree : Agree _ ((machine.advanced.execute instruction).after)
              (({ machine with draw }.advanced.execute instruction).after) :=
            execute_flag machine.advanced instruction draw
          generalize done : (machine.advanced.execute instruction).after = ran at agree
          generalize done' :
            ({ machine with draw }.advanced.execute instruction).after = ran' at agree
          cases agree with
          | error fault =>
              rw [step_of_refused fetched decoded done, step_of_refused fetched' decoded done']
              rfl
          | @ok after after' same =>
              have draws : (Happening.executed word).draws = instruction.draws := by
                rw [Bool.eq_iff_iff, Instruction.draws_iff decoded]
                exact decide_eq_true_iff
              rw [step_of_done fetched decoded done, step_of_done fetched' decoded done', same]
              simp only [Happening.of, draws]

/-!
### Plain steps
-/

/-- The machine after a number of steps, whether they end well or not. -/
def afterSteps (machine : Machine) (tracing : Bool) (count : Nat) : Machine :=
  machine.applyAll tracing (List.replicate count .step)

/-- A number of steps end well one after the other. -/
def ProceedsFor (machine : Machine) (tracing : Bool) (count : Nat) : Prop :=
  ∀ number < count, ∃ goOn, ((machine.afterSteps tracing number).step tracing).result = .ok goOn

/-- One of the words that are carried out in a number of steps clears the screen or draws on it. -/
def drawsWithin (machine : Machine) (tracing : Bool) (count : Nat) : Bool :=
  (machine.history tracing (List.replicate count .step)).any fun moment => moment.happening.draws

theorem afterSteps_succ (machine : Machine) (tracing : Bool) (count : Nat) :
    machine.afterSteps tracing (count + 1) =
      (machine.step tracing).machine.afterSteps tracing count :=
  rfl

theorem step_afterSteps (machine : Machine) (tracing : Bool) (count : Nat) :
    ((machine.afterSteps tracing count).step tracing).machine =
      machine.afterSteps tracing (count + 1) := by
  induction count generalizing machine with
  | zero => rfl
  | succ count ih =>
      rw [afterSteps_succ, afterSteps_succ]
      exact ih _

theorem proceedsFor_succ_iff {count : Nat} :
    machine.ProceedsFor tracing (count + 1) ↔
      (∃ goOn, (machine.step tracing).result = .ok goOn) ∧
        (machine.step tracing).machine.ProceedsFor tracing count :=
  Nat.forall_lt_succ_left

theorem drawsWithin_succ (machine : Machine) (tracing : Bool) (count : Nat) :
    machine.drawsWithin tracing (count + 1) =
      ((Happening.of machine.fetch (machine.step tracing).result).draws ||
        (machine.step tracing).machine.drawsWithin tracing count) :=
  rfl

/-- Steps of a machine with another flag. -/
theorem afterSteps_flag (machine : Machine) (tracing draw : Bool) (count : Nat) :
    { machine with draw }.afterSteps tracing count =
      { machine.afterSteps tracing count with
        draw := machine.drawsWithin tracing count || draw } := by
  induction count generalizing machine draw with
  | zero => rfl
  | succ count ih =>
      rw [afterSteps_succ, step_flag, ih, afterSteps_succ, drawsWithin_succ, Bool.or_assoc,
        Bool.or_left_comm]

/-- Plain steps raise the flag and never take it down. -/
theorem draw_afterSteps (machine : Machine) (tracing : Bool) (count : Nat) :
    (machine.afterSteps tracing count).draw =
      (machine.drawsWithin tracing count || machine.draw) :=
  congrArg Machine.draw (machine.afterSteps_flag tracing machine.draw count)

theorem proceedsFor_flag_iff (draw : Bool) {count : Nat} :
    { machine with draw }.ProceedsFor tracing count ↔ machine.ProceedsFor tracing count := by
  simp only [ProceedsFor, afterSteps_flag, step_flag]

/-- The machine stands on a word that clears the screen or draws on it. -/
def AboutToDraw (machine : Machine) : Prop :=
  ∃ word, machine.fetch = .ok word ∧ (Row.clearScreen.Applies word ∨ Row.draw.Applies word)

theorem draws_iff_aboutToDraw {goOn : Bool} (done : (machine.step tracing).result = .ok goOn) :
    (Happening.of machine.fetch (machine.step tracing).result).draws = true ↔
      machine.AboutToDraw := by
  obtain ⟨word, fetched, executed⟩ := happening_of_ok done
  rw [executed, Happening.draws, decide_eq_true_iff, AboutToDraw, fetched]
  constructor
  · intro draws
    exact ⟨word, rfl, draws⟩
  · rintro ⟨_, same, draws⟩
    cases same
    exact draws

variable {count passed : Nat}

/-- If all steps end well, the words that they carry out are those on which the machine stands. -/
theorem drawsWithin_iff (proceeds : machine.ProceedsFor tracing count) :
    machine.drawsWithin tracing count = true ↔
      ∃ number < count, (machine.afterSteps tracing number).AboutToDraw := by
  induction count generalizing machine with
  | zero => simp [drawsWithin, history]
  | succ count ih =>
      obtain ⟨⟨goOn, done⟩, later⟩ := proceedsFor_succ_iff.mp proceeds
      rw [drawsWithin_succ, Bool.or_eq_true, draws_iff_aboutToDraw done, ih later,
        Nat.exists_lt_succ_left]
      rfl

/-!
### Cycles

A frame takes down the flag after each cycle and keeps it in its answer.  So behind the first cycle
the machine differs from the one after plain steps in the flag only.
-/

/-- As long as the steps end well, the cycles of a frame follow them. -/
theorem runCycles_follows (proceeds : machine.ProceedsFor tracing (passed + 1)) (rest : Nat)
    (redraw : Bool) (printed : String) :
    ∃ printed', runCycles tracing (passed + 1 + rest) redraw printed machine =
      runCycles tracing rest (redraw || (machine.afterSteps tracing (passed + 1)).draw) printed'
        { machine.afterSteps tracing (passed + 1) with draw := false } := by
  induction passed generalizing machine redraw printed with
  | zero =>
      obtain ⟨⟨goOn, done⟩, _⟩ := proceedsFor_succ_iff.mp proceeds
      rw [Nat.zero_add, Nat.add_comm, runCycles, done]
      exact ⟨_, rfl⟩
  | succ passed ih =>
      obtain ⟨⟨goOn, done⟩, later⟩ := proceedsFor_succ_iff.mp proceeds
      have lowered := (proceedsFor_flag_iff false).mpr later
      obtain ⟨printed', same⟩ := ih lowered (redraw || (machine.step tracing).machine.draw)
        (printed ++ (machine.step tracing).printed)
      refine ⟨printed', ?_⟩
      rw [Nat.add_right_comm, runCycles, done]
      refine same.trans ?_
      rw [afterSteps_flag, afterSteps_succ machine, draw_afterSteps (machine.step tracing).machine]
      simp [Bool.or_assoc, Bool.or_comm]

/-!
### Frames
-/

/-- The tick at the end of a frame has no influence on its answer. -/
theorem runFrame_result (machine : Machine) (tracing : Bool) (cycles : Int) :
    (machine.runFrame tracing cycles).result =
      (runCycles tracing cycles.toNat false "" machine).result := by
  rw [runFrame]
  split
  · rfl
  · rfl

/-- A frame of steps that all end well. -/
theorem runFrame_of_proceedsFor {cycles : Int}
    (proceeds : machine.ProceedsFor tracing cycles.toNat) :
    (∃ redraw, (machine.runFrame tracing cycles).result = .ok redraw ∧
      (redraw = true ↔ 0 < cycles.toNat ∧ (machine.draw = true ∨
        ∃ number < cycles.toNat, (machine.afterSteps tracing number).AboutToDraw))) ∧
      (machine.runFrame tracing cycles).machine =
        (if 0 < cycles.toNat then { machine.afterSteps tracing cycles.toNat with draw := false }
          else machine).tick := by
  rw [runFrame]
  generalize cycles.toNat = count at proceeds ⊢
  cases count with
  | zero => exact ⟨⟨false, rfl, by simp⟩, rfl⟩
  | succ count =>
      obtain ⟨printed, same⟩ := runCycles_follows proceeds 0 false ""
      rw [Nat.add_zero] at same
      rw [same, if_pos (Nat.succ_pos count)]
      refine ⟨⟨_, rfl, ?_⟩, rfl⟩
      rw [Bool.false_or, draw_afterSteps, Bool.or_eq_true, drawsWithin_iff proceeds, or_comm]
      exact (and_iff_right (Nat.succ_pos count)).symm

/-- A frame with a step that fails. -/
theorem runFrame_of_failed {cycles : Int} {fault : Fault} (early : passed < cycles.toNat)
    (proceeds : machine.ProceedsFor tracing passed)
    (failed : ((machine.afterSteps tracing passed).step tracing).result = .error fault) :
    (machine.runFrame tracing cycles).result = .error fault ∧
      (machine.runFrame tracing cycles).machine =
        if 0 < passed then { machine.afterSteps tracing (passed + 1) with draw := false }
        else machine.afterSteps tracing (passed + 1) := by
  obtain ⟨rest, total⟩ : ∃ rest, cycles.toNat = passed + (rest + 1) :=
    ⟨cycles.toNat - passed - 1, by omega⟩
  rw [runFrame, total]
  cases passed with
  | zero =>
      have failed' : (machine.step tracing).result = .error fault := failed
      rw [Nat.zero_add, runCycles, failed']
      exact ⟨rfl, rfl⟩
  | succ passed =>
      obtain ⟨printed, same⟩ := runCycles_follows proceeds (rest + 1) false ""
      rw [same, runCycles, step_flag, failed, Happening.draws_of_error, step_afterSteps,
        if_pos (Nat.succ_pos passed)]
      exact ⟨rfl, rfl⟩

/-!
### Frames without progress

A machine that waits for a key in vain stands on the same word in every cycle.
-/

section Stalled

variable {word : UInt16} {x : Register}

theorem afterSteps_stalled (fetched : machine.fetch = .ok word)
    (decoded : Instruction.decode word = some (.awaitKey x))
    (untouched : machine.keypad.untouched = true) (count : Nat) :
    machine.afterSteps tracing (count + 1) = { machine with waiting := true } := by
  have stalled : (machine.step tracing).machine = _ := (step_stalled fetched decoded untouched).2
  induction count generalizing machine with
  | zero => exact stalled
  | succ count ih =>
      have fetched' : { machine with waiting := true }.fetch = .ok word := fetched
      rw [afterSteps_succ, stalled]
      exact ih fetched' untouched (step_stalled fetched' decoded untouched).2

theorem proceedsFor_stalled (fetched : machine.fetch = .ok word)
    (decoded : Instruction.decode word = some (.awaitKey x))
    (untouched : machine.keypad.untouched = true) (count : Nat) :
    machine.ProceedsFor tracing count := by
  intro number _
  cases number with
  | zero => exact ⟨false, (step_stalled fetched decoded untouched).1⟩
  | succ number =>
      rw [afterSteps_stalled fetched decoded untouched]
      have fetched' : { machine with waiting := true }.fetch = .ok word := fetched
      exact ⟨false, (step_stalled fetched' decoded untouched).1⟩

theorem cycleMoments_stalled (fetched : machine.fetch = .ok word)
    (decoded : Instruction.decode word = some (.awaitKey x))
    (untouched : machine.keypad.untouched = true) (cycles : Nat) :
    (cycleMoments tracing cycles machine).map Moment.happening =
      List.replicate cycles (.executed word) := by
  induction cycles generalizing machine with
  | zero => rfl
  | succ cycles ih =>
      obtain ⟨waits, stalled⟩ :
          (machine.step tracing).result = _ ∧ (machine.step tracing).machine = _ :=
        step_stalled fetched decoded untouched
      rw [cycleMoments, waits, stalled, fetched, List.replicate_succ, ← ih]
      · rfl
      · exact fetched
      · exact untouched

/-- A frame without progress carries out the word in each of its cycles, and lets the timers
tick. -/
theorem frameMoments_stalled (fetched : machine.fetch = .ok word)
    (decoded : Instruction.decode word = some (.awaitKey x))
    (untouched : machine.keypad.untouched = true) (cycles : Int) :
    (machine.frameMoments tracing cycles).map Moment.happening =
      List.replicate cycles.toNat (.executed word) ++ [.ticked] := by
  obtain ⟨⟨redraw, done, _⟩, _⟩ :=
    runFrame_of_proceedsFor (proceedsFor_stalled fetched decoded untouched cycles.toNat)
  have ended : (runCycles tracing cycles.toNat false "" machine).result = .ok redraw := by
    rw [← runFrame_result]
    exact done
  rw [frameMoments, ended, List.map_append, cycleMoments_stalled fetched decoded untouched]
  rfl

theorem runFrame_stalled (fetched : machine.fetch = .ok word)
    (decoded : Instruction.decode word = some (.awaitKey x))
    (untouched : machine.keypad.untouched = true) (cycles : Int) :
    (machine.runFrame tracing cycles).machine =
      (if 0 < cycles.toNat then { machine with waiting := true, draw := false }
        else machine).tick := by
  have proceeds : machine.ProceedsFor tracing cycles.toNat :=
    proceedsFor_stalled fetched decoded untouched cycles.toNat
  rw [(runFrame_of_proceedsFor proceeds).2]
  cases cycles.toNat with
  | zero => rfl
  | succ count => rw [afterSteps_stalled fetched decoded untouched]

end Stalled

/-- A frame does what plain steps do, as many as it has cycles.

If these steps end well, so does the frame.  It leaves the machine after the steps with the timers
ticked once and, unless there was no cycle, with the drawing flag down.  It asks for a picture
exactly if it has cycles and the flag was up before, or one of the words cleared the screen or drew
on it.  If one of the steps is the first to fail, the frame fails in the same way and leaves what
this step leaves, without a tick, and with the flag down if there was a cycle before.  A frame whose
machine waits for a key in vain carries out the same word in every cycle, and the timers tick. -/
theorem frame_follows_steps (machine : Machine) (tracing : Bool) (cycles : Int) :
    let count := cycles.toNat
    let after (number : Nat) := machine.afterSteps tracing number
    let frame := machine.runFrame tracing cycles
    ((∀ number < count, ∃ goOn, ((after number).step tracing).result = .ok goOn) →
      (∃ redraw, frame.result = .ok redraw ∧
        (redraw = true ↔
          0 < count ∧ (machine.draw = true ∨ ∃ number < count, (after number).AboutToDraw))) ∧
      frame.machine = (if 0 < count then { after count with draw := false } else machine).tick) ∧
    (∀ (passed : Nat) (fault : Fault), passed < count →
      (∀ number < passed, ∃ goOn, ((after number).step tracing).result = .ok goOn) →
      ((after passed).step tracing).result = .error fault →
      frame.result = .error fault ∧
      frame.machine =
        if 0 < passed then { after (passed + 1) with draw := false } else after (passed + 1)) ∧
    (∀ word : UInt16, machine.fetch = .ok word → Row.awaitKey.Applies word →
      machine.keypad.untouched = true →
      (machine.frameMoments tracing cycles).map Moment.happening =
        List.replicate count (.executed word) ++ [.ticked] ∧
      frame.machine =
        (if 0 < count then { machine with waiting := true, draw := false } else machine).tick) := by
  intro count after frame
  refine ⟨runFrame_of_proceedsFor, ?_, ?_⟩
  · intro passed fault early proceeds failed
    exact runFrame_of_failed early proceeds failed
  · intro word fetched awaits untouched
    have decoded : Instruction.decode word = some (.awaitKey (Instruction.x word)) :=
      Row.decode_of_applies awaits
    exact ⟨frameMoments_stalled fetched decoded untouched cycles,
      runFrame_stalled fetched decoded untouched cycles⟩

/-- The program `00E0`, `6005`, `00EE`, whose third word fails: a frame of two cycles asks for a
picture and ticks, and a longer one fails with the flag down and does not tick. -/
theorem frame_follows_steps_failing :
    let machine := { started [0x00, 0xE0, 0x60, 0x05, 0x00, 0xEE] with delay := 7 }
    let short := machine.runFrame false 2
    let long := machine.runFrame false 5
    short.result = .ok true ∧ short.machine.delay = 6 ∧
      long.result = .error .stackUnderflow ∧ long.machine.delay = 7 ∧
      (machine.afterSteps false 3).draw = true ∧ long.machine.draw = false := by
  intro machine short long
  obtain ⟨proceeds, clears, failed, drawn, delay, delay'⟩ :
      (∀ number < 2, ((machine.afterSteps false number).step false).result = .ok true) ∧
        machine.fetch = .ok 0x00E0 ∧
        ((machine.afterSteps false 2).step false).result = .error .stackUnderflow ∧
        (machine.afterSteps false 3).draw = true ∧ (machine.afterSteps false 2).tick.delay = 6 ∧
        (machine.afterSteps false 3).delay = 7 := by decide +kernel
  obtain ⟨well, _, _⟩ := frame_follows_steps machine false 2
  obtain ⟨_, fails, _⟩ := frame_follows_steps machine false 5
  obtain ⟨⟨redraw, done, asked⟩, reached⟩ := well fun number inside =>
    ⟨true, proceeds number inside⟩
  obtain ⟨refused, reached'⟩ := fails 2 .stackUnderflow (by decide)
    (fun number inside => ⟨true, proceeds number inside⟩) failed
  have draws : machine.AboutToDraw := ⟨0x00E0, clears, .inl (by decide)⟩
  have asks : redraw = true := asked.mpr ⟨by decide, .inr ⟨0, by decide, draws⟩⟩
  rw [asks] at done
  refine ⟨done, ?_, refused, ?_, drawn, ?_⟩
  · exact (congrArg Machine.delay reached).trans delay
  · exact (congrArg Machine.delay reached').trans delay'
  · exact congrArg Machine.draw reached'

end Machine

end ChipEight

/-
Module: ChipEight.Proofs.Pacing
Purpose: A program that does not read the delay timer cannot tell how its words were divided into
  frames.
Main exports: Machine.SameButTimers, Machine.execute_sameButTimers, Deaf, InStep,
  Machine.runCycles_inStep, Machine.runFrames, Machine.framesMoments, Machine.runFrames_inStep,
  Machine.history_frames, Machine.pacing_independent
-/
import ChipEight.Proofs.History
import Mathlib.Algebra.GroupWithZero.Nat

namespace ChipEight

open Result

/-!
### One word

Frames decide when the timers tick and nothing else.  The timers are read by a single row of the
instruction table, so no other word hands a difference between them on to the rest of the machine.
-/

namespace Machine

variable {machine other : Machine} {tracing tracing' : Bool}

/-- The machines differ at most in their timers. -/
def SameButTimers (machine other : Machine) : Prop :=
  ∃ delay sound, other = { machine with delay, sound }

theorem SameButTimers.refl (machine : Machine) : machine.SameButTimers machine :=
  ⟨machine.delay, machine.sound, rfl⟩

theorem SameButTimers.symm (same : machine.SameButTimers other) : other.SameButTimers machine := by
  obtain ⟨_, _, rfl⟩ := same
  exact ⟨machine.delay, machine.sound, rfl⟩

theorem SameButTimers.trans {third : Machine} (same : machine.SameButTimers other)
    (same' : other.SameButTimers third) : machine.SameButTimers third := by
  obtain ⟨_, _, rfl⟩ := same
  obtain ⟨delay, sound, rfl⟩ := same'
  exact ⟨delay, sound, rfl⟩

theorem sameButTimers_tick (machine : Machine) : machine.SameButTimers machine.tick :=
  ⟨_, _, rfl⟩

/-- An instruction that does not read the delay timer does the same to both machines. -/
theorem execute_sameButTimers (same : machine.SameButTimers other) {instruction : Instruction}
    (deaf : ∀ x, instruction ≠ .readDelay x) :
    Agree SameButTimers (machine.execute instruction).after (other.execute instruction).after := by
  obtain ⟨delay, sound, rfl⟩ := same
  let given : Sidelines := { machine.sidelines with delay, sound }
  have sees : instruction.SeesSame machine given :=
    ⟨fun x reads => absurd reads (deaf x), fun _ _ _ => rfl⟩
  refine (execute_withSidelines sees).imp fun after _ related => ?_
  obtain ⟨kept, rfl⟩ := related
  have timers : instruction.sidelines machine given =
      { after.sidelines with
        delay := (instruction.sidelines machine given).delay
        sound := (instruction.sidelines machine given).sound } := by
    rw [kept]
    rfl
  exact ⟨_, _, congrArg after.withSidelines timers⟩

end Machine

/-!
### Two runs

The words of both runs are the same until one of them reads the delay timer.  That one is carried
out in both, so it cannot be that only one of the runs has read the timer.
-/

/-- A word was carried out that reads the delay timer. -/
def Happening.ReadsDelay : Happening → Prop
  | executed word => Row.readDelay.Applies word
  | _ => False

instance : DecidablePred Happening.ReadsDelay
  | .executed word => inferInstanceAs (Decidable (Row.readDelay.Applies word))
  | .ticked | .restarted | .other => isFalse id

/-- No word of a history has read the delay timer. -/
def Deaf (history : List Moment) : Prop :=
  ∀ moment ∈ history, ¬ moment.happening.ReadsDelay

instance (history : List Moment) : Decidable (Deaf history) :=
  inferInstanceAs (Decidable (∀ moment ∈ history, _))

theorem deaf_append {past later : List Moment} : Deaf (past ++ later) ↔ Deaf past ∧ Deaf later :=
  List.forall_mem_append

theorem deaf_singleton {moment : Moment} : Deaf [moment] ↔ ¬ moment.happening.ReadsDelay :=
  List.forall_mem_singleton

/-- Of two runs, each with its history, one has read the delay timer if and only if the other has.
If they have not, they end in the same way, on machines that differ in their timers only. -/
structure InStep {α β : Type} (related : α → β → Prop) (history : List Moment)
    (outcome : Outcome Fault α) (history' : List Moment) (outcome' : Outcome Fault β) : Prop where
  deaf_iff : Deaf history ↔ Deaf history'
  result (deaf : Deaf history) : Agree related outcome.result outcome'.result
  machine (deaf : Deaf history) : outcome.machine.SameButTimers outcome'.machine

namespace InStep

variable {α β : Type} {related : α → β → Prop} {outcome : Outcome Fault α}
  {outcome' : Outcome Fault β} {past past' later later' : List Moment}

/-- Runs that begin with histories in which the timer is read at the same time need only be compared
if it is not. -/
theorem append (deaf_iff : Deaf past ↔ Deaf past')
    (inStep : Deaf past → InStep related later outcome later' outcome') :
    InStep related (past ++ later) outcome (past' ++ later') outcome' where
  deaf_iff := by
    rw [deaf_append, deaf_append, ← deaf_iff]
    exact and_congr_right fun deaf => (inStep deaf).deaf_iff
  result deaf := (inStep (deaf_append.mp deaf).1).result (deaf_append.mp deaf).2
  machine deaf := (inStep (deaf_append.mp deaf).1).machine (deaf_append.mp deaf).2

theorem cons {moment moment' : Moment} (same : moment.happening = moment'.happening)
    (inStep : ¬ moment.happening.ReadsDelay → InStep related later outcome later' outcome') :
    InStep related (moment :: later) outcome (moment' :: later') outcome' := by
  have deaf_iff : Deaf [moment] ↔ Deaf [moment'] := by
    rw [deaf_singleton, deaf_singleton, same]
  exact append deaf_iff fun deaf => inStep (deaf_singleton.mp deaf)

end InStep

namespace Machine

variable {machine other : Machine}

/-- A step meets the same word on both machines and ends in the same way.  What a word that reads
the delay timer stores may differ. -/
theorem step_inStep (same : machine.SameButTimers other) (tracing tracing' : Bool) :
    let happening := Happening.of machine.fetch (machine.step tracing).result
    happening = .of other.fetch (other.step tracing').result ∧
      Agree Eq (machine.step tracing).result (other.step tracing').result ∧
      (¬ happening.ReadsDelay →
        (machine.step tracing).machine.SameButTimers (other.step tracing').machine) := by
  obtain ⟨fetch, pc⟩ : machine.fetch = other.fetch ∧ machine.pc = other.pc := by
    obtain ⟨_, _, rfl⟩ := same
    exact ⟨rfl, rfl⟩
  have advanced : machine.advanced.SameButTimers other.advanced := by
    obtain ⟨delay, sound, rfl⟩ := same
    exact ⟨delay, sound, rfl⟩
  rw [← fetch]
  cases fetched : machine.fetch with
  | error fault =>
      rw [step_of_unfetched fetched, step_of_unfetched (fetch.symm.trans fetched)]
      exact ⟨rfl, .error fault, fun _ => same⟩
  | ok word =>
      have fetched' : other.fetch = .ok word := fetch.symm.trans fetched
      cases decoded : Instruction.decode word with
      | none =>
          rw [step_of_undecoded fetched decoded, step_of_undecoded fetched' decoded, pc]
          exact ⟨rfl, .error _, fun _ => same⟩
      | some instruction =>
          by_cases reads : ∃ x, instruction = .readDelay x
          · obtain ⟨x, rfl⟩ := reads
            rw [step_of_done fetched decoded rfl, step_of_done fetched' decoded rfl]
            obtain ⟨_, _, rfl⟩ := same
            exact ⟨rfl, .ok rfl, fun deaf => absurd (Row.applies_of_decode decoded) deaf⟩
          have agree := execute_sameButTimers advanced fun x equal => reads ⟨x, equal⟩
          generalize done : (machine.advanced.execute instruction).after = ran at agree
          generalize done' : (other.advanced.execute instruction).after = ran' at agree
          cases agree with
          | error fault =>
              rw [step_of_refused fetched decoded done, step_of_refused fetched' decoded done']
              exact ⟨rfl, .error fault, fun _ => advanced⟩
          | @ok after after' same =>
              have waiting : after.waiting = after'.waiting := by
                obtain ⟨_, _, rfl⟩ := same
                rfl
              rw [step_of_done fetched decoded done, step_of_done fetched' decoded done', waiting]
              exact ⟨rfl, .ok rfl, fun _ => same⟩

/-!
### Cycles
-/

/-- Cycles that are run on both machines keep them in step.  A run that was to be drawn anyway, as
`flag` says, asks for a picture in any case. -/
theorem runCycles_inStep (same : machine.SameButTimers other) (tracing tracing' : Bool)
    (cycles : Nat) (flag redraw : Bool) (printed printed' : String) :
    InStep (fun asked asked' => asked = (flag || asked'))
      (cycleMoments tracing cycles machine)
      (runCycles tracing cycles (flag || redraw) printed machine)
      (cycleMoments tracing' cycles other) (runCycles tracing' cycles redraw printed' other) := by
  induction cycles generalizing machine other redraw printed printed' with
  | zero => exact ⟨Iff.rfl, fun _ => .ok rfl, fun _ => same⟩
  | succ cycles ih =>
      obtain ⟨happening, agree, alike⟩ := step_inStep same tracing tracing'
      dsimp only [cycleMoments, runCycles]
      rw [← happening]
      generalize Happening.of machine.fetch _ = happening at alike ⊢
      generalize machine.step tracing = outcome at agree alike ⊢
      generalize other.step tracing' = outcome' at agree alike ⊢
      obtain ⟨reached, result, text⟩ := outcome
      obtain ⟨reached', result', text'⟩ := outcome'
      cases agree with
      | error fault =>
          exact .cons rfl fun deaf => ⟨Iff.rfl, fun _ => .error fault, fun _ => alike deaf⟩
      | ok =>
          refine .cons rfl fun deaf => ?_
          obtain ⟨delay, sound, rfl⟩ := alike deaf
          rw [Bool.or_assoc]
          exact ih ⟨delay, sound, rfl⟩ _ _ _

/-- Cycles that were run in one go could have been run in two. -/
theorem runCycles_add (machine : Machine) (tracing : Bool) (first second : Nat) (redraw : Bool)
    (printed : String) :
    runCycles tracing (first + second) redraw printed machine =
      let outcome := runCycles tracing first redraw printed machine
      match outcome.result with
      | .error _ => outcome
      | .ok asked => runCycles tracing second asked outcome.printed outcome.machine := by
  induction first generalizing machine redraw printed with
  | zero =>
      rw [Nat.zero_add]
      rfl
  | succ first ih =>
      rw [Nat.succ_add, runCycles, runCycles]
      cases stepped : (machine.step tracing).result with
      | error fault => rfl
      | ok goOn => exact ih _ _ _

theorem cycleMoments_add (machine : Machine) (tracing : Bool) (first second : Nat) (redraw : Bool)
    (printed : String) :
    cycleMoments tracing (first + second) machine =
      let outcome := runCycles tracing first redraw printed machine
      cycleMoments tracing first machine ++
        match outcome.result with
        | .error _ => []
        | .ok _ => cycleMoments tracing second outcome.machine := by
  induction first generalizing machine redraw printed with
  | zero =>
      rw [Nat.zero_add]
      rfl
  | succ first ih =>
      rw [Nat.succ_add, runCycles, cycleMoments, cycleMoments]
      cases stepped : (machine.step tracing).result with
      | error fault => rfl
      | ok goOn => exact congrArg (List.cons _) (ih _ _ _)

/-!
### Frames
-/

/-- Run frames of the given numbers of cycles one after the other, up to the first one that fails.
The result tells for each frame whether the picture had to be drawn again after it. -/
def runFrames (tracing : Bool) : List Nat → Machine → Outcome Fault (List Bool)
  | [], machine => .succeed machine []
  | cycles :: rest, machine =>
      let outcome := machine.runFrame tracing cycles
      match outcome.result with
      | .error fault => ⟨outcome.machine, .error fault, outcome.printed⟩
      | .ok redraw =>
          let later := runFrames tracing rest outcome.machine
          ⟨later.machine, later.result.map (redraw :: ·), outcome.printed ++ later.printed⟩

/-- The moments of frames that are run one after the other, up to the first one that fails. -/
def framesMoments (tracing : Bool) : List Nat → Machine → List Moment
  | [], _ => []
  | cycles :: rest, machine =>
      let outcome := machine.runFrame tracing cycles
      machine.frameMoments tracing cycles ++
        match outcome.result with
        | .error _ => []
        | .ok _ => framesMoments tracing rest outcome.machine

/-- Frames are in step with as many cycles that are run in one go. -/
theorem runFrames_inStep (same : machine.SameButTimers other) (tracing tracing' : Bool)
    (counts : List Nat) (flag : Bool) (printed : String) :
    InStep (fun asked redraws => asked = (flag || redraws.any id))
      (cycleMoments tracing counts.sum machine)
      (runCycles tracing counts.sum flag printed machine)
      (framesMoments tracing' counts other) (runFrames tracing' counts other) := by
  induction counts generalizing machine other flag printed with
  | nil => exact ⟨Iff.rfl, fun _ => .ok (Bool.or_false flag).symm, fun _ => same⟩
  | cons cycles rest ih =>
      have first := runCycles_inStep same tracing tracing' cycles flag false printed ""
      rw [List.sum_cons, runCycles_add, cycleMoments_add machine tracing cycles _ flag printed,
        framesMoments, runFrames, frameMoments, runFrame]
      rw [Bool.or_false] at first
      dsimp only [Int.toNat_natCast]
      generalize runCycles tracing cycles flag printed machine = outcome at first ⊢
      generalize runCycles tracing' cycles false "" other = outcome' at first ⊢
      rw [List.append_assoc]
      refine .append first.deaf_iff fun deaf => ?_
      have agree := first.result deaf
      have alike := first.machine deaf
      obtain ⟨reached, result, text⟩ := outcome
      obtain ⟨reached', result', text'⟩ := outcome'
      cases agree with
      | error fault => exact ⟨Iff.rfl, fun _ => .error fault, fun _ => alike⟩
      | @ok asked asked' request =>
          have later := ih (alike.trans reached'.sameButTimers_tick) asked text
          refine ⟨later.deaf_iff.trans ?_, fun deaf => ?_, later.machine⟩
          · -- The tick that ends the frame does not read the timer.
            exact (deaf_append.trans (and_iff_right (deaf_singleton.mpr id))).symm
          · refine (later.result deaf).map_right fun asked redraws requests => ?_
            rw [requests, request, Bool.or_assoc]
            rfl

/-- As long as no frame fails these are the moments of the whole history. -/
theorem history_frames {counts : List Nat} {redraws : List Bool} {tracing : Bool}
    (done : (runFrames tracing counts machine).result = .ok redraws) :
    machine.history tracing (counts.map fun cycles : Nat => .frame cycles) =
      framesMoments tracing counts machine := by
  induction counts generalizing machine redraws with
  | nil => rfl
  | cons cycles rest ih =>
      rw [runFrames] at done
      rw [List.map_cons, history, framesMoments]
      cases ran : (machine.runFrame tracing cycles).result with
      | error fault =>
          simp only [ran] at done
          cases done
      | ok redraw =>
          simp only [ran] at done ⊢
          obtain ⟨_, later, _⟩ := map_eq_ok_iff.mp done
          exact congrArg _ (ih later)

/-- Let a machine run frames one after the other, and let none of them fail and none of their words
read the delay timer.  Then frames of other lengths with as many cycles in all do not fail either,
and leave the same machine except for the timers.  The picture has to be drawn again in one of them
if and only if it had to in one of the others. -/
theorem pacing_independent (machine : Machine) (tracing tracing' : Bool) {counts counts' : List Nat}
    {redraws : List Bool} (sameSum : counts.sum = counts'.sum)
    (done : (runFrames tracing counts machine).result = .ok redraws)
    (deaf : Deaf (machine.history tracing (counts.map fun cycles : Nat => .frame cycles))) :
    ∃ redraws', (runFrames tracing' counts' machine).result = .ok redraws' ∧
      redraws'.any id = redraws.any id ∧
      (runFrames tracing counts machine).machine.SameButTimers
        (runFrames tracing' counts' machine).machine := by
  have frames := runFrames_inStep (.refl machine) tracing tracing counts false ""
  have frames' := runFrames_inStep (.refl machine) tracing tracing' counts' false ""
  rw [sameSum] at frames
  rw [history_frames done] at deaf
  have quiet := frames.deaf_iff.mpr deaf
  have agree := frames.result quiet
  have agree' := frames'.result quiet
  have reached : SameButTimers _ _ := (frames.machine quiet).symm.trans (frames'.machine quiet)
  rw [done] at agree
  generalize (runCycles tracing counts'.sum false "" machine).result = ran at agree agree'
  generalize (runFrames tracing' counts' machine).result = ran' at agree' ⊢
  cases agree with
  | ok asked =>
      cases agree' with
      | ok asked' => exact ⟨_, rfl, asked'.symm.trans asked, reached⟩

/-- The program `6005`, `F015`, `00E0` in three frames of one word each and in one frame of three
words.  The timer is set in the second frame, so two ticks follow it in the one case and one tick in
the other. -/
theorem pacing_independent_three :
    let loaded := started [0x60, 0x05, 0xF0, 0x15, 0x00, 0xE0]
    let slow := runFrames false [1, 1, 1] loaded
    let fast := runFrames false [3] loaded
    slow.result = .ok [false, false, true] ∧
      Deaf (loaded.history false [.frame 1, .frame 1, .frame 1]) ∧
      slow.machine.delay = 3 ∧ fast.machine.delay = 4 ∧
      ∃ redraws, fast.result = .ok redraws ∧ redraws.any id = true ∧
        slow.machine.SameButTimers fast.machine := by
  intro loaded slow fast
  obtain ⟨done, deaf, threeLeft, fourLeft⟩ :
      slow.result = .ok [false, false, true] ∧
        Deaf (loaded.history false [.frame 1, .frame 1, .frame 1]) ∧
        slow.machine.delay = 3 ∧ fast.machine.delay = 4 := by decide +kernel
  have sameSum : [1, 1, 1].sum = [3].sum := rfl
  exact ⟨done, deaf, threeLeft, fourLeft,
    pacing_independent loaded false false sameSum done deaf⟩

end Machine

end ChipEight

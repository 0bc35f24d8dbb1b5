/-
Module: ChipEight.Proofs.History
Purpose: The life of a machine moment by moment, with what happens inside of frames, and all that
  one moment can do to a machine.
Main exports: Happening, Moment, Machine.cycleMoments, Machine.moments, Machine.applyAll,
  Machine.history, Machine.reached, Machine.Becomes, Machine.step_becomes, Machine.Leads,
  Machine.history_leads, Machine.Leads.last, Machine.Leads.reached_of_prefix
-/
import ChipEight.Proofs.Conformance
import ChipEight.Proofs.Reachability

namespace ChipEight

open Result

/-!
### Moments

An operation may do many things: a frame carries out a number of words and then lets the timers
tick.  A history takes operations apart into moments at each of which one thing happens.
-/

/-- What happened to a machine. -/
inductive Happening where
  /-- A word was carried out. -/
  | executed (word : UInt16)
  /-- The timers ticked. -/
  | ticked
  /-- The machine was switched off and on. -/
  | restarted
  /-- Something that is no concern of the program: a word failed, or the surroundings touched the
  keypad or memory. -/
  | other
deriving Repr, Inhabited, DecidableEq

/-- What became of the attempt to carry out a word. -/
def Happening.of {α : Type} : Except Fault UInt16 → Except Fault α → Happening
  | .ok word, .ok _ => executed word
  | _, _ => other

/-- Something that happened to a machine, with the machine before and after it. -/
structure Moment where
  before : Machine
  happening : Happening
  after : Machine

namespace Machine

/-- The moments of the cycles of a frame, up to the first word that fails.  Taking down the drawing
flag belongs to the moment of the word. -/
def cycleMoments (tracing : Bool) : Nat → Machine → List Moment
  | 0, _ => []
  | cycles + 1, machine =>
      let outcome := machine.step tracing
      let happening := Happening.of machine.fetch outcome.result
      match outcome.result with
      | .error _ => [⟨machine, happening, outcome.machine⟩]
      | .ok _ =>
          let after := { outcome.machine with draw := false }
          ⟨machine, happening, after⟩ :: cycleMoments tracing cycles after

/-- The moments of a frame: those of its cycles, and a tick at the end if none of them failed. -/
def frameMoments (machine : Machine) (tracing : Bool) (cycles : Int) : List Moment :=
  let outcome := runCycles tracing cycles.toNat false "" machine
  cycleMoments tracing cycles.toNat machine ++
    match outcome.result with
    | .error _ => []
    | .ok _ => [⟨outcome.machine, .ticked, outcome.machine.tick⟩]

/-- The moments of an operation. -/
def moments (machine : Machine) (tracing : Bool) (operation : Operation) : List Moment :=
  let after := (machine.apply tracing operation).machine
  match operation with
  | .step => [⟨machine, .of machine.fetch (machine.step tracing).result, after⟩]
  | .perform word => [⟨machine, .of (.ok word) (machine.perform tracing word).result, after⟩]
  | .tick => [⟨machine, .ticked, after⟩]
  | .reset => [⟨machine, .restarted, after⟩]
  | .frame cycles => machine.frameMoments tracing cycles
  | .load _ | .setKey _ _ | .handle _ => [⟨machine, .other, after⟩]

/-- The machine after operations that are performed one after the other, whether they are refused or
not. -/
def applyAll (machine : Machine) (tracing : Bool) : List Operation → Machine
  | [] => machine
  | operation :: rest => (machine.apply tracing operation).machine.applyAll tracing rest

/-- The moments of operations that are performed one after the other, in the order of time. -/
def history (machine : Machine) (tracing : Bool) : List Operation → List Moment
  | [] => []
  | operation :: rest =>
      machine.moments tracing operation ++
        (machine.apply tracing operation).machine.history tracing rest

/-- The machine at the end of a part of its history. -/
def reached (machine : Machine) (past : List Moment) : Machine :=
  (past.getLast?.map Moment.after).getD machine

/-!
### What one moment can do

Everything that is said about histories below rests on this list.  A word that is carried out has
the effect of its row, wherever the program counter was put before, and perhaps with the drawing
flag taken down after it.
-/

/-- What a machine can become at one moment. -/
inductive Becomes (machine : Machine) : Happening → Machine → Prop where
  | executed {word : UInt16} {row : Row} {after : Machine} (pc : Int) (draw : Bool)
      (applies : row.Applies word)
      (effect : after.contents = { row.effect word { machine.contents with pc } with draw }) :
      Becomes machine (.executed word) after
  | ticked : Becomes machine .ticked machine.tick
  | restarted : Becomes machine .restarted machine.reset
  | other (pc : Int) (memory : Memory) (keypad : Keypad) :
      Becomes machine .other { machine with pc, memory, keypad }

variable {machine after start final : Machine} {tracing : Bool}

theorem Becomes.unchanged (machine : Machine) : machine.Becomes .other machine :=
  .other machine.pc machine.memory machine.keypad

/-- Taking down the drawing flag does not matter to a word. -/
theorem Becomes.lowered {word : UInt16} (becomes : machine.Becomes (.executed word) after) :
    machine.Becomes (.executed word) { after with draw := false } := by
  cases becomes with
  | executed pc draw applies effect =>
      refine .executed pc false applies ?_
      exact congrArg (fun contents : Contents => { contents with draw := false }) effect

theorem dispatch_becomes (machine : Machine) (tracing : Bool) (advance : Int) (word : UInt16) :
    let outcome := machine.dispatch tracing advance word
    machine.Becomes (.of (.ok word) outcome.result) outcome.machine := by
  cases decoded : Instruction.decode word with
  | none =>
      simp only [dispatch_of_undecoded decoded]
      exact .unchanged machine
  | some instruction =>
      have applies := Row.applies_of_decode decoded
      have same : instruction = (Row.ofInstruction instruction).instruction word :=
        Option.some.inj (decoded.symm.trans (Row.decode_of_applies applies))
      cases done : ({ machine with pc := machine.pc + advance }.execute instruction).after with
      | error fault =>
          simp only [dispatch_of_refused decoded done]
          exact .other _ machine.memory machine.keypad
      | ok after =>
          simp only [dispatch_of_done decoded done]
          rw [same] at done
          have reached : after.contents = Row.effect _ word
              { machine.contents with pc := machine.pc + advance } := Row.contents_execute done
          refine .executed (machine.pc + advance) after.draw applies ?_
          rw [← reached]
          rfl

theorem step_becomes (machine : Machine) (tracing : Bool) :
    machine.Becomes (.of machine.fetch (machine.step tracing).result)
      (machine.step tracing).machine := by
  cases fetched : machine.fetch with
  | error fault =>
      rw [step_of_unfetched fetched]
      exact .unchanged machine
  | ok word =>
      have becomes := machine.dispatch_becomes tracing 2 word
      rw [step, fetched]
      dsimp only [Outcome.map] at becomes ⊢
      generalize machine.dispatch tracing 2 word = outcome at becomes ⊢
      cases ended : outcome.result with
      | error fault =>
          rw [ended] at becomes
          exact becomes
      | ok done =>
          rw [ended] at becomes
          exact becomes

/-- A step that ends well has carried out the word that it fetched. -/
theorem happening_of_ok {goOn : Bool} (done : (machine.step tracing).result = .ok goOn) :
    ∃ word, machine.fetch = .ok word ∧
      Happening.of machine.fetch (machine.step tracing).result = .executed word := by
  obtain ⟨word, _, fetched, _⟩ := step_ok_iff.mp ⟨done, rfl⟩
  refine ⟨word, fetched, ?_⟩
  rw [fetched, done]
  rfl

/-!
### Histories without gaps
-/

/-- The moments lead from one machine to another: each begins with the machine that the one before
has left, and is one that can happen to it. -/
inductive Leads (start : Machine) : List Moment → Machine → Prop where
  | nothing : Leads start [] start
  | next {past : List Moment} {moment : Moment} (earlier : Leads start past moment.before)
      (becomes : moment.before.Becomes moment.happening moment.after) :
      Leads start (past ++ [moment]) moment.after

theorem Leads.single {happening : Happening} (becomes : machine.Becomes happening after) :
    machine.Leads [⟨machine, happening, after⟩] after := by
  have empty : machine.Leads [] (Moment.mk machine happening after).before := .nothing
  exact empty.next becomes

theorem Leads.append {past later : List Moment} (leads : start.Leads past machine)
    (leads' : machine.Leads later final) : start.Leads (past ++ later) final := by
  induction leads' with
  | nothing =>
      rw [List.append_nil]
      exact leads
  | next _ becomes ih =>
      rw [← List.append_assoc]
      exact ih.next becomes

theorem cycleMoments_leads (machine : Machine) (tracing : Bool) (cycles : Nat) (redraw : Bool)
    (printed : String) :
    machine.Leads (cycleMoments tracing cycles machine)
      (runCycles tracing cycles redraw printed machine).machine := by
  induction cycles generalizing machine redraw printed with
  | zero => exact .nothing
  | succ cycles ih =>
      have becomes := machine.step_becomes tracing
      rw [cycleMoments, runCycles]
      cases stepped : (machine.step tracing).result with
      | error fault =>
          simp only [stepped] at becomes ⊢
          exact .single becomes
      | ok goOn =>
          obtain ⟨word, _, executed⟩ := happening_of_ok stepped
          rw [executed] at becomes
          simp only [stepped] at executed ⊢
          rw [executed]
          exact (Leads.single becomes.lowered).append (ih _ _ _)

theorem frameMoments_leads (machine : Machine) (tracing : Bool) (cycles : Int) :
    machine.Leads (machine.frameMoments tracing cycles)
      (machine.runFrame tracing cycles).machine := by
  have ran := cycleMoments_leads machine tracing cycles.toNat false ""
  rw [frameMoments, runFrame]
  cases ended : (runCycles tracing cycles.toNat false "" machine).result with
  | error fault =>
      simp only [List.append_nil]
      exact ran
  | ok redraw => exact ran.append (.single .ticked)

theorem moments_leads (machine : Machine) (tracing : Bool) (operation : Operation) :
    machine.Leads (machine.moments tracing operation)
      (machine.apply tracing operation).machine := by
  cases operation with
  | step => exact .single (machine.step_becomes tracing)
  | perform word => exact .single (machine.dispatch_becomes tracing 0 word)
  | tick => exact .single .ticked
  | reset => exact .single .restarted
  | frame cycles => exact machine.frameMoments_leads tracing cycles
  | load program =>
      refine .single ?_
      rw [apply, load]
      cases machine.memory.load program with
      | error fault => exact .unchanged machine
      | ok memory => exact .other machine.pc memory machine.keypad
  | setKey number down =>
      refine .single ?_
      rw [apply]
      cases machine.keypad.set number down with
      | error complaint => exact .unchanged machine
      | ok keypad => exact .other machine.pc machine.memory keypad
  | handle event =>
      obtain ⟨press, _, same⟩ := handle_eq event
      refine .single ?_
      rw [apply, same]
      exact .other machine.pc machine.memory (press machine.keypad)

theorem history_leads (machine : Machine) (tracing : Bool) (operations : List Operation) :
    machine.Leads (machine.history tracing operations) (machine.applyAll tracing operations) := by
  induction operations generalizing machine with
  | nil => exact .nothing
  | cons operation rest ih => exact (machine.moments_leads tracing operation).append (ih _)

theorem Leads.reached_eq {past : List Moment} (leads : start.Leads past final) :
    start.reached past = final := by
  cases leads with
  | nothing => rfl
  | next => simp [reached]

theorem Leads.last {past : List Moment} {moment : Moment}
    (leads : start.Leads (past ++ [moment]) final) :
    start.Leads past moment.before ∧ moment.before.Becomes moment.happening moment.after := by
  generalize whole : past ++ [moment] = history at leads
  cases leads with
  | nothing => cases List.append_ne_nil_of_right_ne_nil past (List.cons_ne_nil moment []) whole
  | next earlier becomes =>
      obtain ⟨rfl, same⟩ := List.append_inj' whole rfl
      cases same
      exact ⟨earlier, becomes⟩

/-- Every part of a history that begins with it leads to a machine. -/
theorem Leads.reached_of_prefix {past history : List Moment} (leads : start.Leads history final)
    (part : past <+: history) : start.Leads past (start.reached past) := by
  induction leads with
  | nothing =>
      rw [List.prefix_nil.mp part]
      exact .nothing
  | next earlier becomes ih =>
      rcases List.prefix_concat_iff.mp part with whole | shorter
      · rw [whole, (earlier.next becomes).reached_eq]
        exact earlier.next becomes
      · exact ih shorter

end Machine

end ChipEight

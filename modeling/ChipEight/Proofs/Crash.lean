/-
Module: ChipEight.Proofs.Crash
Purpose: What a failing step leaves of the machine, and what a crashed run therefore reports.
Main exports: Machine.Faults, Machine.faults_of_step, Machine.runCycles_error, Session.Passes,
  Session.play_error, Emulator.run_crashed, Emulator.crash_keeps_state
-/
import ChipEight.Emulator
import ChipEight.Proofs.StepFaults

namespace ChipEight

/-!
### One failing step

There are five ways for a step to fail.  Two of them come before the program counter moves, the
other three after it; none of them touches anything else.
-/

namespace Machine

/-- A machine meets a fault at its program counter and is left behind as another one. -/
inductive Faults (machine : Machine) : Fault → Machine → Prop where
  /-- The word cannot be fetched. -/
  | unfetched {address : Int} (refused : machine.fetch = .error (.memoryOutOfBounds address)) :
      Faults machine (.memoryOutOfBounds address) machine
  /-- The word is no instruction. -/
  | undecoded {word : UInt16} (fetched : machine.fetch = .ok word)
      (undefined : Row.Undefined word) :
      Faults machine (.illegalOpcode word.toNat machine.pc) machine
  /-- The word is a return and there is no subroutine to leave. -/
  | underflow (fetched : machine.fetch = .ok 0x00EE) (outside : machine.stack.depth = 0) :
      Faults machine .stackUnderflow { machine with pc := machine.pc + 2 }
  /-- The word is a call and the call stack is full. -/
  | overflow {word : UInt16} (fetched : machine.fetch = .ok word) (call : Row.call.Applies word)
      (full : 16 ≤ machine.stack.depth) :
      Faults machine .stackOverflow { machine with pc := machine.pc + 2 }
  /-- The bytes that the instruction touches at `I` reach beyond the end of memory. -/
  | overrun {word : UInt16} {row : Row} (fetched : machine.fetch = .ok word)
      (applies : row.Applies word)
      (accesses : row ∈ [.storeDecimal, .storeRegisters, .loadRegisters, .draw])
      (beyond : row.Overruns word machine.index.toNat) :
      Faults machine (.memoryOutOfBounds (max machine.index.toNat 0x1000))
        { machine with pc := machine.pc + 2 }

variable {machine after : Machine} {tracing : Bool} {fault : Fault}

theorem faults_of_step (failed : (machine.step tracing).result = .error fault) :
    machine.Faults fault (machine.step tracing).machine := by
  generalize reached : (machine.step tracing).machine = after
  rcases step_error_iff.mp ⟨failed, reached⟩ with
    ⟨refused, rfl⟩ | ⟨word, fetched, undecoded, rfl, rfl⟩ |
      ⟨word, instruction, fetched, decoded, refused, rfl⟩
  · rcases Memory.word_eq_error_iff.mp refused with ⟨_, rfl⟩ | ⟨_, rfl⟩
    · exact .unfetched refused
    · exact .unfetched refused
  · exact .undecoded fetched (Row.undefined_iff.mpr (Row.decode_eq_none_iff.mp undecoded))
  · have applies := Row.applies_of_decode decoded
    generalize Row.ofInstruction instruction = row at applies
    have same : instruction = row.instruction word :=
      Option.some.inj (decoded.symm.trans (Row.decode_of_applies applies))
    rw [same] at refused
    rcases Row.execute_eq_error_iff.mp refused with
      ⟨rfl, outside, rfl⟩ | ⟨rfl, full, rfl⟩ | ⟨beyond, rfl⟩
    · rw [Row.returnFromCall_applies_iff.mp applies] at fetched
      exact .underflow fetched outside
    · exact .overflow fetched applies full
    · exact .overrun fetched applies (Row.mem_of_overruns beyond) beyond

theorem Faults.eq_except_pc (faults : machine.Faults fault after) :
    after = { machine with pc := after.pc } := by
  cases faults <;> rfl

/-!
### The cycles of a frame
-/

/-- A run of cycles fails in the step of a machine that was reached by the cycles before it. -/
theorem runCycles_error {cycles : Nat} {redraw : Bool} {printed : String}
    (failed : (runCycles tracing cycles redraw printed machine).result = .error fault) :
    ∃ completed before redraw' printed', completed < cycles ∧
      runCycles tracing completed redraw printed machine = ⟨before, .ok redraw', printed'⟩ ∧
      (before.step tracing).result = .error fault ∧
      (runCycles tracing cycles redraw printed machine).machine =
        (before.step tracing).machine := by
  induction cycles generalizing machine redraw printed with
  | zero => cases failed
  | succ cycles ih =>
      rw [runCycles] at failed ⊢
      cases stepped : (machine.step tracing).result with
      | error cause =>
          simp only [stepped] at failed
          cases failed
          exact ⟨0, machine, redraw, printed, Nat.succ_pos cycles, rfl, stepped, rfl⟩
      | ok goOn =>
          simp only [stepped] at failed
          obtain ⟨completed, before, redraw', printed', earlier, reached, faulted, left⟩ :=
            ih failed
          refine ⟨completed + 1, before, redraw', printed', Nat.succ_lt_succ earlier, ?_, faulted,
            left⟩
          rw [runCycles, stepped]
          exact reached

theorem runFrame_error {cycles : Int}
    (failed : (machine.runFrame tracing cycles).result = .error fault) :
    (runCycles tracing cycles.toNat false "" machine).result = .error fault ∧
      (machine.runFrame tracing cycles).machine =
        (runCycles tracing cycles.toNat false "" machine).machine := by
  rw [runFrame] at failed ⊢
  cases ran : (runCycles tracing cycles.toNat false "" machine).result with
  | error cause =>
      simp only [ran] at failed
      exact ⟨failed, rfl⟩
  | ok redraw =>
      simp only [ran] at failed
      cases failed

end Machine

/-!
### Whole runs

A run of the emulator goes from frame to frame and in each frame from instruction to instruction.
When it crashes the machine stands between two instructions of a frame that is not finished.
-/

namespace Session

variable {session after : Session} {batch : List Event} {batches : List (List Event)}
  {fault : Fault}

/-- The machine stands between two instructions of a frame: the batches before were played, the
events of the batch of the frame were noted, and not yet all cycles of the frame are over. -/
def Passes (session : Session) (batches : List (List Event)) (machine : Machine) : Prop :=
  ∃ played batch rest begun completed redraw printed,
    batches = played ++ batch :: rest ∧
    session.play played = (begun, .ok true) ∧
    completed < session.settings.cyclesPerFrame.toNat ∧
    Machine.runCycles session.settings.tracing completed false ""
      (begun.machine.handleAll batch).1 = ⟨machine, .ok redraw, printed⟩

theorem settings_frame (session : Session) (batch : List Event) :
    (session.frame batch).1.settings = session.settings := by
  unfold frame
  generalize session.machine.handleAll batch = noted
  obtain ⟨machine, goOn⟩ := noted
  dsimp only
  split
  · rfl
  · next redraw _ =>
    cases redraw
    · rfl
    · rfl

theorem frame_error (failed : session.frame batch = (after, .error fault)) :
    let machine := (session.machine.handleAll batch).1
    let outcome := machine.runFrame session.settings.tracing session.settings.cyclesPerFrame
    outcome.result = .error fault ∧ after.machine = outcome.machine := by
  unfold frame at failed
  generalize session.machine.handleAll batch = noted at failed ⊢
  obtain ⟨machine, goOn⟩ := noted
  dsimp only at failed ⊢
  split at failed
  · next cause ran =>
    cases failed
    exact ⟨ran, rfl⟩
  · cases failed

/-- A session fails in the step of a machine that it passes. -/
theorem play_error (failed : session.play batches = (after, .error fault)) :
    ∃ before, session.Passes batches before ∧
      (before.step session.settings.tracing).result = .error fault ∧
      after.machine = (before.step session.settings.tracing).machine := by
  induction batches generalizing session with
  | nil => cases failed
  | cons batch rest ih =>
      rw [play] at failed
      split at failed
      · next reached cause faulted =>
        cases failed
        obtain ⟨ran, left⟩ := frame_error faulted
        obtain ⟨stopped, left'⟩ := Machine.runFrame_error ran
        obtain ⟨completed, before, redraw, printed, early, passed, refused, left''⟩ :=
          Machine.runCycles_error stopped
        refine ⟨before, ?_, refused, left.trans (left'.trans left'')⟩
        exact ⟨[], batch, rest, session, completed, redraw, printed, rfl, rfl, early, passed⟩
      · cases failed
      · next reached played =>
        have settings : reached.settings = session.settings := by
          rw [← settings_frame session batch, played]
        obtain ⟨before, passes, refused, left⟩ := ih failed
        rw [settings] at refused left
        obtain ⟨earlier, next, later, begun, completed, redraw, printed, rfl, through, early,
          passed⟩ := passes
        rw [settings] at early passed
        refine ⟨before, ?_, refused, left⟩
        refine ⟨batch :: earlier, next, later, begun, completed, redraw, printed, rfl, ?_, early,
          passed⟩
        rw [play, played]
        exact through

end Session

/-- The fault with which a run crashed, if it did. -/
def Ending.fault? : Ending → Option Fault
  | crashed fault _ => some fault
  | _ => none

theorem Ending.fault?_eq_some_iff {ending : Ending} {fault : Fault} :
    ending.fault? = some fault ↔ ∃ final, ending = .crashed fault final := by
  cases ending <;> simp [fault?]

namespace Emulator

variable {fault : Fault} {final : Machine}

/-- The batches of events that a script plays. -/
def batchesOf (script : Script) : List (List Event) :=
  script.batches ++ if script.brokenOff.isSome then [] else [[Event.quit]]

theorem playScript_crashed {session after : Session} {script : Script}
    (crashed : playScript session script = (after, .crashed fault final)) :
    session.play (batchesOf script) = (after, .error fault) ∧ final = after.machine := by
  unfold playScript at crashed
  dsimp only at crashed
  split at crashed
  · next reached cause _ played =>
    cases crashed
    exact ⟨played, rfl⟩
  · cases crashed
  · cases crashed

theorem runLoaded_crashed {settings : Settings} {machine : Machine} {printed path : String}
    {script : Script} {painter : Painter}
    (crashed : (runLoaded settings machine printed path script painter).ending =
      .crashed fault final) :
    ∃ session after : Session, session.settings = settings ∧ session.machine = machine ∧
      session.play (batchesOf script) = (after, .error fault) ∧ final = after.machine := by
  unfold runLoaded at crashed
  split at crashed
  · cases crashed
  · next window _ =>
    let opened : Session := { settings, machine, window, painter, printed }
    obtain ⟨played, left⟩ := playScript_crashed (Prod.ext rfl crashed)
    exact ⟨opened.display, _, rfl, rfl, played, left⟩

theorem loadFile_ok {machine : Machine} {tracing : Bool}
    {read : String → Except ReadError (List UInt8)} {path : String} {size : Nat}
    (loaded : (machine.loadFile tracing read path).result = .ok size) :
    ∃ program, read path = .ok program ∧
      machine.load program = .ok (machine.loadFile tracing read path).machine := by
  unfold Machine.loadFile at loaded ⊢
  cases found : read path with
  | error cause => simp [found] at loaded
  | ok program =>
      cases put : machine.load program with
      | error fault => simp [found, put] at loaded
      | ok after => exact ⟨program, rfl, by simp only [put]⟩

/-- A run that crashes has loaded a program, and the session with it fails. -/
theorem run_crashed {settings : Settings} {arguments : List String}
    {read : String → Except ReadError (List UInt8)} {random : RandomSource} {script : Script}
    (crashed : (run settings arguments read random script).ending = .crashed fault final) :
    ∃ path program loaded, CommandLine.parse arguments = .ok path ∧ read path = .ok program ∧
      (Machine.powerOn random).load program = .ok loaded ∧
      ∃ session after : Session, session.settings = settings ∧ session.machine = loaded ∧
        session.play (batchesOf script) = (after, .error fault) ∧ final = after.machine := by
  unfold run at crashed
  split at crashed
  · cases crashed
  · next path parsed =>
    dsimp only at crashed
    split at crashed
    · cases crashed
    · cases crashed
    · next size loading =>
      obtain ⟨program, found, loaded⟩ := loadFile_ok loading
      exact ⟨path, program, _, parsed, found, loaded, runLoaded_crashed crashed⟩

/-- An instruction that fails has touched nothing, although its assignments are made one after the
other.  So a step that fails changes nothing but the program counter, and that one only when an
instruction was decoded.  And so the report of a crashed run shows the machine that met the fault,
between two instructions of a frame, with at most its program counter moved on. -/
theorem crash_keeps_state :
    (∀ (machine : Machine) (instruction : Instruction) (fault : Fault),
      (machine.execute instruction).result = .error fault →
        (machine.execute instruction).machine = machine) ∧
    (∀ (machine : Machine) (tracing : Bool) (fault : Fault),
      (machine.step tracing).result = .error fault →
        machine.Faults fault (machine.step tracing).machine ∧
        (machine.step tracing).machine =
          { machine with pc := (machine.step tracing).machine.pc }) ∧
    (∀ (settings : Settings) (arguments : List String)
      (read : String → Except ReadError (List UInt8)) (random : RandomSource) (script : Script)
      (fault : Fault) (final : Machine),
      (run settings arguments read random script).ending = .crashed fault final →
        ∃ (path : String) (program : List UInt8) (session : Session) (before : Machine),
          CommandLine.parse arguments = .ok path ∧ read path = .ok program ∧
          (Machine.powerOn random).load program = .ok session.machine ∧
          session.settings = settings ∧ session.Passes (batchesOf script) before ∧
          (before.step settings.tracing).result = .error fault ∧
          before.Faults fault final ∧
          (run settings arguments read random script).ending.exitText? =
            some ("********** THE EMULATOR CRASHED: " ++ fault.message ++ "\n" ++
              Machine.report { before with pc := final.pc })) := by
  refine ⟨fun _ _ _ => Machine.execute_keeps, ?_, ?_⟩
  · intro machine tracing fault failed
    have faults := Machine.faults_of_step failed
    exact ⟨faults, faults.eq_except_pc⟩
  · intro settings arguments read random script fault final crashed
    obtain ⟨path, program, loaded, parsed, found, put, session, after, rfl, rfl, failed, rfl⟩ :=
      run_crashed crashed
    obtain ⟨before, passes, refused, left⟩ := Session.play_error failed
    have faults : before.Faults fault after.machine := by
      rw [left]
      exact Machine.faults_of_step refused
    refine ⟨path, program, session, before, parsed, found, put, rfl, passes, refused, faults, ?_⟩
    rw [crashed, ← faults.eq_except_pc]
    rfl

/-- A program that returns outside every subroutine crashes with its program counter moved on. -/
theorem crash_keeps_state_return :
    ∃ before final : Machine,
      (run { scale := 1 } ["game"] (fun _ => .ok [0x00, 0xEE]) default {}).ending =
        .crashed .stackUnderflow final ∧
      before.stack.depth = 0 ∧ final = { before with pc := before.pc + 2 } := by
  have met : (run { scale := 1 } ["game"] (fun _ => .ok [0x00, 0xEE]) default {}).ending.fault? =
      some .stackUnderflow := by decide +kernel
  obtain ⟨final, crashed⟩ := Ending.fault?_eq_some_iff.mp met
  obtain ⟨_, _, _, before, _, _, _, _, _, _, faults, _⟩ :=
    crash_keeps_state.2.2 _ _ _ _ _ _ _ crashed
  cases faults with
  | underflow _ outside => exact ⟨before, _, crashed, outside, rfl⟩

end Emulator

end ChipEight

/-
Module: ChipEight.Proofs.Tracing
Purpose: Tracing prints one line for each word that is carried out, and changes nothing else.
Main exports: Outcome.silent, Machine.outcomes, Machine.outcomes_silent, Machine.TracedAs,
  Machine.step_traced, Machine.step_unfinished, Moment.Transcript, Machine.tracing_faithful
-/
import ChipEight.Machine.Loader
import ChipEight.Proofs.History
import ChipEight.Proofs.Numerals
import ChipEight.Proofs.TraceTemplate

namespace ChipEight

open Text Result

/-!
### Tracing on and off

What an operation does is compared without the text that it prints.  While tracing is off there is
no text, so the comparison is with the outcome as a whole.
-/

namespace Outcome

variable {ε α : Type}

/-- An outcome without its text. -/
def silent (outcome : Outcome ε α) : Outcome ε α :=
  { outcome with printed := "" }

theorem silent_update (before : Machine) (value : α) (result : Except ε Machine) :
    (update before value result).silent = update before value result := by
  cases result with
  | error complaint => rfl
  | ok after => rfl

end Outcome

namespace Machine

theorem dispatch_silent (machine : Machine) (tracing : Bool) (advance : Int) (word : UInt16) :
    (machine.dispatch tracing advance word).silent = machine.dispatch false advance word := by
  unfold dispatch
  cases machine.decode word with
  | error fault => rfl
  | ok instruction =>
      dsimp only
      cases ({ machine with pc := machine.pc + advance }.execute instruction).result with
      | error fault => rfl
      | ok _ => rfl

theorem step_silent (machine : Machine) (tracing : Bool) :
    (machine.step tracing).silent = machine.step false := by
  unfold step
  cases machine.fetch with
  | error fault => rfl
  | ok word =>
      dsimp only
      rw [← machine.dispatch_silent tracing 2 word]
      rfl

theorem runCycles_silent (machine : Machine) (tracing : Bool) (cycles : Nat) (redraw : Bool)
    (printed : String) :
    (runCycles tracing cycles redraw printed machine).silent =
      runCycles false cycles redraw "" machine := by
  induction cycles generalizing machine redraw printed with
  | zero => rfl
  | succ cycles ih =>
      rw [runCycles, runCycles, ← machine.step_silent tracing]
      generalize machine.step tracing = outcome
      cases ended : outcome.result with
      | error fault =>
          simp only [Outcome.silent, ended]
          rfl
      | ok goOn =>
          simp only [Outcome.silent, ended]
          exact ih _ _ _

theorem runFrame_silent (machine : Machine) (tracing : Bool) (cycles : Int) :
    (machine.runFrame tracing cycles).silent = machine.runFrame false cycles := by
  unfold runFrame
  rw [← machine.runCycles_silent tracing cycles.toNat false ""]
  generalize runCycles tracing cycles.toNat false "" machine = outcome
  cases ended : outcome.result with
  | error fault =>
      simp only [Outcome.silent, ended]
  | ok redraw =>
      simp only [Outcome.silent, ended]

theorem apply_silent (machine : Machine) (tracing : Bool) (operation : Operation) :
    (machine.apply tracing operation).silent = machine.apply false operation := by
  cases operation with
  | step =>
      rw [apply, apply, ← machine.step_silent tracing]
      rfl
  | perform word =>
      rw [apply, apply, perform, perform, ← machine.dispatch_silent tracing 0 word]
      rfl
  | frame cycles =>
      rw [apply, apply, ← machine.runFrame_silent tracing cycles]
      rfl
  | load program =>
      rw [apply, apply, ← Outcome.silent_update]
      rfl
  | setKey number down =>
      rw [apply, apply, ← Outcome.silent_update]
      rfl
  | tick => rfl
  | reset => rfl
  | handle event => rfl

theorem loadFile_silent (machine : Machine) (tracing : Bool)
    (read : String → Except ReadError (List UInt8)) (path : String) :
    (machine.loadFile tracing read path).silent = machine.loadFile false read path := by
  unfold loadFile
  cases read path with
  | error cause => rfl
  | ok program =>
      dsimp only
      cases machine.load program with
      | error fault => rfl
      | ok loaded => rfl

/-- The outcomes of operations that are performed one after the other, whether they are refused or
not. -/
def outcomes (machine : Machine) (tracing : Bool) :
    List Operation → List (Outcome Complaint Reply)
  | [] => []
  | operation :: rest =>
      let outcome := machine.apply tracing operation
      outcome :: outcome.machine.outcomes tracing rest

/-- What operations print that are performed one after the other. -/
def printedBy (machine : Machine) (tracing : Bool) (operations : List Operation) : String :=
  String.join ((machine.outcomes tracing operations).map Outcome.printed)

theorem outcomes_silent (machine : Machine) (tracing : Bool) (operations : List Operation) :
    (machine.outcomes tracing operations).map Outcome.silent =
      machine.outcomes false operations := by
  induction operations generalizing machine with
  | nil => rfl
  | cons operation rest ih =>
      rw [outcomes, outcomes, ← machine.apply_silent tracing operation]
      exact congrArg (List.cons _) (ih _)

/-- While tracing is off nothing is printed. -/
theorem printed_of_untraced {machine : Machine} {operations : List Operation}
    {outcome : Outcome Complaint Reply} (among : outcome ∈ machine.outcomes false operations) :
    outcome.printed = "" := by
  rw [← machine.outcomes_silent false operations] at among
  obtain ⟨_, _, rfl⟩ := List.mem_map.mp among
  rfl

end Machine

/-!
### Lines

A word that is carried out prints a line in two parts, with the instruction between them.  The first
part comes from the word that was fetched, and the second one names the place where it stood, which
the machine no longer knows after a jump.
-/

namespace Trace

/-- Lines as text, each one with the line break that ends it. -/
def text (lines : List String) : String :=
  String.join (lines.map fun line => line ++ "\n")

theorem text_cons (line : String) (rest : List String) :
    text (line :: rest) = line ++ "\n" ++ text rest :=
  String.join_cons

theorem text_append (lines later : List String) :
    text (lines ++ later) = text lines ++ text later := by
  rw [text, List.map_append, String.join_append]
  rfl

/-- The four digits of a word. -/
def digits (word : UInt16) : String :=
  String.ofList ((Row.digits word).map Nat.digitChar)

theorem opcode_eq (word : UInt16) : opcode word = "opcode: 0x" ++ digits word ++ "    " := by
  rw [opcode, Numeral.hexLiteral, Numeral.hex, Numeral.hexChars_digits, ← String.append_assoc]
  rfl

end Trace

namespace Machine

/-- What tracing prints when a word is carried out, but for the line break: the word, the address of
the program counter, and the instruction of the word in assembly language. -/
structure TracedAs (machine : Machine) (word : UInt16) (line : String) : Prop where
  fetched : machine.fetch = .ok word
  shown : ∃ row : Row, row.Applies word ∧
    line = "opcode: 0x" ++ Trace.digits word ++ "    " ++ "mem_addr: " ++
      Numeral.hexLiteral 4 machine.pc ++ "    instruction: " ++ (row.instruction word).mnemonic

variable {machine : Machine} {word : UInt16} {line : String} {goOn : Bool} {fault : Fault}

theorem TracedAs.newline_notMem (traced : machine.TracedAs word line) : '\n' ∉ line.toList := by
  obtain ⟨row, _, rfl⟩ := traced.shown
  have second := Template.newline_notMem_fill row.isPlain_template
    (row.fill_template word machine.pc)
  have first : '\n' ∉ (Trace.opcode word).toList := by
    simp only [Trace.opcode, Numeral.hexLiteral, String.toList_append, List.mem_append, not_or]
    exact ⟨⟨by decide, by decide, Numeral.newline_notMem_hex 4 _⟩, by decide⟩
  simp only [← Trace.opcode_eq, String.toList_append, List.mem_append, not_or] at second ⊢
  obtain ⟨⟨⟨lead, place⟩, middle⟩, meaning⟩ := second
  exact ⟨⟨⟨⟨first, lead⟩, place⟩, middle⟩, meaning⟩

/-- A step that ends well prints the line of the word on which the machine stood. -/
theorem step_traced (done : (machine.step true).result = .ok goOn) :
    ∃ word line, machine.TracedAs word line ∧ (machine.step true).printed = line ++ "\n" ∧
      Happening.of machine.fetch (machine.step true).result = .executed word := by
  obtain ⟨word, instruction, fetched, decoded, carriedOut, _⟩ := step_ok_iff.mp ⟨done, rfl⟩
  have applies := Row.applies_of_decode decoded
  generalize Row.ofInstruction instruction = row at applies
  have same : instruction = row.instruction word :=
    Option.some.inj (decoded.symm.trans (Row.decode_of_applies applies))
  refine ⟨word, _, ⟨fetched, row, applies, rfl⟩, ?_, ?_⟩
  · rw [step_of_done fetched decoded carriedOut, ← Trace.opcode_eq, same]
    simp only [traced, if_true, Trace.instruction, String.append_assoc]
  · rw [fetched, done]
    rfl

/-- A step that fails prints nothing if it fetches no word, and otherwise the first part of its
line. -/
theorem step_unfinished (failed : (machine.step true).result = .error fault) :
    (machine.fetch = .error fault ∧ (machine.step true).printed = "") ∨
      ∃ word, machine.fetch = .ok word ∧
        (machine.step true).printed = "opcode: 0x" ++ Trace.digits word ++ "    " := by
  rcases step_error_iff.mp ⟨failed, rfl⟩ with
    ⟨unfetched, _⟩ | ⟨word, fetched, undecoded, _, _⟩ | ⟨word, _, fetched, decoded, refused, _⟩
  · refine .inl ⟨unfetched, ?_⟩
    rw [step_of_unfetched unfetched]
  · refine .inr ⟨word, fetched, ?_⟩
    rw [step_of_undecoded fetched undecoded, ← Trace.opcode_eq]
    rfl
  · refine .inr ⟨word, fetched, ?_⟩
    rw [step_of_refused fetched decoded refused, ← Trace.opcode_eq]
    rfl

/-- What a number of steps prints if none of them fails. -/
theorem steps_traced {count : Nat}
    (done : ∀ outcome ∈ machine.outcomes true (List.replicate count .step),
      ∃ reply, outcome.result = .ok reply) :
    ∃ lines, lines.length = count ∧
      machine.printedBy true (List.replicate count .step) = Trace.text lines ∧
      ∀ number line, lines[number]? = some line →
        ∃ word, (machine.applyAll true (List.replicate number .step)).TracedAs word line := by
  induction count generalizing machine with
  | zero => exact ⟨[], rfl, rfl, nofun⟩
  | succ count ih =>
      rw [List.replicate_succ] at done ⊢
      obtain ⟨⟨reply, first⟩, later⟩ := List.forall_mem_cons.mp done
      obtain ⟨goOn, stepped, _⟩ := map_eq_ok_iff.mp (mapError_eq_ok_iff.mp first)
      obtain ⟨word, line, traced, printed, _⟩ := step_traced stepped
      obtain ⟨lines, length, text, named⟩ := ih later
      refine ⟨line :: lines, congrArg Nat.succ length, ?_, ?_⟩
      · rw [Trace.text_cons, ← printed, ← text]
        exact String.join_cons
      · intro number line' found
        cases number with
        | zero =>
            cases found
            exact ⟨word, traced⟩
        | succ number => exact named number line' found

end Machine

/-!
### Transcripts

In a longer run most moments print nothing.  A transcript goes through the moments of a history and
has a line for each word that was carried out.
-/

/-- Moments with the lines that are printed for them. -/
inductive Moment.Transcript : List Moment → List String → Prop where
  | nothing : Transcript [] []
  | line {moment : Moment} {word : UInt16} {line : String} {rest : List Moment}
      {lines : List String} (executed : moment.happening = .executed word)
      (traced : moment.before.TracedAs word line) (later : Transcript rest lines) :
      Transcript (moment :: rest) (line :: lines)
  | quiet {moment : Moment} {rest : List Moment} {lines : List String}
      (unexecuted : ∀ word, moment.happening ≠ .executed word) (later : Transcript rest lines) :
      Transcript (moment :: rest) lines

namespace Moment.Transcript

variable {moments rest : List Moment} {lines more : List String}

theorem append (transcript : Transcript moments lines) (further : Transcript rest more) :
    Transcript (moments ++ rest) (lines ++ more) := by
  induction transcript with
  | nothing => exact further
  | line executed traced _ ih => exact .line executed traced ih
  | quiet unexecuted _ ih => exact .quiet unexecuted ih

theorem unexecuted {before after : Machine} {happening : Happening}
    (other : ∀ word, happening ≠ .executed word) : Transcript [⟨before, happening, after⟩] [] :=
  .quiet other .nothing

theorem newline_notMem (transcript : Transcript moments lines) :
    ∀ line ∈ lines, '\n' ∉ line.toList := by
  induction transcript with
  | nothing => exact nofun
  | line _ traced _ ih => exact List.forall_mem_cons.mpr ⟨traced.newline_notMem, ih⟩
  | quiet _ _ ih => exact ih

end Moment.Transcript

namespace Machine

open Moment (Transcript)

variable {machine : Machine} {operations : List Operation} {operation : Operation}

theorem runCycles_transcript {cycles : Nat} {redraw final : Bool} {printed : String}
    (done : (runCycles true cycles redraw printed machine).result = .ok final) :
    ∃ lines, Transcript (cycleMoments true cycles machine) lines ∧
      (runCycles true cycles redraw printed machine).printed = printed ++ Trace.text lines := by
  induction cycles generalizing machine redraw printed with
  | zero => exact ⟨[], .nothing, String.append_empty.symm⟩
  | succ cycles ih =>
      rw [runCycles] at done ⊢
      rw [cycleMoments]
      cases stepped : (machine.step true).result with
      | error fault =>
          simp only [stepped] at done
          cases done
      | ok goOn =>
          obtain ⟨word, line, traced, shown, executed⟩ := step_traced stepped
          rw [stepped] at executed
          simp only [stepped] at done ⊢
          obtain ⟨lines, transcript, text⟩ := ih done
          refine ⟨line :: lines, .line executed traced transcript, ?_⟩
          rw [text, shown, Trace.text_cons, String.append_assoc]

theorem runFrame_transcript {cycles : Int} {redraw : Bool}
    (done : (machine.runFrame true cycles).result = .ok redraw) :
    ∃ lines, Transcript (machine.frameMoments true cycles) lines ∧
      (machine.runFrame true cycles).printed = Trace.text lines := by
  rw [runFrame] at done ⊢
  rw [frameMoments]
  cases ran : (runCycles true cycles.toNat false "" machine).result with
  | error fault =>
      simp only [ran] at done
      cases done
  | ok again =>
      obtain ⟨lines, transcript, text⟩ := runCycles_transcript ran
      refine ⟨lines, ?_, ?_⟩
      · rw [← List.append_nil lines]
        exact transcript.append (.unexecuted (by simp))
      · rw [text, String.empty_append]

theorem moments_transcript {reply : Reply} (ordinary : ∀ word, operation ≠ .perform word)
    (done : (machine.apply true operation).result = .ok reply) :
    ∃ lines, Transcript (machine.moments true operation) lines ∧
      (machine.apply true operation).printed = Trace.text lines := by
  cases operation with
  | step =>
      obtain ⟨goOn, stepped, _⟩ := map_eq_ok_iff.mp (mapError_eq_ok_iff.mp done)
      obtain ⟨word, line, traced, shown, executed⟩ := step_traced stepped
      refine ⟨[line], .line executed traced .nothing, ?_⟩
      rw [Trace.text_cons, ← shown]
      exact String.append_empty.symm
  | frame cycles =>
      obtain ⟨redraw, ran, _⟩ := map_eq_ok_iff.mp (mapError_eq_ok_iff.mp done)
      exact runFrame_transcript ran
  | perform word => exact absurd rfl (ordinary word)
  | tick => exact ⟨[], .unexecuted (by simp), rfl⟩
  | reset => exact ⟨[], .unexecuted (by simp), rfl⟩
  | handle event => exact ⟨[], .unexecuted (by simp), rfl⟩
  | load program =>
      refine ⟨[], .unexecuted (by simp), ?_⟩
      rw [apply, ← Outcome.silent_update]
      rfl
  | setKey number down =>
      refine ⟨[], .unexecuted (by simp), ?_⟩
      rw [apply, ← Outcome.silent_update]
      rfl

theorem history_transcript (ordinary : ∀ word, .perform word ∉ operations)
    (done : ∀ outcome ∈ machine.outcomes true operations, ∃ reply, outcome.result = .ok reply) :
    ∃ lines, Transcript (machine.history true operations) lines ∧
      machine.printedBy true operations = Trace.text lines := by
  induction operations generalizing machine with
  | nil => exact ⟨[], .nothing, rfl⟩
  | cons operation rest ih =>
      obtain ⟨⟨reply, first⟩, others⟩ := List.forall_mem_cons.mp done
      have here : ∀ word, operation ≠ .perform word :=
        fun word same => ordinary word (List.mem_cons.mpr (.inl same.symm))
      have later : ∀ word, .perform word ∉ rest :=
        fun word within => ordinary word (List.mem_cons_of_mem _ within)
      obtain ⟨lines, transcript, shown⟩ := moments_transcript here first
      obtain ⟨more, further, text⟩ := ih later others
      refine ⟨lines ++ more, transcript.append further, ?_⟩
      rw [Trace.text_append, ← shown, ← text]
      exact String.join_cons

/-- Tracing does not interfere, and shows what is carried out.

Any operations have the same outcomes with tracing on as with tracing off, except for the text that
they print; and while tracing is off there is none.  The same holds of loading a program.  Filling
in the template of an instruction never fails, whatever the address is and whatever other variables
there are, and gives the second part of the line.

While tracing is on, steps none of which fails print one line each: the line begins with the word
that the step fetched and names the address at which it began.  In a longer run, in frames too, each
word that is carried out has such a line and nothing else is printed.  A step that fails prints
nothing if it fails to fetch a word, and otherwise the first part of its line. -/
theorem tracing_faithful :
    (∀ (machine : Machine) (tracing : Bool) (operations : List Operation),
      (machine.outcomes tracing operations).map Outcome.silent = machine.outcomes false operations ∧
        ∀ outcome ∈ machine.outcomes false operations, outcome.printed = "") ∧
    (∀ (machine : Machine) (tracing : Bool) (read : String → Except ReadError (List UInt8))
      (path : String),
      (machine.loadFile tracing read path).silent = machine.loadFile false read path) ∧
    (∀ (row : Row) (word : UInt16) (address : Int) (others : Bindings),
      ∃ text,
        row.template.fill (("mem_addr", address) :: row.bindings word ++ others) = .ok text ∧
          Trace.instruction address (row.instruction word) = text ++ "\n") ∧
    (∀ (machine : Machine) (count : Nat),
      (∀ outcome ∈ machine.outcomes true (List.replicate count .step),
        ∃ reply, outcome.result = .ok reply) →
        ∃ lines,
          lines.length = count ∧ (∀ line ∈ lines, '\n' ∉ line.toList) ∧
            machine.printedBy true (List.replicate count .step) = Trace.text lines ∧
            ∀ number line, lines[number]? = some line →
              ∃ word, (machine.applyAll true (List.replicate number .step)).TracedAs word line) ∧
    (∀ (machine : Machine) (operations : List Operation),
      (∀ word, .perform word ∉ operations) →
      (∀ outcome ∈ machine.outcomes true operations, ∃ reply, outcome.result = .ok reply) →
        ∃ lines,
          Transcript (machine.history true operations) lines ∧
            (∀ line ∈ lines, '\n' ∉ line.toList) ∧
            machine.printedBy true operations = Trace.text lines) ∧
    (∀ (machine : Machine) (fault : Fault), (machine.step true).result = .error fault →
      (machine.fetch = .error fault ∧ (machine.step true).printed = "") ∨
        ∃ word, machine.fetch = .ok word ∧
          (machine.step true).printed = "opcode: 0x" ++ Trace.digits word ++ "    ") := by
  refine ⟨?_, loadFile_silent, ?_, ?_, ?_, ?_⟩
  · intro machine tracing operations
    exact ⟨machine.outcomes_silent tracing operations, fun _ => printed_of_untraced⟩
  · intro row word address others
    exact ⟨_, Template.fill_append_bindings (row.fill_template word address) others, rfl⟩
  · intro machine count done
    obtain ⟨lines, length, text, named⟩ := steps_traced done
    refine ⟨lines, length, ?_, text, named⟩
    intro line within
    obtain ⟨number, found⟩ := List.mem_iff_getElem?.mp within
    obtain ⟨word, traced⟩ := named number line found
    exact traced.newline_notMem
  · intro machine operations ordinary done
    obtain ⟨lines, transcript, text⟩ := history_transcript ordinary done
    exact ⟨lines, transcript, transcript.newline_notMem, text⟩
  · intro machine fault failed
    exact step_unfinished failed

/-- A jump, a call, and a word that waits for a key.  The third line names the address of that word,
although the program counter was put back to it.  A return outside every subroutine prints the first
part of its line. -/
theorem tracing_faithful_waiting :
    let machine := started [0x12, 0x04, 0x00, 0xEE, 0x22, 0x08, 0x00, 0x00, 0xF0, 0x0A]
    let returning := started [0x00, 0xEE]
    (∃ lines : List String,
      machine.printedBy true (List.replicate 3 .step) = Trace.text lines ∧ lines.length = 3 ∧
        lines[2]? = some "opcode: 0xf00a    mem_addr: 0x0208    instruction: LD V0, K") ∧
      (returning.step true).printed = "opcode: 0x00ee    " := by
  intro machine returning
  obtain ⟨_, _, _, steps, _, failures⟩ := tracing_faithful
  constructor
  · let third := machine.applyAll true (List.replicate 2 .step)
    obtain ⟨results, stands, place⟩ :
        (machine.outcomes true (List.replicate 3 .step)).map Outcome.result =
            [.ok (.verdict true), .ok (.verdict true), .ok (.verdict false)] ∧
          third.fetch = .ok 0xF00A ∧ third.pc = 0x208 := by decide +kernel
    have succeeded : ∀ outcome ∈ machine.outcomes true (List.replicate 3 .step),
        ∃ reply, outcome.result = .ok reply := by
      intro outcome among
      have answered := List.mem_map_of_mem (f := Outcome.result) among
      rw [results] at answered
      simp only [List.mem_cons, List.not_mem_nil, or_false] at answered
      rcases answered with answer | answer | answer
      · exact ⟨_, answer⟩
      · exact ⟨_, answer⟩
      · exact ⟨_, answer⟩
    obtain ⟨lines, length, _, text, named⟩ := steps machine 3 succeeded
    have last : lines[2]? = some lines[2] := List.getElem?_eq_getElem _
    obtain ⟨word, fetched, row, applies, line⟩ := named 2 _ last
    cases fetched.symm.trans stands
    cases Row.eq_of_applies applies (show Row.awaitKey.Applies 0xF00A by decide)
    refine ⟨lines, text, length, ?_⟩
    rw [last, line, place]
    decide +kernel
  · have failed : (returning.step true).result = .error .stackUnderflow := by decide +kernel
    have stands : returning.fetch = .ok 0x00EE := fetch_started 0x00 0xEE
    rcases failures returning _ failed with ⟨unfetched, _⟩ | ⟨word, fetched, printed⟩
    · cases unfetched.symm.trans stands
    · cases fetched.symm.trans stands
      rw [printed]
      decide +kernel

end Machine

end ChipEight

/-
Module: ChipEight.Proofs.RandomDraws
Purpose: Random numbers are used up one by one, by the words that ask for one and by nothing else.
Main exports: Happening.takesRandom, Moment.numbersTaken, RandomSource.land_byte,
  Machine.Becomes.random, Machine.Leads.random, Machine.random_numbers_follow_history
-/
import ChipEight.Proofs.History
import Mathlib.Data.Int.Bitwise

namespace ChipEight

/-- Whether a word was carried out that takes a random number. -/
def Happening.takesRandom : Happening → Bool
  | .executed word => Row.random.Applies word
  | .ticked | .restarted | .other => false

/-- How many random numbers were taken. -/
def Moment.numbersTaken (past : List Moment) : Nat :=
  past.countP (·.happening.takesRandom)

/-!
### Bytes of integers

A random number may be any integer.  Its bits are those of its representation in two's complement,
of which there is no end, and a mask of eight bits looks only at the lowest byte.
-/

namespace RandomSource

theorem testBit_byte (number : Int) (place : Nat) :
    (number % 256).toNat.testBit place = (decide (place < 8) && number.testBit place) := by
  cases number with
  | ofNat value => exact Nat.testBit_mod_two_pow value 8 place
  | negSucc value =>
      have complement : (Int.negSucc value % 256).toNat = 2 ^ 8 - (value % 2 ^ 8 + 1) := by omega
      rw [complement, Nat.testBit_two_pow_sub_succ (Nat.mod_lt value (Nat.two_pow_pos 8)),
        Nat.testBit_mod_two_pow]
      change _ = (decide (place < 8) && !value.testBit place)
      cases decide (place < 8) with
      | false => rfl
      | true => rfl

/-- Under a mask of eight bits an integer cannot be told from its lowest byte. -/
theorem land_byte (number : Int) {mask : Nat} (small : mask < 2 ^ 8) :
    number.land mask = ((number % 256).toNat &&& mask : Nat) := by
  obtain ⟨kept, same⟩ : ∃ kept : Nat, number.land mask = kept := by
    cases number with
    | ofNat value => exact ⟨value &&& mask, rfl⟩
    | negSucc value => exact ⟨mask.ldiff value, rfl⟩
  rw [same, Int.natCast_inj]
  apply Nat.eq_of_testBit_eq
  intro place
  have bits : kept.testBit place = (number.testBit place && mask.testBit place) := by
    have bits := Int.testBit_land number mask place
    rw [same] at bits
    exact bits
  rw [bits, Nat.testBit_and, testBit_byte]
  by_cases low : place < 8
  · rw [decide_eq_true low, Bool.true_and]
  · have high : mask.testBit place = false :=
      Nat.testBit_lt_two_pow
        (Nat.lt_of_lt_of_le small (Nat.pow_le_pow_right Nat.two_pos (Nat.not_lt.mp low)))
    rw [high, Bool.and_false, Bool.and_false]

end RandomSource

namespace Machine

variable {machine after start final : Machine} {happening : Happening} {past : List Moment}

theorem random_reset (machine : Machine) : machine.reset.random = machine.random := by
  rw [reset_eq, powerOn]

theorem Becomes.random (becomes : machine.Becomes happening after) :
    after.random = if happening.takesRandom then machine.random.next.2 else machine.random := by
  cases becomes with
  | @executed word row _ pc draw applies effect =>
      have drawn : after.random = (row.effect word { machine.contents with pc }).random :=
        congrArg Contents.random effect
      have asked : row = .random ↔ Row.random.Applies word := by
        constructor
        · rintro rfl
          exact applies
        · exact Row.eq_of_applies applies
      obtain ⟨_, _, random⟩ := row.effect_rest word { machine.contents with pc }
      rw [drawn, random, Happening.takesRandom]
      simp only [asked, decide_eq_true_eq]
      rfl
  | ticked => rfl
  | restarted => exact machine.random_reset
  | other pc memory keypad => rfl

/-- Whatever leads to a machine, its random source has given away one number for each word that
takes one. -/
theorem Leads.random (leads : start.Leads past final) :
    final.random =
      { start.random with consumed := start.random.consumed + Moment.numbersTaken past } := by
  induction leads with
  | nothing => rfl
  | @next past moment _ becomes ih =>
      have count : Moment.numbersTaken (past ++ [moment]) =
          Moment.numbersTaken past + if moment.happening.takesRandom then 1 else 0 := by
        rw [Moment.numbersTaken, List.countP_append, List.countP_singleton]
        rfl
      rw [becomes.random, ih, count]
      cases moment.happening.takesRandom with
      | true => rfl
      | false => rfl

/-- A word that takes a random number stores its lowest byte under the mask of the word. -/
theorem Becomes.takeRandom {word : UInt16} (becomes : machine.Becomes (.executed word) after)
    (takes : Row.random.Applies word) :
    after.contents.register (Row.random.operand .x word) =
      (machine.random.next.1 % 256).toNat &&& Row.random.operand .n word := by
  cases becomes with
  | executed pc draw applies effect =>
      rw [effect, Row.eq_of_applies applies takes]
      exact Function.update_self _ _ _

/-- Of the moments that satisfy a condition each one has as many before it as its number says. -/
theorem exists_of_getElem?_filter {condition : Moment → Bool} {history : List Moment}
    {number : Nat} {moment : Moment}
    (found : (history.filter condition)[number]? = some moment) :
    ∃ past, past ++ [moment] <+: history ∧ past.countP condition = number ∧
      condition moment = true := by
  induction history generalizing number with
  | nil => cases found
  | cons first rest ih =>
      by_cases holds : condition first = true
      · rw [List.filter_cons_of_pos holds] at found
        cases number with
        | zero =>
            cases found
            exact ⟨[], ⟨rest, rfl⟩, rfl, holds⟩
        | succ number =>
            obtain ⟨past, part, count, holds'⟩ := ih found
            refine ⟨first :: past, List.cons_prefix_cons.mpr ⟨rfl, part⟩, ?_, holds'⟩
            rw [List.countP_cons_of_pos holds, count]
      · rw [List.filter_cons_of_neg holds] at found
        obtain ⟨past, part, count, holds'⟩ := ih found
        refine ⟨first :: past, List.cons_prefix_cons.mpr ⟨rfl, part⟩, ?_, holds'⟩
        rw [List.countP_cons_of_neg holds, count]

/-- Let a machine that was just switched on go through any operations, refused ones included.  At
every point of its history, between the words of a frame as well as between operations, the source
has given away as many numbers as words were carried out that take one, and is the same source
otherwise.  The words that take one take the numbers in order, also across new starts: each stores
the number that its place among them says, under the mask of the word. -/
theorem random_numbers_follow_history (values : Nat → Int) (tracing : Bool)
    (operations : List Operation) :
    let start := powerOn { values }
    let history := start.history tracing operations
    start.reached history = start.applyAll tracing operations ∧
    (∀ past, past <+: history →
      (start.reached past).random = { values, consumed := Moment.numbersTaken past }) ∧
    (∀ number moment,
      (history.filter (·.happening.takesRandom))[number]? = some moment →
        ∃ word, moment.happening = .executed word ∧ Row.random.Applies word ∧
          let mask : Nat := Row.random.operand .n word
          let stored : Nat := moment.after.contents.register (Row.random.operand .x word)
          stored = (values number).land mask ∧ stored ≤ mask) := by
  intro start history
  have leads : start.Leads history _ := start.history_leads tracing operations
  have drawn : ∀ past, past <+: history →
      (start.reached past).random = { values, consumed := Moment.numbersTaken past } := by
    intro past part
    have random := (leads.reached_of_prefix part).random
    rw [show start.random.consumed = 0 from rfl, Nat.zero_add] at random
    exact random
  refine ⟨leads.reached_eq, drawn, ?_⟩
  intro number moment found
  obtain ⟨past, part, count, takes⟩ := exists_of_getElem?_filter found
  obtain ⟨earlier, becomes⟩ := (leads.reached_of_prefix part).last
  cases executed : moment.happening with
  | ticked | restarted | other =>
      rw [executed] at takes
      cases takes
  | executed word =>
      rw [executed] at takes becomes
      have applies : Row.random.Applies word := of_decide_eq_true takes
      have taken : moment.before.random.next.1 = values number := by
        have before := drawn past ((List.prefix_append past [moment]).trans part)
        rw [earlier.reached_eq] at before
        rw [before, ← count]
        rfl
      have small : Row.random.operand .n word < 2 ^ 8 := by
        rw [Row.operand_n]
        exact Nat.mod_lt _ (Nat.two_pow_pos 8)
      refine ⟨word, rfl, applies, ?_, ?_⟩
      · rw [becomes.takeRandom applies, taken, RandomSource.land_byte _ small]
      · rw [becomes.takeRandom applies]
        exact Nat.and_le_right

/-- The numbers are -1, 300 and 1000.  The program `C00F`, `C1FF`, `00EE` takes two of them and then
fails; after a new start `C2F0` takes the third one. -/
theorem random_numbers_follow_history_restart :
    let values (number : Nat) : Int := [-1, 300, 1000].getD number 0
    let operations : List Operation :=
      [.load [0xC0, 0x0F, 0xC1, 0xFF, 0x00, 0xEE], .frame 3, .reset, .load [0xC2, 0xF0], .step]
    ((powerOn { values }).applyAll false operations).random.consumed = 3 ∧
      ∃ moment ∈ (powerOn { values }).history false operations,
        moment.after.contents.register 2 = 0xE0 := by
  intro values operations
  obtain ⟨follows, consumed, stored⟩ := random_numbers_follow_history values false operations
  obtain ⟨count, third⟩ :
      Moment.numbersTaken ((powerOn { values }).history false operations) = 3 ∧
        (((powerOn { values }).history false operations).filter
          (·.happening.takesRandom))[2]?.map Moment.happening = some (.executed 0xC2F0) := by
    decide +kernel
  obtain ⟨moment, found, executed⟩ := Option.map_eq_some_iff.mp third
  obtain ⟨word, same, _, store, _⟩ := stored 2 moment found
  rw [executed] at same
  cases same
  refine ⟨?_, moment, (List.mem_filter.mp (List.mem_of_getElem? found)).1, Int.natCast_inj.mp store⟩
  rw [← follows, consumed _ (List.prefix_refl _), count]

end Machine

end ChipEight

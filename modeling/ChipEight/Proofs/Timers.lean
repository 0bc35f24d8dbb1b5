/-
Module: ChipEight.Proofs.Timers
Purpose: At every moment a timer shows the value it was given last less the ticks since then.
Main exports: Timer, Timer.given?, Timer.lastGiven, Timer.ticksSince, Timer.level_effect,
  Timer.level_becomes, Machine.Leads.level, Machine.timers_follow_history
-/
import ChipEight.Proofs.History

namespace ChipEight

/-- The two timers. -/
inductive Timer where
  | delay
  | sound
deriving Repr, Inhabited, DecidableEq

namespace Timer

/-- The row that puts a register into a timer. -/
def setter : Timer → Row
  | delay => .setDelay
  | sound => .setSound

/-- What a timer shows. -/
def level : Timer → Contents → Nat
  | delay => Contents.delay
  | sound => Contents.sound

/-!
### Reading a timer off the history

Here nothing is looked at but the words that set the timer, the registers that they took the value
from, the ticks and the new starts.
-/

/-- The value that a timer is given at a moment, if it is given one: the number in a register, or
zero when the machine is switched off and on. -/
def given? (timer : Timer) (moment : Moment) : Option Nat :=
  match moment.happening with
  | .executed word =>
      if timer.setter.Applies word then
        some (moment.before.contents.register (timer.setter.operand .x word))
      else none
  | .restarted => some 0
  | .ticked | .other => none

/-- The value that a timer was given last, and zero if it was never given one. -/
def lastGiven (timer : Timer) (past : List Moment) : Nat :=
  (past.reverse.findSome? timer.given?).getD 0

/-- The number of ticks since a timer was given its last value. -/
def ticksSince (timer : Timer) (past : List Moment) : Nat :=
  (past.reverse.takeWhile fun moment => (timer.given? moment).isNone).countP fun moment =>
    moment.happening = .ticked

/-- What is left of the last value after the ticks since then, at least zero. -/
def remaining (timer : Timer) (past : List Moment) : Nat :=
  timer.lastGiven past - timer.ticksSince past

/-- One more moment gives the timer a new value, or takes one away with a tick, or does nothing. -/
theorem remaining_concat (timer : Timer) (past : List Moment) (moment : Moment) :
    timer.remaining (past ++ [moment]) =
      (timer.given? moment).getD
        (timer.remaining past - if moment.happening = .ticked then 1 else 0) := by
  unfold remaining lastGiven ticksSince
  rw [List.reverse_concat, List.findSome?_cons, List.takeWhile_cons]
  cases timer.given? moment with
  | some value => simp
  | none => simp [List.countP_cons, Nat.sub_sub]

/-!
### What a moment does to a timer
-/

/-- The only word that changes a timer is the one that sets it. -/
theorem level_effect (timer : Timer) (row : Row) (word : UInt16) (state : Contents) :
    timer.level (row.effect word state) =
      if row = timer.setter then state.register (row.operand .x word) else timer.level state := by
  obtain ⟨delay, sound, _⟩ := row.effect_rest word state
  cases timer with
  | delay => exact delay
  | sound => exact sound

theorem toNat_countdown (value : UInt8) :
    (if value > 0 then value - 1 else value).toNat = value.toNat - 1 := by
  split
  · next positive =>
    exact UInt8.toNat_sub_of_le _ _ (UInt8.le_iff_toNat_le.mpr (UInt8.lt_iff_toNat_lt.mp positive))
  · next zero =>
    have : ¬ 0 < value.toNat := fun positive => zero (UInt8.lt_iff_toNat_lt.mpr positive)
    omega

theorem level_tick (timer : Timer) (machine : Machine) :
    timer.level machine.tick.contents = timer.level machine.contents - 1 := by
  cases timer with
  | delay => exact toNat_countdown machine.delay
  | sound => exact toNat_countdown machine.sound

theorem level_powerOn (timer : Timer) (random : RandomSource) :
    timer.level (Machine.powerOn random).contents = 0 := by
  cases timer <;> rfl

theorem level_becomes (timer : Timer) {machine after : Machine} {happening : Happening}
    (becomes : machine.Becomes happening after) :
    timer.level after.contents =
      (timer.given? ⟨machine, happening, after⟩).getD
        (timer.level machine.contents - if happening = .ticked then 1 else 0) := by
  cases becomes with
  | @executed word row _ pc draw applies effect =>
      have level : timer.level after.contents =
          timer.level (row.effect word { machine.contents with pc }) := by
        rw [effect]
        cases timer <;> rfl
      have before : timer.level { machine.contents with pc } = timer.level machine.contents := by
        cases timer <;> rfl
      rw [level, level_effect, before]
      by_cases sets : row = timer.setter
      · rw [if_pos sets]
        rw [sets] at applies ⊢
        simp [given?, applies]
      · have others : ¬ timer.setter.Applies word :=
          fun applies' => sets (Row.eq_of_applies applies applies')
        simp [given?, sets, others]
  | ticked => simp [given?, level_tick]
  | restarted => exact level_powerOn timer machine.random
  | other pc memory keypad => cases timer <;> rfl

end Timer

namespace Machine

variable {machine final : Machine} {random : RandomSource} {past : List Moment}

/-- Whatever leads to a machine from the start, its timers show what the history says. -/
theorem Leads.level (leads : (powerOn random).Leads past final) (timer : Timer) :
    timer.level final.contents = timer.remaining past := by
  induction leads with
  | nothing => exact timer.level_powerOn random
  | next _ becomes ih => rw [timer.level_becomes becomes, timer.remaining_concat, ih]

/-- A word that reads the delay timer stores what the timer shows. -/
theorem Becomes.readDelay {after : Machine} {word : UInt16}
    (becomes : machine.Becomes (.executed word) after) (reads : Row.readDelay.Applies word) :
    after.contents.register (Row.readDelay.operand .x word) = machine.contents.delay := by
  cases becomes with
  | executed pc draw applies effect =>
      rw [effect, Row.eq_of_applies applies reads]
      exact Function.update_self _ _ _

theorem beeping_iff : machine.beeping = true ↔ 0 < machine.contents.sound := by
  rw [beeping, decide_eq_true_iff]
  exact UInt8.lt_iff_toNat_lt

/-- Let a machine that was just switched on go through any operations, refused ones included.  At
every point of its history, between the words of a frame as well as between operations, each timer
shows the value it was given last less the ticks since then, and never less than zero.  The buzzer
sounds exactly while this is positive for the sound timer, and a word that reads the delay timer
stores what this is for the delay timer. -/
theorem timers_follow_history (random : RandomSource) (tracing : Bool)
    (operations : List Operation) :
    let start := powerOn random
    let history := start.history tracing operations
    start.reached history = start.applyAll tracing operations ∧
    (∀ past, past <+: history →
      (start.reached past).contents.delay = Timer.delay.remaining past ∧
      (start.reached past).contents.sound = Timer.sound.remaining past ∧
      ((start.reached past).beeping = true ↔ 0 < Timer.sound.remaining past)) ∧
    (∀ past moment word, past ++ [moment] <+: history → moment.happening = .executed word →
      Row.readDelay.Applies word →
        moment.after.contents.register (Row.readDelay.operand .x word) =
          Timer.delay.remaining past) := by
  intro start history
  have leads : start.Leads history _ := start.history_leads tracing operations
  refine ⟨leads.reached_eq, ?_, ?_⟩
  · intro past part
    have shown := (leads.reached_of_prefix part).level
    refine ⟨shown .delay, shown .sound, ?_⟩
    rw [beeping_iff, ← shown .sound]
    rfl
  · intro past moment word part executed reads
    obtain ⟨earlier, becomes⟩ := (leads.reached_of_prefix part).last
    rw [executed] at becomes
    rw [becomes.readDelay reads, ← earlier.level .delay]
    rfl

/-- Two frames of the program `6003`, `F015`, `F107`, the first one of two words: the timer is set
to three, shows two when it is read, and one at the end. -/
theorem timers_follow_history_frames :
    let operations : List Operation :=
      [.load [0x60, 0x03, 0xF0, 0x15, 0xF1, 0x07], .frame 2, .frame 1]
    let history := (powerOn default).history false operations
    ((powerOn default).applyAll false operations).contents.delay = 1 ∧
      ∃ moment, history[4]? = some moment ∧ moment.after.contents.register 1 = 2 := by
  intro operations history
  obtain ⟨follows, shown, reads⟩ := timers_follow_history default false operations
  obtain ⟨now, before, word⟩ :
      Timer.delay.remaining history = 1 ∧ Timer.delay.remaining (history.take 4) = 2 ∧
        history[4]?.map Moment.happening = some (.executed 0xF107) := by decide +kernel
  obtain ⟨moment, found, executed⟩ := Option.map_eq_some_iff.mp word
  have part : history.take 4 ++ [moment] <+: history := by
    have taken : history.take 5 = history.take 4 ++ history[4]?.toList := List.take_add_one
    rw [found] at taken
    exact taken ▸ List.take_prefix 5 history
  refine ⟨?_, moment, found, ?_⟩
  · rw [← follows, ← now]
    exact (shown history (List.prefix_refl _)).1
  · rw [← before]
    exact reads _ _ 0xF107 part executed (by decide)

end Machine

end ChipEight

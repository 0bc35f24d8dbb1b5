/-
Module: ChipEight.Proofs.FlagArithmetic
Purpose: The equations of the arithmetic that raises the flag, whichever registers it is about.
Main exports: Row.Balances, Row.balances_iff, Row.flagging, Row.effect_balances,
  Machine.dispatch_flagging, Machine.flag_arithmetic_exact
-/
import ChipEight.Proofs.Conformance

namespace ChipEight

namespace Row

/-!
### Equations

The effects of the arithmetic rows are given by remainders and comparisons.  One equation for each
row says the same: together with the result the flag accounts for everything that the operands make
up, so nothing is lost.
-/

/-- A byte and a bit that settle the arithmetic of a row, the first operand being what is in `VX`
and the second one what is in `VY`. -/
def Balances (row : Row) (first second result flag : Nat) : Prop :=
  (result ≤ 255 ∧ flag ≤ 1) ∧
    match row with
    | add => 256 * flag + result = first + second
    | subtract => result + second = first + 256 * (1 - flag)
    | shiftRight => 2 * result + flag = first
    | subtractFrom => result + first = second + 256 * (1 - flag)
    | shiftLeft => 256 * flag + result = 2 * first
    | _ => False

variable {row : Row} {first second result flag result' flag' : Nat}

/-- The equation of a row determines both the byte and the bit. -/
theorem balances_iff (balanced : row.Balances first second result flag) :
    row.Balances first second result' flag' ↔ result = result' ∧ flag = flag' := by
  constructor
  · intro balanced'
    obtain ⟨bounds, equation⟩ := balanced
    obtain ⟨bounds', equation'⟩ := balanced'
    cases row
    case add | subtract | shiftRight | subtractFrom | shiftLeft =>
      dsimp only at equation equation'
      omega
    all_goals exact equation.elim
  · rintro ⟨rfl, rfl⟩
    exact balanced

/-- An addition is undone by the subtraction of the same operand, and the flags of the two are
opposite. -/
theorem balances_subtract_of_add (byte : first ≤ 255)
    (added : add.Balances first second result flag) :
    subtract.Balances result second first (1 - flag) := by
  obtain ⟨bounds, equation⟩ := added
  dsimp only at equation
  refine ⟨by omega, ?_⟩
  dsimp only
  omega

/-- The rows that leave a carry, a borrow or a bit that was shifted out in the flag register. -/
def flagging : List Row :=
  [add, subtract, shiftRight, subtractFrom, shiftLeft]

/-- The effect of such a row in terms of its equation.  The flag is written last. -/
theorem effect_balances (raises : row ∈ flagging) (word : UInt16) {state : Contents}
    (bytes : ∀ name, state.register name ≤ 255) :
    ∃ result flag,
      row.Balances (state.register (row.operand .x word)) (state.register (row.operand .y word))
        result flag ∧
      row.effect word state = (state.write (row.operand .x word) result).write 0xF flag := by
  have byte := bytes (row.operand .x word)
  have byte' := bytes (row.operand .y word)
  cases row
  case add | subtract | shiftRight | subtractFrom | shiftLeft =>
    refine ⟨_, _, ⟨⟨?_, ?_⟩, ?_⟩, rfl⟩
    · omega
    · split <;> omega
    · dsimp only
      split <;> omega
  all_goals exact absurd raises (by decide)

theorem execute_flagging (raises : row ∈ flagging) (word : UInt16) (machine : Machine) :
    ∃ after, (machine.execute (row.instruction word)).after = .ok after := by
  cases row
  case add | subtract | shiftRight | subtractFrom | shiftLeft => exact ⟨_, rfl⟩
  all_goals exact absurd raises (by decide)

end Row

namespace Machine

/-!
### Registers

The result is written first and the flag after it.  What is found in the registers then depends on
whether the two went into the same one, and on nothing else.
-/

theorem contents_register_le (machine : Machine) (name : Nat) :
    machine.contents.register name ≤ 255 := by
  change machine.registers.number name ≤ 255
  unfold Registers.number
  split
  · exact Nat.le_of_lt_succ (UInt8.toNat_lt _)
  · exact Nat.zero_le 255

variable {machine : Machine} {tracing : Bool} {advance : Int} {row : Row} {word : UInt16}

theorem dispatch_flagging (raises : row ∈ Row.flagging) (applies : row.Applies word) :
    let x := row.operand .x word
    let v := machine.contents.register
    let outcome := machine.dispatch tracing advance word
    ∃ result flag, row.Balances (v x) (v (row.operand .y word)) result flag ∧
      outcome.result = .ok () ∧
      outcome.machine.contents.register =
        Function.update (Function.update v x result) 0xF flag ∧
      outcome.machine =
        { machine with
          pc := machine.pc + advance
          registers := outcome.machine.registers } := by
  intro x v outcome
  let ready : Machine := { machine with pc := machine.pc + advance }
  obtain ⟨after, done⟩ := Row.execute_flagging raises word ready
  obtain ⟨result, flag, balanced, changed⟩ :=
    Row.effect_balances raises word ready.contents_register_le
  have ended : outcome.result = .ok () ∧ outcome.machine = after := by
    rw [show outcome = _ from dispatch_of_done (Row.decode_of_applies applies) done]
    exact ⟨rfl, rfl⟩
  have contents : outcome.machine.contents = (ready.contents.write x result).write 0xF flag := by
    rw [ended.2, Row.contents_execute done, changed]
  have registers : outcome.machine.contents.register =
      Function.update (Function.update v x result) 0xF flag :=
    congrArg Contents.register contents
  exact ⟨result, flag, balanced, ended.1, registers, eq_of_registers_changed contents⟩

/-- The difference reads what the sum left in `VX`, and its other operand is still the old one. -/
theorem register_subtract_of_add {sum difference : UInt16} (adds : Row.add.Applies sum)
    (subtracts : Row.subtract.Applies difference) {x y : Nat}
    (sumX : Row.add.operand .x sum = x) (sumY : Row.add.operand .y sum = y)
    (differenceX : Row.subtract.operand .x difference = x)
    (differenceY : Row.subtract.operand .y difference = y)
    (distinct : x ≠ y) (apart : x ≠ 0xF) (apart' : y ≠ 0xF) :
    let v := machine.contents.register
    let added := machine.dispatch tracing advance sum
    let restored := added.machine.dispatch tracing advance difference
    added.result = .ok () ∧ restored.result = .ok () ∧
      restored.machine.contents.register =
        Function.update v 0xF (1 - added.machine.contents.register 0xF) := by
  intro v added restored
  obtain ⟨result, flag, balanced, done, between, _⟩ :
      ∃ result flag, Row.add.Balances _ _ result flag ∧ added.result = .ok () ∧
        added.machine.contents.register = _ ∧ _ :=
    dispatch_flagging (by decide) adds
  obtain ⟨result', flag', balanced', done', after, _⟩ :
      ∃ result flag, Row.subtract.Balances _ _ result flag ∧ restored.result = .ok () ∧
        restored.machine.contents.register = _ ∧ _ :=
    dispatch_flagging (by decide) subtracts
  rw [sumX, sumY] at balanced
  rw [sumX] at between
  rw [differenceX, differenceY, between, Function.update_of_ne apart, Function.update_self,
    Function.update_of_ne apart', Function.update_of_ne distinct.symm] at balanced'
  obtain ⟨rfl, rfl⟩ := (Row.balances_iff balanced').mp
    (Row.balances_subtract_of_add (machine.contents_register_le x) balanced)
  refine ⟨done, done', ?_⟩
  -- Of the four writes the two into `VX` put back what was there.
  rw [after, differenceX, between, Function.update_self, Function.update_comm apart.symm,
    Function.update_idem, Function.update_idem, Function.update_eq_self]

/-- The arithmetic that raises the flag is exact, whichever of its registers are the same.

Unless `VX` is the flag register, the only byte and bit that settle the equation of the row for the
old operands are the new contents of `VX` and of the flag register.  If `VX` is the flag register,
the byte is lost and the bit stays.  Everything else is as it was, but for the program counter that
a step moves on before.  So a sum is undone by a difference if the three registers are distinct, and
the flag then is the opposite of the carry. -/
theorem flag_arithmetic_exact (machine : Machine) (tracing : Bool) (advance : Int) :
    let v := machine.contents.register
    (∀ (row : Row) (word : UInt16), row ∈ Row.flagging → row.Applies word →
      let x := row.operand .x word
      let y := row.operand .y word
      let outcome := machine.dispatch tracing advance word
      let v' := outcome.machine.contents.register
      outcome.result = .ok () ∧
      (x ≠ 0xF → ∀ result flag,
        row.Balances (v x) (v y) result flag ↔ v' x = result ∧ v' 0xF = flag) ∧
      (x = 0xF → ∀ flag, (∃ result, row.Balances (v x) (v y) result flag) ↔ v' 0xF = flag) ∧
      (∀ name, name ≠ x → name ≠ 0xF → v' name = v name) ∧
      outcome.machine =
        { machine with
          pc := machine.pc + advance
          registers := outcome.machine.registers }) ∧
    (∀ sum difference : UInt16, Row.add.Applies sum → Row.subtract.Applies difference →
      let x := Row.add.operand .x sum
      let y := Row.add.operand .y sum
      Row.subtract.operand .x difference = x → Row.subtract.operand .y difference = y →
      x ≠ y → x ≠ 0xF → y ≠ 0xF →
      let added := machine.dispatch tracing advance sum
      let restored := added.machine.dispatch tracing advance difference
      added.result = .ok () ∧ restored.result = .ok () ∧
        restored.machine.contents.register =
          Function.update v 0xF (1 - added.machine.contents.register 0xF)) := by
  intro v
  constructor
  · intro row word raises applies x y outcome v'
    obtain ⟨result, flag, balanced, done, registers, rest⟩ :
        ∃ result flag, row.Balances (v x) (v y) result flag ∧ outcome.result = .ok () ∧
          v' = Function.update (Function.update v x result) 0xF flag ∧ _ :=
      dispatch_flagging raises applies
    have raised : v' 0xF = flag := by rw [registers, Function.update_self]
    refine ⟨done, ?_, ?_, ?_, rest⟩
    · intro apart result' flag'
      have stored : v' x = result := by
        rw [registers, Function.update_of_ne apart, Function.update_self]
      rw [stored, raised]
      exact Row.balances_iff balanced
    · intro _ flag'
      simp only [raised, Row.balances_iff balanced, exists_eq_left']
    · intro name apart apart'
      rw [registers, Function.update_of_ne apart', Function.update_of_ne apart]
  · intro sum difference adds subtracts x y sameX sameY distinct apart apart' added restored
    exact register_subtract_of_add adds subtracts rfl rfl sameX sameY distinct apart apart'

/-- Three ways for registers to meet: `8F07` subtracts the flag register from `V0` and loses the
difference, `80F4` adds the flag register to `V0`, and `8014` followed by `8015` has three distinct
registers and gives `V0` back. -/
theorem flag_arithmetic_exact_aliased :
    let registers := (Registers.zeroed.set (Nibble.ofNat 0) 100).set (Nibble.ofNat 1) 200
    let machine := { powerOn default with registers := registers.set Registers.flag 200 }
    let after (word : UInt16) := (machine.dispatch false 2 word).machine
    (after 0x8F07).contents.register 0xF = 0 ∧
      ((after 0x80F4).contents.register 0x0 = 44 ∧ (after 0x80F4).contents.register 0xF = 1) ∧
      ((after 0x8014).dispatch false 2 0x8015).machine.contents.register =
        Function.update machine.contents.register 0xF 0 := by
  intro registers machine after
  obtain ⟨zero, one, flag⟩ :
      machine.contents.register 0x0 = 100 ∧ machine.contents.register 0x1 = 200 ∧
        machine.contents.register 0xF = 200 := by decide +kernel
  obtain ⟨arithmetic, restoring⟩ := flag_arithmetic_exact machine false 2
  obtain ⟨_, _, lost, _⟩ := arithmetic .subtractFrom 0x8F07 (by decide) (by decide)
  obtain ⟨_, kept, _⟩ := arithmetic .add 0x80F4 (by decide) (by decide)
  obtain ⟨_, carried, _⟩ := arithmetic .add 0x8014 (by decide) (by decide)
  obtain ⟨_, _, restored⟩ := restoring 0x8014 0x8015 (by decide) (by decide) (by decide)
    (by decide) (by decide) (by decide) (by decide)
  have borrow : Row.subtractFrom.Balances 200 100 156 0 := ⟨by decide, rfl⟩
  have carry : Row.add.Balances 100 200 44 1 := ⟨by decide, rfl⟩
  have lost' := (lost (by decide) 0).mp ⟨156, by
    rw [show Row.subtractFrom.operand .x 0x8F07 = 0xF by decide,
      show Row.subtractFrom.operand .y 0x8F07 = 0x0 by decide, flag, zero]
    exact borrow⟩
  have kept' := (kept (by decide) 44 1).mp (by
    rw [show Row.add.operand .x 0x80F4 = 0x0 by decide,
      show Row.add.operand .y 0x80F4 = 0xF by decide, flag, zero]
    exact carry)
  have carried' := (carried (by decide) 44 1).mp (by
    rw [show Row.add.operand .x 0x8014 = 0x0 by decide,
      show Row.add.operand .y 0x8014 = 0x1 by decide, one, zero]
    exact carry)
  refine ⟨lost', kept', ?_⟩
  rw [restored, carried'.2]

end Machine

end ChipEight

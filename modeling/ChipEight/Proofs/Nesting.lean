/-
Module: ChipEight.Proofs.Nesting
Purpose: Calls and returns match, whatever the program does between them.
Main exports: Machine.Idles, Machine.Advances, Machine.Run, Machine.Advances.stack,
  Machine.Run.oldest_kept, Machine.call_returns
-/
import ChipEight.Proofs.InstructionTable
import ChipEight.Proofs.Reachability

namespace ChipEight

open Result

theorem CallStack.length_oldestFirst (stack : CallStack) :
    stack.oldestFirst.length = stack.depth :=
  List.length_reverse

namespace Machine

/-!
### Runs

A run is a sequence of machines, each one step away from the one before.  Between two steps the
timers may tick and keys may be pressed and released.
-/

/-- From one machine to another the timers ticked and keys were pressed and released, in any order
and any number of times. -/
inductive Idles : Machine → Machine → Prop where
  | none (machine : Machine) : Idles machine machine
  | more {machine later : Machine} (earlier : Idles machine later) (tracing : Bool)
      (operation : Operation) (aside : operation.Aside) :
      Idles machine (later.apply tracing operation).machine

/-- One machine leads to another by one step that ends well, with time for the timers and the keypad
before and after it. -/
def Advances (machine after : Machine) : Prop :=
  ∃ (ready : Machine) (tracing goOn : Bool), machine.Idles ready ∧
    (ready.step tracing).result = .ok goOn ∧ (ready.step tracing).machine.Idles after

/-- The machines up to the one with the given number are those of a run. -/
def Run (state : Nat → Machine) (length : Nat) : Prop :=
  ∀ number < length, (state number).Advances (state (number + 1))

variable {machine ready after : Machine} {tracing goOn : Bool}

/-- Timers and keys have no influence on where the machine stands and returns to. -/
theorem Idles.control_kept (idles : machine.Idles after) :
    after.pc = machine.pc ∧ after.stack = machine.stack ∧ after.fetch = machine.fetch := by
  induction idles with
  | none => exact ⟨rfl, rfl, rfl⟩
  | more _ tracing operation aside ih =>
      obtain ⟨_, _, _, same⟩ := apply_aside _ tracing aside
      rw [same]
      exact ih

/-!
### One step

The call stack is looked at with the oldest address first, so that a call appends and a return takes
the last address away.  What is to the left of the end never moves.
-/

/-- A step leaves the call stack alone, or appends the address behind its word, or goes to the last
address and takes it away. -/
theorem step_stack (done : (machine.step tracing).result = .ok goOn) :
    (machine.step tracing).machine.stack = machine.stack ∨
    (machine.step tracing).machine.stack.oldestFirst =
      machine.stack.oldestFirst ++ [machine.pc + 2] ∨
    machine.stack.oldestFirst =
      (machine.step tracing).machine.stack.oldestFirst ++ [(machine.step tracing).machine.pc] := by
  obtain ⟨word, instruction, _, _, executed, _⟩ := step_ok_iff.mp ⟨done, rfl⟩
  rcases execute_control executed with ⟨same, _⟩ | ⟨_, pushed, _⟩ | popped
  · exact .inl same
  · refine .inr (.inl ?_)
    rw [CallStack.oldestFirst, pushed, List.reverse_cons]
    rfl
  · refine .inr (.inr ?_)
    change machine.stack.addresses = _ at popped
    rw [CallStack.oldestFirst, popped, List.reverse_cons]
    rfl

theorem step_call {word : UInt16} (fetched : machine.fetch = .ok word)
    (call : Row.call.Applies word) (done : (machine.step tracing).result = .ok goOn) :
    (machine.step tracing).machine.stack.oldestFirst =
      machine.stack.oldestFirst ++ [machine.pc + 2] := by
  obtain ⟨word', instruction, fetched', decoded, executed, _⟩ := step_ok_iff.mp ⟨done, rfl⟩
  cases fetched.symm.trans fetched'
  cases (Row.decode_of_applies call).symm.trans decoded
  rw [Row.instruction, after_call] at executed
  obtain ⟨stack, pushed, reached⟩ := map_eq_ok_iff.mp executed
  obtain ⟨_, rfl⟩ := CallStack.push_eq_ok_iff.mp pushed
  rw [← reached]
  exact List.reverse_cons

theorem Advances.stack (advances : machine.Advances after) :
    after.stack = machine.stack ∨
    after.stack.oldestFirst = machine.stack.oldestFirst ++ [machine.pc + 2] ∨
    machine.stack.oldestFirst = after.stack.oldestFirst ++ [after.pc] := by
  obtain ⟨ready, tracing, goOn, before, done, behind⟩ := advances
  obtain ⟨samePc, sameStack, _⟩ := before.control_kept
  obtain ⟨samePc', sameStack', _⟩ := behind.control_kept
  rw [samePc', sameStack', ← samePc, ← sameStack]
  exact step_stack done

theorem Advances.call {word : UInt16} (advances : machine.Advances after)
    (fetched : machine.fetch = .ok word) (call : Row.call.Applies word) :
    after.stack.oldestFirst = machine.stack.oldestFirst ++ [machine.pc + 2] := by
  obtain ⟨ready, tracing, goOn, before, done, behind⟩ := advances
  obtain ⟨samePc, sameStack, sameWord⟩ := before.control_kept
  obtain ⟨_, sameStack', _⟩ := behind.control_kept
  rw [sameStack', ← samePc, ← sameStack]
  exact step_call (sameWord.trans fetched) call done

/-- A step in which the depth goes down is a return. -/
theorem Advances.returned (advances : machine.Advances after)
    (lower : after.stack.depth < machine.stack.depth) :
    machine.stack.oldestFirst = after.stack.oldestFirst ++ [after.pc] := by
  rcases advances.stack with same | pushed | popped
  · rw [same] at lower
    exact absurd lower (Nat.lt_irrefl _)
  · have higher := congrArg List.length pushed
    rw [List.length_append, CallStack.length_oldestFirst, CallStack.length_oldestFirst] at higher
    omega
  · exact popped

/-- As long as the stack stays deep enough, a step does not change its oldest addresses. -/
theorem Advances.oldest_kept {depth : Nat} (advances : machine.Advances after)
    (deep : depth ≤ machine.stack.depth) (deep' : depth ≤ after.stack.depth) :
    after.stack.oldestFirst.take depth = machine.stack.oldestFirst.take depth := by
  rcases advances.stack with same | pushed | popped
  · rw [same]
  · rw [pushed, List.take_append_of_le_length]
    rw [CallStack.length_oldestFirst]
    exact deep
  · rw [popped, List.take_append_of_le_length]
    rw [CallStack.length_oldestFirst]
    exact deep'

/-!
### Whole runs
-/

variable {state : Nat → Machine} {length : Nat}

theorem Run.oldest_kept (run : Run state length) {depth first last : Nat} (order : first ≤ last)
    (inside : last ≤ length)
    (deep : ∀ number, first ≤ number → number ≤ last → depth ≤ (state number).stack.depth) :
    (state last).stack.oldestFirst.take depth = (state first).stack.oldestFirst.take depth := by
  induction order with
  | refl => rfl
  | step order ih =>
      next last =>
      have later := (run last inside).oldest_kept (deep last order (Nat.le_succ last))
        (deep (last + 1) (Nat.le_succ_of_le order) (Nat.le_refl _))
      have earlier := ih (Nat.le_of_succ_le inside) fun number low high =>
        deep number low (Nat.le_succ_of_le high)
      exact later.trans earlier

/-- The first return to the depth before a call is the return from this call. -/
theorem Run.returned_from_call {last : Nat} {word : UInt16} (run : Run state (last + 1))
    (long : 1 ≤ last) (fetched : (state 0).fetch = .ok word) (call : Row.call.Applies word)
    (deep : ∀ number, 1 ≤ number → number ≤ last →
      (state 0).stack.depth + 1 ≤ (state number).stack.depth)
    (back : (state (last + 1)).stack.depth = (state 0).stack.depth) :
    (state (last + 1)).pc = (state 0).pc + 2 ∧ (state (last + 1)).stack = (state 0).stack := by
  have called := (run 0 (Nat.succ_pos last)).call fetched call
  -- Up to the last step the oldest addresses are those right after the call.
  have kept : (state last).stack.oldestFirst.take ((state 0).stack.depth + 1) =
      (state 0).stack.oldestFirst ++ [(state 0).pc + 2] := by
    rw [run.oldest_kept long (Nat.le_succ last) deep, called]
    apply List.take_of_length_le
    rw [List.length_append, CallStack.length_oldestFirst]
    exact Nat.le_refl _
  -- The last step goes back to the last address that there is, so these are all.
  have popped := (run last (Nat.lt_succ_self last)).returned (by
    rw [back]
    exact deep last long (Nat.le_refl last))
  have all : (state last).stack.oldestFirst.length ≤ (state 0).stack.depth + 1 := by
    rw [popped, List.length_append, CallStack.length_oldestFirst, back]
    exact Nat.le_refl _
  rw [List.take_of_length_le all, popped] at kept
  obtain ⟨addresses, pc⟩ := List.append_inj' kept rfl
  exact ⟨List.singleton_inj.mp pc, congrArg CallStack.mk (List.reverse_injective addresses)⟩

/-- Whatever a subroutine does, and whatever it calls, jumps to and writes into memory meanwhile:
when the depth of the call stack is for the first time back at what it was before the call, the
machine stands behind the call and the whole stack is as it was.  And as long as a run does not fall
below a depth, that many of the oldest return addresses stay as they are. -/
theorem call_returns (run : Run state length) :
    (∀ word : UInt16, 2 ≤ length → (state 0).fetch = .ok word → Row.call.Applies word →
      (∀ number, 1 ≤ number → number < length →
        (state 0).stack.depth + 1 ≤ (state number).stack.depth) →
      (state length).stack.depth = (state 0).stack.depth →
      (state length).pc = (state 0).pc + 2 ∧ (state length).stack = (state 0).stack) ∧
    (∀ depth first last : Nat, first ≤ last → last ≤ length →
      (∀ number, first ≤ number → number ≤ last → depth ≤ (state number).stack.depth) →
      (state last).stack.oldestFirst.take depth = (state first).stack.oldestFirst.take depth) := by
  constructor
  · intro word long fetched call deep back
    obtain ⟨last, rfl⟩ : ∃ last, length = last + 1 := ⟨length - 1, by omega⟩
    exact run.returned_from_call (Nat.le_of_succ_le_succ long) fetched call
      (fun number low high => deep number low (Nat.lt_succ_of_le high)) back
  · intro depth first last order inside deep
    exact run.oldest_kept order inside deep

/-- A subroutine that calls another one: `2204` at `0x200`, `2208` at `0x204`, and returns at
`0x206` and `0x208`.  After each step the timers tick and a key is pressed. -/
theorem call_returns_nested :
    let start := started [0x22, 0x04, 0x00, 0x00, 0x22, 0x08, 0x00, 0xEE, 0x00, 0xEE]
    let later (machine : Machine) :=
      ((machine.step false).machine.tick.apply false (.setKey 5 1)).machine
    let state (number : Nat) := number.repeat later start
    Run state 4 ∧ (state 2).stack.oldestFirst = [0x202, 0x206] ∧
      (state 4).pc = 0x202 ∧ (state 4).stack = (state 0).stack := by
  intro start later state
  obtain ⟨done, fetched, deep, twoCalls, back⟩ :
      (∀ number < 4, ((state number).step false).result = .ok true) ∧
      (state 0).fetch = .ok 0x2204 ∧
      (∀ number < 4, 1 ≤ number → (state 0).stack.depth + 1 ≤ (state number).stack.depth) ∧
      (state 2).stack.oldestFirst = [0x202, 0x206] ∧
      (state 4).stack.depth = (state 0).stack.depth := by decide +kernel
  have run : Run state 4 := by
    intro number inside
    refine ⟨state number, false, true, .none _, done number inside, ?_⟩
    exact ((Idles.none _).more false .tick trivial).more false (.setKey 5 1) trivial
  obtain ⟨pc, stack⟩ := (call_returns run).1 0x2204 (by decide) fetched (by decide)
    (fun number low high => deep number high low) back
  exact ⟨run, twoCalls, pc, stack⟩

end Machine

end ChipEight

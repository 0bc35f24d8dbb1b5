/-
Module: ChipEight.Proofs.Reachability
Purpose: The machines that can be reached from the start, and the bounds that all of them keep.
Main exports: Machine.execute_control, Machine.Bounded, Machine.bounded_step, Operation.Aside,
  Machine.apply_aside, Machine.runCycles_preserves, Machine.apply_preserves, Machine.ReachableBy,
  Machine.Reachable, Snapshot.InBounds, Machine.snapshot_inBounds_of_reachable
-/
import ChipEight.Machine.Operation
import ChipEight.Machine.Report
import ChipEight.Proofs.Contents
import ChipEight.Proofs.Step

namespace ChipEight

open Result

namespace Machine

variable {machine after : Machine} {instruction : Instruction} {tracing : Bool}

/-!
### Where an instruction leads

Most parts of the machine are bounded by their types.  The program counter and the call stack are
not, so they need an invariant, and the instructions are sorted by what they do to these two.
-/

/-- An instruction leaves the call stack alone and stays close or jumps, or it pushes the address
behind itself, or it returns to the address that was pushed last. -/
theorem execute_control (done : (machine.execute instruction).after = .ok after) :
    (after.stack = machine.stack ∧
      (after.pc = machine.pc ∨ after.pc = machine.pc + 2 ∨ after.pc = machine.pc - 2 ∨
        ∃ (target : Address) (offset : UInt8), after.pc = target.val + offset.toNat)) ∨
    (machine.stack.depth < 16 ∧ after.stack.addresses = machine.pc :: machine.stack.addresses ∧
      ∃ target : Address, after.pc = target.val) ∨
    machine.stack.addresses = after.pc :: after.stack.addresses := by
  cases instruction
  case call target =>
    rw [after_call] at done
    obtain ⟨stack, pushed, rfl⟩ := map_eq_ok_iff.mp done
    obtain ⟨room, rfl⟩ := CallStack.push_eq_ok_iff.mp pushed
    exact .inr (.inl ⟨room, rfl, target, rfl⟩)
  case returnFromCall =>
    rw [after_returnFromCall] at done
    obtain ⟨⟨address, stack⟩, popped, rfl⟩ := map_eq_ok_iff.mp done
    exact .inr (.inr (CallStack.pop_eq_ok_iff.mp popped))
  case draw | storeDecimal | storeRegisters | loadRegisters =>
    simp only [after_draw, after_storeDecimal, after_storeRegisters, after_loadRegisters] at done
    obtain ⟨_, _, rfl⟩ := map_eq_ok_iff.mp done
    exact .inl ⟨rfl, .inl rfl⟩
  all_goals
    rw [execute, Outcome.after_done] at done
    cases done
  case jump target => exact .inl ⟨rfl, .inr (.inr (.inr ⟨target, 0, by simp⟩))⟩
  case jumpFrom target => exact .inl ⟨rfl, .inr (.inr (.inr ⟨target, _, rfl⟩))⟩
  case skipIfByte | skipUnlessByte | skipIfSame | skipUnlessSame | skipIfPressed |
      skipUnlessPressed =>
    rw [skipWhen_eq]
    dsimp only
    split
    · exact .inl ⟨rfl, .inr (.inl rfl)⟩
    · exact .inl ⟨rfl, .inl rfl⟩
  case awaitKey x =>
    unfold takeKey
    split
    · exact .inl ⟨rfl, .inr (.inr (.inl rfl))⟩
    · exact .inl ⟨rfl, .inl rfl⟩
  all_goals exact .inl ⟨rfl, .inl rfl⟩

/-!
### The invariant

An indexed jump leads furthest, to `0xFFF` and the largest byte.  What is pushed is always the
address behind a word that was fetched, hence no more than the end of memory.
-/

/-- The program counter and the call stack are within their bounds. -/
structure Bounded (machine : Machine) : Prop where
  pc_nonneg : 0 ≤ machine.pc
  pc_le : machine.pc ≤ 0x10FE
  depth_le : machine.stack.depth ≤ 16
  returns : ∀ address ∈ machine.stack.addresses, 2 ≤ address ∧ address ≤ 0x1000

theorem bounded_powerOn (random : RandomSource) : (powerOn random).Bounded where
  pc_nonneg := show (0 : Int) ≤ 0x200 by decide
  pc_le := show (0x200 : Int) ≤ 0x10FE by decide
  depth_le := Nat.zero_le 16
  returns := fun _ none => (List.not_mem_nil none).elim

/-- Nothing but the program counter and the call stack matters. -/
theorem Bounded.congr (bounded : machine.Bounded) (samePc : after.pc = machine.pc)
    (sameStack : after.stack = machine.stack) : after.Bounded where
  pc_nonneg := samePc ▸ bounded.pc_nonneg
  pc_le := samePc ▸ bounded.pc_le
  depth_le := sameStack ▸ bounded.depth_le
  returns := sameStack ▸ bounded.returns

/-- An instruction that was fetched from inside memory keeps the bounds. -/
theorem bounded_execute (bounded : machine.Bounded) (behind : 2 ≤ machine.pc ∧ machine.pc ≤ 0x1000)
    (done : (machine.execute instruction).after = .ok after) : after.Bounded := by
  rcases execute_control done with
    ⟨stack, reached⟩ | ⟨room, pushed, target, reached⟩ | popped
  · have near : 0 ≤ after.pc ∧ after.pc ≤ 0x10FE := by
      rcases reached with same | next | back | ⟨target, offset, reached⟩
      · omega
      · omega
      · omega
      · have low := target.isLt
        have high := offset.toNat_lt
        omega
    exact ⟨near.1, near.2, stack ▸ bounded.depth_le, stack ▸ bounded.returns⟩
  · have low := target.isLt
    refine ⟨by omega, by omega, ?_, ?_⟩
    · rw [CallStack.depth, pushed]
      exact room
    · rw [pushed]
      exact List.forall_mem_cons.mpr ⟨behind, bounded.returns⟩
  · have returns := bounded.returns
    have depth := bounded.depth_le
    rw [popped] at returns
    rw [CallStack.depth, popped] at depth
    obtain ⟨⟨low, high⟩, returns⟩ := List.forall_mem_cons.mp returns
    exact ⟨by omega, by omega, Nat.le_of_succ_le depth, returns⟩

/-- A step keeps the bounds, whether it ends well or not. -/
theorem bounded_step (bounded : machine.Bounded) : (machine.step tracing).machine.Bounded := by
  -- A word was fetched from inside memory, so behind it the program counter is at most its end.
  have advanced {word : UInt16} (fetched : machine.fetch = .ok word) :
      machine.advanced.Bounded ∧ 2 ≤ machine.advanced.pc ∧ machine.advanced.pc ≤ 0x1000 := by
    have inside := (Memory.word_eq_ok_iff.mp fetched).1
    have pc : machine.advanced.pc = machine.pc + 2 := rfl
    exact ⟨⟨by omega, by omega, bounded.depth_le, bounded.returns⟩, by omega, by omega⟩
  cases result : (machine.step tracing).result with
  | error fault =>
      rcases step_error_iff.mp ⟨result, rfl⟩ with
        ⟨_, same⟩ | ⟨word, _, _, _, same⟩ | ⟨word, instruction, fetched, _, _, same⟩
      · rw [same]
        exact bounded
      · rw [same]
        exact bounded
      · rw [same]
        exact (advanced fetched).1
  | ok goOn =>
      obtain ⟨word, instruction, fetched, _, done, _⟩ := step_ok_iff.mp ⟨result, rfl⟩
      obtain ⟨bounded, behind⟩ := advanced fetched
      exact bounded_execute bounded behind done

end Machine

/-!
### Operations

Three kinds of operations concern the timers and the keypad and nothing else.  A property that does
not look at these is therefore kept by all operations once it is kept by a step, by loading and by
switching off and on.  This includes operations that are refused in the middle, as a frame can be.
-/

/-- The operation concerns the timers and the keypad only. -/
def Operation.Aside : Operation → Prop
  | .tick | .setKey _ _ | .handle _ => True
  | _ => False

namespace Machine

variable {machine after : Machine} {tracing : Bool} {operation : Operation}

/-- An event does the same to the keypad of every machine, and nothing else. -/
theorem handle_eq (event : Event) :
    ∃ (press : Keypad → Keypad) (goOn : Bool), ∀ machine : Machine,
      machine.handle event = ({ machine with keypad := press machine.keypad }, goOn) := by
  have assigned (code : Int) (down : Bool) :
      ∃ press : Keypad → Keypad, ∀ machine : Machine,
        machine.assignKey code down = { machine with keypad := press machine.keypad } := by
    unfold assignKey
    cases Keyboard.keyFor? code with
    | none => exact ⟨id, fun _ => rfl⟩
    | some key => exact ⟨fun keypad => keypad.assign key down, fun _ => rfl⟩
  cases event with
  | quit => exact ⟨id, false, fun _ => rfl⟩
  | keyDown code =>
      by_cases escape : code = Keyboard.escape
      · refine ⟨id, false, fun machine => ?_⟩
        rw [handle, if_pos escape]
        rfl
      · obtain ⟨press, same⟩ := assigned code true
        refine ⟨press, true, fun machine => ?_⟩
        rw [handle, if_neg escape, same]
  | keyUp code =>
      obtain ⟨press, same⟩ := assigned code false
      exact ⟨press, true, fun machine => congrArg (Prod.mk · true) (same machine)⟩
  | other => exact ⟨id, true, fun _ => rfl⟩

theorem apply_aside (machine : Machine) (tracing : Bool) (aside : operation.Aside) :
    ∃ delay sound keypad,
      (machine.apply tracing operation).machine = { machine with delay, sound, keypad } := by
  cases operation with
  | tick => exact ⟨_, _, machine.keypad, rfl⟩
  | setKey number down =>
      rw [apply]
      cases machine.keypad.set number down with
      | error complaint => exact ⟨machine.delay, machine.sound, machine.keypad, rfl⟩
      | ok keypad => exact ⟨machine.delay, machine.sound, keypad, rfl⟩
  | handle event =>
      obtain ⟨_, _, same⟩ := handle_eq event
      rw [apply, same]
      exact ⟨machine.delay, machine.sound, _, rfl⟩
  | step | perform | load | reset | frame => exact aside.elim

/-- What every step and the lowering of the drawing flag keep is kept by a run of cycles. -/
theorem runCycles_preserves {property : Machine → Prop}
    (stepped : ∀ machine, property machine → property (machine.step tracing).machine)
    (lowered : ∀ machine, property machine → property { machine with draw := false })
    {cycles : Nat} {redraw : Bool} {printed : String} (holds : property machine) :
    property (runCycles tracing cycles redraw printed machine).machine := by
  induction cycles generalizing machine redraw printed with
  | zero => exact holds
  | succ cycles ih =>
      rw [runCycles]
      dsimp only
      split
      · exact stepped machine holds
      · exact ih (lowered _ (stepped machine holds))

/-- A property that is blind to timers, keypad and drawing flag is kept by every operation but that
of carrying out a given word, provided that steps, programs that are loaded and a new start keep
it. -/
theorem apply_preserves {property : Machine → Prop}
    (stepped : ∀ machine, property machine → property (machine.step tracing).machine)
    (blind : ∀ machine delay sound keypad draw, property machine →
      property { machine with delay, sound, keypad, draw })
    (started : ∀ random, property (powerOn random))
    (loaded : ∀ program memory, operation = .load program →
      machine.memory.load program = .ok memory → property { machine with memory })
    (fetching : ∀ word, operation ≠ .perform word) (holds : property machine) :
    property (machine.apply tracing operation).machine := by
  have asides (aside : operation.Aside) : property (machine.apply tracing operation).machine := by
    obtain ⟨delay, sound, keypad, same⟩ := machine.apply_aside tracing aside
    rw [same]
    exact blind machine delay sound keypad machine.draw holds
  cases operation with
  | step => exact stepped machine holds
  | perform word => exact absurd rfl (fetching word)
  | tick | setKey | handle => exact asides trivial
  | load program =>
      rw [apply, load]
      cases put : machine.memory.load program with
      | error fault => exact holds
      | ok memory => exact loaded program memory rfl put
  | reset => exact started machine.random
  | frame cycles =>
      have ran : property (runCycles tracing cycles.toNat false "" machine).machine := by
        apply runCycles_preserves stepped _ holds
        intro machine holds
        exact blind machine machine.delay machine.sound machine.keypad false holds
      change property (machine.runFrame tracing cycles).machine
      rw [runFrame]
      split
      · exact ran
      · exact blind _ _ _ _ _ ran

/-- Every operation but that of carrying out a given word keeps the bounds. -/
theorem bounded_apply (bounded : machine.Bounded) (fetching : ∀ word, operation ≠ .perform word) :
    (machine.apply tracing operation).machine.Bounded := by
  apply apply_preserves _ _ bounded_powerOn _ fetching bounded
  · intro machine bounded
    exact bounded_step bounded
  · intro machine _ _ _ _ bounded
    exact bounded.congr rfl rfl
  · intro _ _ _ _
    exact bounded.congr rfl rfl

/-!
### Reachable machines

Which operations are allowed may depend on the machine that they meet.
-/

/-- The machines that can be reached from one that was just switched on, by allowed operations.
These may be refused. -/
inductive ReachableBy (allowed : Machine → Operation → Prop) : Machine → Prop where
  | start (random : RandomSource) : ReachableBy allowed (powerOn random)
  | next {machine : Machine} (earlier : ReachableBy allowed machine) (tracing : Bool)
      (operation : Operation) (permitted : allowed machine operation) :
      ReachableBy allowed (machine.apply tracing operation).machine

/-- What every machine that was just switched on has, and every allowed operation keeps, all
machines have that can be reached. -/
theorem ReachableBy.invariant {allowed : Machine → Operation → Prop} {property : Machine → Prop}
    (reached : machine.ReachableBy allowed) (initial : ∀ random, property (powerOn random))
    (kept : ∀ {machine tracing operation}, property machine → allowed machine operation →
      property (machine.apply tracing operation).machine) : property machine := by
  induction reached with
  | start random => exact initial random
  | next _ _ _ permitted ih => exact kept ih permitted

/-- The machines that can be reached when no operation carries out a word that was not fetched. -/
def Reachable : Machine → Prop :=
  ReachableBy fun _ operation => ∀ word, operation ≠ .perform word

theorem Reachable.bounded (reachable : machine.Reachable) : machine.Bounded :=
  reachable.invariant bounded_powerOn bounded_apply

end Machine

/-- Every part of a state has its size, and every number in it is within its bounds. -/
structure Snapshot.InBounds (state : Snapshot) : Prop where
  memory_length : state.memory.length = 4096
  memory_bytes : ∀ byte ∈ state.memory, byte.toNat ≤ 255
  registers_length : state.registers.length = 16
  registers_bytes : ∀ value ∈ state.registers, value.toNat ≤ 255
  index_le : state.index.toNat ≤ 0xFFFF
  pc_nonneg : 0 ≤ state.pc
  pc_le : state.pc ≤ 0x10FE
  stack_length : state.stack.length ≤ 16
  stack_addresses : ∀ address ∈ state.stack, 2 ≤ address ∧ address ≤ 0x1000
  delay_le : state.delay.toNat ≤ 255
  sound_le : state.sound.toNat ≤ 255
  keys_length : state.keys.length = 16
  screen_length : state.screen.flatten.length = 2048
  screen_pixels : ∀ pixel ∈ state.screen.flatten, pixel.toNat = 0 ∨ pixel.toNat = 1

/-- A screen of 32 rows with 64 pixels each. -/
theorem Framebuffer.length_flatten_rows {width height : Int} (screen : Framebuffer width height) :
    screen.rows.flatten.length = width.toNat * height.toNat := by
  have rows : ∀ pixels ∈ screen.rows, pixels.length = width.toNat := by
    intro pixels found
    obtain ⟨y, below, rfl⟩ := List.mem_map.mp found
    exact length_row screen (List.mem_range.mp below)
  rw [List.length_flatten, List.map_congr_left rows]
  simp [Framebuffer.rows, Function.comp_def, Nat.mul_comm]

/-- Whatever was done to a machine, its state is within its bounds. -/
theorem Machine.snapshot_inBounds_of_reachable {machine : Machine}
    (reachable : machine.Reachable) : machine.snapshot.InBounds where
  memory_length := machine.memory.bytes.length_toList
  memory_bytes := fun byte _ => Nat.le_of_lt_succ byte.toNat_lt
  registers_length := machine.registers.cells.length_toList
  registers_bytes := fun value _ => Nat.le_of_lt_succ value.toNat_lt
  index_le := Nat.le_of_lt_succ machine.index.toNat_lt
  pc_nonneg := reachable.bounded.pc_nonneg
  pc_le := reachable.bounded.pc_le
  stack_length := by
    rw [snapshot, CallStack.oldestFirst, List.length_reverse]
    exact reachable.bounded.depth_le
  stack_addresses := by
    intro address pending
    exact reachable.bounded.returns address (List.mem_reverse.mp pending)
  delay_le := Nat.le_of_lt_succ machine.delay.toNat_lt
  sound_le := Nat.le_of_lt_succ machine.sound.toNat_lt
  keys_length := machine.keypad.pressed.length_toList
  screen_length := machine.screen.length_flatten_rows
  screen_pixels := by
    intro pixel _
    cases pixel
    · exact .inl rfl
    · exact .inr rfl

/-- A program that fails in its first step, and a frame after that. -/
theorem Machine.snapshot_inBounds_of_refused :
    let loaded := ((powerOn default).apply false (.load [0x00, 0xEE])).machine
    let refused := (loaded.apply false .step).machine
    (refused.apply true (.frame 3)).machine.snapshot.InBounds := by
  intro loaded refused
  have start : loaded.Reachable := (ReachableBy.start default).next false _ nofun
  have failed : refused.Reachable := start.next false _ nofun
  exact snapshot_inBounds_of_reachable (failed.next true _ nofun)

end ChipEight

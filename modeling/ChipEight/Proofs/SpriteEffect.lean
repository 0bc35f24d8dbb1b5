/-
Module: ChipEight.Proofs.SpriteEffect
Purpose: What the drawing instruction leaves on the screen and in the flag register.
Main exports: Contents.pixel_drawSprite, Contents.pixel_drawSprite_of_beside,
  Contents.collides_iff_turnedOff, Contents.register_drawSprite, Machine.perform_draw,
  Machine.draws_clipped_sprite
-/
import ChipEight.Proofs.Conformance

namespace ChipEight

/-!
### Pixels and the flag

The corner of a sprite lies on the screen, but its rectangle may reach over the right and the lower
edge.  The part beyond is lost: it does not come in again at the opposite edge.
-/

namespace Contents

variable {state : Contents} {left top height x y name : Nat}

theorem pixel_drawSprite (wide : x < 64) (high : y < 32) :
    (state.drawSprite left top height).pixel x y =
      (state.pixel x y ^^ decide (state.Covers left top height x y)) := by
  simp only [drawSprite, wide, high, and_self, true_and]

/-- Only pixels in the rectangle of the sprite can change. -/
theorem pixel_drawSprite_of_beside
    (beside : ¬ ((left ≤ x ∧ x < left + 8) ∧ (top ≤ y ∧ y < top + height))) :
    (state.drawSprite left top height).pixel x y = state.pixel x y := by
  have uncovered : ¬ ((x < 64 ∧ y < 32) ∧ state.Covers left top height x y) := by
    rintro ⟨_, columns, rows, _⟩
    exact beside ⟨columns, rows⟩
  simp only [drawSprite, uncovered, decide_false, Bool.xor_false]

/-- The pixels that collide are those that drawing turns off. -/
theorem collides_iff_turnedOff :
    state.Collides left top height ↔
      ∃ x < 64, ∃ y < 32, state.pixel x y = true ∧
        (state.drawSprite left top height).pixel x y = false := by
  constructor
  · rintro ⟨x, wide, y, high, on, covered⟩
    refine ⟨x, wide, y, high, on, ?_⟩
    rw [pixel_drawSprite wide high, on, decide_eq_true covered, Bool.xor_self]
  · rintro ⟨x, wide, y, high, on, off⟩
    refine ⟨x, wide, y, high, on, ?_⟩
    rw [pixel_drawSprite wide high, on, Bool.true_xor, Bool.not_eq_false'] at off
    exact of_decide_eq_true off

theorem register_drawSprite (different : name ≠ 0xF) :
    (state.drawSprite left top height).register name = state.register name :=
  Function.update_of_ne different _ _

theorem flag_drawSprite :
    (state.drawSprite left top height).register 0xF =
      if state.Collides left top height then 1 else 0 := by
  simp only [drawSprite, Function.update_self]

end Contents

namespace Machine

variable {machine : Machine} {tracing : Bool} {word : UInt16}

/-- The drawing instruction draws the bytes at `I` if they all lie in memory.  Both coordinates are
read before the flag register is set. -/
theorem perform_draw (draws : Row.draw.Applies word)
    (fits : machine.index.toNat + Row.draw.operand .n word ≤ 0x1000) :
    (machine.perform tracing word).result = .ok () ∧
      (machine.perform tracing word).machine =
        machine.drawn (machine.spriteAtIndex (Row.draw.operand .n word))
          (machine.contents.register (Row.draw.operand .x word) % 64)
          (machine.contents.register (Row.draw.operand .y word) % 32) := by
  have height : Row.draw.operand .n word = (Instruction.n word).val := Row.operand_n _ _
  rw [height] at fits ⊢
  rw [Row.operand_x _ _ (by decide), Row.operand_y _ _ (by decide), contents_register,
    contents_register]
  have done : (machine.execute (Row.draw.instruction word)).after = .ok _ :=
    after_draw_eq_ok_iff.mpr ⟨fits, rfl⟩
  exact perform_of_done (Row.decode_of_applies draws) done

/-- The drawing instruction draws exactly the clipped sprite, at every state in which the bytes of
the sprite lie in memory.

The coordinates come from the registers as they were before, also when one of them is the flag
register, and the corner is brought onto the screen by wrapping round.  Every pixel of the screen is
then the exclusive or of what it was and the sprite, and the pixels beside the rectangle of the
sprite stay as they were.  The flag register tells whether a pixel was turned off, the drawing flag
is up, and everything else is unchanged. -/
theorem draws_clipped_sprite (machine : Machine) (tracing : Bool) (word : UInt16)
    (draws : Row.draw.Applies word)
    (fits : machine.index.toNat + Row.draw.operand .n word ≤ 0x1000) :
    let before := machine.contents
    let left := before.register (Row.draw.operand .x word) % 64
    let top := before.register (Row.draw.operand .y word) % 32
    let height := Row.draw.operand .n word
    let outcome := machine.perform tracing word
    let after := outcome.machine.contents
    outcome.result = .ok () ∧
      (∀ x < 64, ∀ y < 32,
        after.pixel x y = (before.pixel x y ^^ decide (before.Covers left top height x y))) ∧
      (∀ x y, ¬ ((left ≤ x ∧ x < left + 8) ∧ (top ≤ y ∧ y < top + height)) →
        after.pixel x y = before.pixel x y) ∧
      after.register 0xF = (if before.Collides left top height then 1 else 0) ∧
      (before.Collides left top height ↔
        ∃ x < 64, ∃ y < 32, before.pixel x y = true ∧ after.pixel x y = false) ∧
      (∀ name, name ≠ 0xF → after.register name = before.register name) ∧
      outcome.machine =
        { machine with
          screen := outcome.machine.screen
          registers := outcome.machine.registers
          draw := true } := by
  intro before left top height outcome after
  obtain ⟨done, drawn⟩ : outcome.result = .ok () ∧ outcome.machine = _ := perform_draw draws fits
  have pictured : after = before.drawSprite left top height :=
    (congrArg contents drawn).trans (machine.contents_drawn left top height)
  rw [pictured]
  refine ⟨done, ?_, ?_, Contents.flag_drawSprite, Contents.collides_iff_turnedOff, ?_, ?_⟩
  · intro x wide y high
    exact Contents.pixel_drawSprite wide high
  · intro x y beside
    exact Contents.pixel_drawSprite_of_beside beside
  · intro name different
    exact Contents.register_drawSprite different
  · rw [drawn]
    rfl

/-- The upper two rows of the digit `0` at the lower right corner of a screen of which that corner
is on.  The column is in the flag register.  Two of the sixteen pixels lie on the screen: one is
turned on and the corner off, and no pixel at the left or the upper edge changes. -/
theorem draws_clipped_sprite_corner :
    let registers := (Registers.zeroed.set Registers.flag 62).set (Nibble.ofNat 1) 31
    let machine :=
      { powerOn default with
        registers, index := 0x050, screen := Framebuffer.blank.paint 63 31 true }
    let after := (machine.perform false 0xDF12).machine.contents
    after.pixel 62 31 = true ∧ after.pixel 63 31 = false ∧ after.pixel 0 31 = false ∧
      after.pixel 62 0 = false ∧ after.register 0xF = 1 := by
  intro registers machine after
  obtain ⟨left, top, height⟩ :
      machine.contents.register (Row.draw.operand .x 0xDF12) % 64 = 62 ∧
        machine.contents.register (Row.draw.operand .y 0xDF12) % 32 = 31 ∧
        Row.draw.operand .n 0xDF12 = 2 := by decide +kernel
  obtain ⟨covered, covered'⟩ :
      machine.contents.Covers 62 31 2 62 31 ∧ machine.contents.Covers 62 31 2 63 31 := by
    decide +kernel
  obtain ⟨off, on, offLeft, offTop⟩ :
      machine.contents.pixel 62 31 = false ∧ machine.contents.pixel 63 31 = true ∧
        machine.contents.pixel 0 31 = false ∧ machine.contents.pixel 62 0 = false := by
    decide +kernel
  have clipped := draws_clipped_sprite machine false 0xDF12 (by decide) (by decide)
  dsimp only at clipped
  rw [left, top, height] at clipped
  obtain ⟨_, inside, beside, flag, _, _, _⟩ := clipped
  refine ⟨?_, ?_, ?_, ?_, ?_⟩
  · rw [inside 62 (by decide) 31 (by decide), off, decide_eq_true covered, Bool.false_xor]
  · rw [inside 63 (by decide) 31 (by decide), on, decide_eq_true covered', Bool.xor_self]
  · rw [beside 0 31 (by decide), offLeft]
  · rw [beside 62 0 (by decide), offTop]
  · rw [flag, if_pos ⟨63, by decide, 31, by decide, on, covered'⟩]

end Machine

end ChipEight

/-
Module: ChipEight.Proofs.Superposition
Purpose: Sprites add up on the screen: their order does not matter, and equal ones cancel.
Main exports: Drawing, Stroke, Stroke.word, Machine.drawStroke, Machine.drawAll,
  Machine.drawStroke_spec, Drawing.coverage, Machine.pixelAt_drawAll, Machine.drawings_superpose
-/
import ChipEight.Proofs.SpriteEffect
import Mathlib.Data.Nat.Bits

namespace ChipEight

/-!
### Drawings

A drawing says what is to be seen, and a stroke how the machine is told.  The registers that carry
the coordinates are part of the stroke only.
-/

/-- A sprite in memory and the position of its corner, which need not be on the screen. -/
structure Drawing where
  left : UInt8
  top : UInt8
  address : UInt16
  height : Nibble
  fits : address.toNat + height.val ≤ 0x1000

namespace Drawing

/-- The bytes that are drawn. -/
def sprite (drawing : Drawing) (memory : Memory) : Sprite :=
  (List.range' drawing.address.toNat drawing.height.val).map memory.byteAt

/-- Whether a drawing covers a position, its corner having been brought onto the screen. -/
def covers (drawing : Drawing) (memory : Memory) (x y : Int) : Bool :=
  (drawing.sprite memory).mask (drawing.left.toNat % 64 : Nat) (drawing.top.toNat % 32 : Nat) x y

end Drawing

/-- A drawing and the two registers for its coordinates. -/
structure Stroke where
  drawing : Drawing
  x : Register
  y : Register
  distinct : x ≠ y

namespace Stroke

/-- The word that draws with the registers of a stroke. -/
def word (stroke : Stroke) : UInt16 :=
  UInt16.ofNat (0xD000 + 0x100 * stroke.x.val + 0x10 * stroke.y.val + stroke.drawing.height.val)

theorem toNat_word (stroke : Stroke) :
    stroke.word.toNat =
      0xD000 + 0x100 * stroke.x.val + 0x10 * stroke.y.val + stroke.drawing.height.val := by
  have x := stroke.x.isLt
  have y := stroke.y.isLt
  have height := stroke.drawing.height.isLt
  rw [word, UInt16.toNat_ofNat']
  omega

theorem draws_word (stroke : Stroke) : Row.draw.Applies stroke.word := by
  have x := stroke.x.isLt
  have y := stroke.y.isLt
  have height := stroke.drawing.height.isLt
  simp [Row.Applies, Row.places, Row.pattern, Row.digits, Place.Fits, toNat_word]
  omega

theorem operand_word (stroke : Stroke) :
    Row.draw.operand .x stroke.word = stroke.x.val ∧
      Row.draw.operand .y stroke.word = stroke.y.val ∧
      Row.draw.operand .n stroke.word = stroke.drawing.height.val := by
  have x := stroke.x.isLt
  have y := stroke.y.isLt
  have height := stroke.drawing.height.isLt
  simp [Row.operand, Row.places, Row.pattern, Row.digits, toNat_word]
  omega

/-- The machine with its registers and `I` set for a stroke. -/
def aim (stroke : Stroke) (machine : Machine) : Machine :=
  { (machine.setV stroke.x stroke.drawing.left).setV stroke.y stroke.drawing.top with
    index := stroke.drawing.address }

theorem register_aim (stroke : Stroke) (machine : Machine) :
    (stroke.aim machine).contents.register stroke.x.val = stroke.drawing.left.toNat ∧
      (stroke.aim machine).contents.register stroke.y.val = stroke.drawing.top.toNat := by
  have registers : (stroke.aim machine).contents.register =
      ((machine.setV stroke.x stroke.drawing.left).setV stroke.y
        stroke.drawing.top).contents.register := rfl
  have apart : stroke.x.val ≠ stroke.y.val := fun same => stroke.distinct (Fin.ext same)
  rw [registers, Machine.contents_setV, Machine.contents_setV]
  constructor
  · simp only [Contents.write, Function.update_of_ne apart, Function.update_self]
  · simp only [Contents.write, Function.update_self]

end Stroke

namespace Machine

/-- Set the registers and `I` for a stroke, and carry out its word. -/
def drawStroke (machine : Machine) (tracing : Bool) (stroke : Stroke) : Outcome Fault Unit :=
  (stroke.aim machine).perform tracing stroke.word

/-- The machine after a list of strokes. -/
def drawAll (machine : Machine) (tracing : Bool) (strokes : List Stroke) : Machine :=
  strokes.foldl (fun before stroke => (before.drawStroke tracing stroke).machine) machine

/-!
### One stroke

A stroke cannot fail, and neither the screen nor the registers tell it which pixels to flip.  Memory
does, but it stays as it is.
-/

theorem drawStroke_spec (machine : Machine) (tracing : Bool) (stroke : Stroke) :
    let outcome := machine.drawStroke tracing stroke
    outcome.result = .ok () ∧ outcome.machine.memory = machine.memory ∧
      ∀ x y : Int, outcome.machine.screen.pixelAt x y =
        (machine.screen.pixelAt x y ^^
          (decide (Framebuffer.Inside 64 32 x y) && stroke.drawing.covers machine.memory x y)) := by
  intro outcome
  obtain ⟨x, y, height⟩ := stroke.operand_word
  obtain ⟨left, top⟩ := stroke.register_aim machine
  have fits : (stroke.aim machine).index.toNat + Row.draw.operand .n stroke.word ≤ 0x1000 := by
    rw [height]
    exact stroke.drawing.fits
  obtain ⟨done, drawn⟩ : outcome.result = .ok () ∧ outcome.machine = _ :=
    perform_draw stroke.draws_word fits
  rw [x, y, height, left, top] at drawn
  rw [drawn]
  exact ⟨done, rfl, Framebuffer.pixelAt_drawSprite machine.screen _ _ _⟩

end Machine

/-!
### Many strokes

What a pixel is in the end depends only on how many of the drawings cover it, and of that number
only on whether it is odd.
-/

namespace Drawing

/-- How many of the drawings cover a position. -/
def coverage (drawings : List Drawing) (memory : Memory) (x y : Int) : Nat :=
  drawings.countP fun drawing => drawing.covers memory x y

theorem bodd_coverage_cons (drawing : Drawing) (rest : List Drawing) (memory : Memory) (x y : Int) :
    (coverage (drawing :: rest) memory x y).bodd =
      (drawing.covers memory x y ^^ (coverage rest memory x y).bodd) := by
  rw [coverage, List.countP_cons, Nat.bodd_add, Bool.xor_comm, ← coverage]
  cases drawing.covers memory x y with
  | false => rfl
  | true => rfl

theorem coverage_perm {drawings others : List Drawing} (rearranged : drawings.Perm others)
    (memory : Memory) (x y : Int) :
    coverage drawings memory x y = coverage others memory x y :=
  rearranged.countP_eq _

/-- Two equal drawings cover a pixel both or neither, wherever they stand. -/
theorem bodd_coverage_twice (drawing : Drawing) (first middle last : List Drawing)
    (memory : Memory) (x y : Int) :
    (coverage (first ++ drawing :: (middle ++ drawing :: last)) memory x y).bodd =
      (coverage (first ++ (middle ++ last)) memory x y).bodd := by
  have collected : (first ++ drawing :: (middle ++ drawing :: last)).Perm
      (drawing :: drawing :: (first ++ (middle ++ last))) := by
    refine List.perm_middle.trans (List.Perm.cons drawing ?_)
    rw [← List.append_assoc, ← List.append_assoc]
    exact List.perm_middle
  rw [coverage_perm collected, bodd_coverage_cons, bodd_coverage_cons, ← Bool.xor_assoc,
    Bool.xor_self, Bool.false_xor]

end Drawing

namespace Machine

theorem pixelAt_drawAll (machine : Machine) (tracing : Bool) (strokes : List Stroke) (x y : Int) :
    (machine.drawAll tracing strokes).screen.pixelAt x y =
      (machine.screen.pixelAt x y ^^
        (decide (Framebuffer.Inside 64 32 x y) &&
          (Drawing.coverage (strokes.map Stroke.drawing) machine.memory x y).bodd)) := by
  induction strokes generalizing machine with
  | nil => simp [drawAll, Drawing.coverage]
  | cons stroke rest ih =>
      obtain ⟨_, memory, pixels⟩ := machine.drawStroke_spec tracing stroke
      have next : machine.drawAll tracing (stroke :: rest) =
          (machine.drawStroke tracing stroke).machine.drawAll tracing rest := rfl
      rw [next, ih, memory, pixels, List.map_cons, Drawing.bodd_coverage_cons, Bool.xor_assoc,
        Bool.and_xor_distrib_left]

theorem screen_drawAll_congr {machine : Machine} {tracing : Bool} {strokes others : List Stroke}
    (same : ∀ x y : Int,
      (Drawing.coverage (strokes.map Stroke.drawing) machine.memory x y).bodd =
        (Drawing.coverage (others.map Stroke.drawing) machine.memory x y).bodd) :
    (machine.drawAll tracing strokes).screen = (machine.drawAll tracing others).screen := by
  apply Framebuffer.ext_pixelAt
  intro x y
  rw [pixelAt_drawAll, pixelAt_drawAll, same]

/-- Sprites superpose: the screen after any number of them does not depend on their order, and a
sprite that is drawn twice at the same place, whatever is drawn in between, need not be drawn.

The coordinates are any bytes, passed in any two distinct registers, which may be different ones for
every stroke.  A stroke always ends well, since its bytes lie in memory.  Behind both laws is that a
pixel changes exactly if the number of drawings that cover it is odd. -/
theorem drawings_superpose (machine : Machine) (tracing : Bool) :
    (∀ (before : Machine) (stroke : Stroke),
      (before.drawStroke tracing stroke).result = .ok ()) ∧
    (∀ (strokes : List Stroke), ∀ x < 64, ∀ y < 32,
      (machine.drawAll tracing strokes).contents.pixel x y =
        (machine.contents.pixel x y ^^
          (Drawing.coverage (strokes.map Stroke.drawing) machine.memory x y).bodd)) ∧
    (∀ strokes others : List Stroke,
      (strokes.map Stroke.drawing).Perm (others.map Stroke.drawing) →
      (machine.drawAll tracing strokes).screen = (machine.drawAll tracing others).screen) ∧
    (∀ (first middle last : List Stroke) (stroke again : Stroke),
      again.drawing = stroke.drawing →
      (machine.drawAll tracing (first ++ stroke :: (middle ++ again :: last))).screen =
        (machine.drawAll tracing (first ++ (middle ++ last))).screen) := by
  refine ⟨fun before stroke => (before.drawStroke_spec tracing stroke).1, ?_, ?_, ?_⟩
  · intro strokes x wide y high
    have inside : Framebuffer.Inside 64 32 x y := inside_screen_iff.mpr ⟨wide, high⟩
    have pixel := machine.pixelAt_drawAll tracing strokes x y
    rw [decide_eq_true inside, Bool.true_and] at pixel
    exact pixel
  · intro strokes others rearranged
    apply screen_drawAll_congr
    intro x y
    rw [Drawing.coverage_perm rearranged]
  · intro first middle last stroke again same
    apply screen_drawAll_congr
    intro x y
    simp only [List.map_append, List.map_cons, same]
    exact Drawing.bodd_coverage_twice ..

/-- The digits `0` and `1` at the lower right corner, the first of them once more after the second
and with its coordinates in other registers.  The second is left, and the pixel in its upper row
shows. -/
theorem drawings_superpose_corner :
    let zero : Drawing := ⟨62, 30, 0x050, 5, by decide⟩
    let one : Drawing := ⟨61, 95, 0x055, 5, by decide⟩
    let strokes : List Stroke := [⟨zero, 1, 2, by decide⟩, ⟨one, 2, 3, by decide⟩]
    let again : Stroke := ⟨zero, 5, 4, by decide⟩
    let machine := powerOn default
    (machine.drawAll false (strokes ++ [again])).screen =
        (machine.drawAll false [⟨one, 2, 3, by decide⟩]).screen ∧
      (machine.drawAll false strokes).screen = (machine.drawAll false strokes.reverse).screen ∧
      (machine.drawAll false [⟨one, 2, 3, by decide⟩]).contents.pixel 63 31 = true := by
  intro zero one strokes again machine
  obtain ⟨_, pixels, rearranged, cancelled⟩ := drawings_superpose machine false
  refine ⟨cancelled [] _ [] _ again rfl, rearranged _ _ ?_, ?_⟩
  · exact ((List.reverse_perm strokes).map Stroke.drawing).symm
  · rw [pixels _ 63 (by decide) 31 (by decide)]
    decide +kernel

end Machine

end ChipEight

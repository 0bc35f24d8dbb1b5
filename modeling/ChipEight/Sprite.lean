/-
Module: ChipEight.Sprite
Purpose: Sprites and how they are combined with the screen.
Main exports: Sprite, Sprite.cells, Sprite.mask, Framebuffer.stamp, Framebuffer.drawSprite
-/
import ChipEight.Framebuffer

namespace ChipEight

/-- A sprite eight pixels wide: one byte per row, the leftmost pixel in the highest bit. -/
abbrev Sprite := List UInt8

namespace Sprite

/-- Whether a column of a sprite row is set. -/
def bit (row : UInt8) (column : Nat) : Bool :=
  row.toNat.testBit (7 - column)

/-- The columns of a sprite row that are set, from left to right. -/
def columns (row : UInt8) : List Nat :=
  (List.range 8).filter (bit row)

/-- The positions that a sprite covers when its top left corner is put at the given position, in
reading order.  They may lie off the screen. -/
def cells (sprite : Sprite) (left top : Int) : List (Int × Int) :=
  sprite.zipIdx.flatMap fun (row, down) =>
    (columns row).map fun across => (left + Int.ofNat across, top + Int.ofNat down)

/-- Whether a sprite covers a position when its top left corner is put at the given one: the
position lies in the rectangle of the sprite, and the bit there is set. -/
def mask (sprite : Sprite) (left top : Int) (x y : Int) : Bool :=
  if left ≤ x ∧ x < left + 8 ∧ top ≤ y ∧ y < top + sprite.length then
    bit (sprite[(y - top).toNat]?.getD 0) (x - left).toNat
  else false

end Sprite

namespace Framebuffer

variable {width height : Int}

/-- Flip the pixels at the given positions one after the other, and tell whether one of them was on.
Positions off the screen are passed over, so a picture that reaches over an edge is clipped
there. -/
def stamp (screen : Framebuffer width height) (positions : List (Int × Int)) :
    Framebuffer width height × Bool :=
  positions.foldl
    (fun (picture, collided) (x, y) =>
      let (flipped, wasOn) := picture.toggle x y
      (flipped, collided || wasOn))
    (screen, false)

/-- Combine a sprite with the screen by exclusive or, and tell whether a pixel was turned off. -/
def drawSprite (screen : Framebuffer width height) (sprite : Sprite) (left top : Int) :
    Framebuffer width height × Bool :=
  screen.stamp (sprite.cells left top)

end Framebuffer

end ChipEight

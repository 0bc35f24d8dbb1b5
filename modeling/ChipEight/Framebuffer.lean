/-
Module: ChipEight.Framebuffer
Purpose: A monochrome grid of pixels.
Main exports: Framebuffer, Framebuffer.create, Framebuffer.Inside, Framebuffer.pixelAt,
  Framebuffer.read, Framebuffer.write, Framebuffer.toggle, Framebuffer.rows, Framebuffer.text,
  OutsideScreen
-/
import ChipEight.Allocation
import ChipEight.Text.Numeral
import ChipEight.Truth

namespace ChipEight

open Text

/-- A grid of pixels, row after row from the top.  The dimensions are arbitrary integers; a grid
with one of them zero or negative has no pixels. -/
structure Framebuffer (width height : Int) where
  pixels : Vector Bool (width.toNat * height.toNat)
deriving DecidableEq

/-- The complaint about a position that is not on the screen. -/
structure OutsideScreen where
  x : Int
  y : Int
  width : Int
  height : Int
deriving Repr, Inhabited, DecidableEq

/-- The sentence shown to the user. -/
def OutsideScreen.message (complaint : OutsideScreen) : String :=
  "Pixel (" ++ Numeral.decimal complaint.x ++ ", " ++ Numeral.decimal complaint.y ++
    ") is outside of the " ++ Numeral.decimal complaint.width ++ "x" ++
    Numeral.decimal complaint.height ++ " screen"

namespace Framebuffer

variable {width height : Int}

/-- The grid with every pixel off. -/
def blank : Framebuffer width height := ⟨Vector.replicate _ false⟩

instance : Inhabited (Framebuffer width height) := ⟨blank⟩

/-- The number of bytes that a pixel takes in memory. -/
def pixelSize : Nat := 8

/-- Make a blank grid.  There has to be memory first for one column of it and then for the whole. -/
def create (width height : Int) : Except AllocationError (Framebuffer width height) := do
  Allocation.index height
  Allocation.reserve (height.toNat * pixelSize)
  Allocation.index width
  Allocation.reserve (width.toNat * height.toNat * pixelSize)
  return blank

/-!
### Positions

A position is a column and a row counted from the top left corner.  The pixels of a row stand next
to each other, so a position on the screen has the offset `y * width + x`.
-/

/-- The position is on the screen. -/
def Inside (width height x y : Int) : Prop :=
  0 ≤ x ∧ x < width ∧ 0 ≤ y ∧ y < height

instance (x y : Int) : Decidable (Inside width height x y) :=
  inferInstanceAs (Decidable (_ ∧ _))

/-- An offset on the screen is one of the grid. -/
theorem offset_lt {x y : Int} (inside : Inside width height x y) :
    y.toNat * width.toNat + x.toNat < width.toNat * height.toNat := by
  obtain ⟨left, right, top, bottom⟩ := inside
  have column : x.toNat < width.toNat := by omega
  have row : y.toNat + 1 ≤ height.toNat := by omega
  calc y.toNat * width.toNat + x.toNat
      < y.toNat * width.toNat + width.toNat := Nat.add_lt_add_left column _
    _ = width.toNat * (y.toNat + 1) := by rw [Nat.mul_add, Nat.mul_one, Nat.mul_comm]
    _ ≤ width.toNat * height.toNat := Nat.mul_le_mul_left _ row

/-- Where a position on the screen is kept. -/
def offset (x y : Int) (inside : Inside width height x y) : Fin (width.toNat * height.toNat) :=
  ⟨y.toNat * width.toNat + x.toNat, offset_lt inside⟩

/-- Whether the pixel at a position is on.  Positions off the screen are never on. -/
def pixelAt (screen : Framebuffer width height) (x y : Int) : Bool :=
  if inside : Inside width height x y then screen.pixels[offset x y inside] else false

/-- Turn the pixel at a position on or off.  Positions off the screen are left out. -/
def paint (screen : Framebuffer width height) (x y : Int) (on : Bool) :
    Framebuffer width height :=
  if inside : Inside width height x y then
    ⟨screen.pixels.set (offset x y inside).val on (offset x y inside).isLt⟩
  else screen

/-- Read a pixel, refusing positions off the screen. -/
def read (screen : Framebuffer width height) (x y : Int) : Except OutsideScreen Bool :=
  if Inside width height x y then .ok (screen.pixelAt x y)
  else .error ⟨x, y, width, height⟩

/-- Write a pixel, refusing positions off the screen.  It is turned off by the value zero and on by
any other one. -/
def write (screen : Framebuffer width height) (x y value : Int) :
    Except OutsideScreen (Framebuffer width height) :=
  if Inside width height x y then .ok (screen.paint x y (Truth.ofNumber value))
  else .error ⟨x, y, width, height⟩

/-- Flip the pixel at a position, and tell whether it was on before. -/
def toggle (screen : Framebuffer width height) (x y : Int) : Framebuffer width height × Bool :=
  let before := screen.pixelAt x y
  (screen.paint x y (!before), before)

/-- A blank grid has no pixel that is on. -/
@[simp] theorem pixelAt_blank (x y : Int) :
    (blank : Framebuffer width height).pixelAt x y = false := by
  simp [pixelAt, blank]

/-- Different positions on the screen are kept in different places. -/
theorem offset_inj {x y x' y' : Int} (inside : Inside width height x y)
    (inside' : Inside width height x' y')
    (same : (offset x y inside).val = (offset x' y' inside').val) : x = x' ∧ y = y' := by
  simp only [offset] at same
  obtain ⟨left, right, top, bottom⟩ := inside
  obtain ⟨left', right', top', bottom'⟩ := inside'
  have column : x.toNat < width.toNat := by omega
  have column' : x'.toNat < width.toNat := by omega
  have sameColumn := congrArg (· % width.toNat) same
  simp only [Nat.mul_add_mod_self_right, Nat.mod_eq_of_lt column, Nat.mod_eq_of_lt column']
    at sameColumn
  have sameRow : y.toNat = y'.toNat := by
    rw [sameColumn] at same
    exact Nat.eq_of_mul_eq_mul_right (by omega) (Nat.add_right_cancel same)
  omega

/-- Painting a position changes that pixel and no other one. -/
theorem pixelAt_paint (screen : Framebuffer width height) (x y x' y' : Int) (on : Bool) :
    (screen.paint x y on).pixelAt x' y' =
      if x = x' ∧ y = y' ∧ Inside width height x y then on else screen.pixelAt x' y' := by
  unfold paint
  split
  · next inside =>
    unfold pixelAt
    split
    · next inside' =>
      by_cases same : x = x' ∧ y = y'
      · obtain ⟨rfl, rfl⟩ := same
        simp [inside]
      · rw [if_neg (fun both => same ⟨both.1, both.2.1⟩)]
        have apart : (offset x y inside).val ≠ (offset x' y' inside').val :=
          fun equal => same (offset_inj inside inside' equal)
        simp [apart]
    · next outside =>
      rw [if_neg]
      rintro ⟨rfl, rfl, _⟩
      exact outside inside
  · next outside => rw [if_neg (fun both => outside both.2.2)]

/-!
### The whole picture

A grid can be taken apart into its rows, and is shown as one line of text per row.
-/

/-- The pixels of one row. -/
def row (screen : Framebuffer width height) (y : Nat) : List Bool :=
  (screen.pixels.toArray.extract (y * width.toNat) ((y + 1) * width.toNat)).toList

/-- The rows from top to bottom. -/
def rows (screen : Framebuffer width height) : List (List Bool) :=
  (List.range height.toNat).map screen.row

/-- The positions of the pixels that are on, in reading order. -/
def lit (screen : Framebuffer width height) : List (Nat × Nat) :=
  screen.rows.zipIdx.flatMap fun (pixels, y) =>
    pixels.zipIdx.filterMap fun (on, x) => if on then some (x, y) else none

/-- The places of the pixels that are on, in ascending order. -/
def litOffsets (screen : Framebuffer width height) : List Nat :=
  screen.pixels.toList.zipIdx.filterMap fun (on, place) => if on then some place else none

/-- The picture as text: a hash for a pixel that is on, a dot for one that is off. -/
def text (screen : Framebuffer width height) : String :=
  String.intercalate "\n" (screen.rows.map fun pixels =>
    String.ofList (pixels.map fun on => if on then '#' else '.'))

end Framebuffer

end ChipEight

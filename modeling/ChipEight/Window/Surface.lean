/-
Module: ChipEight.Window.Surface
Purpose: Grids of colored pixels, how they are painted, and a short form of what they show.
Main exports: Color, Color.ofComponents, ColorError, Surface, Surface.pixel?, Surface.fillRect,
  runs, Picture, Surface.picture
-/
import ChipEight.Text.Numeral

namespace ChipEight

open Text

/-- A color. -/
structure Color where
  red : UInt8
  green : UInt8
  blue : UInt8
  alpha : UInt8 := 255
deriving Repr, Inhabited, DecidableEq

/-- The complaint about numbers that make no color. -/
inductive ColorError where
  /-- There is no number at all. -/
  | tooFew
  /-- There are more than four numbers. -/
  | tooMany (count : Nat)
  /-- A number is too large or too small, or there are two of them. -/
  | invalid
deriving Repr, Inhabited, DecidableEq

/-- The sentence shown to the user. -/
def ColorError.message : ColorError → String
  | tooFew => "function takes at least 1 argument (0 given)"
  | tooMany count =>
      "function takes at most 4 arguments (" ++ Numeral.decimal count ++ " given)"
  | invalid => "invalid color argument"

namespace Color

/-- The color that a single number stands for: red in its highest byte, then green, blue and
alpha. -/
def ofPacked (packed : Nat) : Color :=
  { red := UInt8.ofNat (packed / 0x1000000)
    green := UInt8.ofNat (packed / 0x10000)
    blue := UInt8.ofNat (packed / 0x100)
    alpha := UInt8.ofNat packed }

/-- The color with given numbers for red, green and blue, and for alpha where there is a fourth
one.  Each of them has to be a byte.  One number alone stands for all four. -/
def ofComponents (components : List Int) : Except ColorError Color :=
  let limit := if components.length = 1 then 0x100000000 else 0x100
  if components.length = 0 then .error .tooFew
  else if components.length > 4 then .error (.tooMany components.length)
  else if components.all fun n => 0 ≤ n && n < limit then
    match components.map Int.toNat with
    | [packed] => .ok (ofPacked packed)
    | [red, green, blue] => .ok ⟨UInt8.ofNat red, UInt8.ofNat green, UInt8.ofNat blue, 255⟩
    | [red, green, blue, alpha] =>
        .ok ⟨UInt8.ofNat red, UInt8.ofNat green, UInt8.ofNat blue, UInt8.ofNat alpha⟩
    | _ => .error .invalid
  else .error .invalid

/-- The color without transparency. -/
def solid (color : Color) : Color :=
  { color with alpha := 255 }

/-- The color of pixels that are off. -/
def indigo : Color := ⟨80, 69, 155, 255⟩

/-- The color of pixels that are on. -/
def lavender : Color := ⟨136, 126, 203, 255⟩

/-- The three components in hexadecimal. -/
def text (color : Color) : String :=
  Numeral.hexByte color.red ++ Numeral.hexByte color.green ++ Numeral.hexByte color.blue

end Color

/-!
### Surfaces

A surface is painted by filling it and by painting rectangles.  Whatever lies outside is clipped.
-/

/-- A grid of colored pixels, row after row from the top. -/
structure Surface (width height : Nat) where
  rows : Vector (Vector Color width) height
deriving DecidableEq

namespace Surface

variable {width height : Nat}

/-- A surface of one color. -/
def filled (color : Color) : Surface width height :=
  ⟨Vector.replicate height (Vector.replicate width color)⟩

/-- The color of a pixel of the surface. -/
def pixel? (surface : Surface width height) (x y : Nat) : Option Color :=
  surface.rows[y]?.bind fun row => row[x]?

/-- Paint consecutive pixels of a row. -/
def paintSpan (color : Color) (left across : Nat) (row : Vector Color width) :
    Vector Color width :=
  (List.range' left across).foldl (fun painted x => painted.setIfInBounds x color) row

/-- Paint consecutive pixels in one row of the surface. -/
def paintRow (surface : Surface width height) (color : Color) (left across y : Nat) :
    Surface width height :=
  ⟨⟨surface.rows.toArray.modify y fun row => paintSpan color left across row, by simp⟩⟩

/-- Paint a rectangle. -/
def fillRect (surface : Surface width height) (color : Color) (left top across down : Nat) :
    Surface width height :=
  (List.range' top down).foldl (fun painted y => painted.paintRow color left across y) surface

/-- A filled surface has its one color everywhere. -/
theorem pixel?_filled (color : Color) (x y : Nat) :
    (filled color : Surface width height).pixel? x y =
      if x < width ∧ y < height then some color else none := by
  by_cases row : y < height <;> by_cases column : x < width <;> simp [pixel?, filled, row, column]

/-- Painting a span changes the pixels of the span and no other ones. -/
theorem getElem?_paintSpan (color : Color) (left across : Nat) (row : Vector Color width)
    (x : Nat) :
    (paintSpan color left across row)[x]? =
      if left ≤ x ∧ x < left + across then row[x]?.map fun _ => color else row[x]? := by
  unfold paintSpan
  induction across generalizing left row with
  | zero =>
      rw [if_neg (by omega)]
      rfl
  | succ across ih =>
      rw [List.range'_succ, List.foldl_cons, ih, Vector.getElem?_setIfInBounds]
      by_cases here : left = x
      · subst here
        by_cases inside : left < width <;> simp [inside]
      · have same : (left + 1 ≤ x ∧ x < left + 1 + across) ↔
            (left ≤ x ∧ x < left + (across + 1)) := by omega
        simp only [here, same, if_false]

/-- Painting in one row changes the pixels of the span in that row and no other ones. -/
theorem pixel?_paintRow (surface : Surface width height) (color : Color) (left across top : Nat)
    (x y : Nat) :
    (surface.paintRow color left across top).pixel? x y =
      if top = y ∧ left ≤ x ∧ x < left + across then (surface.pixel? x y).map fun _ => color
      else surface.pixel? x y := by
  have rows : (surface.paintRow color left across top).rows[y]? =
      if top = y then surface.rows[y]?.map (paintSpan color left across)
      else surface.rows[y]? := by
    simp only [paintRow, ← Vector.getElem?_toArray, Array.getElem?_modify]
  unfold pixel?
  rw [rows]
  by_cases here : top = y
  · subst here
    cases surface.rows[top]? with
    | none => simp
    | some row => simp [getElem?_paintSpan]
  · simp [here]

/-- Painting a rectangle changes the pixels inside it and no other ones. -/
theorem pixel?_fillRect (surface : Surface width height) (color : Color)
    (left top across down : Nat) (x y : Nat) :
    (surface.fillRect color left top across down).pixel? x y =
      if (left ≤ x ∧ x < left + across) ∧ (top ≤ y ∧ y < top + down) then
        (surface.pixel? x y).map fun _ => color
      else surface.pixel? x y := by
  unfold fillRect
  induction down generalizing top surface with
  | zero =>
      rw [if_neg (by omega)]
      rfl
  | succ down ih =>
      rw [List.range'_succ, List.foldl_cons, ih, pixel?_paintRow]
      by_cases column : left ≤ x ∧ x < left + across
      · by_cases here : top = y
        · rw [if_neg (by omega), if_pos ⟨here, column⟩, if_pos ⟨column, by omega⟩]
        · have same : (top + 1 ≤ y ∧ y < top + 1 + down) ↔ (top ≤ y ∧ y < top + (down + 1)) := by
            omega
          simp only [same, here, false_and, if_false]
      · simp [column]

end Surface

/-!
### Pictures

What a window shows is compared and recorded in a short form, in which neighbours of one color are
counted, and then neighbouring rows that look alike.
-/

/-- Put one more item in front of the runs of a list. -/
def extendRuns {α : Type} [DecidableEq α] (a : α) : List (Nat × α) → List (Nat × α)
  | [] => [(1, a)]
  | (count, b) :: more => if a = b then (count + 1, b) :: more else (1, a) :: (count, b) :: more

/-- The maximal runs of equal neighbours in a list, with their lengths. -/
def runs {α : Type} [DecidableEq α] (items : List α) : List (Nat × α) :=
  items.foldr extendRuns []

/-- The rows of a picture from top to bottom: how often each is repeated, and its runs of one color
from left to right. -/
abbrev Picture := List (Nat × List (Nat × Color))

/-- Equality of two rows.  Most rows of a surface are shared in memory, and a row is equal to itself
without a look at its pixels. -/
def sameRow {width : Nat} (above below : Vector Color width) : Decidable (above = below) :=
  withPtrEqDecEq above below fun _ => inferInstance

/-- The picture on a surface. -/
def Surface.picture {width height : Nat} (surface : Surface width height) : Picture :=
  (@runs _ sameRow surface.rows.toList).map fun (count, row) => (count, runs row.toList)

end ChipEight

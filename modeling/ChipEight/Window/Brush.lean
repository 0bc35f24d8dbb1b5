/-
Module: ChipEight.Window.Brush
Purpose: The ways of a window system to paint on a surface.
Main exports: Brush, Brush.system, Painter, Painter.system
-/
import ChipEight.Window.Measure
import ChipEight.Window.Surface

namespace ChipEight

/-!
A window system can fill a surface and paint a rectangle on it.  Which numbers it takes for the
edges of a rectangle is its own affair.
-/

/-- The ways of a window system to paint on surfaces of one size.  A rectangle is given by its left
and its upper edge, by its width and by its height. -/
structure Brush (width height : Nat) where
  fill (color : Color) : Surface width height → Surface width height
  rectangle (color : Color) (left top across down : Int) :
    Surface width height → Surface width height

/-- The brush of the window system that the emulator runs on. -/
def Brush.system {width height : Nat} : Brush width height where
  fill color _ := .filled color
  rectangle color left top across down surface :=
    let (first, columns) := Measure.span width left across
    let (upper, lines) := Measure.span height top down
    surface.fillRect color first upper columns lines

/-- A brush for surfaces of every size. -/
structure Painter where
  brush (width height : Nat) : Brush width height

/-- The window system that the emulator runs on. -/
def Painter.system : Painter where
  brush _ _ := .system

end ChipEight

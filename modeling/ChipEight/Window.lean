/-
Module: ChipEight.Window
Purpose: The window in which the screen of the machine is shown.
Main exports: Window, Window.create, Window.sizeFor_of_small, Window.cover, Window.renderBy,
  Window.render, Window.renderChecked, Painter.render, WindowError
-/
import ChipEight.Framebuffer
import ChipEight.MachineWord
import ChipEight.Window.Brush

namespace ChipEight

/-- A reason why a window cannot be opened or painted. -/
inductive WindowError where
  /-- A side is too large to be a number for the window system. -/
  | unmeasurable
  /-- A side is negative. -/
  | negative
  /-- A side is longer than windows can be. -/
  | tooLarge
  /-- A square lies too far out to be given to the window system. -/
  | unreachable
deriving Repr, Inhabited, DecidableEq

/-- The sentence shown to the user. -/
def WindowError.message : WindowError → String
  | unmeasurable => "size must be two numbers"
  | negative => "Cannot set negative sized display mode"
  | tooLarge => "Window is too large."
  | unreachable => "rect argument is invalid"

/-- A window that shows a grid of pixels, each as a square of `scale` by `scale` pixels. -/
structure Window where
  scale : Int
  background : Color
  foreground : Color
  width : Nat
  height : Nat
  surface : Surface width height

namespace Window

/-- The longest side that a window can have. -/
def longestSide : Int := 16384

/-- The size of the whole display, which a window takes that is asked to have no size. -/
def displaySize : Nat × Nat := (1024, 768)

/-- The size of a window for a grid of pixels: the grid times the scale, as the window system
measures it.  Both sides have at least one pixel. -/
def sizeFor (columns lines scale : Int) : Except WindowError (Nat × Nat) :=
  if !(MachineWord.fits (columns * scale) && MachineWord.fits (lines * scale)) then
    .error .unmeasurable
  else
    let width := Measure.narrow (columns * scale)
    let height := Measure.narrow (lines * scale)
    if width < 0 || height < 0 then .error .negative
    else if width = 0 && height = 0 then .ok displaySize
    else if width > longestSide || height > longestSide then .error .tooLarge
    else .ok ((max 1 width).toNat, (max 1 height).toNat)

/-- Sides of at least one pixel that are numbers of 32 bits are taken as they are, unless one of
them is too long for a window. -/
theorem sizeFor_of_small {columns lines scale : Int} (wide : 1 ≤ columns * scale)
    (high : 1 ≤ lines * scale) (small : columns * scale < 0x80000000)
    (small' : lines * scale < 0x80000000) :
    sizeFor columns lines scale =
      if columns * scale ≤ longestSide ∧ lines * scale ≤ longestSide then
        .ok ((columns * scale).toNat, (lines * scale).toNat)
      else .error .tooLarge := by
  unfold sizeFor
  generalize columns * scale = side at *
  generalize lines * scale = side' at *
  have measured : MachineWord.fits side ∧ MachineWord.fits side' := by
    simp only [MachineWord.fits_iff]
    omega
  have across : Measure.narrow side = side := Measure.narrow_of_small (by omega) small
  have down : Measure.narrow side' = side' := Measure.narrow_of_small (by omega) small'
  have least : max 1 side = side := Int.max_eq_right wide
  have least' : max 1 side' = side' := Int.max_eq_right high
  simp only [measured, across, down, least, least', Bool.and_self, Bool.not_true]
  rw [if_neg nofun, if_neg (by simp; omega), if_neg (by simp; omega)]
  by_cases long : side ≤ longestSide ∧ side' ≤ longestSide
  · rw [if_neg (by simp; omega), if_pos long]
  · rw [if_pos (by simp; omega), if_neg long]

/-- Open a window with nothing but background in it.  Windows know no transparency, so both colors
are taken as solid ones. -/
def create (columns lines scale : Int) (background foreground : Color) :
    Except WindowError Window :=
  (sizeFor columns lines scale).map fun (width, height) =>
    { scale, width, height
      background := background.solid
      foreground := foreground.solid
      surface := .filled background.solid }

/-- What becomes of a surface when a grid of pixels is shown on it: the background, and over it a
square for every pixel that is on. -/
def cover {width height : Int} (window : Window) (brush : Brush window.width window.height)
    (screen : Framebuffer width height) (contents : Surface window.width window.height) :
    Surface window.width window.height :=
  screen.lit.foldl
    (fun painted (x, y) =>
      brush.rectangle window.foreground (x * window.scale) (y * window.scale) window.scale
        window.scale painted)
    (brush.fill window.background contents)

/-- Show a grid of pixels with a given brush. -/
def renderBy {width height : Int} (window : Window) (brush : Brush window.width window.height)
    (screen : Framebuffer width height) : Window :=
  { window with surface := window.cover brush screen window.surface }

/-- Show a grid of pixels. -/
def render {width height : Int} (window : Window) (screen : Framebuffer width height) : Window :=
  window.renderBy .system screen

/-- Show a grid of pixels that may be larger than the one the window was opened for.  It is refused
when the square of a pixel that is on cannot be given to the window system.  A grid of the size that
the window was opened for is never refused, so for it this is `render`. -/
def renderChecked {width height : Int} (window : Window) (screen : Framebuffer width height) :
    Except WindowError Window :=
  let reachable := screen.lit.all fun (x, y) =>
    MachineWord.fits window.scale && MachineWord.fits (x * window.scale) &&
      MachineWord.fits (y * window.scale)
  if reachable then .ok (window.render screen) else .error .unreachable

end Window

/-- Show a grid of pixels in a window of whatever size. -/
def Painter.render {width height : Int} (painter : Painter) (window : Window)
    (screen : Framebuffer width height) : Window :=
  window.renderBy (painter.brush window.width window.height) screen

end ChipEight

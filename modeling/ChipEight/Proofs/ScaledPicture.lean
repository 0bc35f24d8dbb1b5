/-
Module: ChipEight.Proofs.ScaledPicture
Purpose: A window shows the grid of pixels scaled up: square stands beside square, and together they
  leave no gap.
Main exports: Surface.Paints, Surface.Paints.foldl, Surface.ext_pixel?, Brush.Fills, Brush.Exact,
  Brush.ExactFor, Brush.Fills.eq_filled, Brush.system_exact, Framebuffer.Measurable,
  Framebuffer.mem_lit_iff, Window.pixel?_cover, Window.cover_congr, Window.size_of_create,
  Window.ShowsScaled, Window.shows_scaled_grid
-/
import ChipEight.Proofs.Grid
import ChipEight.Window

namespace ChipEight

namespace Surface

variable {width height : Nat} {color : Color} {area other : Nat → Nat → Prop}
  {change next : Surface width height → Surface width height}

/-!
### Painting

A change of surfaces that paints an area can be followed by another one.  In one color the two paint
what is in either of their areas, so a loop of them paints what is in any of its areas.
-/

/-- The change gives a color to exactly the pixels of an area. -/
def Paints (area : Nat → Nat → Prop) (color : Color)
    (change : Surface width height → Surface width height) : Prop :=
  ∀ (surface : Surface width height) (x y : Nat),
    (area x y → (change surface).pixel? x y = (surface.pixel? x y).map fun _ => color) ∧
      (¬ area x y → (change surface).pixel? x y = surface.pixel? x y)

/-- The area of a rectangle, which need not lie on the surface. -/
def Rectangle (left top across down : Int) (x y : Nat) : Prop :=
  (left ≤ x ∧ x < left + across) ∧ (top ≤ y ∧ y < top + down)

theorem Paints.congr (paints : Paints area color change) (same : ∀ x y, area x y ↔ other x y) :
    Paints other color change := by
  intro surface x y
  rw [← same]
  exact paints surface x y

theorem Paints.nothing :
    Paints (fun _ _ => False) color (fun surface : Surface width height => surface) :=
  fun _ _ _ => ⟨False.elim, fun _ => rfl⟩

theorem Paints.andThen (paints : Paints area color change) (paints' : Paints other color next) :
    Paints (fun x y => area x y ∨ other x y) color (fun surface => next (change surface)) := by
  intro surface x y
  obtain ⟨inside, outside⟩ := paints surface x y
  obtain ⟨inside', outside'⟩ := paints' (change surface) x y
  constructor
  · intro either
    by_cases second : other x y
    · rw [inside' second]
      by_cases first : area x y
      · rw [inside first, Option.map_map]
        rfl
      · rw [outside first]
    · rw [outside' second, inside (either.resolve_right second)]
  · intro neither
    rw [outside' (fun second => neither (.inr second)), outside (fun first => neither (.inl first))]

theorem Paints.foldl {α : Type} {positions : List α} {area : α → Nat → Nat → Prop}
    {change : Surface width height → α → Surface width height}
    (each : ∀ position ∈ positions,
      Paints (area position) color (fun surface => change surface position)) :
    Paints (fun x y => ∃ position ∈ positions, area position x y) color
      (fun surface => positions.foldl change surface) := by
  induction positions with
  | nil => exact Paints.nothing.congr (by simp)
  | cons position rest ih =>
      obtain ⟨first, others⟩ := List.forall_mem_cons.mp each
      exact (first.andThen (ih others)).congr (by simp)

theorem exists_pixel? (surface : Surface width height) {x y : Nat} (column : x < width)
    (row : y < height) : ∃ color, surface.pixel? x y = some color := by
  simp [pixel?, column, row]

theorem pixel?_eq_none {surface : Surface width height} {x y : Nat}
    (outside : ¬ (x < width ∧ y < height)) : surface.pixel? x y = none := by
  by_cases row : y < height
  · have column : ¬ x < width := fun column => outside ⟨column, row⟩
    simp [pixel?, row, column]
  · simp [pixel?, row]

/-- A surface is determined by its pixels. -/
theorem ext_pixel? {surface surface' : Surface width height}
    (same : ∀ x < width, ∀ y < height, surface.pixel? x y = surface'.pixel? x y) :
    surface = surface' := by
  cases surface with
  | mk rows =>
      cases surface' with
      | mk rows' =>
          congr 1
          apply Vector.ext
          intro y row
          apply Vector.ext
          intro x column
          simpa [pixel?, row, column] using same x column y row

theorem filled_paints :
    Paints (fun _ _ => True) color (fun _ : Surface width height => filled color) := by
  intro surface x y
  refine ⟨fun _ => ?_, fun nowhere => absurd trivial nowhere⟩
  rw [pixel?_filled]
  by_cases inside : x < width ∧ y < height
  · obtain ⟨before, found⟩ := surface.exists_pixel? inside.1 inside.2
    rw [if_pos inside, found, Option.map_some]
  · rw [if_neg inside, pixel?_eq_none inside, Option.map_none]

end Surface

/-!
### Brushes

Which numbers a window system takes for the edges of a rectangle is its own affair, so what is asked
of it is stated for single rectangles.
-/

namespace Brush

variable {width height : Nat} {left top across down : Int}

/-- Surfaces are filled as a whole. -/
def Fills (brush : Brush width height) : Prop :=
  ∀ color : Color, Surface.Paints (fun _ _ => True) color (brush.fill color)

/-- A rectangle is painted exactly, apart from what lies beyond the surface. -/
def Exact (brush : Brush width height) (left top across down : Int) : Prop :=
  ∀ color : Color,
    Surface.Paints (Surface.Rectangle left top across down) color
      (brush.rectangle color left top across down)

/-- Surfaces are filled as a whole, and the squares of a grid are painted exactly. -/
structure ExactFor (brush : Brush width height) (scale : Int) {columns lines : Int}
    (screen : Framebuffer columns lines) : Prop where
  fills : brush.Fills
  squares : ∀ x y : Nat, screen.pixelAt x y = true →
    brush.Exact (x * scale) (y * scale) scale scale

/-- Filling a surface leaves nothing of what was on it. -/
theorem Fills.eq_filled {brush : Brush width height} (fills : brush.Fills) (color : Color)
    (contents : Surface width height) : brush.fill color contents = .filled color := by
  apply Surface.ext_pixel?
  intro x column y row
  obtain ⟨before, found⟩ := contents.exists_pixel? column row
  rw [(fills color contents x y).1 trivial, found, Surface.pixel?_filled, if_pos ⟨column, row⟩]
  rfl

theorem system_fills : (system : Brush width height).Fills :=
  fun _ => Surface.filled_paints

theorem mem_span_iff {limit : Nat} {position side : Int} (start : 0 ≤ position)
    (extent : 0 < side) (small : position + side < 0x80000000) {place : Nat}
    (inside : place < limit) :
    ((Measure.span limit position side).1 ≤ place ∧
        place < (Measure.span limit position side).1 + (Measure.span limit position side).2) ↔
      (position ≤ place ∧ place < position + side) := by
  rw [Measure.span_of_small start extent small]
  dsimp only
  omega

/-- Rectangles that end within the numbers of the window system are painted exactly. -/
theorem system_exact (start : 0 ≤ left) (start' : 0 ≤ top) (extent : 0 < across)
    (extent' : 0 < down) (small : left + across < 0x80000000) (small' : top + down < 0x80000000) :
    (system : Brush width height).Exact left top across down := by
  intro color surface x y
  simp only [system, Surface.pixel?_fillRect]
  by_cases inside : x < width ∧ y < height
  · simp only [mem_span_iff start extent small inside.1,
      mem_span_iff start' extent' small' inside.2]
    exact ⟨fun within => if_pos within, fun beyond => if_neg beyond⟩
  · simp [Surface.pixel?_eq_none inside]

end Brush

namespace Framebuffer

variable {columns lines : Int}

/-- The squares of the pixels that are on end within numbers of 32 bits. -/
def Measurable (screen : Framebuffer columns lines) (scale : Int) : Prop :=
  ∀ x y : Nat, screen.pixelAt x y = true →
    (x + 1) * scale < 0x80000000 ∧ (y + 1) * scale < 0x80000000

/-- The positions that the window goes through are those of the pixels that are on. -/
theorem mem_lit_iff {screen : Framebuffer columns lines} {x y : Nat} :
    (x, y) ∈ screen.lit ↔ screen.pixelAt x y = true := by
  rw [pixelAt_eq_getElem?_rows]
  simp only [lit, List.mem_flatMap, List.mem_filterMap, Prod.exists,
    List.mk_mem_zipIdx_iff_getElem?]
  constructor
  · rintro ⟨row, y', found, on, x', pixel, shown⟩
    cases on with
    | false => cases shown
    | true =>
        cases shown
        rw [found, Option.getD_some, pixel, Option.getD_some]
  · intro on
    cases found : screen.rows[y]? with
    | none => simp [found] at on
    | some row =>
        rw [found, Option.getD_some] at on
        cases pixel : row[x]? with
        | none => simp [pixel] at on
        | some value =>
            rw [pixel, Option.getD_some] at on
            exact ⟨row, y, found, value, x, pixel, by rw [if_pos on]⟩

theorem read_eq_ok_true_iff {screen : Framebuffer columns lines} {x y : Int} :
    screen.read x y = .ok true ↔ screen.pixelAt x y = true := by
  rw [read_eq_ok_iff]
  refine ⟨And.right, fun on => ⟨?_, on⟩⟩
  by_contra outside
  rw [pixelAt_of_outside outside] at on
  cases on

theorem inside_of_pixelAt {screen : Framebuffer columns lines} {x y : Int}
    (on : screen.pixelAt x y = true) : Inside columns lines x y :=
  (read_eq_ok_iff.mp (read_eq_ok_true_iff.mpr on)).1

/-- A grid is measurable if its squares together are not larger than numbers of 32 bits. -/
theorem measurable_of_small {screen : Framebuffer columns lines} {scale : Int}
    (visible : 1 ≤ scale) (small : columns * scale < 0x80000000)
    (small' : lines * scale < 0x80000000) : screen.Measurable scale := by
  intro x y on
  obtain ⟨_, column, _, line⟩ := inside_of_pixelAt on
  have across : (x + 1) * scale ≤ columns * scale :=
    Int.mul_le_mul_of_nonneg_right (by omega) (by omega)
  have down : (y + 1) * scale ≤ lines * scale :=
    Int.mul_le_mul_of_nonneg_right (by omega) (by omega)
  exact ⟨by omega, by omega⟩

end Framebuffer

namespace Window

variable {columns lines scale : Int} {window opened : Window} {background foreground : Color}

/-!
### Squares

A pixel of the window lies in one square only.  Which one it is is found by division, whatever the
scale, so the squares have no gaps between them and do not overlap.
-/

theorem rectangle_square_iff (visible : 1 ≤ scale) {column line x y : Nat} :
    Surface.Rectangle (column * scale) (line * scale) scale scale x y ↔
      (x : Int) / scale = column ∧ (y : Int) / scale = line := by
  have positive : 0 < scale := by omega
  rw [Int.ediv_eq_iff_of_pos positive, Int.ediv_eq_iff_of_pos positive]
  rfl

/-- The squares of the pixels that are on make up the pixels of the window that lie, scaled down, on
such a pixel. -/
theorem exists_square_iff (visible : 1 ≤ scale) {screen : Framebuffer columns lines} {x y : Nat} :
    (∃ position ∈ screen.lit,
        Surface.Rectangle (position.1 * scale) (position.2 * scale) scale scale x y) ↔
      screen.pixelAt (x / scale) (y / scale) = true := by
  constructor
  · rintro ⟨⟨column, line⟩, on, within⟩
    obtain ⟨sameColumn, sameLine⟩ := (rectangle_square_iff visible).mp within
    rw [sameColumn, sameLine]
    exact Framebuffer.mem_lit_iff.mp on
  · intro on
    have column : 0 ≤ (x : Int) / scale := Int.ediv_nonneg (by omega) (by omega)
    have line : 0 ≤ (y : Int) / scale := Int.ediv_nonneg (by omega) (by omega)
    refine ⟨(((x : Int) / scale).toNat, ((y : Int) / scale).toNat), ?_, ?_⟩
    · rw [Framebuffer.mem_lit_iff, Int.toNat_of_nonneg column, Int.toNat_of_nonneg line]
      exact on
    · rw [rectangle_square_iff visible, Int.toNat_of_nonneg column, Int.toNat_of_nonneg line]
      exact ⟨rfl, rfl⟩

theorem pixel?_cover (visible : 1 ≤ window.scale) {screen : Framebuffer columns lines}
    {brush : Brush window.width window.height} (exact : brush.ExactFor window.scale screen)
    (contents : Surface window.width window.height) {x y : Nat} (column : x < window.width)
    (row : y < window.height) :
    (window.cover brush screen contents).pixel? x y =
      some (if screen.pixelAt (x / window.scale) (y / window.scale) then window.foreground
        else window.background) := by
  have squares := Surface.Paints.foldl fun (position : Nat × Nat) on =>
    exact.squares position.1 position.2 (Framebuffer.mem_lit_iff.mp on) window.foreground
  have picture := squares.congr fun _ _ => exists_square_iff visible
  obtain ⟨inside, outside⟩ := picture (brush.fill window.background contents) x y
  have filled : (brush.fill window.background contents).pixel? x y = some window.background := by
    rw [exact.fills.eq_filled, Surface.pixel?_filled, if_pos ⟨column, row⟩]
  rw [filled] at inside outside
  by_cases on : screen.pixelAt (x / window.scale) (y / window.scale) = true
  · rw [if_pos on]
    exact inside on
  · rw [if_neg on]
    exact outside on

/-- What was in the window before makes no difference. -/
theorem cover_congr {screen : Framebuffer columns lines} {brush : Brush window.width window.height}
    (fills : brush.Fills) (contents contents' : Surface window.width window.height) :
    window.cover brush screen contents = window.cover brush screen contents' := by
  rw [cover, cover, fills.eq_filled, fills.eq_filled]

/-!
### The window system

What the window system takes for the edges of a square is right as long as they are numbers of 32
bits.  A window that it opens for a grid with such a size has one square for each position.
-/

theorem square_lt {x : Nat} (visible : 1 ≤ scale) (small : (x + 1) * scale < 0x80000000) :
    0 ≤ x * scale ∧ x * scale + scale < 0x80000000 := by
  have start : 0 ≤ (x : Int) * scale := Int.mul_nonneg (by omega) (by omega)
  rw [Int.add_mul, Int.one_mul] at small
  exact ⟨start, small⟩

theorem system_exactFor {width height : Nat} {screen : Framebuffer columns lines}
    (visible : 1 ≤ scale) (near : screen.Measurable scale) :
    (Brush.system : Brush width height).ExactFor scale screen where
  fills := Brush.system_fills
  squares x y on := by
    obtain ⟨near, near'⟩ := near x y on
    obtain ⟨left, right⟩ := square_lt visible near
    obtain ⟨top, bottom⟩ := square_lt visible near'
    exact Brush.system_exact left top (by omega) (by omega) right bottom

theorem renderChecked_of_measurable {screen : Framebuffer columns lines}
    (visible : 1 ≤ window.scale) (near : screen.Measurable window.scale) :
    window.renderChecked screen = .ok (window.render screen) := by
  have reachable : ∀ position ∈ screen.lit,
      (MachineWord.fits window.scale && MachineWord.fits (position.1 * window.scale) &&
        MachineWord.fits (position.2 * window.scale)) = true := by
    intro position on
    obtain ⟨near, near'⟩ := near position.1 position.2 (Framebuffer.mem_lit_iff.mp on)
    have := square_lt visible near
    have := square_lt visible near'
    simp only [Bool.and_eq_true, MachineWord.fits_iff]
    omega
  exact if_pos (List.all_eq_true.mpr reachable)

theorem size_of_create (across : 1 ≤ columns) (down : 1 ≤ lines) (visible : 1 ≤ scale)
    (small : columns * scale < 0x80000000) (small' : lines * scale < 0x80000000)
    (created : create columns lines scale background foreground = .ok window) :
    window.scale = scale ∧ (window.width : Int) = columns * scale ∧
      (window.height : Int) = lines * scale ∧ window.background = background.solid ∧
      window.foreground = foreground.solid := by
  have wide : 1 ≤ columns * scale := Int.mul_pos (by omega) (by omega)
  have high : 1 ≤ lines * scale := Int.mul_pos (by omega) (by omega)
  rw [create, sizeFor_of_small wide high small small'] at created
  split at created
  · cases created
    exact ⟨rfl, Int.toNat_of_nonneg (by omega), Int.toNat_of_nonneg (by omega), rfl, rfl⟩
  · cases created

/-!
### The picture
-/

/-- The window shows a grid of pixels scaled up.  Where it reaches beyond the grid there is nothing
but background. -/
structure ShowsScaled (window : Window) (screen : Framebuffer columns lines) : Prop where
  on : ∀ x y : Nat, x < window.width → y < window.height →
    screen.read (x / window.scale) (y / window.scale) = .ok true →
      window.surface.pixel? x y = some window.foreground
  off : ∀ x y : Nat, x < window.width → y < window.height →
    screen.read (x / window.scale) (y / window.scale) ≠ .ok true →
      window.surface.pixel? x y = some window.background

theorem showsScaled_renderBy (visible : 1 ≤ window.scale) {screen : Framebuffer columns lines}
    {brush : Brush window.width window.height} (exact : brush.ExactFor window.scale screen) :
    (window.renderBy brush screen).ShowsScaled screen where
  on x y column row shown := by
    have on := Framebuffer.read_eq_ok_true_iff.mp shown
    exact (pixel?_cover visible exact window.surface column row).trans (congrArg some (if_pos on))
  off x y column row shown := by
    have off := mt Framebuffer.read_eq_ok_true_iff.mpr shown
    exact (pixel?_cover visible exact window.surface column row).trans (congrArg some (if_neg off))

/-- With two colors to tell apart, the picture tells exactly which pixels of the grid are on. -/
theorem ShowsScaled.foreground_iff {screen : Framebuffer columns lines}
    (shows : window.ShowsScaled screen) (apart : window.foreground ≠ window.background) {x y : Nat}
    (column : x < window.width) (row : y < window.height) :
    window.surface.pixel? x y = some window.foreground ↔
      screen.read (x / window.scale) (y / window.scale) = .ok true := by
  constructor
  · intro painted
    by_contra off
    rw [shows.off x y column row off] at painted
    exact apart (Option.some.inj painted).symm
  · exact shows.on x y column row

/-- A rendered window shows the grid of pixels scaled up, whatever the size of either.

It is assumed of the window system that it fills the whole surface and that it paints exactly the
squares it is told to, as far as they lie on the surface.  Then nothing remains of earlier pictures,
and to render once more makes no difference.  The assumption holds where the numbers of the window
system reach, which they do for every grid of the size that the window was opened for. -/
theorem shows_scaled_grid (window : Window) (visible : 1 ≤ window.scale)
    (screen : Framebuffer columns lines) :
    (∀ brush : Brush window.width window.height, brush.ExactFor window.scale screen →
      (window.renderBy brush screen).ShowsScaled screen ∧
      (window.foreground ≠ window.background → ∀ x y : Nat, x < window.width → y < window.height →
        ((window.renderBy brush screen).surface.pixel? x y = some window.foreground ↔
          Framebuffer.Inside columns lines (x / window.scale) (y / window.scale) ∧
            screen.read (x / window.scale) (y / window.scale) = .ok true)) ∧
      (∀ contents : Surface window.width window.height,
        { window with surface := contents }.renderBy brush screen =
          window.renderBy brush screen) ∧
      (∀ {columns' lines' : Int} (earlier : Framebuffer columns' lines'),
        (window.renderBy brush earlier).renderBy brush screen = window.renderBy brush screen) ∧
      (window.renderBy brush screen).renderBy brush screen = window.renderBy brush screen) ∧
    window.render screen = window.renderBy .system screen ∧
    (screen.Measurable window.scale →
      (Brush.system : Brush window.width window.height).ExactFor window.scale screen ∧
        window.renderChecked screen = .ok (window.render screen)) ∧
    (∀ {columns lines scale : Int} {background foreground : Color} {opened : Window},
      1 ≤ columns → 1 ≤ lines → 1 ≤ scale → columns * scale < 0x80000000 →
      lines * scale < 0x80000000 →
      create columns lines scale background foreground = .ok opened →
        (opened.scale = scale ∧ (opened.width : Int) = columns * scale ∧
          (opened.height : Int) = lines * scale ∧ opened.background = background.solid ∧
          opened.foreground = foreground.solid) ∧
        ∀ screen : Framebuffer columns lines, screen.Measurable scale) := by
  refine ⟨fun brush exact => ?_, rfl, fun near => ?_, ?_⟩
  · have shows := showsScaled_renderBy visible exact
    have forgets (contents : Surface window.width window.height) :
        { window with surface := contents }.renderBy brush screen =
          window.renderBy brush screen :=
      congrArg (fun surface => { window with surface })
        (cover_congr exact.fills contents window.surface)
    refine ⟨shows, ?_, forgets, fun earlier => forgets _, forgets _⟩
    intro apart x y column row
    rw [and_iff_right_of_imp fun on => (Framebuffer.read_eq_ok_iff.mp on).1]
    exact shows.foreground_iff apart column row
  · exact ⟨system_exactFor visible near, renderChecked_of_measurable visible near⟩
  · intro columns lines scale background foreground opened across down visible small small' created
    refine ⟨size_of_create across down visible small small' created, fun screen => ?_⟩
    exact Framebuffer.measurable_of_small visible small small'

/-- A window of two squares that has been painted before shows what it can of a longer line. -/
theorem shows_scaled_grid_longer_line :
    let window : Window := ⟨3, .indigo, .lavender, 6, 3, .filled .lavender⟩
    let line : Framebuffer 3 1 := (Framebuffer.blank.paint 1 0 true).paint 2 0 true
    1 ≤ window.scale ∧
      (Brush.system : Brush window.width window.height).ExactFor window.scale line ∧
      ∃ shown, window.renderChecked line = .ok shown ∧
        shown.surface.pixel? 2 0 = some .indigo ∧ shown.surface.pixel? 3 2 = some .lavender := by
  intro window line
  have visible : 1 ≤ window.scale := by decide
  have near : line.Measurable window.scale :=
    Framebuffer.measurable_of_small visible (by decide) (by decide)
  obtain ⟨picture, same, measured, _⟩ := shows_scaled_grid window visible line
  obtain ⟨exact, checked⟩ := measured near
  rw [same] at checked
  obtain ⟨shows, _⟩ := picture .system exact
  refine ⟨visible, exact, _, checked, ?_, ?_⟩
  · exact shows.off 2 0 (by decide) (by decide) (by decide)
  · exact shows.on 3 2 (by decide) (by decide) (by decide)

end Window

end ChipEight

/-
Module: ChipEight.Proofs.Drawing
Purpose: The picture that drawing a sprite leaves, pixel by pixel, and when drawing collides.
Main exports: Sprite.mem_cells_iff, Sprite.nodup_cells, Framebuffer.ext_pixelAt,
  Framebuffer.pixelAt_stamp, Framebuffer.collided_stamp_iff, Framebuffer.pixelAt_drawSprite,
  Framebuffer.collided_drawSprite_iff, Framebuffer.stampChecked, Framebuffer.stampChecked_cells,
  Framebuffer.pixelAt_eq_getElem?_rows, Framebuffer.rows_injective
-/
import ChipEight.Sprite
import Mathlib.Data.List.Nodup

namespace ChipEight

/-!
### The positions of a sprite

The list of positions that a sprite covers has exactly the positions of its mask, and has each of
them once.
-/

namespace Sprite

theorem mem_columns_iff {row : UInt8} {across : Nat} :
    across ∈ columns row ↔ across < 8 ∧ bit row across = true := by
  simp [columns]

/-- A position is covered when it is that of a set bit in one of the rows. -/
theorem mem_cells {sprite : Sprite} {left top x y : Int} :
    (x, y) ∈ sprite.cells left top ↔
      ∃ row down across, sprite[down]? = some row ∧ across ∈ columns row ∧
        x = left + Int.ofNat across ∧ y = top + Int.ofNat down := by
  simp only [cells, List.mem_flatMap, List.mem_map, Prod.exists, List.mk_mem_zipIdx_iff_getElem?,
    Prod.mk.injEq]
  constructor
  · intro covered
    obtain ⟨row, down, found, across, set, rfl, rfl⟩ := covered
    exact ⟨row, down, across, found, set, rfl, rfl⟩
  · intro covered
    obtain ⟨row, down, across, found, set, rfl, rfl⟩ := covered
    exact ⟨row, down, found, across, set, rfl, rfl⟩

theorem mem_cells_iff {sprite : Sprite} {left top x y : Int} :
    (x, y) ∈ sprite.cells left top ↔ sprite.mask left top x y = true := by
  rw [mem_cells, mask]
  constructor
  · intro covered
    obtain ⟨row, down, across, found, set, rfl, rfl⟩ := covered
    obtain ⟨narrow, set⟩ := mem_columns_iff.mp set
    obtain ⟨high, rfl⟩ := List.getElem?_eq_some_iff.mp found
    simp only [Int.ofNat_eq_natCast]
    rw [if_pos (by omega)]
    have column : (left + (across : Int) - left).toNat = across := by omega
    have row : (top + (down : Int) - top).toNat = down := by omega
    rw [column, row, found]
    exact set
  · intro covered
    split at covered
    · next inside =>
      have high : (y - top).toNat < sprite.length := by omega
      rw [List.getElem?_eq_getElem high] at covered
      refine ⟨_, _, (x - left).toNat, List.getElem?_eq_getElem high,
        mem_columns_iff.mpr ⟨by omega, covered⟩, ?_, ?_⟩
      · simp only [Int.ofNat_eq_natCast]
        omega
      · simp only [Int.ofNat_eq_natCast]
        omega
    · cases covered

theorem nodup_columns (row : UInt8) : (columns row).Nodup :=
  List.nodup_range.filter _

/-- The rows of a sprite lie at different heights, and the columns of a row side by side. -/
theorem nodup_cells (sprite : Sprite) (left top : Int) : (sprite.cells left top).Nodup := by
  rw [cells, List.nodup_flatMap]
  constructor
  · rintro ⟨row, down⟩ _
    apply (nodup_columns row).map
    intro across other same
    simp only [Prod.mk.injEq, Int.ofNat_eq_natCast, and_true] at same
    omega
  · have numbered : (sprite.zipIdx.map Prod.snd).Nodup := by
      rw [List.zipIdx_map_snd]
      exact List.nodup_range'
    refine (List.pairwise_map.mp numbered).imp ?_
    rintro ⟨row, down⟩ ⟨other, below⟩ apart ⟨x, y⟩ first second
    obtain ⟨_, _, same⟩ := List.mem_map.mp first
    obtain ⟨_, _, same'⟩ := List.mem_map.mp second
    simp only [Prod.mk.injEq, Int.ofNat_eq_natCast] at same same'
    exact apart (by simp only; omega)

end Sprite

/-!
### Flipping positions one after the other

As long as no position comes twice, the flips do not see each other: a pixel changes exactly when
its position is in the list, and a collision is a position of the list that was on at the start.
-/

namespace Framebuffer

variable {width height : Int}

/-- A picture is determined by its pixels. -/
theorem ext_pixelAt {screen other : Framebuffer width height}
    (same : ∀ x y : Nat, screen.pixelAt x y = other.pixelAt x y) : screen = other := by
  cases screen with
  | mk pixels =>
      cases other with
      | mk pixels' =>
          congr 1
          apply Vector.ext
          intro place inside
          -- The place is the offset of a position on the screen, which has a positive width.
          have wide : 0 < width.toNat := by
            apply Nat.pos_of_ne_zero
            intro none
            rw [none, Nat.zero_mul] at inside
            exact Nat.not_lt_zero place inside
          have column : place % width.toNat < width.toNat := Nat.mod_lt place wide
          have row : place / width.toNat < height.toNat := Nat.div_lt_of_lt_mul inside
          have onScreen : Inside width height (place % width.toNat : Nat)
              (place / width.toNat : Nat) :=
            ⟨Int.natCast_nonneg _, Int.lt_toNat.mp column, Int.natCast_nonneg _,
              Int.lt_toNat.mp row⟩
          have kept : place / width.toNat * width.toNat + place % width.toNat = place :=
            Nat.div_add_mod' place width.toNat
          have := same (place % width.toNat) (place / width.toNat)
          simpa only [pixelAt, dif_pos onScreen, offset, Int.toNat_natCast, kept, Fin.getElem_fin]
            using this

theorem pixelAt_toggle (screen : Framebuffer width height) (x y x' y' : Int) :
    (screen.toggle x y).1.pixelAt x' y' =
      if (x, y) = (x', y') ∧ Inside width height x' y' then !screen.pixelAt x' y'
      else screen.pixelAt x' y' := by
  rw [toggle, pixelAt_paint]
  by_cases same : (x, y) = (x', y')
  · cases same
    simp
  · rw [if_neg (fun both => same (by rw [both.1, both.2.1])), if_neg (fun both => same both.1)]

theorem pixelAt_of_outside {screen : Framebuffer width height} {x y : Int}
    (outside : ¬ Inside width height x y) : screen.pixelAt x y = false := by
  rw [pixelAt, dif_neg outside]

/-- The flag that is carried along collects the collisions and has no influence on the picture. -/
theorem foldl_toggle (positions : List (Int × Int)) (screen : Framebuffer width height)
    (collided : Bool) :
    positions.foldl
      (fun (picture, collided) (x, y) =>
        let (flipped, wasOn) := picture.toggle x y
        (flipped, collided || wasOn))
      (screen, collided) =
    ((screen.stamp positions).1, collided || (screen.stamp positions).2) := by
  induction positions generalizing screen collided with
  | nil => simp [stamp]
  | cons position rest ih =>
      simp only [stamp, List.foldl_cons]
      rw [ih, ih]
      simp [Bool.or_assoc]

theorem stamp_cons (screen : Framebuffer width height) (x y : Int) (rest : List (Int × Int)) :
    screen.stamp ((x, y) :: rest) =
      (((screen.toggle x y).1.stamp rest).1,
        screen.pixelAt x y || ((screen.toggle x y).1.stamp rest).2) := by
  rw [stamp, List.foldl_cons, foldl_toggle]
  simp only [Bool.false_or, toggle]

theorem pixelAt_stamp {positions : List (Int × Int)} (distinct : positions.Nodup)
    (screen : Framebuffer width height) (x y : Int) :
    (screen.stamp positions).1.pixelAt x y =
      (screen.pixelAt x y ^^ decide (Inside width height x y ∧ (x, y) ∈ positions)) := by
  induction positions generalizing screen with
  | nil => simp [stamp]
  | cons position rest ih =>
      obtain ⟨fresh, distinct⟩ := List.nodup_cons.mp distinct
      rw [stamp_cons, ih distinct, pixelAt_toggle]
      by_cases same : position = (x, y)
      · -- The position itself: it is flipped now and, being fresh, not once more later.
        subst same
        by_cases inside : Inside width height x y <;> simp [inside, fresh]
      · simp [same, Ne.symm same]

theorem collided_stamp_iff {positions : List (Int × Int)} (distinct : positions.Nodup)
    (screen : Framebuffer width height) :
    (screen.stamp positions).2 = true ↔
      ∃ x y, (x, y) ∈ positions ∧ screen.pixelAt x y = true := by
  induction positions generalizing screen with
  | nil => simp [stamp]
  | cons position rest ih =>
      obtain ⟨fresh, distinct⟩ := List.nodup_cons.mp distinct
      -- A position of the rest differs from the first one, so its pixel was not flipped before.
      have kept : ∀ x y, (x, y) ∈ rest →
          (screen.toggle position.1 position.2).1.pixelAt x y = screen.pixelAt x y := by
        intro x y later
        rw [pixelAt_toggle, if_neg]
        intro both
        have first : position = (x, y) := both.1
        exact fresh (first ▸ later)
      rw [stamp_cons, Bool.or_eq_true, ih distinct]
      constructor
      · intro collision
        rcases collision with on | ⟨x, y, later, on⟩
        · exact ⟨_, _, List.mem_cons_self, on⟩
        · exact ⟨x, y, List.mem_cons_of_mem _ later, kept x y later ▸ on⟩
      · intro collision
        obtain ⟨x, y, found, on⟩ := collision
        rcases List.mem_cons.mp found with rfl | later
        · exact .inl on
        · exact .inr ⟨x, y, later, (kept x y later).symm ▸ on⟩

/-!
### Drawing with checked accesses

A picture can also be flipped by reading and writing its pixels, which is refused off the screen.
When no position has a negative part it is enough to pass over those beyond the right and the lower
edge.
-/

/-- Flip pixels by reading and writing them, and tell whether one of them was on or `collided`
already held. -/
def stampChecked (screen : Framebuffer width height) (collided : Bool) :
    List (Int × Int) → Except OutsideScreen (Framebuffer width height × Bool)
  | [] => .ok (screen, collided)
  | (x, y) :: rest =>
      if width ≤ x ∨ height ≤ y then screen.stampChecked collided rest
      else do
        let wasOn ← screen.read x y
        let flipped ← screen.write x y (!wasOn)
        flipped.stampChecked (collided || wasOn) rest

theorem toggle_of_outside {screen : Framebuffer width height} {x y : Int}
    (outside : ¬ Inside width height x y) : screen.toggle x y = (screen, false) := by
  rw [toggle, paint, dif_neg outside, pixelAt_of_outside outside]

theorem stampChecked_eq {positions : List (Int × Int)}
    (ahead : ∀ position ∈ positions, 0 ≤ position.1 ∧ 0 ≤ position.2)
    (screen : Framebuffer width height) (collided : Bool) :
    screen.stampChecked collided positions =
      .ok ((screen.stamp positions).1, collided || (screen.stamp positions).2) := by
  induction positions generalizing screen collided with
  | nil => simp [stampChecked, stamp]
  | cons position rest ih =>
      obtain ⟨x, y⟩ := position
      obtain ⟨⟨right, below⟩, ahead⟩ := List.forall_mem_cons.mp ahead
      rw [stampChecked, stamp_cons]
      by_cases clipped : width ≤ x ∨ height ≤ y
      · have outside : ¬ Inside width height x y := by
          intro inside
          obtain ⟨_, wide, _, high⟩ := inside
          omega
        rw [if_pos clipped, ih ahead, toggle_of_outside outside, pixelAt_of_outside outside,
          Bool.false_or]
      · have inside : Inside width height x y := ⟨right, by omega, below, by omega⟩
        rw [if_neg clipped, read, if_pos inside]
        change (do
          let flipped ← screen.write x y (!screen.pixelAt x y)
          flipped.stampChecked (collided || screen.pixelAt x y) rest) = _
        rw [write, if_pos inside, Truth.ofNumber_coe]
        change (screen.paint x y (!screen.pixelAt x y)).stampChecked _ rest = _
        rw [ih ahead, Bool.or_assoc]
        rfl

/-!
### Drawing a sprite
-/

/-- Drawing flips exactly the pixels on the screen that the sprite covers. -/
theorem pixelAt_drawSprite (screen : Framebuffer width height) (sprite : Sprite)
    (left top x y : Int) :
    (screen.drawSprite sprite left top).1.pixelAt x y =
      (screen.pixelAt x y ^^ (decide (Inside width height x y) && sprite.mask left top x y)) := by
  rw [drawSprite, pixelAt_stamp (sprite.nodup_cells left top)]
  simp only [Sprite.mem_cells_iff, Bool.decide_and, Bool.decide_eq_true]

/-- Drawing collides exactly when it turns a pixel off. -/
theorem collided_drawSprite_iff (screen : Framebuffer width height) (sprite : Sprite)
    (left top : Int) :
    (screen.drawSprite sprite left top).2 = true ↔
      ∃ x y, screen.pixelAt x y = true ∧ sprite.mask left top x y = true := by
  rw [drawSprite, collided_stamp_iff (sprite.nodup_cells left top)]
  simp only [Sprite.mem_cells_iff, and_comm]

/-- A sprite whose corner is on the screen can be drawn with checked accesses, and none of them is
refused. -/
theorem stampChecked_cells (screen : Framebuffer width height) (sprite : Sprite)
    (left top : Nat) :
    screen.stampChecked false (sprite.cells left top) =
      .ok (screen.drawSprite sprite left top) := by
  rw [stampChecked_eq, Bool.false_or, drawSprite]
  intro position covered
  obtain ⟨x, y⟩ := position
  have rectangle := Sprite.mem_cells_iff.mp covered
  rw [Sprite.mask] at rectangle
  split at rectangle
  · next inside => omega
  · cases rectangle

/-!
### Rows
-/

/-- A row is as long as the screen is wide, and lies inside it. -/
theorem row_extent (width : Int) {y : Nat} (below : y < height.toNat) :
    (y + 1) * width.toNat - y * width.toNat = width.toNat ∧
      (y + 1) * width.toNat ≤ width.toNat * height.toNat := by
  constructor
  · rw [Nat.succ_mul, Nat.add_sub_cancel_left]
  · rw [Nat.mul_comm]
    exact Nat.mul_le_mul_left _ below

theorem length_row (screen : Framebuffer width height) {y : Nat} (below : y < height.toNat) :
    (screen.row y).length = width.toNat := by
  obtain ⟨size, inside⟩ := row_extent width below
  simp only [row, Array.length_toList, Array.size_extract, Vector.size_toArray,
    Nat.min_eq_left inside, size]

theorem getElem?_row (screen : Framebuffer width height) {y : Nat} (below : y < height.toNat)
    (x : Nat) :
    (screen.row y)[x]? =
      if x < width.toNat then screen.pixels[y * width.toNat + x]? else none := by
  obtain ⟨size, inside⟩ := row_extent width below
  simp only [row, Array.getElem?_toList, Array.getElem?_extract, Vector.size_toArray,
    Nat.min_eq_left inside, size, Vector.getElem?_toArray]

/-- A pixel is found in its row, and nowhere else. -/
theorem pixelAt_eq_getElem?_rows (screen : Framebuffer width height) (x y : Nat) :
    screen.pixelAt x y = ((screen.rows[y]?.getD [])[x]?.getD false) := by
  by_cases below : y < height.toNat
  · have found : screen.rows[y]? = some (screen.row y) := by simp [rows, below]
    rw [found, Option.getD_some, getElem?_row screen below]
    by_cases column : x < width.toNat
    · have inside : Inside width height x y := ⟨by omega, by omega, by omega, by omega⟩
      have bound : y * width.toNat + x < width.toNat * height.toNat := by
        simpa [offset] using offset_lt inside
      simp [pixelAt, inside, column, offset, Vector.getElem?_eq_getElem bound]
    · have outside : ¬ Inside width height x y := by
        rintro ⟨_, _, _, _⟩
        omega
      rw [pixelAt_of_outside outside, if_neg column]
      rfl
  · have outside : ¬ Inside width height x y := by
      rintro ⟨_, _, _, _⟩
      omega
    have missing : screen.rows[y]? = none := by
      simp [rows]
      omega
    rw [pixelAt_of_outside outside, missing]
    rfl

theorem rows_injective :
    Function.Injective (rows : Framebuffer width height → List (List Bool)) := by
  intro screen other same
  apply ext_pixelAt
  intro x y
  rw [pixelAt_eq_getElem?_rows, pixelAt_eq_getElem?_rows, same]

end Framebuffer

end ChipEight

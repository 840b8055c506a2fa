import CircuitHub.Proofs.Extent
import CircuitHub.Schematic.Draw

/-!
# A view in its area

The part of an area that a view gets has cells, and none outside the area (`fitArea_fits`). How wide
or high the view should be is found by dividing floating-point numbers, and that can come to any
extent at all: to none if its proportions are no numbers, and to the greatest if they are infinite.
So nothing is asked here of the extents that the proportions come to (`fitTo`), and each sum and
difference is one that may have no result (`fit?`).
-/

namespace CircuitHub

/-- An area has cells, none of which is outside another area. -/
structure Area.Fits (a b : Area) : Prop where
  width_pos : 0 < a.width
  height_pos : 0 < a.height
  within : a.Within b

/-! ## Proportions -/

namespace ViewBox

/-- The view has no extent in some direction. -/
def isFlat (view : ViewBox) : Bool := view.width ≤ 0 || view.height ≤ 0

/-- The columns that a view asks for in so many rows. -/
def columnsFor (view : ViewBox) (rows : Nat) : Nat :=
  Extent.nearest (Float.ofNat rows * 2 * (view.width / view.height))

/-- The rows that a view asks for in so many columns. -/
def rowsFor (view : ViewBox) (columns : Nat) : Nat :=
  Extent.nearest (Float.ofNat columns / (view.width / view.height) / 2)

end ViewBox

/-- The part of an area for a view that asks for so many columns or rows. -/
def fitTo (area : Area) (isFlat : Bool) (columns rows : Nat) : Area :=
  if isFlat || area.isEmpty then area
  else if columns ≤ area.width then
    ⟨area.x + (area.width - columns) / 2, area.y, max columns 1, area.height⟩
  else
    let rows := min (max rows 1) area.height
    ⟨area.x, area.y + (area.height - rows) / 2, area.width, rows⟩

theorem fitArea_eq_fitTo (area : Area) (view : ViewBox) :
    fitArea area view =
      fitTo area view.isFlat (view.columnsFor area.height) (view.rowsFor area.width) := rfl

variable {area : Area}

theorem pos_of_not_isEmpty (h : area.isEmpty = false) : 0 < area.width ∧ 0 < area.height := by
  simp only [Area.isEmpty, Bool.or_eq_false_iff, decide_eq_false_iff_not] at h
  omega

theorem fitTo_fits (hcells : area.isEmpty = false) (isFlat : Bool) (columns rows : Nat) :
    (fitTo area isFlat columns rows).Fits area := by
  obtain ⟨hwidth, hheight⟩ := pos_of_not_isEmpty hcells
  rw [fitTo]
  split
  · exact ⟨hwidth, hheight, Nat.le_refl _, Nat.le_refl _, Nat.le_refl _, Nat.le_refl _⟩
  · split
    · -- The columns are in the middle, and one of them is there even if none are asked for.
      refine ⟨Nat.lt_of_lt_of_le Nat.one_pos (Nat.le_max_right _ _), hheight, ?_⟩
      simp only [Area.Within, Area.right, Area.bottom]
      omega
    · have hrows : 0 < max rows 1 := Nat.lt_of_lt_of_le Nat.one_pos (Nat.le_max_right _ _)
      refine ⟨hwidth, Nat.lt_min.2 ⟨hrows, hheight⟩, ?_⟩
      simp only [Area.Within, Area.right, Area.bottom]
      omega

/-! ## Sums and differences -/

namespace Extent

/-- The number between two others that is nearest to a number. The first of them must not be the
    greater one. -/
def clamp? (n least most : Nat) : Option Nat :=
  if least ≤ most then some (min (max n least) most) else none

theorem clamp?_of_le {n least most : Nat} (h : least ≤ most) :
    clamp? n least most = some (min (max n least) most) := if_pos h

/-- Where a part begins that is in the middle of an extent. -/
def middle? (start extent part : Nat) : Option Nat := do
  let free ← sub? extent part
  add? start (free / 2)

theorem middle?_of_le {start extent part : Nat} (hpart : part ≤ extent)
    (hend : start + extent ≤ greatest) :
    middle? start extent part = some (start + (extent - part) / 2) := by
  have hstart : start + (extent - part) / 2 ≤ greatest := by omega
  rw [middle?, sub?_of_le hpart]
  exact add?_of_le hstart

end Extent

/-- The part of an area for a view that asks for so many columns or rows, if all sums and
    differences are extents. -/
def fit? (area : Area) (isFlat : Bool) (columns rows : Nat) : Option Area :=
  if isFlat || area.isEmpty then some area
  else if columns ≤ area.width then do
    let x ← Extent.middle? area.x area.width columns
    some ⟨x, area.y, max columns 1, area.height⟩
  else do
    let rows ← Extent.clamp? rows 1 area.height
    let y ← Extent.middle? area.y area.height rows
    some ⟨area.x, y, area.width, rows⟩

theorem fit?_eq_fitTo (hcells : area.isEmpty = false) (hright : area.right ≤ Extent.greatest)
    (hbottom : area.bottom ≤ Extent.greatest) (isFlat : Bool) (columns rows : Nat) :
    fit? area isFlat columns rows = some (fitTo area isFlat columns rows) := by
  rw [fit?, fitTo]
  split
  · rfl
  · split
    case isTrue hcolumns => rw [Extent.middle?_of_le hcolumns hright]; rfl
    case isFalse =>
      have hheight : 1 ≤ area.height := (pos_of_not_isEmpty hcells).2
      rw [Extent.clamp?_of_le hheight, Option.bind_eq_bind, Option.bind_some,
        Extent.middle?_of_le (Nat.min_le_right _ _) hbottom]
      rfl

/-- In an area with cells a view gets an area with cells, none of them outside the first one, and
    all sums and differences on the way are extents. It does not matter what the view is like, nor
    what its proportions come to. -/
theorem fitArea_fits (hcells : area.isEmpty = false) (hright : area.right ≤ Extent.greatest)
    (hbottom : area.bottom ≤ Extent.greatest) (view : ViewBox) :
    (fitArea area view).Fits area ∧
      fit? area view.isFlat (view.columnsFor area.height) (view.rowsFor area.width) =
        some (fitArea area view) ∧
      ∀ isFlat columns rows, ∃ fitted,
        fit? area isFlat columns rows = some fitted ∧ fitted.Fits area := by
  rw [fitArea_eq_fitTo]
  exact ⟨fitTo_fits hcells _ _ _, fit?_eq_fitTo hcells hright hbottom _ _ _,
    fun isFlat columns rows => ⟨_, fit?_eq_fitTo hcells hright hbottom isFlat columns rows,
      fitTo_fits hcells isFlat columns rows⟩⟩

/-- A column in the last rows of the screen, and a view whose width is no number. -/
theorem fitArea_fits_lastRows :
    let area : Area := ⟨7, 65530, 1, 5⟩
    let view : ViewBox := ⟨0, 0, 0 / 0, 100⟩
    area.isEmpty = false ∧ area.right ≤ Extent.greatest ∧ area.bottom ≤ Extent.greatest ∧
      view.isFlat = false ∧ (fitArea area view).Fits area ∧
      fit? area false 1 65535 = some ⟨7, 65530, 1, 5⟩ ∧
      fit? area false 2 0 = some ⟨7, 65532, 1, 1⟩ := by
  have hcells : (⟨7, 65530, 1, 5⟩ : Area).isEmpty = false := by decide
  have hright : (⟨7, 65530, 1, 5⟩ : Area).right ≤ Extent.greatest := by decide
  have hbottom : (⟨7, 65530, 1, 5⟩ : Area).bottom ≤ Extent.greatest := by decide
  exact ⟨hcells, hright, hbottom, by decide, (fitArea_fits hcells hright hbottom _).1, by decide,
    by decide⟩

end CircuitHub

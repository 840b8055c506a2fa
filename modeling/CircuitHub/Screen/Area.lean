import CircuitHub.Extent

/-!
# Areas of the screen

An area is a rectangle of cells. Areas are cut into strips of fixed extents and one that takes what
is left.
-/

namespace CircuitHub

/-- A rectangle of cells. -/
structure Area where
  /-- The column of its left edge. -/
  x : Nat
  /-- The row of its upper edge. -/
  y : Nat
  /-- Its columns. -/
  width : Nat
  /-- Its rows. -/
  height : Nat
  deriving DecidableEq, Repr

namespace Area

/-- The first column to the right of the area. -/
def right (a : Area) : Nat := a.x + a.width

/-- The first row below the area. -/
def bottom (a : Area) : Nat := a.y + a.height

/-- The area has no cells. -/
def isEmpty (a : Area) : Bool := a.width = 0 || a.height = 0

/-- The cells of both areas. -/
def intersect (a b : Area) : Area :=
  let x := max a.x b.x
  let y := max a.y b.y
  ⟨x, y, min a.right b.right - x, min a.bottom b.bottom - y⟩

/-- The area belongs to another one. -/
def Within (a b : Area) : Prop :=
  b.x ≤ a.x ∧ b.y ≤ a.y ∧ a.right ≤ b.right ∧ a.bottom ≤ b.bottom

/-- The area without some columns and rows at each side. -/
def inset (a : Area) (columns rows : Nat) : Area :=
  ⟨a.x + columns, a.y + rows, a.width - 2 * columns, a.height - 2 * rows⟩

/-- The rows from `top` on, at most `height` of them. -/
def rowsFrom (a : Area) (top height : Nat) : Area :=
  ⟨a.x, a.y + min top a.height, a.width, min height (a.height - top)⟩

/-- The columns from `left` on, at most `width` of them. -/
def columnsFrom (a : Area) (left width : Nat) : Area :=
  ⟨a.x + min left a.width, a.y, min width (a.width - left), a.height⟩

/-- The area without its first columns. -/
def indent (a : Area) (columns : Nat) : Area := a.columnsFrom columns a.width

end Area

end CircuitHub

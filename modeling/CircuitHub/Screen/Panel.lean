import CircuitHub.Screen.Grid

/-!
# Panels

A panel is an area with a border, a title on its upper edge and some space within.
-/

namespace CircuitHub

/-- How the edges of a panel are drawn. -/
inductive Edges where
  /-- Light strokes with round corners. -/
  | rounded
  /-- Heavy strokes. -/
  | thick
  /-- A light stroke on the right side only. -/
  | rightOnly
  /-- Nothing. -/
  | none
  deriving DecidableEq, Repr

/-- A border with a title. -/
structure Panel where
  /-- The edges. -/
  edges : Edges := .rounded
  /-- Their style. -/
  style : Style := {}
  /-- The title. -/
  title : Text := []
  /-- The style of the title. -/
  titleStyle : Style := {}
  /-- The title stands at the right end of the upper edge. -/
  titleRight : Bool := false
  /-- The columns left free at either side. -/
  padColumns : Nat := 0
  /-- The rows left free above and below. -/
  padRows : Nat := 0
  deriving DecidableEq, Repr

namespace Panel

/-- All four sides have edges. -/
def isBoxed (p : Panel) : Bool := p.edges = .rounded || p.edges = .thick

/-- There is an edge on the right side. -/
def hasRightEdge (p : Panel) : Bool := p.edges != .none

/-- One column or row for an edge that is there. -/
def one (present : Bool) : Nat := if present then 1 else 0

/-- What the panel leaves for its content. -/
def inner (p : Panel) (a : Area) : Area :=
  let left := one p.isBoxed
  let right := one p.hasRightEdge
  let top := one (p.isBoxed || !p.title.isEmpty)
  let bottom := one p.isBoxed
  ⟨a.x + min left a.width + p.padColumns, a.y + min top a.height + p.padRows,
    a.width - left - right - 2 * p.padColumns, a.height - top - bottom - 2 * p.padRows⟩

/-- The symbols of the edges: upright, level, and the corners from the upper left one clockwise. -/
def symbols (p : Panel) : Char × Char × Char × Char × Char × Char :=
  match p.edges with
  | .thick => ('┃', '━', '┏', '┓', '┛', '┗')
  | _ => ('│', '─', '╭', '╮', '╯', '╰')

/-- The grid with the edges drawn around an area that is not empty. Where edges meet, the corner
    is drawn last. -/
def drawEdges (p : Panel) (g : Grid) (a : Area) : Grid :=
  let (upright, level, upperLeft, upperRight, lowerRight, lowerLeft) := p.symbols
  let put (c : Char) (g : Grid) (part : Area) : Grid := g.modifyArea part (·.display [c] p.style)
  let leftSide : Area := ⟨a.x, a.y, 1, a.height⟩
  let rightSide : Area := ⟨a.right - 1, a.y, 1, a.height⟩
  let upper : Area := ⟨a.x, a.y, a.width, 1⟩
  let lower : Area := ⟨a.x, a.bottom - 1, a.width, 1⟩
  match p.edges with
  | .none => g
  | .rightOnly => put upright g rightSide
  | _ =>
    let g := put upright g leftSide
    let g := put level g upper
    let g := put upright g rightSide
    let g := put level g lower
    let g := put lowerRight g ⟨a.right - 1, a.bottom - 1, 1, 1⟩
    let g := put upperRight g ⟨a.right - 1, a.y, 1, 1⟩
    let g := put lowerLeft g ⟨a.x, a.bottom - 1, 1, 1⟩
    put upperLeft g ⟨a.x, a.y, 1, 1⟩

/-- The part of the upper edge that a title may take up. -/
def titleArea (p : Panel) (a : Area) : Area :=
  let left := one p.isBoxed
  ⟨a.x + left, a.y, a.width - left - one p.hasRightEdge, 1⟩

/-- The grid with the title drawn on the upper edge of an area. -/
def drawTitle (p : Panel) (g : Grid) (a : Area) : Grid :=
  let t := p.titleArea a
  let width := p.title.displayWidth
  let x := if p.titleRight then max (t.right - width) t.x else t.x
  let g := g.restyle ⟨x, t.y, min width t.width, 1⟩ p.titleStyle
  (g.drawText x t.y t.right p.title p.titleStyle).1

/-- The grid with the panel drawn around an area. -/
def draw (p : Panel) (g : Grid) (a : Area) : Grid :=
  let a := a.intersect g.area
  if a.isEmpty then g else p.drawTitle (p.drawEdges g a) a

end Panel

end CircuitHub

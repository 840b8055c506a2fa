import CircuitHub.Screen.Area
import CircuitHub.Screen.Line
import CircuitHub.Text.Cluster
import CircuitHub.Text.Width

/-!
# Grids of cells

A screen is a grid of cells, each with a symbol, two colours and an emphasis. A symbol that takes
up two columns hides the cell to its right. All drawing goes through `Grid.modify`, which ignores
cells outside the grid.
-/

namespace CircuitHub

/-- A cell of the screen. -/
structure Cell where
  /-- The cluster of characters that is shown. -/
  symbol : Text := [' ']
  /-- The colour of its strokes. -/
  fg : Color := .reset
  /-- The colour behind it. -/
  bg : Color := .reset
  /-- What is done to its strokes. -/
  emphasis : Emphasis := {}
  deriving DecidableEq, Inhabited, Repr

namespace Cell

/-- The cell with a style laid over its own. -/
def restyle (c : Cell) (s : Style) : Cell :=
  { c with fg := s.fg?.getD c.fg, bg := s.bg?.getD c.bg, emphasis := c.emphasis.union s.emphasis }

/-- The cell with a symbol in a style. -/
def display (c : Cell) (symbol : Text) (s : Style) : Cell := { c with symbol }.restyle s

/-- The style of the cell. -/
def style (c : Cell) : Style := ⟨some c.fg, some c.bg, c.emphasis⟩

end Cell

/-- A grid of cells, row after row. -/
structure Grid where
  /-- Its columns. -/
  width : Nat
  /-- Its rows. -/
  height : Nat
  /-- Its cells. -/
  cells : Array Cell

namespace Grid

/-- The grid of a size without anything on it. -/
def blank (width height : Nat) : Grid := ⟨width, height, Array.replicate (width * height) {}⟩

/-- All of the grid. -/
def area (g : Grid) : Area := ⟨0, 0, g.width, g.height⟩

/-- The cell in a column and a row. -/
def cell (g : Grid) (x y : Nat) : Cell :=
  if x < g.width && y < g.height then g.cells[y * g.width + x]?.getD {} else {}

/-- The grid with one cell changed. -/
def modify (g : Grid) (x y : Nat) (f : Cell → Cell) : Grid :=
  if x < g.width && y < g.height then { g with cells := g.cells.modify (y * g.width + x) f } else g

/-- The grid with each cell of an area changed. -/
def modifyArea (g : Grid) (a : Area) (f : Cell → Cell) : Grid :=
  (List.range' a.y a.height).foldl
    (fun g y => (List.range' a.x a.width).foldl (fun g x => g.modify x y f) g) g

/-- The grid with a style laid over an area. -/
def restyle (g : Grid) (a : Area) (s : Style) : Grid :=
  if s = {} then g else g.modifyArea (a.intersect g.area) (·.restyle s)

/-- The clusters of a text that can be drawn, each with its columns. -/
def drawable (t : Text) : List (Text × Nat) :=
  (t.clusters.filter fun c => !c.any isControl).map fun c => (c, c.displayWidth)

/-- The grid with clusters drawn in a row, from a column up to a limit, and the column after them.
    A cluster that takes up no columns is left out, and a cell that a cluster hides is emptied. -/
def drawClusters (g : Grid) (x y limit : Nat) (s : Style) : List (Text × Nat) → Grid × Nat
  | [] => (g, x)
  | (symbol, width) :: rest =>
    if width = 0 then drawClusters g x y limit s rest
    else if limit < x + width then (g, x)
    else
      let g := g.modify x y (·.display symbol s)
      let g := (List.range' (x + 1) (width - 1)).foldl (fun g x => g.modify x y fun _ => {}) g
      drawClusters g (x + width) y limit s rest

/-- The grid with a text drawn in a row, from a column up to a limit, and the column after it. -/
def drawText (g : Grid) (x y limit : Nat) (t : Text) (s : Style) : Grid × Nat :=
  g.drawClusters x y limit s (drawable t)

/-- The grid with the spans of a line drawn in a row, from a column up to a limit. -/
def drawSpans (g : Grid) (x y limit : Nat) (line : Line) : Grid :=
  (line.spans.foldl (fun (g, x) span =>
    g.drawText x y limit span.text (span.style.atop line.style)) (g, x)).1

/-! ### What can be seen -/

/-- The cells of a row without those that the cells before them hide. -/
def visible : Nat → List Cell → List Cell
  | _, [] => []
  | 0, c :: cells => c :: visible (c.symbol.displayWidth - 1) cells
  | hidden + 1, _ :: cells => visible hidden cells

/-- The cells of a row. -/
def row (g : Grid) (y : Nat) : List Cell := (g.cells.extract (y * g.width) ((y + 1) * g.width)).toList

/-- What a row says, without the spaces it ends in. -/
def rowText (g : Grid) (y : Nat) : Text :=
  Text.dropEndWhile (· = ' ') ((visible 0 (g.row y)).flatMap (·.symbol))

/-- What the rows say. -/
def rowTexts (g : Grid) : List Text := (List.range g.height).map g.rowText

/-- Equal neighbours of a list counted together. -/
def runs {α : Type} [DecidableEq α] : List α → List (Nat × α)
  | [] => []
  | a :: l =>
    match runs l with
    | (n, b) :: rest => if a = b then (n + 1, b) :: rest else (1, a) :: (n, b) :: rest
    | [] => [(1, a)]

/-- The styles of the cells of a row, neighbours of one style counted together. -/
def rowStyles (g : Grid) (y : Nat) : List (Nat × Style) := runs ((g.row y).map (·.style))

end Grid

/-- What is shown at one time: a grid, and where the cursor of the terminal stands on it. -/
structure Frame where
  /-- The cells. -/
  grid : Grid
  /-- The column and row of the cursor, if it is shown. -/
  cursor? : Option (Nat × Nat) := none

namespace Frame

/-- The frame of a size with nothing on it. -/
def blank (width height : Nat) : Frame := { grid := .blank width height }

/-- All of the frame. -/
def area (f : Frame) : Area := f.grid.area

/-- The frame with something drawn on its grid. -/
def draw (f : Frame) (drawing : Grid → Grid) : Frame := { f with grid := drawing f.grid }

end Frame

end CircuitHub

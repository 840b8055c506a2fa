import CircuitHub.Canvas.Clip
import CircuitHub.Extent
import CircuitHub.Screen.Grid

/-!
# Rasters of dots

A cell of the screen shows two columns and four rows of dots. A stroke covers the dots nearest to
it, one in each column or one in each row, whichever are more.
-/

namespace CircuitHub.Canvas

/-- A dot, by its column from the left and its row from the top. -/
abbrev Dot := Nat × Nat

/-- The dot of a point on a raster of some columns and rows. What lies outside has none. -/
def dotOf? (b : Bounds) (columns rows : Nat) (p : Point) : Option Dot :=
  let width := b.right - b.left
  let height := b.top - b.bottom
  if p.x < b.left || b.right < p.x || p.y < b.bottom || b.top < p.y then none
  else if width ≤ 0 || height ≤ 0 then none
  else
    let x := ((p.x - b.left) * (Float.ofNat columns - 1) / width).round
    let y := ((b.top - p.y) * (Float.ofNat rows - 1) / height).round
    some (x.toUInt64.toNat, y.toUInt64.toNat)

/-- The values of a coordinate along a slanted line, one for each of `n` steps of the other
    coordinate. The line goes `rise` up for a `run`, and the error says how far the line has got
    towards the next value. -/
def slant (rise run : Int) (step : Nat → Nat) (error : Int) (value : Nat) : Nat → List Nat
  | 0 => []
  | n + 1 =>
    if 0 < error then
      value :: slant rise run step (error - 2 * run + 2 * rise) (step value) n
    else value :: slant rise run step (error + 2 * rise) value n

/-- The values of a coordinate from `a` on towards `b`, while the other goes on by `run`. -/
def slantBetween (a b run : Nat) : List Nat :=
  let rise := if a ≤ b then b - a else a - b
  let step (n : Nat) : Nat := if b < a then n - 1 else n + 1
  slant rise run step (2 * rise - run) a (run + 1)

/-- The dots of a straight line between two dots. -/
def dotsBetween (p q : Dot) : List Dot :=
  let (x₁, y₁) := p
  let (x₂, y₂) := q
  let run := max x₁ x₂ - min x₁ x₂
  let rise := max y₁ y₂ - min y₁ y₂
  if run = 0 then (List.range' (min y₁ y₂) (rise + 1)).map fun y => (x₁, y)
  else if rise = 0 then (List.range' (min x₁ x₂) (run + 1)).map fun x => (x, y₁)
  else if rise < run then
    let (a, b) := if x₂ < x₁ then (y₂, y₁) else (y₁, y₂)
    (List.range' (min x₁ x₂) (run + 1)).zip (slantBetween a b run)
  else
    let (a, b) := if y₂ < y₁ then (x₂, x₁) else (x₁, x₂)
    (slantBetween a b rise).zip (List.range' (min y₁ y₂) (rise + 1))

/-- The dots of a stroke on a raster of some columns and rows. -/
def dotsOf (b : Bounds) (columns rows : Nat) (stroke : Stroke) : List Dot :=
  match clip? b stroke with
  | none => []
  | some part =>
    match dotOf? b columns rows part.source, dotOf? b columns rows part.target with
    | some p, some q => dotsBetween p q
    | _, _ => []

/-! ### Patterns -/

/-- The value of a dot in the pattern of its cell. -/
def dotValue (d : Dot) : Nat :=
  match d.1 % 2, d.2 % 4 with
  | 0, 0 => 1
  | 0, 1 => 2
  | 0, 2 => 4
  | 0, _ => 64
  | _, 0 => 8
  | _, 1 => 16
  | _, 2 => 32
  | _, _ => 128

/-- The symbol of a pattern. -/
def patternSymbol (pattern : Nat) : Char := Char.ofNat (0x2800 + pattern)

/-- The patterns of cells, row after row. -/
abbrev Raster := Array Nat

namespace Raster

/-- The raster without dots. -/
def blank (width height : Nat) : Raster := Array.replicate (width * height) 0

/-- The raster of some columns of cells with a dot marked. -/
def mark (r : Raster) (width : Nat) (d : Dot) : Raster :=
  r.modify (d.2 / 4 * width + d.1 / 2) (· ||| dotValue d)

/-- The raster of some columns of cells with dots marked. -/
def markAll (r : Raster) (width : Nat) (dots : List Dot) : Raster :=
  dots.foldl (fun r d => r.mark width d) r

end Raster

/-! ### Drawing -/

/-- The grid with strokes drawn into an area, in one colour. Cells without dots stay as they are. -/
def drawStrokes (g : Grid) (area : Area) (b : Bounds) (color : Color) (strokes : List Stroke) :
    Grid :=
  let dots := strokes.flatMap (dotsOf b (2 * area.width) (4 * area.height))
  let raster := (Raster.blank area.width area.height).markAll area.width dots
  (raster.toList.zipIdx).foldl (fun g (pattern, i) =>
    if pattern = 0 then g
    else
      g.modify (area.x + i % area.width) (area.y + i / area.width)
        (·.display [patternSymbol pattern] (.ofColor color))) g

/-- The grid with a line of text drawn at a point of an area, if the point is within the bounds. -/
def drawTextAt (g : Grid) (area : Area) (b : Bounds) (p : Point) (line : Line) : Grid :=
  if b.contains p then
    let width := (b.right - b.left).abs
    let height := (b.top - b.bottom).abs
    let x := (p.x - b.left) * Float.ofNat (area.width - 1) / width
    let y := (b.top - p.y) * Float.ofNat (area.height - 1) / height
    g.drawSpans (area.x + Extent.saturate x.toUInt64.toNat)
      (area.y + Extent.saturate y.toUInt64.toNat) area.right line
  else g

end CircuitHub.Canvas

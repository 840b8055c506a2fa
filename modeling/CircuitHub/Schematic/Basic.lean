import CircuitHub.Text.Basic

/-!
# Schematics

A schematic is a drawing of straight strokes and text labels. Its coordinates are floating-point
numbers, and `y` grows downward.
-/

namespace CircuitHub

/-- A point of the plane. -/
structure Point where
  /-- The distance to the right. -/
  x : Float
  /-- The distance downward. -/
  y : Float
  deriving Inhabited, BEq, Repr

/-- A straight line between two points. -/
structure Stroke where
  /-- Where the stroke begins. -/
  source : Point
  /-- Where it ends. -/
  target : Point
  deriving Inhabited, BEq, Repr

/-- A text at a point. -/
structure Label where
  /-- Where the text begins. -/
  position : Point
  /-- What it says. -/
  text : Text
  deriving Inhabited, BEq, Repr

/-- The part of the plane that a drawing shows. -/
structure ViewBox where
  /-- The left edge. -/
  minX : Float
  /-- The upper edge. -/
  minY : Float
  /-- The extent to the right. -/
  width : Float
  /-- The extent downward. -/
  height : Float
  deriving Inhabited, BEq, Repr

/-- A drawing. -/
structure Schematic where
  /-- The part of the plane that is shown. -/
  viewBox : ViewBox
  /-- The strokes, in the order they are drawn. -/
  strokes : List Stroke
  /-- The labels, in the order they are written. -/
  labels : List Label
  deriving Inhabited, BEq, Repr

/-- The strokes between neighbouring points. -/
def strokesAlong : List Point → List Stroke
  | a :: b :: rest => ⟨a, b⟩ :: strokesAlong (b :: rest)
  | _ => []

/-- The strokes around a polygon; two corners or fewer enclose nothing. -/
def strokesAround (corners : List Point) : List Stroke :=
  match corners, corners.getLast? with
  | first :: _ :: _ :: _, some last => strokesAlong corners ++ [⟨last, first⟩]
  | _, _ => strokesAlong corners

/-- The lesser of two numbers; what is no number does not count. -/
def lesser (a b : Float) : Float :=
  if a.isNaN then b else if b < a then b else a

/-- The greater of two numbers; what is no number does not count. -/
def greater (a b : Float) : Float :=
  if a.isNaN then b else if a < b then b else a

/-- The view of a drawing that names none: all its strokes, with a margin of a twentieth of the
    greater extent and of one unit at least. A drawing without strokes is shown on a field of a
    hundred units. -/
def ViewBox.around (strokes : List Stroke) : ViewBox :=
  match strokes.flatMap fun s => [s.source, s.target] with
  | [] => ⟨0, 0, 100, 100⟩
  | p :: points =>
    let minX := points.foldl (fun x q => lesser x q.x) p.x
    let minY := points.foldl (fun y q => lesser y q.y) p.y
    let maxX := points.foldl (fun x q => greater x q.x) p.x
    let maxY := points.foldl (fun y q => greater y q.y) p.y
    let margin := greater (greater (maxX - minX) (maxY - minY) * 0.05) 1
    ⟨minX - margin, minY - margin, maxX - minX + margin * 2, maxY - minY + margin * 2⟩

end CircuitHub

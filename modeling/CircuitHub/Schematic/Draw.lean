import CircuitHub.Canvas.Raster

/-!
# Schematics on the screen

A schematic is drawn as large as its area allows without losing its proportions, in the middle of
the area. A cell is about twice as high as it is wide.
-/

namespace CircuitHub

/-- The extent nearest to a number; what is no number is nothing. -/
def Extent.nearest (x : Float) : Nat := saturate x.round.toUInt64.toNat

/-- The part of an area in which a view keeps its proportions. A view without extent takes up all
    of the area. -/
def fitArea (area : Area) (view : ViewBox) : Area :=
  if view.width ≤ 0 || view.height ≤ 0 || area.isEmpty then area
  else
    let ratio := view.width / view.height
    let width := Extent.nearest (Float.ofNat area.height * 2 * ratio)
    if width ≤ area.width then
      ⟨area.x + (area.width - width) / 2, area.y, max width 1, area.height⟩
    else
      let height := Extent.nearest (Float.ofNat area.width / ratio / 2)
      let height := min (max height 1) area.height
      ⟨area.x, area.y + (area.height - height) / 2, area.width, height⟩

/-- A point of a drawing on a canvas, whose vertical axis points upward. -/
def Point.upward (p : Point) : Point := ⟨p.x, -p.y⟩

/-- The rectangle of a canvas that a view shows. -/
def ViewBox.bounds (v : ViewBox) : Canvas.Bounds where
  left := v.minX
  right := v.minX + v.width
  bottom := -(v.minY + v.height)
  top := -v.minY

namespace Schematic

/-- The grid with the schematic drawn into an area, its strokes in one colour and its labels over
    them. -/
def draw (s : Schematic) (color : Color) (g : Grid) (area : Area) : Grid :=
  let area := (fitArea area s.viewBox).intersect g.area
  if area.isEmpty then g
  else
    let bounds := s.viewBox.bounds
    let strokes := s.strokes.map fun s => ⟨s.source.upward, s.target.upward⟩
    let g := Canvas.drawStrokes g area bounds color strokes
    s.labels.foldl (fun g l =>
      Canvas.drawTextAt g area bounds l.position.upward (.ofSpan l.text (.ofColor .yellow))) g

end Schematic

end CircuitHub

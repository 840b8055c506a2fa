import CircuitHub.Schematic.Basic

/-!
# Clipping of strokes

A canvas shows a rectangle of the plane whose vertical axis points upward. A stroke is cut where it
leaves the rectangle: as long as an end lies beyond a side, it is moved along the stroke to that
side.
-/

namespace CircuitHub.Canvas

/-- The rectangle of the plane that a canvas shows. -/
structure Bounds where
  left : Float
  right : Float
  bottom : Float
  top : Float
  deriving Inhabited, BEq, Repr

/-- The sides beyond which a point lies. -/
structure Beyond where
  left : Bool
  right : Bool
  bottom : Bool
  top : Bool
  deriving DecidableEq, Repr

namespace Bounds

/-- The sides beyond which a point lies. What is no number lies beyond none. -/
def beyond (b : Bounds) (p : Point) : Beyond where
  left := p.x < b.left
  right := !(p.x < b.left) && b.right < p.x
  bottom := p.y < b.bottom
  top := !(p.y < b.bottom) && b.top < p.y

/-- A point lies within the rectangle or on its sides. -/
def contains (b : Bounds) (p : Point) : Bool :=
  b.left ≤ p.x && p.x ≤ b.right && b.bottom ≤ p.y && p.y ≤ b.top

end Bounds

namespace Beyond

/-- The point lies beyond no side. -/
def isNone (s : Beyond) : Bool := !s.left && !s.right && !s.bottom && !s.top

/-- Two points lie beyond one and the same side. -/
def meets (s t : Beyond) : Bool :=
  (s.left && t.left) || (s.right && t.right) || (s.bottom && t.bottom) || (s.top && t.top)

end Beyond

/-- The point where a stroke meets a side beyond which one of its ends lies. -/
def crossing (b : Bounds) (s : Beyond) (stroke : Stroke) : Point :=
  let p := stroke.source
  let q := stroke.target
  let atHeight (y : Float) : Point := ⟨p.x + (q.x - p.x) * (y - p.y) / (q.y - p.y), y⟩
  let atColumn (x : Float) : Point := ⟨x, p.y + (q.y - p.y) * (x - p.x) / (q.x - p.x)⟩
  if s.top then atHeight b.top
  else if s.bottom then atHeight b.bottom
  else if s.right then atColumn b.right
  else atColumn b.left

/-- The part of a stroke within the bounds, found by so many moves at most. -/
def clipWithin (b : Bounds) (stroke : Stroke) : Nat → Option Stroke
  | 0 => none
  | moves + 1 =>
    let s := b.beyond stroke.source
    let t := b.beyond stroke.target
    if s.isNone && t.isNone then some stroke
    else if s.meets t then none
    else if s.isNone then
      clipWithin b { stroke with target := crossing b t stroke } moves
    else clipWithin b { stroke with source := crossing b s stroke } moves

/-- The part of a stroke within the bounds. Each end is moved to two sides at most, and once more
    where rounding takes it beyond the first of them again. -/
def clip? (b : Bounds) (stroke : Stroke) : Option Stroke := clipWithin b stroke 16

end CircuitHub.Canvas

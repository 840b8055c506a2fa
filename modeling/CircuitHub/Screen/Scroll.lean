import CircuitHub.Screen.Grid

/-!
# Scrolling

More rows may be drawn than an area has. The area then shows a window on them, which the user moves
up and down. The position of the window is put right when it is shown (`Scroll.afterShow`), and a
bar at the right edge tells it.
-/

namespace CircuitHub

/-- A window on rows. -/
structure Scroll where
  /-- The first row that is shown. -/
  offset : Nat
  /-- The rows there were when they were last shown. -/
  content? : Option Nat
  /-- The rows of the window when they were last shown. -/
  page? : Option Nat
  deriving DecidableEq, Repr

namespace Scroll

/-- The window at the first row, before anything has been shown. -/
def start : Scroll := ⟨0, none, none⟩

/-- The window elsewhere. -/
def moveTo (s : Scroll) (offset : Nat) : Scroll := { s with offset }

/-- The rows of a page. -/
def page (s : Scroll) : Nat := s.page?.getD 1

/-- One row up. -/
def up (s : Scroll) : Scroll := s.moveTo (s.offset - 1)

/-- One row down. -/
def down (s : Scroll) : Scroll := s.moveTo (Extent.saturate (s.offset + 1))

/-- One page up, but for a row. -/
def pageUp (s : Scroll) : Scroll := s.moveTo (Extent.saturate (s.offset + 1) - s.page)

/-- One page down, but for a row. -/
def pageDown (s : Scroll) : Scroll := s.moveTo (Extent.saturate (s.offset + s.page) - 1)

/-- To the last row there was. -/
def toBottom (s : Scroll) : Scroll :=
  s.moveTo (match s.content? with
    | some content => content - 1
    | none => Extent.greatest)

/-- The window when some rows are shown in it: no further down than they fill it. -/
def afterShow (s : Scroll) (content page : Nat) : Scroll :=
  ⟨min s.offset (content - page), some content, some page⟩

/-! ### The bar -/

/-- A quotient rounded to the nearest number. -/
def roundedDiv (a b : Nat) : Nat := (a + b / 2) / b

/-- The length of the thumb and the track above it, on a track of some length. -/
def thumb (track hidden page offset : Nat) : Nat × Nat :=
  let span := hidden - 1 + page
  let length := max 1 (min track (roundedDiv (page * track) span))
  let position := min offset (hidden - 1)
  (length, min (roundedDiv (position * track) span) (track - length))

/-- The symbols of the bar from top to bottom, if not all rows are shown. -/
def bar (content page offset : Nat) : List Char :=
  let hidden := content - page
  let track := page - 2
  if hidden = 0 || track = 0 then []
  else
    let (length, above) := thumb track hidden page offset
    '▲' :: List.replicate above '║' ++ List.replicate length '█' ++
      List.replicate (track - length - above) '║' ++ ['▼']

/-- The grid with rows of a canvas shown in an area, from a row of the canvas on, and the bar in the
    last column. -/
def draw (s : Scroll) (canvas : Grid) (g : Grid) (area : Area) : Grid :=
  let rows := min area.height (canvas.height - s.offset)
  let columns := min (area.width - 1) canvas.width
  let g := (List.range rows).foldl (fun g y =>
    (List.range columns).foldl (fun g x =>
      g.modify (area.x + x) (area.y + y) fun _ => canvas.cell x (s.offset + y)) g) g
  if area.width = 0 then g
  else
    ((bar canvas.height area.height s.offset).zipIdx).foldl (fun g (c, y) =>
      g.modify (area.right - 1) (area.y + y) (·.display [c] {})) g

end Scroll

end CircuitHub

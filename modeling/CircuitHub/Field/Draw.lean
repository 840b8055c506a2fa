import CircuitHub.Field.Basic
import CircuitHub.Screen.Panel
import CircuitHub.Screen.Paragraph

/-!
# Drawing of text fields

A field is drawn as a panel with the rows of its text. The rows that are shown move as little as
they must for the row of the cursor to be among them.
-/

namespace CircuitHub.Field

/-- The number of rows that a field of some height shows. -/
def shownRows (height : Nat) : Nat := max (height - borderRows) 1

/-- The first row that is shown when the cursor is in some row: as before, unless the cursor would
    not be seen. -/
def scrolledTo (firstRow shown cursorRow : Nat) : Nat :=
  if cursorRow < firstRow then cursorRow
  else if firstRow + shown ≤ cursorRow then cursorRow + 1 - shown
  else firstRow

/-- The columns of a row in an area. -/
def contentWidth (area : Area) : Nat := area.width - borderColumns

/-- Row and column of the cursor at a width. -/
def cursorCell (f : Field) (width : Nat) : Nat × Nat :=
  Row.locate charWidth (f.rows width) f.cursor

/-- The field as it is after it has been drawn into an area. -/
def afterDraw (f : Field) (area : Area) : Field :=
  let width := contentWidth area
  { f with
      width
      firstRow := scrolledTo f.firstRow (shownRows area.height) (f.cursorCell width).1 }

/-- Keys go to the field, and its text can be sent. -/
def isActive (f : Field) : Bool := f.focused && !f.disabled

/-- The lines that a drawn field shows. -/
def shownLines (f : Field) (area : Area) : List Line :=
  if f.text.isEmpty then
    [.styled f.placeholder { fg? := some .darkGray, emphasis := { italic := true } }]
  else
    ((f.rows f.width).drop f.firstRow).take (shownRows area.height) |>.map fun row =>
      .ofSpan row.text {}

/-- Where a drawn field shows its cursor. -/
def shownCursor (f : Field) (area : Area) : Nat × Nat :=
  let (row, column) := f.cursorCell f.width
  (min (area.x + 2 + Extent.wrap column) (area.right - 2),
    area.y + 1 + Extent.wrap (row - f.firstRow))

/-- The border of a field. -/
def panel (f : Field) : Panel where
  style := .ofColor (if f.isActive then .green else .darkGray)
  title := if f.disabled then f.title ++ " (waiting for reply)" else f.title
  padColumns := 1

/-- The field drawn into an area. -/
def draw (f : Field) (frame : Frame) (area : Area) : Field × Frame :=
  let f := f.afterDraw area
  let grid := f.panel.draw frame.grid area
  let grid := Paragraph.draw { lines := f.shownLines area } grid (f.panel.inner area)
  (f, { grid, cursor? := if f.isActive then some (f.shownCursor area) else frame.cursor? })

end CircuitHub.Field

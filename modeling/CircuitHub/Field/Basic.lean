import CircuitHub.Extent
import CircuitHub.Field.Row
import CircuitHub.Keyboard

/-!
# Text fields

A field is a text with a cursor that the user edits. One kind of field has a single row, in which
line breaks become spaces; the others grow with their text up to some number of rows and scroll
within them. Where the cursor moves up or down depends on the width of the field when it was last
drawn.
-/

namespace CircuitHub

/-- An editable text. -/
structure Field where
  /-- What has been typed. -/
  text : Text
  /-- The byte before which the cursor stands. -/
  cursor : Nat
  /-- The first row that is shown. -/
  firstRow : Nat
  /-- The columns of a row when the field was last drawn. -/
  width : Nat
  /-- The name on the border. -/
  title : Text
  /-- What an empty field shows. -/
  placeholder : Text
  /-- The rows to which the field grows. -/
  maxRows : Nat
  /-- The key that sends the text breaks the line instead. -/
  enterBreaks : Bool
  /-- Keys go to this field. -/
  focused : Bool
  /-- The text cannot be sent now. -/
  disabled : Bool
  deriving DecidableEq, Repr

/-- What editing a field comes to. -/
inductive FieldChange where
  /-- The text has been sent, and the field is empty. -/
  | submitted (t : Text)
  /-- The text or the cursor has changed. -/
  | edited
  deriving DecidableEq, Repr

namespace Field

/-- An empty field that grows to five rows. -/
def empty (title placeholder : Text) : Field where
  text := []
  cursor := 0
  firstRow := 0
  width := 80
  title := title
  placeholder := placeholder
  maxRows := 5
  enterBreaks := false
  focused := true
  disabled := false

/-- The field that grows to some rows, and to one at least. -/
def withMaxRows (f : Field) (n : Nat) : Field := { f with maxRows := max n 1 }

/-- The field with another text, the cursor at its end. -/
def setText (f : Field) (t : Text) : Field := { f with text := t, cursor := t.byteSize, firstRow := 0 }

/-- The field has one row. -/
def isSingleLine (f : Field) : Bool := f.maxRows = 1

/-- The columns that the border of a field and the space within it take up. -/
def borderColumns : Nat := 4

/-- The rows that the border of a field takes up. -/
def borderRows : Nat := 2

/-- The rows of the text when the field has so many columns for them. -/
def rows (f : Field) (width : Nat) : List Row := Row.ofText charWidth width f.text

/-- The height of the field at a width: its rows up to their greatest number, and the border. -/
def height (f : Field) (width : Nat) : Nat :=
  min (max (Extent.wrap (f.rows (width - borderColumns)).length) 1) f.maxRows + borderRows

/-- A text as it is put into the field. -/
def normalize (f : Field) (t : Text) : Text :=
  if f.isSingleLine then t.map fun c => if c = '\n' || c = '\r' then ' ' else c
  else t.replaceAll ['\r', '\n'] ['\n']

/-- The field with a text before the cursor. -/
def insert (f : Field) (t : Text) : Field × Option FieldChange :=
  if t.isEmpty then (f, none)
  else
    let new := f.normalize t
    ({ f with
        text := f.text.takeBytes f.cursor ++ new ++ f.text.dropBytes f.cursor
        cursor := f.cursor + new.byteSize },
      some .edited)

/-- The field with the cursor elsewhere. -/
def moveTo (f : Field) (cursor : Nat) : Field × Option FieldChange :=
  if cursor = f.cursor then (f, none) else ({ f with cursor }, some .edited)

/-- The field with the cursor one row up or down, if there is a row. -/
def moveVertically (f : Field) (down : Bool) : Field × Option FieldChange :=
  let rows := f.rows f.width
  let (row, column) := Row.locate charWidth rows f.cursor
  if down then
    if row + 1 < rows.length then
      f.moveTo (Row.offsetAt charWidth rows f.text (row + 1) column)
    else (f, none)
  else if 0 < row then f.moveTo (Row.offsetAt charWidth rows f.text (row - 1) column)
  else (f, none)

/-- The field without the text between two cursors, the cursor at the first of them. -/
def deleteBetween (f : Field) (left right : Nat) : Field × Option FieldChange :=
  ({ f with text := f.text.takeBytes left ++ f.text.dropBytes right, cursor := left },
    some .edited)

/-- The field after its text is sent, unless the text is blank or cannot be sent now. -/
def submit (f : Field) : Field × Option FieldChange :=
  if f.disabled || f.text.isBlank then (f, none)
  else ({ f with text := [], cursor := 0, firstRow := 0 }, some (.submitted f.text))

/-- The cursor at the beginning of its line. -/
def lineStart (f : Field) : Nat :=
  let before := f.text.takeBytes f.cursor
  f.cursor - Text.byteSize (before.reverse.takeWhile (· != '\n'))

/-- The cursor at the end of its line. -/
def lineEnd (f : Field) : Nat :=
  f.cursor + (f.text.dropBytes f.cursor).firstLine.byteSize

/-- The field after an event, and what it comes to if anything has changed. -/
def handle (f : Field) (event : Event) : Field × Option FieldChange :=
  match event with
  | .type c => f.insert [c]
  | .paste t => f.insert t
  | .newLine => if f.isSingleLine then (f, none) else f.insert ['\n']
  | .submit => if f.enterBreaks then f.insert ['\n'] else f.submit
  | .backspace =>
    if f.cursor = 0 then (f, none) else f.deleteBetween (f.text.cursorBefore f.cursor) f.cursor
  | .delete =>
    if f.text.byteSize ≤ f.cursor then (f, none)
    else f.deleteBetween f.cursor (f.text.cursorAfter f.cursor)
  | .cursorLeft => f.moveTo (f.text.cursorBefore f.cursor)
  | .cursorRight => f.moveTo (f.text.cursorAfter f.cursor)
  | .cursorHome => f.moveTo f.lineStart
  | .cursorEnd => f.moveTo f.lineEnd
  | .scrollUp => if f.isSingleLine then (f, none) else f.moveVertically false
  | .scrollDown => if f.isSingleLine then (f, none) else f.moveVertically true
  | _ => (f, none)

end Field

end CircuitHub

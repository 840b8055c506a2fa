import CircuitHub.Chrome
import CircuitHub.Code
import CircuitHub.Field.Draw
import CircuitHub.Library
import CircuitHub.Validation

/-!
# The checker

A definition is typed into a field on the left. On the right stand what the last check of it says
and the schema that definitions are meant to follow.
-/

namespace CircuitHub

/-- The checker, by the field that it edits. -/
structure Checker where
  /-- The field. -/
  editor : Field
  deriving DecidableEq, Repr

namespace Checker

/-- The checker at first. Its field is as high as there is place, and the key that sends elsewhere
    breaks lines in it. -/
def start : Checker where
  editor :=
    { (Field.empty "Component Definition (Ctrl+S to validate)"
        "Paste component definition here...").withMaxRows Extent.greatest with
      enterBreaks := true }

/-- The checker after an event, and the definition that is to be checked. -/
def handle (c : Checker) (event : Event) : Checker × Option Text :=
  match event with
  | .validate => (c, some c.editor.text)
  | event => (⟨(c.editor.handle event).1⟩, none)

/-! ### Drawing -/

/-- The colour of what a check says. -/
def statusColor : Validation → Color
  | .idle => .darkGray
  | .valid => .green
  | .emptyInput | .missingFields => .red

/-- What a check says, in a word. -/
def statusHeading : Validation → Text
  | .idle => "○ Idle"
  | .valid => "✔ Valid"
  | .emptyInput | .missingFields => "✘ Invalid"

/-- What a check says, in lines. -/
def statusLines (v : Validation) : List Line :=
  [Chrome.titled (statusHeading v) (statusColor v), .styled v.message (.ofColor .gray)]

/-- The rows of what a check says. -/
def statusHeight : Nat := 5

/-- The border around what a check says. -/
def statusPanel (v : Validation) : Panel :=
  { style := .ofColor (statusColor v), title := " Status ", padColumns := 1 }

/-- The title above the schema. -/
def schemaPanel : Panel :=
  { edges := .none, title := " ACTIVE SCHEMA REFERENCE ", titleStyle := .ofColor .gray }

/-- The columns of the field, eleven twentieths of the width but for a column between it and what
    stands on the right. -/
def editorWidth (width : Nat) : Nat := (55 * width - 50) / 100

/-- The column at which the right side begins. -/
def sideColumn (width : Nat) : Nat := (55 * width + 50) / 100

/-- The grid with the right side drawn into an area. -/
def drawSide (v : Validation) (g : Grid) (area : Area) : Grid :=
  let above := area.rowsFrom 0 statusHeight
  let below := area.rowsFrom statusHeight (area.height - statusHeight)
  let g := (statusPanel v).draw g above
  let g := Paragraph.draw { lines := statusLines v, overflow := .wrap true } g
    ((statusPanel v).inner above)
  let g := schemaPanel.draw g below
  Paragraph.draw { lines := Code.lines "json" Library.schema } g (schemaPanel.inner below)

/-- The checker drawn into an area, with what the last check says. -/
def draw (c : Checker) (v : Validation) (frame : Frame) (area : Area) : Checker × Frame :=
  let (editor, frame) := c.editor.draw frame (area.columnsFrom 0 (editorWidth area.width))
  let side := sideColumn area.width
  (⟨editor⟩, frame.draw fun g => drawSide v g (area.columnsFrom side (area.width - side)))

end Checker

end CircuitHub

import CircuitHub.Conversation
import CircuitHub.Markdown.Typeset
import CircuitHub.Schematic.Draw
import CircuitHub.Schematic.Reader
import CircuitHub.Screen.Panel
import CircuitHub.Screen.Paragraph
import CircuitHub.Segment

/-!
# Cards

A message is shown as a card: a border with the name of the speaker, and within it one part for each
segment of the message, each below the one before with an empty row between them. A drawing that
cannot be read is shown as the code it is.
-/

namespace CircuitHub

/-- A part of a message as it is shown. -/
inductive Card.Part where
  /-- Prose. Wrapped rows do not begin with white space. -/
  | prose (lines : List Line)
  /-- Code. Wrapped rows keep their white space. -/
  | code (lines : List Line)
  /-- A drawing. -/
  | drawing (s : Schematic)

namespace Card.Part

/-- The rows of every drawing. -/
def drawingHeight : Nat := 12

/-- The rows of the part in so many columns. -/
def height (part : Part) (width : Nat) : Nat :=
  match part with
  | prose lines => Extent.wrap (({ lines, overflow := .wrap true } : Paragraph).lineCount width)
  | code lines => Extent.wrap (({ lines, overflow := .wrap false } : Paragraph).lineCount width)
  | drawing _ => drawingHeight

/-- The grid with the part drawn into an area. -/
def draw (part : Part) (color : Color) (g : Grid) (area : Area) : Grid :=
  match part with
  | prose lines => ({ lines, overflow := .wrap true } : Paragraph).draw g area
  | code lines => ({ lines, overflow := .wrap false } : Paragraph).draw g area
  | drawing s => s.draw color g area

/-- A remark below code that was meant as a drawing. -/
def unreadable (e : SchematicError) : Line :=
  .ofSpan ("schematic unavailable: " ++ e.message)
    { fg? := some .darkGray, emphasis := { italic := true } }

/-- The part of a segment, its prose in some colour. -/
def ofSegment (color : Color) (s : Segment) : Part :=
  match s with
  | .paragraph text => prose (Markdown.typeset color text)
  | .code language body =>
    if s.isDrawing then
      match Schematic.read body with
      | .ok drawn => drawing drawn
      | .error e => code (Code.lines language body ++ [unreadable e])
    else code (Code.lines language body)

end Card.Part

/-- The colour of a speaker. -/
def Role.color : Role → Color
  | user => .green
  | model => .blue

/-- A message as it is shown. -/
structure Card where
  /-- The name of the speaker and the time. -/
  title : Text
  /-- The colour of the speaker. -/
  color : Color
  /-- The parts, from top to bottom. -/
  parts : List Card.Part

namespace Card

/-- The card of a message. -/
def ofMessage (m : Message) : Card where
  title := ' ' :: m.role.label ++ " · " ++ m.sentAt.hoursMinutes ++ [' ']
  color := m.role.color
  parts := (segments m.content).map (Part.ofSegment m.role.color)

/-- The columns that the border and the space within it take up. -/
def frameColumns : Nat := 4

/-- The rows that the border takes up. -/
def frameRows : Nat := 2

/-- The rows of the card in so many columns. A card that is too narrow for any part has one. -/
def height (c : Card) (width : Nat) : Nat :=
  let inner := width - frameColumns
  if inner = 0 then 1
  else total (c.parts.map (·.height inner)) + Extent.wrap (c.parts.length - 1) + frameRows

/-- The border. -/
def panel (c : Card) : Panel where
  style := { fg? := some c.color, emphasis := { dim := true } }
  title := c.title
  titleStyle := { fg? := some c.color, emphasis := { dim := true } }
  padColumns := 1

/-- Where parts stand in an area, from its row `y` on. Parts that begin below the area are left out,
    and one that does not fit is cut. -/
def placements (area : Area) (y : Nat) : List Part → List (Part × Area)
  | [] => []
  | part :: parts =>
    if area.bottom ≤ y then []
    else
      let height := min (part.height area.width) (area.bottom - y)
      (part, ⟨area.x, y, area.width, height⟩) :: placements area (y + height + 1) parts

/-- The grid with the card drawn into an area. -/
def draw (c : Card) (g : Grid) (area : Area) : Grid :=
  let inner := c.panel.inner area
  (placements inner inner.y c.parts).foldl (fun g (part, area) => part.draw c.color g area)
    (c.panel.draw g area)

end Card

end CircuitHub

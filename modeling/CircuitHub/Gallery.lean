import CircuitHub.Chrome
import CircuitHub.Keyboard
import CircuitHub.Library
import CircuitHub.Schematic.Draw
import CircuitHub.Schematic.Reader

/-!
# The gallery

The symbols of the library stand in a grid of cards, as many beside each other as have place. One of
them is selected, and the rows of the grid move as little as they must for it to be seen.

* `Gallery.selectedRow_shown`: the row of the selected symbol is among those shown.
-/

namespace CircuitHub

/-- The gallery. -/
structure Gallery where
  /-- The place of the selected symbol. -/
  selected : Nat
  /-- The cards beside each other when the gallery was last drawn. -/
  columns : Nat
  /-- The first row of cards that was shown. -/
  firstRow : Nat
  deriving DecidableEq, Repr

namespace Gallery

/-- The gallery before it is drawn. -/
def start : Gallery := ⟨0, 0, 0⟩

/-! ### Selecting -/

/-- The gallery with the selection some places further, if there are so many of `count`. -/
def forward (g : Gallery) (count places : Nat) : Gallery :=
  if g.selected + places < count then { g with selected := g.selected + places } else g

/-- The gallery with the selection some places back, if there are so many. -/
def back (g : Gallery) (count places : Nat) : Gallery :=
  if places ≤ g.selected && g.selected - places < count then
    { g with selected := g.selected - places }
  else g

/-- The gallery of `count` symbols after an event, if the event means anything. -/
def handle? (g : Gallery) (count : Nat) : Event → Option Gallery
  | .cursorLeft => some (g.back count 1)
  | .cursorRight => some (g.forward count 1)
  | .scrollUp => some (g.back count (max g.columns 1))
  | .scrollDown => some (g.forward count (max g.columns 1))
  | _ => none

/-! ### Placing -/

/-- The columns from one card to the next. -/
def cardWidth : Nat := 28

/-- The rows of a card. -/
def cardHeight : Nat := 14

/-- The rows below the drawing of a card. -/
def captionHeight : Nat := 3

/-- The cards that have place beside each other. -/
def columnsIn (area : Area) : Nat := max (area.width / cardWidth) 1

/-- The rows of cards that have place below each other. -/
def rowsIn (area : Area) : Nat := max (area.height / cardHeight) 1

/-- The first row that is shown when `shown` of them are and a symbol in some row is selected. -/
def scrolledTo (firstRow shown row : Nat) : Nat :=
  if row < firstRow then row
  else if firstRow + shown ≤ row then row + 1 - shown
  else firstRow

theorem selectedRow_shown (firstRow row : Nat) {shown : Nat} (h : 0 < shown) :
    scrolledTo firstRow shown row ≤ row ∧ row < scrolledTo firstRow shown row + shown := by
  unfold scrolledTo
  split
  · omega
  · split <;> omega

/-- The gallery of `count` symbols after it has been drawn into an area. -/
def afterDraw (g : Gallery) (count : Nat) (area : Area) : Gallery :=
  let columns := columnsIn area
  let selected := min g.selected (count - 1)
  ⟨selected, columns, scrolledTo g.firstRow (rowsIn area) (selected / columns)⟩

/-- Where the card in some place of the rows that are shown stands in an area. -/
def cardArea (area : Area) (slot : Nat) : Area :=
  let columns := columnsIn area
  let x := area.x + slot % columns * cardWidth
  let y := area.y + slot / columns * cardHeight
  (⟨x, y, cardWidth - 1, min cardHeight (area.bottom - y)⟩ : Area).intersect area

/-! ### Drawing -/

/-- The lines below the drawing of a symbol. -/
def caption (s : Symbol) : List Line := [
  Chrome.titled s.name .white,
  .styled s.category.label.upperAscii (.ofColor .gray),
  .styled ("ID: " ++ s.id) (.ofColor .darkGray)]

/-- The grid with a card drawn into an area. -/
def drawCard (s : Symbol) (selected : Bool) (g : Grid) (area : Area) : Grid :=
  let panel : Panel := { style := .ofColor (if selected then .cyan else .darkGray) }
  let g := panel.draw g area
  let inner := panel.inner area
  let above := inner.rowsFrom 0 (inner.height - captionHeight)
  let g := match Schematic.read s.markup with
    | .ok drawn => drawn.draw .gray g above
    | .error e =>
      Paragraph.draw { lines := [.ofSpan ("unreadable: " ++ e.message) {}], style := .ofColor .red }
        g above
  Paragraph.draw { lines := caption s } g (inner.rowsFrom (inner.height - captionHeight) captionHeight)

/-- The gallery of some symbols drawn into an area. -/
def draw (gallery : Gallery) (symbols : List Symbol) (g : Grid) (area : Area) : Gallery × Grid :=
  if symbols.isEmpty then
    (gallery, Paragraph.draw { lines := [.ofSpan "No symbols available." {}] } g area)
  else
    let gallery := gallery.afterDraw symbols.length area
    let first := gallery.firstRow * gallery.columns
    let shown := (symbols.zipIdx.drop first).take (gallery.columns * rowsIn area)
    (gallery, (shown.zipIdx).foldl (fun g ((s, i), slot) =>
      drawCard s (i = gallery.selected) g (cardArea area slot)) g)

end Gallery

end CircuitHub

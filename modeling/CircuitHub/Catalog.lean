import CircuitHub.Chrome
import CircuitHub.Code
import CircuitHub.Field.Draw
import CircuitHub.Library
import CircuitHub.Schematic.Draw
import CircuitHub.Schematic.Reader

/-!
# The catalog

The parts of the library are listed beside a pane that shows one of them. A field above the list
narrows it to the parts that match, and the selection is a place among these.
-/

namespace CircuitHub

/-- The catalog. -/
structure Catalog where
  /-- The field above the list. -/
  search : Field
  /-- The place of the selected part among those that match. -/
  selected : Nat
  /-- The first part that was shown when the list was last drawn. -/
  firstItem : Nat
  deriving DecidableEq, Repr

namespace Catalog

/-- The catalog at first. -/
def start : Catalog := ⟨(Field.empty "Search" "Search components...").withMaxRows 1, 0, 0⟩

/-- The parts that match. -/
def found (c : Catalog) : List Part := Library.search c.search.text

/-- The selected part, if any part matches. -/
def part? (c : Catalog) : Option Part := c.found[c.selected]?

/-- The catalog with another selection. -/
def select (c : Catalog) (selected : Nat) : Catalog := { c with selected }

/-- The catalog after an event, and whether the event meant anything. When the text in the field is
    edited, the first part that matches is selected. -/
def handle (c : Catalog) (event : Event) : Catalog × Bool :=
  match event with
  | .scrollUp => (c.select (c.selected - 1), true)
  | .scrollDown => (c.select (min (c.selected + 1) (c.found.length - 1)), true)
  | event =>
    let (search, change) := c.search.handle event
    match change with
    | some .edited => ({ c with search, selected := 0 }, true)
    | _ => ({ c with search }, false)

/-! ### The list -/

/-- The columns of the list. -/
def listWidth : Nat := 36

/-- The rows of a part in the list. -/
def itemHeight : Nat := 2

/-- A border without emphasis. -/
def panel (title : Text) (padColumns : Nat) : Panel :=
  { style := .ofColor .darkGray, title, padColumns }

/-- The grid with a remark in the middle of a panel. -/
def drawRemark (remark : Text) (p : Panel) (g : Grid) (area : Area) : Grid :=
  let g := p.draw (g.restyle (area.intersect g.area) (.ofColor .darkGray)) area
  Paragraph.draw { lines := [.ofSpan remark {}], style := .ofColor .darkGray, align := .center } g
    (p.inner area)

/-- The items that a list of `count` shows when `fitting` of them have place: from the first to
    before the second. They move as little as they must for the selected one to be among them. -/
def shownItems (first selected count fitting : Nat) : Nat × Nat :=
  let first := min first (count - 1)
  let stop := min count (first + fitting)
  let (first, stop) :=
    if stop ≤ selected then (max first (selected + 1 - fitting), selected + 1) else (first, stop)
  if selected < first then (selected, min stop (selected + fitting)) else (first, stop)

/-- The lines of a part in the list. -/
def itemLines (part : Part) : List Line :=
  [Chrome.titled part.name .white, Chrome.colored ("  " ++ part.category.label) .darkGray]

/-- The grid with a part drawn into its rows of the list, behind a mark if it is selected. -/
def drawItem (part : Part) (selected : Bool) (g : Grid) (area : Area) : Grid :=
  let g := Paragraph.draw { lines := itemLines part } g (area.indent 1)
  if selected then
    let g := g.restyle (area.intersect g.area) { bg? := some .slate }
    (g.drawText area.x area.y area.right "▌" {}).1
  else g

/-- The list drawn into an area, and the catalog after it. -/
def drawList (c : Catalog) (g : Grid) (area : Area) : Catalog × Grid :=
  let count := c.found.length
  let border := panel (' ' :: Text.ofNat count ++ " results ") 0
  if count = 0 then (c, drawRemark "No components match." border g area)
  else
    let g := border.draw g area
    let inner := border.inner area
    if inner.isEmpty then (c, g)
    else
      let selected := min c.selected (count - 1)
      let (first, stop) := shownItems c.firstItem selected count (inner.height / itemHeight)
      let shown := (c.found.zipIdx.take stop).drop first
      let g := (shown.zipIdx).foldl (fun g ((part, i), row) =>
        drawItem part (i = selected) g (inner.rowsFrom (row * itemHeight) itemHeight)) g
      ({ c with selected, firstItem := first }, g)

/-! ### The pane -/

/-- The rows of a symbol. -/
def symbolHeight : Nat := 10

/-- The drawing of a part, if it has a symbol that can be read. -/
def drawing? (part : Part) : Option Schematic :=
  part.symbolPath?.bind fun _ =>
    match Schematic.read (Library.symbolOf part).markup with
    | .ok s => some s
    | .error _ => none

/-- The words about a part. -/
def description (part : Part) : Paragraph where
  lines := [Chrome.titled part.name .white, .styled part.description (.ofColor .gray)]
  overflow := .wrap true

/-- A heading of the pane, below an empty row. -/
def heading (t : Text) (c : Color) : Paragraph where
  lines := [.blank, ⟨[⟨"● ", .ofColor c⟩, ⟨t, .boldOf .gray⟩], {}⟩]

/-- What stands in place of a symbol. -/
def noSymbol : Paragraph where
  lines := [.ofSpan "No symbol data available" {}]
  style := { fg? := some .darkGray, emphasis := { italic := true } }
  align := .center

/-- The grid with a part drawn into the pane. -/
def drawPart (part : Part) (g : Grid) (area : Area) : Grid :=
  let border := panel (' ' :: part.id ++ [' ']) 1
  let g := border.draw g area
  let inner := border.inner area
  let top := Extent.wrap ((description part).lineCount inner.width)
  let g := (description part).draw g (inner.rowsFrom 0 top)
  let g := (heading "SYMBOL VISUALIZATION" .cyan).draw g (inner.rowsFrom top 2)
  let symbolArea := inner.rowsFrom (top + 2) symbolHeight
  let g := match drawing? part with
    | some s => s.draw .gray g symbolArea
    | none => noSymbol.draw g symbolArea
  let below := top + 2 + symbolHeight
  let g := (heading "YAML DEFINITION" .magenta).draw g (inner.rowsFrom below 2)
  Paragraph.draw { lines := Code.lines "yaml" part.definition } g
    (inner.rowsFrom (below + 2) (inner.height - (below + 2)))

/-- The grid with the pane drawn into an area. -/
def drawPane (c : Catalog) (g : Grid) (area : Area) : Grid :=
  match c.part? with
  | some part => drawPart part g area
  | none => drawRemark "Select a component to view details" (panel [] 1) g area

/-- The catalog drawn into an area. -/
def draw (c : Catalog) (frame : Frame) (area : Area) : Catalog × Frame :=
  let left := area.columnsFrom 0 listWidth
  let right := area.columnsFrom (listWidth + 1) (area.width - (listWidth + 1))
  let (search, frame) := c.search.draw frame (left.rowsFrom 0 3)
  let (c, grid) := { c with search }.drawList frame.grid (left.rowsFrom 3 (left.height - 3))
  (c, { frame with grid := c.drawPane grid right })

end Catalog

end CircuitHub

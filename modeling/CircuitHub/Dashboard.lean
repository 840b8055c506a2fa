import CircuitHub.Chrome
import CircuitHub.Keyboard
import CircuitHub.Text.Fill

/-!
# The dashboard

Three tiles lead to other views. One of them is selected, and opening it shows its view.
-/

namespace CircuitHub

/-- A tile that leads to a view. -/
structure Tile where
  /-- Its name. -/
  title : Text
  /-- What the view is for. -/
  description : Text
  /-- The view. -/
  target : View
  /-- Its colour when it is selected. -/
  color : Color
  deriving DecidableEq, Repr

/-- The dashboard, by the place of the selected tile. -/
structure Dashboard where
  /-- The place. -/
  selected : Nat
  deriving DecidableEq, Repr

namespace Dashboard

/-- The dashboard at first. -/
def start : Dashboard := ⟨0⟩

/-- The tiles from left to right. -/
def tiles : List Tile := [
  { title := "Component Library"
    description := "Manage definitions for resistors, capacitors, and ICs."
    target := .components
    color := .cyan },
  { title := "AI Circuit Designer"
    description := "Generate netlists and schematics using Gemini 3.0."
    target := .designer
    color := .magenta },
  { title := "Schema Validator"
    description := "Verify component definitions against strict JSON schemas."
    target := .validator
    color := .green }]

/-- The dashboard after an event, and the view that is opened. -/
def handle (d : Dashboard) : Event → Dashboard × Option View
  | .cursorLeft | .scrollUp => (⟨d.selected - 1⟩, none)
  | .cursorRight | .scrollDown => (⟨min (d.selected + 1) (tiles.length - 1)⟩, none)
  | .submit => (d, tiles[d.selected]?.map (·.target))
  | _ => (d, none)

/-! ### Drawing -/

/-- The rows of a tile. -/
def tileHeight : Nat := 7

/-- What stands on the edge of a tile, when the library has so many parts. -/
def badge (parts : Nat) (tile : Tile) : Text :=
  match tile.target with
  | .components => Text.ofNat parts ++ " ITEMS"
  | .designer => "BETA"
  | _ => []

/-- The border of a tile. -/
def tilePanel (parts : Nat) (tile : Tile) (selected : Bool) : Panel where
  edges := if selected then .thick else .rounded
  style := if selected then .boldOf tile.color else .ofColor .darkGray
  title := badge parts tile
  titleRight := true
  padColumns := 1

/-- The lines of a tile with so many columns. The description has three of them at most, so that
    there is always one for what the selected tile says. -/
def tileLines (tile : Tile) (selected : Bool) (width : Nat) : List Line :=
  Chrome.titled tile.title .white ::
    ((tile.description.fill width).take (tileHeight - 4)).map (.styled · (.ofColor .gray)) ++
    if selected then [.styled "⏎ open" (.ofColor tile.color)] else []

/-- The grid with a tile drawn into an area. -/
def drawTile (parts : Nat) (tile : Tile) (selected : Bool) (g : Grid) (area : Area) : Grid :=
  let panel := tilePanel parts tile selected
  let inner := panel.inner area
  Paragraph.draw { lines := tileLines tile selected inner.width } (panel.draw g area) inner

/-- Where the tiles stand in so many columns: thirds of what two gaps leave, each edge in the column
    nearest to it. -/
def tileColumns (width : Nat) : List (Nat × Nat) :=
  let third (n : Nat) : Nat := (2 * n * (width - 2) + 3) / 6
  [(0, third 1), (third 1 + 1, third 2 + 1), (third 2 + 2, width)]

/-- The words below the tiles. -/
def welcome : Paragraph where
  lines := [
    Chrome.titled "Welcome to Electronic Legion Hub" .white,
    .blank,
    .styled ("This system serves as the structured backend reference for AI-assisted circuit " ++
      "generation. All symbols and components are validated for machine readability.")
      (.ofColor .darkGray)]
  align := .center
  overflow := .wrap true

/-- The border around these words. -/
def welcomePanel : Panel where
  style := .ofColor .darkGray
  padColumns := 1
  padRows := 1

/-- The grid with the dashboard drawn into an area, when the library has so many parts. -/
def draw (d : Dashboard) (parts : Nat) (g : Grid) (area : Area) : Grid :=
  let row := area.rowsFrom 0 tileHeight
  let g := ((tiles.zip (tileColumns row.width)).zipIdx).foldl
    (fun g ((tile, left, right), i) =>
      drawTile parts tile (i = d.selected) g (row.columnsFrom left (right - left))) g
  let below := area.rowsFrom (tileHeight + 1) (area.height - (tileHeight + 1))
  welcome.draw (welcomePanel.draw g below) (welcomePanel.inner below)

end Dashboard

end CircuitHub

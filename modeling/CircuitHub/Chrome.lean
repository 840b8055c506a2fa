import CircuitHub.Hub
import CircuitHub.Screen.Panel
import CircuitHub.Screen.Paragraph

/-!
# What surrounds every view

A header names the view and tells the status, a sidebar lists the views, and a row below the view
says which keys do something.
-/

namespace CircuitHub.Chrome

/-- Spans in one style. -/
def titled (t : Text) (c : Color) : Line := .ofSpan t (.boldOf c)

/-- A line in one colour. -/
def colored (t : Text) (c : Color) : Line := .ofSpan t (.ofColor c)

/-! ### Header -/

/-- The style of the status. -/
def statusStyle (busy : Bool) : Style := if busy then .boldOf .yellow else .ofColor .green

/-- The right side of the header: the model and the status, or the status alone where both are too
    long. -/
def statusLine (model status : Text) (busy : Bool) (width : Nat) : Line :=
  let s : Span := ⟨status, statusStyle busy⟩
  if model.length + status.length + 3 ≤ width then
    ⟨[⟨model, .ofColor .darkGray⟩, ⟨" · ", .ofColor .darkGray⟩, s], {}⟩
  else ⟨[s], {}⟩

/-- The column of the header at which the status begins: six tenths of the width. -/
def statusColumn (width : Nat) : Nat := (6 * width + 5) / 10

/-- The grid with the header drawn into an area. -/
def drawHeader (view : View) (model status : Text) (busy : Bool) (g : Grid) (area : Area) : Grid :=
  let left := statusColumn area.width
  let right := area.columnsFrom left (area.width - left)
  let g := Paragraph.draw
    { lines := [titled view.title .white, colored view.subtitle .darkGray] } g
    (area.columnsFrom 0 left)
  Paragraph.draw { lines := [statusLine model status busy right.width], align := .right } g right

/-! ### Sidebar -/

/-- The columns of the sidebar. -/
def sidebarWidth : Nat := 26

/-- The line of a view in the sidebar. -/
def navigationLine (active view : View) : Line :=
  let key : Text := " F" ++ Text.ofNat (view.index + 1) ++ [' ']
  if view = active then
    ⟨[⟨"▌", .ofColor .cyan⟩, ⟨key, .ofColor .cyan⟩, ⟨view.label, .boldOf .cyan⟩], {}⟩
  else ⟨[⟨" ", {}⟩, ⟨key, .ofColor .darkGray⟩, ⟨view.label, .ofColor .gray⟩], {}⟩

/-- The lines of all views in the sidebar. -/
def navigation (active : View) : List Line := View.all.map (navigationLine active)

/-- The lines above the views. -/
def brand : List Line := [titled " ⚡ LEGION" .cyan, colored " LIBRARY v0.2" .darkGray]

/-- The lines at the foot of the sidebar. -/
def systemStatus (busy : Bool) : List Line :=
  let color : Color := if busy then .yellow else .green
  [colored " SYSTEM STATUS" .darkGray,
    ⟨[⟨" ● ", .ofColor color⟩, ⟨if busy then "BUSY" else "ONLINE", .boldOf color⟩], {}⟩]

/-- The grid with the sidebar drawn into an area. -/
def drawSidebar (active : View) (busy : Bool) (g : Grid) (area : Area) : Grid :=
  let panel : Panel := { edges := .rightOnly, style := .ofColor .darkGray }
  let inner := panel.inner area
  let g := panel.draw g area
  let g := Paragraph.draw { lines := brand } g (inner.rowsFrom 0 3)
  let g := Paragraph.draw { lines := navigation active } g (inner.rowsFrom 3 (inner.height - 6))
  Paragraph.draw { lines := systemStatus busy } g (inner.rowsFrom (inner.height - 3) 3)

/-! ### Keys -/

/-- The keys that mean something in a view, and what they do. -/
def viewKeys : View → List (String × String)
  | .dashboard => [("←/→", "select"), ("Enter", "open")]
  | .components => [("type", "search"), ("↑/↓", "select")]
  | .symbols => [("arrows", "select")]
  | .designer => [("Enter", "send"), ("Ctrl+J", "newline"), ("↑/↓ PgUp/PgDn", "scroll")]
  | .validator => [("Ctrl+S", "validate")]

/-- The keys that mean something in every view. -/
def commonKeys : List (String × String) :=
  [("Tab", "next view"), ("F1-F5", "jump"), ("Esc", "quit")]

/-- The row of keys below a view. -/
def hints (view : View) : Line where
  spans := (viewKeys view ++ commonKeys).flatMap fun (key, text) =>
    [⟨key, .ofColor .cyan⟩, ⟨' ' :: text ++ "  ", .ofColor .darkGray⟩]

end CircuitHub.Chrome

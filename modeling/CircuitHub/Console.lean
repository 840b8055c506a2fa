import CircuitHub.Catalog
import CircuitHub.Checker
import CircuitHub.Dashboard
import CircuitHub.Gallery
import CircuitHub.Transcript.Basic

/-!
# The console

The console holds what the views remember, whichever of them is shown. An event changes what the
view at hand remembers and may come to an action of the hub (`Console.handle`).
-/

namespace CircuitHub

/-- What the views remember. -/
structure Console where
  /-- The transcript of the designer. -/
  transcript : Transcript
  /-- The field below the transcript. -/
  prompt : Field
  /-- The dashboard. -/
  dashboard : Dashboard
  /-- The catalog of parts. -/
  catalog : Catalog
  /-- The gallery of symbols. -/
  gallery : Gallery
  /-- The checker of definitions. -/
  checker : Checker
  deriving DecidableEq, Repr

namespace Console

/-- What an empty field for a prompt shows. -/
def promptHint : Text :=
  "Describe a circuit (e.g., 'Design an active low-pass filter using an Op-Amp with a cutoff " ++
    "of 1kHz')..."

/-- The console at first. -/
def start : Console where
  transcript := .start
  prompt := .empty "Prompt (Enter to send, Ctrl+J for newline)" promptHint
  dashboard := .start
  catalog := .start
  gallery := .start
  checker := .start

/-- The console when the hub is in some state: keys go to the field of the view that is shown, and
    no prompt is sent while another waits. -/
def sync (c : Console) (hub : Hub) : Console :=
  { c with
    prompt := { c.prompt with focused := hub.view = .designer, disabled := hub.isLoading }
    catalog := { c.catalog with
      search := { c.catalog.search with focused := hub.view = .components } }
    checker := ⟨{ c.checker.editor with focused := hub.view = .validator }⟩ }

/-! ### Events -/

/-- The console after an event in the designer. What the transcript does not want is meant for the
    prompt. -/
def handleInDesigner (c : Console) (event : Event) : Console × Option Action :=
  match c.transcript.handle? event with
  | some transcript => ({ c with transcript }, none)
  | none =>
    let (prompt, change) := c.prompt.handle event
    ({ c with prompt }, match change with
      | some (.submitted t) => some (.submit t)
      | _ => none)

/-- The console after an event in a view, and the action that the event comes to. -/
def handleInView (c : Console) (view : View) (event : Event) : Console × Option Action :=
  match view with
  | .dashboard =>
    let (dashboard, opened) := c.dashboard.handle event
    ({ c with dashboard }, opened.map .switchView)
  | .components => ({ c with catalog := (c.catalog.handle event).1 }, none)
  | .symbols =>
    let gallery := (c.gallery.handle? Library.symbols.length event).getD c.gallery
    ({ c with gallery }, none)
  | .designer => c.handleInDesigner event
  | .validator =>
    let (checker, asked) := c.checker.handle event
    ({ c with checker }, asked.map .validate)

/-- The console after an event while some view is shown, and the action that the event comes to. Some
    events mean the same in every view. -/
def handle (c : Console) (view : View) (event : Event) : Console × Option Action :=
  match event with
  | .quit => (c, some .quit)
  | .nextView => (c, some (.switchView view.next))
  | .prevView => (c, some (.switchView view.prev))
  | .selectView i => (c, View.all[i]?.map .switchView)
  | .resize => (c, none)
  | event => c.handleInView view event

/-! ### Drawing -/

/-- The designer drawn into an area: the transcript, and below it the prompt, as high as its text
    asks for. -/
def drawDesigner (c : Console) (hub : Hub) (step : Nat) (frame : Frame) (area : Area) :
    Console × Frame :=
  let height := c.prompt.height area.width
  let above := area.rowsFrom 0 (area.height - height)
  let below := area.rowsFrom (area.height - height) height
  let waiting? := hub.elapsed?.map fun seconds => ⟨seconds, step⟩
  let (transcript, grid) := c.transcript.draw hub.conversation.messages waiting? frame.grid above
  let (prompt, frame) := c.prompt.draw { frame with grid } below
  ({ c with transcript, prompt }, frame)

/-- The view at hand drawn into an area. -/
def drawView (c : Console) (hub : Hub) (step : Nat) (frame : Frame) (area : Area) :
    Console × Frame :=
  match hub.view with
  | .dashboard =>
    (c, frame.draw fun g => c.dashboard.draw Library.parts.length g area)
  | .components =>
    let (catalog, frame) := c.catalog.draw frame area
    ({ c with catalog }, frame)
  | .symbols =>
    let (gallery, grid) := c.gallery.draw Library.symbols frame.grid area
    ({ c with gallery }, { frame with grid })
  | .designer => c.drawDesigner hub step frame area
  | .validator =>
    let (checker, frame) := c.checker.draw hub.validation frame area
    ({ c with checker }, frame)

/-- The rows of the header. -/
def headerHeight : Nat := 2

/-- Everything drawn onto a frame, with the spinner at some step. -/
def draw (c : Console) (hub : Hub) (step : Nat) (frame : Frame) : Console × Frame :=
  let area := frame.area
  let side := area.columnsFrom 0 Chrome.sidebarWidth
  let main := (area.columnsFrom Chrome.sidebarWidth (area.width - Chrome.sidebarWidth)).inset 1 0
  let frame := frame.draw fun g => Chrome.drawSidebar hub.view hub.isLoading g side
  let frame := frame.draw fun g =>
    Chrome.drawHeader hub.view hub.client.model hub.status.text hub.isLoading g
      (main.rowsFrom 0 headerHeight)
  let top := headerHeight + 1
  let (c, frame) := c.drawView hub step frame (main.rowsFrom top (main.height - (top + 1)))
  (c, frame.draw fun g =>
    Paragraph.draw { lines := [Chrome.hints hub.view] } g (main.rowsFrom (main.height - 1) 1))

end Console

end CircuitHub

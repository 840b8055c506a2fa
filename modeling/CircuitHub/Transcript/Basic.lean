import CircuitHub.Keyboard
import CircuitHub.Screen.Scroll
import CircuitHub.Transcript.Heights

/-!
# The transcript

The conversation is shown as cards one below the other, behind a window that can be moved. The
window sticks to the bottom until the user moves it up, and again when it comes back there. While a
reply is awaited, two more rows say so.
-/

namespace CircuitHub

/-- The transcript as it was last shown. -/
structure Transcript where
  /-- The window on the cards. -/
  scroll : Scroll
  /-- The heights of the cards. -/
  heights : Heights
  /-- The window sticks to the bottom. -/
  sticky : Bool
  /-- The rows of the window. -/
  viewport : Nat
  deriving DecidableEq, Repr

/-- How long a reply has been awaited, in seconds, and the step of the spinner that says so. -/
structure Waiting where
  /-- The seconds. -/
  seconds : Nat
  /-- The step. -/
  step : Nat
  deriving DecidableEq, Repr

namespace Transcript

/-- The transcript before it is shown. -/
def start : Transcript := ⟨.start, .none, true, 0⟩

/-! ### Moving -/

/-- The last row at which the window may begin. -/
def lastOffset (t : Transcript) : Nat := t.heights.total - t.viewport

/-- The transcript with the window elsewhere. -/
def moveTo (t : Transcript) (offset : Nat) : Transcript := { t with scroll := t.scroll.moveTo offset }

/-- The transcript with the window no further down than it may be. -/
def clamp (t : Transcript) : Transcript :=
  if t.lastOffset < t.scroll.offset then t.moveTo t.lastOffset else t

/-- The transcript, whose window sticks to the bottom if it is there. -/
def repin (t : Transcript) : Transcript :=
  if t.lastOffset ≤ t.scroll.offset then { t.moveTo t.lastOffset with sticky := true } else t

/-- The transcript after an event, if the event is meant for it. -/
def handle? (t : Transcript) : Event → Option Transcript
  | .scrollUp => some { t with scroll := t.scroll.up, sticky := false }
  | .scrollDown => some { t with scroll := t.scroll.down }.repin
  | .scrollPageUp => some { t with scroll := t.scroll.pageUp, sticky := false }
  | .scrollPageDown => some { t with scroll := t.scroll.pageDown }.repin
  | .scrollToBottom => some { t with scroll := t.scroll.toBottom, sticky := true }
  | _ => none

/-! ### Drawing -/

/-- The symbols of the spinner. -/
def spinner : List Char := ['⠋', '⠙', '⠹', '⠸', '⠼', '⠴', '⠦', '⠧', '⠇', '⠏']

/-- What is said while a reply is awaited. -/
def indicator (w : Waiting) : Line :=
  let symbol := spinner[w.step % spinner.length]?.getD ' '
  ⟨[⟨[symbol, ' '], .ofColor .cyan⟩,
    ⟨"Legion AI is designing... " ++ Text.ofNat w.seconds ++ ['s'],
      { fg? := some .gray, emphasis := { italic := true } }⟩], {}⟩

/-- The rows for what is said while a reply is awaited. -/
def indicatorRows (waiting? : Option Waiting) : Nat := if waiting?.isSome then 2 else 0

/-- The transcript when its cards have been measured for an area. -/
def measured (t : Transcript) (messages : List Message) (area : Area) : Transcript :=
  let t := { t with
    heights := t.heights.measure messages (area.width - 1), viewport := area.height }
  if t.sticky then t else t.clamp

/-- The rows that are drawn. -/
def canvasHeight (t : Transcript) (waiting? : Option Waiting) : Nat :=
  t.heights.total + indicatorRows waiting?

/-- The transcript after it has been shown in an area. -/
def afterDraw (t : Transcript) (messages : List Message) (waiting? : Option Waiting) (area : Area) :
    Transcript :=
  let t := t.measured messages area
  let scroll := if t.sticky then t.scroll.toBottom else t.scroll
  { t with scroll := scroll.afterShow (t.canvasHeight waiting?) area.height }

/-- Messages with their heights, each with its rows from a row on. -/
def placements (width top : Nat) : List (Message × Nat) → List (Message × Area)
  | [] => []
  | (m, height) :: rest => (m, ⟨0, top, width, height⟩) :: placements width (top + height) rest

/-- The messages that are painted, each with its rows. These are only those near the window, as it
    stood before. -/
def painted (t : Transcript) (messages : List Message) (width : Nat) : List (Message × Area) :=
  let (start, stop) := t.heights.visible t.scroll.offset t.viewport
  placements width (t.heights.top start) (((messages.zip t.heights.heights).take stop).drop start)

/-- The cards that are painted and what is said below them. -/
def canvas (t : Transcript) (messages : List Message) (waiting? : Option Waiting) (width : Nat) :
    Grid :=
  let g := (t.painted messages width).foldl (fun g (m, area) => (Card.ofMessage m).draw g area)
    (.blank width (t.canvasHeight waiting?))
  match waiting? with
  | some w =>
    Paragraph.draw { lines := [indicator w] } g ⟨0, t.heights.total + 1, width, 1⟩
  | none => g

/-- The transcript shown in an area. -/
def draw (t : Transcript) (messages : List Message) (waiting? : Option Waiting) (g : Grid)
    (area : Area) : Transcript × Grid :=
  let shown := t.afterDraw messages waiting? area
  let canvas := (t.measured messages area).canvas messages waiting? (area.width - 1)
  (shown, shown.scroll.draw canvas g area)

end Transcript

end CircuitHub

import CircuitHub.Code
import CircuitHub.Markdown.Document

/-!
# Documents on the screen

The events of a document make up styled lines. Tags that are open lay their styles over each other,
quotes put a bar before each line, and lists count their items. Blocks are set apart by empty lines.
-/

namespace CircuitHub.Markdown

/-- Lines that are being set. -/
structure Page where
  /-- The colour of plain text. -/
  color : Color
  /-- The lines, the last one first. -/
  lines : List Line
  /-- The styles of the open tags, the innermost first, each laid over those around it. -/
  styles : List Style
  /-- What each line begins with. -/
  margin : List Span
  /-- For each open list, the innermost first, the number of its next item if it has numbers. -/
  counters : List (Option Nat)
  /-- The open piece of code: what it is, and its lines. -/
  code? : Option (Text × Text)
  /-- Where the open link leads. -/
  url? : Option Text
  /-- An empty line goes before the next block. -/
  gap : Bool
  deriving DecidableEq, Repr

namespace Page

/-- Nothing set. -/
def blank (color : Color) : Page := ⟨color, [], [], [], [], none, none, false⟩

/-- The style of text. -/
def style (p : Page) : Style := p.styles.head?.getD (.ofColor p.color)

/-- The page with a style laid over that of text. -/
def pushStyle (p : Page) (s : Style) : Page := { p with styles := s.atop p.style :: p.styles }

/-- The page without the style laid over last. -/
def popStyle (p : Page) : Page := { p with styles := p.styles.tail }

/-- The page with one more line. -/
def pushLine (p : Page) (spans : List Span) : Page :=
  { p with lines := ⟨p.margin ++ spans, {}⟩ :: p.lines }

/-- The page with a span at the end of the last line, or in a line of its own if there is none. -/
def pushSpan (p : Page) (t : Text) (s : Style) : Page :=
  match p.lines with
  | line :: lines => { p with lines := { line with spans := line.spans ++ [⟨t, s⟩] } :: lines }
  | [] => p.pushLine [⟨t, s⟩]

/-- The page before a block. -/
def beginBlock (p : Page) : Page := if p.gap then { p.pushLine [] with gap := false } else p

/-- The page after a block. -/
def endBlock (p : Page) : Page := { p with gap := true }

/-! ### Styles -/

/-- The bars beside quotes, and the marks of items. -/
def faint : Style := .ofColor .darkGray

/-- A heading of some level. -/
def headingStyle (color : Color) (level : Nat) : Style where
  fg? := some color
  emphasis := { bold := true, underlined := level = 1, italic := 2 < level }

/-- Text that stands out. -/
def accentStyle : Accent → Style
  | .emphasis => { emphasis := { italic := true } }
  | .strong => { emphasis := { bold := true } }
  | .strikethrough => { emphasis := { crossedOut := true } }

/-- A link. -/
def linkStyle : Style := { fg? := some .cyan, emphasis := { underlined := true } }

/-- A quote. -/
def quoteStyle (color : Color) : Style :=
  { fg? := some color, emphasis := { dim := true, italic := true } }

/-- A piece of code within prose. -/
def codeStyle : Style := { fg? := some .white, bg? := some .darkGray }

/-! ### Events -/

/-- The mark of an item in lists that are open. -/
def itemMark (counters : List (Option Nat)) : Text :=
  let indent := (List.replicate (counters.length - 1) "  ".toList).flatten
  match counters with
  | some n :: _ => indent ++ Text.ofNat n ++ ". "
  | none :: _ => indent ++ "- "
  | [] => []

/-- The page with the next item of the innermost list begun. -/
def beginItem (p : Page) : Page :=
  let p := p.pushLine []
  let p := if p.counters.isEmpty then p else p.pushSpan (itemMark p.counters) faint
  match p.counters with
  | some n :: counters => { p with counters := some (n + 1) :: counters }
  | _ => p

/-- The page after the beginning of a tag. -/
def openTag (p : Page) : Tag → Page
  | .paragraph => p.beginBlock.pushLine []
  | .heading level =>
    let s := headingStyle p.color level
    (p.beginBlock.pushLine [⟨List.replicate level '#' ++ [' '], s⟩]).pushStyle s
  | .quote =>
    let p := p.beginBlock
    { p with margin := p.margin ++ [Span.mk "│ " faint] }.pushStyle (quoteStyle p.color)
  | .code info? => { p.beginBlock with code? := some (info?.getD [], []) }
  | .list start? =>
    let p := if p.counters.isEmpty then p.beginBlock else p
    { p with counters := start? :: p.counters }
  | .item => p.beginItem
  | .accent kind => p.pushStyle (accentStyle kind)
  | .link url => { p with url? := some url }.pushStyle linkStyle
  | .html | .image => p

/-- The page with the open piece of code set. -/
def setCode (p : Page) : Page :=
  match p.code? with
  | some (info, body) =>
    (Code.lines info (body.dropSuffix ['\n'])).foldl (fun p line => p.pushLine line.spans)
      { p with code? := none }
  | none => p

/-- The page with the open link's address after it. -/
def setUrl (p : Page) : Page :=
  match p.url? with
  | some url =>
    ((({ p with url? := none }.pushSpan " (" {}).pushSpan url linkStyle).pushSpan ")" {})
  | none => p

/-- The page after the end of a tag. -/
def closeTag (p : Page) : Tag → Page
  | .paragraph => p.endBlock
  | .heading _ => p.popStyle.endBlock
  | .quote => { p with margin := p.margin.dropLast }.popStyle.endBlock
  | .code _ => p.setCode.endBlock
  | .list _ => { p with counters := p.counters.tail }.endBlock
  | .accent _ => p.popStyle
  | .link _ => p.popStyle.setUrl
  | .item | .html | .image => p

/-- The page after text. -/
def addText (p : Page) (t : Text) : Page :=
  match p.code? with
  | some (info, body) => { p with code? := some (info, body ++ t) }
  | none => p.pushSpan (Code.expandTabs t) p.style

/-- The page after an event. -/
def handle (p : Page) : Event → Page
  | .opened tag => p.openTag tag
  | .closed tag => p.closeTag tag
  | .text t => p.addText t
  | .code t => p.pushSpan t codeStyle
  | .html t => p.pushSpan t p.style
  | .softBreak => p.pushSpan " " {}
  | .hardBreak => p.pushLine []
  | .rule => (p.beginBlock.pushLine [⟨List.replicate 40 '─', faint⟩]).endBlock
  | .task done => p.pushSpan (if done then "[x] " else "[ ] ") {}

/-- The page after some events. -/
def handleAll (p : Page) (events : List Event) : Page := events.foldl handle p

end Page

/-- A document as it is shown, plain text in some colour. -/
def typeset (color : Color) (t : Text) : List Line :=
  ((Page.blank color).handleAll (events t)).lines.reverse

end CircuitHub.Markdown

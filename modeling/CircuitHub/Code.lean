import CircuitHub.Screen.Line

/-!
# Code on the screen

Code is shown line by line behind a bar, between a header that names its language and a footer. In
a language whose structure is known it has colours of its own: a highlighter takes each line apart
into fragments, and leaves the breaks at the ends of lines in them. Code in any other language, and
code with a line that cannot be taken apart, is shown in one colour.
-/

namespace CircuitHub.Code

/-- The style of what frames the code. -/
def frameStyle : Style := .ofColor .darkGray

/-- A text with tabs as four spaces. -/
def expandTabs (t : Text) : Text :=
  t.flatMap fun c => if c = '\t' then [' ', ' ', ' ', ' '] else [c]

/-! ### Highlighting -/

/-- What takes code apart, line by line. -/
structure Highlighter where
  /-- What is kept in mind from one line to the next. -/
  State : Type
  /-- What is kept in mind before the first line of code in a language, if its structure is
      known. -/
  begin? : Text → Option State
  /-- The fragments of a line, each with its colour, and what is kept in mind after it, if the line
      can be taken apart. -/
  line? : State → Text → Option (List (Color × Text) × State)

/-- The languages whose structure is known. -/
def knownLanguages : List Text := ([
  "yaml", "yml", "rust", "rs", "python", "py", "json", "c", "cpp", "js", "html", "xml", "svg",
  "sh", "bash", "go", "sql", "txt", "md", "diff"] : List String).map String.toList

/-- The structure of a language is known. Case does not count. -/
def isKnown (language : Text) : Bool := knownLanguages.contains language.lowerAscii

/-- The highlighter that leaves each line whole, in the one colour of structure. -/
def wholeLines : Highlighter where
  State := Unit
  begin? language := if isKnown language then some () else none
  line? _ line := some ([(.accent, line)], ())

/-- The lines of a text, each with the line break it ends in. -/
def brokenLines : Text → List Text
  | [] => []
  | c :: t =>
    if c = '\n' then [c] :: brokenLines t
    else match brokenLines t with
      | [] => [[c]]
      | line :: lines => (c :: line) :: lines

/-- A character of a line break. -/
def isBreak (c : Char) : Bool := c = '\n' || c = '\r'

/-- Fragments of a line as they are shown, without line breaks at their ends. Those of which
    nothing is left are left out. -/
def spansOf (fragments : List (Color × Text)) : List Span :=
  fragments.filterMap fun (color, t) =>
    let shown := t.dropEndWhile isBreak
    if shown.isEmpty then none else some ⟨shown, .ofColor color⟩

namespace Highlighter

/-- The spans of lines, if all of them can be taken apart. -/
def spansFrom? (h : Highlighter) : h.State → List Text → Option (List (List Span))
  | _, [] => some []
  | state, line :: lines =>
    (h.line? state line).bind fun (fragments, state) =>
      (h.spansFrom? state lines).map (spansOf fragments :: ·)

/-- The spans of the lines of code in a language whose structure is known. -/
def spans? (h : Highlighter) (language code : Text) : Option (List (List Span)) :=
  if language.isEmpty then none
  else (h.begin? language).bind fun state => h.spansFrom? state (brokenLines code)

end Highlighter

/-! ### Lines -/

/-- The spans of the lines of code whose structure is not known. -/
def plainSpans (code : Text) : List (List Span) :=
  code.lines.map fun line => [⟨line, .ofColor .white⟩]

/-- The line of code behind its bar. -/
def barred (spans : List Span) : Line := ⟨⟨"│ ", frameStyle⟩ :: spans, {}⟩

/-- The first line. -/
def header (language : Text) : Line :=
  if language.isEmpty then .ofSpan "╭──" frameStyle
  else ⟨[⟨"╭── ", frameStyle⟩, ⟨language, .boldOf .darkGray⟩, ⟨" ──", frameStyle⟩], {}⟩

/-- The last line. -/
def footer : Line := .ofSpan "╰──" frameStyle

/-- Code in a language as it is shown with a highlighter. -/
def linesWith (h : Highlighter) (language code : Text) : List Line :=
  let code := expandTabs code
  header language ::
    ((h.spans? language code).getD (plainSpans code)).map barred ++ [footer]

/-- Code in a language as it is shown. -/
def lines (language code : Text) : List Line := linesWith wholeLines language code

end CircuitHub.Code

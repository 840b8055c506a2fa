import CircuitHub.Screen.Style

/-!
# Styled lines

A line is a sequence of spans, each a text in one style.
-/

namespace CircuitHub

/-- A text in one style. -/
structure Span where
  /-- The text. -/
  text : Text
  /-- Its style. -/
  style : Style := {}
  deriving DecidableEq, Repr

/-- Where a line stands between the edges. -/
inductive Alignment where
  | left
  | center
  | right
  deriving DecidableEq, Inhabited, Repr

/-- Spans beside each other. -/
structure Line where
  /-- The spans. -/
  spans : List Span
  /-- The style under all of them. -/
  style : Style := {}
  deriving DecidableEq, Repr

namespace Line

/-- The line without anything in it. -/
def blank : Line := ⟨[], {}⟩

/-- The line of one span. -/
def ofSpan (t : Text) (style : Style) : Line := ⟨[⟨t, style⟩], {}⟩

/-- The line of a text, itself in a style. -/
def styled (t : Text) (style : Style) : Line := ⟨[⟨t, {}⟩], style⟩

/-- What the line says. -/
def text (line : Line) : Text := line.spans.flatMap (·.text)

end Line

end CircuitHub

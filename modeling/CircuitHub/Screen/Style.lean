import CircuitHub.Text.Basic

/-!
# Styles

A style says what it changes about the colours and the strokes of a character; what it leaves open
stays as it is. Styles are laid one over the other (`Style.atop`).
-/

namespace CircuitHub

/-- A colour of the terminal. -/
inductive Color where
  /-- The colour of the terminal itself. -/
  | reset
  | red
  | green
  | yellow
  | blue
  | magenta
  | cyan
  | gray
  | darkGray
  | white
  /-- The background of a selected row. -/
  | slate
  /-- A colour by which code shows its structure. -/
  | accent
  deriving DecidableEq, Inhabited, Repr

/-- The name of a colour. The colours of code have no name of their own. -/
def Color.name : Color → Text
  | reset => "Reset"
  | red => "Red"
  | green => "Green"
  | yellow => "Yellow"
  | blue => "Blue"
  | magenta => "Magenta"
  | cyan => "Cyan"
  | gray => "Gray"
  | darkGray => "DarkGray"
  | white => "White"
  | slate => "#1E293B"
  | accent => "Rgb"

/-- What is done to the strokes of a character. -/
structure Emphasis where
  bold : Bool := false
  dim : Bool := false
  italic : Bool := false
  underlined : Bool := false
  crossedOut : Bool := false
  deriving DecidableEq, Inhabited, Repr

namespace Emphasis

/-- Both together. -/
def union (a b : Emphasis) : Emphasis where
  bold := a.bold || b.bold
  dim := a.dim || b.dim
  italic := a.italic || b.italic
  underlined := a.underlined || b.underlined
  crossedOut := a.crossedOut || b.crossedOut

/-- The names of what is done. -/
def names (e : Emphasis) : List Text :=
  (if e.bold then ["BOLD".toList] else []) ++ (if e.dim then ["DIM".toList] else []) ++
    (if e.italic then ["ITALIC".toList] else []) ++
    (if e.underlined then ["UNDERLINED".toList] else []) ++
    (if e.crossedOut then ["CROSSED_OUT".toList] else [])

end Emphasis

/-- What is changed about a character. -/
structure Style where
  /-- The colour of the strokes. -/
  fg? : Option Color := none
  /-- The colour behind them. -/
  bg? : Option Color := none
  /-- What is done to the strokes. -/
  emphasis : Emphasis := {}
  deriving DecidableEq, Inhabited, Repr

namespace Style

/-- The style of a colour. -/
def ofColor (c : Color) : Style := { fg? := some c }

/-- The style of a colour with heavy strokes. -/
def boldOf (c : Color) : Style := { fg? := some c, emphasis := { bold := true } }

/-- A style laid over another one. -/
def atop (top base : Style) : Style where
  fg? := top.fg?.or base.fg?
  bg? := top.bg?.or base.bg?
  emphasis := base.emphasis.union top.emphasis

end Style

end CircuitHub

import CircuitHub.Screen.Grid

/-!
# Paragraphs on the screen

Lines are drawn into an area either each in one row, cut off at the edge, or wrapped: words go on
in the next row where they do not fit, and a word longer than a row is cut. Wrapped lines may drop
the white space that their rows would begin with.

A `Glyph` is a cluster of characters with its style and columns. `wrap` makes rows of the glyphs
of a line; how many there are is the height of the line (`lineCount`).
-/

namespace CircuitHub

/-- A cluster of characters as it is drawn. -/
structure Glyph where
  /-- The characters. -/
  symbol : Text
  /-- Their style. -/
  style : Style
  /-- The columns they take up. -/
  width : Nat
  deriving DecidableEq, Repr

namespace Glyph

/-- A row may be broken at the glyph: white space that does not bind, or a break without columns. -/
def isBreak (g : Glyph) : Bool :=
  g.symbol = ['\u200B'] || (g.symbol.isBlank && g.symbol != ['\u00A0'])

/-- The columns of glyphs beside each other. -/
def columns (glyphs : List Glyph) : Nat := total (glyphs.map (·.width))

/-- The glyphs of a span over a style. -/
def ofSpan (base : Style) (span : Span) : List Glyph :=
  (Grid.drawable span.text).map fun (symbol, width) => ⟨symbol, span.style.atop base, width⟩

/-- The glyphs of a line. -/
def ofLine (line : Line) : List Glyph := line.spans.flatMap (ofSpan line.style)

end Glyph

/-! ### Cutting and wrapping -/

/-- The glyphs that fit into a row of which some columns are used. A glyph wider than the whole row
    is left out. -/
def cutGlyphs (limit used : Nat) : List Glyph → List Glyph
  | [] => []
  | g :: glyphs =>
    if limit < g.width then cutGlyphs limit used glyphs
    else if limit < used + g.width then []
    else g :: cutGlyphs limit (used + g.width) glyphs

/-- Where the wrapping of a line stands. -/
structure Wrapping where
  /-- The rows that are done, the last one first. -/
  done : List (List Glyph)
  /-- The words of the row at hand. -/
  row : List Glyph
  /-- The white space after them. -/
  gap : List Glyph
  /-- The word after that. -/
  word : List Glyph
  /-- The last glyph belongs to a word. -/
  inWord : Bool

namespace Wrapping

/-- Nothing read. -/
def start : Wrapping := ⟨[], [], [], [], false⟩

/-- The word at hand goes into the row. The white space before it does so too, unless the row would
    begin with it and such space is dropped. -/
def endWord (w : Wrapping) (trim : Bool) : Wrapping :=
  let gap := if w.row.isEmpty && trim then [] else w.gap
  { w with row := w.row ++ gap ++ w.word, gap := [], word := [] }

/-- White space without what still fits into some columns. -/
def dropGap (columns : Nat) : List Glyph → List Glyph
  | [] => []
  | g :: gap => if columns < g.width then g :: gap else dropGap (columns - g.width) gap

/-- The word at hand is complete, or cannot go on because it fills a row by itself. -/
def wordEnds (w : Wrapping) (trim : Bool) (limit : Nat) (g : Glyph) : Bool :=
  (w.inWord && g.isBreak) ||
    (w.row.isEmpty &&
      if trim then
        limit < Glyph.columns w.word + g.width || limit < Glyph.columns w.gap + g.width
      else limit < Glyph.columns w.word + Glyph.columns w.gap + g.width)

/-- The row at hand has no place for the glyph. -/
def rowEnds (w : Wrapping) (limit : Nat) (g : Glyph) : Bool :=
  limit ≤ Glyph.columns w.row ||
    (0 < g.width &&
      limit ≤ Glyph.columns w.row + Glyph.columns w.gap + Glyph.columns w.word)

/-- The wrapping with a glyph at the end of the white space or of the word at hand. -/
def push (w : Wrapping) (g : Glyph) : Wrapping :=
  if g.isBreak then { w with gap := w.gap ++ [g], inWord := false }
  else { w with word := w.word ++ [g], inWord := true }

/-- The wrapping after one more glyph. A glyph wider than a row is left out. White space at the
    end of a row does not begin the next one. -/
def step (trim : Bool) (limit : Nat) (w : Wrapping) (g : Glyph) : Wrapping :=
  if limit < g.width then w
  else
    let w := if w.wordEnds trim limit g then w.endWord trim else w
    if w.rowEnds limit g then
      let gap := dropGap (limit - Glyph.columns w.row) w.gap
      let w := { w with done := w.row :: w.done, row := [], gap }
      if g.isBreak && gap.isEmpty then w else w.push g
    else w.push g

/-- The rows of the wrapping when there is no more glyph. -/
def finish (w : Wrapping) (trim : Bool) : List (List Glyph) :=
  let done := if w.row.isEmpty && w.word.isEmpty && !w.gap.isEmpty then [] :: w.done else w.done
  let row := (w.endWord trim).row
  let done := if row.isEmpty then done else row :: done
  if done.isEmpty then [[]] else done.reverse

end Wrapping

/-- The rows of a line of glyphs, none wider than the limit. -/
def wrap (trim : Bool) (limit : Nat) (glyphs : List Glyph) : List (List Glyph) :=
  (glyphs.foldl (Wrapping.step trim limit) .start).finish trim

/-! ### Paragraphs -/

/-- What becomes of a line that does not fit. -/
inductive Overflow where
  /-- It is cut off. -/
  | cut
  /-- It goes on in the next row, perhaps without the white space that its rows would begin with. -/
  | wrap (trim : Bool)
  deriving DecidableEq, Repr

/-- Lines to be drawn. -/
structure Paragraph where
  /-- The lines. -/
  lines : List Line
  /-- The style under all of them. -/
  style : Style := {}
  /-- Where they stand between the edges. -/
  align : Alignment := .left
  /-- What becomes of those that do not fit. -/
  overflow : Overflow := .cut
  deriving DecidableEq, Repr

namespace Paragraph

/-- The rows of a line in an area of some width. -/
def lineRows (p : Paragraph) (width : Nat) (line : Line) : List (List Glyph) :=
  match p.overflow with
  | .cut => [cutGlyphs width 0 (Glyph.ofLine line)]
  | .wrap trim => CircuitHub.wrap trim width (Glyph.ofLine line)

/-- The rows of the paragraph in an area of some width. -/
def rows (p : Paragraph) (width : Nat) : List (List Glyph) :=
  if width = 0 then [] else p.lines.flatMap (p.lineRows width)

/-- The number of rows that the paragraph takes up. -/
def lineCount (p : Paragraph) (width : Nat) : Nat := (p.rows width).length

/-- How far a row of some columns is from the left edge. -/
def offset (p : Paragraph) (width columns : Nat) : Nat :=
  match p.align with
  | .left => 0
  | .center => width / 2 - columns / 2
  | .right => width - columns

/-- The grid with glyphs drawn in a row, from a column on. Only the first cell of a glyph is
    touched. -/
def drawGlyphs (g : Grid) (x y : Nat) : List Glyph → Grid
  | [] => g
  | glyph :: rest =>
    if glyph.width = 0 then drawGlyphs g x y rest
    else
      drawGlyphs (g.modify x y (·.display glyph.symbol glyph.style)) (x + glyph.width) y rest

/-- The grid with the paragraph drawn into an area. Rows that do not fit are left out. -/
def draw (p : Paragraph) (g : Grid) (area : Area) : Grid :=
  let area := area.intersect g.area
  let g := g.restyle area p.style
  let rows := (p.rows area.width).take area.height
  (rows.zipIdx).foldl (fun g (row, i) =>
    drawGlyphs g (area.x + p.offset area.width (Glyph.columns row)) (area.y + i) row) g

end Paragraph

end CircuitHub

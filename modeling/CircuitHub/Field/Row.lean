import CircuitHub.Text.Utf8
import CircuitHub.Text.Width

/-!
# Rows of a text

A text in a field is shown in rows: each line of it is broken into as many as its columns ask for.
A row knows at which byte of the text it begins, and it always takes at least one character that
takes up columns. How many columns a character takes up is the measure.

A cursor stands before a byte of the text. Where a row is broken within a line, the cursor between
the two rows belongs to the second one, as this is where the next character would go.

* `takeRow_append`: a row and what follows it make up the line.
-/

namespace CircuitHub

/-- A piece of a text that is shown in one row. -/
structure Row where
  /-- The byte of the text at which the row begins. -/
  start : Nat
  /-- What the row shows. -/
  text : Text
  deriving DecidableEq, Repr

namespace Row

/-- The byte of the text at which the row ends. -/
def stop (r : Row) : Nat := r.start + r.text.byteSize

/-- As many characters as fit into a row of which some columns are used, and what follows. The
    first character that takes up columns goes into the row in any case. -/
def takeRow (measure : Char → Nat) (width used : Nat) : Text → Text × Text
  | [] => ([], [])
  | c :: t =>
    if width < used + measure c && 0 < used then ([], c :: t)
    else
      let (row, rest) := takeRow measure width (used + measure c) t
      (c :: row, rest)

theorem takeRow_append (measure : Char → Nat) (width used : Nat) (t : Text) :
    (takeRow measure width used t).1 ++ (takeRow measure width used t).2 = t := by
  induction t generalizing used with
  | nil => rfl
  | cons c t ih =>
    unfold takeRow
    split
    · rfl
    · simpa using ih _

theorem takeRow_length_lt (measure : Char → Nat) (width : Nat) {t : Text} (h : t ≠ []) :
    (takeRow measure width 0 t).2.length < t.length := by
  cases t with
  | nil => exact absurd rfl h
  | cons c t =>
    have := congrArg List.length (takeRow_append measure width (0 + measure c) t)
    simp only [takeRow, Nat.lt_irrefl, decide_false, Bool.and_false, Bool.false_eq_true, if_false,
      List.length_append, List.length_cons] at *
    omega

/-- The rows of a line that begins at a byte of the text. -/
def ofLine (measure : Char → Nat) (width start : Nat) (line : Text) : List Row :=
  let row := (takeRow measure width 0 line).1
  if _h : (takeRow measure width 0 line).2 = [] then [⟨start, row⟩]
  else
    ⟨start, row⟩ ::
      ofLine measure width (start + row.byteSize) (takeRow measure width 0 line).2
termination_by line.length
decreasing_by
  refine takeRow_length_lt _ _ fun he => ?_
  subst he
  exact _h rfl

/-- The rows of lines that begin at a byte of the text, a line break between each two. -/
def ofLines (measure : Char → Nat) (width start : Nat) : List Text → List Row
  | [] => []
  | line :: lines =>
    ofLine measure width start line ++ ofLines measure width (start + line.byteSize + 1) lines

/-- The rows of a text. There is always one, and a text that ends in a line break has an empty row
    at its end. -/
def ofText (measure : Char → Nat) (width : Nat) (t : Text) : List Row :=
  ofLines measure (max width 1) 0 t.splitLines

/-- The columns of a text by a measure. -/
def columns (measure : Char → Nat) (t : Text) : Nat := total (t.map measure)

/-- The row of a cursor, and its column there. -/
def locate (measure : Char → Nat) (rows : List Row) (cursor : Nat) : Nat × Nat :=
  let index := (rows.takeWhile (·.start ≤ cursor)).length - 1
  match rows[index]? with
  | some row => (index, columns measure (row.text.takeBytes (cursor - row.start)))
  | none => (0, 0)

/-- The beginning of a text that takes up no more than some columns, with `used` of them taken. -/
def takeColumns (measure : Char → Nat) (column used : Nat) : Text → Text
  | [] => []
  | c :: t =>
    if column < used + measure c then []
    else c :: takeColumns measure column (used + measure c) t

/-- The cursor in a row that is closest to a column. Below the last row is the end of the text. -/
def offsetAt (measure : Char → Nat) (rows : List Row) (t : Text) (index column : Nat) : Nat :=
  match rows[index]? with
  | some row => row.start + (takeColumns measure column 0 row.text).byteSize
  | none => t.byteSize

end Row

namespace Text

/-- The cursor one character to the left. -/
def cursorBefore (t : Text) (cursor : Nat) : Nat :=
  match (t.takeBytes cursor).getLast? with
  | some c => cursor - c.utf8Size
  | none => 0

/-- The cursor one character to the right. -/
def cursorAfter (t : Text) (cursor : Nat) : Nat :=
  match (t.dropBytes cursor).head? with
  | some c => cursor + c.utf8Size
  | none => t.byteSize

end Text

end CircuitHub

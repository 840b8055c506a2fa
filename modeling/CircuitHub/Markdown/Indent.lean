import CircuitHub.Text.Basic

/-!
# The beginning of a line

How far a line is indented decides to which blocks it belongs. A tab goes on to the next column
that is a multiple of four, and a block may take only some of these columns, so that the columns
left of a tab are kept apart from the text.

* `Indent.dropColumns_length_le`: no text is gained where columns are taken.
-/

namespace CircuitHub.Markdown

/-- What is left of a line. -/
structure Indent where
  /-- The columns left of a tab that has been taken in part. -/
  spare : Nat
  /-- The column at which the text begins. -/
  column : Nat
  /-- The text. -/
  text : Text
  deriving DecidableEq, Repr

namespace Indent

/-- All of a line. -/
def ofLine (t : Text) : Indent := ⟨0, 0, t⟩

/-- The columns of a tab. -/
def tabWidth (column : Nat) : Nat := 4 - column % 4

/-- The columns of the blanks at the beginning of a text. -/
def blankColumns (column : Nat) : Text → Nat
  | ' ' :: t => 1 + blankColumns (column + 1) t
  | '\t' :: t => tabWidth column + blankColumns (column + tabWidth column) t
  | _ => 0

/-- The columns before the first character that is no blank. -/
def width (l : Indent) : Nat := l.spare + blankColumns l.column l.text

/-- The text from the first character that is no blank. -/
def content (l : Indent) : Text := l.text.dropWhile fun c => c = ' ' || c = '\t'

/-- There is nothing but blanks. -/
def isBlank (l : Indent) : Bool := l.content.isEmpty

/-- The text with the columns left of a tab as spaces. -/
def padded (l : Indent) : Text := List.replicate l.spare ' ' ++ l.text

/-- A text without some columns of blanks at its beginning, or all of them where there are fewer. -/
def dropBlanks (n column : Nat) : Text → Indent
  | ' ' :: t => if n = 0 then ⟨0, column, ' ' :: t⟩ else dropBlanks (n - 1) (column + 1) t
  | '\t' :: t =>
    if n = 0 then ⟨0, column, '\t' :: t⟩
    else if tabWidth column ≤ n then
      dropBlanks (n - tabWidth column) (column + tabWidth column) t
    else ⟨tabWidth column - n, column + tabWidth column, t⟩
  | t => ⟨0, column, t⟩

/-- What is left after some columns of blanks, or after all of them where there are fewer. -/
def dropColumns (l : Indent) (n : Nat) : Indent :=
  if n ≤ l.spare then { l with spare := l.spare - n } else dropBlanks (n - l.spare) l.column l.text

/-- What is left after a number of characters that are no blanks, and the blanks before them. -/
def dropMark (l : Indent) (n : Nat) : Indent :=
  ⟨0, l.column + blankColumns l.column l.text + n, l.content.drop n⟩

theorem dropBlanks_length_le (n column : Nat) (t : Text) :
    (dropBlanks n column t).text.length ≤ t.length := by
  fun_induction dropBlanks n column t <;> simp_all <;> omega

theorem dropColumns_length_le (l : Indent) (n : Nat) :
    (l.dropColumns n).text.length ≤ l.text.length := by
  unfold dropColumns
  split
  · exact Nat.le_refl _
  · exact dropBlanks_length_le _ _ _

theorem content_length_le (l : Indent) : l.content.length ≤ l.text.length :=
  Text.length_dropWhile_le _ _

theorem dropMark_length_lt (l : Indent) {n : Nat} (hn : 0 < n) (h : l.content ≠ []) :
    (l.dropMark n).text.length < l.text.length := by
  have h₁ := l.content_length_le
  have h₂ := List.length_pos_iff.2 h
  simp only [dropMark, List.length_drop]
  omega

end Indent

end CircuitHub.Markdown

import CircuitHub.Proofs.Field.Halves
import CircuitHub.Proofs.Result

/-!
# Where a field cuts its text

To edit a field or to draw it, its text is cut at numbers of bytes: the cursor, a character or a
line beside it, the ends of rows. A character may have several bytes, and a cut within one has no
result. Here everything that cuts the text is written down with cuts that may have none. As the
cursor always stands between two characters, and rows begin and end there, all of them have one:
what is written down here is what the field does.

The rows by which the cursor goes up and down are those of the width at which the field was last
drawn. The text may have changed since, but rows are cut out of the text as it is now.

* `Row.locate?_eq`, `Row.offsetAt?_eq`: a cursor is found in the rows of a text, and a place in a
  row is a cursor;
* `Field.handle?_eq`, `Field.draw?_eq`: a field whose cursor stands between two characters is edited
  and drawn without cutting one;
* `Field.cuts_between_characters`: so is every field, whatever has been done to it.
-/

namespace CircuitHub

/-! ## Rows -/

namespace Row

variable {measure : Char → Nat} {width : Nat} {t : Text} {cursor : Nat}

/-- The row of a cursor and its column, which is that of the text between the beginning of the row
    and the cursor. -/
def locate? (measure : Char → Nat) (rows : List Row) (t : Text) (cursor : Nat) :
    Option (Nat × Nat) :=
  let index := (rows.takeWhile (·.start ≤ cursor)).length - 1
  let start := (rows[index]?.map (·.start)).getD 0
  (t.between? start cursor).map fun shown => (index, columns measure shown)

/-- The cursor in a row that is closest to a column, by the text between the ends of the row. -/
def offsetAt? (measure : Char → Nat) (rows : List Row) (t : Text) (index column : Nat) :
    Option Nat :=
  match rows[index]? with
  | some row => (t.between? row.start row.stop).map fun shown =>
      row.start + (takeColumns measure column 0 shown).byteSize
  | none => some t.byteSize

/-- A cursor of the text is found in its rows. -/
theorem locate?_eq (hc : t.HasCursor cursor) :
    locate? measure (ofText measure width t) t cursor =
      some (locate measure (ofText measure width t) cursor) := by
  -- The last row that begins at the cursor or before it also reaches up to it.
  obtain ⟨r, hr, hstart, hstop⟩ :=
    (covers_ofText measure width t).exists_row (Nat.zero_le cursor) hc.le_byteSize
  have hin : r.StandsIn 0 t := standsIn_of_mem_ofText (List.mem_of_getElem? hr)
  simp only [locate?, locate, hr, Option.map_some, Option.getD_some,
    hin.between?_cursor hc hstart hstop]

/-- A place is found in any row of the text. -/
theorem offsetAt?_eq (index column : Nat) :
    offsetAt? measure (ofText measure width t) t index column =
      some (offsetAt measure (ofText measure width t) t index column) := by
  rw [offsetAt?, offsetAt]
  cases hrow : (ofText measure width t)[index]? with
  | none => rfl
  | some row =>
    have hin : row.StandsIn 0 t := standsIn_of_mem_ofText (List.mem_of_getElem? hrow)
    simp only [hin.between?_stop, Option.map_some]

end Row

/-! ## Cursors beside a cursor -/

namespace Text

variable {t : Text} {cursor : Nat}

/-- The cursor one character to the left, by the text before the cursor. -/
def cursorBefore? (t : Text) (cursor : Nat) : Option Nat :=
  (t.between? 0 cursor).map fun before =>
    match before.getLast? with
    | some c => cursor - c.utf8Size
    | none => 0

/-- The cursor one character to the right, by the text after the cursor. -/
def cursorAfter? (t : Text) (cursor : Nat) : Option Nat :=
  (t.between? cursor t.byteSize).map fun after =>
    match after.head? with
    | some c => cursor + c.utf8Size
    | none => t.byteSize

theorem HasCursor.cursorBefore?_eq (h : t.HasCursor cursor) :
    t.cursorBefore? cursor = some (t.cursorBefore cursor) := by
  rw [cursorBefore?, h.between?_zero]
  rfl

theorem HasCursor.cursorAfter?_eq (h : t.HasCursor cursor) :
    t.cursorAfter? cursor = some (t.cursorAfter cursor) := by
  rw [cursorAfter?, h.between?_byteSize]
  rfl

/-- From the cursor to the left of a cursor up to it stands at most one character. -/
theorem HasCursor.isCut_cursorBefore (h : t.HasCursor cursor) :
    t.IsCut (t.cursorBefore cursor) cursor := by
  obtain ⟨before, after, rfl, rfl⟩ := h
  rw [cursorBefore_append]
  rcases List.eq_nil_or_concat before with rfl | ⟨init, c, rfl⟩
  · exact isCut_append [] [] after
  · rw [List.concat_eq_append, List.dropLast_concat]
    exact isCut_append init [c] after

theorem HasCursor.isCut_cursorAfter (h : t.HasCursor cursor) :
    t.IsCut cursor (t.cursorAfter cursor) := by
  obtain ⟨before, after, rfl, rfl⟩ := h
  rw [cursorAfter_append]
  cases after with
  | nil => simpa using isCut_append before [] []
  | cons c after => simpa using isCut_append before [c] after

end Text

namespace Field

variable {f : Field}

/-! ## Editing -/

/-- The field with a text put in before the cursor. -/
def insert? (f : Field) (t : Text) : Option (Field × Option FieldChange) :=
  if t.isEmpty then some (f, none)
  else
    let new := f.normalize t
    (f.text.putIn? f.cursor new).map fun text =>
      ({ f with text, cursor := f.cursor + new.byteSize }, some .edited)

/-- The field without the text between two places, the cursor at the first of them. -/
def deleteBetween? (f : Field) (left right : Nat) : Option (Field × Option FieldChange) :=
  (f.text.without? left right).map fun text => ({ f with text, cursor := left }, some .edited)

/-- The field with the cursor one row up or down, by the rows at the width when it was last
    drawn. -/
def moveVertically? (f : Field) (down : Bool) : Option (Field × Option FieldChange) := do
  let rows := f.rows f.width
  let (row, column) ← Row.locate? charWidth rows f.text f.cursor
  if down then
    if row + 1 < rows.length then
      (Row.offsetAt? charWidth rows f.text (row + 1) column).map f.moveTo
    else some (f, none)
  else if 0 < row then (Row.offsetAt? charWidth rows f.text (row - 1) column).map f.moveTo
  else some (f, none)

/-- The cursor at the beginning of its line, by the text before the cursor. -/
def lineStart? (f : Field) : Option Nat :=
  (f.text.between? 0 f.cursor).map fun before =>
    f.cursor - Text.byteSize (before.reverse.takeWhile (· != '\n'))

/-- The cursor at the end of its line, by the text after the cursor. -/
def lineEnd? (f : Field) : Option Nat :=
  (f.text.between? f.cursor f.text.byteSize).map fun after => f.cursor + after.firstLine.byteSize

/-- The field after an event and what it comes to. There is none if a character were cut. -/
def handle? (f : Field) (event : Event) : Option (Field × Option FieldChange) :=
  match event with
  | .type c => f.insert? [c]
  | .paste t => f.insert? t
  | .newLine => if f.isSingleLine then some (f, none) else f.insert? ['\n']
  | .submit => if f.enterBreaks then f.insert? ['\n'] else some f.submit
  | .backspace =>
    if f.cursor = 0 then some (f, none)
    else (f.text.cursorBefore? f.cursor).bind fun left => f.deleteBetween? left f.cursor
  | .delete =>
    if f.text.byteSize ≤ f.cursor then some (f, none)
    else (f.text.cursorAfter? f.cursor).bind fun right => f.deleteBetween? f.cursor right
  | .cursorLeft => (f.text.cursorBefore? f.cursor).map f.moveTo
  | .cursorRight => (f.text.cursorAfter? f.cursor).map f.moveTo
  | .cursorHome => f.lineStart?.map f.moveTo
  | .cursorEnd => f.lineEnd?.map f.moveTo
  | .scrollUp => if f.isSingleLine then some (f, none) else f.moveVertically? false
  | .scrollDown => if f.isSingleLine then some (f, none) else f.moveVertically? true
  | _ => some (f, none)

/-- A choice has a result if both of its sides have one. -/
theorem ite_eq_some {α : Type} {p : Prop} [Decidable p] {yes? no? : Option α} {yes no : α}
    (hyes : yes? = some yes) (hno : no? = some no) :
    (if p then yes? else no?) = some (if p then yes else no) := by
  rw [hyes, hno, apply_ite some]

theorem insert?_eq (h : f.text.HasCursor f.cursor) (t : Text) :
    f.insert? t = some (f.insert t) := by
  refine ite_eq_some rfl ?_
  simp only [Text.putIn?, if_pos h, Option.map_some]

theorem deleteBetween?_eq {left right : Nat} (h : f.text.IsCut left right) :
    f.deleteBetween? left right = some (f.deleteBetween left right) := by
  rw [deleteBetween?, Text.without?, if_pos h]
  rfl

theorem moveVertically?_eq (h : f.text.HasCursor f.cursor) (down : Bool) :
    f.moveVertically? down = some (f.moveVertically down) := by
  rw [moveVertically?, moveVertically, rows, Row.locate?_eq h]
  simp only [Option.bind_eq_bind, Option.bind_some, Row.offsetAt?_eq, Option.map_some]
  exact ite_eq_some (ite_eq_some rfl rfl) (ite_eq_some rfl rfl)

theorem lineStart?_eq (h : f.text.HasCursor f.cursor) : f.lineStart? = some f.lineStart := by
  rw [lineStart?, h.between?_zero]
  rfl

theorem lineEnd?_eq (h : f.text.HasCursor f.cursor) : f.lineEnd? = some f.lineEnd := by
  rw [lineEnd?, h.between?_byteSize]
  rfl

/-- An event cuts no character of a field whose cursor stands between two. -/
theorem handle?_eq (h : f.text.HasCursor f.cursor) (e : Event) :
    f.handle? e = some (f.handle e) := by
  cases e with
  | type c => exact insert?_eq h [c]
  | paste t => exact insert?_eq h t
  | newLine => exact ite_eq_some rfl (insert?_eq h _)
  | submit => exact ite_eq_some (insert?_eq h _) rfl
  | backspace =>
    refine ite_eq_some rfl ?_
    rw [h.cursorBefore?_eq]
    exact deleteBetween?_eq h.isCut_cursorBefore
  | delete =>
    refine ite_eq_some rfl ?_
    rw [h.cursorAfter?_eq]
    exact deleteBetween?_eq h.isCut_cursorAfter
  | cursorLeft => exact congrArg (Option.map f.moveTo) h.cursorBefore?_eq
  | cursorRight => exact congrArg (Option.map f.moveTo) h.cursorAfter?_eq
  | cursorHome => exact congrArg (Option.map f.moveTo) (lineStart?_eq h)
  | cursorEnd => exact congrArg (Option.map f.moveTo) (lineEnd?_eq h)
  | scrollUp => exact ite_eq_some rfl (moveVertically?_eq h false)
  | scrollDown => exact ite_eq_some rfl (moveVertically?_eq h true)
  | _ => rfl

/-! ## Drawing -/

/-- The lines that a drawn field shows, each the text between the ends of a row. -/
def shownLines? (f : Field) (area : Area) : Option (List Line) :=
  if f.text.isEmpty then some (f.shownLines area)
  else (((f.rows f.width).drop f.firstRow).take (shownRows area.height)).mapM fun row =>
    (f.text.between? row.start row.stop).map fun shown => .ofSpan shown {}

/-- Where a drawn field shows its cursor, which stands in some row and column. There is no such
    place if the row is above those that are shown. -/
def shownCursor? (f : Field) (area : Area) (cell : Nat × Nat) : Option (Nat × Nat) :=
  if f.firstRow ≤ cell.1 then
    some (min (area.x + 2 + Extent.wrap cell.2) (area.right - 2),
      area.y + 1 + Extent.wrap (cell.1 - f.firstRow))
  else none

/-- The field as it is after it has been drawn into an area, and row and column of its cursor. -/
def afterDraw? (f : Field) (area : Area) : Option (Field × Nat × Nat) :=
  let width := contentWidth area
  (Row.locate? charWidth (f.rows width) f.text f.cursor).map fun cell =>
    ({ f with width, firstRow := scrolledTo f.firstRow (shownRows area.height) cell.1 }, cell)

/-- The field drawn into an area. There is no drawing if a character were cut. -/
def draw? (f : Field) (frame : Frame) (area : Area) : Option (Field × Frame) := do
  let (f, cell) ← f.afterDraw? area
  let lines ← f.shownLines? area
  let grid := Paragraph.draw { lines } (f.panel.draw frame.grid area) (f.panel.inner area)
  let cursor? ← if f.isActive then (f.shownCursor? area cell).map some else some frame.cursor?
  some (f, { grid, cursor? })

theorem afterDraw?_eq (h : f.text.HasCursor f.cursor) (area : Area) :
    f.afterDraw? area = some (f.afterDraw area, f.cursorCell (contentWidth area)) := by
  rw [afterDraw?, rows, Row.locate?_eq h]
  rfl

theorem shownLines?_eq (f : Field) (area : Area) :
    f.shownLines? area = some (f.shownLines area) := by
  rw [shownLines?]
  split
  · rfl
  · rename_i hne
    rw [shownLines, if_neg hne]
    -- Each row that is shown stands in the text as it is.
    refine mapM_of_forall_some fun row hr => ?_
    have hin : row.StandsIn 0 f.text :=
      Row.standsIn_of_mem_ofText (List.mem_of_mem_drop (List.mem_of_mem_take hr))
    rw [hin.between?_stop]
    rfl

/-- The rows that are shown reach up to that of the cursor. -/
theorem scrolledTo_le (firstRow row : Nat) {shown : Nat} (h : 0 < shown) :
    scrolledTo firstRow shown row ≤ row := by
  rw [scrolledTo]
  split
  · exact Nat.le_refl row
  · split <;> omega

/-- Drawing cuts no character of a field whose cursor stands between two. -/
theorem draw?_eq (h : f.text.HasCursor f.cursor) (frame : Frame) (area : Area) :
    f.draw? frame area = some (f.draw frame area) := by
  -- The field has been scrolled by now, so that the row of the cursor is among those shown.
  have hshown : (f.afterDraw area).shownCursor? area (f.cursorCell (contentWidth area)) =
      some ((f.afterDraw area).shownCursor area) :=
    if_pos (scrolledTo_le _ _ (Nat.lt_of_lt_of_le Nat.one_pos (Nat.le_max_right _ _)))
  rw [draw?, afterDraw?_eq h, draw]
  simp only [Option.bind_eq_bind, Option.bind_some, shownLines?_eq, hshown, Option.map_some]
  split <;> rfl

/-! ## Fields in use -/

/-- The cursor of a field always stands between two characters. -/
theorem Reachable.hasCursor (h : Reachable f) : f.text.HasCursor f.cursor := by
  obtain ⟨s, hs⟩ := h.holds
  exact ⟨s.before, s.after, hs.text_eq, hs.cursor_eq⟩

/-- However a field is set up and whatever has been done to it, its cursor stands between two
    characters of its text, and so do the ends of its rows at any width. Whatever the next event and
    wherever it is drawn next, no character is cut. -/
theorem cuts_between_characters (h : Reachable f) :
    f.cursor ≤ f.text.byteSize ∧ f.text.HasCursor f.cursor ∧
      (∀ width, ∀ row ∈ f.rows width, f.text.IsCut row.start row.stop) ∧
      (∀ e, f.handle? e = some (f.handle e)) ∧
      ∀ frame area, f.draw? frame area = some (f.draw frame area) :=
  ⟨h.hasCursor.le_byteSize, h.hasCursor,
    fun _ _ hrow => (Row.standsIn_of_mem_ofText hrow).isCut,
    fun e => handle?_eq h.hasCursor e, fun frame area => draw?_eq h.hasCursor frame area⟩

/-- A field that was drawn with four columns, in which there is place for two of its characters, and
    to which a character of two bytes was added then. -/
def redrawn : Field :=
  ((((empty [] []).setText ['電', '阻', '器']).draw (.blank 8 4) ⟨0, 0, 8, 4⟩).1.handle (.type 'é')).1

theorem reachable_redrawn : Reachable redrawn :=
  .step (.step (.step (.empty [] []) (.setText _ _)) (.draw _ _ _)) (.handle _ _)

/-- The cursor goes up from column three and stops before the second character, which has two. -/
theorem cuts_between_characters_redrawn :
    Reachable redrawn ∧ redrawn.cursor = 11 ∧ redrawn.text.HasCursor 11 ∧
      ¬redrawn.text.HasCursor 10 ∧
      (redrawn.handle? .scrollUp).map (fun after => (after.1.cursor, after.2)) =
        some (3, some .edited) := by
  have hcursor : redrawn.cursor = 11 := by decide +kernel
  obtain ⟨-, hc, -, handled, -⟩ := cuts_between_characters reachable_redrawn
  rw [hcursor] at hc
  refine ⟨reachable_redrawn, hcursor, hc, by decide +kernel, ?_⟩
  rw [handled]
  decide +kernel

end Field

end CircuitHub

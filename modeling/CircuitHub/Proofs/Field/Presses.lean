import CircuitHub.Proofs.Field.Columns
import CircuitHub.Proofs.Field.Vertical
import Mathlib.Logic.Function.Iterate

/-!
# Up and down to the end

A cursor that goes up comes nearer to the beginning of the text, and one that goes down to its end.
This is not plain on the way up: the end of the row above may be the beginning of the row of the
cursor, and there the cursor may stand already. But then it is in column zero, and as the row above
takes up columns, its end is not the place to go to (`Row.offsetAt_lt`).

So a key leads to the last row in its direction, and this does not take many presses. On the way
down each press leads at least one row further. On the way up the cursor may stay in its own row, but
it does so only once: it then stands at the beginning of the row, from where each press leads one row
up (`Row.rank_locate_offsetAt_lt`).

* `Field.scroll_advances`: what a key does at the end and before it, and how often it is pressed
  until it gets there.
-/

namespace CircuitHub

/-- If each step lowers a rank as long as the end is not reached, some steps lead to the end. -/
theorem exists_iterate {α : Type} {step : α → α} {inv done : α → Prop} (rank : α → Nat)
    (hstep : ∀ a, inv a → ¬done a → inv (step a) ∧ rank (step a) < rank a) {a : α} (ha : inv a) :
    ∃ n ≤ rank a, inv (step^[n] a) ∧ done (step^[n] a) := by
  induction hrank : rank a using Nat.strong_induction_on generalizing a with
  | _ m ih =>
    by_cases hdone : done a
    · exact ⟨0, Nat.zero_le m, ha, hdone⟩
    · obtain ⟨hinv, hlt⟩ := hstep a ha hdone
      obtain ⟨n, hn, hend⟩ := ih _ (hrank ▸ hlt) hinv rfl
      exact ⟨n + 1, by omega, hend⟩

namespace Row

variable {measure : Char → Nat} {rows : List Row} {r s : Row} {i cursor : Nat}

/-- The place in the row above is before the cursor. -/
theorem offsetAt_lt (h : rows.IsChain (Follows measure)) (t : Text) (hr : rows[i]? = some r)
    (hs : rows[i + 1]? = some s) (hstart : s.start ≤ cursor) :
    offsetAt measure rows t i (columns measure (s.text.takeBytes (cursor - s.start))) < cursor := by
  have hfollows := follows_of_isChain h hr hs
  have hle := hfollows.stop_le
  rcases offsetAt_cases measure t hr (columns measure (s.text.takeBytes (cursor - s.start))) with
    ⟨hstop, hcolumns⟩ | ⟨-, hlt, -⟩
  · rw [hstop]
    rcases Nat.lt_or_eq_of_le hstart with hlt | rfl
    · omega
    · -- At the beginning of its row the cursor is in no column, but the row above has some.
      rw [Nat.sub_self, Text.takeBytes_zero] at hcolumns
      rcases hfollows with ⟨-, hpos⟩ | hbreak
      · exact absurd hcolumns (Nat.not_le_of_lt hpos)
      · omega
  · omega

theorem start_le_offsetAt (t : Text) (hr : rows[i]? = some r) (column : Nat) :
    r.start ≤ offsetAt measure rows t i column := by
  rcases offsetAt_cases measure t hr column with ⟨hstop, -⟩ | ⟨hstart, -, -⟩
  · exact hstop ▸ r.start_le_stop
  · exact hstart

/-- The presses that may be needed on the way up: one for each row above, and one to come to the
    beginning of a row. -/
def rank (cell : Nat × Nat) : Nat := cell.1 + min cell.2 1

theorem rank_locate_offsetAt_lt (h : rows.IsChain (Follows measure)) (t : Text)
    (hi : i < rows.length) (column : Nat) :
    rank (locate measure rows (offsetAt measure rows t i column)) < rank (i + 1, column) := by
  by_cases hin : EndsBefore measure rows i column
  · -- The cursor stays in its row, which it can do only if it comes from some column.
    rw [locate_offsetAt_of_endsBefore h hin, rank, rank]
    obtain ⟨r, s, hr, hs, hbreak, hcolumns⟩ := hin
    rcases follows_of_isChain h hr hs with ⟨-, hpos⟩ | hgap <;> omega
  · have hr : rows[i]? = some rows[i] := List.getElem?_eq_getElem hi
    have hle : 0 + columns measure (takeColumns measure column 0 rows[i].text) ≤ column :=
      columns_takeColumns_le (Nat.zero_le column) _
    rw [locate_offsetAt_of_not_endsBefore h hr hin, rank, rank]
    omega

theorem le_locate_offsetAt (h : rows.IsChain (Follows measure)) (t : Text) (hi : i < rows.length)
    (column : Nat) : i ≤ (locate measure rows (offsetAt measure rows t i column)).1 := by
  by_cases hin : EndsBefore measure rows i column
  · rw [locate_offsetAt_of_endsBefore h hin]
    exact Nat.le_succ i
  · rw [locate_offsetAt_of_not_endsBefore h (List.getElem?_eq_getElem hi) hin]

end Row

namespace Field

variable {f : Field} {i : Nat}

/-- The cursor of a field is in some row, which it has reached while the next one has not begun. -/
theorem exists_row (f : Field) :
    ∃ i r, (f.rows f.width)[i]? = some r ∧ r.start ≤ f.cursor ∧
      (∀ s, (f.rows f.width)[i + 1]? = some s → f.cursor < s.start) ∧
      f.cursorCell f.width =
        (i, Row.columns charWidth (r.text.takeBytes (f.cursor - r.start))) := by
  obtain ⟨r, below, hrows, hstart⟩ := (Row.covers_ofText charWidth f.width f.text).start_eq
  have hfirst : (f.rows f.width)[0]? = some r := by
    rw [rows, hrows]
    rfl
  exact Row.exists_locate_eq (Row.isChain_ofText charWidth f.width f.text) hfirst
    (hstart ▸ Nat.zero_le f.cursor)

theorem cursorCell_lt_length (f : Field) :
    (f.cursorCell f.width).1 < (f.rows f.width).length := by
  obtain ⟨i, r, hr, -, -, hcell⟩ := f.exists_row
  rw [hcell]
  exact (List.getElem?_eq_some_iff.1 hr).1

theorem cursor_toRow_lt (hrow : (f.cursorCell f.width).1 = i + 1) :
    (f.toRow i).cursor < f.cursor := by
  obtain ⟨j, s, hs, hstart, -, hcell⟩ := f.exists_row
  rw [hcell] at hrow
  obtain rfl : j = i + 1 := hrow
  have hi : i < (f.rows f.width).length := Nat.lt_of_succ_lt (List.getElem?_eq_some_iff.1 hs).1
  rw [toRow, hcell]
  exact Row.offsetAt_lt (Row.isChain_ofText charWidth f.width f.text) f.text
    (List.getElem?_eq_getElem hi) hs hstart

theorem lt_cursor_toRow (hrow : (f.cursorCell f.width).1 + 1 < (f.rows f.width).length) :
    f.cursor < (f.toRow ((f.cursorCell f.width).1 + 1)).cursor := by
  obtain ⟨i, r, -, -, hnext, hcell⟩ := f.exists_row
  rw [hcell] at hrow
  have hs := List.getElem?_eq_getElem hrow
  rw [toRow, hcell]
  exact Nat.lt_of_lt_of_le (hnext _ hs) (Row.start_le_offsetAt f.text hs _)

theorem moveTo_of_ne {cursor : Nat} (h : cursor ≠ f.cursor) :
    f.moveTo cursor = ({ f with cursor }, some .edited) := if_neg h

/-! ## One press -/

/-- The cursor is in the first row. -/
def InFirstRow (f : Field) : Prop := (f.cursorCell f.width).1 = 0

/-- The cursor is in the last row. -/
def InLastRow (f : Field) : Prop := (f.cursorCell f.width).1 + 1 = (f.rows f.width).length

theorem handle_scrollUp_of_inFirstRow (hf : f.isSingleLine = false) (h : f.InFirstRow) :
    f.handle .scrollUp = (f, none) := by
  have hup : f.handle .scrollUp = f.moveVertically false := if_neg (by simp [hf])
  rw [InFirstRow, cursorCell] at h
  rw [hup]
  simp [moveVertically, h]

theorem handle_scrollDown_of_inLastRow (hf : f.isSingleLine = false) (h : f.InLastRow) :
    f.handle .scrollDown = (f, none) := by
  have hdown : f.handle .scrollDown = f.moveVertically true := if_neg (by simp [hf])
  rw [InLastRow, cursorCell] at h
  rw [hdown]
  simp [moveVertically, h]

theorem handle_scrollUp_of_not_inFirstRow (hf : f.isSingleLine = false) (h : ¬f.InFirstRow) :
    ∃ cursor < f.cursor, f.handle .scrollUp = ({ f with cursor }, some .edited) := by
  obtain ⟨i, hi⟩ := Nat.exists_eq_succ_of_ne_zero h
  have hlt := cursor_toRow_lt hi
  exact ⟨_, hlt, (handle_scrollUp_eq hf hi).trans (moveTo_of_ne (Nat.ne_of_lt hlt))⟩

theorem handle_scrollDown_of_not_inLastRow (hf : f.isSingleLine = false) (h : ¬f.InLastRow) :
    ∃ cursor, f.cursor < cursor ∧ f.handle .scrollDown = ({ f with cursor }, some .edited) := by
  have hrow := Nat.lt_of_le_of_ne f.cursorCell_lt_length h
  have hlt := lt_cursor_toRow hrow
  exact ⟨_, hlt, (handle_scrollDown_eq hf hrow).trans (moveTo_of_ne (Nat.ne_of_gt hlt))⟩

/-! ## Several presses -/

/-- The field after a key has been pressed some times. -/
def press (f : Field) (e : Event) (n : Nat) : Field := (fun f => (f.handle e).1)^[n] f

theorem rank_handle_scrollUp_lt (hf : f.isSingleLine = false) (h : ¬f.InFirstRow) :
    Row.rank ((f.handle .scrollUp).1.cursorCell f.width) < Row.rank (f.cursorCell f.width) := by
  obtain ⟨i, hi⟩ := Nat.exists_eq_succ_of_ne_zero h
  have hlt : i < (f.rows f.width).length := Nat.lt_of_succ_lt (Row.locate_lt_length hi)
  rw [handle_scrollUp hf hi, ← Prod.eta (f.cursorCell f.width), hi]
  exact Row.rank_locate_offsetAt_lt (Row.isChain_ofText charWidth f.width f.text) f.text hlt _

theorem lt_handle_scrollDown (hf : f.isSingleLine = false) (h : ¬f.InLastRow) :
    (f.cursorCell f.width).1 < ((f.handle .scrollDown).1.cursorCell f.width).1 := by
  have hrow := Nat.lt_of_le_of_ne f.cursorCell_lt_length h
  rw [handle_scrollDown hf hrow]
  exact Row.le_locate_offsetAt (Row.isChain_ofText charWidth f.width f.text) f.text hrow _

/-- The first row is reached with at most one press more than there are rows above. -/
theorem exists_press_scrollUp (hf : f.isSingleLine = false) :
    ∃ n ≤ (f.cursorCell f.width).1 + 1,
      (∃ cursor, f.press .scrollUp n = { f with cursor }) ∧ (f.press .scrollUp n).InFirstRow := by
  have hstep (g : Field) (hg : ∃ cursor, g = { f with cursor }) (hend : ¬g.InFirstRow) :
      (∃ cursor, (g.handle .scrollUp).1 = { f with cursor }) ∧
        Row.rank ((g.handle .scrollUp).1.cursorCell f.width) <
          Row.rank (g.cursorCell f.width) := by
    obtain ⟨cursor, rfl⟩ := hg
    have hlt := rank_handle_scrollUp_lt (f := { f with cursor }) hf hend
    obtain ⟨cursor', -, hpress⟩ :=
      handle_scrollUp_of_not_inFirstRow (f := { f with cursor }) hf hend
    exact ⟨⟨cursor', by rw [hpress]⟩, hlt⟩
  obtain ⟨n, hn, hend⟩ := exists_iterate (fun g : Field => Row.rank (g.cursorCell f.width)) hstep
    ⟨f.cursor, rfl⟩
  have hrank : Row.rank (f.cursorCell f.width) ≤ (f.cursorCell f.width).1 + 1 :=
    Nat.add_le_add_left (Nat.min_le_right _ _) _
  exact ⟨n, hn.trans hrank, hend⟩

/-- The last row is reached with at most one press for each row below. -/
theorem exists_press_scrollDown (hf : f.isSingleLine = false) :
    ∃ n ≤ (f.rows f.width).length - ((f.cursorCell f.width).1 + 1),
      (∃ cursor, f.press .scrollDown n = { f with cursor }) ∧
        (f.press .scrollDown n).InLastRow := by
  have hstep (g : Field) (hg : ∃ cursor, g = { f with cursor }) (hend : ¬g.InLastRow) :
      (∃ cursor, (g.handle .scrollDown).1 = { f with cursor }) ∧
        (f.rows f.width).length - (((g.handle .scrollDown).1.cursorCell f.width).1 + 1) <
          (f.rows f.width).length - ((g.cursorCell f.width).1 + 1) := by
    obtain ⟨cursor, rfl⟩ := hg
    have hlt := lt_handle_scrollDown (f := { f with cursor }) hf hend
    obtain ⟨cursor', -, hpress⟩ :=
      handle_scrollDown_of_not_inLastRow (f := { f with cursor }) hf hend
    have hbelow := Nat.lt_of_le_of_ne (cursorCell_lt_length { f with cursor }) hend
    refine ⟨⟨cursor', by rw [hpress]⟩, ?_⟩
    exact Nat.sub_lt_sub_left hbelow (Nat.succ_lt_succ hlt)
  exact exists_iterate
    (fun g : Field => (f.rows f.width).length - ((g.cursorCell f.width).1 + 1)) hstep
    ⟨f.cursor, rfl⟩

/-- Whatever the text, the width and the cursor of a field of several rows: up and down bring the
    cursor nearer to the beginning and to the end of the text until it is in the first and in the
    last row, and there they change nothing. Few presses lead there. -/
theorem scroll_advances (hf : f.isSingleLine = false) :
    (f.InFirstRow → f.handle .scrollUp = (f, none)) ∧
      (¬f.InFirstRow →
        ∃ cursor < f.cursor, f.handle .scrollUp = ({ f with cursor }, some .edited)) ∧
      (f.InLastRow → f.handle .scrollDown = (f, none)) ∧
      (¬f.InLastRow →
        ∃ cursor, f.cursor < cursor ∧ f.handle .scrollDown = ({ f with cursor }, some .edited)) ∧
      (∃ n ≤ (f.cursorCell f.width).1 + 1,
        (∃ cursor, f.press .scrollUp n = { f with cursor }) ∧ (f.press .scrollUp n).InFirstRow) ∧
      ∃ n ≤ (f.rows f.width).length - ((f.cursorCell f.width).1 + 1),
        (∃ cursor, f.press .scrollDown n = { f with cursor }) ∧
          (f.press .scrollDown n).InLastRow :=
  ⟨handle_scrollUp_of_inFirstRow hf, handle_scrollUp_of_not_inFirstRow hf,
    handle_scrollDown_of_inLastRow hf, handle_scrollDown_of_not_inLastRow hf,
    exists_press_scrollUp hf, exists_press_scrollDown hf⟩

/-- A field that was drawn with one column, in which the first row is a character of two columns and
    the second one begins with a mark that takes up none. -/
def marked : Field :=
  (((empty [] []).setText ['電', '\u0301', 'a']).draw (.blank 5 4) ⟨0, 0, 5, 4⟩).1

theorem scroll_advances_marked :
    marked.isSingleLine = false ∧ marked.cursorCell marked.width = (1, 1) ∧ marked.cursor = 6 ∧
      (∃ cursor < 6, marked.handle .scrollUp = ({ marked with cursor }, some .edited)) ∧
      marked.handle .scrollDown = (marked, none) ∧
      ∃ n ≤ 2, (marked.press .scrollUp n).InFirstRow := by
  have hf : marked.isSingleLine = false := by decide +kernel
  have hcell : marked.cursorCell marked.width = (1, 1) := by decide +kernel
  have hcursor : marked.cursor = 6 := by decide +kernel
  have hlength : (marked.rows marked.width).length = 2 := by decide +kernel
  obtain ⟨-, hup, hlast, -, ⟨n, hn, -, hfirst⟩, -⟩ := scroll_advances hf
  rw [hcell] at hn
  refine ⟨hf, hcell, hcursor, ?_, hlast ?_, n, hn, hfirst⟩
  · rw [← hcursor]
    exact hup fun h => by rw [InFirstRow, hcell] at h; exact nomatch h
  · rw [InLastRow, hcell, hlength]

end Field

end CircuitHub

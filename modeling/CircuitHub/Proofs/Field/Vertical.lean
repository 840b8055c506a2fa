import CircuitHub.Field.Draw
import CircuitHub.Proofs.Field.Breaks
import CircuitHub.Proofs.Field.Cuts

/-!
# One row up or down

A cursor that goes up or down keeps its column, as far as the row that it goes to has this column
(`Field.GoesTo`). It always goes to a place of that row, be it the end of it. But where the line
goes on in the next row, the end of a row is already the beginning of that one: there a cursor that
comes from a column behind all of the row is not found in the row that it goes to. On its way up it
stays in its own row (`Field.not_above_full`), and on its way down it leaves out one.

* `Field.scroll_goesTo`: wherever the cursor is, it goes up to the row above and down to the row
  below.
-/

namespace CircuitHub

/-- A row below the first in which a cursor is found is one of the rows. -/
theorem Row.locate_lt_length {measure : Char → Nat} {rows : List Row} {cursor i : Nat}
    (h : (locate measure rows cursor).1 = i + 1) : i + 1 < rows.length := by
  rw [locate] at h
  split at h
  · rename_i row hrow
    exact h ▸ (List.getElem?_eq_some_iff.1 hrow).1
  · cases h

namespace Field

variable {f : Field}

@[simp] theorem moveTo_fst (f : Field) (cursor : Nat) :
    (f.moveTo cursor).1 = { f with cursor } := by
  rw [moveTo]
  split
  · rename_i hsame
    rw [hsame]
  · rfl

/-- The field with the cursor at a row, as close to its column as there. -/
def toRow (f : Field) (i : Nat) : Field :=
  { f with
    cursor := Row.offsetAt charWidth (f.rows f.width) f.text i (f.cursorCell f.width).2 }

theorem handle_scrollUp_eq (hf : f.isSingleLine = false) {i : Nat}
    (hrow : (f.cursorCell f.width).1 = i + 1) :
    f.handle .scrollUp = f.moveTo (f.toRow i).cursor := by
  have hup : f.handle .scrollUp = f.moveVertically false :=
    if_neg (by simp [hf])
  rw [cursorCell] at hrow
  rw [hup]
  simp [moveVertically, hrow, toRow, cursorCell]

theorem handle_scrollDown_eq (hf : f.isSingleLine = false)
    (hrow : (f.cursorCell f.width).1 + 1 < (f.rows f.width).length) :
    f.handle .scrollDown = f.moveTo (f.toRow ((f.cursorCell f.width).1 + 1)).cursor := by
  have hdown : f.handle .scrollDown = f.moveVertically true :=
    if_neg (by simp [hf])
  rw [cursorCell] at hrow
  rw [hdown]
  simp [moveVertically, hrow, toRow, cursorCell]

theorem handle_scrollUp (hf : f.isSingleLine = false) {i : Nat}
    (hrow : (f.cursorCell f.width).1 = i + 1) : (f.handle .scrollUp).1 = f.toRow i := by
  rw [handle_scrollUp_eq hf hrow, moveTo_fst]
  rfl

theorem handle_scrollDown (hf : f.isSingleLine = false)
    (hrow : (f.cursorCell f.width).1 + 1 < (f.rows f.width).length) :
    (f.handle .scrollDown).1 = f.toRow ((f.cursorCell f.width).1 + 1) := by
  rw [handle_scrollDown_eq hf hrow, moveTo_fst]
  rfl

/-- In the second field, the cursor has gone to the row `i` of the first. -/
structure GoesTo (f f' : Field) (i : Nat) : Prop where
  /-- It is at a place of this row. -/
  within : ∃ row, (f.rows f.width)[i]? = some row ∧ row.start ≤ f'.cursor ∧ f'.cursor ≤ row.stop
  /-- It is found in this row, unless its line goes on and its columns end before that of the
      cursor. -/
  found_iff : (f'.cursorCell f'.width).1 = i ↔
    ¬Row.EndsBefore charWidth (f.rows f.width) i (f.cursorCell f.width).2
  /-- Otherwise it is found at the beginning of the next row. -/
  passed : Row.EndsBefore charWidth (f.rows f.width) i (f.cursorCell f.width).2 →
    f'.cursorCell f'.width = (i + 1, 0)

theorem goesTo_toRow {i : Nat} (hi : i < (f.rows f.width).length) : f.GoesTo (f.toRow i) i := by
  obtain ⟨row, hrow⟩ : ∃ row, (f.rows f.width)[i]? = some row := ⟨_, List.getElem?_eq_getElem hi⟩
  have hchain := Row.isChain_ofText charWidth f.width f.text
  have passed (hpassed : Row.EndsBefore charWidth (f.rows f.width) i (f.cursorCell f.width).2) :
      (f.toRow i).cursorCell (f.toRow i).width = (i + 1, 0) :=
    Row.locate_offsetAt_of_endsBefore hchain hpassed
  refine ⟨⟨row, hrow, ?_⟩, ⟨fun hfound hpassed => ?_, fun hfound => ?_⟩, passed⟩
  · have hle := row.start_le_stop
    rcases Row.offsetAt_cases charWidth f.text hrow (f.cursorCell f.width).2 with
      ⟨hstop, -⟩ | ⟨hstart, hstop, -⟩
    · exact ⟨by rw [toRow, hstop]; exact hle, Nat.le_of_eq hstop⟩
    · exact ⟨hstart, Nat.le_of_lt hstop⟩
  · rw [passed hpassed] at hfound
    exact Nat.succ_ne_self i hfound
  · exact congrArg Prod.fst (Row.locate_offsetAt_of_not_endsBefore hchain hrow hfound)

/-- Whatever the text, the width and the cursor of a field of several rows: from any row but the
    first the cursor goes up to the row above, and from any row but the last down to the row
    below. -/
theorem scroll_goesTo (hf : f.isSingleLine = false) :
    (∀ i, (f.cursorCell f.width).1 = i + 1 → f.GoesTo (f.handle .scrollUp).1 i) ∧
      ((f.cursorCell f.width).1 + 1 < (f.rows f.width).length →
        f.GoesTo (f.handle .scrollDown).1 ((f.cursorCell f.width).1 + 1)) := by
  constructor
  · intro i hrow
    rw [handle_scrollUp hf hrow]
    exact goesTo_toRow (Nat.lt_of_succ_lt (Row.locate_lt_length hrow))
  · intro hrow
    rw [handle_scrollDown hf hrow]
    exact goesTo_toRow hrow

/-- The cursor stands in column three of the second row, and both rows have four columns. -/
theorem scroll_goesTo_redrawn :
    redrawn.isSingleLine = false ∧ redrawn.cursorCell redrawn.width = (1, 3) ∧
      ((redrawn.handle .scrollUp).1.cursorCell (redrawn.handle .scrollUp).1.width).1 = 0 := by
  have hf : redrawn.isSingleLine = false := by decide +kernel
  have hcell : redrawn.cursorCell redrawn.width = (1, 3) := by decide +kernel
  have hrow : (redrawn.cursorCell redrawn.width).1 = 0 + 1 := by rw [hcell]
  refine ⟨hf, hcell, ((scroll_goesTo hf).1 0 hrow).found_iff.2 ?_⟩
  rintro ⟨above, below, habove, -, -, hcolumns⟩
  have hfirst : (redrawn.rows redrawn.width)[0]? = some ⟨0, ['電', '阻']⟩ := by decide +kernel
  obtain rfl : (⟨0, ['電', '阻']⟩ : Row) = above := by simpa [hfirst] using habove
  rw [hcell] at hcolumns
  exact absurd hcolumns (by decide +kernel)

/-- A field that was drawn with one column, and that holds two characters before its cursor. -/
def narrow : Field := (((empty [] []).setText ['a', 'b']).draw (.blank 5 4) ⟨0, 0, 5, 4⟩).1

theorem reachable_narrow : Reachable narrow :=
  .step (.step (.empty [] []) (.setText _ _)) (.draw _ _ _)

/-- The cursor is behind `b`, and goes up to the end of the row of `a`; but there begins the row of
    `b`. -/
theorem not_above_full :
    Reachable narrow ∧ narrow.isSingleLine = false ∧ narrow.cursorCell narrow.width = (1, 1) ∧
      (narrow.handle .scrollUp).1.cursor = 1 ∧
      (narrow.handle .scrollUp).1.cursorCell (narrow.handle .scrollUp).1.width = (1, 0) :=
  ⟨reachable_narrow, by decide +kernel, by decide +kernel, by decide +kernel, by decide +kernel⟩

end Field

end CircuitHub

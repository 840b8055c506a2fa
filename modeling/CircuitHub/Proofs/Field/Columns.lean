import CircuitHub.Proofs.Field.Wrapping

/-!
# The column of a cursor

A cursor that is found in the rows of a text stands in the row where it is found, and its column is
what the row takes up before it (`Row.exists_row_of_locate`). If one looks for the cursor at that
row and column, all that comes before the cursor has its place, and so have the characters after it
that take up no columns; at any other character the search ends. Finding a cursor and looking for it
are thus inverse to each other but for such characters.

* `Row.offsetAt_locate`: where one looks for a cursor that has been found.
-/

namespace CircuitHub.Row

variable {measure : Char → Nat} {width column used i cursor : Nat} {t : Text}

theorem columns_append (measure : Char → Nat) (a b : Text) :
    columns measure (a ++ b) = columns measure a + columns measure b := by
  rw [columns, List.map_append, total_append]
  rfl

/-! ## The text before a column -/

/-- A beginning that takes up no more than the columns is taken as a whole. -/
theorem takeColumns_append {a : Text} (h : used + columns measure a ≤ column) (b : Text) :
    takeColumns measure column used (a ++ b) =
      a ++ takeColumns measure column (used + columns measure a) b := by
  induction a generalizing used with
  | nil => rfl
  | cons c a ih =>
    rw [columns_cons] at h ⊢
    rw [List.cons_append, takeColumns, if_neg (by omega), ih (by omega), Nat.add_assoc,
      List.cons_append]

/-- When all columns are used, only characters are taken that take up none. -/
theorem takeColumns_self (measure : Char → Nat) (column : Nat) (t : Text) :
    takeColumns measure column column t = t.takeWhile (measure · = 0) := by
  induction t with
  | nil => rfl
  | cons c t ih =>
    rw [takeColumns, List.takeWhile_cons]
    rcases Nat.eq_zero_or_pos (measure c) with hc | hc
    · simp [hc, ih]
    · simp [hc, Nat.ne_of_gt hc]

/-- What is taken has its place in the columns. -/
theorem columns_takeColumns_le (h : used ≤ column) (t : Text) :
    used + columns measure (takeColumns measure column used t) ≤ column := by
  induction t generalizing used with
  | nil => exact h
  | cons c t ih =>
    rw [takeColumns]
    split
    · exact h
    · rw [columns_cons, ← Nat.add_assoc]
      exact ih (by omega)

/-! ## The text before a cursor -/

/-- A cursor of a text stands in the row where it is found, in the column of what stands before it
    there. -/
theorem exists_row_of_locate (hcursor : t.HasCursor cursor)
    (hcell : locate measure (ofText measure width t) cursor = (i, column)) :
    ∃ row before after, (ofText measure width t)[i]? = some row ∧ row.text = before ++ after ∧
      cursor = row.start + before.byteSize ∧ column = columns measure before := by
  obtain ⟨row, hrow, hstart, hstop⟩ :=
    (covers_ofText measure width t).exists_row (Nat.zero_le cursor) hcursor.le_byteSize
  have hin : row.StandsIn 0 t := standsIn_of_mem_ofText (List.mem_of_getElem? hrow)
  obtain ⟨before, after, htext, hc⟩ := hin.exists_append hcursor hstart hstop
  rw [locate] at hcell
  simp only [hrow, Prod.mk.injEq] at hcell
  obtain ⟨rfl, rfl⟩ := hcell
  refine ⟨row, before, after, hrow, htext, hc, ?_⟩
  rw [hc, Nat.add_sub_cancel_left, htext, Text.takeBytes_append_left]

/-- Where a cursor of a text has been found, one finds it again at its column, or behind it as many
    characters as take up no columns. -/
theorem offsetAt_locate (hcursor : t.HasCursor cursor)
    (hcell : locate measure (ofText measure width t) cursor = (i, column)) :
    ∃ row before after, (ofText measure width t)[i]? = some row ∧
      row.start ≤ cursor ∧ cursor ≤ row.stop ∧
      row.text = before ++ after ∧ cursor = row.start + before.byteSize ∧
      offsetAt measure (ofText measure width t) t i column =
        cursor + Text.byteSize (after.takeWhile (measure · = 0)) ∧
      (offsetAt measure (ofText measure width t) t i column = cursor ↔
        ∀ c ∈ after.head?, 0 < measure c) := by
  obtain ⟨row, before, after, hrow, htext, hc, rfl⟩ := exists_row_of_locate hcursor hcell
  have hoffset : offsetAt measure (ofText measure width t) t i (columns measure before) =
      cursor + Text.byteSize (after.takeWhile (measure · = 0)) := by
    simp only [offsetAt, hrow, htext]
    rw [takeColumns_append (Nat.le_of_eq (Nat.zero_add _)), Nat.zero_add, takeColumns_self,
      Text.byteSize_append, hc, Nat.add_assoc]
  refine ⟨row, before, after, hrow, ?_, ?_, htext, hc, hoffset, ?_⟩
  · omega
  · rw [stop, htext, Text.byteSize_append]
    omega
  · rw [hoffset, Nat.add_eq_left, Text.byteSize_eq_zero]
    cases after with
    | nil => simp
    | cons c after => simp [List.takeWhile_cons, Nat.pos_iff_ne_zero]

/-- Between `e` and its accent the cursor is in column one, and so is the end of the row behind the
    accent; but there begins the row of `b`. -/
theorem offsetAt_locate_accent :
    Text.HasCursor ['e', '\u0301', 'b'] 1 ∧
      locate charWidth (ofText charWidth 1 ['e', '\u0301', 'b']) 1 = (0, 1) ∧
      offsetAt charWidth (ofText charWidth 1 ['e', '\u0301', 'b']) ['e', '\u0301', 'b'] 0 1 = 3 := by
  have hcursor : Text.HasCursor ['e', '\u0301', 'b'] 1 := by decide
  have hcell : locate charWidth (ofText charWidth 1 ['e', '\u0301', 'b']) 1 = (0, 1) := by
    decide +kernel
  have hrow : (ofText charWidth 1 ['e', '\u0301', 'b'])[0]? = some ⟨0, ['e', '\u0301']⟩ := by
    decide +kernel
  obtain ⟨row, before, after, hrow', -, -, htext, hc, hoffset, -⟩ := offsetAt_locate hcursor hcell
  obtain rfl : ⟨0, ['e', '\u0301']⟩ = row := by simpa [hrow] using hrow'
  rw [Nat.zero_add] at hc
  obtain ⟨rfl, rfl⟩ := Text.append_inj_of_byteSize (a := ['e']) (b := ['\u0301']) htext hc
  exact ⟨hcursor, hcell, hoffset.trans (by decide +kernel)⟩

end CircuitHub.Row

import CircuitHub.Proofs.Field.Wrapping
import CircuitHub.Proofs.Text.Scan

/-!
# Where rows follow each other

A row follows another one in two ways (`Row.Follows`). Where a line is broken, it begins just where
the other ends, which has taken up columns by then; and after a line break it begins one byte
further. So every row begins below the one before it, and a cursor is in the row that it has reached
while the next one has not begun (`Row.locate_eq`).

The end of a row is therefore a cursor in this row only if the line ends there. If the line goes on,
it is the first cursor in the next row. A column that lies behind all of a row leads to the end of
the row, and then down to the next one where the line goes on
(`Row.locate_offsetAt_of_endsBefore`).

* `Row.isChain_ofText`: the rows of a text follow each other.
-/

namespace CircuitHub.Row

variable {measure : Char → Nat} {width : Nat} {t : Text} {rows : List Row} {r s : Row}

/-- The second row follows the first: the line goes on, and some columns of it are taken up, or
    another line begins. -/
def Follows (measure : Char → Nat) (r s : Row) : Prop :=
  (s.start = r.stop ∧ 0 < columns measure r.text) ∨ s.start = r.stop + 1

theorem start_le_stop (r : Row) : r.start ≤ r.stop := Nat.le_add_right _ _

/-- A row that takes up columns holds something. -/
theorem start_lt_stop (h : 0 < columns measure r.text) : r.start < r.stop := by
  have hne : r.text ≠ [] := by
    rintro hnil
    rw [hnil] at h
    exact Nat.lt_irrefl 0 h
  have := Nat.pos_of_ne_zero (mt Text.byteSize_eq_zero.1 hne)
  rw [stop]
  omega

theorem Follows.stop_le (h : Follows measure r s) : r.stop ≤ s.start := by
  rcases h with ⟨hs, -⟩ | hs <;> omega

theorem Follows.start_lt (h : Follows measure r s) : r.start < s.start := by
  rcases h with ⟨hs, hcolumns⟩ | hs
  · exact hs ▸ start_lt_stop hcolumns
  · have := r.start_le_stop
    omega

/-! ## Rows of a text -/

theorem Wraps.follows (h : Wraps measure width r s) : Follows measure r s := .inl ⟨h.1, h.2.1⟩

theorem BreaksIn.follows (h : BreaksIn t r s) : Follows measure r s := by
  obtain ⟨before, after, -, hstop, hstart⟩ := Text.exists_append_of_between? h
  rw [Text.byteSize_append, ← hstop] at hstart
  exact .inr hstart

/-- The rows of a text follow each other. -/
theorem isChain_ofText (measure : Char → Nat) (width : Nat) (t : Text) :
    (ofText measure width t).IsChain (Follows measure) :=
  (wraps_or_breaksIn_ofText measure width t).imp fun _ _ h => h.elim Wraps.follows BreaksIn.follows

/-! ## The row of a cursor -/

variable {i cursor column : Nat}

theorem follows_of_isChain (h : rows.IsChain (Follows measure)) (hr : rows[i]? = some r)
    (hs : rows[i + 1]? = some s) : Follows measure r s := by
  obtain ⟨_, rfl⟩ := List.getElem?_eq_some_iff.1 hr
  obtain ⟨hlt, rfl⟩ := List.getElem?_eq_some_iff.1 hs
  exact h.getElem i hlt

/-- The rows that a cursor has reached are those that begin at it or before it. -/
theorem lt_length_reached_iff (h : rows.IsChain (Follows measure)) (hr : rows[i]? = some r) :
    i < (rows.takeWhile (·.start ≤ cursor)).length ↔ r.start ≤ cursor := by
  have hbelow : rows.Pairwise fun r s => r.start < s.start :=
    (h.imp fun _ _ hf => hf.start_lt).pairwise
  have hmono : rows.Pairwise fun r s =>
      decide (s.start ≤ cursor) = true → decide (r.start ≤ cursor) = true :=
    hbelow.imp fun hlt hs => by
      rw [decide_eq_true_eq] at hs ⊢
      omega
  rw [lt_length_takeWhile_iff hmono hr, decide_eq_true_eq]

/-- A cursor is in the row that it has reached while the next one has not begun. -/
theorem locate_eq (h : rows.IsChain (Follows measure)) (hr : rows[i]? = some r)
    (hstart : r.start ≤ cursor) (hnext : ∀ s, rows[i + 1]? = some s → cursor < s.start) :
    locate measure rows cursor = (i, columns measure (r.text.takeBytes (cursor - r.start))) := by
  have hreached := (lt_length_reached_iff h hr).2 hstart
  have hlast : (rows.takeWhile (·.start ≤ cursor)).length ≤ i + 1 := by
    rw [← Nat.not_lt]
    intro hlt
    obtain ⟨s, hs⟩ : ∃ s, rows[i + 1]? = some s := ⟨_, List.getElem?_eq_getElem
      (Nat.lt_of_lt_of_le hlt (List.takeWhile_sublist _).length_le)⟩
    rw [lt_length_reached_iff h hs] at hlt
    exact Nat.not_le_of_lt (hnext s hs) hlt
  have hindex : (rows.takeWhile (·.start ≤ cursor)).length - 1 = i := by omega
  simp only [locate, hindex, hr]

/-- Each cursor that has reached the first row is in some row. -/
theorem exists_locate_eq (h : rows.IsChain (Follows measure)) (hr : rows[0]? = some r)
    (hstart : r.start ≤ cursor) :
    ∃ i r, rows[i]? = some r ∧ r.start ≤ cursor ∧ (∀ s, rows[i + 1]? = some s → cursor < s.start) ∧
      locate measure rows cursor = (i, columns measure (r.text.takeBytes (cursor - r.start))) := by
  have hpos := (lt_length_reached_iff h hr).2 hstart
  have hle : (rows.takeWhile (·.start ≤ cursor)).length ≤ rows.length :=
    (List.takeWhile_sublist _).length_le
  obtain ⟨i, hi⟩ := Nat.exists_eq_add_one.2 hpos
  obtain ⟨s, hs⟩ : ∃ s, rows[i]? = some s := ⟨_, List.getElem?_eq_getElem (by omega)⟩
  have hreached : s.start ≤ cursor := (lt_length_reached_iff h hs).1 (by omega)
  have hnext (u : Row) (hu : rows[i + 1]? = some u) : cursor < u.start := by
    rw [← Nat.not_le, ← lt_length_reached_iff h hu]
    omega
  exact ⟨i, s, hs, hreached, hnext, locate_eq h hs hreached hnext⟩

/-! ## The row of a column -/

/-- What fits into some columns is all of a text exactly if the text takes up no more than those. -/
theorem takeColumns_eq_self_iff {used : Nat} (hused : used ≤ column) :
    takeColumns measure column used t = t ↔ used + columns measure t ≤ column := by
  induction t generalizing used with
  | nil => exact iff_of_true rfl hused
  | cons c t ih =>
    rw [takeColumns, columns_cons]
    split
    · exact iff_of_false (List.cons_ne_nil c t).symm (by omega)
    · rw [List.cons_eq_cons, ih (by omega), Nat.add_assoc]
      exact and_iff_right rfl

/-- A cursor that is looked for in a row is there, and at its end exactly if all of the row lies
    before the column. -/
theorem offsetAt_cases (measure : Char → Nat) (t : Text) (hr : rows[i]? = some r) (column : Nat) :
    (offsetAt measure rows t i column = r.stop ∧ columns measure r.text ≤ column) ∨
      (r.start ≤ offsetAt measure rows t i column ∧ offsetAt measure rows t i column < r.stop ∧
        column < columns measure r.text) := by
  obtain ⟨rest, hrest⟩ := takeColumns_isPrefix measure column 0 r.text
  have hsize := congrArg Text.byteSize hrest
  rw [Text.byteSize_append] at hsize
  have hall : takeColumns measure column 0 r.text = r.text ↔ 0 + columns measure r.text ≤ column :=
    takeColumns_eq_self_iff (Nat.zero_le column)
  rw [Nat.zero_add] at hall
  simp only [offsetAt, hr, stop]
  by_cases hcolumn : columns measure r.text ≤ column
  · rw [hall.2 hcolumn]
    exact .inl ⟨rfl, hcolumn⟩
  · -- Something of the row is left, which has a size.
    have hne : rest ≠ [] := by
      rintro rfl
      rw [List.append_nil] at hrest
      exact hcolumn (hall.1 hrest)
    have hpos := Nat.pos_of_ne_zero (mt Text.byteSize_eq_zero.1 hne)
    exact .inr ⟨by omega, by omega, Nat.not_le.1 hcolumn⟩

/-- The line of a row goes on in the next row, and all of the row lies before a column. -/
def EndsBefore (measure : Char → Nat) (rows : List Row) (i column : Nat) : Prop :=
  ∃ r s, rows[i]? = some r ∧ rows[i + 1]? = some s ∧ s.start = r.stop ∧
    columns measure r.text ≤ column

/-- A cursor that is looked for in a row is found in this row, unless the line goes on and all of
    the row lies before the column. -/
theorem locate_offsetAt_of_not_endsBefore (h : rows.IsChain (Follows measure))
    (hr : rows[i]? = some r) (hin : ¬EndsBefore measure rows i column) :
    locate measure rows (offsetAt measure rows t i column) =
      (i, columns measure (takeColumns measure column 0 r.text)) := by
  have hoffset : offsetAt measure rows t i column =
      r.start + (takeColumns measure column 0 r.text).byteSize := by
    simp only [offsetAt, hr]
  have hnext (s : Row) (hs : rows[i + 1]? = some s) :
      offsetAt measure rows t i column < s.start := by
    have hfollows := (follows_of_isChain h hr hs).stop_le
    rcases offsetAt_cases measure t hr column with ⟨hstop, hcolumns⟩ | ⟨-, hlt, -⟩
    · have hbreak : s.start ≠ r.stop := fun he => hin ⟨r, s, hr, hs, he, hcolumns⟩
      omega
    · omega
  obtain ⟨rest, hrest⟩ := takeColumns_isPrefix measure column 0 r.text
  have htaken := Text.takeBytes_append_left (takeColumns measure column 0 r.text) rest
  rw [hrest] at htaken
  rw [locate_eq h hr (hoffset ▸ Nat.le_add_right _ _) hnext, hoffset, Nat.add_sub_cancel_left,
    htaken]

/-- Otherwise it is found at the beginning of the next row. -/
theorem locate_offsetAt_of_endsBefore (h : rows.IsChain (Follows measure))
    (hin : EndsBefore measure rows i column) :
    locate measure rows (offsetAt measure rows t i column) = (i + 1, 0) := by
  obtain ⟨r, s, hr, hs, hbreak, hcolumns⟩ := hin
  have hcursor : offsetAt measure rows t i column = s.start := by
    rcases offsetAt_cases measure t hr column with ⟨hstop, -⟩ | ⟨-, -, hlt⟩
    · rw [hstop, hbreak]
    · exact absurd hcolumns (Nat.not_le_of_lt hlt)
  rw [hcursor, locate_eq h hs (Nat.le_refl s.start)
    fun u hu => (follows_of_isChain h hs hu).start_lt, Nat.sub_self, Text.takeBytes_zero]
  rfl

end CircuitHub.Row

import CircuitHub.Field.Row
import CircuitHub.Proofs.Text.Cursor
import CircuitHub.Proofs.Text.Lines

/-!
# Rows in their text

The rows of a text are cut out of it: each stands in the text as it is, at the byte where it says
that it begins (`Row.StandsIn`). A cursor that one looks for in a row is therefore always a cursor
of the text (`Row.hasCursor_offsetAt`). And the rows leave out nothing of the text but the breaks
between its lines (`Row.Covers`), so that each cursor of the text stands in one of them
(`Row.Covers.exists_row`).
-/

namespace CircuitHub

namespace Row

variable {measure : Char → Nat} {width start cursor : Nat} {t : Text} {r : Row}

/-- The row stands as it is in a text that begins at some byte. -/
def StandsIn (r : Row) (start : Nat) (t : Text) : Prop :=
  ∃ before after, t = before ++ r.text ++ after ∧ r.start = start + before.byteSize

/-- What stands in a part of a text stands in the text. -/
theorem StandsIn.within {before t : Text} (h : r.StandsIn (start + before.byteSize) t)
    (after : Text) : r.StandsIn start (before ++ t ++ after) := by
  obtain ⟨a, b, rfl, hs⟩ := h
  refine ⟨before ++ a, b ++ after, ?_, ?_⟩
  · simp only [List.append_assoc]
  · rw [hs, Text.byteSize_append, Nat.add_assoc]

theorem standsIn_of_mem_ofLine {line : Text} (h : r ∈ ofLine measure width start line) :
    r.StandsIn start line := by
  fun_induction ofLine measure width start line with
  | case1 start line row hrest =>
    obtain rfl := List.mem_singleton.1 h
    refine ⟨[], [], ?_, rfl⟩
    have hline := takeRow_append measure width 0 line
    rw [hrest] at hline
    exact hline.symm
  | case2 start line row hrest ih =>
    have hline := takeRow_append measure width 0 line
    rcases List.mem_cons.1 h with rfl | h
    · exact ⟨[], (takeRow measure width 0 line).2, hline.symm, rfl⟩
    · have := (ih h).within []
      rwa [List.append_nil, hline] at this

theorem standsIn_of_mem_ofLines {lines : List Text} (h : r ∈ ofLines measure width start lines) :
    r.StandsIn start (['\n'].intercalate lines) := by
  induction lines generalizing start with
  | nil => exact nomatch h
  | cons line lines ih =>
    have hfirst : ∀ below : Text, r.StandsIn start line → r.StandsIn start ([] ++ line ++ below) :=
      fun below hr => hr.within below
    rw [ofLines, List.mem_append] at h
    cases lines with
    | nil =>
      rw [List.intercalate_singleton]
      exact standsIn_of_mem_ofLine (h.resolve_right fun h => nomatch h)
    | cons line' lines =>
      rw [List.intercalate_cons_cons]
      rcases h with h | h
      · rw [List.append_assoc]
        exact hfirst _ (standsIn_of_mem_ofLine h)
      · -- The lines below begin after this line and its break.
        have hbelow : r.StandsIn (start + Text.byteSize (line ++ ['\n']))
            (['\n'].intercalate (line' :: lines)) := by
          rw [Text.byteSize_append, ← Nat.add_assoc]
          exact ih h
        simpa using hbelow.within []

/-- Each row of a text stands in it. -/
theorem standsIn_of_mem_ofText (h : r ∈ ofText measure width t) : r.StandsIn 0 t := by
  have := standsIn_of_mem_ofLines h
  rwa [Text.intercalate_splitLines] at this

/-- A row begins and ends between two characters. -/
theorem StandsIn.isCut (h : r.StandsIn 0 t) : t.IsCut r.start r.stop := by
  obtain ⟨before, after, rfl, hs⟩ := h
  rw [stop, hs, Nat.zero_add, ← Text.byteSize_append]
  exact Text.isCut_append before r.text after

theorem StandsIn.between?_stop (h : r.StandsIn 0 t) : t.between? r.start r.stop = some r.text := by
  obtain ⟨before, after, rfl, hs⟩ := h
  rw [stop, hs, Nat.zero_add, ← Text.byteSize_append]
  exact Text.between?_append before r.text after

/-- A cursor in a row parts the row. -/
theorem StandsIn.exists_append (h : r.StandsIn 0 t) (hc : t.HasCursor cursor)
    (hstart : r.start ≤ cursor) (hstop : cursor ≤ r.stop) :
    ∃ left right, r.text = left ++ right ∧ cursor = r.start + left.byteSize := by
  obtain ⟨before, after, ht, hs⟩ := h
  obtain ⟨left, right, rfl, rfl⟩ := hc
  rw [Nat.zero_add] at hs
  rw [stop, hs, ← Text.byteSize_append] at hstop
  rw [hs] at hstart ⊢
  -- What is left of the cursor is what stands before the row and some of the row.
  obtain ⟨part, rfl⟩ : before <+: left :=
    Text.prefix_of_byteSize_le (by rw [ht, List.append_assoc]) hstart
  obtain ⟨rest, hrest⟩ : before ++ part <+: before ++ r.text :=
    Text.prefix_of_byteSize_le ht hstop
  rw [List.append_assoc] at hrest
  exact ⟨part, rest, (List.append_cancel_left hrest).symm, Text.byteSize_append before part⟩

/-- What stands in a row before a cursor is how the row begins. -/
theorem StandsIn.between?_cursor (h : r.StandsIn 0 t) (hc : t.HasCursor cursor)
    (hstart : r.start ≤ cursor) (hstop : cursor ≤ r.stop) :
    t.between? r.start cursor = some (r.text.takeBytes (cursor - r.start)) := by
  obtain ⟨left, right, hrow, rfl⟩ := h.exists_append hc hstart hstop
  obtain ⟨before, after, rfl, hs⟩ := h
  rw [Nat.add_sub_cancel_left, hrow, Text.takeBytes_append_left, hs, Nat.zero_add,
    ← Text.byteSize_append, ← List.append_assoc before, List.append_assoc _ right]
  exact Text.between?_append before left (right ++ after)

/-- What fits into some columns is how the text begins. -/
theorem takeColumns_isPrefix (measure : Char → Nat) (column used : Nat) (t : Text) :
    takeColumns measure column used t <+: t := by
  induction t generalizing used with
  | nil => exact List.nil_prefix
  | cons c t ih =>
    rw [takeColumns]
    split
    · exact List.nil_prefix
    · exact List.cons_prefix_cons.2 ⟨rfl, ih _⟩

/-- Wherever one looks for a cursor in the rows of a text, it stands between two characters. -/
theorem hasCursor_offsetAt (t : Text) (index column : Nat) :
    t.HasCursor (offsetAt measure (ofText measure width t) t index column) := by
  rw [offsetAt]
  split
  · rename_i row hrow
    -- Before the cursor stands what is before the row, and then what of the row fits.
    obtain ⟨before, after, ht, hs⟩ := standsIn_of_mem_ofText (List.mem_of_getElem? hrow)
    obtain ⟨rest, hrest⟩ := takeColumns_isPrefix measure column 0 row.text
    refine ⟨before ++ takeColumns measure column 0 row.text, rest ++ after, ?_, ?_⟩
    · rw [List.append_assoc before, ← List.append_assoc _ rest, hrest, ← List.append_assoc]
      exact ht
    · rw [hs, Text.byteSize_append, Nat.zero_add]
  · exact Text.hasCursor_byteSize t

/-! ## The row of a cursor -/

/-- Rows that cover a text from a byte up to another: each begins where the one above it ends, or
    after the break there. -/
inductive Covers : Nat → Nat → List Row → Prop
  | last (r : Row) : Covers r.start r.stop [r]
  | above (r : Row) {start stop : Nat} {rows : List Row} :
    Covers start stop rows → start ≤ r.stop + 1 → Covers r.start stop (r :: rows)

theorem Covers.append {a b c d : Nat} {above below : List Row} (h : Covers a b above)
    (h' : Covers c d below) (hbreak : c ≤ b + 1) : Covers a d (above ++ below) := by
  induction h with
  | last r => exact .above r h' hbreak
  | above r _ hr ih => exact .above r (ih hbreak) hr

theorem covers_ofLine (measure : Char → Nat) (width start : Nat) (line : Text) :
    Covers start (start + line.byteSize) (ofLine measure width start line) := by
  fun_induction ofLine measure width start line with
  | case1 start line row hrest =>
    have hline := takeRow_append measure width 0 line
    rw [hrest, List.append_nil] at hline
    conv in line.byteSize => rw [← hline]
    exact .last ⟨start, row⟩
  | case2 start line row hrest ih =>
    have hline := congrArg Text.byteSize (takeRow_append measure width 0 line)
    rw [Text.byteSize_append, ← Nat.add_right_inj (n := start), ← Nat.add_assoc] at hline
    rw [← hline]
    exact .above ⟨start, row⟩ ih (Nat.le_succ _)

theorem covers_ofLines (measure : Char → Nat) (width start : Nat) {lines : List Text}
    (h : lines ≠ []) :
    Covers start (start + Text.byteSize (['\n'].intercalate lines))
      (ofLines measure width start lines) := by
  induction lines generalizing start with
  | nil => exact absurd rfl h
  | cons line lines ih =>
    cases lines with
    | nil =>
      rw [ofLines, ofLines, List.append_nil, List.intercalate_singleton]
      exact covers_ofLine measure width start line
    | cons line' lines =>
      have hsize : start + Text.byteSize (['\n'].intercalate (line :: line' :: lines)) =
          start + line.byteSize + 1 + Text.byteSize (['\n'].intercalate (line' :: lines)) := by
        rw [List.intercalate_cons_cons, Text.byteSize_append, Text.byteSize_append,
          ← Nat.add_assoc, ← Nat.add_assoc]
        rfl
      rw [ofLines, hsize]
      exact (covers_ofLine measure width start line).append (ih _ (List.cons_ne_nil _ _))
        (Nat.le_refl _)

/-- The rows of a text cover it. -/
theorem covers_ofText (measure : Char → Nat) (width : Nat) (t : Text) :
    Covers 0 t.byteSize (ofText measure width t) := by
  have := covers_ofLines measure (max width 1) 0 t.splitLines_ne_nil
  rwa [Text.intercalate_splitLines, Nat.zero_add] at this

theorem Covers.start_eq {a b : Nat} {rows : List Row} (h : Covers a b rows) :
    ∃ r rest, rows = r :: rest ∧ r.start = a := by
  cases h with
  | last r => exact ⟨r, [], rfl, rfl⟩
  | above r _ _ => exact ⟨r, _, rfl, rfl⟩

/-- A cursor stands in the last row that begins at it or before. -/
theorem Covers.exists_row {a b cursor : Nat} {rows : List Row} (h : Covers a b rows)
    (ha : a ≤ cursor) (hb : cursor ≤ b) :
    ∃ r, rows[(rows.takeWhile (·.start ≤ cursor)).length - 1]? = some r ∧
      r.start ≤ cursor ∧ cursor ≤ r.stop := by
  induction h with
  | last r => exact ⟨r, by simp [ha], ha, hb⟩
  | @above r start stop rows hrows hr ih =>
    obtain ⟨next, rest, rfl, rfl⟩ := hrows.start_eq
    rw [List.takeWhile_cons_of_pos (by simpa using ha), List.length_cons, Nat.add_sub_cancel]
    by_cases hnext : next.start ≤ cursor
    · -- The cursor stands in a row below this one.
      obtain ⟨s, hs, hin⟩ := ih hnext hb
      rw [List.takeWhile_cons_of_pos (by simpa using hnext), List.length_cons,
        Nat.add_sub_cancel] at hs
      refine ⟨s, ?_, hin⟩
      rwa [List.takeWhile_cons_of_pos (by simpa using hnext), List.length_cons,
        List.getElem?_cons_succ]
    · rw [List.takeWhile_cons_of_neg (by simpa using hnext)]
      exact ⟨r, rfl, ha, by omega⟩

end Row

end CircuitHub

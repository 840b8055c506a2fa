import CircuitHub.Proofs.Field.Columns
import CircuitHub.Proofs.Field.Cuts
import CircuitHub.Proofs.Screen.Cells

/-!
# The cursor on the screen

A field that is drawn moves the rows that it shows until that of the cursor is among them
(`Field.scrolled_afterDraw`). So the cursor has a row on the screen, where the text before and
behind it can be read (`Field.shows_draw`). Nor is it too far to the right: where there are columns
enough for any one character, no row takes up more than there are (`Row.Fits.columns_le`), and a
cursor behind the last of them is still before the border, as there is a space between the two.

* `Field.draw_showsCursor`: where a drawn field shows its cursor.
-/

namespace CircuitHub

namespace Row

variable {measure : Char → Nat} {width most : Nat} {t : Text}

theorem columns_le_mul_countP (h : ∀ c, measure c ≤ most) (t : Text) :
    columns measure t ≤ most * t.countP (0 < measure ·) := by
  induction t with
  | nil => exact Nat.zero_le _
  | cons c t ih =>
    rw [columns_cons, List.countP_cons]
    rcases Nat.eq_zero_or_pos (measure c) with hc | hc
    · simpa [hc] using ih
    · have hle := h c
      simp only [hc, decide_true, if_true, Nat.mul_add, Nat.mul_one]
      omega

/-- Where any one character has its place, no row is too wide. -/
theorem Fits.columns_le (h : Fits measure width t) (hmost : ∀ c, measure c ≤ most)
    (hwidth : most ≤ width) : columns measure t ≤ width := by
  rcases h with hle | hone
  · exact hle
  · have := columns_le_mul_countP hmost t
    rw [hone, Nat.mul_one] at this
    exact this.trans hwidth

end Row

namespace Field

variable {f : Field} {area : Area} {i column : Nat}

theorem lt_scrolledTo_add (firstRow row : Nat) {shown : Nat} (h : 0 < shown) :
    row < scrolledTo firstRow shown row + shown := by
  rw [scrolledTo]
  split
  · omega
  · split <;> omega

/-- What the border of a field leaves. -/
theorem panel_inner (f : Field) (hwidth : 0 < area.width) (hheight : 0 < area.height) :
    f.panel.inner area = ⟨area.x + 2, area.y + 1, area.width - 4, area.height - 2⟩ := by
  have hboxed : f.panel.isBoxed = true := rfl
  have hedge : f.panel.hasRightEdge = true := rfl
  have hcolumns : f.panel.padColumns = 1 := rfl
  have hrows : f.panel.padRows = 0 := rfl
  simp only [Panel.inner, Panel.one, hboxed, hedge, hcolumns, hrows, Bool.true_or, if_true,
    Nat.min_eq_left hwidth, Nat.min_eq_left hheight, Area.mk.injEq, true_and]
  omega

/-- The cursor of a field is at most right behind the columns that there are. -/
theorem column_le_width (hcursor : f.text.HasCursor f.cursor) {width : Nat} (hwidth : 2 ≤ width)
    (hcell : f.cursorCell width = (i, column)) : column ≤ width := by
  obtain ⟨row, before, after, hrow, htext, -, rfl⟩ := Row.exists_row_of_locate hcursor hcell
  have hfits := Row.fits_of_mem_ofText (List.mem_of_getElem? hrow)
  have hle := hfits.columns_le charWidth_le_two (by omega)
  rw [htext, Row.columns_append] at hle
  omega

/-- A row that has its place in the area is one of the lines, unless the field is empty and shows
    something else. -/
theorem getElem?_shownLines {row : Row} (hne : f.text ≠ []) (hrow : (f.rows f.width)[i]? = some row)
    (habove : f.firstRow ≤ i) (hbelow : i < f.firstRow + shownRows area.height) :
    (f.shownLines area)[i - f.firstRow]? = some (.ofSpan row.text {}) := by
  have hshows : ¬f.text.isEmpty = true := by simpa using hne
  rw [shownLines, if_neg hshows, List.getElem?_map, List.getElem?_take_of_lt (by omega),
    List.getElem?_drop, Nat.add_sub_cancel' habove, hrow]
  rfl

/-- A cursor that the area has a place for is shown there. -/
theorem shownCursor_eq (hcell : f.cursorCell f.width = (i, column)) (hwidth : 4 ≤ area.width)
    (hcolumn : column ≤ area.width - 4) (hwrap : Extent.wrap column = column)
    (hwrap' : Extent.wrap (i - f.firstRow) = i - f.firstRow) :
    f.shownCursor area = (area.x + 2 + column, area.y + 1 + (i - f.firstRow)) := by
  have hright : area.right = area.x + area.width := rfl
  simp only [shownCursor, hcell, hwrap, hwrap']
  rw [Nat.min_eq_left (by omega)]

/-- A drawn field has its rows where that of the cursor is among them. -/
theorem scrolled_afterDraw (hcell : f.cursorCell (contentWidth area) = (i, column)) :
    (f.afterDraw area).firstRow ≤ i ∧
      i < (f.afterDraw area).firstRow + shownRows area.height := by
  have hshown : 0 < shownRows area.height := Nat.lt_of_lt_of_le Nat.one_pos (Nat.le_max_right _ _)
  rw [afterDraw, hcell]
  exact ⟨scrolledTo_le _ _ hshown, lt_scrolledTo_add _ _ hshown⟩

theorem sameSize_draw (f : Field) (frame : Frame) (area : Area) :
    Grid.SameSize frame.grid (f.draw frame area).2.grid :=
  ((f.afterDraw area).panel.sameSize_draw frame.grid area).trans (Paragraph.sameSize_draw _ _ _)

/-- A line of a drawn field can be read within its border. -/
theorem shows_draw {frame : Frame} {t : Text} {k : Nat} (hwidth : 4 ≤ area.width)
    (hk : k < area.height - 2) (hwhole : frame.grid.IsWhole) (harea : area.Within frame.area)
    (hline : ((f.afterDraw area).shownLines area)[k]? = some (.ofSpan t {})) :
    (f.draw frame area).2.grid.Shows (area.x + 2) (area.y + 1 + k) (area.width - 4) t := by
  have hinner : (f.afterDraw area).panel.inner area =
      ⟨area.x + 2, area.y + 1, area.width - 4, area.height - 2⟩ :=
    panel_inner _ (by omega) (by omega)
  have hsame := (f.afterDraw area).panel.sameSize_draw frame.grid area
  rw [Frame.area, ← hsame.area_eq] at harea
  have hwithin : Area.Within ⟨area.x + 2, area.y + 1, area.width - 4, area.height - 2⟩
      ((f.afterDraw area).panel.draw frame.grid area).area := by
    simp only [Area.Within, Area.right, Area.bottom] at harea ⊢
    omega
  change (Paragraph.draw { lines := (f.afterDraw area).shownLines area } _ _).Shows _ _ _ _
  rw [hinner]
  exact Paragraph.shows_draw (hsame.isWhole_iff.2 hwhole) hwithin rfl rfl hline hk

/-- A field that has been drawn into an area of a frame shows its cursor, which is in a column of
    its row `i`. -/
structure ShowsCursor (drawn : Field) (before after : Frame) (area : Area) (row : Row)
    (i column : Nat) : Prop where
  /-- The row is one of those that the area has a place for. -/
  scrolled : drawn.firstRow ≤ i ∧ i < drawn.firstRow + (area.height - 2)
  /-- It is shown as one of the lines, unless the field is empty and shows something else. -/
  line_eq : drawn.text ≠ [] →
    (drawn.shownLines area)[i - drawn.firstRow]? = some (.ofSpan row.text {})
  /-- The frame has the size that it had. -/
  sameSize : before.grid.SameSize after.grid
  /-- Where the area belongs to the frame, the row can be read in the cells of this line, from
      behind the border and a space on. -/
  shows : drawn.text ≠ [] → before.grid.IsWhole → area.Within before.area →
    after.grid.Shows (area.x + 2) (area.y + 1 + (i - drawn.firstRow)) (area.width - 4) row.text
  /-- The panel has a place for this line. -/
  lt_height : i - drawn.firstRow < (drawn.panel.inner area).height
  /-- The cursor is shown at this line, behind the border, a space and the columns before it. -/
  cursor_eq : after.cursor? = some (area.x + 2 + column, area.y + 1 + (i - drawn.firstRow))
  /-- It is left of the border on the right, and above the one at the bottom. -/
  within : area.x + 2 + column + 1 < area.right ∧
    area.y + 1 + (i - drawn.firstRow) + 1 < area.bottom
  /-- Both numbers are extents. -/
  extents : Extent.wrap column = column ∧
    Extent.wrap (i - drawn.firstRow) = i - drawn.firstRow

/-- Whatever has been done to a field, if keys go to it and its text can be sent, and wherever there
    are six columns and three rows for it: it is drawn with its cursor in the row of the text in
    which the cursor stands, behind the columns that the row takes up before it. -/
theorem draw_showsCursor (h : Reachable f) (hfocused : f.focused = true)
    (henabled : f.disabled = false) (hwidth : 6 ≤ area.width) (hheight : 3 ≤ area.height)
    (hcolumns : area.width ≤ Extent.greatest) (hrows : area.height ≤ Extent.greatest)
    (hcell : f.cursorCell (contentWidth area) = (i, column)) (frame : Frame) :
    ∃ row before after, (f.rows (contentWidth area))[i]? = some row ∧ row.text = before ++ after ∧
      f.cursor = row.start + before.byteSize ∧ column = Row.columns charWidth before ∧
      ShowsCursor (f.draw frame area).1 frame (f.draw frame area).2 area row i column := by
  obtain ⟨row, before, after, hrow, htext, hcursor, hcolumn⟩ :=
    Row.exists_row_of_locate h.hasCursor hcell
  have hle : column ≤ area.width - 4 := column_le_width h.hasCursor (by omega) hcell
  have hshown : shownRows area.height = area.height - 2 :=
    Nat.max_eq_left (Nat.le_sub_of_add_le hheight)
  obtain ⟨habove, hbelow⟩ := scrolled_afterDraw hcell
  have hwrap : Extent.wrap column = column := Extent.wrap_eq_self (by omega)
  have hwrap' : Extent.wrap (i - (f.afterDraw area).firstRow) = i - (f.afterDraw area).firstRow :=
    Extent.wrap_eq_self (by omega)
  have hplace : (f.draw frame area).2.cursor? = some ((f.afterDraw area).shownCursor area) :=
    if_pos (by simp [isActive, afterDraw, hfocused, henabled])
  have hright : area.right = area.x + area.width := rfl
  have hbottom : area.bottom = area.y + area.height := rfl
  refine ⟨row, before, after, hrow, htext, hcursor, hcolumn, ?_⟩
  change ShowsCursor (f.afterDraw area) frame (f.draw frame area).2 area row i column
  exact
    { scrolled := ⟨habove, hshown ▸ hbelow⟩
      line_eq := fun hne => getElem?_shownLines hne hrow habove hbelow
      sameSize := f.sameSize_draw frame area
      shows := fun hne hwhole harea => shows_draw (by omega) (by omega) hwhole harea
        (getElem?_shownLines hne hrow habove hbelow)
      lt_height := by
        rw [panel_inner _ (by omega) (by omega)]
        exact Nat.sub_lt_left_of_lt_add habove (hshown ▸ hbelow)
      cursor_eq := by
        rw [hplace, shownCursor_eq hcell (by omega) hle hwrap hwrap']
      within := by omega
      extents := ⟨hwrap, hwrap'⟩ }

/-- The field has four columns for its rows, and then it is drawn where there are two, and one row.
    The cursor is in the last row behind `é`, and there it can be read. -/
theorem draw_showsCursor_narrowed :
    Reachable redrawn ∧ redrawn.cursorCell 2 = (3, 1) ∧
      (redrawn.draw (.blank 12 8) ⟨3, 2, 6, 3⟩).1.firstRow = 3 ∧
      ((redrawn.draw (.blank 12 8) ⟨3, 2, 6, 3⟩).1.shownLines ⟨3, 2, 6, 3⟩)[0]? =
        some (.ofSpan ['é'] {}) ∧
      ((redrawn.draw (.blank 12 8) ⟨3, 2, 6, 3⟩).2.grid.cell 5 3).symbol = ['é'] ∧
      (redrawn.draw (.blank 12 8) ⟨3, 2, 6, 3⟩).2.cursor? = some (6, 3) := by
  have hcell : redrawn.cursorCell (contentWidth ⟨3, 2, 6, 3⟩) = (3, 1) := by decide +kernel
  have hrow : (redrawn.rows (contentWidth ⟨3, 2, 6, 3⟩))[3]? = some ⟨9, ['é']⟩ := by decide +kernel
  have hne : redrawn.text ≠ [] := by decide +kernel
  obtain ⟨row, -, -, hrow', -, -, -, hshows⟩ := draw_showsCursor reachable_redrawn
    (by decide +kernel) (by decide +kernel) (by decide) (by decide) (by decide) (by decide) hcell
    (.blank 12 8)
  obtain rfl : ⟨9, ['é']⟩ = row := by simpa [hrow] using hrow'
  have hfirst : (redrawn.draw (.blank 12 8) ⟨3, 2, 6, 3⟩).1.firstRow = 3 :=
    Nat.le_antisymm hshows.scrolled.1 (Nat.le_of_lt_succ hshows.scrolled.2)
  have hline := hshows.line_eq hne
  have hread := hshows.shows hne (Grid.isWhole_blank 12 8)
    ⟨by decide, by decide, by decide, by decide⟩
  have hcursor := hshows.cursor_eq
  rw [hfirst] at hline hread hcursor
  have hsymbol := hread.symbol_eq [] ['é'] [] (by decide +kernel) (by decide) (by decide +kernel)
    (by decide +kernel)
  exact ⟨reachable_redrawn, hcell, hfirst, hline, hsymbol, hcursor⟩

end Field

end CircuitHub

import CircuitHub.Proofs.Field.Handled
import CircuitHub.Proofs.Field.Presses

/-!
# Rows out of sight

A field that outgrows its place is scrolled, and rows go out of sight at the top. Nothing but the
cursor brings them back: a drawing begins at the row of the cursor if that is above those shown, and
else where the drawing before began. So a field whose text has become shorter again, or which has a
larger place now, may go on hiding rows although there is a place for each of them
(`Field.not_whole_shortened`).

Which row a field begins with is told by what has been done to it (`Field.Scrolled`): rows are out
of sight exactly if the cursor has once been too far down to be seen with the first row, and since
then has never been drawn in the first row, nor has the text been replaced or sent
(`Field.Scrolled.firstRow_eq_zero_iff`).

* `Field.firstRow_draw_of_fits`: the rows that a drawing hides where there is a place for all rows.
-/

namespace CircuitHub.Field

variable {f : Field} {past : Bool} {area : Area}

theorem shownRows_pos (height : Nat) : 0 < shownRows height :=
  Nat.lt_of_lt_of_le Nat.one_pos (Nat.le_max_right _ _)

/-! ## Where a drawing begins -/

/-- A row among the first that there is a place for is never too far down. -/
theorem scrolledTo_of_lt (firstRow : Nat) {shown row : Nat} (h : row < shown) :
    scrolledTo firstRow shown row = min firstRow row := by
  rw [scrolledTo]
  split
  · omega
  · split <;> omega

theorem scrolledTo_eq_zero_iff {firstRow shown row : Nat} (h : 0 < shown) :
    scrolledTo firstRow shown row = 0 ↔ row = 0 ∨ firstRow = 0 ∧ row < shown := by
  rw [scrolledTo]
  split
  · omega
  · split <;> omega

/-- The row of the cursor where a field is drawn. -/
def cursorRow (f : Field) (area : Area) : Nat := (f.cursorCell (contentWidth area)).1

/-- There is a place for every row of the text. -/
def Fits (f : Field) (area : Area) : Prop :=
  (f.rows (contentWidth area)).length ≤ shownRows area.height

instance (f : Field) (area : Area) : Decidable (f.Fits area) := Nat.decLe _ _

theorem Fits.cursorRow_lt (h : f.Fits area) : f.cursorRow area < shownRows area.height :=
  Nat.lt_of_lt_of_le (cursorCell_lt_length { f with width := contentWidth area }) h

/-! ## What has been done to a field -/

/-- The text has been sent. -/
def isSent : Option FieldChange → Bool
  | some (.submitted _) => true
  | _ => false

/-- A field whose text has been sent begins with the first row, and no other event scrolls. -/
theorem Handled.firstRow_eq {result : Field × Option FieldChange} (h : f.Handled result) :
    result.1.firstRow = if isSent result.2 then 0 else f.firstRow := by
  cases h <;> rfl

/-- What can come of an empty field, and whether rows have gone out of its sight: the cursor has
    been drawn too far down to be seen with the first row, and since then the text has been neither
    replaced nor sent, nor has the cursor been drawn in the first row. -/
inductive Scrolled : Bool → Field → Prop
  | empty (title placeholder : Text) : Scrolled false (.empty title placeholder)
  | withMaxRows {past : Bool} {f : Field} (n : Nat) :
    Scrolled past f → Scrolled past (f.withMaxRows n)
  | enterBreaks {past : Bool} {f : Field} :
    Scrolled past f → Scrolled past { f with enterBreaks := true }
  | focus {past : Bool} {f : Field} (focused disabled : Bool) :
    Scrolled past f → Scrolled past { f with focused, disabled }
  | setText {past : Bool} {f : Field} (t : Text) : Scrolled past f → Scrolled false (f.setText t)
  | handle {past : Bool} {f : Field} (e : Event) :
    Scrolled past f → Scrolled (past && !isSent (f.handle e).2) (f.handle e).1
  | draw {past : Bool} {f : Field} (frame : Frame) (area : Area) :
    Scrolled past f →
      Scrolled ((past || shownRows area.height ≤ f.cursorRow area) && f.cursorRow area != 0)
        (f.draw frame area).1

/-- There is nothing that can come of an empty field but this. -/
theorem Reachable.exists_scrolled (h : Reachable f) : ∃ past, Scrolled past f := by
  induction h with
  | empty title placeholder => exact ⟨false, .empty title placeholder⟩
  | step _ hs ih =>
    obtain ⟨past, ih⟩ := ih
    cases hs with
    | withMaxRows n => exact ⟨past, ih.withMaxRows n⟩
    | enterBreaks => exact ⟨past, ih.enterBreaks⟩
    | focus focused disabled => exact ⟨past, ih.focus focused disabled⟩
    | setText t => exact ⟨false, ih.setText t⟩
    | handle e => exact ⟨_, ih.handle e⟩
    | draw frame area => exact ⟨_, ih.draw frame area⟩

/-- A field begins with its first row exactly if no rows have gone out of its sight. -/
theorem Scrolled.firstRow_eq_zero_iff (h : Scrolled past f) : f.firstRow = 0 ↔ past = false := by
  induction h with
  | empty title placeholder => exact iff_of_true rfl rfl
  | withMaxRows | enterBreaks | focus => assumption
  | setText t => exact iff_of_true rfl rfl
  | @handle past f e _ ih =>
    rw [(f.handled e).firstRow_eq]
    cases isSent (f.handle e).2 with
    | true => simp
    | false => simpa using ih
  | @draw past f frame area _ ih =>
    have hscrolled : (f.draw frame area).1.firstRow =
      scrolledTo f.firstRow (shownRows area.height) (f.cursorRow area) := rfl
    rw [hscrolled, scrolledTo_eq_zero_iff (shownRows_pos _), ih]
    cases past with
    | true => simp
    | false =>
      simp only [true_and, Bool.false_or, Bool.and_eq_false_iff, decide_eq_false_iff_not,
        bne_eq_false_iff_eq, Nat.not_le]
      exact or_comm

/-! ## Where there is a place for all rows -/

/-- Whatever has been done to a field, and wherever it is drawn then with a place for each of its
    rows: rows are hidden at the top, those that were hidden before down to that of the cursor, and
    all others are shown. So all rows are shown exactly if none had gone out of sight, or if the
    cursor is in the first row. -/
theorem firstRow_draw_of_fits (h : Scrolled past f) (hfits : f.Fits area) (frame : Frame) :
    (f.draw frame area).1.firstRow = min f.firstRow (f.cursorRow area) ∧
      ((f.draw frame area).1.firstRow = 0 ↔ past = false ∨ f.cursorRow area = 0) ∧
      (f.text ≠ [] → (f.draw frame area).1.shownLines area =
        ((f.rows (contentWidth area)).drop (f.draw frame area).1.firstRow).map
          fun row => .ofSpan row.text {}) := by
  have hfirst : (f.draw frame area).1.firstRow = min f.firstRow (f.cursorRow area) :=
    scrolledTo_of_lt f.firstRow hfits.cursorRow_lt
  refine ⟨hfirst, ?_, fun hne => ?_⟩
  · rw [hfirst, ← h.firstRow_eq_zero_iff]
    omega
  · have hshows : ¬f.text.isEmpty = true := by simpa using hne
    have hplace : ((f.rows (contentWidth area)).drop (f.draw frame area).1.firstRow).length ≤
        shownRows area.height := (List.length_drop.trans_le (Nat.sub_le _ _)).trans hfits
    rw [shownLines]
    exact (if_neg hshows).trans (congrArg _ (List.take_of_length_le hplace))

/-- A field of two rows that held three lines when it was drawn, and of which the third was deleted
    then. -/
def shortened : Field :=
  let three := ((empty [] []).withMaxRows 2).setText "a\nb\nc"
  let drawn := three.draw (.blank 10 4) ⟨0, 0, 10, 4⟩
  ((drawn.1.handle .backspace).1.handle .backspace).1

theorem reachable_shortened : Reachable shortened :=
  .step (.step (.step (.step (.step (.empty [] []) (.withMaxRows _ 2)) (.setText _ _))
    (.draw _ _ _)) (.handle _ _)) (.handle _ _)

theorem scrolled_shortened : Scrolled true shortened := by
  obtain ⟨past, h⟩ := reachable_shortened.exists_scrolled
  have hfirst : shortened.firstRow ≠ 0 := by decide +kernel
  rwa [← Bool.of_not_eq_false fun hpast => hfirst (h.firstRow_eq_zero_iff.2 hpast)]

/-- The cursor is in the second of two rows, and the first one stays out of sight. -/
theorem firstRow_draw_of_fits_shortened :
    Scrolled true shortened ∧ shortened.Fits ⟨0, 0, 10, 4⟩ ∧
      (shortened.draw (.blank 10 4) ⟨0, 0, 10, 4⟩).1.firstRow = 1 ∧
      (shortened.draw (.blank 10 4) ⟨0, 0, 10, 4⟩).1.shownLines ⟨0, 0, 10, 4⟩ =
        [.ofSpan ['b'] {}] := by
  have hfits : shortened.Fits ⟨0, 0, 10, 4⟩ := by decide +kernel
  have hne : shortened.text ≠ [] := by decide +kernel
  obtain ⟨hfirst, -, hlines⟩ := firstRow_draw_of_fits scrolled_shortened hfits (.blank 10 4)
  have hmin : min shortened.firstRow (shortened.cursorRow ⟨0, 0, 10, 4⟩) = 1 := by decide +kernel
  refine ⟨scrolled_shortened, hfits, hfirst.trans hmin, ?_⟩
  rw [hlines hne, hfirst, hmin]
  decide +kernel

/-- A field does not begin with its first row wherever there is a place for all of them. -/
theorem not_whole_shortened :
    ¬∀ (f : Field) (frame : Frame) (area : Area), Reachable f → f.Fits area →
      (f.draw frame area).1.firstRow = 0 := by
  intro h
  have hzero := h shortened (.blank 10 4) ⟨0, 0, 10, 4⟩ reachable_shortened (by decide +kernel)
  exact absurd hzero (by decide +kernel)

end CircuitHub.Field

import CircuitHub.Proofs.Field.Rows
import Mathlib.Data.List.Chain

/-!
# How lines are broken into rows

A line is broken only where it has to be. A row takes up columns before it is broken off, and the
first character of the next row has no place in it any more (`Row.Wraps`). In this way no row is
wider than it may be (`Row.Fits`), unless a single character of it is; the characters beside that
one take up no columns.

So a row ends in one of two ways: its line goes on in the next row, or a line break stands between
the two. Nothing else of the text is left out, and no row has a line break in it.

* `Row.wraps_or_breaksIn_ofText`: how each row of a text goes on in the next one;
* `Row.fits_of_mem_ofText`: no row is too wide;
* `Row.laysOut_ofText`: the rows of a text, by all that they are to be.
-/

namespace CircuitHub.Row

variable {measure : Char → Nat} {width used start : Nat} {t rest : Text} {c : Char} {r s : Row}

theorem columns_cons (measure : Char → Nat) (c : Char) (t : Text) :
    columns measure (c :: t) = measure c + columns measure t := rfl

/-! ## What goes into a row -/

/-- The first character of a line goes into its row in any case. -/
theorem takeRow_cons (measure : Char → Nat) (width : Nat) (c : Char) (t : Text) :
    (takeRow measure width 0 (c :: t)).1 = c :: (takeRow measure width (measure c) t).1 := by
  rw [takeRow, if_neg (by simp), Nat.zero_add]

/-- A row is broken off when it has taken up columns, and before a character for which too few of
    them are left. -/
theorem takeRow_full (h : (takeRow measure width used t).2 = c :: rest) :
    0 < used + columns measure (takeRow measure width used t).1 ∧
      width < used + columns measure (takeRow measure width used t).1 + measure c := by
  induction t generalizing used with
  | nil => exact nomatch h
  | cons d t ih =>
    rw [takeRow] at h ⊢
    split
    · rename_i hfull
      rw [if_pos hfull] at h
      simp only [Bool.and_eq_true, decide_eq_true_eq] at hfull
      obtain ⟨rfl, rfl⟩ := List.cons_eq_cons.1 h
      exact ⟨hfull.2, hfull.1⟩
    · rename_i hroom
      rw [if_neg hroom] at h
      have := ih h
      rw [columns_cons]
      omega

/-- What goes into a row of which some columns are used has its place there. -/
theorem takeRow_le (measure : Char → Nat) (width : Nat) (hused : 0 < used) (t : Text) :
    (takeRow measure width used t).1 = [] ∨
      used + columns measure (takeRow measure width used t).1 ≤ width := by
  induction t generalizing used with
  | nil => exact .inl rfl
  | cons c t ih =>
    rw [takeRow]
    split
    · exact .inl rfl
    · rename_i hroom
      simp only [Bool.and_eq_true, decide_eq_true_eq, not_and, Nat.not_lt] at hroom
      refine .inr ?_
      have hc : used + measure c ≤ width := by
        by_contra hfull
        exact absurd (hroom (Nat.not_le.1 hfull)) (Nat.not_le.2 hused)
      rw [columns_cons]
      rcases ih (Nat.lt_of_lt_of_le hused (Nat.le_add_right used (measure c))) with hnil | hle
      · rw [hnil]
        exact hc
      · omega

/-- The text takes up no more columns than there are, or only one character of it takes up any. -/
def Fits (measure : Char → Nat) (width : Nat) (t : Text) : Prop :=
  columns measure t ≤ width ∨ t.countP (0 < measure ·) = 1

theorem fits_takeRow (measure : Char → Nat) (width : Nat) (t : Text) :
    Fits measure width (takeRow measure width 0 t).1 := by
  induction t with
  | nil => exact .inl (Nat.zero_le width)
  | cons c t ih =>
    rw [Fits, takeRow_cons, columns_cons, List.countP_cons]
    rcases Nat.eq_zero_or_pos (measure c) with hc | hc
    · simpa [hc, Fits] using ih
    · -- After this character, the row goes on only as far as there is place.
      rcases takeRow_le measure width hc t with hnil | hle
      · rw [hnil]
        simp [hc]
      · exact .inl hle

/-! ## Rows of a line -/

/-- A row of a line is what goes into a row of some end of the line. -/
theorem text_of_mem_ofLine {line : Text} (h : r ∈ ofLine measure width start line) :
    ∃ t, t <:+ line ∧ r.text = (takeRow measure width 0 t).1 := by
  fun_induction ofLine measure width start line with
  | case1 start line row hrest =>
    obtain rfl := List.mem_singleton.1 h
    exact ⟨line, List.suffix_rfl, rfl⟩
  | case2 start line row hrest ih =>
    rcases List.mem_cons.1 h with rfl | h
    · exact ⟨line, List.suffix_rfl, rfl⟩
    · obtain ⟨t, ht, hr⟩ := ih h
      exact ⟨t, ht.trans ⟨row, takeRow_append measure width 0 line⟩, hr⟩

theorem ofLine_eq_cons (measure : Char → Nat) (width start : Nat) (line : Text) :
    ∃ below, ofLine measure width start line =
      ⟨start, (takeRow measure width 0 line).1⟩ :: below := by
  rw [ofLine]
  split
  · exact ⟨_, rfl⟩
  · exact ⟨_, rfl⟩

/-- The line of the first row goes on in the second one, as there is no place for more in the
    first. -/
def Wraps (measure : Char → Nat) (width : Nat) (r s : Row) : Prop :=
  s.start = r.stop ∧ 0 < columns measure r.text ∧
    ∃ c ∈ s.text.head?, width < columns measure r.text + measure c

theorem wraps_ofLine (measure : Char → Nat) (width start : Nat) (line : Text) :
    (ofLine measure width start line).IsChain (Wraps measure width) := by
  fun_induction ofLine measure width start line with
  | case1 start line row hrest => exact .singleton _
  | case2 start line row hrest ih =>
    obtain ⟨c, rest, hcons⟩ := List.exists_cons_of_ne_nil hrest
    obtain ⟨hcolumns, hfull⟩ := takeRow_full hcons
    rw [Nat.zero_add] at hcolumns hfull
    obtain ⟨below, hbelow⟩ := ofLine_eq_cons measure width (start + row.byteSize)
      (takeRow measure width 0 line).2
    rw [hbelow] at ih ⊢
    refine .cons_cons ⟨rfl, hcolumns, c, ?_, hfull⟩ ih
    rw [hcons, takeRow_cons]
    rfl

/-! ## Rows of a text -/

/-- Nothing but a line break stands between the two rows. -/
def BreaksIn (t : Text) (r s : Row) : Prop := t.between? r.stop s.start = some ['\n']

theorem Covers.stop_eq {a b : Nat} {rows : List Row} (h : Covers a b rows) :
    ∃ above r, rows = above ++ [r] ∧ r.stop = b := by
  induction h with
  | last r => exact ⟨[], r, rfl, rfl⟩
  | above r _ _ ih =>
    obtain ⟨above, s, rfl, hs⟩ := ih
    exact ⟨r :: above, s, rfl, hs⟩

/-- The rows of lines that follow some text. -/
theorem wraps_or_breaksIn_ofLines (measure : Char → Nat) (width : Nat) (before : Text)
    (lines : List Text) :
    (ofLines measure width before.byteSize lines).IsChain fun r s =>
      Wraps measure width r s ∨ BreaksIn (before ++ ['\n'].intercalate lines) r s := by
  induction lines generalizing before with
  | nil => exact .nil
  | cons line lines ih =>
    have hline (t : Text) : (ofLine measure width before.byteSize line).IsChain fun r s =>
        Wraps measure width r s ∨ BreaksIn t r s :=
      (wraps_ofLine measure width before.byteSize line).imp fun _ _ => Or.inl
    cases lines with
    | nil =>
      rw [ofLines, ofLines, List.append_nil]
      exact hline _
    | cons line' lines =>
      have hstart : before.byteSize + line.byteSize + 1 =
          Text.byteSize (before ++ line ++ ['\n']) := by
        rw [Text.byteSize_append, Text.byteSize_append]
        rfl
      have htext : before ++ ['\n'].intercalate (line :: line' :: lines) =
          before ++ line ++ ['\n'] ++ ['\n'].intercalate (line' :: lines) := by
        simp [List.intercalate_cons_cons]
      rw [ofLines, List.isChain_append]
      refine ⟨hline _, ?_, fun r hr s hs => .inr ?_⟩
      · rw [hstart, htext]
        exact ih _
      · -- The last row of this line ends with it, and the first below begins with the next line.
        obtain ⟨above, r', habove, hstop⟩ :=
          (covers_ofLine measure width before.byteSize line).stop_eq
        rw [habove, List.getLast?_concat, Option.mem_some] at hr
        obtain rfl := hr
        obtain ⟨s', below, hbelow, hs'⟩ := (covers_ofLines measure width
          (before.byteSize + line.byteSize + 1) (List.cons_ne_nil line' lines)).start_eq
        rw [hbelow, List.head?_cons, Option.mem_some] at hs
        obtain rfl := hs
        rw [BreaksIn, htext, hs', hstart, hstop, ← Text.byteSize_append]
        exact Text.between?_append (before ++ line) ['\n'] _

/-- From one row of a text to the next, the line goes on, or a line break stands between them. -/
theorem wraps_or_breaksIn_ofText (measure : Char → Nat) (width : Nat) (t : Text) :
    (ofText measure width t).IsChain fun r s =>
      Wraps measure (max width 1) r s ∨ BreaksIn t r s := by
  have := wraps_or_breaksIn_ofLines measure (max width 1) [] t.splitLines
  rwa [List.nil_append, Text.intercalate_splitLines] at this

theorem exists_line_of_mem_ofLines {lines : List Text} (h : r ∈ ofLines measure width start lines) :
    ∃ line ∈ lines, ∃ start, r ∈ ofLine measure width start line := by
  induction lines generalizing start with
  | nil => exact nomatch h
  | cons line lines ih =>
    rw [ofLines, List.mem_append] at h
    rcases h with h | h
    · exact ⟨line, List.mem_cons_self, start, h⟩
    · obtain ⟨line', hline', hr⟩ := ih h
      exact ⟨line', List.mem_cons_of_mem line hline', hr⟩

/-- A row of a text is what goes into a row of some end of a line. -/
theorem text_of_mem_ofText (h : r ∈ ofText measure width t) :
    ∃ line ∈ t.splitLines, ∃ rest, rest <:+ line ∧
      r.text = (takeRow measure (max width 1) 0 rest).1 := by
  obtain ⟨line, hline, start, hr⟩ := exists_line_of_mem_ofLines h
  exact ⟨line, hline, text_of_mem_ofLine hr⟩

/-- No row of a text is too wide. -/
theorem fits_of_mem_ofText (h : r ∈ ofText measure width t) :
    Fits measure (max width 1) r.text := by
  obtain ⟨_, -, rest, -, hr⟩ := text_of_mem_ofText h
  rw [hr]
  exact fits_takeRow measure (max width 1) rest

/-- No row of a text has a line break in it. -/
theorem not_mem_of_mem_ofText (h : r ∈ ofText measure width t) : '\n' ∉ r.text := by
  obtain ⟨line, hline, rest, hrest, hr⟩ := text_of_mem_ofText h
  have hbegins : r.text <+: rest := ⟨_, hr ▸ takeRow_append measure (max width 1) 0 rest⟩
  intro hbreak
  exact Text.not_mem_of_mem_splitLines hline (hrest.subset (hbegins.subset hbreak))

/-! ## Layouts -/

/-- Rows are a layout of a text in some columns. -/
structure LaysOut (measure : Char → Nat) (width : Nat) (t : Text) (rows : List Row) : Prop where
  /-- There is a first row, and it begins where the text does. -/
  first : ∃ r, rows.head? = some r ∧ r.start = 0
  /-- The last row ends where the text does. -/
  last : ∃ r, rows.getLast? = some r ∧ r.stop = t.byteSize
  /-- Each row is what stands in the text between its ends. -/
  stands : ∀ r ∈ rows, t.between? r.start r.stop = some r.text
  /-- Each row ends where the next one begins and has no place for the first character of that, or
      one line break stands between the two. -/
  continues : rows.IsChain fun r s => Wraps measure width r s ∨ BreaksIn t r s
  /-- No row has a line break in it. -/
  unbroken : ∀ r ∈ rows, '\n' ∉ r.text
  /-- No row is wider than it may be, but for one character that is so by itself. -/
  fits : ∀ r ∈ rows, Fits measure width r.text

/-- Whatever columns the characters take up, and however few there are, the rows of a text are a
    layout of it. -/
theorem laysOut_ofText (measure : Char → Nat) (width : Nat) (t : Text) :
    LaysOut measure (max width 1) t (ofText measure width t) where
  first := by
    obtain ⟨r, below, hrows, hstart⟩ := (covers_ofText measure width t).start_eq
    exact ⟨r, by rw [hrows, List.head?_cons], hstart⟩
  last := by
    obtain ⟨above, r, hrows, hstop⟩ := (covers_ofText measure width t).stop_eq
    exact ⟨r, by rw [hrows, List.getLast?_concat], hstop⟩
  stands _ hr := (standsIn_of_mem_ofText hr).between?_stop
  continues := wraps_or_breaksIn_ofText measure width t
  unbroken _ hr := not_mem_of_mem_ofText hr
  fits _ hr := fits_of_mem_ofText hr

example : ofText charWidth 1 ['電', '\u0301', 'a', '\n'] =
    [⟨0, ['電']⟩, ⟨3, ['\u0301', 'a']⟩, ⟨7, []⟩] := by
  decide +kernel

end CircuitHub.Row

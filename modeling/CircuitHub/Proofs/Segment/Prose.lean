import CircuitHub.Proofs.Text.Parts
import CircuitHub.Segment
import Mathlib.Data.List.DropRight
import Mathlib.Data.List.Infix
import Mathlib.Data.List.TakeWhile

/-!
# Paragraphs of prose

The lines of some prose fall into *runs* of lines that are not blank, and each run is a paragraph.
Here runs are what a division of the list of lines at its blank ones leaves (`runs`), which says
nothing of the order in which one reads them. Reading paragraph by paragraph comes to the same
(`paragraphs_of_nextParagraph?_eq_some`).

* `runs_append`: lines that are not blank are a run, if a blank line or none follows them;
* `paragraphs_append_blank`: prose with an empty line in it has the paragraphs before the line and
  those after it.
-/

namespace CircuitHub

/-- The runs of lines that are not blank, in order. -/
def runs (lines : List Text) : List (List Text) :=
  (lines.splitOnP Text.isBlank).filter fun run => !run.isEmpty

/-- The text of a run of lines: no break follows the last of them, nor do carriage returns. -/
def paragraphOfRun (run : List Text) : Text := (['\n'].intercalate run).rdropWhile (· == '\r')

/-- The paragraphs of some prose, in order. -/
def paragraphs (prose : Text) : List Text := (runs (prose.splitOn '\n')).map paragraphOfRun

@[simp] theorem paragraphs_nil : paragraphs [] = [] := rfl

/-! ## Runs -/

@[simp] theorem runs_nil : runs [] = [] := by simp [runs]

/-- No run goes beyond a blank line. -/
theorem runs_append_cons {line : Text} (h : line.isBlank = true) (above below : List Text) :
    runs (above ++ line :: below) = runs above ++ runs below := by
  rw [runs, List.splitOnP_append_cons above below h, List.filter_append]
  rfl

theorem runs_cons {line : Text} (h : line.isBlank = true) (below : List Text) :
    runs (line :: below) = runs below := by
  simpa using runs_append_cons h [] below

/-- Lines none of which is blank are one run. -/
theorem runs_eq_singleton {lines : List Text} (hne : lines ≠ [])
    (h : ∀ line ∈ lines, line.isBlank = false) : runs lines = [lines] := by
  rw [runs, List.splitOnP_eq_singleton h]
  simp [hne]

/-- Lines none of which is blank are the first run, if a blank line or none follows them. -/
theorem runs_append {run below : List Text} (hne : run ≠ [])
    (h : ∀ line ∈ run, line.isBlank = false) (hbelow : ∀ line ∈ below.head?, line.isBlank = true) :
    runs (run ++ below) = run :: runs below := by
  cases below with
  | nil => rw [List.append_nil, runs_eq_singleton hne h, runs_nil]
  | cons blank below =>
    have hblank : blank.isBlank = true := hbelow blank rfl
    rw [runs_append_cons hblank, runs_eq_singleton hne h, runs_cons hblank]
    rfl

/-- The first run are the lines up to a blank one, if the first line is not blank. -/
theorem runs_eq_cons {lines : List Text} (hne : lines.takeWhile (!·.isBlank) ≠ []) :
    runs lines = lines.takeWhile (!·.isBlank) :: runs (lines.dropWhile (!·.isBlank)) := by
  have hbelow : ∀ line ∈ (lines.dropWhile (!·.isBlank)).head?, line.isBlank = true := by
    intro line hl
    have := List.head?_dropWhile_not (fun l : Text => !l.isBlank) lines
    rw [hl] at this
    simpa using this
  have h := runs_append hne (fun line hl => by simpa using List.mem_takeWhile_imp hl) hbelow
  rwa [List.takeWhile_append_dropWhile] at h

/-! ## Reading line by line -/

theorem newline_not_mem_firstLine (t : Text) : '\n' ∉ t.firstLine := fun h => by
  simpa using List.mem_takeWhile_imp h

theorem firstLine_eq_self {t : Text} (h : '\n' ∉ t) : t.firstLine = t :=
  List.takeWhile_eq_self_iff.2 fun _ hc => by
    simpa using ne_of_mem_of_not_mem hc h

theorem afterLine_eq_nil {t : Text} (h : '\n' ∉ t) : t.afterLine = [] := by
  have hd : t.dropWhile (· != '\n') = [] :=
    List.dropWhile_eq_nil_iff.2 fun _ hc => by simpa using ne_of_mem_of_not_mem hc h
  rw [Text.afterLine, hd]
  rfl

/-- A text with a line break is its first line, the break and what follows. -/
theorem firstLine_append_afterLine {t : Text} (h : '\n' ∈ t) :
    t.firstLine ++ '\n' :: t.afterLine = t := by
  have hcut : t.firstLine ++ t.dropWhile (· != '\n') = t := List.takeWhile_append_dropWhile
  rw [Text.afterLine]
  cases hd : t.dropWhile (· != '\n') with
  | nil =>
    rw [hd, List.append_nil] at hcut
    rw [← hcut] at h
    exact absurd h (newline_not_mem_firstLine t)
  | cons c rest =>
    obtain rfl : c = '\n' := by
      have := List.head?_dropWhile_not (· != '\n') t
      rw [hd] at this
      simpa using this
    rwa [hd] at hcut

/-- The lines below the first one. There are none where no break ends it. -/
def linesBelow (t : Text) : List Text := if '\n' ∈ t then List.splitOn '\n' t.afterLine else []

/-- The lines of a text are its first line and those below it. -/
theorem splitOn_newline (t : Text) : t.splitOn '\n' = t.firstLine :: linesBelow t := by
  rw [linesBelow]
  split
  · rename_i h
    rw [← List.splitOn_append_cons_self_of_not_mem (newline_not_mem_firstLine t),
      firstLine_append_afterLine h]
  · rename_i h
    rw [firstLine_eq_self h, List.splitOn_eq_singleton h]

/-- Where nothing is left to read there is still one line, but it is blank. -/
theorem splitOn_afterLine (t : Text) :
    List.splitOn '\n' t.afterLine = linesBelow t ∨
      List.splitOn '\n' t.afterLine = [[]] ∧ linesBelow t = [] := by
  by_cases h : '\n' ∈ t
  · rw [linesBelow, if_pos h]
    exact .inl rfl
  · rw [linesBelow, if_neg h, afterLine_eq_nil h]
    exact .inr ⟨rfl, rfl⟩

theorem runs_skipBlankLines (t : Text) :
    runs ((skipBlankLines t).splitOn '\n') = runs (t.splitOn '\n') := by
  fun_induction skipBlankLines t with
  | case1 => rfl
  | case2 t _ hb ih =>
    rw [ih, splitOn_newline t, runs_cons hb]
    rcases splitOn_afterLine t with h | ⟨h, h'⟩
    · rw [h]
    · -- The last line was skipped, and the blank one that is read after it is in no run.
      rw [h, h']
      rfl
  | case3 => rfl

/-- Lines that are not blank leave something of the text that they make up. -/
theorem intercalate_ne_nil {line : Text} {run : List Text} (h : line.isBlank = false) :
    ['\n'].intercalate (line :: run) ≠ [] := by
  cases run with
  | nil =>
    rw [List.intercalate_singleton]
    rintro rfl
    exact absurd h (by decide)
  | cons line' run => simp [List.intercalate_cons_cons]

/-- A paragraph is taken line by line, up to a blank one. -/
theorem takeParagraph_fst (t : Text) :
    (takeParagraph t).1 =
      ['\n'].intercalate ((t.splitOn '\n').takeWhile fun line => !Text.isBlank line) := by
  fun_induction takeParagraph t with
  | case1 => rfl
  | case2 t _ hb =>
    rw [splitOn_newline t, List.takeWhile_cons_of_neg (by simpa using hb)]
    rfl
  | case3 t hne hb more rest heq ih =>
    have hmore : more = ['\n'].intercalate ((linesBelow t).takeWhile fun l => !Text.isBlank l) := by
      rw [heq] at ih
      rcases splitOn_afterLine t with h | ⟨h, h'⟩
      · rwa [h] at ih
      · rw [h] at ih
        rwa [h']
    rw [splitOn_newline t, List.takeWhile_cons_of_pos (by simpa using hb), hmore]
    rcases hrun : (linesBelow t).takeWhile fun l => !Text.isBlank l with _ | ⟨line, run⟩
    · simp
    · have hline : line ∈ (linesBelow t).takeWhile fun l => !Text.isBlank l := by simp [hrun]
      have hline : line.isBlank = false := by simpa using List.mem_takeWhile_imp hline
      rw [List.intercalate_cons_cons, if_neg (by simpa using intercalate_ne_nil hline)]
      simp

/-- What a paragraph leaves are the other runs. -/
theorem runs_takeParagraph_snd (t : Text) :
    runs (List.splitOn '\n' (takeParagraph t).2) =
      runs ((t.splitOn '\n').dropWhile fun line => !Text.isBlank line) := by
  fun_induction takeParagraph t with
  | case1 => rfl
  | case2 t _ hb => rw [splitOn_newline t, List.dropWhile_cons_of_neg (by simpa using hb)]
  | case3 t hne hb more rest heq ih =>
    rw [heq] at ih
    rw [splitOn_newline t, List.dropWhile_cons_of_pos (by simpa using hb), ih]
    rcases splitOn_afterLine t with h | ⟨h, h'⟩
    · rw [h]
    · rw [h, h']
      rfl

/-- Prose without a next paragraph has none. -/
theorem paragraphs_of_nextParagraph?_eq_none {prose : Text} (h : nextParagraph? prose = none) :
    paragraphs prose = [] := by
  rw [nextParagraph?] at h
  split at h
  · rename_i hskip
    rw [paragraphs, ← runs_skipBlankLines, hskip]
    rfl
  · cases h

/-- The next paragraph is the first, and what it leaves has the others. -/
theorem paragraphs_of_nextParagraph?_eq_some {prose p rest : Text}
    (h : nextParagraph? prose = some (p, rest)) : paragraphs prose = p :: paragraphs rest := by
  rw [nextParagraph?] at h
  split at h
  · cases h
  · rename_i c t hskip
    have hfirst := firstLine_not_blank_of_skip hskip
    obtain ⟨rfl, rfl⟩ : (takeParagraph (c :: t)).1.dropEndWhile (· == '\r') = p ∧
        (takeParagraph (c :: t)).2 = rest := by simpa using h
    have hne : (List.splitOn '\n' (c :: t)).takeWhile (fun line => !Text.isBlank line) ≠ [] := by
      rw [splitOn_newline, List.takeWhile_cons_of_pos (by simpa using hfirst)]
      exact List.cons_ne_nil _ _
    rw [paragraphs, ← runs_skipBlankLines, hskip, runs_eq_cons hne, List.map_cons, paragraphs,
      runs_takeParagraph_snd, takeParagraph_fst]
    rfl

/-! ## Paragraphs within prose -/

/-- A run has lines, and none of them is blank. -/
theorem not_isBlank_of_mem_runs {lines run : List Text} (h : run ∈ runs lines) :
    run ≠ [] ∧ ∀ line ∈ run, line.isBlank = false := by
  obtain ⟨hrun, hne⟩ := List.mem_filter.1 h
  exact ⟨by simpa using hne, fun line hl => not_of_mem_splitOnP hrun hl⟩

theorem infix_of_mem_runs {lines run : List Text} (h : run ∈ runs lines) : run <:+: lines :=
  infix_of_mem_splitOnP (List.mem_filter.1 h).1

theorem newline_not_mem_of_mem_splitOn {t line : Text} (h : line ∈ t.splitOn '\n') :
    '\n' ∉ line := fun hc => by
  rw [List.splitOn_eq_splitOnP] at h
  simpa using not_of_mem_splitOnP h hc

/-- Where lines are parted, a break parts the texts that they make up. -/
theorem intercalate_append {above below : List Text} (h : above ≠ []) (h' : below ≠ []) :
    ['\n'].intercalate (above ++ below) =
      ['\n'].intercalate above ++ '\n' :: ['\n'].intercalate below := by
  induction above with
  | nil => exact absurd rfl h
  | cons line above ih =>
    rw [List.cons_append, List.intercalate_cons_of_ne_nil (by simp [h'])]
    cases above with
    | nil => simp
    | cons line' above =>
      rw [ih (List.cons_ne_nil _ _), List.intercalate_cons_cons, ← List.append_assoc]

/-- Neighbouring lines stand as they are in the text that all lines make up. -/
theorem intercalate_isInfix {run lines : List Text} (h : run <:+: lines) :
    ['\n'].intercalate run <:+: ['\n'].intercalate lines := by
  obtain ⟨above, below, rfl⟩ := h
  have hbelow : ['\n'].intercalate run <+: ['\n'].intercalate (run ++ below) := by
    rcases eq_or_ne run [] with rfl | hrun
    · exact List.nil_prefix
    rcases eq_or_ne below [] with rfl | hb
    · rw [List.append_nil]
    · rw [intercalate_append hrun hb]
      exact List.prefix_append _ _
  have habove : ['\n'].intercalate (run ++ below) <:+
      ['\n'].intercalate (above ++ (run ++ below)) := by
    rcases eq_or_ne above [] with rfl | ha
    · exact List.suffix_rfl
    rcases eq_or_ne (run ++ below) [] with hr | hr
    · rw [hr]
      exact List.nil_suffix
    · rw [intercalate_append ha hr]
      exact (List.suffix_cons _ _).trans (List.suffix_append _ _)
  rw [List.append_assoc]
  exact hbelow.isInfix.trans habove.isInfix

/-- A paragraph stands in its prose as it is. -/
theorem infix_of_mem_paragraphs {prose p : Text} (h : p ∈ paragraphs prose) : p <:+: prose := by
  obtain ⟨run, hrun, rfl⟩ := List.mem_map.1 h
  have hlines := intercalate_isInfix (infix_of_mem_runs hrun)
  rw [List.intercalate_splitOn] at hlines
  exact (List.rdropWhile_prefix _ _).isInfix.trans hlines

/-! ## Prose that meets at an empty line -/

/-- Prose with an empty line in it has the paragraphs before the line and those after it. -/
theorem paragraphs_append_blank (above below : Text) :
    paragraphs (above ++ '\n' :: '\n' :: below) = paragraphs above ++ paragraphs below := by
  have hlines : (above ++ '\n' :: '\n' :: below).splitOn '\n' =
      above.splitOn '\n' ++ [] :: below.splitOn '\n' := by
    rw [List.splitOn_append_cons_self]
    exact congrArg _ (List.splitOn_append_cons_self [] below)
  rw [paragraphs, hlines, runs_append_cons rfl, List.map_append]
  rfl

end CircuitHub

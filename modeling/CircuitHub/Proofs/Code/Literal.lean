import CircuitHub.Code
import CircuitHub.Proofs.Text.Lines
import Mathlib.Data.List.SplitBy

/-!
# Code is shown as it is

Code with colours of its own and code without them come by different ways to the screen. With
colours, lines are cut behind their breaks, and the breaks are then taken off the fragments of each
line, wherever they are. Without colours, lines are cut at their breaks. If a highlighter loses
nothing of a line (`Highlighter.Keeps`), and the code has whole breaks only, it is the same text
that comes to the screen: the code line by line, with tabs as four spaces
(`linesWith_literal`).

* `map_unbroken_brokenLines`: a line that was cut behind its break is, but for the break, one that
  was cut at it;
* `dropEndWhile_eq_filter`: where characters of a kind stand only at the end of a text, dropping
  them from there drops all of them, and so may be done fragment by fragment;
* `Highlighter.Keeps.map_spansText`: the spans of a line say what the line says.
-/

namespace CircuitHub.Code

open Text

variable {t : Text} {c : Char}

/-! ## Tabs -/

theorem expandTabs_append (t t' : Text) : expandTabs (t ++ t') = expandTabs t ++ expandTabs t' :=
  List.flatMap_append

theorem expandTabs_cons (c : Char) (t : Text) : expandTabs (c :: t) = expandTabs [c] ++ expandTabs t :=
  expandTabs_append [c] t

theorem expandTabs_singleton_of_ne (hc : c ≠ '\t') : expandTabs [c] = [c] := by
  simp [expandTabs, hc]

theorem expandTabs_eq_nil_iff : expandTabs t = [] ↔ t = [] := by
  cases t with
  | nil => simp [expandTabs]
  | cons c t =>
    rw [expandTabs_cons]
    by_cases hc : c = '\t'
    · simp [expandTabs, hc]
    · simp [expandTabs_singleton_of_ne hc]

/-- What a tab is shown as has no breaks. -/
theorem not_break_of_mem_expandTabs (hnewline : c ≠ '\n') (hreturn : c ≠ '\r') :
    ∀ d ∈ expandTabs [c], d ≠ '\n' ∧ d ≠ '\r' := by
  by_cases hc : c = '\t'
  · simp [hc, expandTabs]
  · rw [expandTabs_singleton_of_ne hc]
    simpa using ⟨hnewline, hreturn⟩

theorem hasWholeBreaks_append {before : Text} (hbefore : ∀ d ∈ before, d ≠ '\n' ∧ d ≠ '\r')
    (ht : t.HasWholeBreaks) : (before ++ t).HasWholeBreaks := by
  induction before with
  | nil => exact ht
  | cons d before ih =>
    exact (ih fun d hd => hbefore d (List.mem_cons_of_mem _ hd)).cons
      (hbefore d List.mem_cons_self).2

/-- Line breaks stay whole when tabs become spaces. -/
theorem hasWholeBreaks_expandTabs (h : t.HasWholeBreaks) : (expandTabs t).HasWholeBreaks := by
  induction t, h using HasWholeBreaks.rec_breaks with
  | nil => exact hasWholeBreaks_nil
  | newline t ht ih => exact ih.newline
  | returned t ht ih => exact ih.returned
  | last c hnewline hreturn =>
    rw [← List.append_nil (expandTabs [c])]
    exact hasWholeBreaks_append (not_break_of_mem_expandTabs hnewline hreturn) hasWholeBreaks_nil
  | other c t hnewline hreturn hne ht ih =>
    rw [expandTabs_cons]
    exact hasWholeBreaks_append (not_break_of_mem_expandTabs hnewline hreturn) ih

/-- It makes no difference whether tabs become spaces before or after lines are cut. -/
theorem lines_expandTabs (h : t.HasWholeBreaks) : (expandTabs t).lines = t.lines.map expandTabs := by
  induction t, h using HasWholeBreaks.rec_breaks with
  | nil => rfl
  | newline t ht ih =>
    rw [lines_newline, List.map_cons, ← ih]
    exact lines_newline (expandTabs t)
  | returned t ht ih =>
    rw [lines_return_newline, List.map_cons, ← ih]
    exact lines_return_newline (expandTabs t)
  | last c hnewline hreturn =>
    rw [lines_singleton hnewline]
    by_cases hc : c = '\t'
    · rw [hc]
      rfl
    · rw [expandTabs_singleton_of_ne hc, lines_singleton hnewline, List.map_singleton,
        expandTabs_singleton_of_ne hc]
  | other c t hnewline hreturn hne ht ih =>
    rw [expandTabs_cons, lines_append (not_break_of_mem_expandTabs hnewline hreturn)
      (mt expandTabs_eq_nil_iff.1 hne), ih, lines_cons hnewline hreturn hne]
    cases t.lines with
    | nil => rfl
    | cons line lines => exact congrArg (· :: _) (expandTabs_cons c line).symm

/-! ## Lines with their breaks -/

theorem brokenLines_newline (t : Text) : brokenLines ('\n' :: t) = ['\n'] :: brokenLines t := rfl

theorem brokenLines_return_newline (t : Text) :
    brokenLines ('\r' :: '\n' :: t) = ['\r', '\n'] :: brokenLines t := rfl

theorem brokenLines_ne_nil (h : t ≠ []) : brokenLines t ≠ [] := by
  cases t with
  | nil => exact absurd rfl h
  | cons c t =>
    rw [brokenLines]
    split
    · exact List.cons_ne_nil _ _
    · split <;> exact List.cons_ne_nil _ _

theorem brokenLines_cons (hc : c ≠ '\n') (h : t ≠ []) :
    brokenLines (c :: t) = (brokenLines t).modifyHead (c :: ·) := by
  obtain ⟨line, lines, hlines⟩ := List.exists_cons_of_ne_nil (brokenLines_ne_nil h)
  rw [brokenLines, if_neg hc, hlines]
  rfl

/-- A text without its characters of line breaks. -/
def unbroken (t : Text) : Text := t.filter fun c => !isBreak c

theorem isBreak_eq_false (hnewline : c ≠ '\n') (hreturn : c ≠ '\r') : isBreak c = false := by
  simp [isBreak, hnewline, hreturn]

/-- A line that was cut behind its break is one that was cut at it, and the break. -/
theorem map_unbroken_brokenLines (h : t.HasWholeBreaks) :
    (brokenLines t).map unbroken = t.lines := by
  induction t, h using HasWholeBreaks.rec_breaks with
  | nil => rfl
  | newline t ht ih =>
    rw [brokenLines_newline, List.map_cons, ih, lines_newline]
    rfl
  | returned t ht ih =>
    rw [brokenLines_return_newline, List.map_cons, ih, lines_return_newline]
    rfl
  | last c hnewline hreturn =>
    rw [lines_singleton hnewline, brokenLines, if_neg hnewline]
    exact congrArg ([·]) (List.filter_cons_of_pos (by simp [isBreak_eq_false hnewline hreturn]))
  | other c t hnewline hreturn hne ht ih =>
    rw [brokenLines_cons hnewline hne, lines_cons hnewline hreturn hne, ← ih]
    cases brokenLines t with
    | nil => rfl
    | cons line lines =>
      exact congrArg (· :: _) (List.filter_cons_of_pos (by simp [isBreak_eq_false hnewline hreturn]))

/-- The characters of a line break stand at the end of the text. -/
def EndsInBreak (t : Text) : Prop := t.Pairwise fun c d => isBreak c → isBreak d

theorem endsInBreak_of_mem_brokenLines (h : t.HasWholeBreaks) {line : Text}
    (hline : line ∈ brokenLines t) : EndsInBreak line := by
  induction t, h using HasWholeBreaks.rec_breaks generalizing line with
  | nil => exact nomatch hline
  | newline t ht ih =>
    rcases List.mem_cons.1 hline with rfl | hline
    · exact List.pairwise_singleton _ _
    · exact ih hline
  | returned t ht ih =>
    rcases List.mem_cons.1 hline with rfl | hline
    · exact List.pairwise_pair.2 fun _ => rfl
    · exact ih hline
  | last c hnewline hreturn =>
    rw [brokenLines, if_neg hnewline] at hline
    rw [List.mem_singleton.1 hline]
    exact List.pairwise_singleton _ _
  | other c t hnewline hreturn hne ht ih =>
    rw [brokenLines_cons hnewline hne] at hline
    obtain ⟨first, lines, hlines⟩ := List.exists_cons_of_ne_nil (brokenLines_ne_nil hne)
    rw [hlines] at hline ih
    rcases List.mem_cons.1 hline with rfl | hline
    · refine List.pairwise_cons.2 ⟨fun d _ hbreak => ?_, ih List.mem_cons_self⟩
      rw [isBreak_eq_false hnewline hreturn] at hbreak
      cases hbreak
    · exact ih (List.mem_cons_of_mem _ hline)

/-! ## Fragments -/

/-- Where characters of a kind stand only at the end of a text, they are all that is dropped from it
    there. -/
theorem dropEndWhile_eq_filter {p : Char → Bool} (h : t.Pairwise fun c d => p c → p d) :
    t.dropEndWhile p = t.filter fun c => !p c := by
  induction t using List.reverseRecOn with
  | nil => rfl
  | append_singleton t c ih =>
    obtain ⟨ht, -, hlast⟩ := List.pairwise_append.1 h
    rw [dropEndWhile, List.reverse_concat, List.dropWhile_cons, List.filter_append]
    split
    · rename_i hc
      simpa [dropEndWhile, hc] using ih ht
    · -- Since the last character is of another kind, all of them are.
      rename_i hc
      have hother : ∀ d ∈ t, (!p d) = true := fun d hd => by
        simpa using fun hpd => hc (hlast d hd c List.mem_cons_self hpd)
      rw [List.filter_eq_self.2 hother]
      simp [hc]

/-- What spans say. -/
def spansText (spans : List Span) : Text := spans.flatMap (·.text)

/-- Fragments of which nothing is left say nothing. -/
theorem spansText_spansOf (fragments : List (Color × Text)) :
    spansText (spansOf fragments) = fragments.flatMap fun part => part.2.dropEndWhile isBreak := by
  induction fragments with
  | nil => rfl
  | cons part fragments ih =>
    obtain ⟨color, t⟩ := part
    rw [List.flatMap_cons, ← ih]
    by_cases hempty : (t.dropEndWhile isBreak).isEmpty = true
    · have hspans : spansOf ((color, t) :: fragments) = spansOf fragments :=
        List.filterMap_cons_none (if_pos hempty)
      rw [hspans, List.isEmpty_iff.1 hempty, List.nil_append]
    · have hspans : spansOf ((color, t) :: fragments) =
          ⟨t.dropEndWhile isBreak, .ofColor color⟩ :: spansOf fragments :=
        List.filterMap_cons_some (if_neg hempty)
      rw [hspans, spansText, List.flatMap_cons]
      rfl

/-- Fragments of a line whose break stands at its end say what the line says without its break. -/
theorem spansText_spansOf_of_endsInBreak {fragments : List (Color × Text)}
    (h : EndsInBreak (fragments.flatMap (·.2))) :
    spansText (spansOf fragments) = unbroken (fragments.flatMap (·.2)) := by
  have hfragment : ∀ part ∈ fragments, part.2.dropEndWhile isBreak = unbroken part.2 :=
    fun part hpart => dropEndWhile_eq_filter ((List.pairwise_flatMap.1 h).1 part hpart)
  rw [spansText_spansOf, List.flatMap_congr hfragment, unbroken, List.filter_flatMap]
  rfl

namespace Highlighter

variable {h : Highlighter}

/-- Nothing of a line is lost when it is taken apart. -/
def Keeps (h : Highlighter) : Prop :=
  ∀ state line fragments state', h.line? state line = some (fragments, state') →
    fragments.flatMap (·.2) = line

/-- The spans of lines say what the lines say without their breaks. -/
theorem Keeps.map_spansText (hkeeps : h.Keeps) {state : h.State} {lines : List Text}
    (hlines : ∀ line ∈ lines, EndsInBreak line) {spans : List (List Span)}
    (hspans : h.spansFrom? state lines = some spans) :
    spans.map spansText = lines.map unbroken := by
  induction lines generalizing state spans with
  | nil =>
    cases hspans
    rfl
  | cons line lines ih =>
    obtain ⟨⟨fragments, state'⟩, hline, hrest⟩ := Option.bind_eq_some_iff.1 hspans
    obtain ⟨below, hbelow, rfl⟩ := Option.map_eq_some_iff.1 hrest
    have hwhole : fragments.flatMap (·.2) = line := hkeeps state line fragments state' hline
    have hends : EndsInBreak (fragments.flatMap (·.2)) := hwhole ▸ hlines line List.mem_cons_self
    rw [List.map_cons, List.map_cons, spansText_spansOf_of_endsInBreak hends, hwhole,
      ih (fun line hline => hlines line (List.mem_cons_of_mem _ hline)) hbelow]

/-- In a language whose structure is known, the lines of code say what they say in any other. -/
theorem Keeps.map_spansText_spans? (hkeeps : h.Keeps) {language code : Text}
    (hcode : code.HasWholeBreaks) {spans : List (List Span)}
    (hspans : h.spans? language code = some spans) : spans.map spansText = code.lines := by
  rw [spans?] at hspans
  split at hspans
  · cases hspans
  · obtain ⟨state, -, hfrom⟩ := Option.bind_eq_some_iff.1 hspans
    rw [hkeeps.map_spansText (fun line => endsInBreak_of_mem_brokenLines hcode) hfrom,
      map_unbroken_brokenLines hcode]

end Highlighter

/-! ## Code on the screen -/

theorem map_spansText_plainSpans (code : Text) : (plainSpans code).map spansText = code.lines := by
  rw [plainSpans, List.map_map]
  exact (List.map_congr_left fun line _ => List.append_nil line).trans (List.map_id _)

/-- Whatever the language of code is, and whether its structure is known or not: between a header
    and a footer there is one line for each line of the code, and it says what that line says, with
    tabs as four spaces, behind a bar. The lines of code whose structure is known say what they
    would say if it was not. -/
theorem linesWith_literal {h : Highlighter} (hkeeps : h.Keeps) (language : Text) {code : Text}
    (hcode : code.HasWholeBreaks) :
    (∃ shown, linesWith h language code = header language :: shown ++ [footer] ∧
      shown.map Line.text = code.lines.map fun line => "│ ".toList ++ expandTabs line) ∧
    ∀ spans, h.spans? language (expandTabs code) = some spans →
      spans.map spansText = (plainSpans (expandTabs code)).map spansText := by
  have hknown : ∀ spans, h.spans? language (expandTabs code) = some spans →
      spans.map spansText = (expandTabs code).lines :=
    fun spans => hkeeps.map_spansText_spans? (hasWholeBreaks_expandTabs hcode)
  have hshown : ((h.spans? language (expandTabs code)).getD (plainSpans (expandTabs code))).map
      spansText = (expandTabs code).lines := by
    cases hspans : h.spans? language (expandTabs code) with
    | none => exact map_spansText_plainSpans _
    | some spans => exact hknown spans hspans
  refine ⟨⟨_, rfl, ?_⟩, fun spans hspans => ?_⟩
  · rw [List.map_map]
    calc List.map (Line.text ∘ barred) _
        = List.map ("│ ".toList ++ ·) (List.map spansText _) := by
          rw [List.map_map]
          rfl
      _ = List.map ("│ ".toList ++ ·) (code.lines.map expandTabs) := by
          rw [hshown, lines_expandTabs hcode]
      _ = code.lines.map fun line => "│ ".toList ++ expandTabs line := by
          rw [List.map_map]
          rfl
  · rw [hknown spans hspans, map_spansText_plainSpans]

/-- The highlighter that takes words, white space and other marks apart. -/
def byKind : Highlighter where
  State := Unit
  begin? language := if isKnown language then some () else none
  line? _ line :=
    let kind (c : Char) : Bool × Bool := (c.isAlphanum, isSpace c)
    some ((line.splitBy fun c d => kind c == kind d).map (.accent, ·), ())

theorem keeps_byKind : byKind.Keeps := by
  rintro state line fragments state' hline
  cases hline
  rw [List.flatMap_map, List.flatMap_id']
  exact List.flatten_splitBy _ line

/-- Three lines in a language whose structure is known, one of them with a tab and one empty, behind
    breaks of two characters. -/
theorem linesWith_literal_yaml :
    let code : Text := "name:\tR\r\n\r\n- 1"
    byKind.Keeps ∧ code.HasWholeBreaks ∧
      (∃ shown, linesWith byKind "yaml" code = header "yaml" :: shown ++ [footer] ∧
        shown.map Line.text = (["│ name:    R", "│ ", "│ - 1"] : List String).map String.toList) ∧
      ∃ spans, byKind.spans? "yaml" (expandTabs code) = some spans ∧
        spans.map List.length = [4, 0, 3] ∧
        spans.map spansText = (plainSpans (expandTabs code)).map spansText := by
  intro code
  have hcode : code.HasWholeBreaks := by decide
  obtain ⟨⟨shown, hlines, htexts⟩, hspans⟩ := linesWith_literal keeps_byKind "yaml" hcode
  refine ⟨keeps_byKind, hcode, ⟨shown, hlines, htexts.trans (by decide)⟩, ?_⟩
  obtain ⟨spans, hsome⟩ := Option.isSome_iff_exists.1
    (by decide +kernel : (byKind.spans? "yaml" (expandTabs code)).isSome = true)
  refine ⟨spans, hsome, ?_, hspans spans hsome⟩
  have hlength : (byKind.spans? "yaml" (expandTabs code)).map (·.map List.length) =
    some [4, 0, 3] := by decide +kernel
  rw [hsome] at hlength
  exact Option.some.inj hlength

end CircuitHub.Code

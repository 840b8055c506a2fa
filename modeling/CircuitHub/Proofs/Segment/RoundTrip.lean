import CircuitHub.Proofs.Segment.Shape

/-!
# Segments written down and read again

Segments can be written as a text again (`reassemble`), code between fences on lines of their own
and an empty line between any two. Where each has the shape of segments, they are read from that
text one by one: no fence that is written is left open, so that the empty line after a segment is
where its text ends (`eager_append_blank`). A paragraph is read as it was, and so is code but for a
carriage return at its end, which is taken for part of the break before the closing fence.

* `eager_reassemble`: what is read from the text that segments are written as;
* `segments_reassemble_iff`: segments are read again as they were exactly if no code among them ends
  in a carriage return;
* `segments_tidy`: what can be relied on where segments are shown.
-/

namespace CircuitHub

namespace Segment

/-- The segment as it is written in a message. -/
def written : Segment → Text
  | paragraph t => t
  | code language body => fence ++ language ++ '\n' :: body ++ '\n' :: fence

/-- The segment that is read where this one is written. -/
def reread : Segment → Segment
  | paragraph t => paragraph t
  | code language body => code language (dropLastIf '\r' body)

end Segment

/-- The text that some segments are written as, with an empty line between any two. -/
def reassemble (segs : List Segment) : Text := ['\n', '\n'].intercalate (segs.map Segment.written)

@[simp] theorem reassemble_singleton (s : Segment) : reassemble [s] = s.written := by
  simp [reassemble]

theorem reassemble_cons_cons (s t : Segment) (segs : List Segment) :
    reassemble (s :: t :: segs) = s.written ++ '\n' :: '\n' :: reassemble (t :: segs) := by
  rw [reassemble, List.map_cons, List.map_cons, List.intercalate_cons_cons, reassemble,
    List.map_cons, List.append_assoc]
  rfl

/-! ## One segment -/

/-- A paragraph is a paragraph again. -/
theorem eager_paragraph {t : Text} (h : (Segment.paragraph t).Tidy) :
    eager t = [.paragraph t] := by
  obtain ⟨hfence, hlines, hending⟩ := h
  have hself : t.rdropWhile (· == '\r') = t := by
    refine List.rdropWhile_eq_self_iff.2 fun hne hr => hending ?_
    rw [List.getLast?_eq_some_getLast hne, beq_iff_eq.1 hr]
  rw [eager, pieces_eq_singleton hfence, segmentsOfPieces_singleton, paragraphs,
    runs_eq_singleton (List.splitOn_ne_nil _ _) hlines, List.map_singleton, paragraphOfRun,
    List.intercalate_splitOn, hself]
  rfl

/-- Written code is one piece between two that are empty. -/
theorem pieces_written_code {language body : Text} (hlanguage : ¬fence <:+: language)
    (hbody : ¬fence <:+: body) :
    pieces (Segment.code language body).written = [[], language ++ '\n' :: body ++ ['\n'], []] := by
  have hinner : pieces (language ++ '\n' :: body) = [language ++ '\n' :: body] :=
    pieces_append_newline (show pieces language = [] ++ [language] from
      pieces_eq_singleton hlanguage) (pieces_eq_singleton hbody)
  have hclosed : pieces (language ++ '\n' :: body ++ '\n' :: fence) =
      [language ++ '\n' :: body ++ ['\n'], []] :=
    pieces_append_newline (show _ = [] ++ [_] from hinner) rfl
  rw [Segment.written, List.append_assoc, List.append_assoc, pieces_fence_append,
    ← List.append_assoc, hclosed]

/-- The code of a written piece. -/
theorem codeOfPiece_written {language body : Text} (htrim : language.trim = language)
    (hline : '\n' ∉ language) :
    codeOfPiece (language ++ '\n' :: body ++ ['\n']) = .code language (dropLastIf '\r' body) := by
  have hlines : (language ++ '\n' :: body ++ ['\n']).splitOn '\n' =
      language :: List.splitOn '\n' (body ++ ['\n']) := by
    rw [List.append_assoc, List.cons_append, List.splitOn_append_cons_self_of_not_mem hline]
  have hbody : ['\n'].intercalate (List.splitOn '\n' (body ++ ['\n'])) = body ++ ['\n'] :=
    List.intercalate_splitOn '\n'
  rw [codeOfPiece, hlines]
  rcases hl : List.splitOn '\n' (body ++ ['\n']) with _ | ⟨line, lines⟩
  · exact absurd hl (List.splitOn_ne_nil _ _)
  · rw [hl] at hbody
    simp only [hbody, htrim, dropLastIf_concat, if_true]

/-- One segment is read where one is written. -/
theorem eager_written {s : Segment} (h : s.Tidy) : eager s.written = [s.reread] := by
  cases h with
  | paragraph hfence hlines hending => exact eager_paragraph (.paragraph hfence hlines hending)
  | code hlanguage hbody htrim hline =>
    rw [eager, pieces_written_code hlanguage hbody, segmentsOfPieces_cons_cons,
      codeOfPiece_written htrim hline]
    rfl

/-- All fences of a written segment are closed. -/
theorem length_pieces_written {s : Segment} (h : s.Tidy) : (pieces s.written).length % 2 = 1 := by
  cases h with
  | paragraph hfence =>
    rw [Segment.written, pieces_eq_singleton hfence]
    rfl
  | code hlanguage hbody =>
    rw [pieces_written_code hlanguage hbody, List.length_cons, List.length_cons,
      List.length_singleton]

/-! ## All segments -/

/-- What is read from the text that segments are written as. -/
theorem eager_reassemble {segs : List Segment} (h : ∀ s ∈ segs, s.Tidy) :
    eager (reassemble segs) = segs.map Segment.reread := by
  induction segs with
  | nil => rfl
  | cons s segs ih =>
    have hs : s.Tidy := h s List.mem_cons_self
    cases segs with
    | nil => rw [reassemble_singleton, eager_written hs, List.map_singleton]
    | cons t segs =>
      rw [reassemble_cons_cons, eager_append_blank (length_pieces_written hs), eager_written hs,
        ih fun u hu => h u (List.mem_cons_of_mem s hu)]
      rfl

theorem dropLastIf_eq_self_iff {c : Char} {t : Text} :
    dropLastIf c t = t ↔ t.getLast? ≠ some c := by
  rcases List.eq_nil_or_concat t with rfl | ⟨init, x, rfl⟩
  · simp
  · rw [List.concat_eq_append, dropLastIf_concat, List.getLast?_concat, Ne, Option.some_inj]
    split <;> simp_all

/-- Just the code that ends in a carriage return is read otherwise than it was written. -/
theorem reread_eq_self_iff {s : Segment} :
    s.reread = s ↔ ∀ language body, s = .code language body → body.getLast? ≠ some '\r' := by
  cases s with
  | paragraph t => simp [Segment.reread]
  | code language body =>
    rw [Segment.reread, Segment.code.injEq, dropLastIf_eq_self_iff]
    constructor
    · rintro ⟨-, h⟩ _ _ he
      cases he
      exact h
    · exact fun h => ⟨rfl, h _ _ rfl⟩

/-- The segments of a text are read again from the text that they are written as exactly if no code
    among them ends in a carriage return. -/
theorem segments_reassemble_iff (content : Text) :
    segments (reassemble (segments content)) = segments content ↔
      ∀ language body, .code language body ∈ segments content → body.getLast? ≠ some '\r' := by
  rw [segments_eq_eager, segments_eq_eager, eager_reassemble fun s => tidy_of_mem_eager]
  constructor
  · intro h language body hs
    have hself : (Segment.code language body).reread = .code language body :=
      List.map_inj_left.1 (h.trans (List.map_id _).symm) _ hs
    exact reread_eq_self_iff.1 hself _ _ rfl
  · intro h
    refine (List.map_congr_left fun s hs => ?_).trans (List.map_id _)
    exact reread_eq_self_iff.2 fun language body he => h language body (he ▸ hs)

example : segments (fence ++ ['\n', 'x', '\r', '\r'] ++ fence) = [.code [] ['x', '\r']] := by
  rw [segments_eq_eager]
  decide +kernel

/-! ## Paragraphs by themselves -/

/-- What can be relied on where segments are shown: no fence is left in any of them; a language is
    one line without space around it; and a paragraph is made of lines that are not blank, with no
    break at its end, so that read by itself it is that one paragraph again. -/
theorem segments_tidy (content : Text) :
    (∀ s ∈ segments content, ¬fence <:+: s.text ∧
      ∀ language ∈ s.language?, ¬fence <:+: language ∧ language.trim = language ∧
        '\n' ∉ language) ∧
    ∀ p, .paragraph p ∈ segments content →
      p.isBlank = false ∧ (∀ line ∈ p.splitOn '\n', Text.isBlank line = false) ∧
        p.firstLine.isBlank = false ∧ p.getLast? ≠ some '\n' ∧ p.getLast? ≠ some '\r' ∧
        segments p = [.paragraph p] := by
  rw [segments_eq_eager]
  refine ⟨fun s hs => ?_, fun p hp => ?_⟩
  · cases tidy_of_mem_eager hs with
    | paragraph hfence => exact ⟨hfence, fun _ hl => nomatch hl⟩
    | code hlanguage hbody htrim hline =>
      refine ⟨hbody, fun l hl => ?_⟩
      cases hl
      exact ⟨hlanguage, htrim, hline⟩
  · cases tidy_of_mem_eager hp with
    | paragraph hfence hlines hending =>
      obtain ⟨hfirst, hblank, hbreak⟩ := not_isBlank_of_lines hlines
      exact ⟨hblank, hlines, hfirst, hbreak, hending,
        (segments_eq_eager p).trans (eager_paragraph (.paragraph hfence hlines hending))⟩

end CircuitHub

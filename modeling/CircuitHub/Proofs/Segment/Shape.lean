import CircuitHub.Proofs.Segment.Eager

/-!
# The shape of segments

What the segments of a text are like, whatever the text (`Segment.Tidy`). No fence is within any of
them, paragraphs have no blank lines, and languages have no space around them. The cuts that make
a segment are what makes it so: a piece has no fence, a run of lines has no blank one, and what
is taken off at the ends of a paragraph or a language never leaves it ending in the same.

* `tidy_of_mem_eager`: every segment of a text has this shape.
-/

namespace CircuitHub

/-- What segments of a text are like. -/
inductive Segment.Tidy : Segment → Prop
  | paragraph {t : Text} (unfenced : ¬fence <:+: t)
    (lines : ∀ line ∈ t.splitOn '\n', Text.isBlank line = false)
    (ending : t.getLast? ≠ some '\r') : Tidy (.paragraph t)
  | code {language body : Text} (unfencedLanguage : ¬fence <:+: language)
    (unfencedBody : ¬fence <:+: body) (trimmed : language.trim = language)
    (oneLine : '\n' ∉ language) : Tidy (.code language body)

/-! ## Paragraphs -/

/-- What is dropped at the end is dropped from the last part, if some of that part stays. -/
theorem rdropWhile_append {α : Type} {p : α → Bool} {t : List α} (h : t.rdropWhile p ≠ [])
    (s : List α) : (s ++ t).rdropWhile p = s ++ t.rdropWhile p := by
  have hne : ((t.reverse).dropWhile p).isEmpty ≠ true := by
    simpa [List.rdropWhile] using h
  rw [List.rdropWhile, List.reverse_append, List.dropWhile_append, if_neg hne, List.reverse_append,
    List.reverse_reverse]
  rfl

/-- A line that is not blank is not blank without the carriage returns at its end. -/
theorem isBlank_rdropWhile {line : Text} (h : line.isBlank = false) :
    Text.isBlank (line.rdropWhile (· == '\r')) = false := by
  rw [Text.isBlank, List.all_eq_false] at h ⊢
  obtain ⟨c, hc, hspace⟩ := h
  rw [← List.rdropWhile_append_rtakeWhile (p := (· == '\r')) (l := line), List.mem_append] at hc
  refine ⟨c, hc.resolve_right fun hc => ?_, hspace⟩
  obtain rfl : c = '\r' := by simpa using List.mem_rtakeWhile_imp hc
  exact hspace (by decide)

/-- No carriage return at the end of the last line belongs to the paragraph. -/
theorem paragraphOfRun_concat (run : List Text) {line : Text} (h : line.isBlank = false) :
    paragraphOfRun (run ++ [line]) = ['\n'].intercalate (run ++ [line.rdropWhile (· == '\r')]) := by
  have hne : line.rdropWhile (· == '\r') ≠ [] := fun he => by
    have := isBlank_rdropWhile h
    rw [he] at this
    exact nomatch this
  rcases eq_or_ne run [] with rfl | hrun
  · simp [paragraphOfRun]
  · rw [paragraphOfRun, intercalate_append hrun (by simp), intercalate_append hrun (by simp),
      List.intercalate_singleton, List.intercalate_singleton, List.append_cons,
      rdropWhile_append hne, ← List.append_cons]

/-- The lines of a paragraph are those of its run, but for the end of the last one. -/
theorem splitOn_paragraphOfRun {run : List Text} {line : Text} (h : line.isBlank = false)
    (hbreak : ∀ l ∈ run ++ [line], '\n' ∉ l) :
    (paragraphOfRun (run ++ [line])).splitOn '\n' = run ++ [line.rdropWhile (· == '\r')] := by
  rw [paragraphOfRun_concat run h, List.splitOn_intercalate '\n' _ (by simp)]
  intro l hl
  rcases List.mem_append.1 hl with hl | hl
  · exact hbreak l (List.mem_append_left _ hl)
  · rw [List.mem_singleton.1 hl]
    exact fun hc => hbreak line (by simp) ((List.rdropWhile_prefix _ _).subset hc)

theorem getLast?_paragraphOfRun (run : List Text) :
    (paragraphOfRun run).getLast? ≠ some '\r' := by
  intro hr
  have hne : paragraphOfRun run ≠ [] := by
    rintro he
    rw [he] at hr
    exact nomatch hr
  exact List.rdropWhile_last_not _ _ hne (beq_iff_eq.2 (List.getLast_of_getLast?_eq_some hr))

theorem tidy_of_mem_paragraphs {prose p : Text} (hprose : ¬fence <:+: prose)
    (hp : p ∈ paragraphs prose) : (Segment.paragraph p).Tidy := by
  have hfence : ¬fence <:+: p := fun h => hprose (h.trans (infix_of_mem_paragraphs hp))
  obtain ⟨run, hrun, rfl⟩ := List.mem_map.1 hp
  obtain ⟨hne, hblank⟩ := not_isBlank_of_mem_runs hrun
  refine .paragraph hfence ?_ (getLast?_paragraphOfRun run)
  obtain ⟨init, last, rfl⟩ := List.eq_nil_or_concat run |>.resolve_left hne
  rw [List.concat_eq_append] at hrun hblank ⊢
  have hlast : last.isBlank = false := hblank last (by simp)
  rw [splitOn_paragraphOfRun hlast fun l hl =>
    newline_not_mem_of_mem_splitOn ((infix_of_mem_runs hrun).subset hl)]
  intro line hline
  rcases List.mem_append.1 hline with hl | hl
  · exact hblank line (List.mem_append_left _ hl)
  · rw [List.mem_singleton.1 hl]
    exact isBlank_rdropWhile hlast

/-- Lines none of which is blank make up a text that begins with such a line and is not blank, and at
    whose end there is no line break. -/
theorem not_isBlank_of_lines {t : Text} (h : ∀ line ∈ t.splitOn '\n', Text.isBlank line = false) :
    t.firstLine.isBlank = false ∧ t.isBlank = false ∧ t.getLast? ≠ some '\n' := by
  have hfirst : t.firstLine.isBlank = false := h t.firstLine <| by
    rw [splitOn_newline t]
    exact List.mem_cons_self
  refine ⟨hfirst, ?_, fun hlast => ?_⟩
  · obtain ⟨c, hc, hspace⟩ := List.all_eq_false.1 hfirst
    exact List.all_eq_false.2 ⟨c, (List.takeWhile_prefix _).subset hc, hspace⟩
  · -- What would follow the break is a line as well, and it is empty.
    obtain ⟨init, rfl⟩ := List.getLast?_eq_some_iff.1 hlast
    have hempty : [] ∈ (init ++ ['\n']).splitOn '\n' := by
      rw [List.splitOn_append_cons_self]
      simp
    exact absurd (h [] hempty) (by decide)

/-! ## Code -/

theorem codeOfPiece_tidy {piece : Text} (hpiece : ¬fence <:+: piece) :
    (codeOfPiece piece).Tidy := by
  obtain ⟨htext, hlanguage⟩ := codeOfPiece_isInfix piece
  generalize hs : codeOfPiece piece = s at htext hlanguage ⊢
  rw [codeOfPiece] at hs
  split at hs
  · rename_i language line lines hlines
    subst hs
    have hbreak : '\n' ∉ language := newline_not_mem_of_mem_splitOn (hlines ▸ List.mem_cons_self)
    exact .code (fun hf => hpiece (hf.trans (hlanguage _ rfl))) (fun hf => hpiece (hf.trans htext))
      (Text.trim_trim language) fun hc => hbreak ((Text.trim_isInfix language).subset hc)
  · subst hs
    exact .code not_fence_infix_nil (fun hf => hpiece (hf.trans htext)) rfl List.not_mem_nil

/-! ## All segments -/

/-- Every segment of a text has this shape. -/
theorem tidy_of_mem_eager {content : Text} {s : Segment} (h : s ∈ eager content) : s.Tidy := by
  obtain ⟨piece, hpiece, ⟨p, hp, rfl⟩ | rfl⟩ := mem_segmentsOfPieces h
  · exact tidy_of_mem_paragraphs (not_fence_infix_of_mem_pieces hpiece) hp
  · exact codeOfPiece_tidy (not_fence_infix_of_mem_pieces hpiece)

end CircuitHub

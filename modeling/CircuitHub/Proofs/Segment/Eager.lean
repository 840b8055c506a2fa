import CircuitHub.Proofs.Segment.Cuts
import CircuitHub.Proofs.Segment.Pieces
import CircuitHub.Proofs.Text.Scan

/-!
# All segments at once

A stream gives one segment after the other, and remembers in between what it has not read, the
prose at hand and the code after it. What the segments of a text are can be said without it
(`eager`): the text is parted at its fences, and the pieces are by turns prose, which has
paragraphs, and code, which is one segment.

* `Stream.remaining`: what a stream has still to give, in the same terms; each segment that it gives
  is the first of these (`Stream.remaining_of_next?_eq_some`), and it ends when there are none
  (`Stream.remaining_of_next?_eq_none`);
* `yields_eager`: the stream of a text gives its segments and ends, and cuts no character.
-/

namespace CircuitHub

/-- The text without a character at its end, if it ends in that character. -/
def dropLastIf (c : Char) (t : Text) : Text := (t.dropSuffix? [c]).getD t

/-- The code of a piece. The first of several lines is its language, and one break is not part of
    the body: a line feed, and a carriage return before it. -/
def codeOfPiece (piece : Text) : Segment :=
  match piece.splitOn '\n' with
  | language :: line :: lines =>
    .code (Text.trim language)
      (dropLastIf '\r' (dropLastIf '\n' (['\n'].intercalate (line :: lines))))
  | _ => .code [] (Text.trim piece)

/-- The segments of pieces: those in even places are prose, and the others are code. -/
def segmentsOfPieces (ps : List Text) : List Segment :=
  (ps.mapIdx fun i piece =>
    if i % 2 = 0 then (paragraphs piece).map .paragraph else [codeOfPiece piece]).flatten

/-- The segments of a text, at once. -/
def eager (content : Text) : List Segment := segmentsOfPieces (pieces content)

/-! ## Pieces -/

@[simp] theorem segmentsOfPieces_nil : segmentsOfPieces [] = [] := rfl

@[simp] theorem segmentsOfPieces_singleton (p : Text) :
    segmentsOfPieces [p] = (paragraphs p).map .paragraph := by
  simp [segmentsOfPieces]

/-- After an even number of pieces, prose comes next again. -/
theorem segmentsOfPieces_append {ps : List Text} (h : ps.length % 2 = 0) (qs : List Text) :
    segmentsOfPieces (ps ++ qs) = segmentsOfPieces ps ++ segmentsOfPieces qs := by
  simp [segmentsOfPieces, List.mapIdx_append, Nat.add_mod, h]

theorem segmentsOfPieces_cons_cons (p q : Text) (ps : List Text) :
    segmentsOfPieces (p :: q :: ps) =
      (paragraphs p).map .paragraph ++ codeOfPiece q :: segmentsOfPieces ps := by
  rw [show p :: q :: ps = [p, q] ++ ps from rfl, segmentsOfPieces_append (by simp)]
  simp [segmentsOfPieces]

/-! ## Code -/

@[simp] theorem dropLastIf_nil (c : Char) : dropLastIf c [] = [] := by
  simp [dropLastIf, List.dropSuffix?]

theorem dropLastIf_concat (c x : Char) (t : Text) :
    dropLastIf c (t ++ [x]) = if x = c then t else t ++ [x] := by
  rw [dropLastIf]
  split
  · rename_i h
    rw [List.dropSuffix?_eq_some_iff.2 ⟨[x], rfl, by simp [h]⟩]
    rfl
  · rename_i h
    cases hd : (t ++ [x]).dropSuffix? [c] with
    | none => rfl
    | some p =>
      obtain ⟨s, hs, he⟩ := List.dropSuffix?_eq_some_iff.1 hd
      obtain rfl : s = [c] := by simpa using he
      exact absurd (by simpa using (List.append_inj' hs rfl).2) h

theorem dropSuffix_singleton (t : Text) (c : Char) : t.dropSuffix [c] = dropLastIf c t := by
  rcases List.eq_nil_or_concat t with rfl | ⟨init, x, rfl⟩
  · simp [Text.dropSuffix]
  · rw [List.concat_eq_append, dropLastIf_concat, Text.dropSuffix]
    by_cases h : x = c
    · simp [h, List.isSuffixOf_iff_suffix]
    · have hs : ¬[c] <:+ init ++ [x] := fun ⟨r, hr⟩ =>
        h (by simpa using (List.append_inj' hr rfl).2.symm)
      simp [h, List.isSuffixOf_iff_suffix, hs]

theorem contains_newline (t : Text) : t.contains ['\n'] = true ↔ '\n' ∈ t := by
  rw [Text.contains, Text.cut?_newline]
  split <;> simp_all

/-- What stands between two fences is read as the code of that piece. -/
theorem ofFenced_eq_codeOfPiece (piece : Text) : Segment.ofFenced piece = codeOfPiece piece := by
  rw [Segment.ofFenced, codeOfPiece, splitOn_newline, linesBelow]
  by_cases h : '\n' ∈ piece
  · rw [if_pos ((contains_newline piece).2 h), if_pos h, dropSuffix_singleton, dropSuffix_singleton]
    have hlines : ['\n'].intercalate (List.splitOn '\n' piece.afterLine) = piece.afterLine :=
      List.intercalate_splitOn '\n'
    rcases hl : List.splitOn '\n' piece.afterLine with _ | ⟨line, lines⟩
    · exact absurd hl (List.splitOn_ne_nil _ _)
    · rw [hl] at hlines
      simp only [hlines]
  · rw [if_neg (mt (contains_newline piece).1 h), if_neg h]

namespace Stream

/-- The segments that a stream has still to give. -/
def remaining (s : Stream) : List Segment :=
  (paragraphs s.prose).map .paragraph ++ s.pending?.toList ++ eager s.rest

/-- Looking for the next fence changes nothing of what is to come. -/
theorem remaining_refill (rest : Text) : (refill rest).remaining = eager rest := by
  rw [refill]
  split
  · rename_i h
    rw [eager, pieces_of_cut?_eq_none h, segmentsOfPieces_singleton, remaining]
    simp [eager]
  · rename_i prose opened h
    rw [eager, pieces_of_cut?_eq_some h]
    split
    · rename_i inner after h'
      rw [pieces_of_cut?_eq_some h', segmentsOfPieces_cons_cons, remaining, ofFenced_eq_codeOfPiece]
      simp [eager]
    · rename_i h'
      rw [pieces_of_cut?_eq_none h', segmentsOfPieces_cons_cons, remaining, ofFenced_eq_codeOfPiece]
      simp [eager]

/-- What is ready is the first of what is to come. -/
theorem remaining_of_ready?_eq_some {s t : Stream} {x : Segment} (h : s.ready? = some (x, t)) :
    s.remaining = x :: t.remaining := by
  rw [ready?] at h
  split at h
  · rename_i p prose hp
    cases h
    rw [remaining, paragraphs_of_nextParagraph?_eq_some hp]
    rfl
  · rename_i hp
    rw [Option.map_eq_some_iff] at h
    obtain ⟨code, hcode, he⟩ := h
    cases he
    rw [remaining, paragraphs_of_nextParagraph?_eq_none hp, hcode]
    rfl

/-- If nothing is ready, all that is to come is in what has not been searched. -/
theorem remaining_of_ready?_eq_none {s : Stream} (h : s.ready? = none) :
    s.remaining = eager s.rest := by
  rw [ready?] at h
  split at h
  · cases h
  · rename_i hp
    rw [Option.map_eq_none_iff] at h
    rw [remaining, paragraphs_of_nextParagraph?_eq_none hp, h]
    rfl

theorem pending?_of_ready?_eq_none {s : Stream} (h : s.ready? = none) : s.pending? = none := by
  rw [ready?] at h
  split at h
  · cases h
  · exact Option.map_eq_none_iff.1 h

/-- Where no code is found, all has been searched. -/
theorem rest_refill {rest : Text} (h : (refill rest).pending? = none) :
    (refill rest).rest = [] := by
  rw [refill] at h ⊢
  split
  · rfl
  · rename_i prose opened hc
    rw [hc] at h
    split
    · rename_i hc'
      simp only [hc'] at h
      cases h
    · rfl

/-- A segment that comes next is the first of what is to come. -/
theorem remaining_of_next?_eq_some {s t : Stream} {x : Segment} (h : s.next? = some (x, t)) :
    s.remaining = x :: t.remaining := by
  rw [next?] at h
  rcases hr : s.ready? with _ | ⟨y, u⟩
  · rw [hr, Option.none_or] at h
    split at h
    · cases h
    · rw [remaining_of_ready?_eq_none hr, ← remaining_refill, remaining_of_ready?_eq_some h]
  · rw [hr, Option.some_or] at h
    cases h
    exact remaining_of_ready?_eq_some hr

/-- No segment comes next only if none is to come. -/
theorem remaining_of_next?_eq_none {s : Stream} (h : s.next? = none) : s.remaining = [] := by
  rw [next?, Option.or_eq_none_iff] at h
  obtain ⟨hr, h⟩ := h
  rw [remaining_of_ready?_eq_none hr]
  split at h
  · rename_i he
    rw [List.isEmpty_iff.1 he]
    rfl
  · rw [← remaining_refill, remaining_of_ready?_eq_none h,
      rest_refill (pending?_of_ready?_eq_none h)]
    rfl

/-- The stream gives these segments one after the other, and then no more. -/
inductive Yields : Stream → List Segment → Prop
  | done {s : Stream} : s.next? = none → Yields s []
  | next {s t : Stream} {x : Segment} {xs : List Segment} :
    s.next? = some (x, t) → Yields t xs → Yields s (x :: xs)

theorem yields_remaining (s : Stream) : s.Yields s.remaining := by
  fun_induction toList s with
  | case1 s h =>
    rw [remaining_of_next?_eq_none h]
    exact .done h
  | case2 s x t h ih =>
    rw [remaining_of_next?_eq_some h]
    exact .next h ih

theorem Yields.toList_eq {s : Stream} {xs : List Segment} (h : s.Yields xs) : s.toList = xs := by
  induction h with
  | done h => rw [toList, h]
  | next h _ ih =>
    rw [toList]
    split
    · rename_i h'
      cases h.symm.trans h'
    · rename_i h'
      cases h.symm.trans h'
      rw [ih]

end Stream

/-! ## Texts that meet at an empty line -/

/-- If each fence that a text opens is closed in it, what follows an empty line after it has
    segments of its own. -/
theorem eager_append_blank {above : Text} (h : (pieces above).length % 2 = 1) (below : Text) :
    eager (above ++ '\n' :: '\n' :: below) = eager above ++ eager below := by
  obtain ⟨ps, p, hps⟩ := (List.eq_nil_or_concat (pieces above)).resolve_left (pieces_ne_nil above)
  obtain ⟨q, qs, hqs⟩ := List.exists_cons_of_ne_nil (pieces_ne_nil below)
  rw [List.concat_eq_append] at hps
  have hbreak : pieces ('\n' :: below) = ('\n' :: q) :: qs :=
    pieces_append_newline (show pieces [] = [] ++ [[]] from rfl) hqs
  have hlen : ps.length % 2 = 0 := by
    rw [hps, List.length_append, List.length_singleton] at h
    omega
  -- The prose that the two texts share at the empty line has the paragraphs of both.
  rw [eager, eager, eager, pieces_append_newline hps hbreak, hps, hqs,
    segmentsOfPieces_append hlen, segmentsOfPieces_append hlen, segmentsOfPieces_singleton]
  cases qs with
  | nil =>
    rw [segmentsOfPieces_singleton, segmentsOfPieces_singleton, paragraphs_append_blank,
      List.map_append, List.append_assoc]
  | cons c qs =>
    rw [segmentsOfPieces_cons_cons, segmentsOfPieces_cons_cons, paragraphs_append_blank,
      List.map_append, List.append_assoc, List.append_assoc]

/-! ## Slices -/

theorem mem_segmentsOfPieces {ps : List Text} {s : Segment} (h : s ∈ segmentsOfPieces ps) :
    ∃ piece ∈ ps, (∃ p ∈ paragraphs piece, s = .paragraph p) ∨ s = codeOfPiece piece := by
  obtain ⟨l, hl, hs⟩ := List.mem_flatten.1 h
  obtain ⟨i, hi, rfl⟩ := List.mem_mapIdx.1 hl
  refine ⟨ps[i], List.getElem_mem hi, ?_⟩
  split at hs
  · obtain ⟨p, hp, rfl⟩ := List.mem_map.1 hs
    exact .inl ⟨p, hp, rfl⟩
  · exact .inr (List.mem_singleton.1 hs)

theorem dropLastIf_isPrefix (c : Char) (t : Text) : dropLastIf c t <+: t := by
  rw [← dropSuffix_singleton, Text.dropSuffix]
  split
  · exact List.take_prefix _ _
  · exact List.prefix_rfl

/-- Language and body of some code stand in its piece as they are. -/
theorem codeOfPiece_isInfix (piece : Text) :
    (codeOfPiece piece).text <:+: piece ∧ ∀ l ∈ (codeOfPiece piece).language?, l <:+: piece := by
  rw [codeOfPiece]
  split
  · rename_i language line lines h
    have hpiece : ['\n'].intercalate (piece.splitOn '\n') = piece := List.intercalate_splitOn '\n'
    rw [h, List.intercalate_cons_cons] at hpiece
    rw [← hpiece, Segment.text, Segment.language?]
    refine ⟨?_, fun l hl => ?_⟩
    · exact ((dropLastIf_isPrefix _ _).trans (dropLastIf_isPrefix _ _)).isInfix.trans
        (List.suffix_append _ _).isInfix
    · cases hl
      exact (Text.trim_isInfix language).trans ((List.prefix_append _ _).trans
        (List.prefix_append _ _)).isInfix
  · exact ⟨Text.trim_isInfix piece, fun l hl => by cases hl; exact List.nil_infix⟩

/-- What a segment holds stands in the text as it is. -/
theorem infix_of_mem_eager {content : Text} {s : Segment} (h : s ∈ eager content) :
    s.text <:+: content ∧ ∀ l ∈ s.language?, l <:+: content := by
  obtain ⟨piece, hpiece, ⟨p, hp, rfl⟩ | rfl⟩ := mem_segmentsOfPieces h
  · exact ⟨(infix_of_mem_paragraphs hp).trans (infix_of_mem_pieces hpiece), fun _ hl => nomatch hl⟩
  · obtain ⟨htext, hlanguage⟩ := codeOfPiece_isInfix piece
    exact ⟨htext.trans (infix_of_mem_pieces hpiece),
      fun l hl => (hlanguage l hl).trans (infix_of_mem_pieces hpiece)⟩

theorem segments_eq_eager (content : Text) : segments content = eager content :=
  (Stream.yields_remaining (.start content)).toList_eq

/-- The stream of a text gives, one after the other, the paragraphs of the prose between its fences
    and the code within them, and then ends. What it gives are runs of whole characters of the
    text, and whatever has been read, no character is cut to find what comes next. -/
theorem yields_eager (content : Text) :
    (Stream.start content).Yields (eager content) ∧ segments content = eager content ∧
      (∀ s ∈ segments content, s.text <:+: content ∧ ∀ l ∈ s.language?, l <:+: content) ∧
      ∀ s : Stream, s.cutNext? = some s.next? := by
  rw [segments_eq_eager]
  exact ⟨Stream.yields_remaining (.start content), rfl, fun _ hs => infix_of_mem_eager hs,
    Stream.cutNext?_eq⟩

end CircuitHub

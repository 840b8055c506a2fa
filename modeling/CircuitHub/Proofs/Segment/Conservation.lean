import CircuitHub.Proofs.Segment.Eager

/-!
# What segments keep of a text

Reading a text in segments drops blank lines, the space around languages, breaks before closing
fences and carriage returns at the ends of paragraphs. All of this is white space, so that nothing
is lost of the text without it (`Text.solid`), nor is anything said twice or in another order. Each
piece of the text keeps what is solid in it: prose in its paragraphs (`flatMap_solid_paragraphs`),
and code in language and body (`codeOfPiece_solid`).

* `fenceCount`: how many fences a text has, which decides whether the last of them is closed;
* `solid_segments`: the solid text is that of the segments, with the fences around code.
-/

namespace CircuitHub

/-- The text without its white space. -/
def Text.solid (t : Text) : Text := t.filter (!isSpace ·)

/-- How many fences there are in a text, taken from left to right so that no two overlap. -/
def fenceCount : Text → Nat
  | [] => 0
  | '\x60' :: '\x60' :: '\x60' :: t => fenceCount t + 1
  | _ :: t => fenceCount t

/-- What is solid in a segment, with the fences that open and close code. -/
def Segment.solid : Segment → Text
  | paragraph t => t.solid
  | code language body => fence ++ language.solid ++ body.solid ++ fence

/-! ## Solid text -/

@[simp] theorem solid_nil : Text.solid [] = [] := rfl

@[simp] theorem solid_append (a b : Text) : Text.solid (a ++ b) = a.solid ++ b.solid :=
  List.filter_append a b

theorem solid_fence : fence.solid = fence := rfl

theorem solid_eq_nil {t : Text} (h : ∀ c ∈ t, isSpace c = true) : t.solid = [] :=
  List.filter_eq_nil_iff.2 fun c hc => by simp [h c hc]

theorem solid_eq_nil_of_isBlank {t : Text} (h : t.isBlank = true) : t.solid = [] :=
  solid_eq_nil (List.all_eq_true.1 h)

section Dropped

variable {p : Char → Bool}

/-- Space that is dropped at the beginning is no loss. -/
theorem solid_dropWhile (hp : ∀ c, p c = true → isSpace c = true) (t : Text) :
    Text.solid (t.dropWhile p) = t.solid := by
  have hdropped : Text.solid (t.takeWhile p) = [] :=
    solid_eq_nil fun c hc => hp c (List.mem_takeWhile_imp hc)
  conv_rhs => rw [← List.takeWhile_append_dropWhile (p := p) (l := t), solid_append, hdropped]
  rfl

/-- Space that is dropped at the end is no loss. -/
theorem solid_rdropWhile (hp : ∀ c, p c = true → isSpace c = true) (t : Text) :
    Text.solid (t.rdropWhile p) = t.solid := by
  have hdropped : Text.solid (t.rtakeWhile p) = [] :=
    solid_eq_nil fun c hc => hp c (List.mem_rtakeWhile_imp hc)
  conv_rhs => rw [← List.rdropWhile_append_rtakeWhile (p := p) (l := t), solid_append, hdropped]
  rw [List.append_nil]

end Dropped

theorem solid_trim (t : Text) : t.trim.solid = t.solid :=
  (solid_rdropWhile (fun _ h => h) t.trimStart).trans (solid_dropWhile (fun _ h => h) t)

theorem solid_dropLastIf {c : Char} (hc : isSpace c = true) (t : Text) :
    (dropLastIf c t).solid = t.solid := by
  rcases List.eq_nil_or_concat t with rfl | ⟨init, x, rfl⟩
  · rw [dropLastIf_nil]
  · rw [List.concat_eq_append, dropLastIf_concat]
    split
    · rename_i hx
      have hlast : Text.solid [x] = [] := solid_eq_nil fun y hy => by
        rw [List.mem_singleton.1 hy, hx, hc]
      rw [solid_append, hlast, List.append_nil]
    · rfl

/-- The breaks between lines are not solid. -/
theorem solid_intercalate_newline (lines : List Text) :
    Text.solid (['\n'].intercalate lines) = lines.flatMap Text.solid := by
  have hbreak : Text.solid ['\n'] = [] := by decide
  induction lines with
  | nil => rfl
  | cons line lines ih =>
    cases lines with
    | nil => simp
    | cons line' lines =>
      rw [List.intercalate_cons_cons, solid_append, solid_append, hbreak, ih, List.append_nil]
      rfl

/-! ## Prose -/

/-- Lines that are in no run are blank. -/
theorem flatMap_solid_runs (lines : List Text) :
    (runs lines).flatMap (·.flatMap Text.solid) = lines.flatMap Text.solid := by
  have hempty : ∀ parts : List (List Text), (parts.filter fun run => !run.isEmpty).flatMap
      (·.flatMap Text.solid) = parts.flatMap (·.flatMap Text.solid) := by
    intro parts
    induction parts with
    | nil => rfl
    | cons run parts ih => cases run <;> simp [ih]
  rw [runs, hempty]
  -- A blank line ends a run and is in none, any other is the first line of the run at hand.
  induction lines with
  | nil => rfl
  | cons line lines ih =>
    obtain ⟨run, parts, hparts⟩ := List.exists_cons_of_ne_nil
      (List.splitOnP_ne_nil Text.isBlank lines)
    rw [List.splitOnP_cons_eq_if_modifyHead, List.flatMap_cons, ← ih]
    split
    · rename_i hblank
      rw [solid_eq_nil_of_isBlank hblank]
      rfl
    · rw [hparts]
      simp

theorem paragraphOfRun_solid (run : List Text) :
    (paragraphOfRun run).solid = run.flatMap Text.solid := by
  have hreturn : ∀ c, (c == '\r') = true → isSpace c = true := by
    intro c hc
    rw [beq_iff_eq.1 hc]
    decide
  rw [paragraphOfRun, solid_rdropWhile hreturn, solid_intercalate_newline]

/-- Prose keeps what is solid in its paragraphs. -/
theorem flatMap_solid_paragraphs (prose : Text) :
    (paragraphs prose).flatMap Text.solid = prose.solid := by
  have hlines : ['\n'].intercalate (prose.splitOn '\n') = prose := List.intercalate_splitOn '\n'
  conv_rhs => rw [← hlines, solid_intercalate_newline, ← flatMap_solid_runs]
  rw [paragraphs, List.flatMap_map]
  exact congrArg (List.flatMap · _) (funext paragraphOfRun_solid)

/-! ## Code -/

/-- Code keeps what is solid in its language and its body. -/
theorem codeOfPiece_solid (piece : Text) :
    ∃ language body, codeOfPiece piece = .code language body ∧
      language.solid ++ body.solid = piece.solid := by
  rw [codeOfPiece]
  split
  · rename_i language line lines hlines
    -- The language is the first line, and the break after it is no loss.
    have hpiece : ['\n'].intercalate (piece.splitOn '\n') = piece := List.intercalate_splitOn '\n'
    refine ⟨_, _, rfl, ?_⟩
    rw [solid_trim, solid_dropLastIf (by decide), solid_dropLastIf (by decide),
      solid_intercalate_newline, ← hpiece, solid_intercalate_newline, hlines]
    rfl
  · exact ⟨_, _, rfl, by rw [solid_nil, solid_trim, List.nil_append]⟩

/-! ## All pieces -/

/-- There is one piece more than there are fences. -/
theorem length_pieces (t : Text) : (pieces t).length = fenceCount t + 1 := by
  fun_induction pieces t with
  | case1 => rfl
  | case2 t ih => rw [List.length_cons, ih, fenceCount]
  | case3 c t h ih => rw [List.length_modifyHead, ih, fenceCount]; exact h

theorem flatMap_solid_paragraph (texts : List Text) :
    (texts.map Segment.paragraph).flatMap Segment.solid = texts.flatMap Text.solid := by
  rw [List.flatMap_map]
  rfl

variable {p q : Text} {ps : List Text}

/-- Prose, and the code after it that is closed, keep what is solid in two pieces and in the fences
    after them. -/
theorem solid_intercalate_cons_cons (hps : ps ≠ []) :
    Text.solid (fence.intercalate (p :: q :: ps)) =
      ((paragraphs p).map Segment.paragraph).flatMap Segment.solid ++ (codeOfPiece q).solid ++
        Text.solid (fence.intercalate ps) := by
  obtain ⟨language, body, hcode, hsolid⟩ := codeOfPiece_solid q
  rw [List.intercalate_cons_cons, List.intercalate_cons_of_ne_nil hps, flatMap_solid_paragraph,
    flatMap_solid_paragraphs, hcode]
  simp [Segment.solid, solid_fence, ← hsolid]

/-- If all fences are closed, what is solid is that of the segments. -/
theorem solid_of_closed : ∀ {ps : List Text}, ps.length % 2 = 1 →
    Text.solid (fence.intercalate ps) = (segmentsOfPieces ps).flatMap Segment.solid
  -- Prose and the code after it are two pieces, so that an odd number ends with prose.
  | [p], _ => by
    rw [List.intercalate_singleton, segmentsOfPieces_singleton, flatMap_solid_paragraph,
      flatMap_solid_paragraphs]
  | [_, _], h => absurd h (by simp)
  | p :: q :: r :: ps, h => by
    have hrest : (r :: ps).length % 2 = 1 := by
      simp only [List.length_cons] at h ⊢
      omega
    rw [solid_intercalate_cons_cons (List.cons_ne_nil r ps), solid_of_closed hrest,
      segmentsOfPieces_cons_cons, List.flatMap_append, List.flatMap_cons, List.append_assoc]

/-- If the last fence is open, the last segment is the code after it. -/
theorem solid_of_open : ∀ {ps : List Text}, ps ≠ [] → ps.length % 2 = 0 →
    ∃ init language body, segmentsOfPieces ps = init ++ [.code language body] ∧
      Text.solid (fence.intercalate ps) =
        init.flatMap Segment.solid ++ (fence ++ language.solid ++ body.solid)
  | [_], _, h => absurd h (by simp)
  | [p, q], _, _ => by
    obtain ⟨language, body, hcode, hsolid⟩ := codeOfPiece_solid q
    refine ⟨(paragraphs p).map .paragraph, language, body, ?_, ?_⟩
    · rw [segmentsOfPieces_cons_cons, hcode, segmentsOfPieces_nil]
    · rw [List.intercalate_cons_cons, List.intercalate_singleton, flatMap_solid_paragraph,
        flatMap_solid_paragraphs, List.append_assoc fence, hsolid]
      simp [solid_fence]
  | p :: q :: r :: ps, _, h => by
    have hrest : (r :: ps).length % 2 = 0 := by
      simp only [List.length_cons] at h ⊢
      omega
    obtain ⟨init, language, body, hsegs, hsolid⟩ := solid_of_open (List.cons_ne_nil r ps) hrest
    refine ⟨(paragraphs p).map .paragraph ++ codeOfPiece q :: init, language, body, ?_, ?_⟩
    · rw [segmentsOfPieces_cons_cons, hsegs, List.append_assoc, List.cons_append]
    · rw [solid_intercalate_cons_cons (List.cons_ne_nil r ps), hsolid, List.flatMap_append,
        List.flatMap_cons]
      simp only [List.append_assoc]

/-- The text without its white space is what is solid in its segments, in order, with each code
    between two fences. Only where the text has an odd number of fences, the code of the last one is
    the last segment and no fence closes it. -/
theorem solid_segments (content : Text) :
    (fenceCount content % 2 = 0 →
      content.solid = (segments content).flatMap Segment.solid) ∧
    (fenceCount content % 2 = 1 → ∃ init language body,
      segments content = init ++ [.code language body] ∧
      content.solid = init.flatMap Segment.solid ++ (fence ++ language.solid ++ body.solid)) := by
  have hpieces := length_pieces content
  rw [segments_eq_eager, eager]
  constructor
  · intro h
    rw [← solid_of_closed (by omega), intercalate_pieces]
  · intro h
    have hopen := solid_of_open (pieces_ne_nil content) (by omega)
    rwa [intercalate_pieces] at hopen

end CircuitHub

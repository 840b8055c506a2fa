import CircuitHub.Proofs.Text.Lines
import CircuitHub.Toml.Document

/-!
# Remarks in documents

A line of a document may say nothing: it is blank, or it is a comment. Such lines are passed over,
one after the other, so that a document of nothing else is the empty table.

* `read?_of_remarks`: a document that says nothing.
-/

namespace CircuitHub.Toml

variable {line : Text}

/-- The line says nothing: at most a comment stands in it. -/
def isRemark (line : Text) : Bool :=
  match skipBlanks line with
  | [] => true
  | c :: comment => c == '#' && comment.all isLineChar

theorem skipLines_nil : skipLines [] = [] := by rw [skipLines]

theorem skipLines_blank {c : Char} (h : isBlankChar c = true) (t : Text) :
    skipLines (c :: t) = skipLines t := by
  rw [skipLines, if_pos (by rw [h, Bool.true_or])]

theorem skipLines_newline (t : Text) : skipLines ('\n' :: t) = skipLines t := by
  rw [skipLines, if_pos (by decide)]

theorem skipLines_comment (t : Text) :
    skipLines ('#' :: t) = skipLines (t.dropWhile isLineChar) := by
  have hreturn : ¬('#' == '\r' && t.head? == some '\n') = true := by simp
  rw [skipLines, if_neg (by decide), if_neg hreturn, if_pos (by decide)]

/-- A comment reaches up to the line break, and a line that says nothing up to what follows it. -/
theorem skipLines_remark_append (h : isRemark line = true) {rest : Text}
    (hrest : ∀ c ∈ rest.head?, isLineChar c = false) :
    skipLines (line ++ rest) = skipLines rest := by
  induction line with
  | nil => rfl
  | cons c line ih =>
    cases hc : isBlankChar c with
    | true =>
      rw [List.cons_append, skipLines_blank hc]
      refine ih ?_
      rwa [isRemark, skipBlanks, List.dropWhile_cons_of_pos hc] at h
    | false =>
      rw [isRemark, skipBlanks, List.dropWhile_cons_of_neg (by simp [hc])] at h
      obtain ⟨rfl, hcomment⟩ : c = '#' ∧ ∀ d ∈ line, isLineChar d = true := by simpa using h
      rw [List.cons_append, skipLines_comment, List.dropWhile_append_of_pos hcomment]
      cases rest with
      | nil => rfl
      | cons d rest => rw [List.dropWhile_cons_of_neg (by simp [hrest d rfl])]

/-- Lines that say nothing are passed over to the end. -/
theorem skipLines_of_remarks {lines : List Text} (h : ∀ line ∈ lines, isRemark line = true) :
    skipLines (['\n'].intercalate lines) = [] := by
  induction lines with
  | nil => exact skipLines_nil
  | cons line lines ih =>
    have hline := h line List.mem_cons_self
    have hlines := fun l hl => h l (List.mem_cons_of_mem line hl)
    rcases eq_or_ne lines [] with rfl | hne
    · rw [List.intercalate_singleton, ← List.append_nil line,
        skipLines_remark_append hline (by simp), skipLines_nil]
    · have hbreak : ∀ c ∈ ('\n' :: ['\n'].intercalate lines).head?, isLineChar c = false := by
        rintro c ⟨⟩
        decide
      rw [List.intercalate_cons_of_ne_nil hne, List.append_assoc, List.singleton_append,
        skipLines_remark_append hline hbreak, skipLines_newline, ih hlines]

theorem statements?_of_skipLines {draft : Draft} {t : Text} (h : skipLines t = []) :
    statements? draft t = some draft := by
  unfold statements?
  rw [h]

/-- A document of lines that say nothing is the empty table. -/
theorem read?_of_remarks {t : Text} (h : ∀ line ∈ t.splitLines, isRemark line = true) :
    read? t = some [] := by
  have hskip : skipLines t = [] := by
    rw [← Text.intercalate_splitLines t]
    exact skipLines_of_remarks h
  unfold read?
  split
  · -- The mark of the byte order would stand in a line that says something.
    rename_i rest
    obtain ⟨line, lines, hlines⟩ := List.exists_cons_of_ne_nil (Text.splitLines_ne_nil rest)
    have hmark : ('\uFEFF' :: line) ∈ Text.splitLines ('\uFEFF' :: rest) := by
      rw [Text.splitLines_cons (by decide), hlines]
      exact List.mem_cons_self
    exact absurd (h _ hmark) (by simp [isRemark, skipBlanks, isBlankChar])
  · exact congrArg (Option.map Draft.entries) (statements?_of_skipLines hskip)

end CircuitHub.Toml

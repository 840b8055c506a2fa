import CircuitHub.Proofs.Text.Parts
import CircuitHub.Text.Basic
import Mathlib.Data.List.Basic

/-!
# The lines of a text

A text is its lines with breaks between them (`Text.intercalate_splitLines`). A line break is a
newline, or a carriage return and a newline. Where a text has whole breaks only, so that a carriage
return stands nowhere else (`Text.HasWholeBreaks`), it is read from its first character on as what
it is made of: breaks, and characters that belong to the line they stand in
(`Text.HasWholeBreaks.rec_breaks`). Each of them does one thing to the lines of the text
(`Text.lines_newline`, `Text.lines_return_newline`, `Text.lines_cons`).
-/

namespace CircuitHub.Text

variable {t line : Text} {c : Char}

/-! ## Between line breaks -/

theorem splitAt_eq_splitOnP (p : Char → Bool) (t : Text) : t.splitAt p = t.splitOnP p := by
  induction t with
  | nil => rw [Text.splitAt, List.splitOnP_nil]
  | cons c t ih =>
    rw [Text.splitAt, List.splitOnP_cons_eq_if_modifyHead, ih]
    obtain ⟨part, parts, hparts⟩ := List.exists_cons_of_ne_nil (List.splitOnP_ne_nil p t)
    rw [hparts]
    rfl

theorem splitLines_eq_splitOn (t : Text) : t.splitLines = t.splitOn '\n' :=
  splitAt_eq_splitOnP _ t

theorem splitLines_ne_nil (t : Text) : t.splitLines ≠ [] := by
  rw [splitLines_eq_splitOn]
  exact List.splitOn_ne_nil '\n' t

/-- A text is its lines with breaks between them. -/
theorem intercalate_splitLines (t : Text) : ['\n'].intercalate t.splitLines = t := by
  rw [splitLines_eq_splitOn, List.intercalate_splitOn]

theorem not_mem_of_mem_splitLines (h : line ∈ t.splitLines) : '\n' ∉ line := by
  rw [splitLines_eq_splitOn] at h
  exact fun hbreak => absurd (not_of_mem_splitOnP h hbreak) (by decide)

theorem splitLines_newline (t : Text) : splitLines ('\n' :: t) = [] :: t.splitLines := rfl

theorem splitLines_cons (hc : c ≠ '\n') (t : Text) :
    splitLines (c :: t) = t.splitLines.modifyHead (c :: ·) := by
  rw [splitLines_eq_splitOn, splitLines_eq_splitOn, List.splitOn, List.splitOn,
    List.splitOnP_cons_eq_if_modifyHead, if_neg (by simpa using hc)]

/-! ## Ended by line breaks -/

/-- Each piece of a text but the last one ends in a line break. -/
theorem lines_eq {pieces : List Text} {last : Text} (h : t.splitLines = pieces ++ [last]) :
    t.lines = pieces.map (·.dropSuffix ['\r']) ++ if last.isEmpty then [] else [last] := by
  simp only [lines, h, List.dropLast_concat, List.getLast?_concat]
  split <;> simp

theorem exists_splitLines_eq (t : Text) : ∃ pieces last, t.splitLines = pieces ++ [last] :=
  ⟨_, _, (List.dropLast_append_getLast t.splitLines_ne_nil).symm⟩

theorem dropSuffix_cons (hc : c ≠ '\r') (t : Text) :
    dropSuffix (c :: t) ['\r'] = c :: t.dropSuffix ['\r'] := by
  have hsuffix : ['\r'] <:+ c :: t ↔ ['\r'] <:+ t := by
    rw [List.suffix_cons_iff, or_iff_right]
    exact fun heq => hc (List.cons.inj heq).1.symm
  simp only [dropSuffix, List.isSuffixOf_iff_suffix, hsuffix]
  split
  · rename_i h
    have hlength : (c :: t).length - ['\r'].length = t.length - ['\r'].length + 1 := by
      have := h.length_le
      simp only [List.length_cons, List.length_nil] at this ⊢
      omega
    rw [hlength, List.take_succ_cons]
  · rfl

/-- A newline ends a line. -/
theorem lines_newline (t : Text) : lines ('\n' :: t) = [] :: t.lines := by
  obtain ⟨pieces, last, h⟩ := t.exists_splitLines_eq
  have hsplit : splitLines ('\n' :: t) = ([] :: pieces) ++ [last] := by
    rw [splitLines_newline, h]
    rfl
  rw [lines_eq hsplit, lines_eq h]
  rfl

/-- A carriage return before a newline belongs to the break. -/
theorem lines_return_newline (t : Text) : lines ('\r' :: '\n' :: t) = [] :: t.lines := by
  obtain ⟨pieces, last, h⟩ := t.exists_splitLines_eq
  have hsplit : splitLines ('\r' :: '\n' :: t) = (['\r'] :: pieces) ++ [last] := by
    rw [splitLines_cons (by decide), splitLines_newline, h]
    rfl
  rw [lines_eq hsplit, lines_eq h]
  rfl

theorem lines_singleton (hc : c ≠ '\n') : lines [c] = [[c]] := by
  have hsplit : splitLines [c] = [] ++ [[c]] := by
    rw [splitLines_cons hc]
    rfl
  rw [lines_eq hsplit]
  rfl

/-- Any other character stands in the first line of the text that it begins. -/
theorem lines_cons (hnewline : c ≠ '\n') (hreturn : c ≠ '\r') (ht : t ≠ []) :
    lines (c :: t) = t.lines.modifyHead (c :: ·) := by
  obtain ⟨pieces, last, h⟩ := t.exists_splitLines_eq
  cases pieces with
  | nil =>
    obtain rfl : t = last := by
      rw [← intercalate_splitLines t, h, List.nil_append, List.intercalate_singleton]
    have hsplit : splitLines (c :: t) = [] ++ [c :: t] := by
      rw [splitLines_cons hnewline, h]
      rfl
    rw [lines_eq hsplit, lines_eq h, List.isEmpty_eq_false_iff.2 ht]
    rfl
  | cons piece pieces =>
    have hsplit : splitLines (c :: t) = ((c :: piece) :: pieces) ++ [last] := by
      rw [splitLines_cons hnewline, h]
      rfl
    rw [lines_eq hsplit, lines_eq h, List.map_cons, List.map_cons, dropSuffix_cons hreturn]
    rfl

/-- So do characters that are no breaks. -/
theorem lines_append {before : Text} (hbefore : ∀ c ∈ before, c ≠ '\n' ∧ c ≠ '\r') (ht : t ≠ []) :
    lines (before ++ t) = t.lines.modifyHead (before ++ ·) := by
  induction before with
  | nil => exact (congrFun List.modifyHead_id t.lines).symm
  | cons c before ih =>
    have ⟨hnewline, hreturn⟩ := hbefore c List.mem_cons_self
    rw [List.cons_append, lines_cons hnewline hreturn (by simp [ht]),
      ih fun c hc => hbefore c (List.mem_cons_of_mem _ hc), List.modifyHead_modifyHead]
    rfl

/-! ## Whole breaks -/

/-- A newline directly follows each carriage return. -/
def HasWholeBreaks (t : Text) : Prop := ∀ i : Nat, t[i]? = some '\r' → t[i + 1]? = some '\n'

theorem hasWholeBreaks_nil : HasWholeBreaks [] := fun _ h => nomatch h

theorem hasWholeBreaks_cons :
    HasWholeBreaks (c :: t) ↔ (c = '\r' → t.head? = some '\n') ∧ t.HasWholeBreaks := by
  constructor
  · intro h
    rw [List.head?_eq_getElem?]
    exact ⟨fun hc => h 0 (by rw [hc, List.getElem?_cons_zero]), fun i hi => h (i + 1) hi⟩
  · rintro ⟨hhead, htail⟩ i hi
    cases i with
    | zero =>
      rw [List.head?_eq_getElem?] at hhead
      exact hhead (Option.some.inj hi)
    | succ i => exact htail i hi

instance decidableHasWholeBreaks : (t : Text) → Decidable t.HasWholeBreaks
  | [] => .isTrue hasWholeBreaks_nil
  | _ :: t =>
    have := decidableHasWholeBreaks t
    decidable_of_iff _ hasWholeBreaks_cons.symm

theorem HasWholeBreaks.newline (h : t.HasWholeBreaks) : HasWholeBreaks ('\n' :: t) :=
  hasWholeBreaks_cons.2 ⟨fun hc => absurd hc (by decide), h⟩

theorem HasWholeBreaks.returned (h : t.HasWholeBreaks) : HasWholeBreaks ('\r' :: '\n' :: t) :=
  hasWholeBreaks_cons.2 ⟨fun _ => rfl, h.newline⟩

theorem HasWholeBreaks.cons (hc : c ≠ '\r') (h : t.HasWholeBreaks) : HasWholeBreaks (c :: t) :=
  hasWholeBreaks_cons.2 ⟨fun h => absurd h hc, h⟩

/-- A text with whole breaks is made of breaks and of characters that are none. -/
@[elab_as_elim]
theorem HasWholeBreaks.rec_breaks {motive : (t : Text) → t.HasWholeBreaks → Prop}
    (nil : motive [] hasWholeBreaks_nil)
    (newline : ∀ (t : Text) (ht : t.HasWholeBreaks), motive t ht → motive ('\n' :: t) ht.newline)
    (returned : ∀ (t : Text) (ht : t.HasWholeBreaks), motive t ht →
      motive ('\r' :: '\n' :: t) ht.returned)
    (last : ∀ (c : Char) (_ : c ≠ '\n') (hreturn : c ≠ '\r'),
      motive [c] (hasWholeBreaks_nil.cons hreturn))
    (other : ∀ (c : Char) (t : Text) (_ : c ≠ '\n') (hreturn : c ≠ '\r') (_ : t ≠ [])
      (ht : t.HasWholeBreaks), motive t ht → motive (c :: t) (ht.cons hreturn)) :
    ∀ (t : Text) (h : t.HasWholeBreaks), motive t h
  | [], _ => nil
  | [c], h => by
    have hreturn : c ≠ '\r' := fun hc => nomatch (hasWholeBreaks_cons.1 h).1 hc
    by_cases hc : c = '\n'
    · subst hc
      exact newline [] hasWholeBreaks_nil nil
    · exact last c hc hreturn
  | c :: d :: t, h => by
    obtain ⟨hhead, htail⟩ := hasWholeBreaks_cons.1 h
    by_cases hreturn : c = '\r'
    · obtain rfl : d = '\n' := by simpa using hhead hreturn
      subst hreturn
      have ht := (hasWholeBreaks_cons.1 htail).2
      exact returned t ht (rec_breaks nil newline returned last other t ht)
    · have hbelow := rec_breaks nil newline returned last other (d :: t) htail
      by_cases hnewline : c = '\n'
      · subst hnewline
        exact newline _ htail hbelow
      · exact other c (d :: t) hnewline hreturn (List.cons_ne_nil d t) htail hbelow

end CircuitHub.Text

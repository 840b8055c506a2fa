import CircuitHub.Library
import CircuitHub.Proofs.Text.Scan
import Mathlib.Data.List.Infix

/-!
# Narrowing a search

Who goes on typing a term finds fewer parts, and never others (`Library.search_narrows`). The white
space around a term does not count, so that a blank typed at its end counts only when something else
follows; but what is left of a term by trimming is the start of what is left of any longer term
(`Text.trim_prefix`), and so is its lower case (`Text.lower_prefix`).

The lower case of a text is here that of its characters one by one. There is one capital letter of
which that is not all that can be said: a sigma has a form of its own at the end of a word. What the
end of a word is makes no difference to a search (`Library.searchIn_eq_search`), as no part has a
sigma in its names.
-/

namespace CircuitHub

namespace Text

variable {t u part : Text}

/-! ## Parts of a text -/

theorem contains_iff_isInfix : t.contains part = true ↔ part <:+: t := by
  rw [contains]
  induction t with
  | nil => simp [cut?]
  | cons c t ih =>
    rw [cut?, List.infix_cons_iff, ← ih, ← List.isPrefixOf_iff_prefix]
    split
    case isTrue h => simp [h]
    case isFalse h => simp [h]

/-- What holds a text holds all that it begins with. -/
theorem contains_of_isPrefix {start : Text} (hstart : start <+: part) (h : t.contains part = true) :
    t.contains start = true :=
  contains_iff_isInfix.2 (hstart.isInfix.trans (contains_iff_isInfix.1 h))

/-! ## The start of a longer text -/

theorem trimEnd_prefix (h : t <+: u) : t.trimEnd <+: u.trimEnd := by
  obtain ⟨rest, rfl⟩ := h
  induction rest using List.reverseRecOn with
  | nil => rw [List.append_nil]
  | append_singleton rest c ih =>
    rw [← List.append_assoc]
    by_cases hc : isSpace c = true
    · have hsame : trimEnd (t ++ rest ++ [c]) = trimEnd (t ++ rest) :=
        List.rdropWhile_concat_pos isSpace _ c hc
      rwa [hsame]
    · -- Nothing is trimmed off a text that ends in `c`.
      have hall : trimEnd (t ++ rest ++ [c]) = t ++ rest ++ [c] :=
        List.rdropWhile_concat_neg isSpace _ c hc
      rw [hall, List.append_assoc]
      exact (List.rdropWhile_prefix isSpace t).trans (List.prefix_append t _)

/-- The trimming of a text is the start of the trimming of any text that goes on after it. -/
theorem trim_prefix (h : t <+: u) : t.trim <+: u.trim := by
  obtain ⟨rest, rfl⟩ := h
  by_cases hblank : t.isBlank = true
  · rw [trim_eq_nil hblank]
    exact List.nil_prefix
  · -- Both texts begin with the same white space, since `t` has more than that.
    have hne : (t.dropWhile isSpace).isEmpty = false := by
      rw [List.isEmpty_eq_false_iff, Ne, List.dropWhile_eq_nil_iff]
      exact mt isBlank_iff_forall.2 hblank
    rw [trim, trim, trimStart, trimStart, List.dropWhile_append, hne]
    exact trimEnd_prefix (List.prefix_append _ rest)

theorem lower_prefix (h : t <+: u) : t.lower <+: u.lower := by
  obtain ⟨rest, rfl⟩ := h
  rw [lower, lower, List.flatMap_append]
  exact List.prefix_append _ _

/-! ## Sigma at the end of a word -/

/-- The lower case of what follows some text, where a capital sigma has the form for the end of a
    word if what stands before it and after it says so. -/
def lowerIn (isFinal : Text → Text → Bool) : Text → Text → Text
  | _, [] => []
  | before, c :: after =>
    (if c = 'Σ' then [if isFinal before after then 'ς' else 'σ'] else lowerChar c) ++
      lowerIn isFinal (before ++ [c]) after

variable {isFinal : Text → Text → Bool} {before : Text}

/-- A text holds a small sigma, of either form. -/
def HasSigma (t : Text) : Prop := 'σ' ∈ t ∨ 'ς' ∈ t

theorem lowerChar_sigma : lowerChar 'Σ' = ['σ'] := by decide

/-- Only a text in which there is a sigma has more than one lower case. -/
theorem lowerIn_cases (isFinal : Text → Text → Bool) (before t : Text) :
    lowerIn isFinal before t = lower t ∨
      HasSigma (lowerIn isFinal before t) ∧ HasSigma (lower t) := by
  induction t generalizing before with
  | nil => exact .inl rfl
  | cons c t ih =>
    have hlower : lower (c :: t) = lowerChar c ++ lower t := List.flatMap_cons
    rw [lowerIn, hlower]
    by_cases hc : c = 'Σ'
    · refine .inr ?_
      rw [hc, lowerChar_sigma, if_pos rfl]
      cases isFinal before t with
      | true => simp [HasSigma]
      | false => simp [HasSigma]
    · rw [if_neg hc]
      rcases ih (before ++ [c]) with hsame | ⟨hin, hout⟩
      · exact .inl (congrArg (lowerChar c ++ ·) hsame)
      · simp only [HasSigma, List.mem_append]
        exact .inr ⟨hin.imp .inr .inr, hout.imp .inr .inr⟩

end Text

namespace Library

variable {t u : Text} {part : Part}

/-- A shorter needle, if it is the start of one that matches, matches as well. -/
theorem matchesTerm_of_isPrefix {needle needle' : Text} (hstart : needle <+: needle')
    (h : matchesTerm needle' part = true) : matchesTerm needle part = true := by
  simp only [matchesTerm, Bool.or_eq_true, List.isEmpty_iff] at h ⊢
  rcases h with (hnil | hname) | hcategory
  · rw [hnil, List.prefix_nil] at hstart
    exact .inl (.inl hstart)
  · exact .inl (.inr (Text.contains_of_isPrefix hstart hname))
  · exact .inr (Text.contains_of_isPrefix hstart hcategory)

theorem no_sigma : ∀ part ∈ parts, 'σ' ∉ part.name.lower ++ part.category.label.lower ∧
    'ς' ∉ part.name.lower ++ part.category.label.lower := by
  decide +kernel

/-- No part matches a term with a sigma. -/
theorem not_matchesTerm_of_hasSigma {needle : Text} (hpart : part ∈ parts)
    (h : needle.HasSigma) : matchesTerm needle part = false := by
  obtain ⟨c, hc, hnot⟩ : ∃ c ∈ needle, c ∉ part.name.lower ++ part.category.label.lower :=
    h.elim (fun h => ⟨_, h, (no_sigma part hpart).1⟩) fun h => ⟨_, h, (no_sigma part hpart).2⟩
  have hne : needle ≠ [] := List.ne_nil_of_mem hc
  have hname : ¬needle <:+: part.name.lower := fun h =>
    hnot (List.mem_append_left _ (h.subset hc))
  have hcategory : ¬needle <:+: part.category.label.lower := fun h =>
    hnot (List.mem_append_right _ (h.subset hc))
  rw [← Text.contains_iff_isInfix, Bool.not_eq_true] at hname hcategory
  simp [matchesTerm, hname, hcategory, hne]

/-- The parts that match a term if the end of a word is as given. -/
def searchIn (isFinal : Text → Text → Bool) (term : Text) : List Part :=
  parts.filter (matchesTerm (Text.lowerIn isFinal [] term.trim))

/-- Wherever words end, the same parts match. -/
theorem searchIn_eq_search (isFinal : Text → Text → Bool) (t : Text) :
    searchIn isFinal t = search t := by
  rw [searchIn, search]
  rcases Text.lowerIn_cases isFinal [] t.trim with hsame | ⟨hin, hout⟩
  · rw [hsame]
  · refine List.filter_congr fun part hpart => ?_
    rw [not_matchesTerm_of_hasSigma hpart hin, not_matchesTerm_of_hasSigma hpart hout]

/-- A longer term finds some of the parts that its start finds, and all that is found stands in the
    order of the table. Case counts as little at the end of a word as elsewhere. -/
theorem search_narrows (h : t <+: u) :
    (search u).Sublist (search t) ∧ (search u).Sublist parts ∧
      ∀ isFinal, searchIn isFinal u = search u := by
  refine ⟨?_, List.filter_sublist, fun isFinal => searchIn_eq_search isFinal u⟩
  exact List.monotone_filter_right parts fun part =>
    matchesTerm_of_isPrefix (Text.lower_prefix (Text.trim_prefix h))

/-- The blank at the end of a term counts when a letter follows it. -/
theorem search_narrows_blank :
    " C ".toList <+: " C c".toList ∧ (search " C c".toList).Sublist (search " C ".toList) ∧
      (search " C ".toList).length = 4 ∧
      (search " C c".toList).map Part.id = ["cap_001".toList] :=
  have h : " C ".toList <+: " C c".toList := by decide
  ⟨h, (search_narrows h).1, by decide +kernel, by decide +kernel⟩

end Library

end CircuitHub

import CircuitHub.Text.Basic
import Mathlib.Data.List.DropRight

/-!
# Scanning a text

A scan goes on while a property of characters holds, and a character without the property ends it as
the end of the text does (`Text.takeWhile_append_stop`, `Text.dropWhile_append_stop`). Trimming is a
scan from either end, and what other scans have taken off a text at its ends makes no difference to
it as long as that was white space (`Text.trim_dropAround`).

A scan of a list in which a property only ever goes from true to false takes a member exactly if the
member has the property (`lt_length_takeWhile_iff`).
-/

namespace CircuitHub

/-- If all members above one that is taken are taken too, then a member is taken by what is asked of
    it, whatever stands above it. -/
theorem lt_length_takeWhile_iff {α : Type} {p : α → Bool} {l : List α}
    (hmono : l.Pairwise fun x y => p y = true → p x = true) {i : Nat} {x : α}
    (hx : l[i]? = some x) : i < (l.takeWhile p).length ↔ p x = true := by
  induction l generalizing i with
  | nil => exact nomatch hx
  | cons y l ih =>
    obtain ⟨habove, htail⟩ := List.pairwise_cons.mp hmono
    cases i with
    | zero =>
      obtain rfl : y = x := by simpa using hx
      by_cases hy : p y = true
      · simp [hy]
      · simp [hy]
    | succ i =>
      have hmem : l[i]? = some x := by simpa using hx
      by_cases hy : p y = true
      · rw [List.takeWhile_cons_of_pos hy, List.length_cons, Nat.add_lt_add_iff_right]
        exact ih htail hmem
      · -- Nothing is taken, and what was asked of the first member is asked of this one as well.
        have hnot : ¬p x = true := fun h => hy (habove x (List.mem_of_getElem? hmem) h)
        simp [hy, hnot]

namespace Text

variable {p : Char → Bool} {stop : Char}

/-- A scan takes as much before a character that ends it as it takes before the end of a text. -/
theorem takeWhile_append_stop (h : p stop = false) (t u : Text) :
    (t ++ stop :: u).takeWhile p = t.takeWhile p := by
  induction t with
  | nil => simp [h]
  | cons c t ih => simp only [List.cons_append, List.takeWhile_cons, ih]

/-- A scan leaves the character that ends it, and what follows. -/
theorem dropWhile_append_stop (h : p stop = false) (t u : Text) :
    (t ++ stop :: u).dropWhile p = t.dropWhile p ++ stop :: u := by
  induction t with
  | nil => simp [h]
  | cons c t ih =>
    simp only [List.cons_append, List.dropWhile_cons, ih]
    split <;> rfl

/-! ## Trimming -/

/-- What is left by trimming is a run of neighbours in the text. -/
theorem trim_isInfix (t : Text) : t.trim <:+: t :=
  (List.rdropWhile_prefix isSpace t.trimStart).isInfix.trans (List.dropWhile_suffix _).isInfix

theorem trim_trim (t : Text) : t.trim.trim = t.trim := by
  have hstart : t.trim.trimStart = t.trim := by
    rcases ht : t.trim with _ | ⟨c, r⟩
    · rfl
    · -- What is left begins as the text does after the space before it.
      obtain ⟨rest, hrest⟩ : t.trim <+: t.trimStart := List.rdropWhile_prefix isSpace t.trimStart
      have hc := List.head?_dropWhile_not isSpace t
      rw [show t.dropWhile isSpace = c :: (r ++ rest) by
        rw [← List.cons_append, ← ht, hrest, trimStart]] at hc
      exact List.dropWhile_cons_of_neg (by simpa using hc)
  rw [trim, hstart]
  exact List.rdropWhile_idempotent isSpace t.trimStart

theorem isBlank_iff_forall {t : Text} : t.isBlank = true ↔ ∀ c ∈ t, isSpace c = true :=
  List.all_eq_true

theorem trimStart_eq_nil {t : Text} (h : t.isBlank = true) : t.trimStart = [] :=
  List.dropWhile_eq_nil_iff.2 (isBlank_iff_forall.1 h)

theorem trim_eq_nil {t : Text} (h : t.isBlank = true) : t.trim = [] := by
  rw [trim, trimStart_eq_nil h]
  rfl

theorem trim_eq_nil_iff {t : Text} : t.trim = [] ↔ t.isBlank = true := by
  refine ⟨fun h => ?_, trim_eq_nil⟩
  have hspace : ∀ c ∈ t.trimStart, isSpace c = true := List.rdropWhile_eq_nil_iff.1 h
  -- What the start is trimmed to begins with no white space, and so is empty.
  have hnil : t.trimStart = [] := by
    by_contra hne
    have hhead : isSpace (t.trimStart.head hne) = false := List.head_dropWhile_not isSpace hne
    rw [hspace _ (List.head_mem hne)] at hhead
    exact nomatch hhead
  exact isBlank_iff_forall.2 (List.dropWhile_eq_nil_iff.1 hnil)

/-- A text that is its own trimming shows something, unless it is empty. -/
theorem not_isBlank_of_trim {t : Text} (hne : t ≠ []) (h : t.trim = t) : t.isBlank = false := by
  by_contra hblank
  rw [Bool.not_eq_false] at hblank
  exact hne (h.symm.trans (trim_eq_nil hblank))

/-- White space at the start of a text makes no difference to its trimming. -/
theorem trim_blank_append {blank : Text} (h : blank.isBlank = true) (t : Text) :
    (blank ++ t).trim = t.trim := by
  rw [trim, trimStart, List.dropWhile_append_of_pos (isBlank_iff_forall.1 h)]
  rfl

/-- White space at the end of a text makes no difference to its trimming. -/
theorem trim_append_blank {blank : Text} (h : blank.isBlank = true) (t : Text) :
    (t ++ blank).trim = t.trim := by
  have hend (u : Text) : (u ++ blank).trimEnd = u.trimEnd := by
    rw [trimEnd, dropEndWhile, List.reverse_append, List.dropWhile_append_of_pos]
    · rfl
    · exact fun c hc => isBlank_iff_forall.1 h c (List.mem_reverse.1 hc)
  rw [trim, trimStart, List.dropWhile_append]
  split
  · rename_i hblank
    have hnil : t.dropWhile isSpace = [] := List.isEmpty_iff.1 hblank
    rw [trim, trimStart, hnil]
    exact congrArg trimEnd (trimStart_eq_nil h)
  · exact hend _

/-- Dropping white space of some kind at both ends of a text makes no difference to its trimming. -/
theorem trim_dropAround (hp : ∀ c, p c = true → isSpace c = true) (t : Text) :
    (dropEndWhile p (t.dropWhile p)).trim = t.trim := by
  have hstart : isBlank (t.takeWhile p) = true :=
    isBlank_iff_forall.2 fun c hc => hp c (List.mem_takeWhile_imp hc)
  have hend : isBlank ((t.dropWhile p).rtakeWhile p) = true :=
    isBlank_iff_forall.2 fun c hc => hp c (List.mem_rtakeWhile_imp hc)
  calc trim (dropEndWhile p (t.dropWhile p))
      = trim (dropEndWhile p (t.dropWhile p) ++ (t.dropWhile p).rtakeWhile p) :=
        (trim_append_blank hend _).symm
    _ = trim (t.dropWhile p) := congrArg trim List.rdropWhile_append_rtakeWhile
    _ = trim (t.takeWhile p ++ t.dropWhile p) := (trim_blank_append hstart _).symm
    _ = trim t := by rw [List.takeWhile_append_dropWhile]

end Text

end CircuitHub

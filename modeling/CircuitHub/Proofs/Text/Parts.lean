import Mathlib.Data.List.Infix

/-!
# Parts of a list

The parts that remain of a list when it is divided at some of its members: they are runs of
neighbours in it (`infix_of_mem_splitOnP`), and hold no member of the kind at which it was divided
(`not_of_mem_splitOnP`).
-/

namespace CircuitHub

variable {α : Type} {p : α → Bool} {t part : List α}

theorem prefix_of_splitOnP_eq_cons {parts : List (List α)} (h : t.splitOnP p = part :: parts) :
    part <+: t := by
  induction t generalizing part parts with
  | nil =>
    rw [List.splitOnP_nil] at h
    cases h
    exact List.nil_prefix
  | cons x t ih =>
    obtain ⟨q, qs, hq⟩ := List.exists_cons_of_ne_nil (List.splitOnP_ne_nil p t)
    rw [List.splitOnP_cons_eq_if_modifyHead, hq] at h
    split at h
    · cases h
      exact List.nil_prefix
    · cases h
      exact List.cons_prefix_cons.2 ⟨rfl, ih hq⟩

/-- The parts of a list are runs of neighbours in it. -/
theorem infix_of_mem_splitOnP (h : part ∈ t.splitOnP p) : part <:+: t := by
  induction t generalizing part with
  | nil => simp_all
  | cons x t ih =>
    obtain ⟨q, qs, hq⟩ := List.exists_cons_of_ne_nil (List.splitOnP_ne_nil p t)
    rw [List.splitOnP_cons_eq_if_modifyHead] at h
    split at h
    · rcases List.mem_cons.1 h with rfl | h
      · exact List.nil_infix
      · exact List.infix_cons (ih h)
    · rw [hq, List.modifyHead_cons, List.mem_cons] at h
      rcases h with rfl | h
      · exact (List.cons_prefix_cons.2 ⟨rfl, prefix_of_splitOnP_eq_cons hq⟩).isInfix
      · exact List.infix_cons (ih (hq ▸ List.mem_cons_of_mem q h))

/-- No part of a list has a member at which it was divided. -/
theorem not_of_mem_splitOnP (h : part ∈ t.splitOnP p) {x : α} (hx : x ∈ part) : p x = false := by
  induction t generalizing part x with
  | nil => simp_all
  | cons y t ih =>
    obtain ⟨q, qs, hq⟩ := List.exists_cons_of_ne_nil (List.splitOnP_ne_nil p t)
    rw [List.splitOnP_cons_eq_if_modifyHead] at h
    split at h
    · rcases List.mem_cons.1 h with rfl | h
      · exact absurd hx List.not_mem_nil
      · exact ih h hx
    · rename_i hy
      rw [hq, List.modifyHead_cons, List.mem_cons] at h
      rcases h with rfl | h
      · rcases List.mem_cons.1 hx with rfl | hx
        · simpa using hy
        · exact ih (hq ▸ List.mem_cons_self) hx
      · exact ih (hq ▸ List.mem_cons_of_mem q h) hx

end CircuitHub

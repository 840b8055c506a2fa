import CircuitHub.Extent
import CircuitHub.Number.Total

/-!
# Sums and differences of extents

A sum that is greater than every extent is no extent (`Extent.add?`), and neither is what is less
than nothing (`Extent.sub?`). Extents that are added one after the other have a sum if their total
is an extent (`Extent.sum?_eq_total`).
-/

namespace CircuitHub

/-- No number is greater than a total that it is part of. -/
theorem le_total_of_mem {numbers : List Nat} {n : Nat} (h : n ∈ numbers) : n ≤ total numbers := by
  induction numbers with
  | nil => exact absurd h List.not_mem_nil
  | cons m numbers ih =>
    rw [total_cons]
    rcases List.mem_cons.1 h with rfl | h
    · exact Nat.le_add_right n _
    · exact Nat.le_trans (ih h) (Nat.le_add_left _ m)

namespace Extent

/-- The sum of two extents, if it is an extent. -/
def add? (a b : Nat) : Option Nat := if a + b ≤ greatest then some (a + b) else none

theorem add?_of_le {a b : Nat} (h : a + b ≤ greatest) : add? a b = some (a + b) := if_pos h

theorem add?_eq_some_iff {a b n : Nat} : add? a b = some n ↔ a + b ≤ greatest ∧ a + b = n := by
  rw [add?]
  split
  case isTrue h => simp [h]
  case isFalse h => simp [h]

/-- The difference of two extents, if it is an extent. -/
def sub? (a b : Nat) : Option Nat := if b ≤ a then some (a - b) else none

theorem sub?_of_le {a b : Nat} (h : b ≤ a) : sub? a b = some (a - b) := if_pos h

/-- The sum of some extents that are added one after the other, if all the sums are extents. -/
def sum? (numbers : List Nat) : Option Nat := numbers.foldlM add? 0

theorem foldlM_add? {numbers : List Nat} {base : Nat} (h : base + total numbers ≤ greatest) :
    numbers.foldlM add? base = some (base + total numbers) := by
  induction numbers generalizing base with
  | nil => rfl
  | cons n numbers ih =>
    rw [total_cons, ← Nat.add_assoc] at h ⊢
    rw [List.foldlM_cons, add?_of_le (Nat.le_trans (Nat.le_add_right _ _) h)]
    exact ih h

/-- Extents have a sum if their total is one. -/
theorem sum?_eq_total {numbers : List Nat} (h : total numbers ≤ greatest) :
    sum? numbers = some (total numbers) := by
  rw [sum?, foldlM_add? (by rwa [Nat.zero_add]), Nat.zero_add]

end Extent

end CircuitHub

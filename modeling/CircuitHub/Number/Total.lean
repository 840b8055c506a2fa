/-!
# Totals

The total of a list of numbers, of which extents of pieces beside each other are made.

* `total_append`: pieces in two groups have the totals of both.
-/

namespace CircuitHub

/-- The total of some numbers. -/
def total : List Nat → Nat
  | [] => 0
  | n :: numbers => n + total numbers

@[simp] theorem total_nil : total [] = 0 := rfl

@[simp] theorem total_cons (n : Nat) (numbers : List Nat) :
    total (n :: numbers) = n + total numbers := rfl

/-- Numbers in two groups have the totals of both. -/
@[simp] theorem total_append (a b : List Nat) : total (a ++ b) = total a + total b := by
  induction a with
  | nil => simp
  | cons n a ih => simp [ih, Nat.add_assoc]

end CircuitHub

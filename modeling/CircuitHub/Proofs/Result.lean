/-!
# Computations with a result

A computation that ends in a mistake or in a result, and another one that goes on with the result:
together they have a result exactly if both have one.

* `map_eq_ok_iff`, `bind_eq_ok_iff`: where the result of two steps comes from;
* `mapM_of_forall_some`: where each step by itself has a result, all of them have.
-/

namespace CircuitHub

variable {ε ε' α β : Type}

theorem map_eq_ok_iff {x : Except ε α} {f : α → β} {b : β} :
    x.map f = .ok b ↔ ∃ a, x = .ok a ∧ f a = b := by
  cases x with
  | error e => simp [Except.map]
  | ok a => simp [Except.map]

theorem bind_eq_ok_iff {x : Except ε α} {f : α → Except ε β} {b : β} :
    x.bind f = .ok b ↔ ∃ a, x = .ok a ∧ f a = .ok b := by
  cases x with
  | error e => simp [Except.bind]
  | ok a => simp [Except.bind]

theorem mapM_of_forall_some {g? : α → Option β} {g : α → β} {l : List α}
    (h : ∀ a ∈ l, g? a = some (g a)) : l.mapM g? = some (l.map g) := by
  induction l with
  | nil => rfl
  | cons a l ih =>
    rw [List.mapM_cons, h a List.mem_cons_self, ih fun b hb => h b (List.mem_cons_of_mem a hb)]
    rfl

end CircuitHub

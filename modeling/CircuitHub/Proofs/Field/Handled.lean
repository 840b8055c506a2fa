import CircuitHub.Field.Basic

/-!
# What an event does to a field

Of all that a field is made of, an event has its text and its cursor to change, or it takes the text
away as a whole, and then the field is as at first (`Field.Handled`). How a field is set up, at which
row it begins and how wide it was drawn are no concern of events.

* `Field.handled`: there is nothing else that an event does;
* `Field.eq_submit_of_submitted`, `Field.submit_not_edited`: the key that sends the text, and no
  other event, takes it away, and it does nothing else.
-/

namespace CircuitHub.Field

variable {f : Field}

/-- What may become of a field, and what it comes to. -/
inductive Handled (f : Field) : Field × Option FieldChange → Prop
  /-- Nothing has changed. -/
  | kept : Handled f (f, none)
  /-- The text or the cursor has changed. -/
  | edited (text : Text) (cursor : Nat) : Handled f ({ f with text, cursor }, some .edited)
  /-- The text has been sent. -/
  | sent : Handled f ({ f with text := [], cursor := 0, firstRow := 0 }, some (.submitted f.text))

theorem handled_ite {p : Prop} [Decidable p] {yes no : Field × Option FieldChange}
    (hyes : f.Handled yes) (hno : f.Handled no) : f.Handled (if p then yes else no) := by
  split
  · exact hyes
  · exact hno

theorem handled_insert (f : Field) (t : Text) : f.Handled (f.insert t) :=
  handled_ite .kept (.edited _ _)

theorem handled_moveTo (f : Field) (cursor : Nat) : f.Handled (f.moveTo cursor) :=
  handled_ite .kept (.edited f.text cursor)

theorem handled_moveVertically (f : Field) (down : Bool) : f.Handled (f.moveVertically down) :=
  handled_ite (handled_ite (handled_moveTo f _) .kept) (handled_ite (handled_moveTo f _) .kept)

theorem handled_deleteBetween (f : Field) (left right : Nat) :
    f.Handled (f.deleteBetween left right) :=
  .edited _ _

theorem handled_submit (f : Field) : f.Handled f.submit := handled_ite .kept .sent

/-- An event edits a field, sends its text or does nothing. -/
theorem handled (f : Field) (e : Event) : f.Handled (f.handle e) := by
  cases e with
  | type c => exact handled_insert f [c]
  | paste t => exact handled_insert f t
  | newLine => exact handled_ite .kept (handled_insert f _)
  | submit => exact handled_ite (handled_insert f _) (handled_submit f)
  | backspace | delete => exact handled_ite .kept (handled_deleteBetween f _ _)
  | cursorLeft | cursorRight | cursorHome | cursorEnd => exact handled_moveTo f _
  | scrollUp => exact handled_ite .kept (handled_moveVertically f false)
  | scrollDown => exact handled_ite .kept (handled_moveVertically f true)
  | _ => exact .kept

section

variable {t : Text}

theorem ite_ne_submitted {p : Prop} [Decidable p] {yes no : Field × Option FieldChange}
    (hyes : yes.2 ≠ some (.submitted t)) (hno : no.2 ≠ some (.submitted t)) :
    (if p then yes else no).2 ≠ some (.submitted t) := by
  split
  · exact hyes
  · exact hno

theorem insert_ne_submitted (f : Field) (u : Text) : (f.insert u).2 ≠ some (.submitted t) :=
  ite_ne_submitted (by nofun) (by nofun)

theorem moveTo_ne_submitted (f : Field) (cursor : Nat) :
    (f.moveTo cursor).2 ≠ some (.submitted t) :=
  ite_ne_submitted (by nofun) (by nofun)

theorem moveVertically_ne_submitted (f : Field) (down : Bool) :
    (f.moveVertically down).2 ≠ some (.submitted t) :=
  ite_ne_submitted (ite_ne_submitted (moveTo_ne_submitted f _) (by nofun))
    (ite_ne_submitted (moveTo_ne_submitted f _) (by nofun))

/-- Only the key that sends the text takes it away. -/
theorem eq_submit_of_submitted {e : Event} (h : (f.handle e).2 = some (.submitted t)) :
    e = .submit := by
  cases e with
  | submit => rfl
  | type c => exact absurd h (insert_ne_submitted f [c])
  | paste u => exact absurd h (insert_ne_submitted f u)
  | newLine => exact absurd h (ite_ne_submitted (by nofun) (insert_ne_submitted f _))
  | backspace | delete => exact absurd h (ite_ne_submitted (by nofun) (by nofun))
  | cursorLeft | cursorRight | cursorHome | cursorEnd => exact absurd h (moveTo_ne_submitted f _)
  | scrollUp =>
    exact absurd h (ite_ne_submitted (by nofun) (moveVertically_ne_submitted f false))
  | scrollDown =>
    exact absurd h (ite_ne_submitted (by nofun) (moveVertically_ne_submitted f true))
  | _ => cases h

end

/-- Where the key does not break the line, it sends the text or does nothing. -/
theorem submit_not_edited (hbreaks : f.enterBreaks = false) :
    (f.handle .submit).2 ≠ some .edited := by
  have hsubmit : f.handle .submit = f.submit := if_neg (ne_true_of_eq_false hbreaks)
  rw [hsubmit, submit]
  split <;> nofun

end CircuitHub.Field

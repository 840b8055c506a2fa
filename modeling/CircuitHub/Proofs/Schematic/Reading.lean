import CircuitHub.Proofs.Markup.Nesting
import CircuitHub.Schematic.Reader

/-!
# Reading by events

A schematic is drawn event by event (`Schematic.Draft.after`), and what it is to be read from a text
is to be drawn from all events that a reader meets up to the end of it. Which elements are open by
then is not asked (`Schematic.readFrom_eq_ok_iff`).

* `Schematic.Draft.close_of_text`: what closing a text element adds to a drawing;
* `Schematic.readFrom_of_next`: reading on from an event;
* `Schematic.readFrom_eq_ok_iff`: a text can be read exactly if its events reach the end and can be
  drawn.
-/

namespace CircuitHub.Schematic

open Markup

variable {draft draft' : Draft} {events : List Markup.Event} {r r' : Reader} {name : Text}

/-- A tag that is only a name has no attributes. -/
theorem readAttributes_plain (name : Text) : Tag.readAttributes ⟨name, []⟩ = .ok [] := by
  simp [Tag.readAttributes, readAttributes?]

namespace Draft

/-- The draft after some events. -/
def after (draft : Draft) : List Markup.Event → Except SchematicError Draft
  | [] => .ok draft
  | event :: events => (draft.event event).bind (·.after events)

theorem after_append (draft : Draft) (events more : List Markup.Event) :
    draft.after (events ++ more) = (draft.after events).bind (·.after more) := by
  induction events generalizing draft with
  | nil => rfl
  | cons event events ih =>
    rw [List.cons_append, after, after]
    cases draft.event event with
    | error e => rfl
    | ok draft' => exact ih draft'

/-- The label that is being written, if it says something by now. -/
def pending (draft : Draft) : List Label := draft.openLabel?.toList.filter (!·.text.isBlank)

theorem close_of_text (h : localName name = "text".toList) (draft : Draft) :
    draft.close name =
      { draft with labels := draft.labels ++ draft.pending, openLabel? := none } := by
  rw [close, if_pos (by simpa using h)]
  rfl

theorem close_of_ne_text (h : localName name ≠ "text".toList) (draft : Draft) :
    draft.close name = draft := by
  rw [close, if_neg (by simpa using h)]

end Draft

/-- What the events of a whole text describe. -/
def drawing (events : List Markup.Event) : Except SchematicError Schematic :=
  (Draft.empty.after events).bind Draft.finish

theorem readFrom_of_error {e : Malformed} (h : r.next = .error e) (draft : Draft) :
    readFrom draft r = .error (.malformed e) := by
  rw [readFrom]
  split <;> simp_all

theorem readFrom_of_end (h : r.next = .ok none) (draft : Draft) :
    readFrom draft r = draft.finish := by
  rw [readFrom]
  split
  · simp_all
  · rfl
  · simp_all

theorem readFrom_of_next {event : Markup.Event} (h : r.next = .ok (some (event, r')))
    (draft : Draft) : readFrom draft r = (draft.event event).bind (readFrom · r') := by
  rw [readFrom]
  split
  · simp_all
  · simp_all
  · rename_i event' r'' hnext
    rw [h] at hnext
    cases hnext
    cases draft.event event <;> rfl

/-- Readers that meet the same are alike. -/
theorem readFrom_congr (h : r.next = r'.next) (draft : Draft) :
    readFrom draft r = readFrom draft r' := by
  rcases hnext : r'.next with e | _ | ⟨event, r''⟩
  · rw [readFrom_of_error (h.trans hnext), readFrom_of_error hnext]
  · rw [readFrom_of_end (h.trans hnext), readFrom_of_end hnext]
  · rw [readFrom_of_next (h.trans hnext), readFrom_of_next hnext]

/-- A schematic is read exactly if the reader gets to the end of the text and the events that it
    meets can be drawn, whatever is open by then. -/
theorem readFrom_eq_ok_iff {s : Schematic} :
    readFrom draft r = .ok s ↔
      ∃ events unclosed, r.Reads events unclosed ∧ (draft.after events).bind Draft.finish = .ok s := by
  constructor
  · intro h
    fun_induction readFrom draft r with
    | case1 => cases h
    | case2 draft r hnext => exact ⟨[], r.opened, .ends hnext, h⟩
    | case3 => cases h
    | case4 draft r event r' hnext draft' hevent ih =>
      obtain ⟨events, unclosed, hreads, hdrawn⟩ := ih h
      refine ⟨event :: events, unclosed, .meets hnext hreads, ?_⟩
      rw [Draft.after, hevent]
      exact hdrawn
  · rintro ⟨events, unclosed, hreads, hdrawn⟩
    induction hreads generalizing draft with
    | ends hnext => rwa [readFrom_of_end hnext]
    | @meets r r' event events unclosed hnext _ ih =>
      rw [readFrom_of_next hnext]
      rw [Draft.after] at hdrawn
      cases hevent : draft.event event with
      | error e =>
        rw [hevent] at hdrawn
        cases hdrawn
      | ok draft' =>
        rw [hevent] at hdrawn
        exact ih hdrawn

end CircuitHub.Schematic

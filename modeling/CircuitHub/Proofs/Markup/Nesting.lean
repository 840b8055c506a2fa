import CircuitHub.Markup.Event
import CircuitHub.Proofs.Result
import Mathlib.Data.List.Basic

/-!
# How tags nest

A reader keeps the names of the elements that are open, and takes a closing tag only for the
innermost of them. When it gets to the end of a text, the tags that it has met are therefore well
nested but for the elements that are still open: the closing tags of these are missing, and with
them, the innermost first, all tags would be well nested (`Reader.Reads.nested`). The reader does
not ask for them.

* `Reader.opened_next`: what an event does to the open elements;
* `Reader.Reads.nested`: the tags of a text, with those that are missing, are well nested;
* `allClosed_iff`: all elements are closed exactly if none is open at the end.
-/

namespace CircuitHub.Markup

/-- The event opens an element or closes one, and does not do both. -/
def Event.isTag : Event → Bool
  | .opened _ | .closed _ => true
  | .whole _ | .text _ | .skipped => false

/-- The tags of the events are well nested: each tag that opens an element is followed by one of its
    name that closes it, and what stands between the two is well nested. -/
inductive Nested : List Event → Prop
  | nil : Nested []
  | other {event : Event} {events : List Event} :
      event.isTag = false → Nested events → Nested (event :: events)
  | element {tag : Tag} {inner after : List Event} :
      Nested inner → Nested after → Nested (.opened tag :: (inner ++ .closed tag.name :: after))

/-- Among the events after a tag, one of its name closes the element that it opens, and what stands
    between the two is well nested. -/
def Tag.IsClosedIn (tag : Tag) (events : List Event) : Prop :=
  ∃ inner after, events = inner ++ .closed tag.name :: after ∧ Nested inner

/-- Every element that a tag opens is closed by a tag that matches. -/
def AllClosed (events : List Event) : Prop :=
  ∀ before tag after, events = before ++ .opened tag :: after → tag.IsClosedIn after

variable {event : Event} {events inner after : List Event}

/-! ## Well-nested tags -/

theorem Tag.IsClosedIn.append {tag : Tag} (h : tag.IsClosedIn events) (more : List Event) :
    tag.IsClosedIn (events ++ more) := by
  obtain ⟨inner, after, rfl, hinner⟩ := h
  exact ⟨inner, after ++ more, by simp, hinner⟩

theorem AllClosed.of_append (before : List Event) (h : AllClosed (before ++ events)) :
    AllClosed events := by
  intro between tag after hevents
  exact h (before ++ between) tag after (by rw [hevents, List.append_assoc])

/-- Where tags are well nested, every element is closed. -/
theorem Nested.allClosed (h : Nested events) : AllClosed events := by
  induction h with
  | nil =>
    intro before tag after h
    simp at h
  | other hevent _ ih =>
    intro before tag after h
    cases before with
    | nil =>
      obtain ⟨rfl, -⟩ := List.cons.inj h
      cases hevent
    | cons _ before => exact ih before tag after (List.cons.inj h).2
  | @element tag inner rest hinner _ ihinner ihrest =>
    intro before tag' after h
    cases before with
    | nil =>
      obtain ⟨htag, hafter⟩ := List.cons.inj h
      cases htag
      exact ⟨inner, rest, hafter.symm, hinner⟩
    | cons _ before =>
      -- The tag is one of those inside the element, or one of those after it.
      rcases List.append_eq_append_iff.1 (List.cons.inj h).2 with
        ⟨between, rfl, hrest⟩ | ⟨between, rfl, hrest⟩
      · cases between with
        | nil => cases (List.cons.inj hrest).1
        | cons _ between => exact ihrest between tag' after (List.cons.inj hrest).2
      · cases between with
        | nil => cases (List.cons.inj hrest).1
        | cons _ between =>
          obtain ⟨rfl, rfl⟩ := List.cons.inj hrest
          exact (ihinner before tag' between rfl).append _

/-! ### Counting -/

/-- The event opens an element. -/
def Event.opens : Event → Bool
  | .opened _ => true
  | _ => false

/-- The event closes an element. -/
def Event.closes : Event → Bool
  | .closed _ => true
  | _ => false

theorem Event.not_opens_or_closes (h : event.isTag = false) :
    event.opens = false ∧ event.closes = false := by
  cases event with
  | opened | closed => cases h
  | whole | text | skipped => exact ⟨rfl, rfl⟩

/-- Well-nested tags close as many elements as they open. -/
theorem Nested.count_eq (h : Nested events) :
    events.countP Event.opens = events.countP Event.closes := by
  induction h with
  | nil => rfl
  | other hevent _ ih =>
    obtain ⟨hopens, hcloses⟩ := Event.not_opens_or_closes hevent
    simp [hopens, hcloses, ih]
  | element _ _ ihinner ihafter =>
    simp only [List.countP_cons, List.countP_append, Event.opens, Event.closes, ihinner, ihafter,
      if_true, Bool.false_eq_true, if_false]
    omega

/-- If every element is closed, no more elements are opened than closed. -/
theorem AllClosed.count_le (h : AllClosed events) :
    events.countP Event.opens ≤ events.countP Event.closes := by
  -- What is inside an element is well nested, so that one goes on with what follows it.
  induction hn : events.length using Nat.strongRecOn generalizing events with
  | _ n ih =>
    subst hn
    match events with
    | [] => simp
    | .opened tag :: events =>
      obtain ⟨inner, after, rfl, hinner⟩ := h [] tag events rfl
      have hafter : AllClosed after := by
        refine AllClosed.of_append (.opened tag :: inner ++ [.closed tag.name]) ?_
        simpa using h
      have hle := ih after.length (by simp; omega) hafter rfl
      have heq := hinner.count_eq
      simp only [List.countP_cons, List.countP_append, Event.opens, Event.closes, if_true,
        Bool.false_eq_true, if_false]
      omega
    | .closed _ :: events | .whole _ :: events | .text _ :: events | .skipped :: events =>
      have hle := ih events.length (by simp) (h.of_append [_]) rfl
      simp only [List.countP_cons, Event.opens, Event.closes, if_true, Bool.false_eq_true, if_false]
      omega

/-! ## Tags that close what is open -/

/-- The events close the elements of a stack, the innermost first, with well-nested tags before,
    between and after. -/
def CloseAll : List Text → List Event → Prop
  | [], events => Nested events
  | name :: stack, events =>
    ∃ inner after, events = inner ++ .closed name :: after ∧ Nested inner ∧ CloseAll stack after

theorem closeAll_closed (stack : List Text) : CloseAll stack (stack.map .closed) := by
  induction stack with
  | nil => exact .nil
  | cons name stack ih => exact ⟨[], _, rfl, .nil, ih⟩

variable {stack : List Text}

theorem CloseAll.other (hevent : event.isTag = false) (h : CloseAll stack events) :
    CloseAll stack (event :: events) := by
  cases stack with
  | nil => exact .other hevent h
  | cons name stack =>
    obtain ⟨inner, after, rfl, hinner, hafter⟩ := h
    exact ⟨event :: inner, after, rfl, .other hevent hinner, hafter⟩

/-- A tag that opens an element is part of what stands before the next element of the stack is
    closed. -/
theorem CloseAll.opened {tag : Tag} (h : CloseAll (tag.name :: stack) events) :
    CloseAll stack (.opened tag :: events) := by
  obtain ⟨inner, after, rfl, hinner, hafter⟩ := h
  cases stack with
  | nil => exact .element hinner hafter
  | cons name stack =>
    obtain ⟨between, rest, rfl, hbetween, hrest⟩ := hafter
    exact ⟨.opened tag :: (inner ++ .closed tag.name :: between), rest, by simp,
      .element hinner hbetween, hrest⟩

/-! ## Readers -/

/-- A closing tag closes the innermost element that is open. -/
theorem closeTag_eq_ok {opened opened' : List Text} {content : Text}
    (h : closeTag opened content = .ok (event, opened')) :
    ∃ name, event = .closed name ∧ opened = name :: opened' := by
  cases opened with
  | nil => cases h
  | cons innermost opened =>
    simp only [closeTag] at h
    generalize (if content.all isGap then content else content.dropEndWhile isGap) = name at h
    by_cases hname : innermost = name
    · rw [if_pos hname] at h
      cases h
      exact ⟨name, rfl, by rw [hname]⟩
    · rw [if_neg hname] at h
      cases h

theorem tagEvent_cases (opened : List Text) (content : Text) :
    (∃ tag, tagEvent opened content = (.opened tag, tag.name :: opened)) ∨
    (∃ tag, tagEvent opened content = (.whole tag, opened)) := by
  rw [tagEvent]
  split
  · exact .inr ⟨_, rfl⟩
  · exact .inl ⟨_, rfl⟩

namespace Reader

/-- The reader meets these events up to the end of the text, and then these elements are open. -/
inductive Reads : Reader → List Event → List Text → Prop
  | ends {r : Reader} : r.next = .ok none → Reads r [] r.opened
  | meets {r r' : Reader} {event : Event} {events : List Event} {unclosed : List Text} :
      r.next = .ok (some (event, r')) → Reads r' events unclosed → Reads r (event :: events) unclosed

/-- A tag opens an element or closes the innermost one that is open. No other event changes which
    elements are open. -/
theorem opened_next {r r' : Reader} (h : r.next = .ok (some (event, r'))) :
    (∃ tag, event = .opened tag ∧ r'.opened = tag.name :: r.opened) ∨
    (∃ name, event = .closed name ∧ r.opened = name :: r'.opened) ∨
    (event.isTag = false ∧ r'.opened = r.opened) := by
  rw [Reader.next] at h
  unfold nextAt at h
  split at h
  · cases h
  · obtain ⟨rest, -, he⟩ := map_eq_ok_iff.1 h
    cases he
    exact .inr (.inr ⟨rfl, rfl⟩)
  · obtain ⟨rest, -, he⟩ := map_eq_ok_iff.1 h
    cases he
    exact .inr (.inr ⟨rfl, rfl⟩)
  · split at h
    · cases h
    · obtain ⟨⟨closing, opened⟩, hclose, he⟩ := map_eq_ok_iff.1 h
      cases he
      exact .inr (.inl (closeTag_eq_ok hclose))
  · split at h
    · cases h
    · rename_i content rest _
      rcases tagEvent_cases r.opened content with ⟨tag, htag⟩ | ⟨tag, htag⟩
      · rw [htag] at h
        cases h
        exact .inl ⟨tag, rfl, rfl⟩
      · rw [htag] at h
        cases h
        exact .inr (.inr ⟨rfl, rfl⟩)
  · simp only at h
    split at h
    · cases h
      exact .inr (.inr ⟨rfl, rfl⟩)
    · cases h
  · cases h
    exact .inr (.inr ⟨rfl, rfl⟩)

variable {r : Reader} {unclosed : List Text}

/-- With the closing tags that are missing at the end of a text, its tags close all that was open
    before. -/
theorem Reads.closeAll (h : r.Reads events unclosed) :
    CloseAll r.opened (events ++ unclosed.map .closed) := by
  induction h with
  | ends => exact closeAll_closed _
  | meets hnext _ ih =>
    rcases opened_next hnext with ⟨tag, rfl, hopened⟩ | ⟨name, rfl, hopened⟩ | ⟨hevent, hopened⟩
    · rw [hopened] at ih
      exact ih.opened
    · rw [hopened]
      exact ⟨[], _, rfl, .nil, ih⟩
    · rw [hopened] at ih
      exact ih.other hevent

/-- The tags of a text, with the closing tags that are missing at its end, are well nested. -/
theorem Reads.nested {markup : Text} (h : (start markup).Reads events unclosed) :
    Nested (events ++ unclosed.map .closed) := by
  have hopened : (start markup).opened = [] := by
    unfold start
    split <;> rfl
  have hclose := h.closeAll
  rwa [hopened] at hclose

end Reader

/-- All elements are closed exactly if no closing tags are missing. -/
theorem allClosed_iff {unclosed : List Text} (h : Nested (events ++ unclosed.map .closed)) :
    AllClosed events ↔ unclosed = [] := by
  refine ⟨fun hall => ?_, ?_⟩
  · have hle := hall.count_le
    have heq := h.count_eq
    have hmissing : (unclosed.map Event.closed).countP Event.opens = 0 ∧
        (unclosed.map Event.closed).countP Event.closes = unclosed.length := by
      simp [List.countP_map, List.countP_eq_zero, List.countP_eq_length, Event.opens, Event.closes]
    rw [List.countP_append, List.countP_append, hmissing.1, hmissing.2] at heq
    exact List.length_eq_zero_iff.1 (by omega)
  · rintro rfl
    rw [List.map_nil, List.append_nil] at h
    exact h.allClosed

end CircuitHub.Markup

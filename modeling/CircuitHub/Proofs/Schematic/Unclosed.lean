import CircuitHub.Proofs.Schematic.Reading

/-!
# Texts that end inside an element

Nothing asks at the end of a text whether its elements are closed, so that a text that is cut off
between two tags is drawn all the same. It is drawn as the whole would be in which the elements that
are still open are closed at once, but for one thing: the label that is being written is missing.
That a label is open only inside a text element is what the reading of every event keeps
(`Draft.LabelWithin`).

* `Draft.after_closed`: what closing all open elements adds to a drawing;
* `read_but_for_closings`: what is read of a text, and which closing tags it lacks;
* `not_allClosed_cutOff`: a text that lacks one can be read.
-/

namespace CircuitHub.Schematic

open Markup

variable {draft draft' : Draft} {event : Markup.Event} {events : List Markup.Event}
  {r r' : Reader} {names unclosed : List Text} {name : Text}

namespace Draft

/-- If a label is being written, one of these elements is a text element. -/
def LabelWithin (draft : Draft) (names : List Text) : Prop :=
  draft.openLabel? ≠ none → ∃ name ∈ names, localName name = "text".toList

/-- The innermost element is closed, and with it the label if it is the one of that element. -/
theorem LabelWithin.close (h : draft.LabelWithin (name :: names)) :
    (draft.close name).LabelWithin names := by
  intro hopen
  by_cases htext : localName name = "text".toList
  · rw [close_of_text htext] at hopen
    exact absurd rfl hopen
  · -- The label is not written in the element that is closed, but in one around it.
    rw [close_of_ne_text htext] at hopen
    obtain ⟨name', hmem, htext'⟩ := h hopen
    rcases List.mem_cons.1 hmem with rfl | hmem
    · exact absurd htext' htext
    · exact ⟨name', hmem, htext'⟩

/-- Closing the elements around a label that is being written adds the label and nothing else. -/
theorem after_closed (h : draft.LabelWithin names) :
    draft.after (names.map .closed) =
      .ok { draft with labels := draft.labels ++ draft.pending, openLabel? := none } := by
  have hdone {draft : Draft} (hnone : draft.openLabel? = none) :
      { draft with labels := draft.labels ++ draft.pending, openLabel? := none } = draft := by
    cases draft
    simp_all [pending]
  induction names generalizing draft with
  | nil =>
    have hnone : draft.openLabel? = none := by
      by_contra hopen
      obtain ⟨_, hmem, -⟩ := h hopen
      cases hmem
    exact congrArg Except.ok (hdone hnone).symm
  | cons name names ih =>
    change (draft.close name).after (names.map .closed) = _
    rw [ih h.close]
    -- The label is added once: by this element or by those around it.
    by_cases htext : localName name = "text".toList
    · rw [close_of_text htext, hdone rfl]
    · rw [close_of_ne_text htext]

/-! ## Labels are written in text elements -/

theorem openLabel?_element {a : Attributes} (h : draft.element name a = .ok draft') :
    draft'.openLabel? = draft.openLabel? := by
  rw [element] at h
  split at h
  · cases h
    rfl
  · obtain ⟨strokes, -, rfl⟩ := map_eq_ok_iff.1 h
    rfl

/-- A tag begins a label at most if it opens a text element. -/
theorem openLabel?_tag {tag : Tag} {opens : Bool} (h : draft.tag tag opens = .ok draft') :
    draft'.openLabel? = draft.openLabel? ∨ opens = true ∧ localName tag.name = "text".toList := by
  obtain ⟨attributes, -, h⟩ := bind_eq_ok_iff.1 h
  obtain ⟨draft₁, helement, h⟩ := bind_eq_ok_iff.1 h
  split at h
  · rename_i htext
    exact .inr (by simpa using htext)
  · cases h
    exact .inl (openLabel?_element helement)

theorem openLabel?_text (draft : Draft) (t : Text) (h : (draft.text t).openLabel? ≠ none) :
    draft.openLabel? ≠ none := by
  intro hnone
  simp [text, hnone] at h

/-- What the reader meets next keeps labels inside text elements. -/
theorem LabelWithin.next (h : draft.LabelWithin r.opened)
    (hnext : r.next = .ok (some (event, r'))) (hevent : draft.event event = .ok draft') :
    draft'.LabelWithin r'.opened := by
  intro hopen
  rcases r.opened_next hnext with ⟨tag, rfl, hopened⟩ | ⟨name, rfl, hopened⟩ | ⟨hother, hopened⟩
  · rw [hopened]
    rcases openLabel?_tag hevent with hsame | ⟨-, htext⟩
    · obtain ⟨name, hmem, htext⟩ := h (hsame ▸ hopen)
      exact ⟨name, List.mem_cons_of_mem _ hmem, htext⟩
    · exact ⟨tag.name, List.mem_cons_self, htext⟩
  · cases hevent
    rw [hopened] at h
    exact h.close hopen
  · rw [hopened]
    refine h ?_
    cases event with
    | opened | closed => cases hother
    | whole tag =>
      rcases openLabel?_tag hevent with hsame | ⟨hopens, -⟩
      · rwa [← hsame]
      · cases hopens
    | text t =>
      cases hevent
      exact openLabel?_text draft t hopen
    | skipped =>
      cases hevent
      exact hopen

/-- In all that a reader meets, labels are written inside text elements. -/
theorem LabelWithin.reads (h : draft.LabelWithin r.opened) (hreads : r.Reads events unclosed)
    (hafter : draft.after events = .ok draft') : draft'.LabelWithin unclosed := by
  induction hreads generalizing draft with
  | ends =>
    cases hafter
    exact h
  | meets hnext _ ih =>
    obtain ⟨draft₁, hevent, hafter⟩ := bind_eq_ok_iff.1 hafter
    exact ih (h.next hnext hevent) hafter

/-! ## Finishing -/

theorem length_pending_le (draft : Draft) : draft.pending.length ≤ 1 := by
  refine Nat.le_trans (List.length_filter_le _ _) ?_
  cases draft.openLabel? <;> simp

theorem openLabel?_of_pending (h : draft.pending ≠ []) : draft.openLabel? ≠ none := by
  intro hnone
  exact h (by simp [pending, hnone])

/-- A drawing that can be finished can be finished with more labels. -/
theorem finish_append {s : Schematic} (h : draft.finish = .ok s) (late : List Label) :
    finish { draft with labels := draft.labels ++ late, openLabel? := none } =
      .ok { s with labels := s.labels ++ late } := by
  rw [finish] at h
  split at h
  · cases h
  · rename_i hshown
    cases h
    rw [finish, if_neg]
    simp only [Bool.and_eq_true, List.isEmpty_iff, List.append_eq_nil_iff] at hshown ⊢
    exact fun hnone => hshown ⟨hnone.1, hnone.2.1⟩

end Draft

/-! ## What is read -/

/-- Whatever text a schematic is read from, the reader has met all of it, and its tags are well
    nested but for the closing tags of some elements: every element is closed exactly if there are
    none of these. That they are missing has no other effect than this: the schematic has not the
    label, if there is one, that the text would have if they followed at its end. -/
theorem read_but_for_closings {markup : Text} {s : Schematic} (h : read markup = .ok s) :
    ∃ events unclosed late,
      (Reader.start markup).Reads events unclosed ∧
      Nested (events ++ unclosed.map .closed) ∧
      (AllClosed events ↔ unclosed = []) ∧
      drawing events = .ok s ∧
      drawing (events ++ unclosed.map .closed) = .ok { s with labels := s.labels ++ late } ∧
      late.length ≤ 1 ∧ (late ≠ [] → ∃ name ∈ unclosed, localName name = "text".toList) := by
  obtain ⟨events, unclosed, hreads, hdrawn⟩ := readFrom_eq_ok_iff.1 h
  obtain ⟨draft, hafter, hfinish⟩ := bind_eq_ok_iff.1 hdrawn
  have hnested := hreads.nested
  have hwithin : draft.LabelWithin unclosed :=
    Draft.LabelWithin.reads (fun hopen => absurd rfl hopen) hreads hafter
  refine ⟨events, unclosed, draft.pending, hreads, hnested, allClosed_iff hnested, hdrawn, ?_,
    draft.length_pending_le, fun hlate => hwithin (Draft.openLabel?_of_pending hlate)⟩
  rw [drawing, Draft.after_append, hafter]
  change (draft.after (unclosed.map .closed)).bind Draft.finish = _
  rw [Draft.after_closed hwithin]
  exact Draft.finish_append hfinish draft.pending

/-! ### Two cases -/

/-- A text that ends while its second label is being written. -/
theorem reads_secondLabel : (Reader.start "<svg><text>R1</text><text>C2").Reads
    [.opened ⟨"svg", []⟩, .opened ⟨"text", []⟩, .text "R1", .closed "text", .opened ⟨"text", []⟩,
      .text "C2"] ["text", "svg"] :=
  .meets rfl (.meets rfl (.meets rfl (.meets rfl (.meets rfl (.meets rfl (.ends rfl))))))

theorem read_secondLabel : read "<svg><text>R1</text><text>C2" =
    .ok ⟨(Attributes.viewBox? []).getD (.around []), [], [⟨⟨0, 0⟩, "R1"⟩]⟩ := by
  refine readFrom_eq_ok_iff.2 ⟨_, _, reads_secondLabel, ?_⟩
  simp only [Draft.after, Draft.event, Draft.tag, readAttributes_plain]
  rfl

/-- A text that ends while its second label is being written. -/
theorem read_but_for_closings_secondLabel :
    ∃ s, read "<svg><text>R1</text><text>C2" = .ok s ∧ s.labels.map (·.text) = ["R1".toList] ∧
      ∃ events unclosed late,
        (Reader.start "<svg><text>R1</text><text>C2").Reads events unclosed ∧
        Nested (events ++ unclosed.map .closed) ∧
        (AllClosed events ↔ unclosed = []) ∧
        drawing events = .ok s ∧
        drawing (events ++ unclosed.map .closed) = .ok { s with labels := s.labels ++ late } ∧
        late.length ≤ 1 ∧ (late ≠ [] → ∃ name ∈ unclosed, localName name = "text".toList) :=
  ⟨_, read_secondLabel, rfl, read_but_for_closings read_secondLabel⟩

/-- A text that ends inside its outermost element. -/
theorem reads_cutOff :
    (Reader.start "<svg><line/>").Reads [.opened ⟨"svg", []⟩, .whole ⟨"line", []⟩] ["svg"] :=
  .meets rfl (.meets rfl (.ends rfl))

theorem read_cutOff : read "<svg><line/>" =
    .ok ⟨(Attributes.viewBox? []).getD (.around [⟨⟨0, 0⟩, ⟨0, 0⟩⟩]), [⟨⟨0, 0⟩, ⟨0, 0⟩⟩], []⟩ := by
  refine readFrom_eq_ok_iff.2 ⟨_, _, reads_cutOff, ?_⟩
  simp only [Draft.after, Draft.event, Draft.tag, readAttributes_plain]
  rfl

/-- A text can be read though an element of it is not closed. -/
theorem not_allClosed_cutOff :
    ∃ s events unclosed, read "<svg><line/>" = .ok s ∧
      (Reader.start "<svg><line/>").Reads events unclosed ∧ ¬AllClosed events := by
  refine ⟨_, _, _, read_cutOff, reads_cutOff, fun hall => ?_⟩
  exact absurd ((allClosed_iff reads_cutOff.nested).1 hall) (by simp)

end CircuitHub.Schematic

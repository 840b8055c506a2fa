import CircuitHub.Catalog
import CircuitHub.Proofs.Field.Handled

/-!
# The selected part

The selected part is a place among the parts that match, and these are found anew for each text that
one looks for. The selection stays as it is when the text does. When the text is edited, the first
part is selected. So there is a selected part whenever some part matches
(`Catalog.selects_part`), although matches come and go.

The key that sends a text takes the text away, and nothing tells the catalog that it has changed
(`Catalog.Handled.sent`). All parts match then, and the selection is still the place of a part, but
it is that which was meant for other matches (`Catalog.selected_of_text_ne`,
`Catalog.not_first_sent`).
-/

namespace CircuitHub

namespace Library

/-- The text that is empty matches all parts. -/
theorem search_nil : search [] = parts := List.filter_eq_self.2 fun _ _ => rfl

theorem length_search_le (t : Text) : (search t).length ≤ parts.length :=
  List.length_filter_le _ _

end Library

namespace Catalog

variable {c c' : Catalog} {e : Event}

/-! ## What an event does -/

/-- What may become of a catalog at an event. -/
inductive Handled (c : Catalog) : Event → Catalog → Prop
  /-- The event means nothing. -/
  | kept (e : Event) : Handled c e c
  /-- The part above is selected. -/
  | up : Handled c .scrollUp (c.select (c.selected - 1))
  /-- The part below is selected. -/
  | down : Handled c .scrollDown (c.select (min (c.selected + 1) (c.found.length - 1)))
  /-- The text or its cursor has changed. -/
  | edited {e : Event} (hup : e ≠ .scrollUp) (hdown : e ≠ .scrollDown) (hsubmit : e ≠ .submit)
    (text : Text) (cursor : Nat) :
    Handled c e { c with search := { c.search with text, cursor }, selected := 0 }
  /-- The text has been sent. -/
  | sent : Handled c .submit
    { c with search := { c.search with text := [], cursor := 0, firstRow := 0 } }

theorem handle_of_ne_scroll (hup : e ≠ .scrollUp) (hdown : e ≠ .scrollDown) :
    (c.handle e).1 = { c with
      search := (c.search.handle e).1
      selected := if (c.search.handle e).2 = some .edited then 0 else c.selected } := by
  rw [handle]
  · rcases c.search.handle e with ⟨search, _ | (t | _)⟩ <;> rfl
  · exact hup
  · exact hdown

/-- There is nothing else that an event does. -/
theorem handled (hbreaks : c.search.enterBreaks = false) (e : Event) :
    c.Handled e (c.handle e).1 := by
  by_cases hup : e = .scrollUp
  · rw [hup]
    exact .up
  by_cases hdown : e = .scrollDown
  · rw [hdown]
    exact .down
  rw [handle_of_ne_scroll hup hdown]
  have hsent : ∀ t, (c.search.handle e).2 = some (.submitted t) → e = .submit :=
    fun t => Field.eq_submit_of_submitted
  have hedited : (c.search.handle e).2 = some .edited → e ≠ .submit := by
    rintro hedited rfl
    exact Field.submit_not_edited hbreaks hedited
  have hfield := c.search.handled e
  generalize c.search.handle e = result at hfield hsent hedited ⊢
  cases hfield with
  | kept => exact .kept e
  | edited text cursor => exact .edited hup hdown (hedited rfl) text cursor
  | sent =>
    rw [hsent c.search.text rfl]
    exact .sent

/-! ## Catalogs in use -/

/-- What may be done to a catalog. -/
inductive Step : Catalog → Catalog → Prop
  | handle (c : Catalog) (e : Event) : Step c (c.handle e).1
  | focus (c : Catalog) (focused : Bool) : Step c { c with search := { c.search with focused } }
  | draw (c : Catalog) (frame : Frame) (area : Area) : Step c (c.draw frame area).1

/-- What can come of the catalog at first. -/
inductive Reachable : Catalog → Prop
  | start : Reachable start
  | step {c c' : Catalog} : Reachable c → Step c c' → Reachable c'

/-- The selection is the place of a part that matches, or the first place of all. The text can be
    sent. -/
structure Selects (c : Catalog) : Prop where
  selected_lt : c.selected = 0 ∨ c.selected < c.found.length
  enterBreaks_eq : c.search.enterBreaks = false

/-- Drawing the list selects the last part at most. -/
theorem drawList_cases (c : Catalog) (g : Grid) (area : Area) :
    (c.drawList g area).1 = c ∨ ∃ firstItem,
      (c.drawList g area).1 = { c with selected := min c.selected (c.found.length - 1), firstItem } := by
  rw [drawList]
  dsimp only
  split
  · exact .inl rfl
  · split
    · exact .inl rfl
    · exact .inr ⟨_, rfl⟩

/-- Drawing the catalog keeps the text that one looks for. -/
theorem draw_cases (c : Catalog) (frame : Frame) (area : Area) :
    ∃ firstRow width selected firstItem, (c.draw frame area).1 =
        { search := { c.search with firstRow, width }, selected, firstItem } ∧
      (selected = c.selected ∨ selected = min c.selected (c.found.length - 1)) := by
  let left := area.columnsFrom 0 listWidth
  let drawn := c.search.draw frame (left.rowsFrom 0 3)
  have hfound : ({ c with search := drawn.1 } : Catalog).found = c.found :=
    congrArg Library.search (rfl : drawn.1.text = c.search.text)
  have hlist := drawList_cases { c with search := drawn.1 } drawn.2.grid
    (left.rowsFrom 3 (left.height - 3))
  rw [hfound] at hlist
  simp only [draw]
  rcases hlist with hlist | ⟨firstItem, hlist⟩
  · exact ⟨_, _, _, _, hlist, .inl rfl⟩
  · exact ⟨_, _, _, _, hlist, .inr rfl⟩

theorem Selects.step (h : Selects c) (hs : Step c c') : Selects c' := by
  obtain ⟨hselected, hbreaks⟩ := h
  cases hs with
  | focus focused => exact ⟨hselected, hbreaks⟩
  | draw frame area =>
    obtain ⟨firstRow, width, selected, firstItem, hdraw, hcases⟩ := c.draw_cases frame area
    rw [hdraw]
    refine ⟨?_, hbreaks⟩
    simp only [found] at hselected hcases ⊢
    omega
  | handle e =>
    have hhandled := handled hbreaks e
    generalize (c.handle e).1 = c' at hhandled ⊢
    cases hhandled with
    | kept => exact ⟨hselected, hbreaks⟩
    | up => exact ⟨by simp only [select, found] at *; omega, hbreaks⟩
    | down => exact ⟨by simp only [select, found] at *; omega, hbreaks⟩
    | edited => exact ⟨.inl rfl, hbreaks⟩
    | sent =>
      -- All parts match now, and so no fewer than before.
      have hle : c.found.length ≤ (Library.search []).length := by
        rw [Library.search_nil]
        exact Library.length_search_le _
      exact ⟨hselected.imp_right fun hlt => Nat.lt_of_lt_of_le hlt hle, hbreaks⟩

theorem Reachable.selects (h : Reachable c) : Selects c := by
  induction h with
  | start => exact ⟨.inl rfl, rfl⟩
  | step _ hs ih => exact ih.step hs

/-! ## The selection -/

/-- Whatever has been done to a catalog, the selection is the place of a part that matches if there
    is one, so that a part is selected exactly if some part matches. The two events that move the
    selection leave the text as it is, and all others leave the selection where it is or move it to
    the first part. -/
theorem selects_part (h : Reachable c) :
    (c.found ≠ [] → c.selected < c.found.length) ∧
      (c.part?.isSome = true ↔ Library.search c.search.text ≠ []) ∧
      ∀ e, if e = .scrollUp ∨ e = .scrollDown then (c.handle e).1.search.text = c.search.text
        else (c.handle e).1.selected = c.selected ∨ (c.handle e).1.selected = 0 := by
  have hlt (hne : c.found ≠ []) : c.selected < c.found.length := by
    have hpos := List.length_pos_iff.2 hne
    rcases h.selects.selected_lt with hzero | hlt
    · rwa [hzero]
    · exact hlt
  refine ⟨hlt, ⟨fun hsome hnil => ?_, fun hne => ?_⟩, fun e => ?_⟩
  · rw [part?, found, hnil] at hsome
    cases hsome
  · rw [part?, List.getElem?_eq_getElem (hlt hne)]
    rfl
  · have hhandled := handled h.selects.enterBreaks_eq e
    generalize (c.handle e).1 = c' at hhandled ⊢
    cases hhandled with
    | kept => split <;> simp
    | up | down => exact rfl
    | edited hup hdown => rw [if_neg (by simp [hup, hdown])]; exact .inr rfl
    | sent => exact .inl rfl

/-- A catalog in which two letters were typed and the second of the parts that match was selected. -/
def lookedUp : Catalog :=
  (((start.handle (.type 'c')).1.handle (.type 'i')).1.handle .scrollDown).1

theorem reachable_lookedUp : Reachable lookedUp :=
  .step (.step (.step .start (.handle _ _)) (.handle _ _)) (.handle _ _)

/-- The second of two parts is selected, and not the first one when the text is edited. -/
theorem selects_part_lookedUp :
    Reachable lookedUp ∧ lookedUp.found.map Part.id = ["cap_001".toList, "opamp_001".toList] ∧
      lookedUp.selected < lookedUp.found.length ∧ lookedUp.part?.isSome = true ∧
      (lookedUp.handle .backspace).1.search.text = ['c'] ∧
      ((lookedUp.handle .backspace).1.selected = lookedUp.selected ∨
        (lookedUp.handle .backspace).1.selected = 0) := by
  have hfound : lookedUp.found.map Part.id = ["cap_001".toList, "opamp_001".toList] := by
    decide +kernel
  obtain ⟨hlt, hpart, hevent⟩ := selects_part reachable_lookedUp
  have hne : lookedUp.found ≠ [] := fun hnil => by
    rw [hnil] at hfound
    cases hfound
  exact ⟨reachable_lookedUp, hfound, hlt hne, hpart.2 hne, by decide +kernel, hevent .backspace⟩

/-! ## The selection when the text changes -/

/-- Whatever has been done to a catalog: when an event changes the text, the first part is selected
    after it, unless the event is the key that sends the text. That key leaves no text, and the
    selection where it is. -/
theorem selected_of_text_ne (h : Reachable c)
    (htext : (c.handle e).1.search.text ≠ c.search.text) :
    ((c.handle e).1.selected = 0 ↔ e ≠ .submit ∨ c.selected = 0) ∧
      (e = .submit → (c.handle e).1.search.text = [] ∧ (c.handle e).1.selected = c.selected) := by
  have hhandled := handled h.selects.enterBreaks_eq e
  generalize (c.handle e).1 = c' at hhandled htext ⊢
  cases hhandled with
  | kept | up | down => exact absurd rfl htext
  | edited _ _ hsubmit =>
    exact ⟨iff_of_true rfl (.inl hsubmit), fun he => absurd he hsubmit⟩
  | sent => exact ⟨by simp, fun _ => ⟨rfl, rfl⟩⟩

/-- The second place stays selected when the text is sent, where another part stands now. -/
theorem selected_of_text_ne_lookedUp :
    Reachable lookedUp ∧ (lookedUp.handle .submit).1.search.text ≠ lookedUp.search.text ∧
      ((lookedUp.handle .submit).1.selected = 0 ↔
        Event.submit ≠ .submit ∨ lookedUp.selected = 0) ∧
      (lookedUp.handle .submit).1.search.text = [] ∧
      (lookedUp.handle .submit).1.selected = 1 := by
  have htext : (lookedUp.handle .submit).1.search.text ≠ lookedUp.search.text := by decide +kernel
  obtain ⟨hfirst, hsent⟩ := selected_of_text_ne reachable_lookedUp htext
  obtain ⟨hnil, hselected⟩ := hsent rfl
  exact ⟨reachable_lookedUp, htext, hfirst, hnil, hselected.trans (by decide +kernel)⟩

/-- The first part is not selected after each event that changes the text. -/
theorem not_first_sent :
    ¬∀ (c : Catalog) (e : Event), Reachable c →
      (c.handle e).1.search.text ≠ c.search.text → (c.handle e).1.selected = 0 := by
  intro h
  have hzero := h lookedUp .submit reachable_lookedUp (by decide +kernel)
  exact absurd hzero (by decide +kernel)

end Catalog

end CircuitHub

import CircuitHub.Proofs.Transcript.Window

/-!
# The bottom in the window

A window that sticks to the bottom is moved before the rows at hand are drawn, to the last of the
rows that were drawn before. What was drawn before goes along with the states here
(`Showing.LastDrawn`), and nothing but a drawing changes it.

So the last row is seen exactly if less than a whole window of rows has been added since the drawing
before (`Showing.seesLast_iff`), and always in the first drawing. Where more has been added, the
window stays behind, at the last row that was drawn before (`Showing.not_seesLast_welcomed`); the
next drawing then shows the last row (`Showing.seesLast_draw`).
-/

namespace CircuitHub

/-- No card is without rows. -/
theorem Card.height_pos (c : Card) (width : Nat) : 0 < c.height width := by
  rw [Card.height]
  simp only [frameRows]
  split
  · exact Nat.one_pos
  · omega

/-- The rows of all messages are those of each, cut down to the greatest extent. -/
theorem Heights.total_ofList (heights : List Nat) (width : Nat) :
    (ofList heights width).total = Extent.saturate (CircuitHub.total heights) := by
  rw [Heights.total, ofList, List.getLast?_eq_getElem?, runningSums_length]
  cases heights with
  | nil => rfl
  | cons h heights =>
    rw [runningSums_getElem? (by simp), Option.getD_some, Nat.zero_add, List.take_of_length_le]
    simp

/-- Moving the window forgets nothing of what it was shown on. -/
theorem Transcript.content?_handle? {t u : Transcript} {event : Event}
    (h : t.handle? event = some u) : u.scroll.content? = t.scroll.content? := by
  rw [handle?_eq h]
  rfl

namespace Showing

variable {s : Showing} {before? : Option Nat} {waiting? : Option Waiting} {g : Grid} {area : Area}

/-- What can come of a conversation, with the rows of its last drawing, if there has been one. -/
inductive LastDrawn : Option Nat → Showing → Prop
  | start (conversation : Conversation) : LastDrawn none (start conversation)
  | append {before? : Option Nat} {s : Showing} (m : Message) :
    LastDrawn before? s → LastDrawn before? (s.append m)
  | scroll {before? : Option Nat} {s : Showing} {event : Event} {t : Transcript} :
    LastDrawn before? s → s.transcript.handle? event = some t →
      LastDrawn before? { s with transcript := t }
  | draw {before? : Option Nat} {s : Showing} (waiting? : Option Waiting) (g : Grid) (area : Area) :
    LastDrawn before? s → LastDrawn (some (s.rows waiting? area)) (s.draw waiting? g area)

theorem LastDrawn.reachable (h : LastDrawn before? s) : Reachable s := by
  induction h with
  | start conversation => exact .start conversation
  | append m _ ih => exact ih.step (.append _ m)
  | scroll _ hevent ih => exact ih.step (.scroll hevent)
  | draw waiting? g area _ ih => exact ih.step (.draw _ waiting? g area)

/-- A transcript remembers how many rows were drawn. -/
theorem LastDrawn.content?_eq (h : LastDrawn before? s) :
    s.transcript.scroll.content? = before? := by
  induction h with
  | start conversation => rfl
  | append m _ ih => exact ih
  | scroll _ hevent ih => exact (Transcript.content?_handle? hevent).trans ih
  | draw waiting? g area h _ =>
    exact congrArg some (canvasHeight_measured h.reachable waiting? area)

/-- There are always rows to be drawn, as no card is without rows. -/
theorem rows_pos (s : Showing) (waiting? : Option Waiting) (area : Area) :
    0 < s.rows waiting? area := by
  have hfirst := (Card.ofMessage s.conversation.first).height_pos (area.width - 1)
  have hcards : 0 < total (s.cardHeights area) := by
    rw [cardHeights, Conversation.messages, List.map_cons, total_cons]
    omega
  rw [rows, Heights.total_ofList, Extent.saturate, Extent.greatest]
  omega

theorem LastDrawn.pos {before : Nat} (h : LastDrawn (some before) s) : 0 < before := by
  generalize hbefore : some before = before? at h
  induction h with
  | start conversation => exact nomatch hbefore
  | append m _ ih => exact ih hbefore
  | scroll _ _ ih => exact ih hbefore
  | draw waiting? g area _ _ =>
    cases hbefore
    exact rows_pos _ waiting? area

/-! ## The last row -/

/-- The last of the rows that are drawn is seen in the window. -/
def SeesLast (s : Showing) (waiting? : Option Waiting) (g : Grid) (area : Area) : Prop :=
  ∃ last, last + 1 = s.rows waiting? area ∧
    s.shownRow waiting? g area ≤ last ∧ last < s.shownRow waiting? g area + area.height

/-- The last row is seen exactly if the window is as far down as the rows fill it. -/
theorem seesLast_iff_le (h : Reachable s) (hs : s.transcript.sticky = true)
    (hheight : 0 < area.height) :
    s.SeesLast waiting? g area ↔
      s.rows waiting? area - area.height ≤ s.transcript.scroll.toBottom.offset := by
  have hpos := rows_pos s waiting? area
  rw [SeesLast, shownRow_of_sticky h hs]
  constructor
  · rintro ⟨last, hlast, -, hseen⟩
    omega
  · intro hle
    exact ⟨s.rows waiting? area - 1, by omega, by omega, by omega⟩

/-- In the first drawing the last row is seen, and in any other exactly if it has less than a window
    of rows more than the drawing before. Otherwise the window begins at the last row of the drawing
    before. -/
theorem seesLast_iff (h : LastDrawn before? s) (hs : s.transcript.sticky = true)
    (hfit : s.rows waiting? area ≤ Extent.greatest) (hheight : 0 < area.height) :
    (s.SeesLast waiting? g area ↔
      ∀ before ∈ before?, s.rows waiting? area < before + area.height) ∧
    ∀ before ∈ before?, before + area.height ≤ s.rows waiting? area →
      s.shownRow waiting? g area + 1 = before := by
  have hcontent := h.content?_eq
  rw [seesLast_iff_le h.reachable hs hheight, shownRow_of_sticky h.reachable hs]
  cases before? with
  | none =>
    -- Before the first drawing the window is moved as far down as can be.
    have hdown : s.transcript.scroll.toBottom.offset = Extent.greatest := by
      rw [Scroll.toBottom, hcontent]
      rfl
    exact ⟨iff_of_true (by omega) nofun, nofun⟩
  | some before =>
    have hpos := h.pos
    have hdown : s.transcript.scroll.toBottom.offset = before - 1 := by
      rw [Scroll.toBottom, hcontent]
      rfl
    simp only [Option.mem_some, forall_eq']
    omega

/-- The welcome drawn into an area of some rows, and a message after it. -/
def welcomed (height : Nat) : Showing :=
  ((start (.start 0)).draw none (.blank 0 0) ⟨0, 0, 70, height⟩).append ⟨.user, ['h'], 0⟩

theorem rows_welcomed (height : Nat) :
    (start (.start 0)).rows none ⟨0, 0, 70, height⟩ = 4 ∧
      (welcomed height).rows none ⟨0, 0, 70, height⟩ = 7 := by
  -- These are the first of three cards.
  have hwelcome : (start (.start 0)).cardHeights ⟨0, 0, 70, height⟩ = [4] :=
    congrArg (List.take 1) (cardHeights_threeCards height)
  have hsaid : (welcomed height).cardHeights ⟨0, 0, 70, height⟩ = [4, 3] :=
    congrArg (List.take 2) (cardHeights_threeCards height)
  rw [rows, rows, hwelcome, hsaid]
  exact ⟨rfl, rfl⟩

theorem lastDrawn_welcomed (height : Nat) : LastDrawn (some 4) (welcomed height) := by
  rw [← (rows_welcomed height).1]
  exact .append _ (.draw _ _ _ (.start _))

theorem sticky_welcomed (height : Nat) : (welcomed height).transcript.sticky = true :=
  sticky_draw (start (.start 0)) none (.blank 0 0) ⟨0, 0, 70, height⟩

/-- In a window of four rows, the message is seen up to its last row. -/
theorem seesLast_iff_welcomed :
    LastDrawn (some 4) (welcomed 4) ∧ (welcomed 4).transcript.sticky = true ∧
      (welcomed 4).SeesLast none (.blank 0 0) ⟨0, 0, 70, 4⟩ := by
  have hrows := (rows_welcomed 4).2
  refine ⟨lastDrawn_welcomed 4, sticky_welcomed 4, (seesLast_iff (lastDrawn_welcomed 4)
    (sticky_welcomed 4) ?_ (by decide)).1.2 fun before hbefore => ?_⟩
  · rw [hrows]
    decide
  · cases hbefore
    rw [hrows]
    decide

/-- In a window of three rows, the last of them is not: the window shows the rows from the fourth to
    the sixth. -/
theorem not_seesLast_welcomed :
    LastDrawn (some 4) (welcomed 3) ∧ (welcomed 3).transcript.sticky = true ∧
      (welcomed 3).rows none ⟨0, 0, 70, 3⟩ ≤ Extent.greatest ∧
      (welcomed 3).shownRow none (.blank 0 0) ⟨0, 0, 70, 3⟩ = 3 ∧
      ¬(welcomed 3).SeesLast none (.blank 0 0) ⟨0, 0, 70, 3⟩ := by
  have hrows := (rows_welcomed 3).2
  have hshown : (welcomed 3).shownRow none (.blank 0 0) ⟨0, 0, 70, 3⟩ = 3 := by
    rw [shownRow_of_sticky (lastDrawn_welcomed 3).reachable (sticky_welcomed 3), Scroll.toBottom,
      (lastDrawn_welcomed 3).content?_eq, hrows]
    rfl
  refine ⟨lastDrawn_welcomed 3, sticky_welcomed 3, by rw [hrows]; decide, hshown, ?_⟩
  rintro ⟨last, hlast, -, hseen⟩
  have hlt : last < 3 + 3 := by rwa [hshown] at hseen
  rw [hrows] at hlast
  omega

/-- A conversation that is drawn as it was drawn before is seen up to its last row. -/
theorem seesLast_draw (h : Reachable s) (hs : s.transcript.sticky = true)
    (hheight : 0 < area.height) :
    (s.draw waiting? g area).SeesLast waiting? g area := by
  have hsticky := (sticky_draw s waiting? g area).trans hs
  rw [seesLast_iff_le (h.step (.draw _ _ _ _)) hsticky hheight, toBottom_draw h, rows_draw]
  omega

end Showing

end CircuitHub

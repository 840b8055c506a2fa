import CircuitHub.Proofs.Text.Scan
import CircuitHub.Proofs.Transcript.Showing

/-!
# Cards in the window

Only the cards near the window are painted. They are chosen before a window that sticks to the
bottom is moved there, with half a window to spare above and below (`Heights.mem_visible_iff`). So
all is painted that is seen, as long as the window does not move by more than this spare
(`Showing.painted_of_sees`); and where it does not stick to the bottom, it does not move at all
(`Showing.shownRow_eq_firstRow`). A window that sticks to the bottom moves further where the area is
made lower, and then it may show nothing of the last card (`Showing.not_painted_lowered`). When it
is drawn for the third time in the same area, it shows all again (`Showing.painted_draw_draw`).
-/

namespace CircuitHub

/-! ## Rows of cards -/

/-- The first of some numbers add up to no more than all of them. -/
theorem total_take_le (numbers : List Nat) (i : Nat) : total (numbers.take i) ≤ total numbers := by
  have hall := congrArg total (List.take_append_drop i numbers)
  rw [total_append] at hall
  omega

/-- No sum is less than what it is made on top of. -/
theorem saturate_le_of_mem_runningSums {heights : List Nat} {base x : Nat}
    (hx : x ∈ runningSums base heights) : Extent.saturate base ≤ x := by
  induction heights generalizing base with
  | nil => exact nomatch hx
  | cons h heights ih =>
    rw [runningSums] at hx
    obtain rfl | hx := List.mem_cons.mp hx
    · simp only [Extent.saturate]
      omega
    · have hle := ih hx
      simp only [Extent.saturate] at hle ⊢
      omega

/-- Each card ends no higher than those above it. -/
theorem pairwise_runningSums (base : Nat) (heights : List Nat) :
    (runningSums base heights).Pairwise (· ≤ ·) := by
  induction heights generalizing base with
  | nil => exact .nil
  | cons h heights ih =>
    rw [runningSums]
    refine .cons (fun x hx => ?_) (ih _)
    have hle := saturate_le_of_mem_runningSums hx
    simp only [Extent.saturate] at hle ⊢
    omega

namespace Heights

variable {h : Heights} {heights : List Nat} {i width : Nat}

theorem getElem?_bottoms (hi : i < h.bottoms.length) : h.bottoms[i]? = some (h.top (i + 1)) := by
  rw [top, List.getElem?_eq_getElem hi, Option.getD_some]

/-- A message is not painted for being too far up if it ends above the row that is half a window
    above the window. -/
theorem lt_visible_fst_iff (hmono : h.bottoms.Pairwise (· ≤ ·)) (hi : i < h.bottoms.length)
    (offset viewport : Nat) :
    i < (h.visible offset viewport).1 ↔ h.top (i + 1) ≤ offset - viewport / 2 := by
  rw [visible, lt_length_takeWhile_iff _ (getElem?_bottoms hi), decide_eq_true_eq]
  exact hmono.imp fun hxy hy => by
    rw [decide_eq_true_eq] at hy ⊢
    exact Nat.le_trans hxy hy

/-- A message is far enough up to be painted if it begins above the row that is half a window below
    the window. The first message always does. -/
theorem lt_visible_snd_iff (hmono : h.bottoms.Pairwise (· ≤ ·)) (hi : i < h.bottoms.length)
    (offset viewport : Nat) :
    i < (h.visible offset viewport).2 ↔ i = 0 ∨
      h.top i < Extent.saturate (Extent.saturate (offset + viewport) + viewport / 2) := by
  cases i with
  | zero =>
    rw [visible, Nat.lt_min]
    simp [hi]
  | succ i =>
    rw [visible, Nat.lt_min, Nat.add_lt_add_iff_right,
      lt_length_takeWhile_iff _ (getElem?_bottoms (Nat.lt_of_succ_lt hi)), decide_eq_true_eq]
    · simp [hi]
    · exact hmono.imp fun hxy hy => by
        rw [decide_eq_true_eq] at hy ⊢
        exact Nat.lt_of_le_of_lt hxy hy

/-- A message is painted if it ends below the row that is half a window above the window, and begins
    above the row that is half a window below it. -/
theorem mem_visible_iff (hmono : h.bottoms.Pairwise (· ≤ ·)) (hi : i < h.bottoms.length)
    (offset viewport : Nat) :
    (h.visible offset viewport).1 ≤ i ∧ i < (h.visible offset viewport).2 ↔
      offset - viewport / 2 < h.top (i + 1) ∧ (i = 0 ∨
        h.top i < Extent.saturate (Extent.saturate (offset + viewport) + viewport / 2)) := by
  rw [← Nat.not_lt, lt_visible_fst_iff hmono hi, Nat.not_le, lt_visible_snd_iff hmono hi]

/-- Where all rows have a place on a screen, each message begins where those above it end. -/
theorem top_ofList (hfit : CircuitHub.total heights ≤ Extent.greatest) (hi : i ≤ heights.length) :
    (ofList heights width).top i = CircuitHub.total (heights.take i) := by
  cases i with
  | zero => rfl
  | succ i =>
    have hle := Nat.le_trans (total_take_le heights (i + 1)) hfit
    rw [top, ofList, runningSums_getElem? hi, Option.getD_some, Nat.zero_add, Extent.saturate,
      Nat.min_eq_left hle]

/-- A message is painted if it has a row in the window, or one that is not further away from the
    window than half of its rows. -/
theorem mem_visible_of_row {offset viewport : Nat} (row : Nat)
    (hfit : CircuitHub.total heights ≤ Extent.greatest) (hi : i < heights.length)
    (hbegins : (ofList heights width).top i ≤ row)
    (hends : row < (ofList heights width).top (i + 1)) (hup : offset ≤ row + viewport / 2)
    (hdown : row < offset + viewport + viewport / 2) :
    ((ofList heights width).visible offset viewport).1 ≤ i ∧
      i < ((ofList heights width).visible offset viewport).2 := by
  have hlength : (ofList heights width).bottoms.length = heights.length :=
    runningSums_length 0 heights
  have hgreatest : (ofList heights width).top (i + 1) ≤ Extent.greatest := by
    rw [top_ofList hfit hi]
    exact Nat.le_trans (total_take_le heights (i + 1)) hfit
  rw [mem_visible_iff (pairwise_runningSums 0 heights) (hlength ▸ hi)]
  refine ⟨?_, .inr ?_⟩
  · -- The row is above the end of the message, and not above the spare rows.
    omega
  · -- It is above the end of the spare rows as well, even where that is cut down.
    simp only [Extent.saturate]
    omega

end Heights

/-- A window that begins too far down is moved up, and no other. -/
theorem Transcript.clamp_eq (t : Transcript) :
    t.clamp = t.moveTo (min t.scroll.offset t.lastOffset) := by
  rw [Transcript.clamp]
  split
  case isTrue h => rw [Nat.min_eq_right (Nat.le_of_lt h)]
  case isFalse h => rw [Nat.min_eq_left (Nat.not_lt.mp h)]; rfl

namespace Showing

variable {s : Showing} {waiting? : Option Waiting} {g : Grid} {area : Area} {card row : Nat}

/-- The heights of the cards in an area. -/
def cardHeights (s : Showing) (area : Area) : List Nat :=
  s.conversation.messages.map fun m => (Card.ofMessage m).height (area.width - 1)

/-- The first row of the window when cards are chosen to be painted. -/
def firstRow (s : Showing) (area : Area) : Nat :=
  (s.transcript.measured s.conversation.messages area).scroll.offset

/-- The cards that are painted: from the first to before the second. -/
def painted (s : Showing) (area : Area) : Nat × Nat :=
  let t := s.transcript.measured s.conversation.messages area
  t.heights.visible t.scroll.offset t.viewport

/-- The first row of the window when it is shown. -/
def shownRow (s : Showing) (waiting? : Option Waiting) (g : Grid) (area : Area) : Nat :=
  (s.draw waiting? g area).transcript.scroll.offset

/-- A row of a card is seen in the window when it is shown. -/
structure Sees (s : Showing) (waiting? : Option Waiting) (g : Grid) (area : Area)
    (card row : Nat) : Prop where
  isCard : card < s.conversation.messages.length
  top_le : total ((s.cardHeights area).take card) ≤ row
  lt_bottom : row < total ((s.cardHeights area).take (card + 1))
  first_le : s.shownRow waiting? g area ≤ row
  lt_last : row < s.shownRow waiting? g area + area.height

/-! ### Measuring -/

/-- Drawing changes no cards. -/
theorem cardHeights_draw (s : Showing) (waiting? : Option Waiting) (g : Grid) (area area' : Area) :
    (s.draw waiting? g area).cardHeights area' = s.cardHeights area' := rfl

theorem heights_measured (h : Reachable s) (area : Area) :
    (s.transcript.measured s.conversation.messages area).heights =
      .ofList (s.cardHeights area) (area.width - 1) :=
  (heights_draw_eq_measure s none (.blank 0 0) area).trans (h.kept.measure_eq _)

theorem viewport_measured (s : Showing) (area : Area) :
    (s.transcript.measured s.conversation.messages area).viewport = area.height := by
  simp only [Transcript.measured, Transcript.clamp_eq]
  split
  · rfl
  · rfl

theorem sticky_measured (s : Showing) (area : Area) :
    (s.transcript.measured s.conversation.messages area).sticky = s.transcript.sticky := by
  simp only [Transcript.measured, Transcript.clamp_eq]
  split
  · rfl
  · rfl

theorem scroll_measured (hs : s.transcript.sticky = true) (area : Area) :
    (s.transcript.measured s.conversation.messages area).scroll = s.transcript.scroll := by
  simp only [Transcript.measured, hs]
  rfl

theorem offset_measured_le (hs : s.transcript.sticky = false) (area : Area) :
    (s.transcript.measured s.conversation.messages area).scroll.offset ≤
      (s.transcript.measured s.conversation.messages area).lastOffset := by
  simp only [Transcript.measured, Transcript.clamp_eq, hs]
  exact Nat.min_le_right _ _

/-! ### Moving -/

/-- The rows that are drawn. -/
def rows (s : Showing) (waiting? : Option Waiting) (area : Area) : Nat :=
  (Heights.ofList (s.cardHeights area) (area.width - 1)).total + Transcript.indicatorRows waiting?

theorem rows_draw (s : Showing) (waiting? : Option Waiting) (g : Grid) (area area' : Area) :
    (s.draw waiting? g area).rows waiting? area' = s.rows waiting? area' := rfl

theorem canvasHeight_measured (h : Reachable s) (waiting? : Option Waiting) (area : Area) :
    (s.transcript.measured s.conversation.messages area).canvasHeight waiting? =
      s.rows waiting? area := by
  rw [Transcript.canvasHeight, heights_measured h, rows]

/-- A window that does not stick to the bottom is shown where it is when cards are chosen. -/
theorem shownRow_eq_firstRow (hs : s.transcript.sticky = false) (waiting? : Option Waiting)
    (g : Grid) (area : Area) : s.shownRow waiting? g area = s.firstRow area := by
  have hsticky := (sticky_measured s area).trans hs
  have hle := offset_measured_le hs area
  -- What is said below the cards only makes the rows more.
  have hrows : (s.transcript.measured s.conversation.messages area).lastOffset ≤
      (s.transcript.measured s.conversation.messages area).canvasHeight waiting? - area.height := by
    rw [Transcript.lastOffset, viewport_measured, Transcript.canvasHeight]
    omega
  simp only [shownRow, draw, Transcript.draw, Transcript.afterDraw, hsticky]
  exact Nat.min_eq_left (Nat.le_trans hle hrows)

/-- A window that sticks to the bottom is moved to the last row there was, and no further down than
    the rows fill it. -/
theorem shownRow_of_sticky (h : Reachable s) (hs : s.transcript.sticky = true)
    (waiting? : Option Waiting) (g : Grid) (area : Area) :
    s.shownRow waiting? g area =
      min s.transcript.scroll.toBottom.offset (s.rows waiting? area - area.height) := by
  have hsticky := (sticky_measured s area).trans hs
  simp only [shownRow, draw, Transcript.draw, Transcript.afterDraw, hsticky, Scroll.afterShow,
    canvasHeight_measured h, scroll_measured hs, if_true]

theorem sticky_draw (s : Showing) (waiting? : Option Waiting) (g : Grid) (area : Area) :
    (s.draw waiting? g area).transcript.sticky = s.transcript.sticky :=
  sticky_measured s area

/-- The last row there was is that of the last drawing. -/
theorem toBottom_draw (h : Reachable s) (waiting? : Option Waiting) (g : Grid) (area : Area) :
    (s.draw waiting? g area).transcript.scroll.toBottom.offset = s.rows waiting? area - 1 :=
  congrArg (· - 1) (canvasHeight_measured h waiting? area)

/-- A window that sticks to the bottom is still where it was shown when cards are chosen again. -/
theorem firstRow_draw (hs : s.transcript.sticky = true) (waiting? : Option Waiting) (g : Grid)
    (area area' : Area) : (s.draw waiting? g area).firstRow area' = s.shownRow waiting? g area := by
  rw [firstRow, scroll_measured ((sticky_draw s waiting? g area).trans hs), shownRow]

/-- A window that has been drawn twice is shown where it is when cards are chosen. -/
theorem shownRow_draw_draw (h : Reachable s) (waiting? : Option Waiting) (g : Grid) (area : Area) :
    ((s.draw waiting? g area).draw waiting? g area).shownRow waiting? g area =
      ((s.draw waiting? g area).draw waiting? g area).firstRow area := by
  have hone : Reachable (s.draw waiting? g area) := h.step (.draw _ _ _ _)
  have htwo : Reachable ((s.draw waiting? g area).draw waiting? g area) := hone.step (.draw _ _ _ _)
  cases hs : s.transcript.sticky with
  | true =>
    have hsone := (sticky_draw s waiting? g area).trans hs
    have hstwo := (sticky_draw (s.draw waiting? g area) waiting? g area).trans hsone
    -- Both times there were as many rows in the drawing before.
    rw [firstRow_draw hsone, shownRow_of_sticky hone hsone, shownRow_of_sticky htwo hstwo,
      toBottom_draw h, toBottom_draw hone]
    simp only [rows_draw]
  | false =>
    have hsone := (sticky_draw s waiting? g area).trans hs
    exact shownRow_eq_firstRow ((sticky_draw _ waiting? g area).trans hsone) waiting? g area

/-! ### Painting -/

/-- What is painted is chosen by the heights that the cards have. -/
theorem painted_eq (h : Reachable s) (area : Area) :
    s.painted area = (Heights.ofList (s.cardHeights area) (area.width - 1)).visible
      (s.firstRow area) area.height := by
  rw [painted, firstRow, heights_measured h, viewport_measured]

/-- A card that is seen is painted, if the window has been moved by no more than half of its rows
    since cards were chosen. -/
theorem mem_painted_of_near (h : Reachable s) (hfit : total (s.cardHeights area) ≤ Extent.greatest)
    (hdown : s.shownRow waiting? g area ≤ s.firstRow area + area.height / 2)
    (hup : s.firstRow area ≤ s.shownRow waiting? g area + area.height / 2)
    (hseen : s.Sees waiting? g area card row) :
    (s.painted area).1 ≤ card ∧ card < (s.painted area).2 := by
  have hcard : card < (s.cardHeights area).length := by
    simpa [cardHeights] using hseen.isCard
  have htop := hseen.top_le
  have hbottom := hseen.lt_bottom
  have hfirst := hseen.first_le
  have hlast := hseen.lt_last
  rw [painted_eq h]
  refine Heights.mem_visible_of_row row hfit hcard ?_ ?_ (by omega) (by omega)
  · rwa [Heights.top_ofList hfit (Nat.le_of_lt hcard)]
  · rwa [Heights.top_ofList hfit hcard]

/-- Every card that is seen is painted, if all rows have a place on a screen, and if a window that
    sticks to the bottom is moved by no more than half of its rows. -/
theorem painted_of_sees (h : Reachable s) (hfit : total (s.cardHeights area) ≤ Extent.greatest)
    (hnear : s.transcript.sticky = true →
      s.shownRow waiting? g area ≤ s.firstRow area + area.height / 2 ∧
        s.firstRow area ≤ s.shownRow waiting? g area + area.height / 2)
    (hseen : s.Sees waiting? g area card row) :
    (s.painted area).1 ≤ card ∧ card < (s.painted area).2 := by
  cases hs : s.transcript.sticky with
  | true =>
    obtain ⟨hdown, hup⟩ := hnear hs
    exact mem_painted_of_near h hfit hdown hup hseen
  | false =>
    have hstays := shownRow_eq_firstRow hs waiting? g area
    exact mem_painted_of_near h hfit (by omega) (by omega) hseen

/-- A conversation of three cards. -/
def threeCards : Showing :=
  ((start (.start 0)).append ⟨.user, ['h'], 0⟩).append ⟨.model, ['x'], 0⟩

theorem reachable_threeCards : Reachable threeCards :=
  .step (.step (.start _) (.append _ _)) (.append _ _)

theorem cardHeights_threeCards (height : Nat) :
    threeCards.cardHeights ⟨0, 0, 70, height⟩ = [4, 3, 3] := by
  have cards : (threeCards.conversation.messages.map fun m => (Card.ofMessage m).height 69) =
      [4, 3, 3] := by
    decide +kernel
  exact cards

theorem rows_threeCards (height : Nat) : threeCards.rows none ⟨0, 0, 70, height⟩ = 10 := by
  rw [rows, cardHeights_threeCards]
  rfl

/-- The conversation when it has been shown in an area of just so many rows as it has. -/
def shownWhole : Showing := threeCards.draw none (.blank 0 0) ⟨0, 0, 70, 10⟩

theorem reachable_shownWhole : Reachable shownWhole := reachable_threeCards.step (.draw _ _ _ _)

theorem cardHeights_shownWhole (height : Nat) :
    shownWhole.cardHeights ⟨0, 0, 70, height⟩ = [4, 3, 3] := by
  rw [shownWhole, cardHeights_draw, cardHeights_threeCards]

theorem firstRow_shownWhole (height : Nat) : shownWhole.firstRow ⟨0, 0, 70, height⟩ = 0 := by
  rw [shownWhole, firstRow_draw rfl, shownRow_of_sticky reachable_threeCards rfl, rows_threeCards]
  rfl

theorem shownRow_shownWhole (height : Nat) :
    shownWhole.shownRow none (.blank 0 0) ⟨0, 0, 70, height⟩ = min 9 (10 - height) := by
  have hsticky : shownWhole.transcript.sticky = true := sticky_draw _ _ _ _
  rw [shownRow_of_sticky reachable_shownWhole hsticky, shownWhole,
    toBottom_draw reachable_threeCards, rows_draw, rows_threeCards, rows_threeCards]

/-- In two rows less, the window is moved by two rows. -/
theorem painted_of_sees_lowered :
    shownWhole.Sees none (.blank 0 0) ⟨0, 0, 70, 8⟩ 2 7 ∧
      (shownWhole.painted ⟨0, 0, 70, 8⟩).1 ≤ 2 ∧ 2 < (shownWhole.painted ⟨0, 0, 70, 8⟩).2 := by
  have hshown := shownRow_shownWhole 8
  have hfirst := firstRow_shownWhole 8
  have hcards := cardHeights_shownWhole 8
  have hseen : shownWhole.Sees none (.blank 0 0) ⟨0, 0, 70, 8⟩ 2 7 :=
    ⟨by decide, by rw [hcards]; decide, by rw [hcards]; decide, by rw [hshown]; decide,
      by rw [hshown]; decide⟩
  refine ⟨hseen, painted_of_sees reachable_shownWhole (by rw [hcards]; decide) (fun _ => ?_) hseen⟩
  rw [hshown, hfirst]
  decide

/-- In three rows, the window is moved by seven rows, to the last card; but only the first card is
    painted. -/
theorem not_painted_lowered :
    Reachable shownWhole ∧ total (shownWhole.cardHeights ⟨0, 0, 70, 3⟩) ≤ Extent.greatest ∧
      shownWhole.Sees none (.blank 0 0) ⟨0, 0, 70, 3⟩ 2 7 ∧
      shownWhole.painted ⟨0, 0, 70, 3⟩ = (0, 1) := by
  have hshown := shownRow_shownWhole 3
  have hcards := cardHeights_shownWhole 3
  refine ⟨reachable_shownWhole, by rw [hcards]; decide, ?_, ?_⟩
  · exact ⟨by decide, by rw [hcards]; decide, by rw [hcards]; decide, Nat.le_of_eq hshown,
      by rw [hshown]; decide⟩
  · rw [painted_eq reachable_shownWhole, hcards, firstRow_shownWhole]
    decide

/-- Every card that is seen when nothing has changed since the last two drawings is painted. -/
theorem painted_draw_draw (h : Reachable s) (hfit : total (s.cardHeights area) ≤ Extent.greatest)
    (hseen : ((s.draw waiting? g area).draw waiting? g area).Sees waiting? g area card row) :
    (((s.draw waiting? g area).draw waiting? g area).painted area).1 ≤ card ∧
      card < (((s.draw waiting? g area).draw waiting? g area).painted area).2 := by
  have hstays := shownRow_draw_draw h waiting? g area
  exact mem_painted_of_near ((h.step (.draw _ _ _ _)).step (.draw _ _ _ _)) hfit (by omega)
    (by omega) hseen

end Showing

end CircuitHub

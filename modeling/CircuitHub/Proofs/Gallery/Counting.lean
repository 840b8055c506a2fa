import CircuitHub.Proofs.Extent
import CircuitHub.Proofs.Gallery.Cards
import CircuitHub.Proofs.Result

/-!
# A gallery in use

Events move the selection of a gallery, and areas of all sizes are drawn into: the columns of the
grid change from one drawing to the next, and the rows are moved. Whatever has been done, the
selection is the place of a symbol, its card is drawn, and the cards neither overlap nor leave the
area (`Gallery.selection_drawn`).

Places are counted in words of the machine, with and without sign, and positions in extents. Here
each sum, difference, product and change from one kind of number to another may have no result
(`Gallery.handleCounted?`, `Gallery.draw?`). All of them have one: the selection stays among the few
symbols of the library, the rows are moved no further than to that of the selection, and no more
cards are placed than have room.

Events count the symbols of the library. A gallery that draws fewer symbols than those has a
selection that may be none of them until it is drawn (`Gallery.not_selected_lt`).
-/

namespace CircuitHub

/-- A number, if it is not greater than a limit. -/
def upTo? (limit n : Nat) : Option Nat := if n ≤ limit then some n else none

theorem upTo?_of_le {limit n : Nat} (h : n ≤ limit) : upTo? limit n = some n := if_pos h

namespace Count

/-- The greatest count. A word of the machine, whether of 32 bits or of 64, has place for the counts
    up to it and for their negations. -/
def greatest : Nat := 2147483647

/-- A number with a sign, if it is a count but for the sign. -/
def signed? (n : Int) : Option Int := if n.natAbs ≤ greatest then some n else none

theorem signed?_of_le {n : Int} (h : n.natAbs ≤ greatest) : signed? n = some n := if_pos h

end Count

namespace Gallery

variable {g g' : Gallery} {symbols : List Symbol} {area : Area} {count n : Nat} {e : Event}

/-! ## Moving the selection -/

/-- The gallery with the selection some places further, or back if there are less than none of them,
    if all numbers are counts. -/
def moved? (g : Gallery) (count : Nat) (places : Int) : Option Gallery :=
  if count = 0 then some g
  else do
    let selected ← Count.signed? g.selected
    let target ← Count.signed? (selected + places)
    let count ← Count.signed? count
    some (if 0 ≤ target ∧ target < count then { g with selected := target.toNat } else g)

theorem moved?_eq {places : Int} (hselected : g.selected ≤ Extent.greatest)
    (hplaces : places.natAbs ≤ Extent.greatest) (hcount : count ≤ Extent.greatest) :
    g.moved? count places =
      some (if 0 ≤ g.selected + places ∧ g.selected + places < count then
        { g with selected := (g.selected + places).toNat } else g) := by
  simp only [Extent.greatest] at *
  rw [moved?]
  split
  case isTrue hzero => rw [if_neg (by omega)]
  case isFalse =>
    have hplace : Count.signed? g.selected = some (g.selected : Int) :=
      Count.signed?_of_le (by simp only [Count.greatest]; omega)
    have htarget : Count.signed? (g.selected + places) = some (g.selected + places) :=
      Count.signed?_of_le (by simp only [Count.greatest]; omega)
    have hall : Count.signed? count = some (count : Int) :=
      Count.signed?_of_le (by simp only [Count.greatest]; omega)
    simp only [Option.bind_eq_bind, hplace, htarget, hall, Option.bind_some]

theorem moved?_forward (hselected : g.selected ≤ Extent.greatest) (hn : n ≤ Extent.greatest)
    (hcount : count ≤ Extent.greatest) : g.moved? count n = some (g.forward count n) := by
  have hplace : 0 ≤ (g.selected : Int) + n ∧ (g.selected : Int) + n < count ↔
      g.selected + n < count := by omega
  have htarget : ((g.selected : Int) + n).toNat = g.selected + n := by omega
  rw [moved?_eq hselected (by simpa using hn) hcount, forward]
  simp only [hplace, htarget]

theorem moved?_back (hselected : g.selected ≤ Extent.greatest) (hn : n ≤ Extent.greatest)
    (hcount : count ≤ Extent.greatest) : g.moved? count (-n) = some (g.back count n) := by
  have hplace : 0 ≤ (g.selected : Int) + -n ∧ (g.selected : Int) + -n < count ↔
      n ≤ g.selected ∧ g.selected - n < count := by omega
  have htarget : ((g.selected : Int) + -n).toNat = g.selected - n := by omega
  rw [moved?_eq hselected (by simpa using hn) hcount, back]
  simp only [hplace, htarget, Bool.and_eq_true, decide_eq_true_eq]

/-- What an event means to the gallery of `count` symbols, if all numbers are counts. -/
def handleCounted? (g : Gallery) (count : Nat) (e : Event) : Option (Option Gallery) := do
  let columns ← Count.signed? (max g.columns 1 : Nat)
  match e with
  | .cursorLeft => (g.moved? count (-1)).map some
  | .cursorRight => (g.moved? count 1).map some
  | .scrollUp => do
    let above ← Count.signed? (-columns)
    (g.moved? count above).map some
  | .scrollDown => (g.moved? count columns).map some
  | _ => some none

theorem handleCounted?_eq (hselected : g.selected ≤ Extent.greatest)
    (hcolumns : g.columns ≤ Extent.greatest) (hcount : count ≤ Extent.greatest) (e : Event) :
    g.handleCounted? count e = some (g.handle? count e) := by
  have hone : 1 ≤ Extent.greatest := by decide
  have hmax : max g.columns 1 ≤ Extent.greatest := Nat.max_le.2 ⟨hcolumns, hone⟩
  have hsigned : Count.signed? (max g.columns 1 : Nat) = some ((max g.columns 1 : Nat) : Int) :=
    Count.signed?_of_le (by simp only [Extent.greatest, Count.greatest] at *; omega)
  have hnegated :
      Count.signed? (-(max g.columns 1 : Nat)) = some (-(max g.columns 1 : Nat) : Int) :=
    Count.signed?_of_le (by simp only [Extent.greatest, Count.greatest] at *; omega)
  rw [handleCounted?, hsigned, Option.bind_eq_bind, Option.bind_some]
  cases e with
  | cursorLeft => exact congrArg (Option.map some) (moved?_back hselected hone hcount)
  | cursorRight => exact congrArg (Option.map some) (moved?_forward hselected hone hcount)
  | scrollUp =>
    simp only [hnegated, Option.bind_some]
    exact congrArg (Option.map some) (moved?_back hselected hmax hcount)
  | scrollDown => exact congrArg (Option.map some) (moved?_forward hselected hmax hcount)
  | _ => rfl

/-- An event moves nothing but the selection, and that only to places of symbols. -/
theorem handle?_cases (hselected : g.selected < count) (h : g.handle? count e = some g') :
    ∃ selected < count, g' = { g with selected } := by
  have hforward (n : Nat) : ∃ selected < count, g.forward count n = { g with selected } := by
    rw [forward]
    split
    · exact ⟨_, ‹_›, rfl⟩
    · exact ⟨_, hselected, rfl⟩
  have hback (n : Nat) : ∃ selected < count, g.back count n = { g with selected } := by
    rw [back]
    split
    · rename_i hplace
      simp only [Bool.and_eq_true, decide_eq_true_eq] at hplace
      exact ⟨_, hplace.2, rfl⟩
    · exact ⟨_, hselected, rfl⟩
  unfold handle? at h
  split at h <;> cases h
  · exact hback _
  · exact hforward _
  · exact hback _
  · exact hforward _

/-! ## Placing the cards -/

/-- The gallery of `count` symbols after it has been drawn into an area, if all numbers are
    counts. -/
def afterDraw? (g : Gallery) (count : Nat) (area : Area) : Option Gallery := do
  let last ← Extent.sub? count 1
  let columns := columnsIn area
  let selected := min g.selected last
  let row := selected / columns
  if row < g.firstRow then some ⟨selected, columns, row⟩
  else do
    let below ← upTo? Count.greatest (g.firstRow + rowsIn area)
    if below ≤ row then do
      let next ← upTo? Count.greatest (row + 1)
      let firstRow ← Extent.sub? next (rowsIn area)
      some ⟨selected, columns, firstRow⟩
    else some ⟨selected, columns, g.firstRow⟩

theorem columnsIn_le (hwidth : area.width ≤ Extent.greatest) : columnsIn area ≤ 2340 := by
  simp only [columnsIn, cardWidth, Extent.greatest] at *
  omega

theorem rowsIn_le (hheight : area.height ≤ Extent.greatest) : rowsIn area ≤ 4681 := by
  simp only [rowsIn, cardHeight, Extent.greatest] at *
  omega

theorem afterDraw?_eq (hcount : 0 < count) (hselected : g.selected ≤ Extent.greatest)
    (hfirst : g.firstRow ≤ Extent.greatest) (hheight : area.height ≤ Extent.greatest) :
    g.afterDraw? count area = some (g.afterDraw count area) := by
  have hrows := rowsIn_le hheight
  have hrow : min g.selected (count - 1) / columnsIn area ≤ g.selected :=
    Nat.le_trans (Nat.div_le_self _ _) (Nat.min_le_left _ _)
  rw [afterDraw?, afterDraw, Extent.sub?_of_le hcount]
  simp only [Option.bind_eq_bind, Option.bind_some, scrolledTo]
  generalize min g.selected (count - 1) / columnsIn area = row at *
  simp only [Extent.greatest] at *
  split
  · rfl
  · rw [upTo?_of_le (by simp only [Count.greatest]; omega), Option.bind_some]
    split
    · rw [upTo?_of_le (by simp only [Count.greatest]; omega), Option.bind_some,
        Extent.sub?_of_le (by omega)]
      rfl
    · rfl

/-- Where the card in some place of the rows that are shown stands in an area, if all numbers are
    extents. -/
def cardArea? (area : Area) (slot : Nat) : Option Area := do
  let columns := columnsIn area
  let column ← upTo? Extent.greatest (slot % columns)
  let left ← upTo? Extent.greatest (column * cardWidth)
  let x ← Extent.add? area.x left
  let row ← upTo? Extent.greatest (slot / columns)
  let above ← upTo? Extent.greatest (row * cardHeight)
  let y ← Extent.add? area.y above
  let width ← Extent.sub? cardWidth 1
  let below ← Extent.sub? area.bottom y
  some ((⟨x, y, width, min cardHeight below⟩ : Area).intersect area)

theorem cardArea?_eq (hright : area.right ≤ Extent.greatest)
    (hbottom : area.bottom ≤ Extent.greatest) {slot : Nat}
    (hslot : slot < columnsIn area * rowsIn area) :
    cardArea? area slot = some (cardArea area slot) := by
  have hleft := left_le (Nat.mod_lt slot (columnsIn_pos area))
  have habove := above_le (row_lt hslot)
  simp only [Area.right, Area.bottom] at hright hbottom
  have hcolumn : slot % columnsIn area ≤ slot % columnsIn area * cardWidth :=
    Nat.le_mul_of_pos_right _ (by decide)
  have hrow : slot / columnsIn area ≤ slot / columnsIn area * cardHeight :=
    Nat.le_mul_of_pos_right _ (by decide)
  rw [cardArea?, cardArea]
  simp only [Option.bind_eq_bind]
  rw [upTo?_of_le (by omega), Option.bind_some, upTo?_of_le (by omega), Option.bind_some,
    Extent.add?_of_le (by omega), Option.bind_some, upTo?_of_le (by omega), Option.bind_some,
    upTo?_of_le (by omega), Option.bind_some, Extent.add?_of_le (by omega), Option.bind_some,
    Extent.sub?_of_le (by decide), Option.bind_some,
    Extent.sub?_of_le (by simp only [Area.bottom]; omega), Option.bind_some]

/-- The cards of some symbols that a gallery draws into an area, if all numbers are counts or
    extents. -/
def cards? (g : Gallery) (symbols : List Symbol) (area : Area) : Option (List Drawn) := do
  let first ← upTo? Count.greatest (g.firstRow * g.columns)
  let most ← upTo? Count.greatest (g.columns * rowsIn area)
  ((symbols.zipIdx.drop first).take most).mapM fun (symbol, place) => do
    let slot ← Extent.sub? place first
    let cardArea ← cardArea? area slot
    some ⟨symbol, place, cardArea⟩

theorem cards?_eq (hright : area.right ≤ Extent.greatest) (hbottom : area.bottom ≤ Extent.greatest)
    (hcolumns : g.columns = columnsIn area) (hfirst : g.firstRow * g.columns ≤ Extent.greatest)
    (symbols : List Symbol) : g.cards? symbols area = some (g.cards symbols area) := by
  have hwidth : area.width ≤ Extent.greatest := Nat.le_trans (Nat.le_add_left _ _) hright
  have hheight : area.height ≤ Extent.greatest := Nat.le_trans (Nat.le_add_left _ _) hbottom
  have hmost : g.columns * rowsIn area ≤ Count.greatest := by
    rw [hcolumns]
    exact Nat.le_trans (Nat.mul_le_mul (columnsIn_le hwidth) (rowsIn_le hheight)) (by decide)
  rw [cards?, cards, upTo?_of_le (Nat.le_trans hfirst (by decide)), Option.bind_eq_bind,
    Option.bind_some, upTo?_of_le hmost]
  refine mapM_of_forall_some fun shown hshown => ?_
  obtain ⟨symbol, place⟩ := shown
  obtain ⟨slot, hslot⟩ := List.mem_iff_getElem?.1 hshown
  have hcard : (g.cards symbols area)[slot]? =
      some ⟨symbol, place, cardArea area (place - g.firstRow * g.columns)⟩ := by
    rw [cards, List.getElem?_map, hslot]
    rfl
  obtain ⟨hlt, -, rfl, -⟩ := of_getElem?_cards hcard
  rw [hcolumns] at hlt
  simp only [Extent.sub?_of_le (Nat.le_add_right _ _), Nat.add_sub_cancel_left, Option.bind_eq_bind,
    Option.bind_some, cardArea?_eq hright hbottom hlt]

/-- The gallery of some symbols drawn into an area, if all numbers are counts or extents. -/
def draw? (g : Gallery) (symbols : List Symbol) (grid : Grid) (area : Area) :
    Option (Gallery × Grid) :=
  if symbols.isEmpty then some (g.draw symbols grid area)
  else do
    let g ← g.afterDraw? symbols.length area
    let cards ← g.cards? symbols area
    some (g, cards.foldl g.addCard grid)

/-! ## Galleries in use -/

/-- What may be done to a gallery of some symbols. Events count the symbols of the library. -/
inductive Step (symbols : List Symbol) : Gallery → Gallery → Prop
  | handle {g g' : Gallery} {e : Event} (h : g.handle? Library.symbols.length e = some g') :
    Step symbols g g'
  | draw (g : Gallery) (grid : Grid) {area : Area} (hright : area.right ≤ Extent.greatest)
    (hbottom : area.bottom ≤ Extent.greatest) : Step symbols g (g.draw symbols grid area).1

/-- What can come of a gallery that has not been drawn, with some symbol of the library selected. -/
inductive Reachable (symbols : List Symbol) : Gallery → Prop
  | start {selected : Nat} (h : selected < Library.symbols.length) :
    Reachable symbols { start with selected }
  | step {g g' : Gallery} : Reachable symbols g → Step symbols g g' → Reachable symbols g'

theorem Step.afterDraw (hne : symbols ≠ []) (g : Gallery) (area : Area)
    (hright : area.right ≤ Extent.greatest) (hbottom : area.bottom ≤ Extent.greatest) :
    Step symbols g (g.afterDraw symbols.length area) := by
  have hdraw : Step symbols g (g.draw symbols (.blank 0 0) area).1 := .draw g _ hright hbottom
  rwa [draw_eq hne] at hdraw

/-- The selection and the first row that is shown are less than the number of symbols, and there are
    no more columns than an area has. -/
structure Bounded (g : Gallery) : Prop where
  selected_lt : g.selected < Library.symbols.length
  firstRow_lt : g.firstRow < Library.symbols.length
  columns_le : g.columns ≤ 2340

theorem Bounded.afterDraw (h : g.Bounded) (count : Nat) (hwidth : area.width ≤ Extent.greatest) :
    (g.afterDraw count area).Bounded := by
  have hselected : min g.selected (count - 1) ≤ g.selected := Nat.min_le_left _ _
  have hrow : min g.selected (count - 1) / columnsIn area ≤ g.selected :=
    Nat.le_trans (Nat.div_le_self _ _) hselected
  refine ⟨Nat.lt_of_le_of_lt hselected h.selected_lt, ?_, columnsIn_le hwidth⟩
  have hlt := h.selected_lt
  have hfirst := h.firstRow_lt
  have hpos := rowsIn_pos area
  simp only [Gallery.afterDraw, scrolledTo]
  split
  · omega
  · split <;> omega

theorem draw_nil (g : Gallery) (grid : Grid) (area : Area) : (g.draw [] grid area).1 = g := rfl

theorem Bounded.step (h : g.Bounded) (hs : Step symbols g g') : g'.Bounded := by
  cases hs with
  | handle he =>
    obtain ⟨selected, hselected, rfl⟩ := handle?_cases h.selected_lt he
    exact ⟨hselected, h.firstRow_lt, h.columns_le⟩
  | draw grid hright hbottom =>
    by_cases hne : symbols = []
    · rwa [hne, draw_nil]
    · rw [draw_eq hne]
      exact h.afterDraw _ (Nat.le_trans (Nat.le_add_left _ _) hright)

theorem Reachable.bounded (h : Reachable symbols g) : g.Bounded := by
  induction h with
  | start hselected => exact ⟨hselected, Nat.succ_pos _, Nat.zero_le _⟩
  | step _ hs ih => exact ih.step hs

theorem draw?_eq (h : g.Bounded) (hne : symbols ≠ []) (grid : Grid)
    (hright : area.right ≤ Extent.greatest) (hbottom : area.bottom ≤ Extent.greatest) :
    g.draw? symbols grid area = some (g.draw symbols grid area) := by
  have hsymbols : Library.symbols.length ≤ Extent.greatest := by decide
  have hselected : g.selected ≤ Extent.greatest :=
    Nat.le_trans (Nat.le_of_lt h.selected_lt) hsymbols
  have hfirst : g.firstRow ≤ Extent.greatest := Nat.le_trans (Nat.le_of_lt h.firstRow_lt) hsymbols
  -- The first row that is shown is at most that of the selection.
  have hshown : (g.afterDraw symbols.length area).firstRow * columnsIn area ≤ Extent.greatest := by
    have hrow := (selectedRow_shown g.firstRow
      (min g.selected (symbols.length - 1) / columnsIn area) (rowsIn_pos area)).1
    calc _ ≤ min g.selected (symbols.length - 1) / columnsIn area * columnsIn area :=
          Nat.mul_le_mul_right _ hrow
      _ ≤ min g.selected (symbols.length - 1) := Nat.div_mul_le_self _ _
      _ ≤ Extent.greatest := Nat.le_trans (Nat.min_le_left _ _) hselected
  rw [draw?, if_neg (by simpa using hne),
    afterDraw?_eq (List.length_pos_iff.2 hne) hselected hfirst
      (Nat.le_trans (Nat.le_add_left _ _) hbottom),
    Option.bind_eq_bind, Option.bind_some, cards?_eq hright hbottom rfl hshown symbols, draw_eq hne]
  rfl

/-- Whatever has been done to a gallery of symbols, of which there are some: the selection is less
    than the number of symbols that events count, and so the place of a symbol if there are no fewer
    in the gallery; an event and a drawing into any area come to what they do without a number on
    the way that is too great or less than nothing. In a drawing the selection is the place of a
    symbol, its card is among those drawn, and all of these are within the area and apart from each
    other. -/
theorem selection_drawn (hne : symbols ≠ []) (h : Reachable symbols g) :
    g.selected < Library.symbols.length ∧
      (Library.symbols.length ≤ symbols.length → g.selected < symbols.length) ∧
      (∀ e, g.handleCounted? Library.symbols.length e =
        some (g.handle? Library.symbols.length e)) ∧
      ∀ grid area, area.right ≤ Extent.greatest → area.bottom ≤ Extent.greatest →
        ∃ g', g.draw symbols grid area = (g', (g'.cards symbols area).foldl g'.addCard grid) ∧
          g.draw? symbols grid area = some (g.draw symbols grid area) ∧
          g'.selected < symbols.length ∧
          (∃ card ∈ g'.cards symbols area, card.place = g'.selected) ∧
          (∀ card ∈ g'.cards symbols area,
            symbols[card.place]? = some card.symbol ∧ card.area.Within area) ∧
          (g'.cards symbols area).Pairwise fun a b => a.area.Apart b.area := by
  have hbounded := h.bounded
  have hselected : g.selected ≤ Extent.greatest :=
    Nat.le_trans (Nat.le_of_lt hbounded.selected_lt) (by decide)
  refine ⟨hbounded.selected_lt, Nat.lt_of_lt_of_le hbounded.selected_lt,
    handleCounted?_eq hselected (Nat.le_trans hbounded.columns_le (by decide)) (by decide),
    fun grid area hright hbottom => ?_⟩
  refine ⟨_, draw_eq hne g grid area, draw?_eq hbounded hne grid hright hbottom,
    selected_afterDraw_lt hne, selected_mem_cards hne g area, fun card hcard => ⟨?_, ?_⟩,
    cards_apart _ symbols area⟩
  · obtain ⟨slot, hslot⟩ := List.mem_iff_getElem?.1 hcard
    exact (of_getElem?_cards hslot).2.1
  · exact within_of_mem_cards rfl hcard

/-- The third symbol is selected in a grid of two columns, which is then drawn into an area that is
    less wide and less high than one card. The row of the symbol becomes the only one. -/
theorem selection_drawn_small :
    let g : Gallery := ⟨2, 2, 0⟩
    let g' : Gallery := ⟨2, 1, 2⟩
    let area : Area := ⟨65515, 3, 20, 5⟩
    let grid : Grid := .blank 20 8
    Reachable Library.symbols g ∧ g.selected < Library.symbols.length ∧
      area.right ≤ Extent.greatest ∧ area.bottom ≤ Extent.greatest ∧
      g.draw? Library.symbols grid area = some (g.draw Library.symbols grid area) ∧
      (g.draw Library.symbols grid area).1 = g' ∧
      (∃ card ∈ g'.cards Library.symbols area, card.place = 2) ∧
      ∀ card ∈ g'.cards Library.symbols area, card.area.Within area := by
  intro g g' area grid
  have hsymbols : Library.symbols ≠ [] := by decide
  have hwide : Step Library.symbols start ⟨0, 2, 0⟩ :=
    .afterDraw hsymbols start ⟨0, 0, 60, 14⟩ (by decide) (by decide)
  have hdown : Step Library.symbols ⟨0, 2, 0⟩ g := Step.handle (e := .scrollDown) rfl
  have hreach : Reachable Library.symbols g := ((Reachable.start (by decide)).step hwide).step hdown
  obtain ⟨hselected, -, -, hdraws⟩ := selection_drawn hsymbols hreach
  obtain ⟨drawn, hdraw, hcounted, -, hcard, hwithin, -⟩ :=
    hdraws grid area (by decide) (by decide)
  have hafter : (g.draw Library.symbols grid area).1 = g' := by
    rw [draw_eq hsymbols]
    decide
  obtain rfl : drawn = g' := by rw [← hafter, hdraw]
  exact ⟨hreach, hselected, by decide, by decide, hcounted, hafter, hcard,
    fun card hmem => (hwithin card hmem).2⟩

/-- The first two symbols of the library. -/
def pair : List Symbol := Library.symbols.take 2

/-- In a gallery of two symbols that has been drawn, two events move the selection beyond them. -/
theorem reachable_pair : Reachable pair ⟨2, 1, 0⟩ := by
  have hdrawn : Step pair start ⟨0, 1, 0⟩ :=
    .afterDraw (by decide) start ⟨0, 0, 28, 14⟩ (by decide) (by decide)
  have hfirst : Step pair ⟨0, 1, 0⟩ ⟨1, 1, 0⟩ := Step.handle (e := .cursorRight) rfl
  have hsecond : Step pair ⟨1, 1, 0⟩ ⟨2, 1, 0⟩ := Step.handle (e := .cursorRight) rfl
  exact (((Reachable.start (by decide)).step hdrawn).step hfirst).step hsecond

/-- The selection is not at all times the place of a symbol, if there are fewer symbols than in the
    library. -/
theorem not_selected_lt : ¬∀ (symbols : List Symbol) (g : Gallery), symbols ≠ [] →
    Reachable symbols g → g.selected < symbols.length := by
  intro h
  exact absurd (h pair ⟨2, 1, 0⟩ (by decide) reachable_pair) (by decide)

end Gallery

end CircuitHub

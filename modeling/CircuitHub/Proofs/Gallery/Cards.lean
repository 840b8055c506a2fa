import CircuitHub.Gallery

/-!
# The cards of a gallery

A gallery draws the cards of some of its symbols, which stand beside and below each other in an area
(`Gallery.cards`). No cell belongs to two cards (`Gallery.cards_apart`) and none of a card is
outside the area (`Gallery.within_of_mem_cards`), although an area may be less wide or high than one
card.
The card of the selected symbol is drawn (`Gallery.selected_mem_cards`), wherever the rows have been
moved before.
-/

namespace CircuitHub

namespace Area

variable {a b : Area} {x y : Nat}

/-- A cell belongs to the area. -/
def Holds (a : Area) (x y : Nat) : Prop := a.x ≤ x ∧ x < a.right ∧ a.y ≤ y ∧ y < a.bottom

/-- No cell belongs to both areas. -/
def Apart (a b : Area) : Prop := ∀ x y, a.Holds x y → ¬b.Holds x y

theorem Holds.of_intersect (h : (a.intersect b).Holds x y) : a.Holds x y := by
  simp only [Holds, intersect, right, bottom] at *
  omega

/-- What two areas have in common belongs to each of them, if the first one does not begin beyond
    the second one. -/
theorem intersect_within (hx : a.x ≤ b.right) (hy : a.y ≤ b.bottom) :
    (a.intersect b).Within b := by
  simp only [Within, intersect, right, bottom] at *
  omega

end Area

namespace Gallery

variable {g : Gallery} {symbols : List Symbol} {area : Area} {i j slot : Nat}

/-! ## Where cards stand -/

theorem columnsIn_pos (area : Area) : 0 < columnsIn area :=
  Nat.lt_of_lt_of_le Nat.one_pos (Nat.le_max_right _ _)

theorem rowsIn_pos (area : Area) : 0 < rowsIn area :=
  Nat.lt_of_lt_of_le Nat.one_pos (Nat.le_max_right _ _)

/-- The columns before a card are within the area. -/
theorem left_le (h : i < columnsIn area) : i * cardWidth ≤ area.width := by
  simp only [columnsIn, cardWidth] at *
  omega

/-- The rows above a card are within the area. -/
theorem above_le (h : i < rowsIn area) : i * cardHeight ≤ area.height := by
  simp only [rowsIn, cardHeight] at *
  omega

theorem row_lt (h : slot < columnsIn area * rowsIn area) : slot / columnsIn area < rowsIn area :=
  Nat.div_lt_of_lt_mul h

theorem cardArea_within (h : slot < columnsIn area * rowsIn area) :
    (cardArea area slot).Within area := by
  have hleft := left_le (Nat.mod_lt slot (columnsIn_pos area))
  have habove := above_le (row_lt h)
  exact Area.intersect_within (Nat.add_le_add_left hleft _) (Nat.add_le_add_left habove _)

/-- The columns and rows in which the card in some place of those shown may stand. -/
theorem bounds_of_holds_cardArea {x y : Nat} (h : (cardArea area slot).Holds x y) :
    area.x + slot % columnsIn area * cardWidth ≤ x ∧
      x < area.x + slot % columnsIn area * cardWidth + cardWidth ∧
      area.y + slot / columnsIn area * cardHeight ≤ y ∧
      y < area.y + slot / columnsIn area * cardHeight + cardHeight := by
  have hcard := h.of_intersect
  simp only [Area.Holds, Area.right, Area.bottom, cardWidth, cardHeight] at *
  omega

theorem cardArea_apart (h : i ≠ j) : (cardArea area i).Apart (cardArea area j) := by
  intro x y hi hj
  have hi := bounds_of_holds_cardArea hi
  have hj := bounds_of_holds_cardArea hj
  simp only [cardWidth, cardHeight] at hi hj
  -- Two cards that share a cell are in the same column and in the same row.
  have hcolumn : i % columnsIn area = j % columnsIn area := by omega
  have hrow : i / columnsIn area = j / columnsIn area := by omega
  refine h ?_
  rw [← Nat.div_add_mod i (columnsIn area), ← Nat.div_add_mod j (columnsIn area), hcolumn, hrow]

/-! ## Which cards are drawn -/

/-- A card that is drawn. -/
structure Drawn where
  /-- The symbol on the card. -/
  symbol : Symbol
  /-- The place of the symbol among all symbols. -/
  place : Nat
  /-- Where the card stands. -/
  area : Area

/-- The cards of some symbols that a gallery draws into an area, once its rows have been moved. -/
def cards (g : Gallery) (symbols : List Symbol) (area : Area) : List Drawn :=
  let first := g.firstRow * g.columns
  ((symbols.zipIdx.drop first).take (g.columns * rowsIn area)).map fun (symbol, place) =>
    ⟨symbol, place, cardArea area (place - first)⟩

/-- The grid with a card of a gallery drawn. -/
def addCard (g : Gallery) (grid : Grid) (card : Drawn) : Grid :=
  drawCard card.symbol (card.place = g.selected) grid card.area

theorem getElem?_cards (g : Gallery) (symbols : List Symbol) (area : Area) (slot : Nat) :
    (g.cards symbols area)[slot]? =
      if slot < g.columns * rowsIn area then
        symbols[g.firstRow * g.columns + slot]?.map fun symbol =>
          ⟨symbol, g.firstRow * g.columns + slot, cardArea area slot⟩
      else none := by
  simp only [cards, List.getElem?_map, List.getElem?_take, List.getElem?_drop, List.getElem?_zipIdx]
  split
  · simp [Function.comp_def]
  · rfl

/-- What is known of a card by the order in which it is drawn. -/
theorem of_getElem?_cards {card : Drawn} (h : (g.cards symbols area)[slot]? = some card) :
    slot < g.columns * rowsIn area ∧ symbols[card.place]? = some card.symbol ∧
      card.place = g.firstRow * g.columns + slot ∧ card.area = cardArea area slot := by
  rw [getElem?_cards] at h
  split at h
  case isTrue hslot =>
    obtain ⟨symbol, hsymbol, rfl⟩ := Option.map_eq_some_iff.1 h
    exact ⟨hslot, hsymbol, rfl, rfl⟩
  case isFalse => cases h

theorem draw_eq (h : symbols ≠ []) (g : Gallery) (grid : Grid) (area : Area) :
    g.draw symbols grid area =
      (g.afterDraw symbols.length area,
        ((g.afterDraw symbols.length area).cards symbols area).foldl
          (g.afterDraw symbols.length area).addCard grid) := by
  rw [draw, if_neg (by simpa using h)]
  generalize g.afterDraw symbols.length area = g'
  have hcards : g'.cards symbols area =
      (((symbols.zipIdx.drop (g'.firstRow * g'.columns)).take
        (g'.columns * rowsIn area)).zipIdx).map fun shown =>
          ⟨shown.1.1, shown.1.2, cardArea area shown.2⟩ := by
    refine List.ext_getElem? fun slot => ?_
    rw [getElem?_cards]
    simp only [List.getElem?_map, List.getElem?_zipIdx, List.getElem?_take, List.getElem?_drop]
    split
    · simp [Function.comp_def]
    · rfl
  rw [hcards, List.foldl_map]
  rfl

/-- No cell belongs to two cards. -/
theorem cards_apart (g : Gallery) (symbols : List Symbol) (area : Area) :
    (g.cards symbols area).Pairwise fun a b => a.area.Apart b.area := by
  rw [List.pairwise_iff_getElem]
  intro i j hi hj hij
  obtain ⟨-, -, -, hareai⟩ := of_getElem?_cards (List.getElem?_eq_getElem hi)
  obtain ⟨-, -, -, hareaj⟩ := of_getElem?_cards (List.getElem?_eq_getElem hj)
  rw [hareai, hareaj]
  exact cardArea_apart (Nat.ne_of_lt hij)

/-- No cell of a card is outside the area. -/
theorem within_of_mem_cards (hcolumns : g.columns = columnsIn area) {card : Drawn}
    (h : card ∈ g.cards symbols area) : card.area.Within area := by
  obtain ⟨slot, hslot⟩ := List.mem_iff_getElem?.1 h
  obtain ⟨hshown, -, -, harea⟩ := of_getElem?_cards hslot
  rw [hcolumns] at hshown
  rw [harea]
  exact cardArea_within hshown

/-! ## The selected symbol -/

theorem selected_afterDraw_lt (h : symbols ≠ []) :
    (g.afterDraw symbols.length area).selected < symbols.length := by
  have hpos := List.length_pos_iff.2 h
  show min g.selected (symbols.length - 1) < symbols.length
  omega

/-- The card of a symbol is drawn if its row is among those shown. -/
theorem exists_card_of_row {place : Nat} (hcolumns : 0 < g.columns)
    (hplace : place < symbols.length) (hfirst : g.firstRow ≤ place / g.columns)
    (hlast : place / g.columns < g.firstRow + rowsIn area) :
    ∃ card ∈ g.cards symbols area, card.place = place := by
  have hle : g.firstRow * g.columns ≤ place :=
    Nat.le_trans (Nat.mul_le_mul_right _ hfirst) (Nat.div_mul_le_self _ _)
  have hshown : place - g.firstRow * g.columns < g.columns * rowsIn area := by
    have hlt : place < (g.firstRow + rowsIn area) * g.columns :=
      (Nat.div_lt_iff_lt_mul hcolumns).1 hlast
    rw [Nat.add_mul, Nat.mul_comm (rowsIn area)] at hlt
    omega
  have hcard := getElem?_cards g symbols area (place - g.firstRow * g.columns)
  rw [if_pos hshown, Nat.add_sub_cancel' hle, List.getElem?_eq_getElem hplace] at hcard
  exact ⟨_, List.mem_of_getElem? hcard, rfl⟩

/-- The card of the selected symbol is drawn. -/
theorem selected_mem_cards (h : symbols ≠ []) (g : Gallery) (area : Area) :
    ∃ card ∈ (g.afterDraw symbols.length area).cards symbols area,
      card.place = (g.afterDraw symbols.length area).selected :=
  have hrow := selectedRow_shown g.firstRow
    (min g.selected (symbols.length - 1) / columnsIn area) (rowsIn_pos area)
  exists_card_of_row (columnsIn_pos area) (selected_afterDraw_lt h) hrow.1 hrow.2

end Gallery

end CircuitHub

import CircuitHub.Proofs.Extent
import CircuitHub.Transcript.Card
import Mathlib.Data.List.Chain

/-!
# Parts of a card below each other

A card is measured by adding up the rows of its parts (`Card.height`), and drawn by going down from
part to part until no row is left (`Card.placements`). Both come to the same: in as many rows as the
card was measured to have, every part has all of its rows, one row is left between each two parts,
and the last part ends where the card does (`Card.draw_fills`). A part may have no rows at all, as
prose that only says where links lead. At the end of a card no row is left for it, and it is passed
over, which makes no difference to what is drawn.

Rows are counted without a limit here (`Card.rowCount`), and they are what was measured if they are
extents (`Card.height_eq_rowCount`).

* `stacked_stack`: pieces that are put one below the other stand so;
* `Card.placements_eq_stack`: the parts are put so, but for a last one without rows.
-/

namespace CircuitHub

/-! ## Pieces below each other -/

/-- Areas stand below each other from one row down to another, the same number of rows between each
    two of them. -/
structure Stacked (gap top bottom : Nat) (areas : List Area) : Prop where
  first : ∀ a ∈ areas.head?, a.y = top
  apart : areas.IsChain fun a b => b.y = a.bottom + gap
  last : ∀ a ∈ areas.getLast?, a.bottom = bottom

/-- Pieces of given heights, each below the one before, from row `y` on. -/
def stack {α : Type} (gap x width y : Nat) : List (α × Nat) → List (α × Area)
  | [] => []
  | (a, height) :: pieces =>
    (a, ⟨x, y, width, height⟩) :: stack gap x width (y + height + gap) pieces

section Stack

variable {α : Type} (gap x width y : Nat) (pieces : List (α × Nat))

/-- Each piece has the height that is given for it. -/
theorem map_stack :
    (stack gap x width y pieces).map (fun place => (place.1, place.2.height)) = pieces := by
  induction pieces generalizing y with
  | nil => rfl
  | cons piece pieces ih => rw [stack, List.map_cons, ih]

theorem x_width_of_mem_stack {place : α × Area} (h : place ∈ stack gap x width y pieces) :
    place.2.x = x ∧ place.2.width = width := by
  induction pieces generalizing y with
  | nil => exact absurd h List.not_mem_nil
  | cons piece pieces ih =>
    rcases List.mem_cons.1 h with rfl | h
    · exact ⟨rfl, rfl⟩
    · exact ih _ h

/-- Pieces that are put one below the other stand so, and take up their rows and those between
    them. -/
theorem stacked_stack : Stacked gap y
    (y + total (pieces.map Prod.snd) + (pieces.length - 1) * gap)
    ((stack gap x width y pieces).map Prod.snd) := by
  induction pieces generalizing y with
  | nil => exact ⟨nofun, .nil, nofun⟩
  | cons piece pieces ih =>
    cases pieces with
    | nil => exact ⟨by simp [stack], .singleton _, by simp [stack, Area.bottom]⟩
    | cons next pieces =>
      obtain ⟨first, apart, last⟩ := ih (y + piece.2 + gap)
      refine ⟨by simp [stack], .cons_cons rfl apart, fun a ha => ?_⟩
      -- The last of all pieces is the last of those below the first one.
      have hlast := last a (by simpa [stack] using ha)
      rw [hlast]
      simp only [List.map_cons, total_cons, List.length_cons, Nat.add_sub_cancel, Nat.add_mul,
        Nat.one_mul]
      omega

end Stack

/-! ## Rows of a card -/

namespace Card.Part

variable {part : Part} {width : Nat}

/-- The rows of the part in so many columns, however many they are. -/
def rowCount (part : Part) (width : Nat) : Nat :=
  match part with
  | prose lines => ({ lines, overflow := .wrap true } : Paragraph).lineCount width
  | code lines => ({ lines, overflow := .wrap false } : Paragraph).lineCount width
  | drawing _ => drawingHeight

theorem height_eq_wrap (part : Part) (width : Nat) :
    part.height width = Extent.wrap (part.rowCount width) := by
  cases part with
  | prose lines => rfl
  | code lines => rfl
  | drawing s => rfl

theorem height_eq_rowCount (h : part.rowCount width ≤ Extent.greatest) :
    part.height width = part.rowCount width :=
  (height_eq_wrap part width).trans (Extent.wrap_eq_self h)

end Card.Part

/-- Nothing is drawn where there are no rows. -/
theorem Paragraph.draw_of_height_eq_zero {p : Paragraph} (hstyle : p.style = {}) (g : Grid)
    {area : Area} (h : area.height = 0) : p.draw g area = g := by
  have hrows : (area.intersect g.area).height = 0 := by
    simp only [Area.intersect, Area.bottom, h]
    omega
  simp [Paragraph.draw, Grid.restyle, hstyle, hrows]

/-- A part without rows draws nothing where there are none. -/
theorem Card.Part.draw_of_rowCount_eq_zero {part : Part} {width : Nat}
    (hpart : part.rowCount width = 0) (color : Color) (g : Grid) {area : Area}
    (h : area.height = 0) : part.draw color g area = g := by
  cases part with
  | prose lines => exact Paragraph.draw_of_height_eq_zero rfl g h
  | code lines => exact Paragraph.draw_of_height_eq_zero rfl g h
  | drawing s => exact absurd hpart (by decide : drawingHeight ≠ 0)

namespace Card

variable {c : Card} {area inner : Area} {width : Nat}

/-- The rows of the card in so many columns, however many they are: those of its parts, one between
    each two of them, and the border. -/
def rowCount (c : Card) (width : Nat) : Nat :=
  total (c.parts.map (·.rowCount (width - frameColumns))) + (c.parts.length - 1) + frameRows

theorem part_rowCount_le {part : Part} (h : part ∈ c.parts) :
    part.rowCount (width - frameColumns) ≤ c.rowCount width := by
  have hle := le_total_of_mem (List.mem_map_of_mem (f := (·.rowCount (width - frameColumns))) h)
  rw [rowCount]
  omega

/-- The card is measured to have the rows that it has, if there are not too many. -/
theorem height_eq_rowCount (hwidth : frameColumns < width)
    (hfit : c.rowCount width ≤ Extent.greatest) : c.height width = c.rowCount width := by
  have hparts : c.parts.map (·.height (width - frameColumns)) =
      c.parts.map (·.rowCount (width - frameColumns)) :=
    List.map_congr_left fun part hpart =>
      Part.height_eq_rowCount (Nat.le_trans (part_rowCount_le hpart) hfit)
  have hgaps : c.parts.length - 1 ≤ Extent.greatest := by
    rw [rowCount] at hfit
    omega
  rw [height, if_neg (Nat.sub_ne_zero_of_lt hwidth), hparts, Extent.wrap_eq_self hgaps, rowCount]

/-! ## Places of the parts -/

/-- Where parts with all of their rows stand in an area, from its row `y` on. -/
def stackParts (area : Area) (y : Nat) (parts : List Part) : List (Part × Area) :=
  stack 1 area.x area.width y (parts.map fun part => (part, part.rowCount area.width))

/-- Parts that end with the area are put below each other with all of their rows, but for a last one
    without rows. -/
theorem placements_eq_stack {parts : List Part} {y : Nat}
    (hrows : ∀ part ∈ parts, part.rowCount area.width ≤ Extent.greatest)
    (hends : y + total (parts.map (·.rowCount area.width)) + (parts.length - 1) = area.bottom) :
    placements area y parts = stackParts area y parts ∨
      ∃ last, last.1.rowCount area.width = 0 ∧ last.2.height = 0 ∧
        placements area y parts ++ [last] = stackParts area y parts := by
  induction parts generalizing y with
  | nil => exact .inl rfl
  | cons part parts ih =>
    have hpart := Part.height_eq_rowCount (hrows part List.mem_cons_self)
    simp only [List.map_cons, total_cons, List.length_cons, Nat.add_sub_cancel] at hends
    rw [placements, hpart]
    by_cases hbelow : area.bottom ≤ y
    · -- No row is left, so that nothing follows this part, and it has no rows itself.
      obtain rfl : parts = [] := List.eq_nil_of_length_eq_zero (by omega)
      have hzero : part.rowCount area.width = 0 := by
        rw [List.map_nil, total_nil] at hends
        omega
      rw [if_pos hbelow]
      refine .inr ⟨(part, ⟨area.x, y, area.width, part.rowCount area.width⟩), hzero, hzero, rfl⟩
    · have hwhole : min (part.rowCount area.width) (area.bottom - y) =
          part.rowCount area.width := by
        omega
      rw [if_neg hbelow, hwhole]
      cases parts with
      | nil => exact .inl rfl
      | cons next parts =>
        have hlater := ih (y := y + part.rowCount area.width + 1)
          (fun p hp => hrows p (List.mem_cons_of_mem part hp))
          (by rw [List.length_cons] at hends ⊢; omega)
        obtain heq | ⟨last, hcount, hheight, heq⟩ := hlater
        · exact .inl (congrArg (List.cons _) heq)
        · exact .inr ⟨last, hcount, hheight, congrArg (List.cons _) heq⟩

/-- The parts of a card stand below each other in all of an area, each with all of its rows and one
    row between each two of them. -/
structure Fills (c : Card) (inner : Area) (places : List (Part × Area)) : Prop where
  parts : places.map Prod.fst = c.parts
  whole : ∀ place ∈ places, place.2.x = inner.x ∧ place.2.width = inner.width ∧
    place.2.height = place.1.rowCount inner.width
  stacked : Stacked 1 inner.y inner.bottom (places.map Prod.snd)

theorem fills_stackParts
    (hends : inner.y + total (c.parts.map (·.rowCount inner.width)) + (c.parts.length - 1) =
      inner.bottom) :
    c.Fills inner (stackParts inner inner.y c.parts) := by
  let pieces := c.parts.map fun part => (part, part.rowCount inner.width)
  have hmap := map_stack 1 inner.x inner.width inner.y pieces
  have hstacked := stacked_stack 1 inner.x inner.width inner.y pieces
  refine ⟨?_, fun place hplace => ?_, ?_⟩
  · have hparts := congrArg (List.map Prod.fst) hmap
    simpa [pieces, stackParts, Function.comp_def] using hparts
  · obtain ⟨hx, hwidth⟩ := x_width_of_mem_stack 1 inner.x inner.width inner.y pieces hplace
    have hmem : (place.1, place.2.height) ∈ pieces := hmap ▸ List.mem_map_of_mem hplace
    obtain ⟨part, -, heq⟩ := List.mem_map.1 hmem
    obtain ⟨hpart, hheight⟩ := Prod.mk.inj heq
    exact ⟨hx, hwidth, hpart ▸ hheight.symm⟩
  · rw [stackParts, ← hends]
    simpa [pieces, Function.comp_def] using hstacked

/-- What the border of a card leaves of an area that has as many rows as the card. -/
theorem inner_of_height_eq (hwidth : frameColumns < area.width)
    (hheight : area.height = c.rowCount area.width) :
    (c.panel.inner area).width = area.width - frameColumns ∧
      (c.panel.inner area).y +
        total (c.parts.map (·.rowCount (c.panel.inner area).width)) + (c.parts.length - 1) =
          (c.panel.inner area).bottom := by
  have hinner : c.panel.inner area =
      ⟨area.x + 2, area.y + 1, area.width - frameColumns, area.height - frameRows⟩ := by
    rw [rowCount, frameRows] at hheight
    rw [frameColumns] at hwidth
    simp [Panel.inner, panel, Panel.isBoxed, Panel.hasRightEdge, Panel.one, frameColumns,
      frameRows]
    omega
  have hinside : area.height - frameRows =
      total (c.parts.map (·.rowCount (area.width - frameColumns))) + (c.parts.length - 1) := by
    rw [hheight, rowCount, Nat.add_sub_cancel]
  rw [hinner, Area.bottom, hinside]
  exact ⟨rfl, Nat.add_assoc _ _ _⟩

/-- A card that is drawn with as many rows as it was measured to have is drawn whole: the parts
    fill what the border leaves, in their order, each with all of its rows and with one row between
    each two of them. What is put into the area are these parts, but for a last one without rows,
    and the drawing is that of all of them. -/
theorem draw_fills (c : Card) (g : Grid) (area : Area) (hwidth : frameColumns < area.width)
    (hfit : c.rowCount area.width ≤ Extent.greatest) (hheight : area.height = c.height area.width) :
    ∃ places, c.Fills (c.panel.inner area) places ∧
      (placements (c.panel.inner area) (c.panel.inner area).y c.parts = places ∨
        ∃ last, last.2.height = 0 ∧
          placements (c.panel.inner area) (c.panel.inner area).y c.parts ++ [last] = places) ∧
      c.draw g area = places.foldl (fun g (part, place) => part.draw c.color g place)
        (c.panel.draw g area) := by
  obtain ⟨hinner, hends⟩ :=
    inner_of_height_eq hwidth (hheight.trans (height_eq_rowCount hwidth hfit))
  have hrows : ∀ part ∈ c.parts,
      part.rowCount (c.panel.inner area).width ≤ Extent.greatest := fun part hpart => by
    rw [hinner]
    exact Nat.le_trans (part_rowCount_le hpart) hfit
  refine ⟨_, fills_stackParts hends, ?_⟩
  obtain heq | ⟨⟨part, place⟩, hcount, hlast, heq⟩ := placements_eq_stack hrows hends
  · exact ⟨.inl heq, by rw [draw, heq]⟩
  · refine ⟨.inr ⟨(part, place), hlast, heq⟩, ?_⟩
    rw [← heq, List.foldl_append]
    -- The part that is passed over would leave the drawing as it is.
    exact (Part.draw_of_rowCount_eq_zero hcount c.color _ hlast).symm

/-- A card with prose, with code and with prose that only says where a link leads. -/
def linked : Card := .ofMessage ⟨.model, "R1\n```\nx\n```\n[a]: b".toList, 0⟩

/-- In ten columns, its parts have one row, three rows and none. -/
theorem draw_fills_linked :
    linked.rowCount 10 = 8 ∧ linked.height 10 = 8 ∧
      ∃ places, linked.Fills (linked.panel.inner ⟨0, 0, 10, 8⟩) places ∧
        linked.draw (.blank 10 8) ⟨0, 0, 10, 8⟩ =
          places.foldl (fun g (part, place) => part.draw linked.color g place)
            (linked.panel.draw (.blank 10 8) ⟨0, 0, 10, 8⟩) := by
  have hrows : linked.rowCount 10 = 8 := by decide +kernel
  have hheight : linked.height 10 = 8 := by decide +kernel
  obtain ⟨places, hfills, -, hdraw⟩ := draw_fills linked (.blank 10 8) ⟨0, 0, 10, 8⟩
    (by decide) (by rw [hrows]; decide) hheight.symm
  exact ⟨hrows, hheight, places, hfills, hdraw⟩

end Card

end CircuitHub

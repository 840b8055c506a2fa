import CircuitHub.Proofs.Transcript.Bottom
import CircuitHub.Proofs.Transcript.Stacking

/-!
# Cards that tile the transcript

Cards stand directly below each other (`Stacked`), and each begins where it says that it does
(`Heights.top`). To paint some of them, one goes to the row at which the first of them begins and
then adds their heights, which leads to the same places (`Transcript.placements`). So what is
painted (`Transcript.painted`) is cut out of one tiling of all rows, and it holds all that the
window shows (`Transcript.painted_tiles`).

* `drop_stack`: the lower ones of some pieces stand below the rows of the others;
* `Transcript.placements_eq_stack`: painting puts cards directly below each other;
* `Heights.visible_le`: the first card that is painted is not behind the last one.
-/

namespace CircuitHub

section Stack

variable {α : Type} (gap x width y : Nat) {i : Nat} {pieces : List (α × Nat)}

theorem take_stack : (stack gap x width y pieces).take i = stack gap x width y (pieces.take i) := by
  induction pieces generalizing i y with
  | nil => simp [stack]
  | cons piece pieces ih =>
    cases i with
    | zero => rfl
    | succ i => rw [stack, List.take_succ_cons, List.take_succ_cons, ih, stack]

/-- The lower ones of some pieces stand below the rows of those above them. -/
theorem drop_stack (hi : i ≤ pieces.length) : (stack gap x width y pieces).drop i =
    stack gap x width (y + total ((pieces.take i).map Prod.snd) + i * gap) (pieces.drop i) := by
  induction pieces generalizing i y with
  | nil =>
    obtain rfl : i = 0 := Nat.le_zero.1 hi
    rfl
  | cons piece pieces ih =>
    cases i with
    | zero => simp
    | succ i =>
      rw [stack, List.drop_succ_cons, List.drop_succ_cons, ih _ (Nat.le_of_succ_le_succ hi),
        List.take_succ_cons, List.map_cons, total_cons, Nat.succ_mul]
      congr 1
      omega

/-- A piece stands below the rows of those above it. -/
theorem getElem?_stack : (stack gap x width y pieces)[i]? = pieces[i]?.map fun piece =>
    (piece.1, ⟨x, y + total ((pieces.take i).map Prod.snd) + i * gap, width, piece.2⟩) := by
  induction pieces generalizing i y with
  | nil => rfl
  | cons piece pieces ih =>
    cases i with
    | zero => simp [stack]
    | succ i =>
      have hy (above : Nat) : y + piece.2 + gap + above + i * gap =
          y + (piece.2 + above) + (i + 1) * gap := by
        rw [Nat.succ_mul]
        omega
      simp only [stack, List.getElem?_cons_succ, ih, List.take_succ_cons, List.map_cons, total_cons,
        hy]

end Stack

namespace Heights

variable {h : Heights} {heights : List Nat} {i width offset viewport : Nat}

/-- Each message begins where the one above it ends. -/
theorem top_succ (hfit : CircuitHub.total heights ≤ Extent.greatest) (hi : i < heights.length) :
    (ofList heights width).top (i + 1) = (ofList heights width).top i + heights[i] := by
  rw [top_ofList hfit hi, top_ofList hfit (Nat.le_of_lt hi), List.take_succ_eq_append_getElem hi,
    total_append, total_cons, total_nil, Nat.add_zero]

theorem visible_snd_le (heights : List Nat) (width offset viewport : Nat) :
    ((ofList heights width).visible offset viewport).2 ≤ heights.length :=
  Nat.le_trans (Nat.min_le_right _ _) (Nat.le_of_eq (runningSums_length 0 heights))

/-- The first message that is painted is not below the last one, as no message is without rows. -/
theorem visible_le (hpos : ∀ n ∈ heights, 0 < n)
    (hfit : CircuitHub.total heights ≤ Extent.greatest) (width offset viewport : Nat) :
    ((ofList heights width).visible offset viewport).1 ≤
      ((ofList heights width).visible offset viewport).2 := by
  have hmono : (ofList heights width).bottoms.Pairwise (· ≤ ·) := pairwise_runningSums 0 heights
  have hlength : (ofList heights width).bottoms.length = heights.length :=
    runningSums_length 0 heights
  have hfst : ((ofList heights width).visible offset viewport).1 ≤ heights.length :=
    hlength ▸ (List.takeWhile_prefix _).length_le
  by_contra hlt
  -- Otherwise some message begins too far down, and still ends too far up.
  generalize hstop : ((ofList heights width).visible offset viewport).2 = stop at hlt
  have hin : stop < heights.length := by omega
  have hends := (lt_visible_fst_iff hmono (hlength ▸ hin) offset viewport).1 (Nat.not_le.1 hlt)
  have hbegins := (lt_visible_snd_iff hmono (hlength ▸ hin) offset viewport).not.1 (by omega)
  have hrows := hpos _ (List.getElem_mem hin)
  have hgreatest : (ofList heights width).top (stop + 1) ≤ Extent.greatest := by
    rw [top_ofList hfit hin]
    exact Nat.le_trans (total_take_le heights (stop + 1)) hfit
  rw [top_succ hfit hin] at hends hgreatest
  simp only [Extent.saturate] at hbegins
  omega

end Heights

namespace Transcript

variable {t : Transcript} {messages : List Message} {heights : List Nat} {width : Nat}

theorem placements_eq_stack {y : Nat} {cards : List (Message × Nat)} :
    placements width y cards = stack 0 0 width y cards := by
  induction cards generalizing y with
  | nil => rfl
  | cons card cards ih => rw [placements, stack, ih, Nat.add_zero]

/-- In the tiling of all messages, each stands where it begins and ends. -/
theorem getElem?_tiling (width : Nat) (hlength : messages.length = heights.length)
    (hfit : total heights ≤ Extent.greatest) {i : Nat} {place : Message × Area}
    (h : (stack 0 0 width 0 (messages.zip heights))[i]? = some place) :
    i < heights.length ∧ place.2.y = (Heights.ofList heights width).top i ∧
      place.2.bottom = (Heights.ofList heights width).top (i + 1) := by
  have hheights : (messages.zip heights).map Prod.snd = heights := List.map_snd_zip hlength.ge
  rw [getElem?_stack, Option.map_eq_some_iff] at h
  obtain ⟨card, hcard, rfl⟩ := h
  have hi : i < heights.length := by
    have hlt := (List.getElem?_eq_some_iff.1 hcard).1
    rw [List.length_zip] at hlt
    omega
  have hheight : card.2 = heights[i] := by
    have hsnd := congrArg (Option.map Prod.snd) hcard
    rw [← List.getElem?_map, hheights, List.getElem?_eq_getElem hi] at hsnd
    exact (Option.some.inj hsnd).symm
  have hbegins : 0 + total (((messages.zip heights).take i).map Prod.snd) + i * 0 =
      (Heights.ofList heights width).top i := by
    rw [List.map_take, hheights, Nat.zero_add, Nat.mul_zero, Nat.add_zero,
      Heights.top_ofList hfit (Nat.le_of_lt hi)]
  refine ⟨hi, hbegins, ?_⟩
  rw [Area.bottom, Heights.top_succ hfit hi, ← hbegins, ← hheight]

/-- What is painted is cut out of the tiling of all messages. -/
theorem painted_eq_tiling (ht : t.heights = .ofList heights width)
    (hlength : messages.length = heights.length) (hpos : ∀ n ∈ heights, 0 < n)
    (hfit : total heights ≤ Extent.greatest) :
    t.painted messages width = ((stack 0 0 width 0 (messages.zip heights)).take
      (t.heights.visible t.scroll.offset t.viewport).2).drop
      (t.heights.visible t.scroll.offset t.viewport).1 := by
  have hheights : (messages.zip heights).map Prod.snd = heights := List.map_snd_zip hlength.ge
  simp only [painted, ht]
  generalize hvisible : (Heights.ofList heights width).visible t.scroll.offset t.viewport = range
  have hle : range.1 ≤ range.2 := hvisible ▸ Heights.visible_le hpos hfit _ _ _
  have hstop : range.2 ≤ heights.length := hvisible ▸ Heights.visible_snd_le _ _ _ _
  -- Above the first message that is painted stand all that are left out there.
  have habove : (((messages.zip heights).take range.2).take range.1).map Prod.snd =
      heights.take range.1 := by
    rw [List.take_take, Nat.min_eq_left hle, List.map_take, hheights]
  have hin : range.1 ≤ ((messages.zip heights).take range.2).length := by
    rw [List.length_take, List.length_zip]
    omega
  rw [take_stack, drop_stack _ _ _ _ hin, habove, Nat.zero_add, Nat.mul_zero, Nat.add_zero,
    ← Heights.top_ofList hfit (Nat.le_trans hle hstop), ← placements_eq_stack]
  rfl

/-- Messages that have rows, all of which have a place on a screen, tile these rows: they stand
    directly below each other, each from the row on at which it begins, and the last one ends with
    the transcript. What is painted are neighbours among them in just these places, and among them
    are all that have a row in the window. -/
theorem painted_tiles (ht : t.heights = .ofList heights width)
    (hlength : messages.length = heights.length) (hpos : ∀ n ∈ heights, 0 < n)
    (hfit : total heights ≤ Extent.greatest) :
    let range := t.heights.visible t.scroll.offset t.viewport
    range.1 ≤ range.2 ∧ range.2 ≤ messages.length ∧
      ∃ places : List (Message × Area),
        places.map (fun place => (place.1, place.2.height)) = messages.zip heights ∧
        Stacked 0 0 t.heights.total (places.map Prod.snd) ∧
        t.painted messages width = (places.take range.2).drop range.1 ∧
        ∀ i place, places[i]? = some place →
          place.2.y = t.heights.top i ∧ place.2.bottom = t.heights.top (i + 1) ∧
          ∀ row, place.2.y ≤ row → row < place.2.bottom → t.scroll.offset ≤ row →
            row < t.scroll.offset + t.viewport → range.1 ≤ i ∧ i < range.2 := by
  intro range
  have hheights : (messages.zip heights).map Prod.snd = heights := List.map_snd_zip hlength.ge
  have htiled := stacked_stack 0 0 width 0 (messages.zip heights)
  rw [hheights, Nat.mul_zero, Nat.zero_add, Nat.add_zero] at htiled
  refine ⟨?_, ?_, stack 0 0 width 0 (messages.zip heights), map_stack _ _ _ _ _, ?_,
    painted_eq_tiling ht hlength hpos hfit, fun i place hplace => ?_⟩
  · simp only [range, ht]
    exact Heights.visible_le hpos hfit _ _ _
  · simp only [range, ht, hlength]
    exact Heights.visible_snd_le _ _ _ _
  · rwa [ht, Heights.total_ofList, Extent.saturate, Nat.min_eq_left hfit]
  · obtain ⟨hi, hy, hbottom⟩ := getElem?_tiling width hlength hfit hplace
    simp only [range, ht]
    refine ⟨hy, hbottom, fun row hrow hrow' hfirst hlast => ?_⟩
    exact Heights.mem_visible_of_row row hfit hi (hy ▸ hrow) (hbottom ▸ hrow') (by omega) (by omega)

/-- Ten messages of ten rows each, in a window of ten rows that begins at the fiftieth. -/
def tens : Transcript where
  scroll := ⟨50, none, none⟩
  heights := .ofList (List.replicate 10 10) 80
  sticky := false
  viewport := 10

/-- The sixth message fills the window, and the two beside it are painted as well. -/
theorem painted_tiles_tens :
    tens.heights.visible tens.scroll.offset tens.viewport = (4, 7) ∧
      ∃ places : List (Message × Area), Stacked 0 0 100 (places.map Prod.snd) ∧
        tens.painted (List.replicate 10 ⟨.user, ['h'], 0⟩) 80 = (places.take 7).drop 4 := by
  have hvisible : tens.heights.visible tens.scroll.offset tens.viewport = (4, 7) := by decide
  have htotal : tens.heights.total = 100 := by decide
  obtain ⟨-, -, places, -, hstacked, hpainted, -⟩ := @painted_tiles tens
    (List.replicate 10 ⟨.user, ['h'], 0⟩) (List.replicate 10 10) 80 rfl rfl (by decide) (by decide)
  rw [htotal] at hstacked
  rw [hvisible] at hpainted
  exact ⟨hvisible, places, hstacked, hpainted⟩

end Transcript

end CircuitHub

import CircuitHub.Screen.Panel
import CircuitHub.Screen.Paragraph

/-!
# Cells that are drawn

All drawing changes a grid cell by cell: the size of the grid stays (`Grid.SameSize`), and so do all
cells that are not drawn to. A row of glyphs is drawn from left to right, and each glyph is found
afterwards where those before it end (`Paragraph.symbol_drawGlyphs`). A paragraph draws each of its
rows below the one before, where it stays (`Paragraph.exists_cell_draw`).

* `Grid.Shows`: a text can be read on a grid, one cluster after another, as far as there are columns;
* `Paragraph.shows_draw`: so can each line of a paragraph that is cut off at the edge.
-/

namespace CircuitHub

namespace Area

variable {a b : Area}

theorem intersect_of_within (h : a.Within b) : a.intersect b = a := by
  obtain ⟨hx, hy, hright, hbottom⟩ := h
  cases a
  simp only [intersect, right, bottom, mk.injEq] at *
  omega

end Area

namespace Grid

variable {g g' g'' : Grid} {x y x' y' : Nat} {f : Cell → Cell}

/-! ## Size -/

/-- There is a cell for each column and row. -/
def IsWhole (g : Grid) : Prop := g.cells.size = g.width * g.height

/-- Two grids have the same columns, rows and number of cells. -/
structure SameSize (g g' : Grid) : Prop where
  width_eq : g'.width = g.width
  height_eq : g'.height = g.height
  size_eq : g'.cells.size = g.cells.size

theorem SameSize.refl (g : Grid) : SameSize g g := ⟨rfl, rfl, rfl⟩

theorem SameSize.trans (h : SameSize g g') (h' : SameSize g' g'') : SameSize g g'' :=
  ⟨h'.width_eq.trans h.width_eq, h'.height_eq.trans h.height_eq, h'.size_eq.trans h.size_eq⟩

theorem SameSize.isWhole_iff (h : SameSize g g') : g'.IsWhole ↔ g.IsWhole := by
  rw [IsWhole, IsWhole, h.width_eq, h.height_eq, h.size_eq]

theorem SameSize.area_eq (h : SameSize g g') : g'.area = g.area := by
  rw [area, area, h.width_eq, h.height_eq]

theorem isWhole_blank (width height : Nat) : (blank width height).IsWhole := Array.size_replicate

theorem sameSize_modify (g : Grid) (x y : Nat) (f : Cell → Cell) : SameSize g (g.modify x y f) := by
  rw [modify]
  split
  · exact ⟨rfl, rfl, Array.size_modify⟩
  · exact .refl g

theorem sameSize_foldl {α : Type} {draw : Grid → α → Grid} (h : ∀ g a, SameSize g (draw g a))
    (l : List α) (g : Grid) : SameSize g (l.foldl draw g) := by
  induction l generalizing g with
  | nil => exact .refl g
  | cons a l ih => exact (h g a).trans (ih _)

theorem sameSize_modifyArea (g : Grid) (a : Area) (f : Cell → Cell) :
    SameSize g (g.modifyArea a f) :=
  sameSize_foldl (fun g y => sameSize_foldl (fun g x => sameSize_modify g x y f) _ g) _ g

theorem sameSize_restyle (g : Grid) (a : Area) (s : Style) : SameSize g (g.restyle a s) := by
  rw [restyle]
  split
  · exact .refl g
  · exact sameSize_modifyArea g _ _

theorem sameSize_drawClusters (g : Grid) (x y limit : Nat) (s : Style)
    (clusters : List (Text × Nat)) : SameSize g (g.drawClusters x y limit s clusters).1 := by
  fun_induction drawClusters g x y limit s clusters with
  | case1 => exact .refl _
  | case2 => assumption
  | case3 => exact .refl _
  | case4 g x symbol width rest _ _ g₁ g₂ ih =>
    have hidden : SameSize g₁ g₂ := sameSize_foldl (fun g x => sameSize_modify g x y _) _ g₁
    exact (sameSize_modify g x y _).trans (hidden.trans ih)

/-! ## Cells -/

/-- The cells of a grid stand one after the other, each row behind the one above it. -/
theorem place_ne {width : Nat} (hx : x < width) (hx' : x' < width) (h : x ≠ x' ∨ y ≠ y') :
    y * width + x ≠ y' * width + x' := by
  intro heq
  have hcolumn : x = x' := by
    simpa [Nat.add_comm, Nat.mod_eq_of_lt hx, Nat.mod_eq_of_lt hx'] using congrArg (· % width) heq
  have hrow : y = y' :=
    Nat.eq_of_mul_eq_mul_right (Nat.zero_lt_of_lt hx) (Nat.add_right_cancel (hcolumn ▸ heq))
  exact h.elim (· hcolumn) (· hrow)

theorem place_lt (h : g.IsWhole) (hx : x < g.width) (hy : y < g.height) :
    y * g.width + x < g.cells.size := by
  have hle : (y + 1) * g.width ≤ g.height * g.width := Nat.mul_le_mul_right _ hy
  rw [h, Nat.mul_comm g.width]
  rw [Nat.succ_mul] at hle
  omega

theorem cell_modify_self (h : g.IsWhole) (hx : x < g.width) (hy : y < g.height) :
    (g.modify x y f).cell x y = f (g.cell x y) := by
  simp only [modify, cell, hx, hy, decide_true, Bool.and_self, if_true, Array.getElem?_modify,
    Array.getElem?_eq_getElem (place_lt h hx hy), Option.map_some, Option.getD_some]

theorem cell_modify_of_ne (h : x ≠ x' ∨ y ≠ y') :
    (g.modify x y f).cell x' y' = g.cell x' y' := by
  rw [modify]
  split
  · rename_i hin
    simp only [cell]
    split
    · rename_i hin'
      simp only [Bool.and_eq_true, decide_eq_true_eq] at hin hin'
      rw [Array.getElem?_modify, if_neg (place_ne hin.1 hin'.1 h)]
    · rfl
  · rfl

/-- The columns that clusters take up beside each other when they are drawn. Those with a control in
    them are left out. -/
def shownColumns (clusters : List Text) : Nat :=
  total ((clusters.filter fun c => !c.any isControl).map Text.displayWidth)

/-- A text can be read in row `y` from column `x` on. -/
structure Shows (g : Grid) (x y columns : Nat) (t : Text) : Prop where
  /-- What is read are clusters of characters, which make up the text. -/
  flatten_eq : t.clusters.flatten = t
  /-- A cluster that has something to show stands behind those before it, if there are columns
      enough for it. -/
  symbol_eq : ∀ before cluster after, t.clusters = before ++ cluster :: after →
    cluster.any isControl = false → 0 < cluster.displayWidth →
    shownColumns before + cluster.displayWidth ≤ columns →
    (g.cell (x + shownColumns before) y).symbol = cluster

end Grid

namespace Panel

open Grid

theorem sameSize_drawEdges (p : Panel) (g : Grid) (a : Area) : SameSize g (p.drawEdges g a) := by
  have put (f : Cell → Cell) {g' : Grid} (part : Area) (h : SameSize g g') :
      SameSize g (g'.modifyArea part f) := h.trans (sameSize_modifyArea g' part f)
  unfold drawEdges
  dsimp only
  split
  · exact .refl g
  · exact put _ _ (.refl g)
  · iterate 8 refine put _ _ ?_
    exact .refl g

theorem sameSize_drawTitle (p : Panel) (g : Grid) (a : Area) : SameSize g (p.drawTitle g a) :=
  (sameSize_restyle g _ _).trans (sameSize_drawClusters _ _ _ _ _ _)

theorem sameSize_draw (p : Panel) (g : Grid) (a : Area) : SameSize g (p.draw g a) := by
  rw [draw]
  split
  · exact .refl g
  · exact (sameSize_drawEdges p g _).trans (sameSize_drawTitle p _ _)

end Panel

namespace Glyph

theorem columns_cons (glyph : Glyph) (glyphs : List Glyph) :
    columns (glyph :: glyphs) = glyph.width + columns glyphs := rfl

/-- A cluster as it is drawn. -/
def ofCluster (style : Style) (cluster : Text) : Glyph := ⟨cluster, style, cluster.displayWidth⟩

/-- The clusters that can be drawn, as they are drawn. -/
def ofClusters (style : Style) (clusters : List Text) : List Glyph :=
  (clusters.filter fun c => !c.any isControl).map (ofCluster style)

theorem ofLine_ofSpan (t : Text) (style : Style) :
    ofLine (.ofSpan t style) = ofClusters (style.atop {}) t.clusters := by
  simp [ofLine, Line.ofSpan, ofSpan, Grid.drawable, ofClusters, ofCluster, Function.comp_def]

theorem columns_ofClusters (style : Style) (clusters : List Text) :
    columns (ofClusters style clusters) = Grid.shownColumns clusters := by
  simp [columns, ofClusters, ofCluster, Grid.shownColumns, Function.comp_def]

theorem ofClusters_append_cons {style : Style} {cluster : Text}
    (h : cluster.any isControl = false) (before after : List Text) :
    ofClusters style (before ++ cluster :: after) =
      ofClusters style before ++ ofCluster style cluster :: ofClusters style after := by
  simp [ofClusters, h]

/-- A glyph that is not behind the limit stays when glyphs are cut, and so do those before it. -/
theorem exists_cutGlyphs {limit used : Nat} {before : List Glyph} {g : Glyph}
    (h : used + columns before + g.width ≤ limit) (after : List Glyph) :
    ∃ after', cutGlyphs limit used (before ++ g :: after) = before ++ g :: after' := by
  induction before generalizing used with
  | nil =>
    have hle : used + g.width ≤ limit := h
    refine ⟨cutGlyphs limit (used + g.width) after, ?_⟩
    rw [List.nil_append, cutGlyphs, if_neg (by omega), if_neg (by omega), List.nil_append]
  | cons first before ih =>
    rw [columns_cons] at h
    have hfits : used + first.width + columns before + g.width ≤ limit := by omega
    obtain ⟨after', hafter⟩ := ih hfits
    refine ⟨after', ?_⟩
    rw [List.cons_append, cutGlyphs, if_neg (by omega), if_neg (by omega), hafter, List.cons_append]

end Glyph

namespace Paragraph

open Grid

variable {g : Grid} {x y x' y' : Nat} {glyphs : List Glyph}

/-! ## Rows of glyphs -/

theorem sameSize_drawGlyphs (g : Grid) (x y : Nat) (glyphs : List Glyph) :
    SameSize g (drawGlyphs g x y glyphs) := by
  fun_induction drawGlyphs g x y glyphs with
  | case1 => exact .refl _
  | case2 => assumption
  | case3 g x glyph rest _ ih => exact (sameSize_modify g x y _).trans ih

/-- A row of glyphs leaves the other rows and what is left of it. -/
theorem cell_drawGlyphs_of_ne (h : y ≠ y' ∨ x' < x) :
    (drawGlyphs g x y glyphs).cell x' y' = g.cell x' y' := by
  fun_induction drawGlyphs g x y glyphs with
  | case1 => rfl
  | case2 g x glyph rest _ ih => exact ih h
  | case3 g x glyph rest _ ih =>
    have hne : x ≠ x' ∨ y ≠ y' := by omega
    rw [ih (by omega), cell_modify_of_ne hne]

/-- Each glyph is found where those before it end. -/
theorem symbol_drawGlyphs {before after : List Glyph} {glyph : Glyph} (hwhole : g.IsWhole)
    (hglyph : 0 < glyph.width) (hx : x + Glyph.columns before < g.width) (hy : y < g.height) :
    ((drawGlyphs g x y (before ++ glyph :: after)).cell (x + Glyph.columns before) y).symbol =
      glyph.symbol := by
  induction before generalizing g x with
  | nil =>
    have hx : x < g.width := hx
    change ((drawGlyphs g x y (glyph :: after)).cell x y).symbol = glyph.symbol
    rw [drawGlyphs, if_neg (by omega), cell_drawGlyphs_of_ne (by omega),
      cell_modify_self hwhole hx hy]
    rfl
  | cons first before ih =>
    rw [Glyph.columns_cons] at hx ⊢
    rw [List.cons_append, drawGlyphs]
    split
    · rename_i hfirst
      rw [hfirst, Nat.zero_add] at hx ⊢
      exact ih hwhole hx hy
    · have hsame := sameSize_modify g x y (·.display first.symbol first.style)
      rw [← Nat.add_assoc]
      exact ih (hsame.isWhole_iff.2 hwhole) (by rw [hsame.width_eq]; omega) (hsame.height_eq ▸ hy)

/-! ## Paragraphs -/

theorem sameSize_draw (p : Paragraph) (g : Grid) (area : Area) : SameSize g (p.draw g area) :=
  (sameSize_restyle g _ p.style).trans
    (sameSize_foldl (fun g _ => sameSize_drawGlyphs g _ _ _) _ _)

variable {k i : Nat} {rows : List (List Glyph)} {row : List Glyph}

/-- Rows of glyphs drawn one below the other leave the rows above. -/
theorem cell_foldl_drawGlyphs (left : List Glyph → Nat) {top : Nat} (h : y < top + k) :
    ((rows.zipIdx k).foldl (fun g r => drawGlyphs g (left r.1) (top + r.2) r.1) g).cell x y =
      g.cell x y := by
  induction rows generalizing g k with
  | nil => rfl
  | cons row rows ih =>
    rw [List.zipIdx_cons, List.foldl_cons, ih (by omega), cell_drawGlyphs_of_ne (by omega)]

/-- Of rows of glyphs drawn one below the other, each is as if it had been drawn last. -/
theorem exists_cell_foldl_drawGlyphs (left : List Glyph → Nat) (top : Nat)
    (hrow : rows[i]? = some row) :
    ∃ g', SameSize g g' ∧ ∀ x,
      ((rows.zipIdx k).foldl (fun g r => drawGlyphs g (left r.1) (top + r.2) r.1) g).cell x
          (top + (k + i)) =
        (drawGlyphs g' (left row) (top + (k + i)) row).cell x (top + (k + i)) := by
  induction rows generalizing g k i with
  | nil => cases hrow
  | cons first rows ih =>
    rw [List.zipIdx_cons, List.foldl_cons]
    cases i with
    | zero =>
      obtain rfl : first = row := by simpa using hrow
      exact ⟨g, .refl g, fun x => cell_foldl_drawGlyphs left (by omega)⟩
    | succ i =>
      obtain ⟨g', hsame, hcell⟩ := ih (g := drawGlyphs g (left first) (top + k) first) (k := k + 1)
        (i := i) hrow
      rw [Nat.add_right_comm] at hcell
      exact ⟨g', (sameSize_drawGlyphs g _ _ _).trans hsame, hcell⟩

/-- In a paragraph that is drawn, each row is as if it had been drawn last. -/
theorem exists_cell_draw {p : Paragraph} {area : Area} (harea : area.Within g.area)
    (hrow : (p.rows area.width)[i]? = some row) (hi : i < area.height) :
    ∃ g', SameSize g g' ∧ ∀ x, (p.draw g area).cell x (area.y + i) =
      (drawGlyphs g' (area.x + p.offset area.width (Glyph.columns row)) (area.y + i) row).cell x
        (area.y + i) := by
  have hrow' : ((p.rows area.width).take area.height)[i]? = some row := by
    rw [List.getElem?_take_of_lt hi, hrow]
  obtain ⟨g', hsame, hcell⟩ := exists_cell_foldl_drawGlyphs (g := g.restyle area p.style) (k := 0)
    (fun row => area.x + p.offset area.width (Glyph.columns row)) area.y hrow'
  rw [Nat.zero_add] at hcell
  refine ⟨g', (sameSize_restyle g area p.style).trans hsame, fun x => ?_⟩
  rw [draw, Area.intersect_of_within harea]
  exact hcell x

/-- Where rows stand on the left, each glyph is found where those before it end. -/
theorem symbol_draw {p : Paragraph} {area : Area} {before after : List Glyph} {glyph : Glyph}
    (hwhole : g.IsWhole) (harea : area.Within g.area) (halign : p.align = .left)
    (hrow : (p.rows area.width)[i]? = some (before ++ glyph :: after)) (hi : i < area.height)
    (hglyph : 0 < glyph.width) (hfits : Glyph.columns before + glyph.width ≤ area.width) :
    ((p.draw g area).cell (area.x + Glyph.columns before) (area.y + i)).symbol = glyph.symbol := by
  obtain ⟨g', hsame, hcell⟩ := exists_cell_draw harea hrow hi
  obtain ⟨-, -, hright, hbottom⟩ := harea
  simp only [Area.right, Area.bottom, Grid.area, Nat.zero_add] at hright hbottom
  have hx : area.x + Glyph.columns before < g'.width := by
    rw [hsame.width_eq]
    omega
  have hy : area.y + i < g'.height := by
    rw [hsame.height_eq]
    omega
  rw [hcell, offset, halign]
  exact symbol_drawGlyphs (hsame.isWhole_iff.2 hwhole) hglyph hx hy

theorem rows_of_cut {p : Paragraph} {width : Nat} (hcut : p.overflow = .cut) (hwidth : 0 < width) :
    p.rows width = p.lines.map fun line => cutGlyphs width 0 (Glyph.ofLine line) := by
  have hone : p.lineRows width = fun line => [cutGlyphs width 0 (Glyph.ofLine line)] := by
    funext line
    rw [lineRows, hcut]
  rw [rows, if_neg (by omega), hone, ← List.map_eq_flatMap]

/-- A text that is a line of its own can be read where the paragraph is drawn, if lines stand on the
    left and are cut off. -/
theorem shows_draw {p : Paragraph} {area : Area} {t : Text} {style : Style} (hwhole : g.IsWhole)
    (harea : area.Within g.area) (halign : p.align = .left) (hcut : p.overflow = .cut)
    (hline : p.lines[i]? = some (.ofSpan t style)) (hi : i < area.height) :
    (p.draw g area).Shows area.x (area.y + i) area.width t where
  flatten_eq := clusters_flatten t
  symbol_eq := by
    intro before cluster after hclusters hcontrol hwidth hcolumns
    have hleft := Glyph.columns_ofClusters (style.atop {}) before
    rw [← hleft] at hcolumns ⊢
    have hfits : 0 + Glyph.columns (Glyph.ofClusters (style.atop {}) before) +
        cluster.displayWidth ≤ area.width := by rwa [Nat.zero_add]
    obtain ⟨right, hkept⟩ := Glyph.exists_cutGlyphs (g := .ofCluster (style.atop {}) cluster) hfits
      (Glyph.ofClusters (style.atop {}) after)
    have hrow : (p.rows area.width)[i]? = some (Glyph.ofClusters (style.atop {}) before ++
        .ofCluster (style.atop {}) cluster :: right) := by
      rw [rows_of_cut hcut (by omega), List.getElem?_map, hline, Option.map_some,
        Glyph.ofLine_ofSpan, hclusters, Glyph.ofClusters_append_cons hcontrol, hkept]
    exact symbol_draw hwhole harea halign hrow hi hwidth hcolumns

end Paragraph

end CircuitHub

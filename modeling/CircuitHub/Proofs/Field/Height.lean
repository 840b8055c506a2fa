import CircuitHub.Field.Basic
import CircuitHub.Proofs.Extent
import CircuitHub.Proofs.Field.Rows

/-!
# The height of a field

A field grows with its rows up to their greatest number. Its rows are counted modulo the number of
extents before this, and the border is added to them after it, so that there are two ways for a
field not to have the height it should have. With more rows than there are extents, it may be lower,
and with a border for which no extent is left it has no height at all (`Field.height?`).
`Field.height_clamped_iff` says when a field has the height that it should have. A text of line
breaks has one row more than it has characters (`Row.length_ofText_breaks`), and so may have too
many rows.
-/

namespace CircuitHub

namespace Row

/-! ## How many rows there are -/

/-- Line breaks stand between lines of which each is empty. -/
theorem splitLines_breaks (n : Nat) :
    Text.splitLines (List.replicate n '\n') = List.replicate (n + 1) [] := by
  induction n with
  | zero => rfl
  | succ n ih => exact congrArg (List.cons []) ih

/-- An empty line is one row. -/
theorem length_ofLines_empty (measure : Char → Nat) (width start n : Nat) :
    (ofLines measure width start (List.replicate n [])).length = n := by
  induction n generalizing start with
  | zero => rfl
  | succ n ih =>
    have hline : ofLine measure width start [] = [⟨start, []⟩] := by simp [ofLine, takeRow]
    rw [List.replicate_succ, ofLines, hline, List.length_append, ih, List.length_singleton,
      Nat.add_comm]

/-- A text of line breaks has one row more than it has characters. -/
theorem length_ofText_breaks (measure : Char → Nat) (width n : Nat) :
    (ofText measure width (List.replicate n '\n')).length = n + 1 := by
  rw [ofText, splitLines_breaks, length_ofLines_empty]

end Row

namespace Field

variable {f : Field} {width : Nat}

/-! ## How high a field is -/

/-- The height of the field at a width, if it is an extent. -/
def height? (f : Field) (width : Nat) : Option Nat :=
  Extent.add? (min (max (Extent.wrap (f.rows (width - borderColumns)).length) 1) f.maxRows)
    borderRows

/-- The height that the field should have: all its rows up to their greatest number, and the
    border. -/
def wantedHeight (f : Field) (width : Nat) : Nat :=
  min (max (f.rows (width - borderColumns)).length 1) f.maxRows + borderRows

theorem height?_eq_some_iff {n : Nat} :
    f.height? width = some n ↔ f.height width ≤ Extent.greatest ∧ f.height width = n :=
  Extent.add?_eq_some_iff

/-- A count that is made modulo the number of extents and then cut down comes out right if it is an
    extent itself, or if what it is cut down to is reached in any case. -/
theorem min_wrap_eq_iff {count most : Nat} (h : min (max count 1) most ≤ Extent.greatest) :
    min (max (Extent.wrap count) 1) most = min (max count 1) most ↔
      count ≤ Extent.greatest ∨ most ≤ max (Extent.wrap count) 1 := by
  by_cases hcount : count ≤ Extent.greatest
  · simp [Extent.wrap_eq_self hcount, hcount]
  · have hcut : min (max count 1) most = most := by omega
    rw [hcut, or_iff_right hcount]
    omega

/-- Whatever a field holds, however wide it is and to however many rows it may grow, it has the
    height that it should have exactly if this is an extent, and if its rows either can be counted
    in extents or are still enough to fill it when they are counted modulo the number of these. -/
theorem height_clamped_iff (f : Field) (n width : Nat) :
    let limited := f.withMaxRows n
    let rows := (f.rows (width - borderColumns)).length
    limited.height? width = some (limited.wantedHeight width) ↔
      limited.wantedHeight width ≤ Extent.greatest ∧
        (rows ≤ Extent.greatest ∨ limited.maxRows ≤ max (Extent.wrap rows) 1) := by
  intro limited rows
  have hcounted : limited.height width = limited.wantedHeight width ↔
      min (max (Extent.wrap rows) 1) limited.maxRows = min (max rows 1) limited.maxRows :=
    Nat.add_left_inj
  rw [height?_eq_some_iff, hcounted]
  constructor
  · rintro ⟨hle, heq⟩
    rw [hcounted.2 heq] at hle
    exact ⟨hle, (min_wrap_eq_iff (Nat.le_trans (Nat.le_add_right _ _) hle)).1 heq⟩
  · rintro ⟨hle, hfull⟩
    have heq := (min_wrap_eq_iff (Nat.le_trans (Nat.le_add_right _ _) hle)).2 hfull
    exact ⟨by rwa [hcounted.2 heq], heq⟩

/-- A field of five rows that holds 65535 line breaks, and so has 65536 rows, is as high as one with
    a single row. A field that may grow to the greatest extent has no height if it holds one line
    break less. -/
theorem not_height_clamped :
    let breaks (n : Nat) : Field := (empty [] []).setText (List.replicate n '\n')
    ((breaks 65535).withMaxRows 5).wantedHeight 40 = 7 ∧
      ((breaks 65535).withMaxRows 5).height? 40 = some 3 ∧
      ((breaks 65534).withMaxRows 65535).wantedHeight 40 = 65537 ∧
      ((breaks 65534).withMaxRows 65535).height? 40 = none := by
  intro breaks
  have hrows (n most : Nat) :
      (((breaks n).withMaxRows most).rows (40 - borderColumns)).length = n + 1 :=
    Row.length_ofText_breaks charWidth _ n
  simp only [wantedHeight, height?, hrows]
  decide

end Field

end CircuitHub

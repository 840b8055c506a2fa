import CircuitHub.Transcript.Card

/-!
# Heights of messages

Cards stand one below the other. A message never changes, so that its height is measured once and
kept until the width changes or messages go away (`Heights.measure`).

* `runningSums_length`: there is one sum for each height.
-/

namespace CircuitHub

/-- The sums of some extents up to each of them, on top of a first one, cut down to the greatest
    extent. -/
def runningSums (total : Nat) : List Nat → List Nat
  | [] => []
  | h :: heights =>
    let total := Extent.saturate (total + h)
    total :: runningSums total heights

theorem runningSums_length (total : Nat) (heights : List Nat) :
    (runningSums total heights).length = heights.length := by
  induction heights generalizing total with
  | nil => rfl
  | cons h heights ih => simp [runningSums, ih]

/-- Heights that have been measured. -/
structure Heights where
  /-- The height of each message. -/
  heights : List Nat
  /-- The first row below each message. -/
  bottoms : List Nat
  /-- How many messages there were. -/
  count : Nat
  /-- The columns for which they were measured. -/
  width : Nat
  deriving DecidableEq, Repr

namespace Heights

/-- Nothing measured. -/
def none : Heights := ⟨[], [], 0, 0⟩

/-- Known heights of messages, in so many columns. -/
def ofList (heights : List Nat) (width : Nat) : Heights :=
  ⟨heights, runningSums 0 heights, heights.length, width⟩

/-- How many of the heights hold for some messages in so many columns. -/
def reusable (h : Heights) (count width : Nat) : Nat :=
  if h.width != width || count < h.count then 0 else min h.heights.length count

/-- The heights of messages in so many columns, of which only those are measured that are not
    known. -/
def measure (h : Heights) (messages : List Message) (width : Nat) : Heights :=
  let known := h.heights.take (h.reusable messages.length width)
  let new := (messages.drop known.length).map fun m => (Card.ofMessage m).height width
  { ofList (known ++ new) width with count := messages.length }

/-- The rows of all messages. -/
def total (h : Heights) : Nat := h.bottoms.getLast?.getD 0

/-- The row at which a message begins. -/
def top (h : Heights) : Nat → Nat
  | 0 => 0
  | i + 1 => h.bottoms[i]?.getD 0

/-- The messages that are painted when `viewport` rows are shown from a row on: from the first to
    before the second. Half as many rows are added on either side. -/
def visible (h : Heights) (offset viewport : Nat) : Nat × Nat :=
  let spare := viewport / 2
  let first := offset - spare
  let last := Extent.saturate (Extent.saturate (offset + viewport) + spare)
  let start := (h.bottoms.takeWhile (· ≤ first)).length
  let stop := min ((h.bottoms.takeWhile (· < last)).length + 1) h.bottoms.length
  (start, stop)

end Heights

end CircuitHub

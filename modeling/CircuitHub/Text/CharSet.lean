/-!
# Sets of characters

A set of characters that a standard lists is kept as the code points at which membership changes,
in rising order. A character belongs to the set when the number of changes up to it is odd.
-/

namespace CircuitHub

/-- A set of characters, by the code points at which membership changes. -/
structure CharSet where
  /-- The first member, the first character after it that is none, and so on, rising. -/
  bounds : Array Nat

namespace CharSet

/-- The number of changes at or below `n`, looked for between the positions `lo` and `hi`: those
    before `lo` are at or below `n`, those from `hi` on are above. -/
def countUpTo (bounds : Array Nat) (n lo hi : Nat) : Nat :=
  if h : lo < hi then
    let mid := (lo + hi) / 2
    if bounds[mid]?.getD 0 ≤ n then countUpTo bounds n (mid + 1) hi
    else countUpTo bounds n lo mid
  else lo
termination_by hi - lo

/-- The character belongs to the set. -/
def mem (s : CharSet) (c : Char) : Bool :=
  countUpTo s.bounds c.toNat 0 s.bounds.size % 2 == 1

end CharSet

end CircuitHub

/-!
# Extents on the screen

Extents and positions on a screen are numbers below two to the power of sixteen. A sum that has no
place there is cut down to the greatest of them, and a count is taken modulo their number.
-/

namespace CircuitHub.Extent

/-- The greatest extent. -/
def greatest : Nat := 65535

/-- A number cut down to the greatest extent. -/
def saturate (n : Nat) : Nat := min n greatest

/-- A number modulo the number of extents. -/
def wrap (n : Nat) : Nat := n % 65536

theorem wrap_eq_self {n : Nat} (h : n ≤ greatest) : wrap n = n :=
  Nat.mod_eq_of_lt (Nat.lt_succ_of_le h)

end CircuitHub.Extent

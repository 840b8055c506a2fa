import CircuitHub.Text.Basic

/-!
# Numbers in any base

The digits beyond nine are the Latin letters, in either case. A code point may be written by such a
number, and names a character unless it is half of a pair or too large.
-/

namespace CircuitHub.Text

/-- The value of a digit in a base of at most 36. -/
def digitIn? (base : Nat) (c : Char) : Option Nat :=
  let d :=
    if c.isDigit then c.toNat - '0'.toNat
    else if c.isAlpha then c.toLower.toNat - 'a'.toNat + 10
    else base
  if d < base then some d else none

/-- The number written by digits in a base, at least one. -/
def natInBase? (base : Nat) (digits : Text) : Option Nat :=
  if digits.isEmpty then none
  else digits.foldlM (fun n c => (digitIn? base c).map (base * n + ·)) 0

/-- The character of a code point. -/
def charOfCode? (n : Nat) : Option Char :=
  if n < 0xD800 || (0xDFFF < n && n < 0x110000) then some (Char.ofNat n) else none

/-- Two hexadecimal digits of a number below 256, in lower case. -/
def hexPair (n : Nat) : Text := [Nat.digitChar (n / 16), Nat.digitChar (n % 16)]

theorem digitIn?_digitChar : ∀ n < 16, digitIn? 16 (Nat.digitChar n) = some n := by decide

/-- Two hexadecimal digits are read back as the number that they write. -/
theorem natInBase?_hexPair {n : Nat} (h : n < 256) : natInBase? 16 (hexPair n) = some n := by
  have hi := digitIn?_digitChar (n / 16) (by omega)
  have lo := digitIn?_digitChar (n % 16) (by omega)
  simp only [natInBase?, hexPair, List.isEmpty_cons, Bool.false_eq_true, if_false,
    List.foldlM_cons, List.foldlM_nil, hi, lo, Option.map_some, Option.bind_eq_bind,
    Option.bind_some, Option.pure_def, Option.some.injEq]
  omega

end CircuitHub.Text

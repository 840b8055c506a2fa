/-!
# The nearest binary number

The 64-bit floating-point number closest to a fraction of natural numbers, a tie going to the even
neighbour. Everything is exact arithmetic on natural numbers until the bits are put together.
-/

namespace CircuitHub

/-- The quotient of two numbers, rounded to the nearest number and a tie to the even one. -/
def roundDiv (num den : Nat) : Nat :=
  let q := num / den
  let r := num % den
  if 2 * r < den then q else if den < 2 * r then q + 1 else q + q % 2

/-- The fraction `num / (den * 2 ^ e)`, as its two parts. -/
def scaled (num den : Nat) (e : Int) : Nat × Nat :=
  if 0 ≤ e then (num, den * Nat.pow 2 e.toNat) else (num * Nat.pow 2 (-e).toNat, den)

/-- The power of two that leaves 53 binary digits before the point of `num / den`. The lengths of
    the two numbers tell it up to one. -/
def leadingExponent (num den : Nat) : Int :=
  let guess : Int := (num.log2 : Int) - den.log2 - 52
  let (n, d) := scaled num den guess
  if n / d < Nat.pow 2 52 then guess - 1 else guess

/-- The bits of the floating-point number nearest to `num / den`. Its exponent is no less than
    that of the smallest numbers, and what is too large is infinity. -/
def nearestBits (num den : Nat) : Nat :=
  if num = 0 then 0
  else
    let e := max (leadingExponent num den) (-1074)
    let (n, d) := scaled num den e
    min ((e + 1074).toNat * Nat.pow 2 52 + roundDiv n d) (0x7FF * Nat.pow 2 52)

/-- The floating-point number nearest to a fraction, with a sign. -/
def nearestFloat (negative : Bool) (num den : Nat) : Float :=
  Float.ofBits (UInt64.ofNat (nearestBits num den + if negative then Nat.pow 2 63 else 0))

end CircuitHub

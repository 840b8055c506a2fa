import CircuitHub.Text.Basic
import CircuitHub.Number.Nearest

/-!
# Numbers with a fixed count of decimal places

A floating-point number is written with six decimal places from its exact value, which its bits
give as a natural number times a power of two. A tie goes to the even neighbour.
-/

namespace CircuitHub

/-- What the bits of a floating-point number say. -/
inductive FloatValue where
  /-- `± mantissa · 2 ^ exponent`. -/
  | finite (negative : Bool) (mantissa : Nat) (exponent : Int)
  /-- An infinity, by its sign. -/
  | infinite (negative : Bool)
  /-- No number. -/
  | notANumber
  deriving DecidableEq, Repr

/-- The value of a floating-point number. -/
def FloatValue.ofFloat (x : Float) : FloatValue :=
  let bits := x.toBits.toNat
  let negative := bits / Nat.pow 2 63 == 1
  let exponent : Nat := bits / Nat.pow 2 52 % Nat.pow 2 11
  let fraction := bits % Nat.pow 2 52
  if exponent = 0x7FF then
    if fraction = 0 then infinite negative else notANumber
  else if exponent = 0 then finite negative fraction (-1074)
  else finite negative (Nat.pow 2 52 + fraction) ((exponent : Int) - 1075)

/-- The number in millionths, rounded to a whole one. -/
def millionths (mantissa : Nat) (exponent : Int) : Nat :=
  if 0 ≤ exponent then mantissa * Nat.pow 2 exponent.toNat * 1000000
  else roundDiv (mantissa * 1000000) (Nat.pow 2 (-exponent).toNat)

/-- A count of millionths, as whole ones and six places. -/
def writeMillionths (n : Nat) : Text :=
  let places := Text.ofNat (n % 1000000)
  Text.ofNat (n / 1000000) ++ '.' :: List.replicate (6 - places.length) '0' ++ places

/-- A number with six decimal places. What rounds to zero has no sign. -/
def writeFixed (x : Float) : Text :=
  match FloatValue.ofFloat x with
  | .finite negative mantissa exponent =>
    let n := millionths mantissa exponent
    if negative && n != 0 then '-' :: writeMillionths n else writeMillionths n
  | .infinite negative => if negative then "-inf" else "inf"
  | .notANumber => "NaN"

end CircuitHub

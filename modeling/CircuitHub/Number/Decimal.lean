import CircuitHub.Text.Basic
import CircuitHub.Number.Nearest

/-!
# Decimal numbers

A decimal number has a sign, digits with at most one point among them, and perhaps an exponent.
It is read as the nearest 64-bit floating-point number.
-/

namespace CircuitHub

/-- A decimal number, `± digits · 10 ^ exponent`. -/
structure Decimal where
  /-- The number has a minus sign. -/
  negative : Bool
  /-- The digits without the point. -/
  digits : Nat
  /-- The power of ten. -/
  exponent : Int

namespace Decimal

/-- The nearest floating-point number. The length of the digits bounds the size of the number from
    both sides, so that powers of ten beyond any float are not computed. -/
def toFloat (d : Decimal) : Float :=
  let length := d.digits.log2
  if d.digits = 0 then nearestFloat d.negative 0 1
  else if 400 < (length / 4 : Nat) + d.exponent then nearestFloat d.negative (Nat.pow 2 2000) 1
  else if (length / 3 + 1 : Nat) + d.exponent < -400 then nearestFloat d.negative 0 1
  else if 0 ≤ d.exponent then nearestFloat d.negative (d.digits * Nat.pow 10 d.exponent.toNat) 1
  else nearestFloat d.negative d.digits (Nat.pow 10 (-d.exponent).toNat)

/-- A sign at the start of a text: whether it is a minus, and what follows. -/
def takeSign : Text → Bool × Text
  | '-' :: t => (true, t)
  | '+' :: t => (false, t)
  | t => (false, t)

/-- The exponent that makes up all of a text: nothing, or a letter, a sign and digits. -/
def exponent? : Text → Option Int
  | [] => some 0
  | c :: t =>
    let (negative, digits) := takeSign t
    if c.toLower = 'e' && !digits.isEmpty && digits.all Char.isDigit then
      let n : Int := Text.natOfDigits digits
      some (if negative then -n else n)
    else none

/-- The number without a sign that makes up all of a text. -/
def unsigned? (negative : Bool) (t : Text) : Option Decimal :=
  let whole := t.takeWhile Char.isDigit
  let rest := t.dropWhile Char.isDigit
  let (places, rest) := match rest with
    | '.' :: r => (r.takeWhile Char.isDigit, r.dropWhile Char.isDigit)
    | r => ([], r)
  if (whole ++ places).isEmpty then none
  else (exponent? rest).map fun e => ⟨negative, Text.natOfDigits (whole ++ places), e - places.length⟩

/-- The number that makes up all of a text. -/
def read? (t : Text) : Option Decimal :=
  let (negative, t) := takeSign t
  unsigned? negative t

end Decimal

/-- The floating-point number that makes up all of a text: a decimal number, or the name of an
    infinity or of no number, in any case. -/
def readFloat? (t : Text) : Option Float :=
  match Decimal.read? t with
  | some d => some d.toFloat
  | none =>
    let (negative, name) := Decimal.takeSign t
    let name := name.lowerAscii
    if name == "inf".toList || name == "infinity".toList then
      some (nearestFloat negative (Nat.pow 2 2000) 1)
    else if name == "nan".toList then some (0.0 / 0.0)
    else none

end CircuitHub

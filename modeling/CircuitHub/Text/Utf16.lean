import CircuitHub.Text.Utf8

/-!
# The sixteen-bit form of texts

In this form a character is one unit of sixteen bits or, beyond them, two: halves of a pair. Bytes
that come from outside may have the eight-bit or the sixteen-bit form, and a mark at their start
tells which (`decodeMarked`).
-/

namespace CircuitHub.Text

/-- The first halves of pairs. -/
def isHighHalf (n : Nat) : Bool := 0xD800 ≤ n && n < 0xDC00

/-- The second halves of pairs. -/
def isLowHalf (n : Nat) : Bool := 0xDC00 ≤ n && n < 0xE000

/-- Half of a pair, which is no character. -/
def isHalf (n : Nat) : Bool := isHighHalf n || isLowHalf n

/-- The code point that two halves make. -/
def joinHalves (high low : Nat) : Nat := 0x10000 + (high - 0xD800) * 0x400 + (low - 0xDC00)

/-- The characters of units, none for each half that stands alone. -/
def pairUp : List Nat → List (Option Char)
  | high :: low :: units =>
    if isHighHalf high && isLowHalf low then some (Char.ofNat (joinHalves high low)) :: pairUp units
    else (if isHalf high then none else some (Char.ofNat high)) :: pairUp (low :: units)
  | [unit] => [if isHalf unit then none else some (Char.ofNat unit)]
  | [] => []

/-- The units of some bytes, the more significant byte first or last, and whether a byte is left
    over. -/
def units (bigFirst : Bool) : List UInt8 → List Nat × Bool
  | a :: b :: bytes =>
    let (us, odd) := units bigFirst bytes
    ((if bigFirst then 256 * a.toNat + b.toNat else 256 * b.toNat + a.toNat) :: us, odd)
  | [_] => ([], true)
  | [] => ([], false)

/-- The text of bytes in the sixteen-bit form. The replacement character stands for what is
    ill-formed, once for all that is left open at the end. -/
def decodeUnits (bigFirst : Bool) (bytes : List UInt8) : Text :=
  let (us, odd) := units bigFirst bytes
  let t := (pairUp us).map (·.getD '\uFFFD')
  if odd && !(us.getLast?.any isHighHalf) then t ++ ['\uFFFD'] else t

/-- The text of bytes in the form that a mark at their start tells, or else in the eight-bit
    form. -/
def decodeMarked : List UInt8 → Text
  | 0xEF :: 0xBB :: 0xBF :: bytes => decodeLossy bytes
  | 0xFF :: 0xFE :: bytes => decodeUnits false bytes
  | 0xFE :: 0xFF :: bytes => decodeUnits true bytes
  | bytes => decodeLossy bytes

end CircuitHub.Text

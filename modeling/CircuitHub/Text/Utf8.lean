import CircuitHub.Text.Basic

/-!
# The eight-bit form of texts

A text has a length in bytes, by which positions in it are told, and a form as bytes. Bytes that
are the form of no text are refused (`decode?`) or replaced one ill-formed run at a time
(`decodeLossy`).
-/

namespace CircuitHub.Text

/-- The number of bytes of a text. -/
def byteSize (t : Text) : Nat := t.foldl (fun n c => n + c.utf8Size) 0

/-- The beginning of a text that fits into `n` bytes. -/
def takeBytes : Text → Nat → Text
  | [], _ => []
  | c :: t, n => if c.utf8Size ≤ n then c :: takeBytes t (n - c.utf8Size) else []

/-- What follows the beginning of a text that fits into `n` bytes. -/
def dropBytes : Text → Nat → Text
  | [], _ => []
  | c :: t, n => if c.utf8Size ≤ n then dropBytes t (n - c.utf8Size) else c :: t

theorem takeBytes_append_dropBytes (t : Text) (n : Nat) : t.takeBytes n ++ t.dropBytes n = t := by
  induction t generalizing n with
  | nil => rfl
  | cons c t ih =>
    unfold takeBytes dropBytes
    split
    · simpa using ih _
    · rfl

/-- The bytes of a character. -/
def charBytes (c : Char) : List UInt8 :=
  let n := c.toNat
  if n < 0x80 then [n.toUInt8]
  else if n < 0x800 then [(0xC0 + n / 64).toUInt8, (0x80 + n % 64).toUInt8]
  else if n < 0x10000 then
    [(0xE0 + n / 4096).toUInt8, (0x80 + n / 64 % 64).toUInt8, (0x80 + n % 64).toUInt8]
  else
    [(0xF0 + n / 262144).toUInt8, (0x80 + n / 4096 % 64).toUInt8, (0x80 + n / 64 % 64).toUInt8,
      (0x80 + n % 64).toUInt8]

/-- The bytes of a text. -/
def encode (t : Text) : List UInt8 := t.flatMap charBytes

/-- The bytes that may follow a first byte, each by its least and greatest value. -/
def followers? (b : UInt8) : Option (List (UInt8 × UInt8)) :=
  let tail : UInt8 × UInt8 := (0x80, 0xBF)
  if b < 0x80 then some []
  else if 0xC2 ≤ b && b ≤ 0xDF then some [tail]
  else if b = 0xE0 then some [(0xA0, 0xBF), tail]
  else if b = 0xED then some [(0x80, 0x9F), tail]
  else if 0xE1 ≤ b && b ≤ 0xEF then some [tail, tail]
  else if b = 0xF0 then some [(0x90, 0xBF), tail, tail]
  else if b = 0xF4 then some [(0x80, 0x8F), tail, tail]
  else if 0xF1 ≤ b && b ≤ 0xF3 then some [tail, tail, tail]
  else none

/-- The bytes at the start that lie within the ranges, as many as do. -/
def takeWithin : List (UInt8 × UInt8) → List UInt8 → List UInt8
  | (lo, hi) :: ranges, b :: bytes => if lo ≤ b && b ≤ hi then b :: takeWithin ranges bytes else []
  | _, _ => []

/-- The code point that a first byte and those after it make up. -/
def codePoint (b : UInt8) (tail : List UInt8) : Nat :=
  let lead := match tail.length with
    | 0 => b.toNat
    | 1 => b.toNat % 32
    | 2 => b.toNat % 16
    | _ => b.toNat % 8
  tail.foldl (fun n b => 64 * n + b.toNat % 64) lead

/-- The first character of some bytes, or none where they begin ill-formed, with the number of
    bytes after the first one that belong to it. -/
def firstChar (b : UInt8) (bytes : List UInt8) : Option Char × Nat :=
  match followers? b with
  | none => (none, 0)
  | some ranges =>
    let tail := takeWithin ranges bytes
    if tail.length = ranges.length then (some (Char.ofNat (codePoint b tail)), tail.length)
    else (none, tail.length)

/-- The characters of some bytes, none for each ill-formed run: a byte that begins no character,
    or the longest beginning of one. -/
def decodeRuns (bytes : List UInt8) : List (Option Char) :=
  match bytes with
  | [] => []
  | b :: bytes =>
    let (c, n) := firstChar b bytes
    c :: decodeRuns (bytes.drop n)
termination_by bytes.length
decreasing_by simp only [List.length_drop, List.length_cons]; omega

/-- The text whose form is these bytes. -/
def decode? (bytes : List UInt8) : Option Text := (decodeRuns bytes).mapM id

/-- The text of these bytes, the replacement character standing for each ill-formed run. -/
def decodeLossy (bytes : List UInt8) : Text := (decodeRuns bytes).map (·.getD '\uFFFD')

end CircuitHub.Text

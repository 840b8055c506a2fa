import CircuitHub.Text.Digits
import CircuitHub.Text.Utf16

/-!
# Tokens of JSON

JSON is a text format for nested data. A JSON text is a row of tokens with white space between them:
marks, words, numbers and strings. Numbers stay as they are written, since no number is too large or
too precise for the format.

An escape in a string names a unit of sixteen bits. Two such units, halves of a pair, make one
character, and a half alone makes none: a string that holds one is well written, but has no text.
-/

namespace CircuitHub

/-- A token of a JSON text. -/
inductive JsonToken where
  | openArray
  | closeArray
  | openObject
  | closeObject
  | comma
  | colon
  | null
  | boolean (value : Bool)
  /-- A number, as it is written. -/
  | number (digits : Text)
  /-- A string, with its text if it has one. -/
  | string (text? : Option Text)
  deriving DecidableEq, Repr

namespace JsonToken

/-! ### Strings -/

/-- The text of characters and halves, given by their code points, if no half stands alone. -/
def textOfCodes? (codes : List Nat) : Option Text := (Text.pairUp codes).mapM id

/-- The code point of the character or half that an escape names, and what follows the escape. The
    text starts after the backslash. -/
def escape? : Text → Option (Nat × Text)
  | '"' :: t => some ('"'.toNat, t)
  | '\\' :: t => some ('\\'.toNat, t)
  | '/' :: t => some ('/'.toNat, t)
  | 'b' :: t => some (0x08, t)
  | 'f' :: t => some (0x0C, t)
  | 'n' :: t => some (0x0A, t)
  | 'r' :: t => some (0x0D, t)
  | 't' :: t => some (0x09, t)
  | 'u' :: a :: b :: c :: d :: t => (Text.natInBase? 16 [a, b, c, d]).map (·, t)
  | _ => none

theorem escape?_length_lt {t rest : Text} {n : Nat} (h : escape? t = some (n, rest)) :
    rest.length < t.length := by
  unfold escape? at h
  split at h <;> simp only [Option.some.injEq, Prod.mk.injEq, Option.map_eq_some_iff,
    reduceCtorEq] at h
  all_goals first
    | (obtain ⟨_, rfl⟩ := h; simp)
    | (obtain ⟨_, _, _, rfl⟩ := h; simp only [List.length_cons]; omega)

/-- The code points of the characters and halves of a string up to its closing mark, and what
    follows the mark. The text starts after the opening mark. Control characters are only written
    as escapes. -/
def scanString (t : Text) : Option (List Nat × Text) :=
  match t with
  | [] => none
  | '"' :: rest => some ([], rest)
  | '\\' :: t' =>
    match _h : escape? t' with
    | some (n, rest) => (scanString rest).map fun (codes, rest) => (n :: codes, rest)
    | none => none
  | c :: rest =>
    if c.toNat < 0x20 then none
    else (scanString rest).map fun (codes, rest) => (c.toNat :: codes, rest)
termination_by t.length
decreasing_by
  · have := escape?_length_lt _h; simp only [List.length_cons]; omega
  · simp

/-- A character as it stands in a string. -/
def writeChar (c : Char) : Text :=
  if c = '"' then "\\\""
  else if c = '\\' then "\\\\"
  else if c = '\x08' then "\\b"
  else if c = '\x0C' then "\\f"
  else if c = '\n' then "\\n"
  else if c = '\r' then "\\r"
  else if c = '\t' then "\\t"
  else if c.toNat < 0x20 then "\\u00" ++ Text.hexPair c.toNat
  else [c]

/-! ### Numbers -/

/-- A row of decimal digits, at least one, and what follows it. -/
def digits? (t : Text) : Option (Text × Text) :=
  let run := t.takeWhile Char.isDigit
  if run.isEmpty then none else some (run, t.drop run.length)

/-- The whole part of a number: zero alone, or digits that do not begin with zero. -/
def whole? : Text → Option (Text × Text)
  | '0' :: t => some (['0'], t)
  | t => digits? t

/-- The decimal places of a number, with their point, where there is a point. -/
def places? : Text → Option (Text × Text)
  | '.' :: t => (digits? t).map fun (run, rest) => ('.' :: run, rest)
  | t => some ([], t)

/-- The exponent of a number, where there is one. -/
def exponent? : Text → Option (Text × Text)
  | c :: t =>
    if c = 'e' || c = 'E' then
      let (sign, t) : Text × Text := match t with
        | '+' :: t => (['+'], t)
        | '-' :: t => (['-'], t)
        | t => ([], t)
      (digits? t).map fun (run, rest) => (c :: sign ++ run, rest)
    else some ([], c :: t)
  | [] => some ([], [])

/-- A number as it is written, and what follows it. -/
def scanNumber (t : Text) : Option (Text × Text) := do
  let (sign, t) : Text × Text := match t with
    | '-' :: t => (['-'], t)
    | t => ([], t)
  let (whole, t) ← whole? t
  let (places, t) ← places? t
  let (exponent, t) ← exponent? t
  some (sign ++ whole ++ places ++ exponent, t)

/-! ### Rows of tokens -/

/-- The white space of the format. -/
def isGap (c : Char) : Bool := c == ' ' || c == '\n' || c == '\r' || c == '\t'

/-- The first token of a text, and what follows it. -/
def first? : Text → Option (JsonToken × Text)
  | '[' :: t => some (openArray, t)
  | ']' :: t => some (closeArray, t)
  | '\x7b' :: t => some (openObject, t)
  | '\x7d' :: t => some (closeObject, t)
  | ',' :: t => some (comma, t)
  | ':' :: t => some (colon, t)
  | '"' :: t => (scanString t).map fun (codes, rest) => (string (textOfCodes? codes), rest)
  | 'n' :: 'u' :: 'l' :: 'l' :: t => some (null, t)
  | 't' :: 'r' :: 'u' :: 'e' :: t => some (boolean true, t)
  | 'f' :: 'a' :: 'l' :: 's' :: 'e' :: t => some (boolean false, t)
  | t => (scanNumber t).map fun (digits, rest) => (number digits, rest)

/-- The tokens of a text, if it is a row of tokens. -/
def scan (t : Text) : Option (List JsonToken) :=
  match t with
  | [] => some []
  | c :: t' =>
    if isGap c then scan t'
    else match first? (c :: t') with
      | some (token, rest) =>
        if _h : rest.length < (c :: t').length then (scan rest).map (token :: ·) else none
      | none => none
termination_by t.length
decreasing_by
  · simp
  · exact _h

/-- A token as it is written. A string without text is written as a lone half. -/
def write : JsonToken → Text
  | openArray => "["
  | closeArray => "]"
  | openObject => "\x7b"
  | closeObject => "\x7d"
  | comma => ","
  | colon => ":"
  | null => "null"
  | boolean true => "true"
  | boolean false => "false"
  | number digits => digits
  | string (some t) => '"' :: t.flatMap writeChar ++ ['"']
  | string none => "\"\\ud800\""

end JsonToken

end CircuitHub

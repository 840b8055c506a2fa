import CircuitHub.Number.Decimal
import CircuitHub.Text.Digits
import CircuitHub.Toml.Basic

/-!
# Numbers and moments of TOML

Between digits there may be single underlines. An integer is written in base ten, with a sign and
without leading zeros, or after a mark in base sixteen, eight or two, and has at most 64 bits. A
number with places or an exponent must not be too large for a floating-point number. A moment is a
date, a time of day, or a date with a time and perhaps its distance from the meridian.
-/

namespace CircuitHub.Toml

/-- The digits at the start of a text, at least one, without the underlines between them, and what
    follows. An underline stands between digits. -/
def digitRun? (isDigit : Char → Bool) : Text → Option (Text × Text)
  | [] => none
  | c :: t =>
    if !isDigit c then none
    else match t with
      | '_' :: t => (digitRun? isDigit t).map fun (run, rest) => (c :: run, rest)
      | d :: t =>
        if isDigit d then (digitRun? isDigit (d :: t)).map fun (run, rest) => (c :: run, rest)
        else some ([c], d :: t)
      | [] => some ([c], [])

/-- The value of an integer, if it has at most 64 bits. -/
def integer? (n : Int) : Option Toml :=
  if -0x8000000000000000 ≤ n && n < 0x8000000000000000 then some (integer n) else none

/-- The integer in a base other than ten, after its mark. -/
def integerInBase? (base : Nat) (t : Text) : Option (Toml × Text) := do
  let (run, rest) ← digitRun? (fun c => (Text.digitIn? base c).isSome) t
  let value ← (Text.natInBase? base run).bind fun n => integer? n
  some (value, rest)

/-- The whole part of a number in base ten: zero alone, or digits that do not begin with zero. -/
def whole? : Text → Option (Text × Text)
  | '0' :: t => some (['0'], t)
  | t => digitRun? Char.isDigit t

/-- The decimal places with their point, or nothing where there is no point. -/
def places? : Text → Option (Text × Text)
  | '.' :: t => (digitRun? Char.isDigit t).map fun (run, rest) => ('.' :: run, rest)
  | t => some ([], t)

/-- The exponent with its letter, or nothing where there is no such letter. -/
def exponent? : Text → Option (Text × Text)
  | c :: t =>
    if c == 'e' || c == 'E' then
      let (sign, t) : Text × Text := match t with
        | '+' :: t => (['+'], t)
        | '-' :: t => (['-'], t)
        | t => ([], t)
      (digitRun? Char.isDigit t).map fun (run, rest) => ('e' :: sign ++ run, rest)
    else some ([], c :: t)
  | [] => some ([], [])

/-- The number in base ten after its sign, and what follows it. -/
def unsigned? (sign t : Text) : Option (Toml × Text) := do
  let (whole, t) ← whole? t
  let (places, t) ← places? t
  let (exponent, t) ← exponent? t
  if places.isEmpty && exponent.isEmpty then
    let n : Int := Text.natOfDigits whole
    (integer? (if sign == ['-'] then -n else n)).map (·, t)
  else
    let written := sign ++ whole ++ places ++ exponent
    match readFloat? written with
    | some x => if x == 1.0 / 0.0 then none else some (decimal written, t)
    | none => none

/-- The number at the start of a text, and what follows it. -/
def number? (t : Text) : Option (Toml × Text) :=
  let signed (sign t : Text) : Option (Toml × Text) :=
    match t with
    | 'i' :: 'n' :: 'f' :: t => some (decimal (sign ++ "inf"), t)
    | 'n' :: 'a' :: 'n' :: t => some (decimal (sign ++ "nan"), t)
    | t => unsigned? sign t
  match t with
  | '0' :: 'x' :: t => integerInBase? 16 t
  | '0' :: 'o' :: t => integerInBase? 8 t
  | '0' :: 'b' :: t => integerInBase? 2 t
  | '+' :: t => signed ['+'] t
  | '-' :: t => signed ['-'] t
  | t => signed [] t

/-! ### Moments -/

/-- The number that so many digits write, if it lies within bounds, and what follows them. -/
def fixedNumber? (digits least greatest : Nat) (t : Text) : Option (Nat × Text) :=
  let run := t.take digits
  let n := Text.natOfDigits run
  if run.length = digits && run.all Char.isDigit && least ≤ n && n ≤ greatest then
    some (n, t.drop digits)
  else none

/-- What follows a mark at the start of a text. -/
def after? (mark : Char) : Text → Option Text
  | c :: t => if c == mark then some t else none
  | [] => none

/-- The number of days of a month. -/
def daysOf (year month : Nat) : Nat :=
  if month = 2 then
    if year % 4 = 0 && (year % 100 != 0 || year % 400 = 0) then 29 else 28
  else if [4, 6, 9, 11].contains month then 30
  else 31

/-- What follows the date at the start of a text. -/
def afterDate? (t : Text) : Option Text := do
  let (year, t) ← fixedNumber? 4 0 9999 t
  let (month, t) ← fixedNumber? 2 1 12 (← after? '-' t)
  let (_, t) ← fixedNumber? 2 1 (daysOf year month) (← after? '-' t)
  some t

/-- What follows the time of day at the start of a text. -/
def afterTime? (t : Text) : Option Text := do
  let (_, t) ← fixedNumber? 2 0 23 t
  let (_, t) ← fixedNumber? 2 0 59 (← after? ':' t)
  let (_, t) ← fixedNumber? 2 0 60 (← after? ':' t)
  match t with
  | '.' :: c :: rest => some (if c.isDigit then rest.dropWhile Char.isDigit else t)
  | t => some t

/-- What follows the distance from the meridian at the start of a text, if one is there. -/
def afterOffset? : Text → Option Text
  | c :: t =>
    if c == 'Z' || c == 'z' then some t
    else if c == '+' || c == '-' then do
      let (_, t) ← fixedNumber? 2 0 23 t
      let (_, t) ← fixedNumber? 2 0 59 (← after? ':' t)
      some t
    else some (c :: t)
  | [] => some []

/-- What follows the moment at the start of a text. -/
def afterMoment? (t : Text) : Option Text :=
  match afterDate? t with
  | some (c :: rest) =>
    if c == 'T' || c == 't' || c == ' ' then
      match afterTime? rest with
      | some rest => afterOffset? rest
      | none => some (c :: rest)
    else some (c :: rest)
  | some [] => some []
  | none => afterTime? t

/-- The moment at the start of a text, and what follows it. -/
def moment? (t : Text) : Option (Toml × Text) :=
  (afterMoment? t).map fun rest => (moment (t.take (t.length - rest.length)), rest)

end CircuitHub.Toml

import CircuitHub.Number.Decimal
import CircuitHub.Schematic.Basic
import CircuitHub.Text.Quoted
import CircuitHub.Text.Utf8

/-!
# Path data

Path data is a list of drawing commands, each a letter and numbers, with white space and commas
between them. `tokens` reads it and `trace` follows it with a pen. Curves and arcs become straight
strokes to their ends.

* `takeNumber?_length_lt`: a number takes characters off the data, so that reading ends.
-/

namespace CircuitHub.Path

/-- What is wrong with path data. -/
inductive PathError where
  /-- A character that begins neither a number nor a command, with its position in bytes. -/
  | unexpected (c : Char) (offset : Nat)
  /-- Characters in the form of a number that have no value. -/
  | valueless (number : Text)
  /-- A letter within a list of points. -/
  | letterInPoints (c : Char)
  /-- A letter that names no command. -/
  | unknownCommand (c : Char)
  /-- Numbers that no command asks for. -/
  | numberWithoutCommand
  /-- Too few numbers for a command. -/
  | missingNumbers (c : Char) (count : Nat)
  deriving DecidableEq, Repr

/-- What is wrong, in words. -/
def PathError.message : PathError → Text
  | unexpected c offset => "unexpected " ++ quotedChar c ++ " at offset " ++ Text.ofNat offset
  | valueless number => "invalid float literal in \"" ++ number ++ ['"']
  | letterInPoints c => "unexpected " ++ quotedChar c ++ " in points"
  | unknownCommand c => "unknown command " ++ quotedChar c
  | numberWithoutCommand => "numbers before any command"
  | missingNumbers c count =>
    "command " ++ quotedChar c ++ " expects " ++ Text.ofNat count ++ " numbers"

/-! ### Tokens -/

/-- A command's letter, or a number. -/
inductive Token where
  /-- The letter of a command, known or not. -/
  | command (c : Char)
  /-- A number. -/
  | number (x : Float)
  deriving BEq, Repr

/-- White space of the basic alphabet, or a comma. -/
def isSeparator (c : Char) : Bool :=
  c = ' ' || c = '\t' || c = '\n' || c = '\r' || c = '\x0c' || c = ','

/-- A letter that can name a command. The letter of exponents cannot. -/
def isCommandLetter (c : Char) : Bool := c.isAlpha && c != 'e' && c != 'E'

/-- A sign at the start of a text, and what follows. -/
def splitSign : Text → Text × Text
  | c :: t => if c = '+' || c = '-' then ([c], t) else ([], c :: t)
  | [] => ([], [])

/-- The digits at the start of a text with at most one point among them, and what follows. -/
def splitDigits (pointSeen : Bool) : Text → Text × Text
  | [] => ([], [])
  | c :: t =>
    if c.isDigit then
      let (digits, rest) := splitDigits pointSeen t
      (c :: digits, rest)
    else if c = '.' && !pointSeen then
      let (digits, rest) := splitDigits true t
      (c :: digits, rest)
    else ([], c :: t)

/-- The exponent at the start of a text, and what follows. A letter without digits after it is no
    exponent. -/
def splitExponent : Text → Text × Text
  | [] => ([], [])
  | c :: t =>
    if c = 'e' || c = 'E' then
      let (sign, t') := splitSign t
      let digits := t'.takeWhile Char.isDigit
      if digits.isEmpty then ([], c :: t)
      else (c :: sign ++ digits, t'.dropWhile Char.isDigit)
    else ([], c :: t)

/-- The longest number that a text begins with, and what follows. -/
def takeNumber? (t : Text) : Option (Text × Text) :=
  let (sign, t₁) := splitSign t
  let (digits, t₂) := splitDigits false t₁
  if digits.any Char.isDigit then
    let (exponent, t₃) := splitExponent t₂
    some (sign ++ digits ++ exponent, t₃)
  else none

theorem splitSign_append (t : Text) : (splitSign t).1 ++ (splitSign t).2 = t := by
  unfold splitSign
  split
  · split <;> rfl
  · rfl

theorem splitDigits_append (seen : Bool) (t : Text) :
    (splitDigits seen t).1 ++ (splitDigits seen t).2 = t := by
  induction t generalizing seen with
  | nil => rfl
  | cons c t ih =>
    unfold splitDigits
    split
    · simpa using ih seen
    · split
      · simpa using ih true
      · rfl

theorem splitExponent_append (t : Text) : (splitExponent t).1 ++ (splitExponent t).2 = t := by
  unfold splitExponent
  split
  · rfl
  · rename_i c t
    split
    · simp only
      split
      · rfl
      · have := splitSign_append t
        simp only [List.cons_append, List.append_assoc, List.takeWhile_append_dropWhile, this]
    · rfl

/-- A number and what follows it make up the text. -/
theorem takeNumber?_append {t number rest : Text} (h : takeNumber? t = some (number, rest)) :
    number ++ rest = t := by
  unfold takeNumber? at h
  have h₁ := splitSign_append t
  have h₂ := splitDigits_append false (splitSign t).2
  have h₃ := splitExponent_append (splitDigits false (splitSign t).2).2
  simp only at h
  split at h
  · cases h
    rw [List.append_assoc, List.append_assoc, h₃, h₂, h₁]
  · cases h

/-- A number takes characters off the data. -/
theorem takeNumber?_length_lt {t number rest : Text} (h : takeNumber? t = some (number, rest)) :
    rest.length < t.length := by
  have happ := takeNumber?_append h
  have hne : number ≠ [] := by
    unfold takeNumber? at h
    simp only at h
    split at h
    · rename_i hd
      cases h
      intro he
      rw [List.append_eq_nil_iff, List.append_eq_nil_iff] at he
      rw [he.1.2] at hd
      simp at hd
    · cases h
  have := congrArg List.length happ
  have hpos := List.length_pos_iff.2 hne
  simp only [List.length_append] at this
  omega

/-- The tokens of path data that begins `offset` bytes into the whole. -/
def tokensFrom (offset : Nat) (data : Text) : Except PathError (List Token) :=
  match data with
  | [] => .ok []
  | c :: t =>
    if isSeparator c then tokensFrom (offset + 1) t
    else if isCommandLetter c then (tokensFrom (offset + 1) t).map (.command c :: ·)
    else
      match _h : takeNumber? (c :: t) with
      | none => .error (.unexpected c offset)
      | some (number, rest) =>
        match readFloat? number with
        | none => .error (.valueless number)
        | some x => (tokensFrom (offset + number.byteSize) rest).map (.number x :: ·)
termination_by data.length
decreasing_by
  · simp
  · simp
  · exact takeNumber?_length_lt _h

/-- The tokens of path data. -/
def tokens (data : Text) : Except PathError (List Token) := tokensFrom 0 data

/-! ### Lists of points -/

/-- The numbers of a list of points. -/
def numbers : List Token → Except PathError (List Float)
  | [] => .ok []
  | .number x :: rest => (numbers rest).map (x :: ·)
  | .command c :: _ => .error (.letterInPoints c)

/-- Numbers taken two by two. A number left over is dropped. -/
def pairUp : List Float → List Point
  | x :: y :: rest => ⟨x, y⟩ :: pairUp rest
  | _ => []

/-- The points that a list of numbers gives. -/
def points (data : Text) : Except PathError (List Point) := do
  let tokens ← tokens data
  let numbers ← numbers tokens
  return pairUp numbers

/-! ### The pen -/

/-- What a command does with its numbers. -/
inductive Kind where
  /-- Move the pen. -/
  | move
  /-- A stroke to a point. -/
  | line
  /-- A stroke sideways. -/
  | horizontal
  /-- A stroke up or down. -/
  | vertical
  /-- A curve whose end comes after `skipped` numbers. -/
  | curve (skipped : Nat)
  deriving DecidableEq, Repr

/-- A command that takes numbers. -/
structure Command where
  /-- The letter that names it. -/
  letter : Char
  /-- What it does. -/
  kind : Kind
  deriving DecidableEq, Repr

namespace Command

/-- The letter is small: the numbers count from where the pen is. -/
def isRelative (c : Command) : Bool := c.letter.isLower

/-- How many numbers the command takes each time, less one. -/
def arityPred (c : Command) : Nat :=
  match c.kind with
  | .move | .line => 1
  | .horizontal | .vertical => 0
  | .curve skipped => skipped + 1

/-- How many numbers the command takes each time. -/
def arity (c : Command) : Nat := c.arityPred + 1

/-- The command that goes on after this one has had its numbers: after a move come lines. -/
def following (c : Command) : Command :=
  match c.kind with
  | .move => ⟨if c.isRelative then 'l' else 'L', .line⟩
  | _ => c

end Command

/-- What a letter does. -/
inductive Meaning where
  /-- It names a command that takes numbers. -/
  | draws (command : Command)
  /-- It closes the subpath. -/
  | closes
  deriving DecidableEq, Repr

/-- What a letter of either case does, if it names a command. -/
def meaning? (c : Char) : Option Meaning :=
  match c.toUpper with
  | 'M' => some (.draws ⟨c, .move⟩)
  | 'L' | 'T' => some (.draws ⟨c, .line⟩)
  | 'H' => some (.draws ⟨c, .horizontal⟩)
  | 'V' => some (.draws ⟨c, .vertical⟩)
  | 'S' | 'Q' => some (.draws ⟨c, .curve 2⟩)
  | 'C' => some (.draws ⟨c, .curve 4⟩)
  | 'A' => some (.draws ⟨c, .curve 5⟩)
  | 'Z' => some .closes
  | _ => none

/-- Where the drawing of a path stands. -/
structure Pen where
  /-- Where the pen is. -/
  position : Point
  /-- Where the subpath began. -/
  start : Point
  /-- The command that the next numbers belong to. -/
  command? : Option Command

namespace Pen

/-- The pen before the first command. -/
def origin : Pen := ⟨⟨0, 0⟩, ⟨0, 0⟩, none⟩

/-- The point that two numbers give. -/
def pointAt (pen : Pen) (relative : Bool) (x y : Float) : Point :=
  if relative then ⟨pen.position.x + x, pen.position.y + y⟩ else ⟨x, y⟩

/-- Where a command takes the pen. -/
def target (pen : Pen) (c : Command) (args : List Float) : Point :=
  let arg (i : Nat) : Float := args[i]?.getD 0
  match c.kind with
  | .move | .line => pen.pointAt c.isRelative (arg 0) (arg 1)
  | .horizontal => ⟨if c.isRelative then pen.position.x + arg 0 else arg 0, pen.position.y⟩
  | .vertical => ⟨pen.position.x, if c.isRelative then pen.position.y + arg 0 else arg 0⟩
  | .curve skipped => pen.pointAt c.isRelative (arg skipped) (arg (skipped + 1))

/-- The strokes of a command and the pen after it. -/
def draw (pen : Pen) (c : Command) (args : List Float) : List Stroke × Pen :=
  let p := pen.target c args
  match c.kind with
  | .move => ([], ⟨p, p, some c.following⟩)
  | _ => ([⟨pen.position, p⟩], { pen with position := p })

/-- The stroke back to where the subpath began, unless the pen is there, and the pen after it. -/
def close (pen : Pen) : List Stroke × Pen :=
  (if pen.position == pen.start then [] else [⟨pen.position, pen.start⟩],
    ⟨pen.start, pen.start, none⟩)

end Pen

/-- The first `n` tokens, which are numbers, and what follows them. -/
def takeNumbers? : Nat → List Token → Option (List Float × List Token)
  | 0, rest => some ([], rest)
  | n + 1, .number x :: rest => (takeNumbers? n rest).map fun (xs, rest) => (x :: xs, rest)
  | _ + 1, _ => none

theorem takeNumbers?_length {n : Nat} {tokens rest : List Token} {args : List Float}
    (h : takeNumbers? n tokens = some (args, rest)) : rest.length + n = tokens.length := by
  induction n generalizing tokens args with
  | zero => cases h; rfl
  | succ n ih =>
    match tokens with
    | [] => cases h
    | .command _ :: _ => cases h
    | .number x :: tokens =>
      simp only [takeNumbers?, Option.map_eq_some_iff] at h
      obtain ⟨⟨xs, r⟩, hr, he⟩ := h
      cases he
      have := ih hr
      simp only [List.length_cons] at *
      omega

/-- The strokes that a pen draws by the tokens of path data. -/
def traceFrom (pen : Pen) (tokens : List Token) : Except PathError (List Stroke) :=
  match tokens with
  | [] => .ok []
  | .command c :: rest =>
    match meaning? c with
    | none => .error (.unknownCommand c)
    | some .closes =>
      let (strokes, pen) := pen.close
      (traceFrom pen rest).map (strokes ++ ·)
    | some (.draws command) => traceFrom { pen with command? := some command } rest
  | .number x :: rest =>
    match pen.command? with
    | none => .error .numberWithoutCommand
    | some command =>
      match _h : takeNumbers? command.arity (.number x :: rest) with
      | none => .error (.missingNumbers command.letter command.arity)
      | some (args, rest') =>
        let (strokes, pen) := pen.draw command args
        (traceFrom pen rest').map (strokes ++ ·)
termination_by tokens.length
decreasing_by
  · simp
  · simp
  · have := takeNumbers?_length _h
    simp only [Command.arity, List.length_cons] at *
    omega

/-- The strokes of path data. -/
def trace (data : Text) : Except PathError (List Stroke) := do
  traceFrom Pen.origin (← tokens data)

end CircuitHub.Path

import CircuitHub.Toml.Number
import CircuitHub.Toml.Quoted

/-!
# TOML documents

A document is a row of statements, one a line: a header, which says what table the next entries go
to, or an entry, a path of keys with a value. Lists may go over lines and have comments in them;
tables between braces may not. Neither values nor paths nest eighty levels deep.
-/

namespace CircuitHub.Toml

/-- No value lies within so many lists and tables between braces, and no path is so long. -/
def maxDepth : Nat := 80

/-- What follows the spaces and tabs at the start of a text. -/
def skipBlanks (t : Text) : Text := t.dropWhile isBlankChar

/-- A text without the blank lines and comments that it begins with. -/
def skipLines (t : Text) : Text :=
  match t with
  | [] => []
  | c :: rest =>
    if isBlankChar c || c == '\n' then skipLines rest
    else if c == '\r' && rest.head? == some '\n' then skipLines rest
    else if c == '#' then skipLines (rest.dropWhile isLineChar)
    else c :: rest
termination_by t.length
decreasing_by
  · simp
  · simp
  · have := Text.length_dropWhile_le isLineChar rest; simp only [List.length_cons]; omega

/-- What follows the end of a line, before which only a comment may stand. -/
def afterLineEnd? (t : Text) : Option Text :=
  let t := skipBlanks t
  let t := if t.head? == some '#' then t.dropWhile isLineChar else t
  if t.isEmpty then some [] else afterBreak? t

/-! ### Keys -/

/-- Characters of keys without quotes. -/
def isKeyChar (c : Char) : Bool := c.isAlphanum || c == '_' || c == '-'

/-- The key at the start of a text, and what follows it. -/
def key? (t : Text) : Option (Text × Text) :=
  match t with
  | '"' :: rest => lineText? '"' rest
  | '\'' :: rest => lineText? '\'' rest
  | t =>
    let name := t.takeWhile isKeyChar
    if name.isEmpty then none else some (name, t.drop name.length)

/-- The path of at most `limit` keys at the start of a text, with points between the keys and
    blanks around them, and what follows it. -/
def path? : Nat → Text → Option (List Text × Text)
  | 0, _ => none
  | limit + 1, t => do
    let (key, t) ← key? (skipBlanks t)
    match skipBlanks t with
    | '.' :: t =>
      let (path, t) ← path? limit t
      some (key :: path, t)
    | t => some ([key], t)

/-- The path at the start of a text, and what follows it. -/
def keys? (t : Text) : Option (List Text × Text) := path? (maxDepth - 1) t

/-! ### Values

The first number counts down at each step of reading. It is more than the length of the text, at
each character of which there are at most two steps. The second number is how many levels of nesting
are left.
-/

mutual

/-- The value at the start of a text, and what follows it. -/
def value? : Nat → Nat → Text → Option (Toml × Text)
  | steps + 1, room, t =>
    match t with
    | '[' :: t =>
      if room = 0 then none
      else (items? steps (room - 1) (skipLines t)).map fun (items, t) => (list false items, t)
    | '\x7b' :: t =>
      if room = 0 then none
      else match skipBlanks t with
        | '\x7d' :: t => some (table .inlined [], t)
        | t => (pairs? steps (room - 1) [] t).map fun (entries, t) => (table .inlined entries, t)
    | '"' :: _ | '\'' :: _ => (quotedText? t).map fun (value, t) => (text value, t)
    | 't' :: 'r' :: 'u' :: 'e' :: t => some (boolean true, t)
    | 'f' :: 'a' :: 'l' :: 's' :: 'e' :: t => some (boolean false, t)
    | t => match moment? t with
      | some m => some m
      | none => number? t
  | 0, _, _ => none

/-- The elements of a list up to its end, and what follows it. -/
def items? : Nat → Nat → Text → Option (List Toml × Text)
  | steps + 1, room, t =>
    match t with
    | ']' :: t => some ([], t)
    | t => match value? steps room t with
      | some (item, t) => match skipLines t with
        | ',' :: t => (items? steps room (skipLines t)).map fun (items, t) => (item :: items, t)
        | ']' :: t => some ([item], t)
        | _ => none
      | none => none
  | 0, _, _ => none

/-- The entries of a table up to its closing brace, after those that are already there, and what
    follows it. -/
def pairs? : Nat → Nat → Entries → Text → Option (Entries × Text)
  | steps + 1, room, entries, t =>
    match keys? t with
    | some (path, '=' :: t) => match value? steps room (skipBlanks t) with
      | some (value, t) => match assign path value .inlined entries with
        | some entries => match skipBlanks t with
          | ',' :: t => pairs? steps room entries t
          | '\x7d' :: t => some (entries, t)
          | _ => none
        | none => none
      | none => none
    | _ => none
  | 0, _, _, _ => none

end

/-! ### Statements -/

/-- A document that has been read in part. -/
structure Draft where
  /-- The table that is the document. -/
  entries : Entries
  /-- Where entries go. -/
  place : List Text
  deriving Repr

/-- The document after a header between brackets, and what follows the header. -/
def header? (draft : Draft) (t : Text) : Option (Draft × Text) :=
  match t with
  | '[' :: '[' :: t => do
    let (path, t) ← keys? t
    let t ← after? ']' (← after? ']' t)
    some (⟨← openElement path draft.entries, path⟩, t)
  | '[' :: t => do
    let (path, t) ← keys? t
    let t ← after? ']' t
    some (⟨← openTable path draft.entries, path⟩, t)
  | _ => none

/-- The document after an entry, and what follows the entry. -/
def entry? (draft : Draft) (t : Text) : Option (Draft × Text) := do
  let (path, t) ← keys? t
  let t := skipBlanks (← after? '=' t)
  let (value, t) ← value? (2 * t.length + 2) (maxDepth - 1) t
  let entries ← changeAt false (assign path value) draft.place .header draft.entries
  some (⟨entries, draft.place⟩, t)

/-- The document after the rest of the text. -/
def statements? (draft : Draft) (t : Text) : Option Draft :=
  match skipLines t with
  | [] => some draft
  | c :: rest =>
    let statement? := if c == '[' then header? draft (c :: rest) else entry? draft (c :: rest)
    match statement? with
    | none => none
    | some (draft, after) => match afterLineEnd? after with
      | none => none
      | some after => if _h : after.length < t.length then statements? draft after else none
termination_by t.length

/-- The entries of the document that a text is. A mark of the byte order may stand before it. -/
def read? (t : Text) : Option Entries :=
  let t := match t with
    | '\uFEFF' :: t => t
    | t => t
  (statements? ⟨[], []⟩ t).map (·.entries)

end CircuitHub.Toml

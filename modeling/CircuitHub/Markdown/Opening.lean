import CircuitHub.Markdown.Html
import CircuitHub.Markdown.Indent

/-!
# Beginnings of blocks

What a block begins with is told from the text of one line, without the blanks before it.
-/

namespace CircuitHub.Markdown

/-- Nothing but blanks and returns. -/
def isBlankLine (t : Text) : Bool := t.all isTrailingBlank

/-- A line across the page: three marks or more of one kind, and blanks. -/
def isRule (t : Text) : Bool :=
  let marks := t.filter fun c => !isLineBlank c
  match marks with
  | c :: _ => (c = '*' || c = '-' || c = '_') && marks.all (· = c) && 3 ≤ marks.length
  | [] => false

/-- The level of a heading, and its prose. -/
def takeHeading? (t : Text) : Option (Nat × Text) :=
  let level := (t.takeWhile (· = '#')).length
  let rest := t.drop level
  if 1 ≤ level && level ≤ 6 && (rest.isEmpty || rest.head?.any isBlankChar) then
    let prose := Text.dropEndWhile (· = ' ') (rest.dropWhile isTrailingBlank)
    let unmarked := Text.dropEndWhile (· = '#') prose
    let prose :=
      if unmarked.isEmpty then []
      else if unmarked.getLast? = some ' ' then Text.dropEndWhile (· = ' ') unmarked
      else prose
    some (level, Text.dropEndWhile isTrailingBlank prose)
  else none

/-- The level of the heading that a line makes of the prose above it. -/
def underlineLevel? (t : Text) : Option Nat :=
  match t with
  | c :: t =>
    if (c = '=' || c = '-') && isBlankLine (t.dropWhile (· = c)) then
      some (if c = '=' then 1 else 2)
    else none
  | [] => none

/-- The marks around code, and what the first of them says of it. -/
structure Fence where
  /-- The character of the marks. -/
  mark : Char
  /-- How many there are. -/
  count : Nat
  /-- What the code is. -/
  info : Text
  deriving DecidableEq, Repr

/-- The fence that a line begins. -/
def takeFence? (t : Text) : Option Fence :=
  match t with
  | c :: _ =>
    let count := (t.takeWhile (· = c)).length
    let info := t.drop count
    if (c = '~' || c = '\x60') && 3 ≤ count && !(c = '\x60' && info.contains '\x60') then
      some ⟨c, count, unescape (Text.dropEndWhile isBlankChar (info.dropWhile isTrailingBlank))⟩
    else none
  | [] => none

/-- A line closes a fence. -/
def Fence.isClosedBy (f : Fence) (t : Text) : Bool :=
  f.count ≤ (t.takeWhile (· = f.mark)).length && (t.dropWhile (· = f.mark)).all (· = ' ')

/-- The mark of an item. -/
structure Bullet where
  /-- The character by which items of one list are known. -/
  mark : Char
  /-- The number of a numbered item. -/
  start? : Option Nat
  /-- The characters of the mark. -/
  length : Nat
  deriving DecidableEq, Repr

/-- The mark of an item that a line begins with. -/
def takeBullet? (t : Text) : Option Bullet :=
  match t with
  | [] => none
  | c :: rest =>
    let endsMark (t : Text) : Bool := t.isEmpty || t.head?.any isBlankChar
    if c = '-' || c = '+' || c = '*' then
      if endsMark rest && !isRule t then some ⟨c, none, 1⟩ else none
    else
      let digits := t.takeWhile Char.isDigit
      match t.drop digits.length with
      | d :: rest =>
        if 1 ≤ digits.length && digits.length ≤ 9 && (d = '.' || d = ')') && endsMark rest then
          some ⟨d, some (Text.natOfDigits digits), digits.length + 1⟩
        else none
      | [] => none

theorem takeBullet?_length_pos {t : Text} {b : Bullet} (h : takeBullet? t = some b) :
    0 < b.length ∧ t ≠ [] := by
  unfold takeBullet? at h
  split at h
  · cases h
  · simp only at h
    split at h
    · split at h
      · cases h; simp
      · cases h
    · split at h
      · split at h
        · cases h; simp
        · cases h
      · cases h

/-- The box of a task: whether the task is done. -/
def takeTask? (t : Text) : Option Bool :=
  match t with
  | '[' :: c :: ']' :: d :: _ =>
    if isTrailingBlank d then
      if c = 'x' || c = 'X' then some true
      else if isTrailingBlank c then some false
      else none
    else none
  | _ => none

/-- A line, and the one after it if there is one, begin a block that may stand directly after a
    paragraph. An item may do so if the paragraph would go on within the same blocks only where it
    is not empty, and where it has no number but one. -/
def interrupts (sameBlocks : Bool) (t : Text) (next? : Option Text) : Bool :=
  isRule t || (takeHeading? t).isSome || (takeFence? t).isSome || t.head? = some '>' ||
    (match takeBullet? t with
      | some b =>
        !sameBlocks || ((b.start?.getD 1) = 1 &&
          !(isBlankLine (t.drop b.length) && (next?.getD []).all isTrailingBlank))
      | none => false) ||
    (t.head? = some '<' && (Html.ending? true (t.drop 1)).isSome)

end CircuitHub.Markdown

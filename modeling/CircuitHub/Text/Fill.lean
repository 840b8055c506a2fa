import CircuitHub.Text.Width

/-!
# Even lines

A short text is broken into lines so that the gaps at their ends are even. Every way to break it
has a cost: each line costs something, and so does its gap by its square, except in the last line.
The cheapest way is found for each beginning of the text, from the ways for shorter ones.
-/

namespace CircuitHub

/-- A word, or a part of one, and the spaces after it. -/
structure Word where
  /-- The word. -/
  text : Text
  /-- The columns of the spaces after it. -/
  gap : Nat
  deriving DecidableEq, Repr

namespace Word

/-- The columns of the word. -/
def width (w : Word) : Nat := w.text.columns

/-- The parts of a word that is too long for a line, of which `part` has been read, the last
    character first. -/
def splitAfter (limit gap : Nat) (part : Text) : Text → List Word
  | [] => if part.isEmpty then [] else [⟨part.reverse, gap⟩]
  | c :: t =>
    if 0 < part.columns && limit < part.columns + charWidth c then
      ⟨part.reverse, 0⟩ :: splitAfter limit gap [c] t
    else splitAfter limit gap (c :: part) t

/-- The word, or its parts if it is too long for a line. -/
def split (limit : Nat) (w : Word) : List Word :=
  if limit < w.width then splitAfter limit w.gap [] w.text else [w]

/-- The words of a text without spaces at its ends. -/
def ofText (t : Text) : List Word :=
  let words := (t.splitAt (· = ' ')).map fun w => (⟨w, 1⟩ : Word)
  match words.getLast? with
  | some last => words.dropLast ++ [⟨last.text, 0⟩]
  | none => []

/-- The text of words in one line. -/
def lineText : List Word → Text
  | [] => []
  | [w] => w.text
  | w :: words => w.text ++ List.replicate w.gap ' ' ++ lineText words

/-- The columns of words in one line. -/
def lineWidth (words : List Word) : Nat := Text.columns (lineText words)

/-- The cost of a line: much for a line that is too long, and little for a last line of one short
    word. -/
def lineCost (limit : Nat) (isLast : Bool) (words : List Word) : Nat :=
  let width := lineWidth words
  if limit < width then 1000 + 2500 * (width - limit)
  else if !isLast then 1000 + (limit - width) * (limit - width)
  else if words.length = 1 && 4 * width < limit then 1025
  else 1000

/-- A way to break words into lines, with its cost and the words that are left of it, from the one
    that leaves most. The first of the cheapest ones is chosen. -/
def cheapest : List (Nat × List (List Word)) → Nat × List (List Word)
  | [] => (0, [])
  | [way] => way
  | way :: ways =>
    let best := cheapest ways
    if best.1 < way.1 then best else way

/-- The cheapest ways for the first `n` words, for each `n` up to the number of words. -/
def cheapestWays (limit : Nat) (words : List Word) : List (Nat × List (List Word)) :=
  (List.range words.length).foldl
    (fun ways n =>
      ways ++ [cheapest (ways.zipIdx.map fun ((cost, lines), i) =>
        let line := (words.take (n + 1)).drop i
        (cost + lineCost limit (n + 1 = words.length) line, lines ++ [line]))])
    [(0, [])]

end Word

/-- The lines of a text that is broken evenly into so many columns, and into one at least. -/
def Text.fill (t : Text) (columns : Nat) : List Text :=
  let limit := max columns 1
  let words := (Word.ofText t).flatMap (Word.split limit)
  match (Word.cheapestWays limit words).getLast? with
  | some (_, lines) => lines.map Word.lineText
  | none => []

end CircuitHub

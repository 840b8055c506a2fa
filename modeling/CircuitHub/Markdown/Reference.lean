import CircuitHub.Text.Digits
import CircuitHub.Text.LowerCase
import CircuitHub.Text.Table.Entity

/-!
# Characters by reference

Prose may give a character by name or by number between an ampersand and a semicolon, and
punctuation after a backslash stands for itself.
-/

namespace CircuitHub.Markdown

/-- Punctuation of the basic alphabet. -/
def isAsciiPunctuation (c : Char) : Bool :=
  let n := c.toNat
  (0x21 ≤ n && n ≤ 0x2F) || (0x3A ≤ n && n ≤ 0x40) || (0x5B ≤ n && n ≤ 0x60) ||
    (0x7B ≤ n && n ≤ 0x7E)

/-- The character of a number; what is no character is the replacement character. -/
def charOfNumber (n : Nat) : Char :=
  if n = 0 || (0xD800 ≤ n && n ≤ 0xDFFF) || 0x110000 ≤ n then '\uFFFD' else Char.ofNat n

/-- The text of code points in hexadecimal digits with spaces between them. -/
def textOfCodes (codes : Text) : Text :=
  (codes.splitAt (· = ' ')).filterMap fun code => (Text.natInBase? 16 code).map charOfNumber

/-- The text that a name stands for among entries that end in semicolons. -/
def findNamed? (name : Text) (table : Text) : Option Text :=
  (table.splitAt (· = ';')).findSome? fun entry =>
    if entry.takeWhile (· != ' ') == name then
      some (textOfCodes (entry.dropWhile (· != ' ')))
    else none

/-- The text of a character's name. -/
def namedText? (name : Text) : Option Text :=
  if name.isEmpty then none
  else Table.namedCharacters.findSome? fun entries => findNamed? name entries.toList

/-- What a reference stands for, by the text between ampersand and semicolon. -/
def referenceText? : Text → Option Text
  | '#' :: 'x' :: digits | '#' :: 'X' :: digits =>
    if 6 < digits.length then none else (Text.natInBase? 16 digits).map fun n => [charOfNumber n]
  | '#' :: digits =>
    if 7 < digits.length then none else (Text.natInBase? 10 digits).map fun n => [charOfNumber n]
  | name => if name.all Char.isAlphanum then namedText? name else none

/-- The reference at the start of a text, after its ampersand: what it stands for and how many
    characters it has. -/
def takeReference? (t : Text) : Option (Text × Nat) :=
  let name := t.takeWhile fun c => c.isAlphanum || c = '#'
  if (t.drop name.length).head? = some ';' then
    (referenceText? name).map fun s => (s, name.length + 1)
  else none

/-- The text with references replaced by what they stand for and backslashes before punctuation
    taken away. -/
def unescape (t : Text) : Text :=
  match t with
  | [] => []
  | '\\' :: c :: t => if isAsciiPunctuation c then c :: unescape t else '\\' :: unescape (c :: t)
  | '&' :: t =>
    match takeReference? t with
    | some (s, n) => s ++ unescape (t.drop n)
    | none => '&' :: unescape t
  | c :: t => c :: unescape t
termination_by t.length
decreasing_by all_goals simp only [List.length_cons, List.length_drop]; omega

end CircuitHub.Markdown

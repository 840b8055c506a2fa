import CircuitHub.Text.Digits

/-!
# Character references

In the value of an attribute a character may be written by reference: one of five names, or its
code point in decimal or hexadecimal digits, between an ampersand and a semicolon.

* `takeReference?_length_lt`: a reference takes characters off the text, so that reading ends.
-/

namespace CircuitHub.Markup

/-- The characters that have a name. -/
def namedEntity? (name : Text) : Option Char :=
  if name == ['l', 't'] then some '<'
  else if name == ['g', 't'] then some '>'
  else if name == ['a', 'm', 'p'] then some '&'
  else if name == ['a', 'p', 'o', 's'] then some '\''
  else if name == ['q', 'u', 'o', 't'] then some '"'
  else none

/-- The character with a code point, which is not zero. -/
def charOfCode? (n : Nat) : Option Char := if n = 0 then none else Text.charOfCode? n

/-- The character that a reference stands for, by the text between ampersand and semicolon. -/
def entity? (name : Text) : Option Char :=
  match name with
  | '#' :: 'x' :: digits => (Text.natInBase? 16 digits).bind charOfCode?
  | '#' :: digits =>
    if !digits.isEmpty && digits.all Char.isDigit then charOfCode? (Text.natOfDigits digits)
    else none
  | name => namedEntity? name

/-- The name of a reference and what follows its semicolon. -/
def takeReference? : Text → Option (Text × Text)
  | [] => none
  | ';' :: rest => some ([], rest)
  | '&' :: _ => none
  | c :: rest => (takeReference? rest).map fun (name, after) => (c :: name, after)

theorem takeReference?_length_lt {t name rest : Text} (h : takeReference? t = some (name, rest)) :
    rest.length < t.length := by
  fun_induction takeReference? t generalizing name with
  | case1 => cases h
  | case2 r => cases h; simp
  | case3 => cases h
  | case4 c r _ _ ih =>
    rw [Option.map_eq_some_iff] at h
    obtain ⟨⟨n, a⟩, hn, he⟩ := h
    cases he
    have := ih hn
    simp only [List.length_cons]
    omega

/-- The text with its references replaced by the characters they stand for; none if a reference is
    not ended or stands for nothing. -/
def unescape? (t : Text) : Option Text :=
  match t with
  | [] => some []
  | '&' :: t =>
    match _h : takeReference? t with
    | none => none
    | some (name, rest) =>
      match entity? name with
      | none => none
      | some c => (unescape? rest).map (c :: ·)
  | c :: t => (unescape? t).map (c :: ·)
termination_by t.length
decreasing_by
  · have := takeReference?_length_lt _h
    simp only [List.length_cons]
    omega
  · simp

end CircuitHub.Markup

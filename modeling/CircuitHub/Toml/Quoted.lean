import CircuitHub.Text.Digits

/-!
# Quoted texts of TOML

A text stands between double quotes, where a backslash begins an escape, or between single quotes,
where nothing is escaped. Three quotes instead of one allow line breaks in the text. The first line
break after them does not count, and up to two quotes may stand before those that close the text.

* `Toml.escape?_length_lt`: an escape that is read leaves a shorter text.
-/

namespace CircuitHub.Toml

/-- Spaces and tabs. -/
def isBlankChar (c : Char) : Bool := c == ' ' || c == '\t'

/-- Characters that may stand in a line: all but the control characters of the basic alphabet,
    except the tab. -/
def isLineChar (c : Char) : Bool := c == '\t' || (0x20 ≤ c.toNat && c != '\x7F')

/-- What follows the line break at the start of a text. -/
def afterBreak? : Text → Option Text
  | '\n' :: t => some t
  | '\r' :: '\n' :: t => some t
  | _ => none

/-- A text without the spaces, tabs and line breaks that it begins with. -/
def skipBreaks : Text → Text
  | '\r' :: '\n' :: t => skipBreaks t
  | c :: t => if isBlankChar c || c == '\n' then skipBreaks t else c :: t
  | [] => []

/-- The character of so many hexadecimal digits, and what follows them. -/
def codePoint? (digits : Nat) (t : Text) : Option (Char × Text) :=
  if digits ≤ t.length then
    ((Text.natInBase? 16 (t.take digits)).bind Text.charOfCode?).map (·, t.drop digits)
  else none

/-- The character of an escape, and what follows it. The text starts after the backslash. -/
def escape? : Text → Option (Char × Text)
  | 'b' :: t => some ('\x08', t)
  | 't' :: t => some ('\t', t)
  | 'n' :: t => some ('\n', t)
  | 'f' :: t => some ('\x0C', t)
  | 'r' :: t => some ('\r', t)
  | '"' :: t => some ('"', t)
  | '\\' :: t => some ('\\', t)
  | 'u' :: t => codePoint? 4 t
  | 'U' :: t => codePoint? 8 t
  | _ => none

theorem codePoint?_length_le {n : Nat} {t rest : Text} {c : Char}
    (h : codePoint? n t = some (c, rest)) : rest.length ≤ t.length := by
  unfold codePoint? at h
  split at h
  · obtain ⟨_, _, he⟩ := Option.map_eq_some_iff.1 h
    simp only [Prod.mk.injEq] at he
    obtain ⟨_, rfl⟩ := he
    simp
  · cases h

theorem escape?_length_lt {t rest : Text} {c : Char} (h : escape? t = some (c, rest)) :
    rest.length < t.length := by
  unfold escape? at h
  split at h
  case h_8 | h_9 =>
    have := codePoint?_length_le h
    simp only [List.length_cons]
    omega
  all_goals simp only [Option.some.injEq, Prod.mk.injEq, reduceCtorEq] at h
  all_goals obtain ⟨_, rfl⟩ := h
  all_goals simp

/-- What follows a backslash at the end of a line, which takes the line break and all blank space
    after it out of the text. -/
def afterJoinedLine? (t : Text) : Option Text :=
  (afterBreak? (t.dropWhile isBlankChar)).map skipBreaks

/-- The text up to the closing quote, and what follows it. -/
def lineText? (quote : Char) (t : Text) : Option (Text × Text) :=
  match t with
  | [] => none
  | c :: rest =>
    if c == quote then some ([], rest)
    else if c == '\\' && quote == '"' then
      match _h : escape? rest with
      | some (c, rest) => (lineText? quote rest).map fun (t, rest) => (c :: t, rest)
      | none => none
    else if isLineChar c then (lineText? quote rest).map fun (t, rest) => (c :: t, rest)
    else none
termination_by t.length
decreasing_by
  · have := escape?_length_lt _h; simp only [List.length_cons]; omega
  · simp

/-- The text up to three closing quotes, and what follows them. A row of more quotes ends with those
    that close the text, of which two at most belong to it. -/
def blockText? (quote : Char) (t : Text) : Option (Text × Text) :=
  match t with
  | [] => none
  | c :: rest =>
    let go (part rest' : Text) : Option (Text × Text) :=
      if _h : rest'.length < (c :: rest).length then
        (blockText? quote rest').map fun (t, rest) => (part ++ t, rest)
      else none
    if c == quote then
      let quotes := 1 + (rest.takeWhile (· == quote)).length
      if 3 ≤ quotes then
        let kept := min (quotes - 3) 2
        some (List.replicate kept quote, t.drop (kept + 3))
      else go [c] rest
    else if c == '\\' && quote == '"' then
      match afterJoinedLine? rest, escape? rest with
      | some rest, _ => go [] rest
      | none, some (c, rest) => go [c] rest
      | none, none => none
    else match afterBreak? t with
      | some rest => go ['\n'] rest
      | none => if isLineChar c then go [c] rest else none
termination_by t.length
decreasing_by exact _h

/-- The quoted text at the start of a text, and what follows it. -/
def quotedText? (t : Text) : Option (Text × Text) :=
  match t with
  | '"' :: '"' :: '"' :: rest => blockText? '"' ((afterBreak? rest).getD rest)
  | '\'' :: '\'' :: '\'' :: rest => blockText? '\'' ((afterBreak? rest).getD rest)
  | '"' :: rest => lineText? '"' rest
  | '\'' :: rest => lineText? '\'' rest
  | _ => none

end CircuitHub.Toml

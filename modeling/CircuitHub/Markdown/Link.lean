import CircuitHub.Markdown.Reference

/-!
# Links

A link names where it leads in parentheses, or by a label that the document defines elsewhere. The
functions here take a part of a link off the beginning of a text and give what follows.
-/

namespace CircuitHub.Markdown

/-- White space of the basic alphabet. -/
def isBlankChar (c : Char) : Bool :=
  c = ' ' || c = '\t' || c = '\n' || c = '\r' || c = '\x0b' || c = '\x0c'

/-- A blank within a line. -/
def isLineBlank (c : Char) : Bool := c = ' ' || c = '\t'

/-- The blanks at the end of a line. -/
def isTrailingBlank (c : Char) : Bool := c = ' ' || c = '\t' || c = '\x0b' || c = '\x0c'

/-- White space with at most one line break in it. -/
def skipGap (t : Text) : Text :=
  match t.dropWhile isLineBlank with
  | '\n' :: t => t.dropWhile isLineBlank
  | t => t

/-- The text up to one of some marks that no backslash stands before, and what follows the mark.
    Some other characters must not occur. -/
def takeUntil? (mark : Char) (forbidden : List Char) : Text → Option (Text × Text)
  | [] => none
  | '\\' :: c :: t =>
    if isAsciiPunctuation c then
      (takeUntil? mark forbidden t).map fun (s, rest) => ('\\' :: c :: s, rest)
    else if forbidden.contains '\\' then none
    else (takeUntil? mark forbidden (c :: t)).map fun (s, rest) => ('\\' :: s, rest)
  | c :: t =>
    if c = mark then some ([], t)
    else if forbidden.contains c then none
    else (takeUntil? mark forbidden t).map fun (s, rest) => (c :: s, rest)
termination_by t => t.length
decreasing_by all_goals simp only [List.length_cons]; omega

/-- A label after its bracket, and what follows the bracket that ends it. -/
def takeLabel? (t : Text) : Option (Text × Text) :=
  match takeUntil? ']' ['['] t with
  | some (label, rest) =>
    if label.all isBlankChar || 999 < label.length then none else some (label, rest)
  | none => none

/-- A label as it is compared: case does not count, and neither does how much white space there
    is. -/
def normalLabel (label : Text) : Text :=
  let words := (label.splitAt isBlankChar).filter (!·.isEmpty)
  Text.lower (words.intersperse [' ']).flatten

/-- A destination without brackets, whose parentheses are balanced, and what follows it. -/
def takeBareDestination? (depth : Nat) : Text → Option (Text × Text)
  | [] => if depth = 0 then some ([], []) else none
  | '\\' :: c :: t =>
    if isAsciiPunctuation c then
      (takeBareDestination? depth t).map fun (s, rest) => ('\\' :: c :: s, rest)
    else (takeBareDestination? depth (c :: t)).map fun (s, rest) => ('\\' :: s, rest)
  | c :: t =>
    if c = '(' then
      if 32 ≤ depth then none
      else (takeBareDestination? (depth + 1) t).map fun (s, rest) => (c :: s, rest)
    else if c = ')' then
      if depth = 0 then some ([], c :: t)
      else (takeBareDestination? (depth - 1) t).map fun (s, rest) => (c :: s, rest)
    else if c.toNat ≤ 0x20 || c.toNat = 0x7F then
      if depth = 0 then some ([], c :: t) else none
    else (takeBareDestination? depth t).map fun (s, rest) => (c :: s, rest)
termination_by t => t.length
decreasing_by all_goals simp only [List.length_cons]; omega

/-- A destination and what follows it. -/
def takeDestination? : Text → Option (Text × Text)
  | '<' :: t => (takeUntil? '>' ['<', '\n'] t).map fun (s, rest) => (unescape s, rest)
  | t => (takeBareDestination? 0 t).map fun (s, rest) => (unescape s, rest)

/-- What follows a title. -/
def skipTitle? : Text → Option Text
  | '"' :: t => (takeUntil? '"' [] t).map (·.2)
  | '\'' :: t => (takeUntil? '\'' [] t).map (·.2)
  | '(' :: t => (takeUntil? ')' ['('] t).map (·.2)
  | _ => none

/-- Where a link leads, by the text after its parenthesis, and what follows the closing one. -/
def takeInlineTarget? (t : Text) : Option (Text × Text) :=
  let t := t.dropWhile isBlankChar
  match t with
  | ')' :: rest => some ([], rest)
  | t =>
    (takeDestination? t).bind fun (url, rest) =>
      match rest.dropWhile isBlankChar with
      | ')' :: after => some (url, after)
      | title =>
        if rest.head?.any isBlankChar then
          (skipTitle? title).bind fun after =>
            match after.dropWhile isBlankChar with
            | ')' :: after => some (url, after)
            | _ => none
        else none

/-- What follows the end of a line on which there is nothing more. -/
def endOfLine? (t : Text) : Option Text :=
  match t.dropWhile isLineBlank with
  | [] => some []
  | '\n' :: t => some t
  | _ => none

/-- What follows a title that ends its line. -/
def titleLine? (t : Text) : Option Text :=
  let gap := skipGap t
  if gap.length = t.length then none else (skipTitle? gap).bind endOfLine?

/-- A definition: a label, and where it leads. -/
abbrev Definition := Text × Text

/-- The definition that a paragraph begins with, and what follows it. -/
def takeDefinition? : Text → Option (Definition × Text)
  | '[' :: t =>
    (takeLabel? t).bind fun (label, t) =>
      match t with
      | ':' :: t =>
        let dest := skipGap t
        if dest.isEmpty then none
        else (takeDestination? dest).bind fun (url, t) =>
          if url.isEmpty && dest.head? != some '<' then none
          else ((titleLine? t).or (endOfLine? t)).map fun rest => ((normalLabel label, url), rest)
      | _ => none
  | _ => none

/-- The definitions that a paragraph begins with, and the rest of it. -/
def takeDefinitions (t : Text) : List Definition × Text :=
  match takeDefinition? (t.dropWhile isLineBlank) with
  | none => ([], t)
  | some (d, rest) =>
    if _h : rest.length < t.length then
      let (more, rest) := takeDefinitions rest
      (d :: more, rest)
    else ([d], rest)
termination_by t.length

end CircuitHub.Markdown

import CircuitHub.Markdown.Emphasis
import CircuitHub.Markdown.Html

/-!
# Prose

Prose is read from left to right. Code, other markup and addresses in angle brackets bind closest,
then links, then emphasis. A bracket is remembered until another closes it and what follows decides
whether the two make a link.
-/

namespace CircuitHub.Markdown

/-- What has been read of some prose: pieces, and brackets that may open a link. -/
inductive Mark where
  /-- A piece. -/
  | piece (p : Piece)
  /-- Text that may go on, the last character first. -/
  | run (reversed : Text)
  /-- An opening bracket, with the text after it. One within which a link has been found opens
      only images. -/
  | bracket (isImage active : Bool) (source : Text)

namespace Mark

/-- A mark as a piece. A bracket that opened nothing is text. -/
def toPiece : Mark → Piece
  | piece p => p
  | run reversed => .inline (.text reversed.reverse)
  | bracket true _ _ => .inline (.text ['!', '['])
  | bracket false _ _ => .inline (.text ['['])

/-- The bracket that opens no link any more. -/
def deactivate : Mark → Mark
  | bracket false _ source => bracket false false source
  | m => m

/-- Text. -/
def text (t : Text) : Mark := piece (.inline (.text t))

end Mark

/-- The marks after the last bracket, in order, the bracket, and the marks before it, the last one
    first. -/
def splitBracket? (inner : List Mark) : List Mark → Option (List Mark × Mark × List Mark)
  | [] => none
  | .bracket i a s :: before => some (inner, .bracket i a s, before)
  | m :: before => splitBracket? (m :: inner) before

/-- Where the link leads that a closing bracket ends, and how many characters after the bracket
    belong to it. The label is what stands between the brackets. -/
def linkTarget? (definitions : List Definition) (label rest : Text) : Option (Text × Nat) :=
  let find (label : Text) : Option Text := definitions.lookup (normalLabel label)
  let inline? : Option (Text × Nat) := match rest with
    | '(' :: t => (takeInlineTarget? t).map fun r => (r.1, rest.length - r.2.length)
    | _ => none
  inline?.or (match rest with
    | '[' :: ']' :: _ => (find label).map (·, 2)
    | '[' :: t =>
      match takeLabel? t with
      | some (full, after) => (find full).map (·, rest.length - after.length)
      | none => (find label).map (·, 0)
    | _ => (find label).map (·, 0))

/-- The marks after a closing bracket, and how many characters after it belong to a link. -/
def closeBracket (definitions : List Definition) (marks : List Mark) (rest : Text) :
    List Mark × Nat :=
  match splitBracket? [] marks with
  | some (inner, .bracket isImage true source, before) =>
    let label := source.take (source.length - rest.length - 1)
    match linkTarget? definitions label rest with
    | some (url, n) =>
      let children := emphasize (inner.map Mark.toPiece)
      if isImage then (.piece (.inline (.image children)) :: before, n)
      else (.piece (.inline (.link url children)) :: before.map Mark.deactivate, n)
    | none =>
      let opened : Mark := .piece (Mark.bracket isImage true source).toPiece
      (.text [']'] :: inner.reverse ++ opened :: before, 0)
  | some (inner, bracket, before) =>
    (.text [']'] :: inner.reverse ++ .piece bracket.toPiece :: before, 0)
  | none => (.text [']'] :: marks, 0)

/-! ### Code, addresses and line breaks -/

/-- What stands before a run of exactly `n` grave accents. -/
def takeCode? (n : Nat) (t : Text) : Option Text :=
  match t with
  | [] => none
  | '\x60' :: t =>
    let run := t.takeWhile (· = '\x60')
    if run.length + 1 = n then some []
    else (takeCode? n (t.drop run.length)).map fun code =>
      '\x60' :: run ++ code
  | c :: t => (takeCode? n t).map (c :: ·)
termination_by t.length
decreasing_by all_goals simp only [List.length_cons, List.length_drop]; omega

/-- The content of a piece of code: line breaks are spaces, and one space at either side is
    dropped unless there is nothing else. -/
def codeContent (t : Text) : Text :=
  let t := t.map fun c => if c = '\n' then ' ' else c
  if t.head? = some ' ' && t.getLast? = some ' ' && t.any (· != ' ') then (t.drop 1).dropLast
  else t

/-- The address after an angle bracket: a scheme and what is not blank, or a mail address. -/
def takeAddress? (t : Text) : Option Text :=
  let address := t.takeWhile fun c => c != '>' && c != '<' && 0x20 < c.toNat
  if (t.drop address.length).head? != some '>' then none
  else
    let scheme := address.takeWhile fun c => c.isAlphanum || c = '+' || c = '.' || c = '-'
    let isScheme := scheme.head?.any Char.isAlpha && 2 ≤ scheme.length && scheme.length ≤ 32 &&
      (address.drop scheme.length).head? = some ':'
    let isUserChar (c : Char) : Bool := c.isAlphanum || ".!#$%&'*+/=?^_-\x60\x7b|\x7d~".toList.contains c
    let user := address.takeWhile isUserChar
    let host := address.drop (user.length + 1)
    let isHostLabel (label : Text) : Bool :=
      1 ≤ label.length && label.length ≤ 63 && label.all Html.isNameChar &&
        label.head? != some '-' && label.getLast? != some '-'
    let isMail := !user.isEmpty && (address.drop user.length).head? = some '@' &&
      (Text.splitAt (· = '.') host).all isHostLabel
    if isScheme || isMail then some address else none

/-- The marks with more text, which goes on the text before it. -/
def extend (marks : List Mark) (t : Text) : List Mark :=
  match marks with
  | .run reversed :: marks => .run (t.reverse ++ reversed) :: marks
  | marks => .run t.reverse :: marks

/-- The marks for what a text begins with, before those read so far, and how many characters they
    stand for after the first one. -/
def readMark (definitions : List Definition) (before? : Option Char) (marks : List Mark)
    (c : Char) (t : Text) : List Mark × Nat :=
  let inline (i : Inline) (n : Nat) : List Mark × Nat := (.piece (.inline i) :: marks, n)
  let plain : List Mark × Nat := (extend marks [c], 0)
  if c = '\\' then
    match t with
    | '\n' :: _ => inline .hardBreak 1
    | d :: _ => if isAsciiPunctuation d then (.run [d] :: marks, 1) else plain
    | [] => plain
  else if c = '\n' then inline .softBreak 0
  else if isTrailingBlank c then
    let blanks := t.takeWhile isTrailingBlank
    if (t.drop blanks.length).head? = some '\n' then
      inline (if blanks.isEmpty then .softBreak else .hardBreak) (blanks.length + 1)
    else (extend marks (c :: blanks), blanks.length)
  else if c = '\x60' then
    let run := t.takeWhile (· = '\x60')
    match takeCode? (run.length + 1) (t.drop run.length) with
    | some code => inline (.code (codeContent code)) (run.length + code.length + run.length + 1)
    | none => inline (.text (c :: run)) run.length
  else if c = '<' then
    match takeAddress? t with
    | some address => inline (.link address [.text address]) (address.length + 1)
    | none =>
      match Html.skipInline? t with
      | some rest =>
        let n := t.length - rest.length
        inline (.html (c :: t.take n)) n
      | none => inline (.text [c]) 0
  else if c = '&' then
    match takeReference? t with
    | some (s, n) => inline (.text s) n
    | none => plain
  else if c = '*' || c = '_' || c = '~' then
    let count := (t.takeWhile (· = c)).length + 1
    let after? := (t.drop (count - 1)).head?
    let opens := canOpen c count before? after?
    let closes := canClose c count before? after?
    if (opens || closes) && (c != '~' || count ≤ 2) then
      (.piece (.run ⟨c, count, count, opens, closes⟩) :: marks, count - 1)
    else (extend marks (List.replicate count c), count - 1)
  else if c = '!' && t.head? = some '[' then (.bracket true true (t.drop 1) :: marks, 1)
  else if c = '[' then (.bracket false true t :: marks, 0)
  else if c = ']' then closeBracket definitions marks t
  else plain

/-- The marks for a text, after those read so far, the last one first. -/
def readMarks (definitions : List Definition) (before? : Option Char) (marks : List Mark)
    (t : Text) : List Mark :=
  match t with
  | [] => marks
  | c :: t =>
    let (marks, n) := readMark definitions before? marks c t
    readMarks definitions ((c :: t.take n).getLast?) marks (t.drop n)
termination_by t.length
decreasing_by simp only [List.length_cons, List.length_drop]; omega

/-- The pieces of some prose, in a document with definitions. -/
def readInlines (definitions : List Definition) (t : Text) : List Inline :=
  emphasize ((readMarks definitions none [] t).reverse.map Mark.toPiece)

end CircuitHub.Markdown

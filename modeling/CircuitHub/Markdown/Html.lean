import CircuitHub.Markdown.Link

/-!
# Markup of another language within prose

Tags, comments, declarations and instructions are recognised and left as they are. Each function
gives what follows the piece it recognises at the beginning of a text.
-/

namespace CircuitHub.Markdown.Html

/-- A character of a tag's name, the first apart. -/
def isNameChar (c : Char) : Bool := c.isAlphanum || c = '-'

/-- What follows a tag's name. -/
def skipName? : Text → Option Text
  | c :: t => if c.isAlpha then some (t.dropWhile isNameChar) else none
  | [] => none

/-- What follows the value of an attribute. -/
def skipValue? : Text → Option Text
  | '"' :: t => (Text.cut? t ['"']).map (·.2)
  | '\'' :: t => (Text.cut? t ['\'']).map (·.2)
  | t =>
    let isValueChar (c : Char) : Bool :=
      !isBlankChar c && !(['"', '\'', '=', '<', '>', '\x60'].contains c)
    if t.head?.any isValueChar then some (t.dropWhile isValueChar) else none

/-- What follows the name of an attribute. -/
def skipKey? : Text → Option Text
  | c :: t =>
    if c.isAlpha || c = '_' || c = ':' then
      some (t.dropWhile fun c => c.isAlphanum || ['_', ':', '.', '-'].contains c)
    else none
  | [] => none

/-- What follows an attribute and the white space before it. -/
def skipAttribute? (t : Text) : Option Text :=
  if t.head?.any isBlankChar then
    (skipKey? (t.dropWhile isBlankChar)).bind fun t =>
      match t.dropWhile isBlankChar with
      | '=' :: v => skipValue? (v.dropWhile isBlankChar)
      | _ => some t
  else none

/-- What follows all attributes. -/
def skipAttributes (t : Text) : Text :=
  match skipAttribute? t with
  | none => t
  | some rest => if _h : rest.length < t.length then skipAttributes rest else rest
termination_by t.length

/-- What follows an opening tag, by the text after its bracket. -/
def skipOpening? (t : Text) : Option Text :=
  (skipName? t).bind fun t =>
    match (skipAttributes t).dropWhile isBlankChar with
    | '/' :: '>' :: rest => some rest
    | '>' :: rest => some rest
    | _ => none

/-- What follows a closing tag, by the text after its bracket. -/
def skipClosing? : Text → Option Text
  | '/' :: t =>
    (skipName? t).bind fun t =>
      match t.dropWhile isBlankChar with
      | '>' :: rest => some rest
      | _ => none
  | _ => none

/-- What follows a piece that begins with one mark and ends with another. -/
def skipBetween? (first last t : Text) : Option Text :=
  if first.isPrefixOf t then (Text.cut? (t.drop first.length) last).map (·.2) else none

/-- What follows a comment. -/
def skipComment? (t : Text) : Option Text :=
  if "!-->".toList.isPrefixOf t then some (t.drop 4)
  else if "!--->".toList.isPrefixOf t then some (t.drop 5)
  else skipBetween? "!--" "-->" t

/-- What follows a declaration. -/
def skipDeclaration? : Text → Option Text
  | '!' :: c :: t => if c.isAlpha then (Text.cut? t ['>']).map (·.2) else none
  | _ => none

/-- What follows any piece of the other language, by the text after its bracket. -/
def skipInline? (t : Text) : Option Text :=
  skipOpening? t |>.or (skipClosing? t) |>.or (skipComment? t) |>.or
    (skipBetween? "?" "?>" t) |>.or (skipBetween? "![CDATA[" "]]>" t) |>.or (skipDeclaration? t)

/-! ### Blocks -/

/-- What ends a block of the other language. -/
inductive Ending where
  /-- A line in which a mark occurs. -/
  | mark (mark : Text)
  /-- A blank line. -/
  | blank
  deriving DecidableEq, Repr

/-- The tags whose content is taken as it is up to their end. -/
def rawTags : List Text :=
  ["pre".toList, "style".toList, "script".toList, "textarea".toList]

/-- The tags that begin a block by themselves. -/
def blockTags : List Text := ([
  "address", "article", "aside", "base", "basefont", "blockquote", "body", "caption", "center",
  "col", "colgroup", "dd", "details", "dialog", "dir", "div", "dl", "dt", "fieldset",
  "figcaption", "figure", "footer", "form", "frame", "frameset", "h1", "h2", "h3", "h4", "h5",
  "h6", "head", "header", "hr", "html", "iframe", "legend", "li", "link", "main", "menu",
  "menuitem", "nav", "noframes", "ol", "optgroup", "option", "p", "param", "search", "section",
  "summary", "table", "tbody", "td", "tfoot", "th", "thead", "title", "tr", "track",
  "ul"] : List String).map String.toList

/-- A tag's name ends where this follows. -/
def endsName (t : Text) : Bool :=
  match t with
  | [] => true
  | '/' :: '>' :: _ => true
  | c :: _ => isBlankChar c || c = '>'

/-- The mark that ends the block which begins with a raw tag, a comment, an instruction, a piece of
    data or a declaration. -/
def endMark? (t : Text) : Option Text :=
  let raw? := rawTags.find? fun tag =>
    Text.lowerAscii (t.take tag.length) == tag &&
      ((t.drop tag.length).isEmpty ||
        (t.drop tag.length).head?.any fun c => isBlankChar c || c = '>')
  match raw? with
  | some tag => some ("</" ++ tag ++ ['>'])
  | none =>
    if "!--".toList.isPrefixOf t then some "-->"
    else if "?".toList.isPrefixOf t then some "?>"
    else if "![CDATA[".toList.isPrefixOf t then some "]]>"
    else if t.head? = some '!' && (t.drop 1).head?.any Char.isAlpha then some ">"
    else none

/-- The text begins with the name of a tag that begins a block. -/
def beginsBlockTag (t : Text) : Bool :=
  let t := if t.head? = some '/' then t.drop 1 else t
  let name := t.takeWhile Char.isAlphanum
  blockTags.contains (Text.lowerAscii name) && endsName (t.drop name.length)

/-- The text is one tag of any name. -/
def isLoneTag (t : Text) : Bool :=
  ((skipOpening? t).or (skipClosing? t)).any fun rest => rest.all isBlankChar

/-- What ends the block that a line begins after its bracket, if it begins one. A lone tag of any
    name begins one only where no paragraph is open. -/
def ending? (inParagraph : Bool) (t : Text) : Option Ending :=
  match endMark? t with
  | some mark => some (.mark mark)
  | none =>
    if beginsBlockTag t || (!inParagraph && isLoneTag t) then some .blank else none

/-- A line ends a block. -/
def Ending.isMetBy (e : Ending) (line : Text) : Bool :=
  match e with
  | mark m => line.contains m
  | blank => false

end CircuitHub.Markdown.Html

import CircuitHub.Markdown.Opening
import CircuitHub.Markdown.Tree

/-!
# Documents that are being read

A document is read line by line. A draft holds the blocks that are still open: those that hold
others, each within the next (`Level`), and at most one that holds lines. A line goes on some of the
open blocks, closes the others, and may begin new ones. Prose alone may go on where the blocks
around it do not.
-/

namespace CircuitHub.Markdown

/-- A line of a document, and whether it ends in a line break. -/
structure SourceLine where
  /-- The text without the break. -/
  text : Text
  /-- There is a break. -/
  broken : Bool
  deriving DecidableEq, Repr

/-- The lines of a document. -/
def sourceLines (t : Text) : List SourceLine :=
  let t : Text := (t.replaceAll ['\r', '\n'] ['\n']).map fun c => if c = '\r' then '\n' else c
  let pieces := Text.splitLines t
  let last := pieces.getLast?.getD []
  pieces.dropLast.map (⟨·, true⟩) ++ (if last.isEmpty then [] else [⟨last, false⟩])

/-- An open block that holds others. -/
inductive Container where
  | quote
  /-- A list of items that have one mark. -/
  | list (mark : Char) (start? : Option Nat) (loose : Bool)
  /-- An item whose blocks are indented. It is fresh while nothing has followed its mark. -/
  | item (indent : Nat) (task? : Option Bool) (fresh : Bool)
  deriving DecidableEq, Repr

/-- An open block with the blocks in it that are done, the last one first. -/
structure Level where
  /-- The block. -/
  container : Container
  /-- The blocks in it. -/
  children : List Block

/-- The block when it is closed. -/
def Level.block (l : Level) : Block :=
  match l.container with
  | .quote => .quote l.children.reverse
  | .list _ start? loose => .list loose start? l.children.reverse
  | .item _ task? _ => .item task? l.children.reverse

/-- An open block that holds lines, the last one first. -/
inductive OpenLeaf where
  | paragraph (lines : List Text)
  /-- Code between fences, the first of which is indented. -/
  | fenced (fence : Fence) (indent : Nat) (lines : List Text)
  /-- Code that is indented. -/
  | indented (lines : List Text)
  /-- Lines of another language. -/
  | html (ending : Html.Ending) (lines : List Text)
  deriving DecidableEq, Repr

/-- A document as far as it has been read. -/
structure Draft where
  /-- The open blocks that hold others, the innermost first. -/
  levels : List Level
  /-- The blocks of the document that are done, the last one first. -/
  base : List Block
  /-- The open block that holds lines. -/
  leaf? : Option OpenLeaf
  /-- A blank line has just been read. -/
  afterBlank : Bool
  /-- Where labels lead. -/
  definitions : List Definition

namespace Draft

/-- Nothing read. -/
def start : Draft := ⟨[], [], none, false, []⟩

/-- The draft with one more block that is done. -/
def push (d : Draft) (b : Block) : Draft :=
  match d.levels with
  | [] => { d with base := b :: d.base }
  | l :: levels => { d with levels := { l with children := b :: l.children } :: levels }

/-- The draft with one more block that holds no others. -/
def pushLeaf (d : Draft) (l : Leaf) : Draft := d.push (.leaf l)

/-! ### Closing -/

/-- Lines one below the other, each with a line break. -/
def joinLines (lines : List Text) : Text := lines.flatMap (· ++ ['\n'])

/-- Lines of prose, from the last one, with line breaks between them. -/
def proseOf (lines : List Text) : Text :=
  Text.dropEndWhile isTrailingBlank (lines.reverse.intersperse ['\n']).flatten

/-- The draft without an open block that holds lines. Prose may begin with definitions, and code
    that is indented does not end in blank lines. -/
def closeLeaf (d : Draft) : Draft :=
  match d.leaf? with
  | none => d
  | some leaf =>
    let d := { d with leaf? := none }
    match leaf with
    | .paragraph lines =>
      let (definitions, prose) := takeDefinitions (proseOf lines)
      let d := { d with definitions := d.definitions ++ definitions }
      if prose.isEmpty then d else d.pushLeaf (.paragraph prose)
    | .fenced fence _ lines => d.pushLeaf (.code (some fence.info) (joinLines lines.reverse))
    | .indented lines =>
      d.pushLeaf (.code none (joinLines (lines.dropWhile isBlankLine).reverse))
    | .html _ lines => d.pushLeaf (.html lines.reverse)

/-- The draft without the innermost of the open blocks that hold others. -/
def closeLevel (d : Draft) : Draft :=
  match d.levels with
  | [] => d
  | l :: levels => { d with levels }.push l.block

/-- The draft with only the outermost `n` blocks left open. -/
def closeTo (d : Draft) (n : Nat) : Draft :=
  (List.replicate (d.levels.length - n) ()).foldl (fun d _ => d.closeLevel) d.closeLeaf

/-! ### Opening -/

/-- The list around the innermost item is loose. -/
def loosen (d : Draft) : Draft :=
  match d.levels with
  | item :: ⟨.list mark start? _, items⟩ :: levels =>
    { d with levels := item :: ⟨.list mark start? true, items⟩ :: levels }
  | _ => d

/-- The draft before a block that is no item of the innermost list: that list is closed, and a
    blank line before the block makes the list around it loose. -/
def beginBlock (d : Draft) : Draft :=
  let d := match d.levels with
    | ⟨.item indent task? _, children⟩ :: levels =>
      { d with levels := ⟨.item indent task? false, children⟩ :: levels }
    | ⟨.list _ _ _, _⟩ :: _ => d.closeLevel
    | _ => d
  if d.afterBlank then { d.loosen with afterBlank := false } else d

/-- The draft with one more open block. -/
def pushLevel (d : Draft) (c : Container) : Draft := { d with levels := ⟨c, []⟩ :: d.levels }

/-- The draft with an item begun, in the innermost list if the marks agree. A blank line before the
    item makes that list loose. -/
def pushItem (d : Draft) (b : Bullet) (indent : Nat) : Draft :=
  let item : Container := .item indent none true
  match d.levels with
  | ⟨.list mark start? loose, items⟩ :: levels =>
    if mark = b.mark then
      { d with
        levels := ⟨item, []⟩ :: ⟨.list mark start? (loose || d.afterBlank), items⟩ :: levels
        afterBlank := false }
    else (d.beginBlock.pushLevel (.list b.mark b.start? false)).pushLevel item
  | _ => (d.beginBlock.pushLevel (.list b.mark b.start? false)).pushLevel item

/-- The innermost item is a task. -/
def setTask (d : Draft) (done : Bool) : Draft :=
  match d.levels with
  | ⟨.item indent _ fresh, children⟩ :: levels =>
    { d with levels := ⟨.item indent (some done) fresh, children⟩ :: levels }
  | _ => d

/-- The draft after a blank line. An item cannot begin with two of them, and those within a quote
    do not set anything apart. -/
def blank (d : Draft) : Draft :=
  match d.levels with
  | ⟨.quote, _⟩ :: _ => d
  | ⟨.item _ _ true, _⟩ :: _ => { d.closeLevel with afterBlank := true }
  | _ => { d with afterBlank := true }

/-- The draft with a block begun that holds lines, by what is left of a line. -/
def beginLeaf (d : Draft) (l : Indent) (broken : Bool) : Draft :=
  if isBlankLine l.content then d.blank
  else
    let d := d.beginBlock
    if 4 ≤ l.width then { d with leaf? := some (.indented [(l.dropColumns 4).padded]) }
    else
      let t := l.content
      let html? := if t.head? = some '<' then Html.ending? false (t.drop 1) else none
      match html? with
      | some ending =>
        let line := List.replicate l.width ' ' ++ t ++ if broken then ['\n'] else []
        let leaf := OpenLeaf.html ending [line]
        let d := { d with leaf? := some leaf }
        if ending.isMetBy line then d.closeLeaf else d
      | none =>
        if isRule t then d.pushLeaf .rule
        else match takeHeading? t with
          | some (level, prose) => d.pushLeaf (.heading level prose)
          | none =>
            match takeFence? t with
            | some fence => { d with leaf? := some (.fenced fence l.width []) }
            | none => { d with leaf? := some (.paragraph [t]) }

/-- What is left of a line after the mark of an item, and the columns by which the blocks of the
    item are indented: as the first of them is, unless it is far away. -/
def afterBullet (l : Indent) (b : Bullet) : Indent × Nat :=
  let rest := (l.dropMark b.length).dropColumns 1
  let gap := if rest.isBlank || 4 ≤ rest.width then 0 else rest.width
  (rest.dropColumns gap, l.width + b.length + 1 + gap)

theorem afterBullet_length_lt {l : Indent} {b : Bullet} (h : takeBullet? l.content = some b) :
    (afterBullet l b).1.text.length < l.text.length := by
  obtain ⟨hb, hl⟩ := takeBullet?_length_pos h
  have h₁ := l.dropMark_length_lt hb hl
  have h₂ := (l.dropMark b.length).dropColumns_length_le 1
  have h₃ := ((l.dropMark b.length).dropColumns 1).dropColumns_length_le
  unfold afterBullet
  exact Nat.lt_of_le_of_lt (h₃ _) (Nat.lt_of_le_of_lt h₂ h₁)

/-- What is left of a line after the box of a task. -/
def afterTask (l : Indent) : Indent := l.dropMark 3

theorem afterTask_length_le (l : Indent) : (afterTask l).text.length ≤ l.text.length := by
  have := l.content_length_le
  simp only [afterTask, Indent.dropMark, List.length_drop]
  omega

/-- What is left of a line after the mark of a quote. -/
def afterQuote (l : Indent) : Indent := (l.dropMark 1).dropColumns 1

theorem afterQuote_length_lt {l : Indent} (h : l.content.head? = some '>') :
    (afterQuote l).text.length < l.text.length := by
  have hl : l.content ≠ [] := by rintro h'; rw [h'] at h; cases h
  exact Nat.lt_of_le_of_lt (Indent.dropColumns_length_le _ _) (l.dropMark_length_lt (by simp) hl)

/-- The draft with the blocks begun that what is left of a line begins. -/
def begin (d : Draft) (l : Indent) (broken : Bool) : Draft :=
  if 4 ≤ l.width then d.beginLeaf l broken
  else
    match _hb : takeBullet? l.content with
    | some b =>
      let rest := (afterBullet l b).1
      let d := d.pushItem b (afterBullet l b).2
      if isBlankLine rest.content then d
      else
        match takeTask? rest.content with
        | some done =>
          let d := d.setTask done
          if isBlankLine (afterTask rest).content then d else begin d (afterTask rest) broken
        | none => begin d rest broken
    | none =>
      if _hq : l.content.head? = some '>' then
        begin (d.beginBlock.pushLevel .quote) (afterQuote l) broken
      else d.beginLeaf l broken
termination_by l.text.length
decreasing_by
  · exact Nat.lt_of_le_of_lt (afterTask_length_le _) (afterBullet_length_lt _hb)
  · exact afterBullet_length_lt _hb
  · exact afterQuote_length_lt _hq

/-! ### Lines -/

/-- What is left of a line after what makes it go on a block, if it does. -/
def Container.rest? (c : Container) (l : Indent) : Option Indent :=
  match c with
  | .quote => if l.width < 4 && l.content.head? = some '>' then some (afterQuote l) else none
  | .list _ _ _ => some l
  | .item indent _ _ =>
    if indent ≤ l.width || isBlankLine l.content then some (l.dropColumns indent) else none

/-- How many of some blocks, the outermost first, a line goes on, and what is left of it. -/
def matchLevels (l : Indent) : List Level → Nat × Indent
  | [] => (0, l)
  | level :: levels =>
    match Container.rest? level.container l with
    | none => (0, l)
    | some l =>
      let (n, l) := matchLevels l levels
      (n + 1, l)

/-- The draft after one more line, with the line after it at hand. -/
def read (d : Draft) (line : SourceLine) (next? : Option Text) : Draft :=
  let (kept, l) := matchLevels (.ofLine line.text) d.levels.reverse
  let same := kept = d.levels.length
  let anew := (d.closeTo kept).begin l line.broken
  let goOn (leaf : OpenLeaf) : Draft := { d with leaf? := some leaf }
  match d.leaf? with
  | none => anew
  | some (.fenced fence indent lines) =>
    if !same then anew
    else
      let l := l.dropColumns indent
      if l.width + indent < 4 && fence.isClosedBy l.content then d.closeLeaf
      else goOn (.fenced fence indent (l.padded :: lines))
  | some (.indented lines) =>
    if same && (4 ≤ l.width || isBlankLine l.content) then
      { goOn (.indented ((l.dropColumns 4).padded :: lines)) with
        afterBlank := isBlankLine l.content }
    else anew
  | some (.html ending lines) =>
    if !same || (ending = .blank && isBlankLine l.content) then anew
    else
      let text := l.padded ++ if line.broken then ['\n'] else []
      let d := goOn (.html ending (text :: lines))
      if ending.isMetBy text then d.closeLeaf else d
  | some (.paragraph lines) =>
    let t := l.content
    let prose := (takeDefinitions (proseOf lines)).2
    if isBlankLine t then anew
    else if l.width < 4 then
      match if same && !prose.isEmpty then underlineLevel? t else none with
      | some level =>
        let definitions := (takeDefinitions (proseOf lines)).1
        { d with leaf? := none, definitions := d.definitions ++ definitions }.pushLeaf
          (.heading level prose)
      | none => if interrupts same t next? then anew else goOn (.paragraph (t :: lines))
    else goOn (.paragraph (t :: lines))

/-- The draft after some lines. -/
def readAll (d : Draft) : List SourceLine → Draft
  | [] => d
  | line :: lines => (d.read line (lines.head?.map (·.text))).readAll lines

/-- The blocks of a draft to which no line will be added, and its definitions. -/
def finish (d : Draft) : List Block × List Definition :=
  let d := d.closeTo 0
  (d.base.reverse, d.definitions)

end Draft

end CircuitHub.Markdown

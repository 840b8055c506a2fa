import CircuitHub.Text.Basic

/-!
# Documents

A document of light markup is a tree of blocks, and a block of prose is a sequence of inline
pieces. A reader that shows a document takes it as a sequence of events: what opens and closes, and
what stands between.

A list is *loose* when blank lines set its items or the blocks in them apart. Only in loose lists
are paragraphs told from the text around them.
-/

namespace CircuitHub.Markdown

/-- How a stretch of text stands out. -/
inductive Accent where
  | emphasis
  | strong
  | strikethrough
  deriving DecidableEq, Repr

/-- A piece of prose. -/
inductive Inline where
  /-- Text as it is. -/
  | text (t : Text)
  /-- A piece of code. -/
  | code (t : Text)
  /-- Markup of another language. -/
  | html (t : Text)
  /-- The end of a line that does not matter. -/
  | softBreak
  /-- The end of a line that does. -/
  | hardBreak
  /-- Prose that stands out. -/
  | accent (kind : Accent) (children : List Inline)
  /-- Prose that leads elsewhere. -/
  | link (url : Text) (children : List Inline)
  /-- A picture, by the prose that describes it. -/
  | image (children : List Inline)

/-- A block that holds no other blocks. -/
inductive Leaf where
  /-- Prose, before it is taken apart. -/
  | paragraph (content : Text)
  /-- A heading, from the first level to the sixth. -/
  | heading (level : Nat) (content : Text)
  /-- A line across the page. -/
  | rule
  /-- Lines of code. Fenced code says what it is. -/
  | code (info? : Option Text) (body : Text)
  /-- Lines of another language. -/
  | html (lines : List Text)
  deriving DecidableEq, Repr

/-- A block. -/
inductive Block where
  | leaf (leaf : Leaf)
  | quote (children : List Block)
  /-- An item of a list. Where it is a task, it says whether the task is done. -/
  | item (task? : Option Bool) (children : List Block)
  /-- A list, numbered from a start or not at all. -/
  | list (loose : Bool) (start? : Option Nat) (items : List Block)

/-! ### Events -/

/-- What has a beginning and an end. -/
inductive Tag where
  | paragraph
  | heading (level : Nat)
  | quote
  | code (info? : Option Text)
  | html
  | list (start? : Option Nat)
  | item
  | accent (kind : Accent)
  | link (url : Text)
  | image
  deriving DecidableEq, Repr

/-- What a reader of a document meets. -/
inductive Event where
  | opened (tag : Tag)
  | closed (tag : Tag)
  | text (t : Text)
  /-- A piece of code within prose. -/
  | code (t : Text)
  /-- Markup of another language. -/
  | html (t : Text)
  | softBreak
  | hardBreak
  | rule
  /-- The box of a task. -/
  | task (done : Bool)
  deriving DecidableEq, Repr

/-- Events between the beginning and the end of a tag. -/
def Tag.around (tag : Tag) (events : List Event) : List Event :=
  .opened tag :: events ++ [.closed tag]

namespace Inline

mutual

/-- The events of a piece of prose. -/
def events : Inline → List Event
  | text t => [.text t]
  | code t => [.code t]
  | html t => [.html t]
  | softBreak => [.softBreak]
  | hardBreak => [.hardBreak]
  | accent kind children => (Tag.accent kind).around (eventsOfList children)
  | link url children => (Tag.link url).around (eventsOfList children)
  | image children => Tag.image.around (eventsOfList children)

/-- The events of pieces of prose, one after the other. -/
def eventsOfList : List Inline → List Event
  | [] => []
  | i :: inlines => i.events ++ eventsOfList inlines

end

end Inline

/-- The events of a block without others in it. Paragraphs of lists that are not loose have no
    beginning and no end. -/
def Leaf.events (read : Text → List Inline) (loose : Bool) : Leaf → List Event
  | paragraph content =>
    let events := Inline.eventsOfList (read content)
    if loose then Tag.paragraph.around events else events
  | heading level content => (Tag.heading level).around (Inline.eventsOfList (read content))
  | rule => [.rule]
  | code info? body => (Tag.code info?).around (if body.isEmpty then [] else [.text body])
  | html lines => Tag.html.around (lines.map .html)

namespace Block

mutual

/-- The events of a block. Its paragraphs have a beginning and an end if `loose`. -/
def events (read : Text → List Inline) (loose : Bool) : Block → List Event
  | leaf l => l.events read loose
  | quote children => Tag.quote.around (eventsOfList read true children)
  | item task? children =>
    Tag.item.around ((task?.map Event.task).toList ++ eventsOfList read loose children)
  | list loose start? items => (Tag.list start?).around (eventsOfList read loose items)

/-- The events of blocks, one after the other. -/
def eventsOfList (read : Text → List Inline) (loose : Bool) : List Block → List Event
  | [] => []
  | b :: blocks => b.events read loose ++ eventsOfList read loose blocks

end

end Block

end CircuitHub.Markdown

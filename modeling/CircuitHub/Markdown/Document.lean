import CircuitHub.Markdown.Draft
import CircuitHub.Markdown.Inline

/-!
# Documents as events

A document is read into blocks first and into prose afterwards, because a label may be defined
below the prose that uses it.
-/

namespace CircuitHub.Markdown

/-- The events of a document. -/
def events (t : Text) : List Event :=
  let (blocks, definitions) := (Draft.start.readAll (sourceLines t)).finish
  Block.eventsOfList (readInlines definitions) true blocks

end CircuitHub.Markdown

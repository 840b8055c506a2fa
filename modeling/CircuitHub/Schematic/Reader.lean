import CircuitHub.Markup.Event
import CircuitHub.Schematic.PathData

/-!
# Reading schematics

A schematic is read from marked-up text. Six kinds of elements leave strokes, text elements leave
labels, and the first outermost element with a size fixes the view. All other elements are passed
over, though their attributes have to be well formed.
-/

namespace CircuitHub

/-- Why a text is no schematic. -/
inductive SchematicError where
  /-- The markup is malformed. -/
  | malformed (cause : Markup.Malformed)
  /-- Path data or a list of points cannot be read. -/
  | pathData (cause : Path.PathError)
  /-- There is nothing to draw. -/
  | empty
  deriving DecidableEq, Repr

/-- Why a text is no schematic, in words. -/
def SchematicError.message : SchematicError → Text
  | malformed cause => "malformed markup: " ++ cause.message
  | pathData cause => "invalid path data: " ++ cause.message
  | empty => "no drawable elements"

namespace Schematic

open Markup

/-! ### Attributes -/

/-- The attributes of one element, each name with its value. -/
abbrev Attributes := List (Text × Text)

/-- The value of the first attribute of a name. -/
def Attributes.value? (attributes : Attributes) (name : Text) : Option Text :=
  attributes.lookup name

/-- The text without the units it ends in. -/
def dropUnits (t : Text) : Text :=
  if h : ['p', 'x'].isSuffixOf t then dropUnits (t.take (t.length - 2)) else t
termination_by t.length
decreasing_by
  have := (List.isSuffixOf_iff_suffix.1 h).length_le
  simp only [List.length_cons, List.length_nil] at this
  simp only [List.length_take]
  omega

/-- The value of an attribute as a number. A missing value and one that is no number are zero. -/
def Attributes.number (attributes : Attributes) (name : Text) : Float :=
  ((attributes.value? name).bind fun v => readFloat? (dropUnits v.trim)).getD 0

/-- The numbers among the words of a text, which white space and commas separate. -/
def floatWords (t : Text) : List Float :=
  (t.splitAt fun c => isSpace c || c = ',').filterMap fun word =>
    if word.isEmpty then none else readFloat? word

/-- The view that four numbers give, if it has a size. -/
def viewBoxOf? : List Float → Option ViewBox
  | [minX, minY, width, height] =>
    if 0 < width && 0 < height then some ⟨minX, minY, width, height⟩ else none
  | _ => none

/-- The view that the attributes of an outermost element fix: the one they state, and else the one
    from the origin with the width and height of the drawing. -/
def Attributes.viewBox? (attributes : Attributes) : Option ViewBox :=
  (((attributes.value? "viewBox").bind fun v => viewBoxOf? (floatWords v))).or
    (viewBoxOf? [0, 0, attributes.number "width", attributes.number "height"])

/-! ### Elements -/

/-- The number of sides that stand for a circle. -/
def circleSides : Nat := 24

/-- The angle of a full turn. -/
def fullTurn : Float := Float.ofBits 0x401921FB54442D18

/-- The corners that stand for a circle. -/
def circleCorners (cx cy r : Float) : List Point :=
  (List.range circleSides).map fun i =>
    let angle := i.toFloat / circleSides.toFloat * fullTurn
    ⟨cx + r * angle.cos, cy + r * angle.sin⟩

/-- The strokes of a path or a list of points. -/
def pathStrokes (data? : Option Text) (read : Text → Except Path.PathError (List Stroke)) :
    Except SchematicError (List Stroke) :=
  match data? with
  | none => .ok []
  | some data => (read data).mapError .pathData

/-- The strokes of an element. -/
def elementStrokes (name : Text) (a : Attributes) : Except SchematicError (List Stroke) :=
  if name == "path".toList then pathStrokes (a.value? "d") Path.trace
  else if name == "line".toList then
    .ok [⟨⟨a.number "x1", a.number "y1"⟩, ⟨a.number "x2", a.number "y2"⟩⟩]
  else if name == "polyline".toList then
    pathStrokes (a.value? "points") fun data => (Path.points data).map strokesAlong
  else if name == "polygon".toList then
    pathStrokes (a.value? "points") fun data => (Path.points data).map strokesAround
  else if name == "rect".toList then
    let (x, y, w, h) := (a.number "x", a.number "y", a.number "width", a.number "height")
    .ok (strokesAround [⟨x, y⟩, ⟨x + w, y⟩, ⟨x + w, y + h⟩, ⟨x, y + h⟩])
  else if name == "circle".toList then
    .ok (strokesAround (circleCorners (a.number "cx") (a.number "cy") (a.number "r")))
  else .ok []

/-- What has been read of a schematic. -/
structure Draft where
  /-- The view, once an outermost element has fixed one. -/
  viewBox? : Option ViewBox
  /-- The strokes so far. -/
  strokes : List Stroke
  /-- The labels so far. -/
  labels : List Label
  /-- The text element that is open, with its text so far. -/
  openLabel? : Option Label

namespace Draft

/-- Nothing read. -/
def empty : Draft := ⟨none, [], [], none⟩

/-- The draft after the tag of an element. -/
def element (draft : Draft) (name : Text) (a : Attributes) : Except SchematicError Draft :=
  if name == "svg".toList then .ok { draft with viewBox? := draft.viewBox?.or a.viewBox? }
  else (elementStrokes name a).map fun strokes => { draft with strokes := draft.strokes ++ strokes }

/-- The draft after a tag. -/
def tag (draft : Draft) (tag : Tag) (opens : Bool) : Except SchematicError Draft := do
  let attributes ← tag.readAttributes.mapError .malformed
  let name := localName tag.name
  let draft ← draft.element name attributes
  if opens && name == "text".toList then
    let position : Point := ⟨Attributes.number attributes "x", Attributes.number attributes "y"⟩
    return { draft with openLabel? := some ⟨position, []⟩ }
  return draft

/-- The draft after some text: it goes to the label that is open, a space before it if there is
    text already. -/
def text (draft : Draft) (t : Text) : Draft :=
  match draft.openLabel? with
  | none => draft
  | some label =>
    let gap : Text := if label.text.isEmpty then [] else [' ']
    { draft with openLabel? := some { label with text := label.text ++ gap ++ t.trim } }

/-- The draft after a closing tag. A label without text is dropped. -/
def close (draft : Draft) (name : Text) : Draft :=
  if localName name == "text".toList then
    let labels := draft.openLabel?.toList.filter (!·.text.isBlank)
    { draft with labels := draft.labels ++ labels, openLabel? := none }
  else draft

/-- The draft after an event. -/
def event (draft : Draft) : Markup.Event → Except SchematicError Draft
  | .opened tag => draft.tag tag true
  | .whole tag => draft.tag tag false
  | .text t => .ok (draft.text t)
  | .closed name => .ok (draft.close name)
  | .skipped => .ok draft

/-- The schematic that has been read, if it shows anything. -/
def finish (draft : Draft) : Except SchematicError Schematic :=
  if draft.strokes.isEmpty && draft.labels.isEmpty then .error .empty
  else .ok ⟨draft.viewBox?.getD (ViewBox.around draft.strokes), draft.strokes, draft.labels⟩

end Draft

/-- The schematic that a draft becomes by what a reader still meets. -/
def readFrom (draft : Draft) (reader : Reader) : Except SchematicError Schematic :=
  match _h : reader.next with
  | .error e => .error (.malformed e)
  | .ok none => draft.finish
  | .ok (some (event, reader)) =>
    match draft.event event with
    | .error e => .error e
    | .ok draft => readFrom draft reader
termination_by reader.rest.length
decreasing_by exact Reader.next_length_lt _h

/-- The schematic that a text describes. -/
def read (markup : Text) : Except SchematicError Schematic :=
  readFrom Draft.empty (Reader.start markup)

end Schematic

end CircuitHub

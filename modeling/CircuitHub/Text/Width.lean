import CircuitHub.Number.Total
import CircuitHub.Text.Basic
import CircuitHub.Text.Table.Width

/-!
# Display width

A character takes up no column, one or two. A cluster of characters that are drawn as one takes up
the columns of its characters, except that a picture joined from several takes up two.
-/

namespace CircuitHub

/-- The columns of a character that is drawn by itself. -/
def glyphWidth (c : Char) : Nat :=
  if c.toNat < 0xAD then 1
  else if Table.zeroWidth.mem c then 0
  else if Table.doubleWidth.mem c then 2
  else 1

/-- The columns of a character. Controls take up none. -/
def charWidth (c : Char) : Nat := if isControl c then 0 else glyphWidth c

theorem charWidth_le_two (c : Char) : charWidth c ≤ 2 := by
  rw [charWidth, glyphWidth]
  repeat' split
  all_goals decide

/-- The columns of the characters of a text, each by itself. -/
def Text.columns (t : Text) : Nat := total (t.map charWidth)

/-- What the characters to the right of a position make of the character before it. -/
inductive WidthContext where
  /-- Nothing. -/
  | plain
  /-- A mark that makes it a picture; `joined` if a joined picture follows the mark. -/
  | picture (joined : Bool)
  /-- A mark that makes it text. -/
  | letter
  /-- A skin tone. -/
  | tone
  /-- A picture, whose columns have been counted. -/
  | pictured
  /-- A joiner and a picture. -/
  | joined
  deriving DecidableEq, Repr

/-- A skin tone. -/
def isTone (c : Char) : Bool := 0x1F3FB ≤ c.toNat && c.toNat ≤ 0x1F3FF

/-- The columns of a character that nothing to its right changes, and what it makes of the one
    before it. -/
def plainWidth (c : Char) : Nat × WidthContext :=
  let context : WidthContext :=
    if isTone c then .tone else if Table.emojiPresentation.mem c then .pictured else .plain
  (glyphWidth c, context)

/-- The columns of a character before others, and what it makes of the one before it. -/
def widthBefore (c : Char) (context : WidthContext) : Nat × WidthContext :=
  match context with
  | .picture joined =>
    if Table.emoji.mem c then (if joined then 0 else 2, .pictured) else plainWidth c
  | context =>
    if c.toNat ≤ 0xA0 then (1, .plain)
    else if c = '\uFE0F' then (0, .picture (context = .joined))
    else if c = '\uFE0E' then (0, .letter)
    else match context with
      | .letter => if Table.emojiPresentation.mem c then (1, .plain) else plainWidth c
      | .tone =>
        if Table.emojiModifierBase.mem c then (0, .pictured)
        else if c = '\u200D' then (0, .joined)
        else plainWidth c
      | .pictured => if c = '\u200D' then (0, .joined) else plainWidth c
      | .joined =>
        if isTone c then (0, .tone)
        else if Table.emojiPresentation.mem c then (0, .pictured)
        else plainWidth c
      | _ => plainWidth c

/-- The columns of a text that is drawn as a whole. -/
def Text.displayWidth (t : Text) : Nat :=
  (t.foldr (fun c (width, context) =>
    let (w, context) := widthBefore c context
    (width + w, context)) (0, WidthContext.plain)).1

end CircuitHub

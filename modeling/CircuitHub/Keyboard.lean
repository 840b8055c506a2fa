import CircuitHub.Text.Basic

/-!
# Keys and events

A key press means an event of the hub or nothing. Releases of keys mean nothing, so that a
terminal that reports them does not double every stroke.
-/

namespace CircuitHub

/-- Something that the user does. -/
inductive Event where
  /-- Leave the hub. -/
  | quit
  /-- Go to the next view. -/
  | nextView
  /-- Go to the view before. -/
  | prevView
  /-- Go to a view by its place in the order. -/
  | selectView (index : Nat)
  /-- Send what has been typed. -/
  | submit
  /-- Begin a new line. -/
  | newLine
  /-- Check what has been typed. -/
  | validate
  /-- Type a character. -/
  | type (c : Char)
  /-- Put in a text at once. -/
  | paste (t : Text)
  /-- Delete the character before the cursor. -/
  | backspace
  /-- Delete the character after the cursor. -/
  | delete
  | cursorLeft
  | cursorRight
  | cursorHome
  | cursorEnd
  | scrollUp
  | scrollDown
  | scrollPageUp
  | scrollPageDown
  | scrollToBottom
  /-- The screen has another size. -/
  | resize
  deriving DecidableEq, Repr

/-- A key of the keyboard. -/
inductive Key where
  /-- A key that types a character. -/
  | char (c : Char)
  /-- A function key by its number. -/
  | function (n : Nat)
  | enter
  | escape
  | tab
  | backTab
  | backspace
  | delete
  | left
  | right
  | up
  | down
  | home
  | endKey
  | pageUp
  | pageDown
  /-- A key without a meaning here. -/
  | other
  deriving DecidableEq, Repr

/-- A key held down while another is pressed. -/
inductive Modifier where
  | control
  | shift
  | alt
  | superKey
  | hyperKey
  | metaKey
  deriving DecidableEq, Repr

/-- What happens to a key. -/
structure KeyStroke where
  /-- The key. -/
  key : Key
  /-- The keys held down. -/
  modifiers : List Modifier
  /-- The key is let go. -/
  isRelease : Bool
  deriving DecidableEq, Repr

namespace KeyStroke

/-- Exactly this key is held down. -/
def holdsOnly (s : KeyStroke) (m : Modifier) : Bool :=
  s.modifiers.contains m && s.modifiers.all (· == m)

/-- What a key means by itself, whatever is held down. -/
def plainEvent? : Key → Option Event
  | .escape => some .quit
  | .tab => some .nextView
  | .backTab => some .prevView
  | .function n => if 1 ≤ n && n ≤ 5 then some (.selectView (n - 1)) else none
  | .enter => some .submit
  | .backspace => some .backspace
  | .delete => some .delete
  | .left => some .cursorLeft
  | .right => some .cursorRight
  | .home => some .cursorHome
  | .endKey => some .cursorEnd
  | .up => some .scrollUp
  | .down => some .scrollDown
  | .pageUp => some .scrollPageUp
  | .pageDown => some .scrollPageDown
  | .char _ | .other => none

/-- What a key press means. A few keys mean something else with exactly one other key held down,
    and a character is typed unless it makes a command. -/
def event? (s : KeyStroke) : Option Event :=
  if s.isRelease then none
  else match s.key with
    | .char c =>
      if s.holdsOnly .control && c = 'c' then some .quit
      else if s.holdsOnly .control && c = 'j' then some .newLine
      else if s.holdsOnly .control && c = 's' then some .validate
      else if s.modifiers.contains .control || s.modifiers.contains .alt then none
      else some (.type c)
    | .enter => if s.holdsOnly .shift then some .newLine else some .submit
    | .endKey => if s.holdsOnly .control then some .scrollToBottom else some .cursorEnd
    | key => plainEvent? key

end KeyStroke

end CircuitHub

import CircuitHub.Text.Basic

/-!
# Conversations

A conversation is a list of messages that only grows. It begins with a welcome and holds, in
turns, what the user asks and what the model replies.
-/

namespace CircuitHub

/-- Who speaks. -/
inductive Role where
  | user
  | model
  deriving DecidableEq, Inhabited, Repr

/-- The name of a speaker. -/
def Role.label : Role → Text
  | user => "You"
  | model => "Legion AI"

/-- A time of the day, in seconds. -/
abbrev Clock := Nat

/-- Two digits for hours and minutes. -/
def twoDigits (n : Nat) : Text := [Nat.digitChar (n / 10 % 10), Nat.digitChar (n % 10)]

/-- Hours and minutes of a time. -/
def Clock.hoursMinutes (clock : Clock) : Text :=
  twoDigits (clock / 3600 % 24) ++ ':' :: twoDigits (clock / 60 % 60)

/-- Something said. -/
structure Message where
  /-- Who says it. -/
  role : Role
  /-- What is said: prose, with code between fences. -/
  content : Text
  /-- When it is said. -/
  sentAt : Clock
  deriving DecidableEq, Repr

/-- The first words of every conversation. -/
def welcome : Text :=
  "I am the Legion AI Assistant. Describe a circuit or component, and I will generate the " ++
    "specifications and netlist for you."

/-- What has been said: a first message, and those after it. -/
structure Conversation where
  /-- The message that is always there. -/
  first : Message
  /-- The messages after it, in order. -/
  later : List Message
  deriving DecidableEq, Repr

namespace Conversation

/-- A conversation in which nothing but the welcome has been said. -/
def start (clock : Clock) : Conversation := ⟨⟨.model, welcome, clock⟩, []⟩

/-- All messages, in order. -/
def messages (c : Conversation) : List Message := c.first :: c.later

/-- The conversation with one more message at its end. -/
def append (c : Conversation) (m : Message) : Conversation := { c with later := c.later ++ [m] }

/-- The last message. -/
def last (c : Conversation) : Message := c.later.getLast?.getD c.first

@[simp] theorem messages_start (clock : Clock) :
    (start clock).messages = [⟨.model, welcome, clock⟩] := rfl

@[simp] theorem messages_append (c : Conversation) (m : Message) :
    (c.append m).messages = c.messages ++ [m] := by
  simp [messages, append]

@[simp] theorem last_append (c : Conversation) (m : Message) : (c.append m).last = m := by
  simp [last, append]

end Conversation

end CircuitHub

import CircuitHub.Conversation
import CircuitHub.Exchange.Client
import CircuitHub.Validation
import CircuitHub.View

/-!
# The hub

The state of the hub is one value, and an action takes it to the next one (`Hub.update`). A prompt
is sent only while no other waits for its reply, so that prompts and replies alternate.
-/

namespace CircuitHub

/-- Whether a prompt waits for its reply. -/
inductive Pending where
  | idle
  /-- A prompt was sent at this time. -/
  | waiting (since : Clock)
  deriving DecidableEq, Repr

/-- What the header says of the exchange. -/
inductive Status where
  /-- Nothing has been asked. -/
  | welcome
  /-- A reply is on its way. -/
  | generating
  /-- The last reply has come. -/
  | ready
  deriving DecidableEq, Repr

/-- The words of a status. -/
def Status.text : Status → Text
  | welcome => "Welcome to Electronic Legion Hub"
  | generating => "Generating..."
  | ready => "Ready"

/-- Everything the hub knows. -/
structure Hub where
  /-- How prompts are sent. -/
  client : Client
  /-- What has been said. -/
  conversation : Conversation
  /-- Whether a prompt waits for its reply. -/
  pending : Pending
  /-- The view that is shown. -/
  view : View
  /-- What the last check of a definition says. -/
  validation : Validation
  /-- What the header says. -/
  status : Status
  /-- What time it is. -/
  now : Clock
  deriving DecidableEq, Repr

/-- Something that happens to the hub. -/
inductive Action where
  /-- Another view is shown. -/
  | switchView (view : View)
  /-- A prompt is sent. -/
  | submit (prompt : Text)
  /-- The reply to the prompt comes. -/
  | receive (reply : Text)
  /-- A definition is checked. -/
  | validate (input : Text)
  /-- The hub is left. -/
  | quit
  deriving DecidableEq, Repr

/-- What the hub asks of the world. -/
inductive Effect where
  | none
  /-- Begin an exchange for a prompt. -/
  | request (prompt : Text)
  /-- Leave the hub. -/
  | quit
  deriving DecidableEq, Repr

namespace Hub

/-- The hub before anything has happened. -/
def start (client : Client) (now : Clock) : Hub where
  client := client
  conversation := .start now
  pending := .idle
  view := .dashboard
  validation := .idle
  status := .welcome
  now := now

/-- A prompt waits for its reply. -/
def isLoading (hub : Hub) : Bool := hub.pending != .idle

/-- How long the prompt has waited, in seconds. -/
def elapsed? (hub : Hub) : Option Nat :=
  match hub.pending with
  | .idle => none
  | .waiting since => some (hub.now - since)

/-- The hub after an action, and what it asks of the world. A blank prompt, a prompt while another
    waits, and a reply that nothing waits for change nothing. -/
def update (hub : Hub) : Action → Hub × Effect
  | .switchView view => ({ hub with view }, .none)
  | .submit prompt =>
    if prompt.isBlank || hub.isLoading then (hub, .none)
    else
      ({ hub with
          conversation := hub.conversation.append ⟨.user, prompt, hub.now⟩
          pending := .waiting hub.now
          status := .generating },
        .request prompt)
  | .receive reply =>
    match hub.pending with
    | .idle => (hub, .none)
    | .waiting _ =>
      ({ hub with
          conversation := hub.conversation.append ⟨.model, reply, hub.now⟩
          pending := .idle
          status := .ready },
        .none)
  | .validate input => ({ hub with validation := .ofInput input }, .none)
  | .quit => (hub, .quit)

end Hub

end CircuitHub

import CircuitHub.Text.Basic

/-!
# Providers of replies

A provider answers a request with text or with an error. Whatever it answers becomes a reply that
can be shown (`replyText`), which is never blank.
-/

namespace CircuitHub

/-- Why a provider has no text. -/
inductive ProviderError where
  /-- The provider is not set up. -/
  | config (message : Text)
  /-- The service cannot be reached. -/
  | network (message : Text)
  /-- The service refuses. -/
  | api (status : Nat) (message : Text)
  /-- The answer of the service cannot be read. -/
  | parse (message : Text)
  /-- There is no answer within a limit of so many thousandths of a second. -/
  | timeout (millis : Nat)
  deriving DecidableEq, Repr

namespace ProviderError

/-- The cause of an error, as it is shown in a conversation. -/
def message : ProviderError → Text
  | config m | network m | api _ m | parse m => m
  | timeout millis => "request timed out after " ++ Text.ofNat (millis / 1000) ++ ['s']

/-- An error with its kind. -/
def display : ProviderError → Text
  | config m => "config error: " ++ m
  | network m => "network error: " ++ m
  | api status m => "API error (HTTP " ++ Text.ofNat status ++ "): " ++ m
  | parse m => "parse error: " ++ m
  | timeout millis => "timeout after " ++ Text.ofNat (millis / 1000) ++ ['s']

end ProviderError

/-- What a provider is asked. -/
structure Request where
  /-- The model that is to answer. -/
  model : Text
  /-- What the user says. -/
  prompt : Text
  /-- What holds for all prompts. -/
  instruction : Text
  deriving DecidableEq, Repr

/-- What a provider comes to: text or an error. -/
abbrev Outcome := Except ProviderError Text

/-- What replies to errors begin with. -/
def errorHeading : Text := "Error communicating with AI"

/-- The reply to an answer without text. -/
def noResponse : Text := "No response generated."

/-- The reply that an outcome becomes. -/
def replyText : Outcome → Text
  | .ok text => if text.isBlank then noResponse else text
  | .error e => errorHeading ++ ": " ++ e.message

end CircuitHub

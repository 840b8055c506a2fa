import CircuitHub.Exchange.Provider

/-!
# Exchanges

An exchange sends one prompt and ends with one reply, the provider's or that of the limit on its
time. Time is counted in thousandths of a second from the start of the exchange.
-/

namespace CircuitHub

/-- What the model is told if nothing else is set. -/
def defaultInstruction : Text :=
  "You are an expert Analog Circuit Design Engineer and Assistant for the " ++
    "\"Electronic-Legion-library\". " ++
    "Your goal is to assist users in designing circuits, defining components in YAML, and " ++
    "understanding circuit theory. " ++
    "When asked to design a circuit: " ++
    "1. Briefly explain the theory. " ++
    "2. Provide a 'Netlist' or 'Component List' in YAML format compatible with the " ++
    "Electronic-Legion schema. " ++
    "3. If possible, generate a simple SVG string representation of the schematic inside a code " ++
    "block labeled 'svg'. " ++
    "Keep responses technical, precise, and structured."

/-- The model that is asked if nothing else is set. -/
def defaultModel : Text := "gemini-3-flash-preview"

/-- How prompts are sent. -/
structure Client where
  /-- The model that is asked. -/
  model : Text
  /-- What holds for all prompts. -/
  instruction : Text
  /-- How long an exchange may take, if there is a limit. -/
  limit? : Option Nat
  deriving DecidableEq, Repr

/-- When a provider answers, and what. -/
structure Answer where
  /-- The time until the answer. -/
  delay : Nat
  /-- What the provider comes to. -/
  outcome : Outcome

/-- A provider: to each request an answer, or none at all. -/
abbrev Provider := Request → Option Answer

namespace Client

/-- A client for a model, with the default instruction and no limit. -/
def ofModel (model : Text) : Client := ⟨model, defaultInstruction, none⟩

/-- What the provider is asked for a prompt. -/
def request (client : Client) (prompt : Text) : Request :=
  ⟨client.model, prompt, client.instruction⟩

/-- The end of an exchange: what it comes to and when. An answer without delay is there before the
    limit is looked at. Without limit and answer there is no end. -/
def settle (limit? : Option Nat) (answer? : Option Answer) : Option Answer :=
  match limit?, answer? with
  | none, answer? => answer?
  | some limit, some answer =>
    if answer.delay = 0 || answer.delay < limit then some answer
    else some ⟨limit, .error (.timeout limit)⟩
  | some limit, none => some ⟨limit, .error (.timeout limit)⟩

/-- The reply to a prompt and the time it takes, if it ever comes. -/
def send (client : Client) (provider : Provider) (prompt : Text) : Option (Text × Nat) :=
  (settle client.limit? (provider (client.request prompt))).map fun answer =>
    (replyText answer.outcome, answer.delay)

end Client

end CircuitHub

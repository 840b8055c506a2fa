import CircuitHub.Exchange.Provider
import CircuitHub.Json.Basic

/-!
# Calls of the service

The service generates text. A call of it names the model in the address and holds the prompt, with
the instruction if there is one, in its body. The service is called with a key, which is a field of
the query. How an address is read, and how what is called is reached, is the affair of whoever sends
the call.
-/

namespace CircuitHub

/-- Where the service is if nothing else is set. -/
def defaultBase : Text := "https://generativelanguage.googleapis.com/v1beta"

/-- A service that generates text. -/
structure Service where
  /-- The key that calls are made with. -/
  key? : Option Text
  /-- The address that the addresses of calls begin with. -/
  base : Text
  deriving DecidableEq, Repr

/-- What is sent to the service. -/
structure Call where
  /-- The address that is called. -/
  address : Text
  /-- The fields that the query of the address goes on with, each a name and a value. -/
  fields : List (Text × Text)
  /-- What the call holds. -/
  body : JsonValue
  deriving Repr

namespace Service

/-- The name of the service. -/
def name : Text := "gemini"

/-- The service at an address. A blank key is none, and slashes at the end of the address do not
    count. -/
def ofKey (key? : Option Text) (base : Text) : Service :=
  ⟨key?.filter (!Text.isBlank ·), Text.dropEndWhile (· == '/') base⟩

/-- The address at which a model generates text. -/
def endpoint (service : Service) (model : Text) : Text :=
  service.base ++ "/models/" ++ model ++ ":generateContent"

/-- The parts of a turn that consists of one text. -/
def partsOf (t : Text) : Text × JsonValue :=
  ("parts", .array [.ofMembers [("text", .ofText t)]])

/-- What a call holds for a request: the turns of the conversation, of which there is one, and the
    instruction, unless it is empty. -/
def body (request : Request) : JsonValue :=
  let turn := JsonValue.ofMembers [("role", .ofText "user"), partsOf request.prompt]
  let turns : Text × JsonValue := ("contents", .array [turn])
  let instruction : Text × JsonValue :=
    ("systemInstruction", .ofMembers [partsOf request.instruction])
  .ofMembers (if request.instruction.isEmpty then [turns] else [turns, instruction])

/-- Why a call is not made without a key. -/
def missingKey : ProviderError :=
  .config "API key is not set (config file, GEMINI_API_KEY or API_KEY env var)"

/-- The call for a request, or why there is none. -/
def call (service : Service) (request : Request) : Except ProviderError Call :=
  match service.key? with
  | none => .error missingKey
  | some key => .ok ⟨service.endpoint request.model, [("key", key)], body request⟩

end Service

end CircuitHub

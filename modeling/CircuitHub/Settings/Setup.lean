import CircuitHub.Exchange.Client
import CircuitHub.Service.Call
import CircuitHub.Settings.Basic

/-!
# What is in force

What the hub works with comes from several sources. For each thing the highest source that has it
decides: the command line, then the environment, then the settings of the user, then what is built
in. A variable of the environment that is blank counts as not set.
-/

namespace CircuitHub

/-- What the hub works with. -/
structure Setup where
  /-- The model that is asked. -/
  model : Text
  /-- What holds for all prompts. -/
  instruction : Text
  /-- How many seconds an exchange may take, if there is a limit. -/
  seconds? : Option Nat
  /-- The key of the service. -/
  key? : Option Text
  /-- The address of the service. -/
  base : Text
  deriving DecidableEq, Repr

/-- The values of variables by their names. -/
abbrev Environment := Text → Option Text

namespace Environment

/-- The value of a variable that is not blank. -/
def filled? (environment : Environment) (name : Text) : Option Text :=
  (environment name).filter (!Text.isBlank ·)

end Environment

namespace Setup

/-- How many seconds an exchange may take if nothing else is set. -/
def defaultSeconds : Nat := 120

/-- The model: of the command line, the environment, the settings or the hub itself. -/
def modelOf (settings : Settings) (argument? : Option Text) (environment : Environment) : Text :=
  ((argument? <|> environment.filled? "LEGION_MODEL") <|> settings.model?).getD defaultModel

/-- The instruction: of the settings, the file that they name, or the hub itself. What stands in
    the file is taken without the white space around it, unless it is blank. -/
def instructionOf (settings : Settings) (fileText? : Text → Option Text) : Text :=
  let inFile? := (settings.instructionFile?.bind fileText?).map Text.trim
  (settings.instruction? <|> inFile?.filter (!·.isEmpty)).getD defaultInstruction

/-- The limit of the time of an exchange: that of the settings, where zero is none, or that of the
    hub itself. -/
def secondsOf (settings : Settings) : Option Nat :=
  let seconds := settings.seconds?.getD defaultSeconds
  if seconds = 0 then none else some seconds

/-- The key: of the environment, by the first of two names, or of the settings. -/
def keyOf (settings : Settings) (environment : Environment) : Option Text :=
  (environment.filled? "GEMINI_API_KEY" <|> environment.filled? "API_KEY") <|> settings.key?

/-- The address: of the environment, the settings or the hub itself. -/
def baseOf (settings : Settings) (environment : Environment) : Text :=
  (environment.filled? "GEMINI_BASE_URL" <|> settings.base?).getD defaultBase

/-- What the hub works with: the settings, the model that the command line names, the environment,
    and the texts of the files that the settings may name. -/
def resolve (settings : Settings) (model? : Option Text) (environment : Environment)
    (fileText? : Text → Option Text) : Setup where
  model := modelOf settings model? environment
  instruction := instructionOf settings fileText?
  seconds? := secondsOf settings
  key? := keyOf settings environment
  base := baseOf settings environment

/-- How prompts are sent. -/
def client (setup : Setup) : Client :=
  ⟨setup.model, setup.instruction, setup.seconds?.map (1000 * ·)⟩

/-- The service that prompts are sent to. -/
def service (setup : Setup) : Service := .ofKey setup.key? setup.base

end Setup

end CircuitHub

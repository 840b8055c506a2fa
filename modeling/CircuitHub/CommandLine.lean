import CircuitHub.View

/-!
# The command line

Two options take a value, the view to begin with and the model to ask, and two ask for a message
instead of the hub. An option has a letter after one dash and a name after two. Its value is written
behind it, with or without an equals sign after a letter and with one after a name, or is the next
word. A next word that looks like an option is none.

An option whose value is still to come waits for it. The wait ends, and the value is looked at, when
the next option is met that the hub knows, or at the end. A word that the hub does not know is
reported at once, whatever waits.
-/

namespace CircuitHub

/-- What the command line chooses. -/
structure Options where
  /-- The view to begin with. -/
  view? : Option View
  /-- The model to ask. -/
  model? : Option Text
  deriving DecidableEq, Repr

/-- Why the hub does not start. -/
inductive Refusal where
  /-- The command line asks for help. -/
  | help
  /-- The command line asks for the version. -/
  | version
  /-- A word is none that the hub knows. -/
  | unknownArgument
  /-- A value is missing or is none of those that are possible. -/
  | invalidValue
  /-- An option is given twice. -/
  | repeated
  /-- A value is given to an option without one. -/
  | tooManyValues
  deriving DecidableEq, Repr

/-- What the command line looks like. -/
def usage : Text :=
  "Electronic Legion component library hub\n" ++
    "\n" ++
    "Usage: legion [OPTIONS]\n" ++
    "\n" ++
    "Options:\n" ++
    "  -v, --view <VIEW>    View to open on start [default: dashboard]\n" ++
    "                       [possible values: dashboard, components, symbols, ai-designer, " ++
    "validator]\n" ++
    "  -m, --model <MODEL>  Gemini model id (overrides LEGION_MODEL and the config file)\n" ++
    "  -h, --help           Print help\n" ++
    "  -V, --version        Print version\n"

namespace Refusal

/-- A refusal that is what the command line asks for. -/
def isAsked : Refusal → Bool
  | help | version => true
  | unknownArgument | invalidValue | repeated | tooManyValues => false

/-- What is shown instead of the hub. -/
def message : Refusal → Text
  | help => usage
  | version => "legion 0.2.0\n"
  | unknownArgument => "error: unexpected argument\n"
  | invalidValue => "error: a value is missing or not possible\n"
  | repeated => "error: an option cannot be used multiple times\n"
  | tooManyValues => "error: unexpected value for an option\n"

end Refusal

namespace Options

/-- The view to begin with, which is the dashboard if none is chosen. -/
def firstView (options : Options) : View := options.view?.getD .dashboard

/-- The options. -/
inductive Name where
  | view
  | model
  | help
  | version
  deriving DecidableEq, Repr

namespace Name

/-- The option of a letter. -/
def ofLetter? (c : Char) : Option Name :=
  if c = 'v' then some view
  else if c = 'm' then some model
  else if c = 'h' then some help
  else if c = 'V' then some version
  else none

/-- The option of a word after two dashes. -/
def ofWord? (t : Text) : Option Name :=
  if t == "view".toList then some view
  else if t == "model".toList then some model
  else if t == "help".toList then some help
  else if t == "version".toList then some version
  else none

end Name

/-- What has been read of a command line: what is chosen so far, and the option that waits, with its
    value if that has come. -/
structure Reading where
  /-- What is chosen so far. -/
  chosen : Options
  /-- The option that waits. -/
  waiting? : Option (Name × Option Text)
  deriving DecidableEq, Repr

/-- The choice of a value for an option. -/
def choose (chosen : Options) (name : Name) (value : Text) : Except Refusal Options :=
  match name with
  | .view =>
    if chosen.view?.isSome then .error .repeated
    else match View.ofName? false value with
      | some view => .ok { chosen with view? := some view }
      | none => .error .invalidValue
  | .model =>
    if chosen.model?.isSome then .error .repeated else .ok { chosen with model? := some value }
  | .help => .error .help
  | .version => .error .version

namespace Reading

/-- What is chosen when the wait has ended. -/
def finish (r : Reading) : Except Refusal Options :=
  match r.waiting? with
  | none => .ok r.chosen
  | some (name, some value) => choose r.chosen name value
  | some (_, none) => .error .invalidValue

/-- The reading after an option that the hub knows, with the value that is written behind it. -/
def meet (r : Reading) (name : Name) (value? : Option Text) : Except Refusal Reading := do
  let chosen ← r.finish
  match name, value? with
  | .help, _ => .error .help
  | .version, _ => .error .version
  | name, some value => .ok ⟨← choose chosen name value, none⟩
  | name, none => .ok ⟨chosen, some (name, none)⟩

/-- The reading after a word of letters that follow one dash. What follows the letter of an option
    with a value is that value. -/
def letters (r : Reading) : Text → Except Refusal Reading
  | [] => .ok r
  | c :: rest => match Name.ofLetter? c with
    | none => .error .unknownArgument
    | some name =>
      let value? := match rest with
        | [] => none
        | '=' :: value => some value
        | value => some value
      r.meet name value?

/-- The reading after a word that follows two dashes. -/
def word (r : Reading) (t : Text) : Except Refusal Reading :=
  let (t, value?) : Text × Option Text := match Text.cut? t ['='] with
    | some (t, value) => (t, some value)
    | none => (t, none)
  match Name.ofWord? t, value? with
  | none, _ => .error .unknownArgument
  | some .help, some _ | some .version, some _ => .error .tooManyValues
  | some name, value? => r.meet name value?

/-- The reading after a word that is no option. -/
def value (r : Reading) (t : Text) : Except Refusal Reading :=
  match r.waiting? with
  | some (name, none) => .ok { r with waiting? := some (name, some t) }
  | _ => .error .unknownArgument

/-- What is chosen when the rest of the arguments has been read. After two bare dashes there must be
    no more of them. -/
def run (r : Reading) : List Text → Except Refusal Options
  | [] => r.finish
  | argument :: arguments => match argument with
    | ['-', '-'] => if arguments.isEmpty then r.finish else .error .unknownArgument
    | '-' :: '-' :: t => do (← r.word t).run arguments
    | '-' :: c :: t => do (← r.letters (c :: t)).run arguments
    | t => do (← r.value t).run arguments

end Reading

/-- What the arguments of the command line choose. -/
def ofArguments (arguments : List Text) : Except Refusal Options :=
  Reading.run ⟨⟨none, none⟩, none⟩ arguments

end Options

end CircuitHub

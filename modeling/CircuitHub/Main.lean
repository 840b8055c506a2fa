import CircuitHub.CommandLine
import CircuitHub.Service.Answer
import CircuitHub.Session
import CircuitHub.Settings.Home
import CircuitHub.Settings.Setup

/-!
# The program

The command line chooses the view and the model, the home folder holds the settings. Then every line
of the input is typed into the view that is shown and submitted, an empty line goes on to the next
view, and after each line the screen is written out. Nothing connects the program to the service, so
that each exchange ends at once and without an answer.
-/

namespace CircuitHub.Program

/-- The size of the screen, in columns and rows. -/
def screenSize : Nat × Nat := (100, 30)

/-- The events that a line of the input stands for. -/
def eventsOfLine (line : Text) : List Event :=
  if line.isEmpty then [.nextView] else line.map .type ++ [.submit]

/-- The session after some events, up to the one that leaves it, and whether there was one. -/
def runEvents (s : Session) : List Event → Session × Bool
  | [] => (s, false)
  | e :: events => match s.dispatch e with
    | (s, .quit) => (s, true)
    | (s, _) => runEvents s events

/-- The session after a line of the input and the exchanges that it begins. -/
def runLine (provider : Provider) (s : Session) (line : Text) : Session × Bool :=
  let (s, left) := runEvents s (eventsOfLine line)
  (s.settle provider 0, left)

/-- The session after its screen has been drawn, and the text of the screen. -/
def drawScreen (s : Session) : Session × Text :=
  let s := s.sync
  let (console, frame) := s.console.draw s.hub 0 (.blank screenSize.1 screenSize.2)
  ({ s with console }, frame.grid.rowTexts.flatMap (· ++ ['\n']))

/-- The provider that calls the service where nothing connects to it. -/
def provider (setup : Setup) : Provider := fun request =>
  some ⟨0, setup.service.generate (fun _ => .failed "not connected") request⟩

/-! ### Input and output -/

/-- What stands where the settings are expected, as a home folder that holds nothing else. -/
def readHome (file : String) : IO Folder := do
  try
    let bytes ← IO.FS.readBinFile file
    return (Folder.write? [] bytes.toList Settings.place).getD []
  catch
    | .noFileOrDirectory .. => return []
    | _ => return (Folder.write? [] [] (Settings.place ++ [[]])).getD []

/-- Writes the settings that a home folder holds. -/
def writeHome (directory file : String) (home : Folder) : IO Unit := do
  if let some (.file bytes) := home.find? Settings.place then
    try
      IO.FS.createDirAll directory
      IO.FS.writeBinFile file ⟨bytes.toArray⟩
    catch _ => return

/-- Draws the screen and takes the next line, until there is none or the session is left. -/
partial def loop (provider : Provider) (s : Session) : IO Unit := do
  let (s, screen) := drawScreen s
  IO.print (String.ofList screen)
  let line ← (← IO.getStdin).getLine
  if line.isEmpty then return
  let (s, left) := runLine provider s (Text.dropSuffix line.toList ['\n'])
  if left then return
  loop provider s

/-- Loads the settings and runs a session with what the command line chooses. -/
def run (options : Options) : IO Unit := do
  let home := (← IO.getEnv "HOME").getD ""
  let directory := home ++ "/.legion"
  let file := directory ++ "/config.toml"
  let before ← readHome file
  let (loaded, after) := Settings.load before
  if (before.find? Settings.place).isNone then writeHome directory file after
  let settings ← match loaded with
    | .ok settings => pure settings
    | .error e =>
      IO.eprintln (String.ofList ("legion: ".toList ++ e.message ++ "; using defaults"))
      pure .unset
  let values ← ["LEGION_MODEL", "GEMINI_API_KEY", "API_KEY", "GEMINI_BASE_URL"].mapM fun name =>
    return (name.toList, ← IO.getEnv name)
  let environment : Environment := fun name =>
    (values.lookup name).bind fun value? => value?.map String.toList
  let fileText? ← match settings.instructionFile? with
    | none => pure none
    | some path =>
      try pure (some (← IO.FS.readFile (directory ++ "/" ++ String.ofList path)).toList)
      catch _ => pure none
  let setup := Setup.resolve settings options.model? environment fun _ => fileText?
  let start := Session.start setup.client 0
  loop (provider setup) (start.act (.switchView options.firstView)).1

end CircuitHub.Program

/-- Runs the program with the arguments of the command line. -/
def main (arguments : List String) : IO UInt32 := do
  match CircuitHub.Options.ofArguments (arguments.map String.toList) with
  | .ok options =>
    CircuitHub.Program.run options
    return 0
  | .error refusal =>
    let message := String.ofList refusal.message
    if refusal.isAsked then IO.print message else IO.eprint message
    return if refusal.isAsked then 0 else 2

import CircuitHub.Console

/-!
# Sessions

A session is the hub and the console together with the prompts whose exchanges are under way. An
event may ask for an exchange, which then begins, and an exchange that ends gives the hub its reply.
-/

namespace CircuitHub

/-- A session. -/
structure Session where
  /-- The state of the hub. -/
  hub : Hub
  /-- What the views remember. -/
  console : Console
  /-- The prompts whose exchanges are under way, in the order they began. -/
  inFlight : List Text
  deriving DecidableEq, Repr

namespace Session

/-- A session in which nothing has happened. -/
def start (client : Client) (now : Clock) : Session := ⟨.start client now, .start, []⟩

/-- The session with a console that knows the state of the hub. -/
def sync (s : Session) : Session := { s with console := s.console.sync s.hub }

/-- The session after an action, and what the action asks of the world. -/
def act (s : Session) (action : Action) : Session × Effect :=
  let (hub, effect) := s.hub.update action
  ({ s with hub }, effect)

/-- The session when what an effect asks for has been begun. -/
def begin (s : Session) : Effect → Session
  | .request prompt => { s with inFlight := s.inFlight ++ [prompt] }
  | .none | .quit => s

/-- The session after an event, and what the event asks of the world. An exchange that it asks for
    is under way. -/
def dispatch (s : Session) (event : Event) : Session × Effect :=
  let s := s.sync
  let (console, action?) := s.console.handle s.hub.view event
  let s := { s with console }
  match action? with
  | some action =>
    let (s, effect) := s.act action
    (s.begin effect, effect)
  | none => (s, .none)

/-- The replies to the prompts under way that come within some time, the earliest first. -/
def replies (s : Session) (provider : Provider) (time : Nat) : List Text :=
  let ended := (s.inFlight.filterMap (s.hub.client.send provider)).filter fun r => r.2 ≤ time
  (ended.mergeSort fun a b => a.2 ≤ b.2).map (·.1)

/-- The session after its exchanges have had some time to end. Those that have not are given up. -/
def settle (s : Session) (provider : Provider) (time : Nat) : Session :=
  let s' := (s.replies provider time).foldl (fun s reply => (s.act (.receive reply)).1) s
  { s' with inFlight := [] }

end Session

end CircuitHub

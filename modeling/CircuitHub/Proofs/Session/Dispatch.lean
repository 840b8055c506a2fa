import CircuitHub.Proofs.Hub.History

/-!
# What an event does to a session

An event goes to the view at hand, which changes the console and may come to an action of the hub.
So the console after the event is what the view makes of it (`Session.console_dispatch`), and the
hub and the effect are those of the action, if there is one (`Session.hub_dispatch`,
`Session.effect_dispatch`).
-/

namespace CircuitHub

/-- The hub after an action, if there is one, and what it asks of the world. -/
def Hub.react (hub : Hub) : Option Action → Hub × Effect
  | some action => hub.update action
  | none => (hub, .none)

namespace Session

/-- The session at a time. -/
def atTime (s : Session) (time : Clock) : Session := { s with hub := s.hub.atTime time }

variable (s : Session) (e : Event)

@[simp] theorem console_begin (effect : Effect) : (s.begin effect).console = s.console := by
  cases effect <;> rfl

/-- The console after an event is what the view at hand makes of it. -/
theorem console_dispatch :
    (s.dispatch e).1.console = (s.sync.console.handle s.hub.view e).1 := by
  simp only [dispatch, sync]
  rcases (s.console.sync s.hub).handle s.hub.view e with ⟨console, action?⟩
  cases action? with
  | none => rfl
  | some action => simp only [act, console_begin]

/-- The hub after an event is what the action makes of it that the event comes to. -/
theorem hub_dispatch :
    (s.dispatch e).1.hub = (s.hub.react (s.sync.console.handle s.hub.view e).2).1 := by
  simp only [dispatch, sync]
  rcases (s.console.sync s.hub).handle s.hub.view e with ⟨console, action?⟩
  cases action? with
  | none => rfl
  | some action => simp only [act, hub_begin, Hub.react]

/-- An event asks of the world what the action asks that it comes to. -/
theorem effect_dispatch :
    (s.dispatch e).2 = (s.hub.react (s.sync.console.handle s.hub.view e).2).2 := by
  simp only [dispatch, sync]
  rcases (s.console.sync s.hub).handle s.hub.view e with ⟨console, action?⟩
  cases action? with
  | none => rfl
  | some action => rfl

end Session

end CircuitHub

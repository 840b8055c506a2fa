import CircuitHub.Session

/-!
# What actions and events do to the exchange

Most of what happens to a hub has nothing to do with the exchange of prompts and replies. Exactly
two actions do: a prompt that is sent (`Hub.ask`), and a reply that is received (`Hub.answer`). All
others leave the exchange as it is (`Hub.SameExchange`), and so does a prompt or a reply that comes
at the wrong time.

* `Hub.update_cases`: what an action does, and under which condition;
* `Console.handle_ne_receive`: no event of the user comes to the receipt of a reply;
* `Session.dispatch_cases`: an event therefore sends a prompt or leaves the exchange as it is.
-/

namespace CircuitHub

namespace Conversation

/-- Who has said what, in order. -/
def turns (c : Conversation) : List (Role × Text) := c.messages.map fun m => (m.role, m.content)

@[simp] theorem turns_append (c : Conversation) (m : Message) :
    (c.append m).turns = c.turns ++ [(m.role, m.content)] := by
  simp [turns]

end Conversation

/-- The prompt for which an effect begins an exchange. -/
def Effect.prompt? : Effect → Option Text
  | .request prompt => some prompt
  | .none | .quit => Option.none

namespace Hub

/-- The hub when a prompt has been sent. -/
def ask (hub : Hub) (prompt : Text) : Hub :=
  { hub with
    conversation := hub.conversation.append ⟨.user, prompt, hub.now⟩
    pending := .waiting hub.now
    status := .generating }

/-- The hub when a reply has been received. -/
def answer (hub : Hub) (reply : Text) : Hub :=
  { hub with
    conversation := hub.conversation.append ⟨.model, reply, hub.now⟩
    pending := .idle
    status := .ready }

/-- Between the two hubs nothing has been sent or received. -/
structure SameExchange (hub hub' : Hub) : Prop where
  conversation : hub'.conversation = hub.conversation
  pending : hub'.pending = hub.pending
  status : hub'.status = hub.status
  client : hub'.client = hub.client

theorem SameExchange.refl (hub : Hub) : SameExchange hub hub := ⟨rfl, rfl, rfl, rfl⟩

@[simp] theorem isLoading_ask (hub : Hub) (prompt : Text) : (hub.ask prompt).isLoading = true := rfl

@[simp] theorem isLoading_answer (hub : Hub) (reply : Text) :
    (hub.answer reply).isLoading = false := rfl

theorem SameExchange.isLoading {hub hub' : Hub} (h : SameExchange hub hub') :
    hub'.isLoading = hub.isLoading := by
  rw [Hub.isLoading, Hub.isLoading, h.pending]

/-- An action sends a prompt that is not blank while no other waits, or it receives a reply that is
    waited for, or it leaves the exchange as it is and asks for no other. -/
theorem update_cases (hub : Hub) (action : Action) :
    (∃ prompt, action = .submit prompt ∧ prompt.isBlank = false ∧ hub.isLoading = false ∧
      hub.update action = (hub.ask prompt, .request prompt)) ∨
    (∃ reply, action = .receive reply ∧ hub.isLoading = true ∧
      hub.update action = (hub.answer reply, .none)) ∨
    (SameExchange hub (hub.update action).1 ∧ (hub.update action).2.prompt? = none) := by
  cases action with
  | switchView view => exact .inr (.inr ⟨⟨rfl, rfl, rfl, rfl⟩, rfl⟩)
  | validate input => exact .inr (.inr ⟨⟨rfl, rfl, rfl, rfl⟩, rfl⟩)
  | quit => exact .inr (.inr ⟨.refl hub, rfl⟩)
  | submit prompt =>
    by_cases h : (prompt.isBlank || hub.isLoading) = true
    · refine .inr (.inr ?_)
      rw [update, if_pos h]
      exact ⟨.refl hub, rfl⟩
    · refine .inl ⟨prompt, rfl, ?_, ?_, ?_⟩
      · simp_all
      · simp_all
      · rw [update, if_neg h]
        rfl
  | receive reply =>
    cases h : hub.pending with
    | idle =>
      refine .inr (.inr ?_)
      rw [update, h]
      exact ⟨.refl hub, rfl⟩
    | waiting since =>
      refine .inr (.inl ⟨reply, rfl, ?_, ?_⟩)
      · rw [isLoading, h]
        rfl
      · rw [update, h]
        rfl

/-- A reply that is waited for is received. -/
theorem update_receive {hub : Hub} (h : hub.isLoading = true) (reply : Text) :
    hub.update (.receive reply) = (hub.answer reply, .none) := by
  cases hp : hub.pending with
  | idle =>
    rw [isLoading, hp] at h
    exact absurd h (by decide)
  | waiting since =>
    rw [update, hp]
    rfl

end Hub

/-- Nothing that the user does is the receipt of a reply. -/
theorem Console.handle_ne_receive (c : Console) (view : View) (e : Event) (reply : Text) :
    (c.handle view e).2 ≠ some (.receive reply) := by
  have inView : (c.handleInView view e).2 ≠ some (.receive reply) := by
    cases view with
    | components => exact fun h => nomatch h
    | symbols => exact fun h => nomatch h
    | dashboard => simp [handleInView]
    | validator => simp [handleInView]
    | designer =>
      -- What the transcript leaves goes to the prompt, from which nothing but a prompt can come.
      rw [handleInView, handleInDesigner]
      split
      · exact fun h => nomatch h
      · simp only
        split <;> simp
  cases e with
  | quit | nextView | prevView | resize => simp [handle]
  | selectView i => simp [handle]
  | _ => exact inView

namespace Session

@[simp] theorem hub_begin (s : Session) (effect : Effect) : (s.begin effect).hub = s.hub := by
  cases effect <;> rfl

/-- An event sends a prompt that is not blank while no other waits, or it leaves the exchange as it
    is and asks for no other. -/
theorem dispatch_cases (s : Session) (e : Event) :
    (∃ prompt, prompt.isBlank = false ∧ s.hub.isLoading = false ∧
      (s.dispatch e).1.hub = s.hub.ask prompt ∧ (s.dispatch e).2 = .request prompt) ∨
    (s.hub.SameExchange (s.dispatch e).1.hub ∧ (s.dispatch e).2.prompt? = none) := by
  have hne := Console.handle_ne_receive (s.console.sync s.hub) s.hub.view e
  simp only [dispatch, sync]
  rcases h : (s.console.sync s.hub).handle s.hub.view e with ⟨console, action?⟩
  cases action? with
  | none => exact .inr ⟨.refl s.hub, rfl⟩
  | some action =>
    simp only [act]
    rcases s.hub.update_cases action with ⟨prompt, -, hb, hl, hu⟩ | ⟨reply, rfl, -⟩ | ⟨same, hr⟩
    · exact .inl ⟨prompt, hb, hl, by rw [hu]; rfl, by rw [hu]⟩
    · -- The action came from the console, where replies are not received.
      exact absurd (congrArg Prod.snd h) (hne reply)
    · refine .inr ⟨?_, hr⟩
      rwa [hub_begin]

end Session

end CircuitHub

import CircuitHub.Proofs.Hub.Update
import Mathlib.Data.List.Basic

/-!
# The history of a hub

Actions are taken one after the other, each at a time of its own (`Hub.run`). What a hub knows of
its exchange is written down in four places: whether it waits, what the header says, what the
transcript says, and what it has asked of the world. They are changed by the same two actions, and
`Hub.InStep` says how they hang together after any others.

* `Hub.messages_prefix_run`: what has been said stays as it is;
* `Hub.InStep.update`: each action keeps the four in step;
* `Hub.history_in_step`: so they are after any actions.
-/

namespace CircuitHub

/-- Who speaks in a turn, if the model begins. -/
def Role.inTurn (turn : Nat) : Role := if turn % 2 = 0 then .model else .user

/-- After each speaker it is the turn of the other. -/
theorem Role.inTurn_succ_eq_model {turn : Nat} :
    Role.inTurn (turn + 1) = .model ↔ Role.inTurn turn = .user := by
  rcases Nat.mod_two_eq_zero_or_one turn with h | h <;> simp [Role.inTurn, Nat.add_mod, h]

theorem Status.text_eq_generating {status : Status} :
    status.text = "Generating..." ↔ status = .generating := by
  cases status <;> decide

/-- An action, and when it is taken. -/
structure Moment where
  /-- When the action is taken. -/
  time : Clock
  /-- The action. -/
  action : Action
  deriving DecidableEq

namespace Conversation

/-- What the user has asked, in order. -/
def prompts (c : Conversation) : List Text :=
  (c.messages.filter (·.role = .user)).map (·.content)

@[simp] theorem prompts_append_user (c : Conversation) (prompt : Text) (sentAt : Clock) :
    (c.append ⟨.user, prompt, sentAt⟩).prompts = c.prompts ++ [prompt] := by
  simp [prompts]

@[simp] theorem prompts_append_model (c : Conversation) (reply : Text) (sentAt : Clock) :
    (c.append ⟨.model, reply, sentAt⟩).prompts = c.prompts := by
  simp [prompts]

end Conversation

namespace Hub

/-- The hub at a time. -/
def atTime (hub : Hub) (time : Clock) : Hub := { hub with now := time }

/-- The hub after some actions, and what it has asked of the world at each of them. -/
def run (hub : Hub) : List Moment → Hub × List Effect
  | [] => (hub, [])
  | moment :: moments =>
    let (next, effect) := (hub.atTime moment.time).update moment.action
    let (last, effects) := next.run moments
    (last, effect :: effects)

/-! ## What has been said -/

/-- The hub after the action of a moment. -/
def after (hub : Hub) (moment : Moment) : Hub :=
  ((hub.atTime moment.time).update moment.action).1

theorem run_cons_fst (hub : Hub) (moment : Moment) (moments : List Moment) :
    (hub.run (moment :: moments)).1 = ((hub.after moment).run moments).1 := rfl

theorem run_append_fst (hub : Hub) (earlier later : List Moment) :
    (hub.run (earlier ++ later)).1 = ((hub.run earlier).1.run later).1 := by
  induction earlier generalizing hub with
  | nil => rfl
  | cons moment earlier ih => rw [List.cons_append, run_cons_fst, run_cons_fst, ih]

/-- An action adds at most one message, at the end. -/
theorem messages_prefix_update (hub : Hub) (action : Action) :
    hub.conversation.messages <+: (hub.update action).1.conversation.messages := by
  rcases hub.update_cases action with ⟨prompt, -, -, -, hu⟩ | ⟨reply, -, -, hu⟩ | ⟨same, -⟩
  · simp [hu, ask]
  · simp [hu, answer]
  · simp [same.conversation]

/-- What has been said stays as it is. -/
theorem messages_prefix_run (hub : Hub) (moments : List Moment) :
    hub.conversation.messages <+: (hub.run moments).1.conversation.messages := by
  induction moments generalizing hub with
  | nil => exact List.prefix_rfl
  | cons moment moments ih =>
    have hnext : hub.conversation.messages <+: (hub.after moment).conversation.messages :=
      messages_prefix_update (hub.atTime moment.time) moment.action
    exact hnext.trans (ih (hub.after moment))

/-! ## What is known of the exchange -/

/-- The hub waits exactly while the user has spoken last and it is the model's turn, and then the
    header says so; the speakers take turns; and what has been asked of the world are the prompts
    of the transcript. -/
structure InStep (hub : Hub) (asked : List Text) : Prop where
  roles_eq : hub.conversation.messages.map (·.role) =
    (List.range hub.conversation.messages.length).map Role.inTurn
  next_iff : Role.inTurn hub.conversation.messages.length = .model ↔ hub.isLoading = true
  last_iff : hub.conversation.last.role = .user ↔ hub.isLoading = true
  status_iff : hub.status = .generating ↔ hub.isLoading = true
  prompts_eq : hub.conversation.prompts = asked
  not_blank : ∀ prompt ∈ asked, prompt.isBlank = false

variable {hub hub' : Hub} {asked : List Text}

theorem inStep_start (client : Client) (now : Clock) : InStep (start client now) [] where
  roles_eq := rfl
  next_iff := by simp [start, isLoading, Role.inTurn]
  last_iff := by simp [start, isLoading, Conversation.start, Conversation.last]
  status_iff := by simp [start, isLoading]
  prompts_eq := rfl
  not_blank := by simp

/-- What does not touch the exchange keeps it in step. -/
theorem InStep.of_same (h : InStep hub asked) (same : SameExchange hub hub') :
    InStep hub' asked := by
  have hl := same.isLoading
  obtain ⟨hc, -, hs, -⟩ := same
  refine ⟨?_, ?_, ?_, ?_, ?_, h.not_blank⟩
  · rw [hc, h.roles_eq]
  · rw [hc, hl, h.next_iff]
  · rw [hc, hl, h.last_iff]
  · rw [hs, hl, h.status_iff]
  · rw [hc, h.prompts_eq]

/-- The speaker whose turn it is may speak. -/
theorem InStep.roles_append (h : InStep hub asked) {m : Message}
    (hm : Role.inTurn hub.conversation.messages.length = m.role) :
    (hub.conversation.append m).messages.map (·.role) =
      (List.range (hub.conversation.append m).messages.length).map Role.inTurn := by
  rw [Conversation.messages_append, List.map_append, h.roles_eq, List.length_append,
    List.length_singleton, List.range_succ, List.map_append, List.map_singleton,
    List.map_singleton, hm]

/-- A prompt that is sent while none waits is the user's turn. -/
theorem InStep.ask (h : InStep hub asked) {prompt : Text} (hb : prompt.isBlank = false)
    (hl : hub.isLoading = false) : InStep (hub.ask prompt) (asked ++ [prompt]) := by
  have hturn : Role.inTurn hub.conversation.messages.length = .user := by
    have hne := mt h.next_iff.1 (by simp [hl])
    cases hr : Role.inTurn hub.conversation.messages.length
    · rfl
    · exact absurd hr hne
  -- Now the hub waits: it is the model's turn, and the user has spoken last.
  refine ⟨h.roles_append hturn, ?_, ?_, ?_, ?_, ?_⟩
  · simp [Hub.ask, isLoading, Role.inTurn_succ_eq_model, hturn]
  · simp [Hub.ask, isLoading]
  · simp [Hub.ask, isLoading]
  · simp [Hub.ask, h.prompts_eq]
  · intro p hp
    rcases List.mem_append.1 hp with hp | hp
    · exact h.not_blank p hp
    · rwa [List.mem_singleton.1 hp]

/-- A reply that is waited for is the model's turn. -/
theorem InStep.answer (h : InStep hub asked) (reply : Text) (hl : hub.isLoading = true) :
    InStep (hub.answer reply) asked := by
  -- The hub waits, and after the reply it does not.
  have hturn : Role.inTurn hub.conversation.messages.length = .model := h.next_iff.2 hl
  refine ⟨h.roles_append hturn, ?_, ?_, ?_, ?_, h.not_blank⟩
  · simp [Hub.answer, isLoading, Role.inTurn_succ_eq_model, hturn]
  · simp [Hub.answer, isLoading]
  · simp [Hub.answer, isLoading]
  · simp [Hub.answer, h.prompts_eq]

/-- Whatever the action, all stays in step with what the hub asks for. -/
theorem InStep.update (h : InStep hub asked) (action : Action) :
    InStep (hub.update action).1 (asked ++ (hub.update action).2.prompt?.toList) := by
  rcases hub.update_cases action with ⟨prompt, -, hb, hl, hu⟩ | ⟨reply, -, hl, hu⟩ | ⟨same, hp⟩
  · rw [hu]
    exact h.ask hb hl
  · rw [hu]
    simpa [Effect.prompt?] using h.answer reply hl
  · rw [hp]
    simpa using h.of_same same

theorem InStep.run (h : InStep hub asked) (moments : List Moment) :
    InStep (hub.run moments).1 (asked ++ (hub.run moments).2.filterMap Effect.prompt?) := by
  induction moments generalizing hub asked with
  | nil => simpa [Hub.run] using h
  | cons moment moments ih =>
    -- The time of an action is no part of the exchange.
    have hnow : InStep (hub.atTime moment.time) asked := h.of_same ⟨rfl, rfl, rfl, rfl⟩
    have hlast := ih (hnow.update moment.action)
    rw [List.append_assoc] at hlast
    cases hp : ((hub.atTime moment.time).update moment.action).2.prompt? with
    | none => simpa [Hub.run, hp] using hlast
    | some prompt => simpa [Hub.run, hp] using hlast

/-- After any actions, at any times: what had been said after some of them has been said in the same
    words, and first of all the welcome; the speakers have taken turns; the hub waits exactly if the
    user has spoken last, and exactly if the header says so; no prompt is blank; and the hub has
    asked for one exchange for each prompt of the transcript and no other, in their order. -/
theorem history_in_step (client : Client) (now : Clock) (moments : List Moment) :
    let hub := ((start client now).run moments).1
    let effects := ((start client now).run moments).2
    let messages := hub.conversation.messages
    (∀ n, ((start client now).run (moments.take n)).1.conversation.messages <+: messages) ∧
    messages.head? = some ⟨.model, welcome, now⟩ ∧
    messages.map (·.role) = (List.range messages.length).map Role.inTurn ∧
    (hub.isLoading = true ↔ hub.conversation.last.role = .user) ∧
    (hub.isLoading = true ↔ hub.status.text = "Generating...") ∧
    (∀ m ∈ messages, m.role = .user → m.content.isBlank = false) ∧
    effects.filterMap Effect.prompt? = (messages.filter (·.role = .user)).map (·.content) := by
  intro hub effects messages
  have h : InStep hub (effects.filterMap Effect.prompt?) := by
    simpa using (inStep_start client now).run moments
  have hearlier : ∀ n, ((start client now).run (moments.take n)).1.conversation.messages <+:
      messages := by
    intro n
    have hrun := run_append_fst (start client now) (moments.take n) (moments.drop n)
    rw [List.take_append_drop] at hrun
    rw [show messages = _ from congrArg (·.conversation.messages) hrun]
    exact messages_prefix_run _ _
  refine ⟨hearlier, ?_, h.roles_eq, h.last_iff.symm, ?_, fun m hm hr => ?_, h.prompts_eq.symm⟩
  · obtain ⟨later, hlater⟩ := hearlier 0
    rw [← hlater]
    rfl
  · rw [Status.text_eq_generating, h.status_iff]
  · have hprompt : m.content ∈ hub.conversation.prompts :=
      List.mem_map_of_mem (List.mem_filter.2 ⟨hm, by simpa using hr⟩)
    exact h.not_blank _ (h.prompts_eq ▸ hprompt)

end Hub

end CircuitHub

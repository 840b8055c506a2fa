import CircuitHub.Proofs.Hub.Update

/-!
# The hub at work

While the hub is at work, exchanges are under way, and the replies of those that have ended wait in
a queue until the hub receives them. Events of the user, ends of exchanges and receipts come in any
order (`RunningHub.Step`), and between them the screen is drawn and time goes by. What a provider
comes to is always a reply that can be shown (`isBlank_replyText`).

Whatever the order, the hub and the world stay in step, which is what the invariant `InTurns` says:
the exchanges that have begun are rounds that are over, each with a prompt and its reply, and at
most one more that is *open*, whose reply has not been received. The hub waits exactly while there
is one. So the queue never holds more than one reply, no reply is ever refused, and the transcript
is the welcome and the rounds, in the order in which their exchanges began
(`one_reply_for_each_prompt`).
-/

namespace CircuitHub

theorem Text.isBlank_append (a b : Text) : (a ++ b).isBlank = (a.isBlank && b.isBlank) :=
  List.all_append

/-! ## Replies -/

/-- An answer that says something is the reply. -/
theorem replyText_of_not_isBlank {text : Text} (h : text.isBlank = false) :
    replyText (.ok text) = text := by
  rw [replyText, h]
  rfl

/-- An answer that says nothing becomes a reply that says so. -/
theorem replyText_of_isBlank {text : Text} (h : text.isBlank = true) :
    replyText (.ok text) = "No response generated." := by
  rw [replyText, if_pos h]
  rfl

/-- An error becomes a reply that tells its cause. -/
theorem replyText_error (e : ProviderError) :
    replyText (.error e) = "Error communicating with AI: " ++ e.message := by
  have heading : errorHeading ++ ": ".toList = "Error communicating with AI: ".toList := by
    unfold errorHeading
    repeat rw [String.toList_ofList]
    decide +kernel
  rw [replyText, heading]

/-- A reply is never blank, whatever the provider comes to. -/
theorem isBlank_replyText (outcome : Outcome) : (replyText outcome).isBlank = false := by
  rcases outcome with e | text
  · have heading : Text.isBlank "Error communicating with AI: " = false := by decide
    rw [replyText_error, Text.isBlank_append, heading, Bool.false_and]
  · cases blank : text.isBlank with
    | false => rw [replyText_of_not_isBlank blank, blank]
    | true =>
      rw [replyText_of_isBlank blank]
      decide

/-! ## Exchanges -/

instance Outcome.decidableEq : DecidableEq Outcome
  | .ok reply, .ok reply' => decidable_of_iff (reply = reply') (by simp)
  | .error e, .error e' => decidable_of_iff (e = e') (by simp)
  | .ok _, .error _ => .isFalse nofun
  | .error _, .ok _ => .isFalse nofun

/-- An exchange that has begun. -/
structure Exchange where
  /-- What is asked. -/
  prompt : Text
  /-- What the exchange has come to, if it has ended. -/
  outcome? : Option Outcome
  deriving DecidableEq

/-- A hub, its console, and the world around them. -/
structure RunningHub where
  /-- The state of the hub. -/
  hub : Hub
  /-- What the views remember. -/
  console : Console
  /-- All exchanges that have begun, in that order. -/
  exchanges : List Exchange
  /-- The actions that have not been taken yet, the earliest first. -/
  queue : List Action

namespace RunningHub

/-- The hub and the console before anything has happened. -/
def start (client : Client) (now : Clock) : RunningHub := ⟨.start client now, .start, [], []⟩

/-- The exchanges that have not ended. -/
def underWay (r : RunningHub) : List Exchange := r.exchanges.filter (·.outcome?.isNone)

/-- The session of a hub at work. -/
def session (r : RunningHub) : Session := ⟨r.hub, r.console, r.underWay.map (·.prompt)⟩

/-- The hub after an event. An exchange that the event asks for begins. -/
def dispatch (r : RunningHub) (e : Event) : RunningHub :=
  let (s, effect) := r.session.dispatch e
  { r with
    hub := s.hub
    console := s.console
    exchanges := r.exchanges ++ effect.prompt?.toList.map (⟨·, none⟩) }

/-- The hub when the exchange `x` in the place `k` has ended. Its reply waits to be received. -/
def finish (r : RunningHub) (k : Nat) (x : Exchange) (outcome : Outcome) : RunningHub :=
  { r with
    exchanges := r.exchanges.set k { x with outcome? := some outcome }
    queue := r.queue ++ [.receive (replyText outcome)] }

/-- The hub when an action has been taken from the queue, of which `rest` is left. -/
def take (r : RunningHub) (action : Action) (rest : List Action) : RunningHub :=
  { r with hub := (r.hub.update action).1, queue := rest }

/-- The hub when it has been drawn. -/
def draw (r : RunningHub) (step : Nat) (frame : Frame) : RunningHub :=
  { r with console := ((r.console.sync r.hub).draw r.hub step frame).1 }

/-- The hub some seconds later. -/
def pass (r : RunningHub) (seconds : Nat) : RunningHub :=
  { r with hub := { r.hub with now := r.hub.now + seconds } }

/-- What may happen next to a hub at work. An exchange ends as its provider and the limit on its
    time have it; each exchange may have a provider of its own. -/
inductive Step : RunningHub → RunningHub → Prop
  | dispatch (r : RunningHub) (e : Event) : Step r (r.dispatch e)
  | finish {r : RunningHub} {k : Nat} {x : Exchange} (provider : Provider) {answer : Answer} :
    r.exchanges[k]? = some x → x.outcome? = none →
    Client.settle r.hub.client.limit? (provider (r.hub.client.request x.prompt)) = some answer →
    Step r (r.finish k x answer.outcome)
  | take {r : RunningHub} {action : Action} {rest : List Action} :
    r.queue = action :: rest → Step r (r.take action rest)
  | draw (r : RunningHub) (step : Nat) (frame : Frame) : Step r (r.draw step frame)
  | pass (r : RunningHub) (seconds : Nat) : Step r (r.pass seconds)

/-- The states of a hub at work. -/
inductive Reachable : RunningHub → Prop
  | start (client : Client) (now : Clock) : Reachable (start client now)
  | step {r r' : RunningHub} : Reachable r → Step r r' → Reachable r'

/-! ## Rounds -/

/-- A prompt, and what its exchange has come to. -/
structure Round where
  prompt : Text
  outcome : Outcome

/-- The exchange of a round. -/
def Round.exchange (x : Round) : Exchange := ⟨x.prompt, some x.outcome⟩

/-- What the transcript says of a round: the prompt, and the reply that the outcome becomes. -/
def Round.turns (x : Round) : List (Role × Text) :=
  [(.user, x.prompt), (.model, replyText x.outcome)]

/-- After some rounds, and with the exchange of one more prompt open or not, the hub waits exactly
    if there is one; the queue holds its reply, once there is one; and the transcript says nothing
    but what the rounds say, and the open prompt. -/
structure InTurns (r : RunningHub) (rounds : List Round) (open? : Option Exchange) : Prop where
  exchanges_eq : r.exchanges = rounds.map Round.exchange ++ open?.toList
  isLoading_eq : r.hub.isLoading = open?.isSome
  queue_eq : r.queue =
    (open?.bind (·.outcome?)).toList.map fun outcome => .receive (replyText outcome)
  turns_eq : r.hub.conversation.turns =
    (.model, welcome) :: rounds.flatMap Round.turns ++ open?.toList.map fun x => (.user, x.prompt)

theorem inTurns_start (client : Client) (now : Clock) : InTurns (start client now) [] none :=
  ⟨rfl, rfl, rfl, rfl⟩

variable {r : RunningHub} {rounds : List Round} {open? : Option Exchange}

/-- An event opens an exchange only where none is open. -/
theorem InTurns.dispatch (h : InTurns r rounds open?) (e : Event) :
    ∃ open?', InTurns (r.dispatch e) rounds open?' := by
  rcases r.session.dispatch_cases e with ⟨prompt, -, hl, hub, effect⟩ | ⟨same, effect⟩
  · -- The hub did not wait, so that all exchanges so far are rounds.
    have hnone : open? = none := by
      have := h.isLoading_eq
      rw [show r.hub.isLoading = false from hl] at this
      simpa using this.symm
    subst hnone
    refine ⟨some ⟨prompt, none⟩, ?_, ?_, h.queue_eq, ?_⟩
    · simp [RunningHub.dispatch, effect, Effect.prompt?, h.exchanges_eq]
    · simp [RunningHub.dispatch, hub]
    · have := h.turns_eq
      simp_all [RunningHub.dispatch, session, Hub.ask]
  · -- The rounds and the open prompt, if there is one, stay.
    refine ⟨open?, ?_, ?_, h.queue_eq, ?_⟩
    · simpa [RunningHub.dispatch, effect] using h.exchanges_eq
    · exact same.isLoading.trans h.isLoading_eq
    · simp only [RunningHub.dispatch, same.conversation]
      exact h.turns_eq

/-- Only the open exchange can end, as all others have. -/
theorem InTurns.finish (h : InTurns r rounds open?) {k : Nat} {x : Exchange} (outcome : Outcome)
    (hk : r.exchanges[k]? = some x) (hx : x.outcome? = none) :
    InTurns (r.finish k x outcome) rounds (some { x with outcome? := some outcome }) := by
  rw [h.exchanges_eq] at hk
  have hlen : k = rounds.length ∧ open? = some x := by
    rcases Nat.lt_or_ge k rounds.length with hlt | hge
    · -- An exchange of a round has ended.
      rw [List.getElem?_append_left (by simpa using hlt), List.getElem?_map,
        Option.map_eq_some_iff] at hk
      obtain ⟨y, -, rfl⟩ := hk
      exact nomatch hx
    · rw [List.getElem?_append_right (by simpa using hge), List.length_map] at hk
      cases open? with
      | none => exact nomatch hk
      | some y =>
        obtain ⟨h0, hy⟩ := List.getElem?_eq_some_iff.1 hk
        simp only [Option.toList_some, List.length_singleton] at h0
        exact ⟨by omega, by simpa using hy⟩
  obtain ⟨rfl, rfl⟩ := hlen
  refine ⟨?_, h.isLoading_eq, ?_, h.turns_eq⟩
  · simp [RunningHub.finish, h.exchanges_eq]
  · simp [RunningHub.finish, h.queue_eq, hx]

/-- The action that is taken is the reply to the open prompt, and completes its round. -/
theorem InTurns.take (h : InTurns r rounds open?) {action : Action} {rest : List Action}
    (hq : r.queue = action :: rest) :
    ∃ x : Round, InTurns (r.take action rest) (rounds ++ [x]) none := by
  rw [h.queue_eq] at hq
  rcases open? with _ | ⟨prompt, _ | outcome⟩
  · exact nomatch hq
  · exact nomatch hq
  · -- As the hub waits, it receives the one reply there is.
    obtain ⟨rfl, rfl⟩ : .receive (replyText outcome) = action ∧ [] = rest := by simpa using hq
    have hu := Hub.update_receive h.isLoading_eq (replyText outcome)
    refine ⟨⟨prompt, outcome⟩, ?_, ?_, rfl, ?_⟩
    · simp [RunningHub.take, h.exchanges_eq, Round.exchange]
    · simp [RunningHub.take, hu]
    · have := h.turns_eq
      simp_all [RunningHub.take, Hub.answer, Round.turns]

theorem InTurns.step (h : InTurns r rounds open?) {r' : RunningHub} (hs : Step r r') :
    ∃ rounds' open?', InTurns r' rounds' open?' := by
  cases hs with
  | dispatch e => exact ⟨rounds, h.dispatch e⟩
  | finish provider hk hx _ => exact ⟨rounds, _, h.finish _ hk hx⟩
  | take hq =>
    obtain ⟨x, hx⟩ := h.take hq
    exact ⟨_, _, hx⟩
  | draw step frame => exact ⟨rounds, open?, h.exchanges_eq, h.isLoading_eq, h.queue_eq, h.turns_eq⟩
  | pass seconds => exact ⟨rounds, open?, h.exchanges_eq, h.isLoading_eq, h.queue_eq, h.turns_eq⟩

theorem Reachable.inTurns (h : Reachable r) : ∃ rounds open?, InTurns r rounds open? := by
  induction h with
  | start client now => exact ⟨_, _, inTurns_start client now⟩
  | step _ hs ih =>
    obtain ⟨_, _, ih⟩ := ih
    exact ih.step hs

/-- All exchanges of rounds have ended. -/
theorem InTurns.underWay_eq (h : InTurns r rounds open?) :
    r.underWay = open?.toList.filter (·.outcome?.isNone) := by
  rw [underWay, h.exchanges_eq, List.filter_append]
  simp [Round.exchange]

/-- The open exchange is under way, or its reply waits to be received. -/
theorem InTurns.outstanding_eq (h : InTurns r rounds open?) :
    r.underWay.length + r.queue.length = if r.hub.isLoading then 1 else 0 := by
  rw [h.underWay_eq, h.queue_eq, h.isLoading_eq]
  rcases open? with _ | ⟨prompt, _ | outcome⟩ <;> rfl

/-- No reply in the queue will be refused. -/
theorem InTurns.update_of_mem_queue (h : InTurns r rounds open?) {action : Action}
    (ha : action ∈ r.queue) :
    ∃ reply, action = .receive reply ∧ r.hub.update action = (r.hub.answer reply, .none) := by
  rw [h.queue_eq] at ha
  rcases open? with _ | ⟨prompt, _ | outcome⟩
  · simp at ha
  · simp at ha
  · obtain rfl : action = .receive (replyText outcome) := by simpa using ha
    exact ⟨_, rfl, Hub.update_receive h.isLoading_eq _⟩

/-- However events, ends of exchanges and receipts follow each other: there is exactly one exchange
    under way or reply in the queue while the hub waits, and none else; no reply in the queue is
    refused; and the transcript is the welcome and then, in the order of the exchanges, each
    prompt with the reply that its own exchange has come to, which is not blank, and at last the
    open prompt while the hub waits. -/
theorem one_reply_for_each_prompt (h : Reachable r) :
    (r.underWay.length + r.queue.length = if r.hub.isLoading then 1 else 0) ∧
    (∀ action ∈ r.queue, ∃ reply, action = .receive reply ∧
      r.hub.update action = (r.hub.answer reply, .none)) ∧
    ∃ (rounds : List Round) (open? : Option Exchange),
      r.exchanges = rounds.map Round.exchange ++ open?.toList ∧
      open?.isSome = r.hub.isLoading ∧
      r.hub.conversation.turns =
        (.model, welcome) :: rounds.flatMap Round.turns ++
          open?.toList.map (fun x => (.user, x.prompt)) ∧
      ∀ x ∈ rounds, (replyText x.outcome).isBlank = false := by
  obtain ⟨rounds, open?, hi⟩ := h.inTurns
  exact ⟨hi.outstanding_eq, fun _ ha => hi.update_of_mem_queue ha, rounds, open?, hi.exchanges_eq,
    hi.isLoading_eq.symm, hi.turns_eq, fun x _ => isBlank_replyText x.outcome⟩

/-- A hub that has been asked `h` in the designer. -/
def asked : RunningHub :=
  (((start (.ofModel defaultModel) 0).dispatch (.selectView 3)).dispatch (.type 'h')).dispatch
    .submit

theorem reachable_asked : Reachable asked :=
  .step (.step (.step (.start _ 0) (.dispatch _ (.selectView 3))) (.dispatch _ (.type 'h')))
    (.dispatch _ .submit)

/-- Its exchange ends with a blank text, and the reply that says so waits to be received. -/
def blankReply : RunningHub := asked.finish 0 ⟨['h'], none⟩ (.ok [' '])

theorem reachable_blankReply : Reachable blankReply := by
  have limit : asked.hub.client.limit? = none := by decide +kernel
  have settled : Client.settle asked.hub.client.limit? (some ⟨0, .ok [' ']⟩) =
      some ⟨0, .ok [' ']⟩ := by
    rw [limit]
    rfl
  exact reachable_asked.step
    (.finish (fun _ => some ⟨0, .ok [' ']⟩) (by decide +kernel) rfl settled)

theorem one_reply_for_each_prompt_blankReply :
    Reachable blankReply ∧ blankReply.queue = [.receive noResponse] ∧
      blankReply.underWay.length + blankReply.queue.length = 1 ∧
      (blankReply.hub.update (.receive noResponse)).1.conversation.turns =
        [(.model, welcome), (.user, ['h']), (.model, noResponse)] := by
  obtain ⟨outstanding, taken, -⟩ := one_reply_for_each_prompt reachable_blankReply
  have queue : blankReply.queue = [.receive noResponse] := by decide +kernel
  refine ⟨reachable_blankReply, queue, outstanding.trans (by decide +kernel), ?_⟩
  obtain ⟨reply, h, hu⟩ := taken (.receive noResponse) (by simp [queue])
  cases h
  rw [hu]
  decide +kernel

end RunningHub

end CircuitHub

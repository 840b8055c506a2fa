import CircuitHub.Proofs.Exchange.Running
import Mathlib.Data.List.Basic
import Mathlib.Logic.Relation

/-!
# Prompts sent one after another

A client sends prompts one after another, each when the reply to the one before has come. Time goes
by in thousandths of a second, and never past the moment at which the reply that is awaited is due
(`Sending.Step`). A call whose time is over goes on all the same: its answer still comes, but
nobody awaits it.

The calls that have ended are *rounds*, each of a call and of the reply to it, and at most one more
call is open, which is what the invariant `InOrder` says.

* A round ends with the answer of its own call or with the limit (`Call.Ends`), which is what
  `Client.send` says of its prompt alone (`Call.Ends.send_eq`).
* The reply to the open call comes (`InOrder.exists_run_round`), unless there is neither an answer
  nor a limit.
* So each prompt is one call, and has the reply of that call (`one_call_for_each_prompt`).
-/

namespace CircuitHub

open Relation (ReflTransGen)

/-- The reply that names a limit on the time says how many whole seconds it has. -/
theorem replyText_timeout (limit : Nat) :
    replyText (.error (.timeout limit)) =
      "Error communicating with AI: request timed out after " ++
        Text.ofNat (limit / 1000) ++ ['s'] := by
  have heading : "Error communicating with AI: ".toList ++ "request timed out after ".toList =
      "Error communicating with AI: request timed out after ".toList := by
    repeat rw [String.toList_ofList]
    decide +kernel
  have message : (ProviderError.timeout limit).message =
      "request timed out after " ++ (Text.ofNat (limit / 1000) ++ ['s']) := List.append_assoc _ _ _
  rw [replyText_error, message, ← heading, List.append_assoc _ _ ['s']]
  exact (List.append_assoc _ _ _).symm

namespace Sending

/-- A call of the provider. Its answer comes when it is due, whether or not anyone awaits it. -/
structure Call where
  /-- What is asked. -/
  request : Request
  /-- When the call has begun. -/
  begun : Nat
  /-- The answer that is going to come, if one is. -/
  answer? : Option Answer

/-- A reply that has come. -/
structure Reply where
  /-- What it says. -/
  text : Text
  /-- When it has come. -/
  time : Nat

/-- The reply with which a call ends: what the answer becomes, where it is there at once or no
    limit is below its delay, and when it is due; or else the limit, when it has passed. Where the
    delay is the limit, both may be. -/
inductive Call.Ends (limit? : Option Nat) (call : Call) : Reply → Prop
  | answered {answer : Answer} : call.answer? = some answer →
    (answer.delay = 0 ∨ ∀ limit ∈ limit?, answer.delay ≤ limit) →
    call.Ends limit? ⟨replyText answer.outcome, call.begun + answer.delay⟩
  | expired {limit : Nat} : limit? = some limit →
    (∀ answer ∈ call.answer?, answer.delay ≠ 0 ∧ limit ≤ answer.delay) →
    call.Ends limit? ⟨"Error communicating with AI: request timed out after " ++
      Text.ofNat (limit / 1000) ++ ['s'], call.begun + limit⟩

end Sending

/-- A client that sends prompts, and the calls that it has made. -/
structure Sending where
  /-- The time. -/
  now : Nat
  /-- The prompts that have not been sent yet. -/
  prompts : List Text
  /-- All calls that have begun, in that order. -/
  calls : List Sending.Call
  /-- The place among the calls of the one that is awaited, if one is. -/
  awaited? : Option Nat
  /-- The replies so far, in the order in which they have come. -/
  replies : List Sending.Reply

namespace Sending

/-- A client with some prompts to send. -/
def start (now : Nat) (prompts : List Text) : Sending := ⟨now, prompts, [], none, []⟩

/-- The call that asks for a prompt now. -/
def nextCall (client : Client) (provider : Nat → Provider) (s : Sending) (prompt : Text) : Call :=
  ⟨client.request prompt, s.now, provider s.calls.length (client.request prompt)⟩

/-- The client when a call has begun, which is awaited from now on, with some prompts left. -/
def ask (s : Sending) (call : Call) (prompts : List Text) : Sending :=
  { s with prompts := prompts, calls := s.calls ++ [call], awaited? := some s.calls.length }

/-- The client when a reply has come, and nothing is awaited any more. -/
def reply (s : Sending) (text : Text) : Sending :=
  { s with awaited? := none, replies := s.replies ++ [⟨text, s.now⟩] }

/-- The client a thousandth of a second later. -/
def tick (s : Sending) : Sending := { s with now := s.now + 1 }

/-- What may happen next to a client. Its provider may answer each call in another way. The call
    that is awaited is looked at before the limit is, so that an answer without delay is never too
    late; and time does not go by while an answer or the limit is due. -/
inductive Step (client : Client) (provider : Nat → Provider) : Sending → Sending → Prop
  | ask {s : Sending} {prompt : Text} {rest : List Text} :
    s.awaited? = none → s.prompts = prompt :: rest →
    Step client provider s (s.ask (nextCall client provider s prompt) rest)
  | receive {s : Sending} {k : Nat} {call : Call} {answer : Answer} :
    s.awaited? = some k → s.calls[k]? = some call → call.answer? = some answer →
    call.begun + answer.delay ≤ s.now →
    Step client provider s (s.reply (replyText answer.outcome))
  | expire {s : Sending} {k limit : Nat} {call : Call} :
    s.awaited? = some k → s.calls[k]? = some call → client.limit? = some limit →
    call.begun + limit ≤ s.now → (∀ answer ∈ call.answer?, answer.delay ≠ 0) →
    Step client provider s (s.reply (replyText (.error (.timeout limit))))
  | wait {s : Sending} {k : Nat} {call : Call} :
    s.awaited? = some k → s.calls[k]? = some call →
    (∀ answer ∈ call.answer?, s.now < call.begun + answer.delay) →
    (∀ limit ∈ client.limit?, s.now < call.begun + limit) →
    Step client provider s s.tick
  | idle {s : Sending} : s.awaited? = none → Step client provider s s.tick

/-- A call, and the reply with which it has ended. -/
structure Round where
  call : Call
  reply : Reply

/-- After some rounds, and with one more call open or not: the calls are those of the rounds and
    the open one, which is awaited; the replies are those of the rounds; the calls so far ask for
    the prompts that are sent, in their order, and have the answers that the provider gives them;
    each round has ended as its call does; no call has begun before the reply to the one before it;
    and no answer and no limit of the open call is overdue. -/
structure InOrder (client : Client) (provider : Nat → Provider) (prompts : List Text)
    (s : Sending) (rounds : List Round) (open? : Option Call) : Prop where
  calls_eq : s.calls = rounds.map Round.call ++ open?.toList
  replies_eq : s.replies = rounds.map Round.reply
  awaited_eq : s.awaited? = open?.map fun _ => rounds.length
  requests_eq : s.calls.map Call.request ++ s.prompts.map client.request =
    prompts.map client.request
  answer_eq : ∀ {k call}, s.calls[k]? = some call → call.answer? = provider k call.request
  ends : ∀ x ∈ rounds, x.call.Ends client.limit? x.reply
  follows : ∀ {k call}, s.calls[k + 1]? = some call →
    ∃ reply, s.replies[k]? = some reply ∧ reply.time ≤ call.begun
  time_le_now : ∀ reply ∈ s.replies, reply.time ≤ s.now
  begun_le_now : ∀ call ∈ open?, call.begun ≤ s.now
  now_le_answer : ∀ call ∈ open?, ∀ answer ∈ call.answer?, s.now ≤ call.begun + answer.delay
  now_le_limit : ∀ call ∈ open?, ∀ limit ∈ client.limit?, s.now ≤ call.begun + limit

section
variable {client : Client} {provider : Nat → Provider} {prompts : List Text}
  {s : Sending} {rounds : List Round} {open? : Option Call}

theorem inOrder_start (now : Nat) :
    InOrder client provider prompts (start now prompts) [] none := by
  constructor <;> simp [start]

/-- After one more call, the calls are those from before, and the new one in the last place. -/
theorem calls_ask_cases {new : Call} {rest : List Text} {k : Nat} {call : Call}
    (hk : (s.ask new rest).calls[k]? = some call) :
    s.calls[k]? = some call ∨ k = s.calls.length ∧ call = new := by
  rw [ask] at hk
  rcases Nat.lt_trichotomy k s.calls.length with lt | rfl | gt
  · rw [List.getElem?_append_left lt] at hk
    exact .inl hk
  · rw [List.getElem?_concat_length] at hk
    exact .inr ⟨rfl, (Option.some.inj hk).symm⟩
  · have bound := (List.getElem?_eq_some_iff.1 hk).1
    simp only [List.length_append, List.length_singleton] at bound
    omega

/-- A call is made only when none is open, and it asks for the next prompt. -/
theorem InOrder.ask (h : InOrder client provider prompts s rounds open?) {prompt : Text}
    {rest : List Text} (free : s.awaited? = none) (next : s.prompts = prompt :: rest) :
    InOrder client provider prompts (s.ask (nextCall client provider s prompt) rest) rounds
      (some (nextCall client provider s prompt)) := by
  obtain rfl : open? = none := by simpa [free] using h.awaited_eq.symm
  have calls_eq : s.calls = rounds.map Round.call := by simpa using h.calls_eq
  have length_eq : s.replies.length = s.calls.length := by simp [calls_eq, h.replies_eq]
  refine { h with
    calls_eq := by simp [Sending.ask, calls_eq]
    awaited_eq := by simp [Sending.ask, calls_eq]
    requests_eq := by simpa [Sending.ask, nextCall, next] using h.requests_eq
    answer_eq := ?_
    follows := ?_
    begun_le_now := by simp [Sending.ask, nextCall]
    now_le_answer := by simp [Sending.ask, nextCall]
    now_le_limit := by simp [Sending.ask, nextCall] }
  · intro k call hk
    rcases calls_ask_cases hk with before | ⟨rfl, rfl⟩
    · exact h.answer_eq before
    · rfl
  · intro k call hk
    rcases calls_ask_cases hk with before | ⟨last, rfl⟩
    · exact h.follows before
    · have lt : k < s.replies.length := by omega
      exact ⟨s.replies[k], List.getElem?_eq_getElem lt,
        h.time_le_now _ (List.getElem_mem lt)⟩

/-- The call that is awaited is the open one. -/
theorem InOrder.open_eq (h : InOrder client provider prompts s rounds open?) {k : Nat}
    {call : Call} (hk : s.awaited? = some k) (hc : s.calls[k]? = some call) :
    open? = some call := by
  rw [h.awaited_eq, Option.map_eq_some_iff] at hk
  obtain ⟨call', rfl, rfl⟩ := hk
  simpa [h.calls_eq] using hc

/-- An answer is not overdue, so that the open call ends with it exactly in its time. -/
theorem InOrder.ends_of_answer {call : Call}
    (h : InOrder client provider prompts s rounds (some call)) {answer : Answer}
    (ha : call.answer? = some answer) (due : call.begun + answer.delay ≤ s.now) :
    call.Ends client.limit? ⟨replyText answer.outcome, s.now⟩ := by
  have now_eq : s.now = call.begun + answer.delay :=
    Nat.le_antisymm (h.now_le_answer call rfl answer ha) due
  rw [now_eq]
  refine .answered ha (.inr fun limit hl => ?_)
  have := h.now_le_limit call rfl limit hl
  omega

/-- The limit is not overdue either. -/
theorem InOrder.ends_of_limit {call : Call}
    (h : InOrder client provider prompts s rounds (some call)) {limit : Nat}
    (hl : client.limit? = some limit) (due : call.begun + limit ≤ s.now)
    (later : ∀ answer ∈ call.answer?, answer.delay ≠ 0) :
    call.Ends client.limit? ⟨replyText (.error (.timeout limit)), s.now⟩ := by
  have now_eq : s.now = call.begun + limit :=
    Nat.le_antisymm (h.now_le_limit call rfl limit hl) due
  rw [now_eq, replyText_timeout]
  refine .expired hl fun answer ha => ⟨later answer ha, ?_⟩
  have := h.now_le_answer call rfl answer ha
  omega

/-- A reply completes the round of the open call, where it is one with which that call ends. -/
theorem InOrder.reply {call : Call} (h : InOrder client provider prompts s rounds (some call))
    {text : Text} (ends : call.Ends client.limit? ⟨text, s.now⟩) :
    InOrder client provider prompts (s.reply text) (rounds ++ [⟨call, ⟨text, s.now⟩⟩]) none where
  calls_eq := by simpa [Sending.reply] using h.calls_eq
  replies_eq := by simp [Sending.reply, h.replies_eq]
  awaited_eq := rfl
  requests_eq := h.requests_eq
  answer_eq := h.answer_eq
  ends := by
    intro x hx
    rcases List.mem_append.1 hx with hx | hx
    · exact h.ends x hx
    · obtain rfl := List.mem_singleton.1 hx
      exact ends
  follows := by
    intro k call' hk
    obtain ⟨reply, hr, le⟩ := h.follows hk
    refine ⟨reply, ?_, le⟩
    rw [Sending.reply, List.getElem?_append_left (List.getElem?_eq_some_iff.1 hr).1, hr]
  time_le_now := by
    intro reply hr
    rcases List.mem_append.1 hr with hr | hr
    · exact h.time_le_now reply hr
    · obtain rfl := List.mem_singleton.1 hr
      exact Nat.le_refl _
  begun_le_now := nofun
  now_le_answer := nofun
  now_le_limit := nofun

/-- Time may go by where nothing is due. -/
theorem InOrder.tick (h : InOrder client provider prompts s rounds open?)
    (answers : ∀ call ∈ open?, ∀ answer ∈ call.answer?, s.now < call.begun + answer.delay)
    (limits : ∀ call ∈ open?, ∀ limit ∈ client.limit?, s.now < call.begun + limit) :
    InOrder client provider prompts s.tick rounds open? :=
  { h with
    time_le_now := fun reply hr => Nat.le_succ_of_le (h.time_le_now reply hr)
    begun_le_now := fun call hc => Nat.le_succ_of_le (h.begun_le_now call hc)
    now_le_answer := answers
    now_le_limit := limits }

theorem InOrder.step (h : InOrder client provider prompts s rounds open?) {s' : Sending}
    (hs : Step client provider s s') :
    ∃ rounds' open?', InOrder client provider prompts s' rounds' open?' := by
  cases hs with
  | ask free next => exact ⟨_, _, h.ask free next⟩
  | receive hk hc ha due =>
    obtain rfl := h.open_eq hk hc
    exact ⟨_, _, h.reply (h.ends_of_answer ha due)⟩
  | expire hk hc hl due later =>
    obtain rfl := h.open_eq hk hc
    exact ⟨_, _, h.reply (h.ends_of_limit hl due later)⟩
  | wait hk hc answers limits =>
    obtain rfl := h.open_eq hk hc
    exact ⟨_, _, h.tick (by simpa using answers) (by simpa using limits)⟩
  | idle free =>
    obtain rfl : open? = none := by simpa [free] using h.awaited_eq.symm
    exact ⟨_, _, h.tick nofun nofun⟩

theorem InOrder.run (h : InOrder client provider prompts s rounds open?) {s' : Sending}
    (hs : ReflTransGen (Step client provider) s s') :
    ∃ rounds' open?', InOrder client provider prompts s' rounds' open?' := by
  induction hs with
  | refl => exact ⟨_, _, h⟩
  | tail _ hs ih =>
    obtain ⟨_, _, ih⟩ := ih
    exact ih.step hs

/-- A call that has begun asks for the prompt in its place. -/
theorem InOrder.exists_prompt (h : InOrder client provider prompts s rounds open?) {k : Nat}
    {call : Call} (hc : s.calls[k]? = some call) :
    ∃ prompt, prompts[k]? = some prompt ∧ call.request = client.request prompt := by
  have hk : (prompts.map client.request)[k]? = some call.request := by
    rw [← h.requests_eq, List.getElem?_append_left
      (by simpa using (List.getElem?_eq_some_iff.1 hc).1), List.getElem?_map, hc, Option.map_some]
  rw [List.getElem?_map, Option.map_eq_some_iff] at hk
  obtain ⟨prompt, hp, eq⟩ := hk
  exact ⟨prompt, hp, eq.symm⟩

/-! ## What a client says of a prompt alone -/

/-- Where the delay is not the limit, a call ends as `Client.send` says. -/
theorem Call.Ends.send_eq {call : Call} {reply : Reply} (ends : call.Ends client.limit? reply)
    {provider : Provider} {prompt : Text}
    (answer_eq : call.answer? = provider (client.request prompt))
    (untied : ∀ answer ∈ call.answer?, client.limit? = some answer.delay → answer.delay = 0) :
    ∃ time, client.send provider prompt = some (reply.text, time) ∧
      reply.time = call.begun + time := by
  rw [Client.send, ← answer_eq]
  cases ends with
  | @answered answer ha early =>
    refine ⟨answer.delay, ?_, rfl⟩
    rw [ha]
    cases hl : client.limit? with
    | none => rfl
    | some limit =>
      have in_time : answer.delay = 0 ∨ answer.delay < limit := by
        rcases early with zero | le
        · exact .inl zero
        · rcases Nat.lt_or_eq_of_le (le limit hl) with lt | eq
          · exact .inr lt
          · exact .inl (untied answer ha (eq ▸ hl))
      simp [Client.settle, in_time]
  | @expired limit hl late =>
    refine ⟨limit, ?_, rfl⟩
    rw [hl, ← replyText_timeout]
    cases ha : call.answer? with
    | none => rfl
    | some answer =>
      obtain ⟨later, le⟩ := late answer ha
      simp [Client.settle, later, Nat.not_lt.2 le]

/-- No call ends with a blank reply. -/
theorem Call.Ends.isBlank_text {limit? : Option Nat} {call : Call} {reply : Reply}
    (ends : call.Ends limit? reply) : reply.text.isBlank = false := by
  cases ends with
  | answered => exact isBlank_replyText _
  | @expired limit => exact replyText_timeout limit ▸ isBlank_replyText (.error (.timeout limit))

/-! ## No prompt stays without a reply -/

/-- The open call ends, or the client waits because nothing is due. -/
theorem InOrder.exists_step {call : Call}
    (h : InOrder client provider prompts s rounds (some call)) :
    (∃ text, Step client provider s (s.reply text) ∧
      InOrder client provider prompts (s.reply text) (rounds ++ [⟨call, ⟨text, s.now⟩⟩]) none) ∨
    (Step client provider s s.tick ∧ InOrder client provider prompts s.tick rounds (some call) ∧
      (∀ answer ∈ call.answer?, s.now < call.begun + answer.delay) ∧
      (∀ limit ∈ client.limit?, s.now < call.begun + limit)) := by
  have hk : s.awaited? = some rounds.length := h.awaited_eq
  have hc : s.calls[rounds.length]? = some call := by simp [h.calls_eq]
  by_cases answers : ∀ answer ∈ call.answer?, s.now < call.begun + answer.delay
  · by_cases limits : ∀ limit ∈ client.limit?, s.now < call.begun + limit
    · have waiting := h.tick (by simpa using answers) (by simpa using limits)
      exact .inr ⟨.wait hk hc answers limits, waiting, answers, limits⟩
    · obtain ⟨limit, hl, due⟩ : ∃ limit, client.limit? = some limit ∧
          call.begun + limit ≤ s.now := by simpa using limits
      have later : ∀ answer ∈ call.answer?, answer.delay ≠ 0 := by
        intro answer ha
        have := answers answer ha
        have := h.begun_le_now call rfl
        omega
      exact .inl ⟨_, .expire hk hc hl due later, h.reply (h.ends_of_limit hl due later)⟩
  · obtain ⟨answer, ha, due⟩ : ∃ answer, call.answer? = some answer ∧
        call.begun + answer.delay ≤ s.now := by simpa using answers
    exact .inl ⟨_, .receive hk hc ha due, h.reply (h.ends_of_answer ha due)⟩

/-- The open call ends, where its answer or the limit is due some time after it has begun. -/
theorem InOrder.exists_run_round {s : Sending} {call : Call} {time : Nat}
    (h : InOrder client provider prompts s rounds (some call))
    (due : (∃ answer ∈ call.answer?, answer.delay = time) ∨ client.limit? = some time) :
    ∃ s' round, ReflTransGen (Step client provider) s s' ∧ s'.prompts = s.prompts ∧
      InOrder client provider prompts s' (rounds ++ [round]) none := by
  rcases h.exists_step with ⟨text, replied, h'⟩ | ⟨waited, h', answers, limits⟩
  · exact ⟨_, _, .single replied, rfl, h'⟩
  · have before : s.now < call.begun + time := by
      rcases due with ⟨answer, ha, rfl⟩ | hl
      · exact answers answer ha
      · exact limits time hl
    obtain ⟨s', round, run, same, ended⟩ := h'.exists_run_round due
    exact ⟨s', round, run.head waited, same, ended⟩
termination_by call.begun + time - s.now
decreasing_by
  simp only [Sending.tick]
  omega

/-- The reply to the call that is open comes, if its answer does or there is a limit. -/
theorem InOrder.exists_run_of_open
    (h : InOrder client provider prompts s rounds open?)
    (ending : client.limit? = none →
      ∀ k prompt, prompts[k]? = some prompt → provider k (client.request prompt) ≠ none) :
    ∃ s' rounds', ReflTransGen (Step client provider) s s' ∧ s'.prompts = s.prompts ∧
      InOrder client provider prompts s' rounds' none := by
  rcases open? with _ | call
  · exact ⟨s, rounds, .refl, rfl, h⟩
  · have hc : s.calls[rounds.length]? = some call := by simp [h.calls_eq]
    obtain ⟨prompt, hp, request_eq⟩ := h.exists_prompt hc
    have answer_eq : call.answer? = provider rounds.length (client.request prompt) :=
      request_eq ▸ h.answer_eq hc
    obtain ⟨time, due⟩ : ∃ time, (∃ answer ∈ call.answer?, answer.delay = time) ∨
        client.limit? = some time := by
      cases hl : client.limit? with
      | some limit => exact ⟨limit, .inr rfl⟩
      | none =>
        obtain ⟨answer, ha⟩ := Option.ne_none_iff_exists'.1 (ending hl _ prompt hp)
        exact ⟨answer.delay, .inl ⟨answer, answer_eq.trans ha, rfl⟩⟩
    obtain ⟨s', round, run, same, ended⟩ := h.exists_run_round due
    exact ⟨s', _, run, same, ended⟩

/-- All prompts that are left can be sent, and have their replies. -/
theorem InOrder.exists_run_all (h : InOrder client provider prompts s rounds none)
    (ending : client.limit? = none →
      ∀ k prompt, prompts[k]? = some prompt → provider k (client.request prompt) ≠ none) :
    ∃ s' rounds', ReflTransGen (Step client provider) s s' ∧ s'.prompts = [] ∧
      InOrder client provider prompts s' rounds' none := by
  have free : s.awaited? = none := h.awaited_eq
  induction left : s.prompts generalizing s rounds with
  | nil => exact ⟨s, rounds, .refl, left, h⟩
  | cons prompt rest ih =>
    obtain ⟨s₁, rounds₁, run₁, left₁, h₁⟩ :=
      (h.ask free left).exists_run_of_open ending
    obtain ⟨s₂, rounds₂, run₂, left₂, h₂⟩ := ih h₁ h₁.awaited_eq left₁
    exact ⟨s₂, rounds₂, (run₁.head (.ask free left)).trans run₂, left₂, h₂⟩

/-! ## A call for each prompt -/

/-- A reply is that of a round. -/
theorem InOrder.exists_round (h : InOrder client provider prompts s rounds open?) {k : Nat}
    {reply : Reply} (hr : s.replies[k]? = some reply) :
    ∃ call, rounds[k]? = some ⟨call, reply⟩ ∧ s.calls[k]? = some call := by
  rw [h.replies_eq, List.getElem?_map, Option.map_eq_some_iff] at hr
  obtain ⟨⟨call, _⟩, hx, rfl⟩ := hr
  refine ⟨call, hx, ?_⟩
  rw [h.calls_eq, List.getElem?_append_left (by simpa using (List.getElem?_eq_some_iff.1 hx).1),
    List.getElem?_map, hx, Option.map_some]

/-- When no prompt is left and none is awaited, all prompts have replies. -/
theorem InOrder.length_replies (h : InOrder client provider prompts s rounds none)
    (left : s.prompts = []) : s.replies.length = prompts.length := by
  have := congrArg List.length h.requests_eq
  simpa [left, h.calls_eq, h.replies_eq] using this

/-- However a run of a client goes on: each prompt that is sent is one call of the provider, in the
    order of the prompts, with the model and the instruction of the client, and begins when the
    reply to the one before has come. A reply is that of the call in its own place: what its answer
    becomes, if that is there at once or in time, and else that the limit has passed, and it comes
    exactly then (`Call.Ends`). It is not blank, and where the delay is not the limit, it is the
    reply of `Client.send` to the prompt alone. And if each prompt has an answer or there is a limit,
    all prompts are sent and have replies in the end. -/
theorem one_call_for_each_prompt {now : Nat}
    (run : ReflTransGen (Step client provider) (start now prompts) s) :
    (s.calls.map Call.request ++ s.prompts.map client.request =
      prompts.map fun prompt => ⟨client.model, prompt, client.instruction⟩) ∧
    (∀ k call, s.calls[k + 1]? = some call →
      ∃ reply, s.replies[k]? = some reply ∧ reply.time ≤ call.begun) ∧
    (∀ k reply, s.replies[k]? = some reply → ∃ prompt call,
      prompts[k]? = some prompt ∧ s.calls[k]? = some call ∧
      call.request = client.request prompt ∧ call.answer? = provider k (client.request prompt) ∧
      call.Ends client.limit? reply ∧ reply.text.isBlank = false ∧
      ((∀ answer ∈ call.answer?, client.limit? = some answer.delay → answer.delay = 0) →
        ∃ time, client.send (provider k) prompt = some (reply.text, time) ∧
          reply.time = call.begun + time)) ∧
    ((client.limit? = none →
        ∀ k prompt, prompts[k]? = some prompt → provider k (client.request prompt) ≠ none) →
      ∃ s', ReflTransGen (Step client provider) s s' ∧ s'.prompts = [] ∧
        s'.replies.length = prompts.length) := by
  have starts : InOrder client provider prompts (start now prompts) [] none := inOrder_start now
  obtain ⟨rounds, open?, h⟩ := starts.run run
  refine ⟨h.requests_eq, fun k call hc => h.follows hc, ?_, ?_⟩
  · intro k reply hr
    obtain ⟨call, hx, hc⟩ := h.exists_round hr
    obtain ⟨prompt, hp, request_eq⟩ := h.exists_prompt hc
    have answer_eq : call.answer? = provider k (client.request prompt) :=
      request_eq ▸ h.answer_eq hc
    have ends := h.ends _ (List.mem_of_getElem? hx)
    exact ⟨prompt, call, hp, hc, request_eq, answer_eq, ends, ends.isBlank_text, ends.send_eq answer_eq⟩
  · intro ending
    obtain ⟨s₁, rounds₁, run₁, -, h₁⟩ := h.exists_run_of_open ending
    obtain ⟨s₂, rounds₂, run₂, left, h₂⟩ := h₁.exists_run_all ending
    exact ⟨s₂, run₁.trans run₂, left, h₂.length_replies left⟩

end

/-- A client with a limit of a second and a half. -/
def hasty : Client := ⟨defaultModel, defaultInstruction, some 1500⟩

/-- A provider that is late with its first answer and has no text for the others. -/
def slow : Nat → Provider
  | 0, _ => some ⟨2000, .ok ['l', 'a', 't', 'e']⟩
  | _ + 1, _ => some ⟨1000, .ok [' ']⟩

theorem one_call_for_each_prompt_slow :
    ∃ s, ReflTransGen (Step hasty slow) (start 0 [['a'], ['b']]) s ∧
      s.calls.map Call.request = [hasty.request ['a'], hasty.request ['b']] ∧
      s.replies.map Reply.text =
        ["Error communicating with AI: request timed out after 1s".toList, noResponse] := by
  obtain ⟨-, -, -, goes_on⟩ := one_call_for_each_prompt
    (ReflTransGen.refl (r := Step hasty slow) (a := start 0 [['a'], ['b']]))
  obtain ⟨s, run, left, length⟩ := goes_on nofun
  obtain ⟨calls, -, replies, -⟩ := one_call_for_each_prompt run
  have untied : ∀ k request, ∀ answer ∈ slow k request,
      hasty.limit? = some answer.delay → answer.delay = 0 := by
    rintro (_ | k) request _ ⟨⟩ <;> exact nofun
  have sent : ∀ k reply, s.replies[k]? = some reply → ∃ prompt time,
      hasty.send (slow k) prompt = some (reply.text, time) := by
    intro k reply hr
    obtain ⟨prompt, call, -, -, -, answer_eq, -, -, send_eq⟩ := replies k reply hr
    obtain ⟨time, send_eq, -⟩ := send_eq (answer_eq ▸ untied k _)
    exact ⟨prompt, time, send_eq⟩
  obtain ⟨first, second, hs⟩ := List.length_eq_two.1 length
  obtain ⟨_, _, first_eq⟩ := sent 0 first (by simp [hs])
  obtain ⟨_, _, second_eq⟩ := sent 1 second (by simp [hs])
  have first_text : replyText (.error (.timeout 1500)) = first.text :=
    congrArg Prod.fst (Option.some.inj first_eq)
  have second_text : noResponse = second.text :=
    congrArg Prod.fst (Option.some.inj second_eq)
  have limit_text : "Error communicating with AI: request timed out after 1s".toList =
      replyText (.error (.timeout 1500)) := by
    unfold replyText errorHeading ProviderError.message
    repeat rw [String.toList_ofList]
    decide +kernel
  refine ⟨s, run, ?_, ?_⟩
  · simpa [left, Client.request] using calls
  · rw [hs, limit_text, first_text, second_text]
    rfl

end Sending

end CircuitHub

import CircuitHub.Proofs.Field.Halves
import CircuitHub.Proofs.Field.Handled
import CircuitHub.Proofs.Session.Dispatch

/-!
# What becomes of a prompt

A prompt that is sent is taken out of its field before the hub has a say in it, and the hub may
refuse it. Field and hub look at it separately: the field at its text and at a flag that says
whether another prompt waits, the hub at the text that it gets and at its own state. Since the flag
is set anew before each event, they always agree. So a prompt that leaves its field is in the
conversation and its exchange begins, or it stays where it is (`Session.prompt_sent_or_kept`).

* `Console.prompt_handle`: the field of the prompt changes only by the events that reach it;
* `Session.Reachable.sendsPrompt`: the key that sends the prompt never breaks its line;
* `Session.dispatch_submit_sent`, `Session.dispatch_submit_kept`: what that key does in the
  designer.
-/

namespace CircuitHub

/-! ## The field of the prompt -/

namespace Field

variable {f : Field}

/-- What is sent is the whole text, if there is some and it can be sent now. -/
theorem handle_submit_sent (hb : f.enterBreaks = false)
    (hs : (f.disabled || f.text.isBlank) = false) :
    f.handle .submit =
      ({ f with text := [], cursor := 0, firstRow := 0 }, some (.submitted f.text)) := by
  have hsubmit : f.handle .submit = f.submit := if_neg (ne_true_of_eq_false hb)
  rw [hsubmit, submit, if_neg (ne_true_of_eq_false hs)]

/-- A text that is blank or cannot be sent now stays. -/
theorem handle_submit_kept (hb : f.enterBreaks = false)
    (hk : (f.disabled || f.text.isBlank) = true) : f.handle .submit = (f, none) := by
  have hsubmit : f.handle .submit = f.submit := if_neg (ne_true_of_eq_false hb)
  rw [hsubmit, submit, if_pos hk]

/-- The field is set up as another one. -/
def SetUpAs (f' f : Field) : Prop := ∃ text cursor firstRow, f' = { f with text, cursor, firstRow }

/-- No event sets up a field in another way. -/
theorem Handled.setUpAs {result : Field × Option FieldChange} (h : f.Handled result) :
    result.1.SetUpAs f := by
  cases h <;> exact ⟨_, _, _, rfl⟩

theorem setUpAs_handle (f : Field) (e : Event) : (f.handle e).1.SetUpAs f := (f.handled e).setUpAs

/-- Nothing but sending the text takes more than one character of it. -/
theorem length_handle (h : Reachable f) {e : Event} (he : e ≠ .submit) :
    f.text.length ≤ (f.handle e).1.text.length + 1 := by
  obtain ⟨s, hs⟩ := h.holds
  obtain ⟨s', hs', hedit, -⟩ := hs.handle e
  rw [hs.text_eq, hs'.text_eq]
  -- A text that is put in only adds, and a cursor that moves changes nothing.
  have inserted : ∀ t, s' = s.insert t → s.text.length ≤ s'.text.length + 1 := by
    rintro t rfl
    simp only [Halves.text, Halves.insert, List.length_append]
    omega
  have moved : s'.text = s.text → s.text.length ≤ s'.text.length + 1 := by
    intro ht
    rw [ht]
    exact Nat.le_succ _
  cases e with
  | submit => exact absurd rfl he
  | type c => exact inserted _ hedit
  | paste t => exact inserted _ hedit
  | newLine =>
    by_cases hsingle : f.isSingleLine = true
    · exact moved (congrArg Halves.text (Eq.trans hedit (if_pos hsingle)))
    · exact inserted ['\n'] (Eq.trans hedit (if_neg hsingle))
  | backspace =>
    obtain rfl : s' = s.deleteBefore := hedit
    simp only [Halves.text, Halves.deleteBefore, List.length_append, List.length_dropLast]
    omega
  | delete =>
    obtain rfl : s' = s.deleteAfter := hedit
    simp only [Halves.text, Halves.deleteAfter, List.length_append, List.length_tail]
    omega
  | cursorLeft => exact moved ((congrArg Halves.text hedit).trans s.text_left)
  | cursorRight => exact moved ((congrArg Halves.text hedit).trans s.text_right)
  | cursorHome => exact moved ((congrArg Halves.text hedit).trans s.text_lineStart)
  | cursorEnd => exact moved ((congrArg Halves.text hedit).trans s.text_lineEnd)
  | scrollUp => exact moved hedit.1
  | scrollDown => exact moved hedit.1
  | _ => exact moved (congrArg Halves.text hedit)

end Field

namespace Console

variable (c : Console)

/-- The field of the prompt changes only in the designer, and only as a field does. -/
theorem prompt_handle (view : View) (e : Event) :
    (c.handle view e).1.prompt = c.prompt ∨
      view = .designer ∧ (c.handle view e).1.prompt = (c.prompt.handle e).1 := by
  have inView : (c.handleInView view e).1.prompt = c.prompt ∨
      view = .designer ∧ (c.handleInView view e).1.prompt = (c.prompt.handle e).1 := by
    cases view with
    | designer =>
      rw [handleInView, handleInDesigner]
      split
      · exact .inl rfl
      · exact .inr ⟨rfl, rfl⟩
    | _ => exact .inl rfl
  cases e with
  | quit | nextView | prevView | selectView | resize => exact .inl rfl
  | _ => exact inView

/-- In the designer the key that sends the prompt reaches its field. -/
theorem handle_submit_in_designer :
    c.handle .designer .submit = ({ c with prompt := (c.prompt.handle .submit).1 },
      match (c.prompt.handle .submit).2 with
      | some (.submitted t) => some (.submit t)
      | _ => none) := rfl

/-- When everything is drawn, the field of the prompt is drawn or left as it is. -/
theorem prompt_draw (hub : Hub) (step : Nat) (frame : Frame) :
    (c.draw hub step frame).1.prompt = c.prompt ∨
      ∃ frame' area, (c.draw hub step frame).1.prompt = (c.prompt.draw frame' area).1 := by
  have inView : ∀ frame area, (c.drawView hub step frame area).1.prompt = c.prompt ∨
      ∃ frame' area', (c.drawView hub step frame area).1.prompt =
        (c.prompt.draw frame' area').1 := by
    intro frame area
    rw [drawView]
    split
    · exact .inl rfl
    · exact .inl rfl
    · exact .inl rfl
    · simp only [drawDesigner]
      exact .inr ⟨_, _, rfl⟩
    · exact .inl rfl
  exact inView _ _

end Console

namespace Session

/-- The session when everything has been drawn. -/
def draw (s : Session) (step : Nat) (frame : Frame) : Session :=
  { s with console := (s.sync.console.draw s.hub step frame).1 }

/-- What may happen to a session. Replies come at any time, also such that nothing waits for. -/
inductive Step : Session → Session → Prop
  | dispatch (s : Session) (e : Event) : Step s (s.dispatch e).1
  | receive (s : Session) (reply : Text) : Step s (s.act (.receive reply)).1
  | draw (s : Session) (step : Nat) (frame : Frame) : Step s (s.draw step frame)
  | pass (s : Session) (time : Clock) : Step s (s.atTime time)

/-- The states that a session may come to. -/
inductive Reachable : Session → Prop
  | start (client : Client) (now : Clock) : Reachable (start client now)
  | step {s s' : Session} : Reachable s → Step s s' → Reachable s'

/-- The field of the prompt is in use as a field whose text can be sent. -/
structure SendsPrompt (s : Session) : Prop where
  reachable : s.console.prompt.Reachable
  enterBreaks_eq : s.console.prompt.enterBreaks = false

variable {s : Session}

theorem SendsPrompt.sync (h : SendsPrompt s) : SendsPrompt s.sync where
  reachable := h.reachable.step (.focus _ _ _)
  enterBreaks_eq := h.enterBreaks_eq

theorem SendsPrompt.step (h : SendsPrompt s) {s' : Session} (hs : Step s s') : SendsPrompt s' := by
  cases hs with
  | receive reply => exact ⟨h.reachable, h.enterBreaks_eq⟩
  | pass time => exact ⟨h.reachable, h.enterBreaks_eq⟩
  | dispatch e =>
    have hc := console_dispatch s e
    -- The event finds the field with its flag set anew, and leaves it alone or is handled by it.
    rcases s.sync.console.prompt_handle s.hub.view e with hp | ⟨-, hp⟩
    · exact ⟨by rw [hc, hp]; exact h.sync.reachable, by rw [hc, hp]; exact h.enterBreaks_eq⟩
    · obtain ⟨text, cursor, firstRow, hset⟩ := s.sync.console.prompt.setUpAs_handle e
      refine ⟨?_, ?_⟩
      · rw [hc, hp]
        exact h.sync.reachable.step (.handle _ e)
      · rw [hc, hp, hset]
        exact h.enterBreaks_eq
  | draw step frame =>
    rcases s.sync.console.prompt_draw s.hub step frame with hp | ⟨frame', area, hp⟩
    · exact ⟨by rw [draw, hp]; exact h.sync.reachable, by rw [draw, hp]; exact h.enterBreaks_eq⟩
    · refine ⟨?_, ?_⟩
      · rw [draw, hp]
        exact h.sync.reachable.step (.draw _ frame' area)
      · rw [draw, hp]
        exact h.enterBreaks_eq

/-- The key that sends the prompt never breaks its line. -/
theorem Reachable.sendsPrompt (h : Reachable s) : SendsPrompt s := by
  induction h with
  | start client now => exact ⟨.empty _ _, rfl⟩
  | step _ hs ih => exact ih.step hs

/-! ## The key that sends the prompt -/

/-- In the designer the prompt is sent if it is not blank and no other waits. The hub takes what
    leaves the field. -/
theorem dispatch_submit_sent (hb : s.console.prompt.enterBreaks = false)
    (hv : s.hub.view = .designer)
    (hs : (s.hub.isLoading || s.console.prompt.text.isBlank) = false) :
    (s.dispatch .submit).1.console.prompt.text = [] ∧
      (s.dispatch .submit).1.hub = s.hub.ask s.console.prompt.text ∧
      (s.dispatch .submit).2 = .request s.console.prompt.text := by
  have hconsole := s.sync.console.handle_submit_in_designer
  rw [Field.handle_submit_sent (f := s.sync.console.prompt) hb hs, ← hv] at hconsole
  have hupdate : s.hub.react (some (.submit s.console.prompt.text)) =
      (s.hub.ask s.console.prompt.text, .request s.console.prompt.text) := by
    rw [Bool.or_comm] at hs
    exact if_neg (ne_true_of_eq_false hs)
  rw [console_dispatch, hub_dispatch, effect_dispatch, hconsole]
  exact ⟨rfl, congrArg Prod.fst hupdate, congrArg Prod.snd hupdate⟩

/-- Else the key changes nothing there. -/
theorem dispatch_submit_kept (hb : s.console.prompt.enterBreaks = false)
    (hv : s.hub.view = .designer)
    (hk : (s.hub.isLoading || s.console.prompt.text.isBlank) = true) :
    (s.dispatch .submit).1.console = s.sync.console ∧ (s.dispatch .submit).1.hub = s.hub ∧
      (s.dispatch .submit).2 = .none := by
  have hconsole := s.sync.console.handle_submit_in_designer
  rw [Field.handle_submit_kept (f := s.sync.console.prompt) hb hk, ← hv] at hconsole
  rw [console_dispatch, hub_dispatch, effect_dispatch, hconsole]
  exact ⟨rfl, rfl, rfl⟩

/-- The event takes the whole prompt out of its field. -/
def Empties (s : Session) (e : Event) : Prop :=
  s.console.prompt.text ≠ [] ∧ (s.dispatch e).1.console.prompt.text = []

/-- The prompt leaves its field by the key that sends it exactly if the designer is shown, the
    prompt is not blank and no other waits. -/
theorem empties_submit_iff (hb : s.console.prompt.enterBreaks = false) :
    s.Empties .submit ↔ s.hub.view = .designer ∧ s.console.prompt.text.isBlank = false ∧
      s.hub.isLoading = false := by
  constructor
  · rintro ⟨hne, hempty⟩
    -- In any other view the event does not reach the field.
    have hv : s.hub.view = .designer := by
      rcases s.sync.console.prompt_handle s.hub.view .submit with hp | ⟨hv, -⟩
      · rw [console_dispatch, hp] at hempty
        exact absurd hempty hne
      · exact hv
    cases hk : s.hub.isLoading || s.console.prompt.text.isBlank with
    | true =>
      rw [(dispatch_submit_kept hb hv hk).1] at hempty
      exact absurd hempty hne
    | false =>
      obtain ⟨hl, ht⟩ := Bool.or_eq_false_iff.1 hk
      exact ⟨hv, ht, hl⟩
  · rintro ⟨hv, ht, hl⟩
    refine ⟨?_, (dispatch_submit_sent hb hv (by rw [hl, ht]; rfl)).1⟩
    rintro hnil
    rw [hnil] at ht
    exact absurd ht (by decide)

/-- No prompt is lost, whatever has happened. When the key that sends it takes it out of its field,
    the event asks for an exchange for just this text, and the conversation goes on with it. When
    the key does not do so in the designer, field, cursor and conversation stay and nothing is asked
    for. It does so exactly if the designer is shown, the prompt is not blank and no other waits.
    And no other event takes more than one character of a prompt. -/
theorem prompt_sent_or_kept (h : Reachable s) :
    (s.Empties .submit →
      (s.dispatch .submit).2 = .request s.console.prompt.text ∧
      (s.dispatch .submit).1.hub.conversation =
        s.hub.conversation.append ⟨.user, s.console.prompt.text, s.hub.now⟩) ∧
    (s.hub.view = .designer → ¬s.Empties .submit →
      (s.dispatch .submit).1.console.prompt.text = s.console.prompt.text ∧
      (s.dispatch .submit).1.console.prompt.cursor = s.console.prompt.cursor ∧
      (s.dispatch .submit).1.hub.conversation = s.hub.conversation ∧
      (s.dispatch .submit).2 = .none) ∧
    (s.Empties .submit ↔ s.hub.view = .designer ∧ s.console.prompt.text.isBlank = false ∧
      s.hub.isLoading = false) ∧
    ∀ e, e ≠ .submit →
      s.console.prompt.text.length ≤ (s.dispatch e).1.console.prompt.text.length + 1 := by
  obtain ⟨hfield, hb⟩ := h.sendsPrompt
  refine ⟨fun hempty => ?_, fun hv hkept => ?_, empties_submit_iff hb, fun e he => ?_⟩
  · obtain ⟨hv, ht, hl⟩ := (empties_submit_iff hb).1 hempty
    obtain ⟨-, hhub, heffect⟩ := dispatch_submit_sent hb hv (by rw [hl, ht]; rfl)
    exact ⟨heffect, by rw [hhub]; rfl⟩
  · -- One of the two tests has failed, else the field would be empty now.
    have hk : (s.hub.isLoading || s.console.prompt.text.isBlank) = true := by
      by_contra hs
      obtain ⟨hl, ht⟩ := Bool.or_eq_false_iff.1 (eq_false_of_ne_true hs)
      exact hkept ((empties_submit_iff hb).2 ⟨hv, ht, hl⟩)
    obtain ⟨hconsole, hhub, heffect⟩ := dispatch_submit_kept hb hv hk
    exact ⟨by rw [hconsole]; rfl, by rw [hconsole]; rfl, by rw [hhub], heffect⟩
  · rw [console_dispatch]
    rcases s.sync.console.prompt_handle s.hub.view e with hp | ⟨-, hp⟩
    · rw [hp]
      exact Nat.le_succ _
    · rw [hp]
      exact Field.length_handle h.sendsPrompt.sync.reachable he

instance (s : Session) (e : Event) : Decidable (s.Empties e) :=
  inferInstanceAs (Decidable (_ ∧ _))

/-- One goes to the designer and types `h`. -/
def typed : Session :=
  (((start (.ofModel defaultModel) 0).dispatch (.selectView 3)).1.dispatch (.type 'h')).1

/-- One sends `h` and types `a` while it waits. -/
def waiting : Session := ((typed.dispatch .submit).1.dispatch (.type 'a')).1

theorem reachable_typed : Reachable typed :=
  .step (.step (.start _ _) (.dispatch _ (.selectView 3))) (.dispatch _ (.type 'h'))

theorem reachable_waiting : Reachable waiting :=
  .step (.step reachable_typed (.dispatch _ .submit)) (.dispatch _ (.type 'a'))

/-- The first prompt is sent, and the second one stays as long as the first one waits. -/
theorem prompt_sent_or_kept_waiting :
    (Reachable typed ∧ typed.Empties .submit ∧ (typed.dispatch .submit).2 = .request ['h']) ∧
      Reachable waiting ∧ ¬waiting.Empties .submit ∧
      (waiting.dispatch .submit).1.console.prompt.text = ['a'] ∧
      (waiting.dispatch .submit).2 = .none := by
  have hsent : typed.Empties .submit := by decide +kernel
  have hkept : ¬waiting.Empties .submit := by decide +kernel
  obtain ⟨heffect, -⟩ := (prompt_sent_or_kept reachable_typed).1 hsent
  obtain ⟨htext, -, -, hnone⟩ :=
    (prompt_sent_or_kept reachable_waiting).2.1 (by decide +kernel) hkept
  have htyped : typed.console.prompt.text = ['h'] := by decide +kernel
  have hwaiting : waiting.console.prompt.text = ['a'] := by decide +kernel
  exact ⟨⟨reachable_typed, hsent, by rw [heffect, htyped]⟩,
    reachable_waiting, hkept, htext.trans hwaiting, hnone⟩

end Session

end CircuitHub

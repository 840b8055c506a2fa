import CircuitHub.Proofs.Session.Dispatch
import Mathlib.Data.List.Destutter

/-!
# Views that keep to themselves

In the catalog, the gallery and the checker one types, pastes, scrolls and presses the key that
sends a prompt elsewhere, and nothing of it is meant for the exchange. Such an event may be left
out: the session goes on as if it had not happened, through the same views and with the same
effects, and in the end nothing tells the two sessions apart but what these three views remember and
what the last check says.

Two sessions that are alike in this way (`Session.Agrees`) stay so when the same happens to both
(`Session.Agrees.take`), and also when only one of them has an event in such a view
(`Session.agrees_take_apart`). The exchange reads nothing that may differ, and the one action that
does come of these views, a check, writes nothing else.

* `Session.views_apart`: the log of a session from which such events are left out is what the log of
  the whole leaves without them.
-/

namespace CircuitHub

/-- The view has no part in the exchange of prompts and replies. -/
def View.isApart : View → Bool
  | .components | .symbols | .validator => true
  | .dashboard | .designer => false

/-- The event leaves the hub or goes to another view, whichever view is shown. -/
def Event.isGlobal : Event → Bool
  | .quit | .nextView | .prevView | .selectView _ => true
  | _ => false

/-- The action, if there is one, is the check of a definition. -/
def IsCheck (action? : Option Action) : Prop :=
  ∀ action ∈ action?, ∃ input, action = .validate input

theorem isCheck_none : IsCheck none := fun _ h => nomatch h

theorem isCheck_validate (input? : Option Text) : IsCheck (input?.map .validate) := by
  intro action h
  obtain ⟨input, -, rfl⟩ := Option.map_eq_some_iff.1 h
  exact ⟨input, rfl⟩

/-! ## Hubs -/

namespace Hub

/-- The hubs differ at most in what the last check says and in what time it is. -/
structure Agrees (hub hub' : Hub) : Prop extends SameExchange hub hub' where
  view : hub'.view = hub.view

variable {hub hub' hub'' : Hub}

theorem Agrees.refl (hub : Hub) : Agrees hub hub := ⟨.refl hub, rfl⟩

theorem Agrees.symm (h : Agrees hub hub') : Agrees hub' hub :=
  ⟨⟨h.conversation.symm, h.pending.symm, h.status.symm, h.client.symm⟩, h.view.symm⟩

theorem Agrees.trans (h : Agrees hub hub') (h' : Agrees hub' hub'') : Agrees hub hub'' :=
  ⟨⟨h'.conversation.trans h.conversation, h'.pending.trans h.pending, h'.status.trans h.status,
    h'.client.trans h.client⟩, h'.view.trans h.view⟩

theorem agrees_atTime (hub : Hub) (time : Clock) : Agrees hub (hub.atTime time) :=
  ⟨⟨rfl, rfl, rfl, rfl⟩, rfl⟩

/-- At the same time, hubs that agree are the same but for the last check. -/
theorem Agrees.atTime_eq (h : Agrees hub hub') (time : Clock) :
    hub'.atTime time = { hub.atTime time with validation := hub'.validation } := by
  obtain ⟨⟨hconversation, hpending, hstatus, hclient⟩, hview⟩ := h
  cases hub'
  simp_all [atTime]

/-- A check changes nothing but what it says. -/
theorem react_isCheck {action? : Option Action} (h : IsCheck action?) (hub : Hub) :
    Agrees hub (hub.react action?).1 ∧ (hub.react action?).2 = .none := by
  cases action? with
  | none => exact ⟨.refl hub, rfl⟩
  | some action =>
    obtain ⟨input, rfl⟩ := h action rfl
    exact ⟨⟨⟨rfl, rfl, rfl, rfl⟩, rfl⟩, rfl⟩

/-- No action reads what the last check says. -/
theorem agrees_react (hub : Hub) (validation : Validation) (action? : Option Action) :
    Agrees (hub.react action?).1 (({ hub with validation } : Hub).react action?).1 ∧
      (({ hub with validation } : Hub).react action?).2 = (hub.react action?).2 := by
  have same : ∀ hub : Hub, Agrees hub { hub with validation } :=
    fun _ => ⟨⟨rfl, rfl, rfl, rfl⟩, rfl⟩
  rcases action? with _ | action
  · exact ⟨same hub, rfl⟩
  · simp only [react]
    cases action with
    | switchView | quit => exact ⟨same _, rfl⟩
    | validate => exact ⟨.refl _, rfl⟩
    | submit prompt =>
      -- Whether the prompt is taken depends on its text and on whether another one waits.
      by_cases h : (prompt.isBlank || hub.isLoading) = true
      · have hkept : ∀ v, ({ hub with validation := v } : Hub).update (.submit prompt) =
            ({ hub with validation := v }, .none) := fun v => if_pos h
        rw [hkept validation, hkept hub.validation]
        exact ⟨same hub, rfl⟩
      · have hsent : ∀ v, ({ hub with validation := v } : Hub).update (.submit prompt) =
            ({ hub.ask prompt with validation := v }, .request prompt) := fun v => if_neg h
        rw [hsent validation, hsent hub.validation]
        exact ⟨same (hub.ask prompt), rfl⟩
    | receive reply =>
      simp only [update]
      split
      · exact ⟨same hub, rfl⟩
      · exact ⟨same (hub.answer reply), rfl⟩

/-- What hubs make of actions at the same time agrees, if the actions are the same or both are
    checks. -/
theorem Agrees.react (h : Agrees hub hub') (time : Clock) {action? action?' : Option Action}
    (ha : action?' = action? ∨ IsCheck action? ∧ IsCheck action?') :
    Agrees ((hub.atTime time).react action?).1 ((hub'.atTime time).react action?').1 ∧
      ((hub'.atTime time).react action?').2 = ((hub.atTime time).react action?).2 := by
  rcases ha with rfl | ⟨hcheck, hcheck'⟩
  · rw [h.atTime_eq time]
    exact agrees_react _ _ action?'
  · obtain ⟨hleft, heffect⟩ := react_isCheck hcheck (hub.atTime time)
    obtain ⟨hright, heffect'⟩ := react_isCheck hcheck' (hub'.atTime time)
    have htimes : Agrees (hub.atTime time) (hub'.atTime time) :=
      (agrees_atTime hub time).symm.trans (h.trans (agrees_atTime hub' time))
    exact ⟨hleft.symm.trans (htimes.trans hright), heffect'.trans heffect.symm⟩

end Hub

/-! ## Consoles -/

namespace Console

/-- The consoles differ at most in the catalog, the gallery and the checker. -/
structure Agrees (c c' : Console) : Prop where
  transcript : c'.transcript = c.transcript
  prompt : c'.prompt = c.prompt
  dashboard : c'.dashboard = c.dashboard

variable {c c' c'' : Console} {hub hub' : Hub}

theorem Agrees.symm (h : Agrees c c') : Agrees c' c :=
  ⟨h.transcript.symm, h.prompt.symm, h.dashboard.symm⟩

theorem Agrees.trans (h : Agrees c c') (h' : Agrees c' c'') : Agrees c c'' :=
  ⟨h'.transcript.trans h.transcript, h'.prompt.trans h.prompt, h'.dashboard.trans h.dashboard⟩

/-- Consoles that know the state of their hubs agree if the hubs do. -/
theorem Agrees.sync (h : Agrees c c') (hh : Hub.Agrees hub hub') :
    Agrees (c.sync hub) (c'.sync hub') := by
  refine ⟨h.transcript, ?_, h.dashboard⟩
  simp only [Console.sync, h.prompt, hh.view, hh.isLoading]

/-- A view that is apart changes nothing of what consoles agree on, and at most asks for a check. -/
theorem handle_apart (c : Console) {view : View} (hv : view.isApart = true) {e : Event}
    (he : e.isGlobal = false) :
    Agrees c (c.handle view e).1 ∧ IsCheck (c.handle view e).2 := by
  have inView : Agrees c (c.handleInView view e).1 ∧ IsCheck (c.handleInView view e).2 := by
    cases view with
    | dashboard | designer => exact absurd hv (by decide)
    | components | symbols => exact ⟨⟨rfl, rfl, rfl⟩, isCheck_none⟩
    | validator => exact ⟨⟨rfl, rfl, rfl⟩, isCheck_validate _⟩
  cases e with
  | quit | nextView | prevView | selectView => exact absurd he (by simp [Event.isGlobal])
  | resize => exact ⟨⟨rfl, rfl, rfl⟩, isCheck_none⟩
  | _ => exact inView

/-- What consoles make of an event in the same view agrees, and the actions are the same or both are
    checks. -/
theorem Agrees.handle (h : Agrees c c') (view : View) (e : Event) :
    Agrees (c.handle view e).1 (c'.handle view e).1 ∧
      ((c'.handle view e).2 = (c.handle view e).2 ∨
        IsCheck (c.handle view e).2 ∧ IsCheck (c'.handle view e).2) := by
  have inView : Agrees (c.handleInView view e).1 (c'.handleInView view e).1 ∧
      ((c'.handleInView view e).2 = (c.handleInView view e).2 ∨
        IsCheck (c.handleInView view e).2 ∧ IsCheck (c'.handleInView view e).2) := by
    cases view with
    | components | symbols => exact ⟨⟨h.transcript, h.prompt, h.dashboard⟩, .inl rfl⟩
    | validator =>
      -- The fields of the two checkers may differ, and so may what is to be checked.
      exact ⟨⟨h.transcript, h.prompt, h.dashboard⟩,
        .inr ⟨isCheck_validate _, isCheck_validate _⟩⟩
    | dashboard =>
      rw [handleInView, handleInView, h.dashboard]
      exact ⟨⟨h.transcript, h.prompt, rfl⟩, .inl rfl⟩
    | designer =>
      rw [handleInView, handleInView, handleInDesigner, handleInDesigner, h.transcript, h.prompt]
      split
      · exact ⟨⟨rfl, rfl, h.dashboard⟩, .inl rfl⟩
      · exact ⟨⟨rfl, rfl, h.dashboard⟩, .inl rfl⟩
  cases e with
  | quit | nextView | prevView | selectView | resize => exact ⟨h, .inl rfl⟩
  | _ => exact inView

end Console

/-! ## Sessions -/

/-- An event, and when it happens. -/
structure Happening where
  /-- When the event happens. -/
  time : Clock
  /-- The event. -/
  event : Event
  deriving DecidableEq

/-- What is noted of an event. -/
structure Entry where
  /-- What happens. -/
  happening : Happening
  /-- The view that is shown then. -/
  view : View
  /-- What the event asks of the world. -/
  effect : Effect
  deriving DecidableEq

/-- The event happens in a view that is apart, and does not leave it. -/
def Entry.isApart (x : Entry) : Bool := x.view.isApart && !x.happening.event.isGlobal

/-- Of the first log, some events that happen apart are left out in the second. -/
inductive Thinned : List Entry → List Entry → Prop
  | nil : Thinned [] []
  | keep (x : Entry) {log rest : List Entry} : Thinned log rest → Thinned (x :: log) (x :: rest)
  | leave {x : Entry} {log rest : List Entry} :
    x.isApart = true → Thinned log rest → Thinned (x :: log) rest

namespace Session

/-- The session after an event at its time, and what the event asks of the world. -/
def take (s : Session) (h : Happening) : Session × Effect := (s.atTime h.time).dispatch h.event

/-- The session after some events. -/
def after (s : Session) (happenings : List Happening) : Session :=
  happenings.foldl (fun s h => (s.take h).1) s

/-- What is noted of some events, in order. -/
def log (s : Session) : List Happening → List Entry
  | [] => []
  | h :: happenings => ⟨h, s.hub.view, (s.take h).2⟩ :: (s.take h).1.log happenings

/-- The view that is shown before each event, and the one at the end. -/
def views (s : Session) (happenings : List Happening) : List View :=
  (s.log happenings).map (·.view) ++ [(s.after happenings).hub.view]

/-- The views that some events lead through, each noted once for as long as it stays. -/
def visited (s : Session) (happenings : List Happening) : List View :=
  (s.views happenings).destutter (· ≠ ·)

/-- When their consoles know the state of their hubs, the sessions differ at most in what the
    catalog, the gallery and the checker remember, in the last check and in what time it is. -/
structure Agrees (s s' : Session) : Prop where
  hub : s.hub.Agrees s'.hub
  console : s.sync.console.Agrees s'.sync.console

variable {s s' s'' : Session}

theorem Agrees.refl (s : Session) : Agrees s s := ⟨.refl _, ⟨rfl, rfl, rfl⟩⟩

theorem Agrees.symm (h : Agrees s s') : Agrees s' s := ⟨h.hub.symm, h.console.symm⟩

theorem Agrees.trans (h : Agrees s s') (h' : Agrees s' s'') : Agrees s s'' :=
  ⟨h.hub.trans h'.hub, h.console.trans h'.console⟩

theorem agrees_sync (s : Session) : Agrees s s.sync := ⟨.refl _, ⟨rfl, rfl, rfl⟩⟩

theorem agrees_of (hh : s.hub.Agrees s'.hub) (hc : s.console.Agrees s'.console) : Agrees s s' :=
  ⟨hh, hc.sync hh⟩

/-! ### One event -/

variable (s) in
theorem console_take (x : Happening) :
    (s.take x).1.console = (s.sync.console.handle s.hub.view x.event).1 :=
  console_dispatch (s.atTime x.time) x.event

variable (s) in
theorem hub_take (x : Happening) : (s.take x).1.hub =
    ((s.hub.atTime x.time).react (s.sync.console.handle s.hub.view x.event).2).1 :=
  hub_dispatch (s.atTime x.time) x.event

variable (s) in
theorem effect_take (x : Happening) : (s.take x).2 =
    ((s.hub.atTime x.time).react (s.sync.console.handle s.hub.view x.event).2).2 :=
  effect_dispatch (s.atTime x.time) x.event

/-- Sessions that agree still do so when the same has happened to both, and it has had the same
    effect. -/
theorem Agrees.take (h : Agrees s s') (x : Happening) :
    Agrees (s.take x).1 (s'.take x).1 ∧ (s'.take x).2 = (s.take x).2 := by
  obtain ⟨hconsole, haction⟩ := h.console.handle s.hub.view x.event
  obtain ⟨hhub, heffect⟩ := h.hub.react x.time haction
  refine ⟨agrees_of ?_ ?_, ?_⟩
  · rw [hub_take, hub_take, h.hub.view]
    exact hhub
  · rw [console_take, console_take, h.hub.view]
    exact hconsole
  · rw [effect_take, effect_take, h.hub.view]
    exact heffect

/-- A session agrees with itself after an event in a view that is apart. -/
theorem agrees_take_apart {x : Happening} (hv : s.hub.view.isApart = true)
    (he : x.event.isGlobal = false) : Agrees s (s.take x).1 := by
  obtain ⟨hconsole, hcheck⟩ := s.sync.console.handle_apart hv he
  obtain ⟨hhub, -⟩ := Hub.react_isCheck hcheck (s.hub.atTime x.time)
  refine (agrees_sync s).trans (agrees_of ?_ ?_)
  · rw [hub_take]
    exact (Hub.agrees_atTime s.hub x.time).trans hhub
  · rw [console_take]
    exact hconsole

/-! ### All events -/

variable (s) in
theorem views_eq_cons (happenings : List Happening) :
    ∃ later, s.views happenings = s.hub.view :: later := by
  cases happenings with
  | nil => exact ⟨[], rfl⟩
  | cons x happenings => exact ⟨(s.take x).1.views happenings, rfl⟩

variable (s) in
/-- An event leads on from the view at hand, or it stays there. -/
theorem visited_cons (x : Happening) (happenings : List Happening) :
    s.visited (x :: happenings) =
      if (s.take x).1.hub.view = s.hub.view then (s.take x).1.visited happenings
      else s.hub.view :: (s.take x).1.visited happenings := by
  obtain ⟨later, hlater⟩ := (s.take x).1.views_eq_cons happenings
  have hviews : s.views (x :: happenings) = s.hub.view :: (s.take x).1.views happenings := rfl
  rw [visited, hviews, visited, hlater, List.destutter_cons_cons, List.destutter_cons']
  by_cases h : (s.take x).1.hub.view = s.hub.view
  · rw [if_neg (by simp [h]), if_pos h, h]
  · rw [if_pos (Ne.symm h), if_neg h]

/-- Of two sessions that agree, let some events that happen apart in the first be left out in the
    second. Then the log of the second lacks just these, the views are the same, and in the end the
    sessions agree. -/
theorem Agrees.thinned {happenings : List Happening} {rest : List Entry}
    (ht : Thinned (s.log happenings) rest) (h : Agrees s s') :
    s'.log (rest.map (·.happening)) = rest ∧
      s'.visited (rest.map (·.happening)) = s.visited happenings ∧
      Agrees (s.after happenings) (s'.after (rest.map (·.happening))) := by
  -- By the events of the first session, and for all that agree with it: once an event has been left
  -- out, the two are no longer the same.
  induction happenings generalizing s s' rest with
  | nil =>
    cases ht
    exact ⟨rfl, congrArg ([·]) h.hub.view, h⟩
  | cons x happenings ih =>
    rw [log] at ht
    cases ht with
    | keep _ ht =>
      obtain ⟨hnext, heffect⟩ := h.take x
      obtain ⟨hlog, hvisited, hafter⟩ := ih ht hnext
      refine ⟨?_, ?_, hafter⟩
      · rw [List.map_cons, log, heffect, h.hub.view, hlog]
      · rw [List.map_cons, visited_cons, visited_cons, hvisited, hnext.hub.view, h.hub.view]
    | leave hx ht =>
      -- The event happens to the first session alone, and makes no difference.
      obtain ⟨hv, he⟩ : s.hub.view.isApart = true ∧ x.event.isGlobal = false := by
        simpa [Entry.isApart] using hx
      have hstay := agrees_take_apart hv he
      obtain ⟨hlog, hvisited, hafter⟩ := ih ht (hstay.symm.trans h)
      exact ⟨hlog, by rw [hvisited, visited_cons, if_pos hstay.hub.view], hafter⟩

/-- The catalog, the gallery and the checker do not interfere. Whatever events happen, and whichever
    of those are left out that happen in one of these views and do not leave it: the session goes
    through the same views, the other events happen in the same views as before with the same
    effects, and in the end exchange, prompt, transcript and dashboard are the same. -/
theorem views_apart (s : Session) {happenings : List Happening} {rest : List Entry}
    (ht : Thinned (s.log happenings) rest) :
    s.log (rest.map (·.happening)) = rest ∧
      s.visited (rest.map (·.happening)) = s.visited happenings ∧
      Agrees (s.after happenings) (s.after (rest.map (·.happening))) :=
  (Agrees.refl s).thinned ht

/-- One goes to the catalog and looks for `x`, goes on to the designer and sends `h`, and checks in
    the checker what has not been typed there. -/
def stroll : List Happening :=
  [⟨1, .selectView 1⟩, ⟨2, .type 'x'⟩, ⟨3, .submit⟩, ⟨4, .selectView 3⟩, ⟨5, .type 'h'⟩,
    ⟨6, .submit⟩, ⟨7, .nextView⟩, ⟨8, .validate⟩]

/-- What of it matters to the exchange. -/
def errand : List Entry :=
  [⟨⟨1, .selectView 1⟩, .dashboard, .none⟩, ⟨⟨4, .selectView 3⟩, .components, .none⟩,
    ⟨⟨5, .type 'h'⟩, .designer, .none⟩, ⟨⟨6, .submit⟩, .designer, .request ['h']⟩,
    ⟨⟨7, .nextView⟩, .designer, .none⟩]

theorem views_apart_stroll :
    Thinned ((start (.ofModel defaultModel) 0).log stroll) errand ∧
      (start (.ofModel defaultModel) 0).log (errand.map (·.happening)) = errand ∧
      ((start (.ofModel defaultModel) 0).after (errand.map (·.happening))).hub.conversation =
        ((start (.ofModel defaultModel) 0).after stroll).hub.conversation := by
  have hlog : (start (.ofModel defaultModel) 0).log stroll =
      [⟨⟨1, .selectView 1⟩, .dashboard, .none⟩, ⟨⟨2, .type 'x'⟩, .components, .none⟩,
        ⟨⟨3, .submit⟩, .components, .none⟩, ⟨⟨4, .selectView 3⟩, .components, .none⟩,
        ⟨⟨5, .type 'h'⟩, .designer, .none⟩, ⟨⟨6, .submit⟩, .designer, .request ['h']⟩,
        ⟨⟨7, .nextView⟩, .designer, .none⟩, ⟨⟨8, .validate⟩, .validator, .none⟩] := by
    decide +kernel
  have hthinned : Thinned ((start (.ofModel defaultModel) 0).log stroll) errand := by
    rw [hlog]
    exact .keep _ (.leave rfl (.leave rfl (.keep _ (.keep _ (.keep _ (.keep _
      (.leave rfl .nil)))))))
  obtain ⟨hrest, -, hafter⟩ := views_apart _ hthinned
  exact ⟨hthinned, hrest, hafter.hub.conversation⟩

end Session

end CircuitHub

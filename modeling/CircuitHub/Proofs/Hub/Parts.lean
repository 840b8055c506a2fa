import CircuitHub.Proofs.Hub.History

/-!
# The parts of a hub

A hub has three parts that actions write to: the exchange of prompts and replies, the view that is
shown, and what the last check says. Every action writes to one of them at most, and none reads a
part that it does not write to. Whatever prompts, replies, checks and changes of view come between
each other, the exchange is therefore what its own actions alone make of it, and the other two parts
are what was last written to them.

* `Hub.SameExchange.update`: an action does the same to an exchange, whatever else the hub holds;
* `Hub.run_last`: a part that is only ever overwritten holds what was written last;
* `Hub.run_by_parts`: a run taken apart.
-/

namespace CircuitHub

namespace Action

/-- The action sends a prompt or receives a reply. -/
def isExchange : Action → Bool
  | submit _ | receive _ => true
  | switchView _ | validate _ | quit => false

/-- The view that an action shows. -/
def view? : Action → Option View
  | switchView view => some view
  | _ => none

/-- The definition that an action checks. -/
def checked? : Action → Option Text
  | validate input => some input
  | _ => none

end Action

namespace Hub

variable {hub hub' : Hub}

/-! ## Single actions -/

/-- An action that neither sends nor receives leaves the exchange as it is and asks for no other. -/
theorem update_of_not_isExchange {action : Action} (h : action.isExchange = false) (hub : Hub) :
    SameExchange hub (hub.update action).1 ∧ (hub.update action).2.prompt? = none := by
  cases action with
  | submit | receive => exact absurd h (by simp [Action.isExchange])
  | switchView | validate | quit => exact ⟨⟨rfl, rfl, rfl, rfl⟩, rfl⟩

theorem SameExchange.atTime (h : SameExchange hub hub') (time : Clock) :
    SameExchange (hub.atTime time) (hub'.atTime time) :=
  ⟨h.conversation, h.pending, h.status, h.client⟩

/-- At the same time, an action does the same to two hubs with the same exchange, and asks the same
    of the world. -/
theorem SameExchange.update (h : SameExchange hub hub') (hnow : hub'.now = hub.now)
    (action : Action) :
    SameExchange (hub.update action).1 (hub'.update action).1 ∧
      (hub'.update action).2 = (hub.update action).2 := by
  have hloading : hub'.isLoading = hub.isLoading := h.isLoading
  obtain ⟨hconversation, hpending, hstatus, hclient⟩ := h
  cases action with
  | switchView | validate | quit => exact ⟨⟨hconversation, hpending, hstatus, hclient⟩, rfl⟩
  | submit prompt =>
    rw [Hub.update, Hub.update, hloading]
    split
    · exact ⟨⟨hconversation, hpending, hstatus, hclient⟩, rfl⟩
    · rw [hconversation, hnow]
      exact ⟨⟨rfl, rfl, rfl, hclient⟩, rfl⟩
  | receive reply =>
    rw [Hub.update, Hub.update, hpending]
    split
    · exact ⟨⟨hconversation, hpending, hstatus, hclient⟩, rfl⟩
    · rw [hconversation, hnow]
      exact ⟨⟨rfl, rfl, rfl, hclient⟩, rfl⟩

theorem update_view (hub : Hub) (action : Action) :
    (hub.update action).1.view = action.view?.getD hub.view := by
  cases action with
  | switchView | validate | quit => rfl
  | submit | receive =>
    rw [Hub.update]
    split <;> rfl

theorem update_validation (hub : Hub) (action : Action) :
    (hub.update action).1.validation = (action.checked?.map .ofInput).getD hub.validation := by
  cases action with
  | switchView | validate | quit => rfl
  | submit | receive =>
    rw [Hub.update]
    split <;> rfl

/-! ## Runs -/

/-- Hubs with the same exchange have the same exchange in the end, and have asked for the same ones,
    if one of them takes all actions and the other only those that send or receive. -/
theorem SameExchange.run (h : SameExchange hub hub') (moments : List Moment) :
    SameExchange (hub.run (moments.filter (·.action.isExchange))).1 (hub'.run moments).1 ∧
      (hub'.run moments).2.filterMap Effect.prompt? =
        (hub.run (moments.filter (·.action.isExchange))).2.filterMap Effect.prompt? := by
  induction moments generalizing hub hub' with
  | nil => exact ⟨h, rfl⟩
  | cons moment moments ih =>
    by_cases hkept : moment.action.isExchange = true
    · -- Both take the action, at the same time.
      rw [List.filter_cons, if_pos hkept]
      obtain ⟨hnext, heffect⟩ := (h.atTime moment.time).update rfl moment.action
      obtain ⟨hlast, hasked⟩ := ih hnext
      refine ⟨hlast, ?_⟩
      simp only [Hub.run, List.filterMap_cons, heffect, hasked]
    · -- Only the second hub takes it, and its exchange stays as it is.
      rw [List.filter_cons, if_neg hkept]
      obtain ⟨hsame, hnone⟩ :=
        update_of_not_isExchange (Bool.eq_false_iff.2 hkept) (hub'.atTime moment.time)
      have hnext : SameExchange hub ((hub'.atTime moment.time).update moment.action).1 :=
        ⟨hsame.conversation.trans h.conversation, hsame.pending.trans h.pending,
          hsame.status.trans h.status, hsame.client.trans h.client⟩
      obtain ⟨hlast, hasked⟩ := ih hnext
      refine ⟨hlast, ?_⟩
      simp only [Hub.run, List.filterMap_cons, hnone, hasked]

/-- What every action either overwrites or leaves alone is in the end what was written to it last. -/
theorem run_last {α : Type} (part : Hub → α) (written? : Action → Option α)
    (hpart : ∀ hub time action,
      part ((hub.atTime time).update action).1 = (written? action).getD (part hub))
    (hub : Hub) (moments : List Moment) :
    part (hub.run moments).1 =
      (moments.filterMap fun m => written? m.action).getLast?.getD (part hub) := by
  induction moments generalizing hub with
  | nil => rfl
  | cons moment moments ih =>
    rw [run_cons_fst, ih, after, hpart]
    cases hw : written? moment.action with
    | none => simp [hw]
    | some value => simp [hw, List.getLast?_cons]

/-- After any actions, at any times, the exchange is what the prompts and replies alone would have
    made of it: so are the conversation, whether the hub waits and since when, what the header says,
    and the exchanges that were asked for. The view is the last one that was chosen and else the
    dashboard, and the last check says what it says of the last definition that was checked. -/
theorem run_by_parts (client : Client) (now : Clock) (moments : List Moment) :
    let hub := ((start client now).run moments).1
    let effects := ((start client now).run moments).2
    let exchange := ((start client now).run (moments.filter (·.action.isExchange))).1
    let asked := ((start client now).run (moments.filter (·.action.isExchange))).2
    hub.conversation = exchange.conversation ∧
    hub.pending = exchange.pending ∧
    hub.status = exchange.status ∧
    effects.filterMap Effect.prompt? = asked.filterMap Effect.prompt? ∧
    hub.view = (moments.filterMap (·.action.view?)).getLast?.getD .dashboard ∧
    hub.validation =
      ((moments.filterMap (·.action.checked?)).getLast?.map Validation.ofInput).getD .idle := by
  intro hub effects exchange asked
  obtain ⟨hsame, hasked⟩ := (SameExchange.refl (start client now)).run moments
  have hview := run_last (·.view) Action.view? (fun _ _ _ => update_view _ _)
    (start client now) moments
  have hvalidation := run_last (·.validation) (fun action => action.checked?.map .ofInput)
    (fun _ _ _ => update_validation _ _) (start client now) moments
  refine ⟨hsame.conversation, hsame.pending, hsame.status, hasked, hview, ?_⟩
  rw [show hub.validation = _ from hvalidation, ← List.map_filterMap, List.getLast?_map]
  rfl

end Hub

end CircuitHub

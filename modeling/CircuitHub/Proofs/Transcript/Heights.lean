import CircuitHub.Transcript.Heights

/-!
# Heights that are kept

Heights that were measured for some messages are kept for those when there are more of them
(`Heights.Kept`): messages are only ever added, and what is known of the first of them stays true.
The sums of the heights, which say where each message ends, are made anew each time.

* `runningSums_getElem?`: a sum is cut down to the greatest extent only once, however many heights
  it is made of;
* `Heights.Kept.measure_eq`: what is kept is completed to what would be measured for all messages.
-/

namespace CircuitHub

/-! ## Sums -/

/-- It makes no difference that a part of a sum has been cut down before. -/
theorem saturate_saturate_add (a b : Nat) :
    Extent.saturate (Extent.saturate a + b) = Extent.saturate (a + b) := by
  simp only [Extent.saturate]
  omega

/-- Each sum is that of all heights up to there, cut down to the greatest extent. -/
theorem runningSums_getElem? {heights : List Nat} {i : Nat} (hi : i < heights.length) (base : Nat) :
    (runningSums base heights)[i]? =
      some (Extent.saturate (base + total (heights.take (i + 1)))) := by
  induction heights generalizing base i with
  | nil => exact absurd hi (Nat.not_lt_zero i)
  | cons h heights ih =>
    cases i with
    | zero => simp [runningSums]
    | succ i =>
      rw [runningSums, List.getElem?_cons_succ, ih (Nat.lt_of_succ_lt_succ hi),
        List.take_succ_cons, total_cons, saturate_saturate_add, Nat.add_assoc]

namespace Heights

variable {h : Heights} {messages : List Message}

/-- The heights of messages in so many columns, all of them measured. -/
def fresh (messages : List Message) (width : Nat) : Heights :=
  ofList (messages.map fun m => (Card.ofMessage m).height width) width

/-- The heights are those of messages that were the first of these. -/
def Kept (h : Heights) (messages : List Message) : Prop :=
  ∃ seen, seen <+: messages ∧ h = fresh seen h.width

@[simp] theorem count_fresh (messages : List Message) (width : Nat) :
    (fresh messages width).count = messages.length :=
  List.length_map _

@[simp] theorem length_heights_fresh (messages : List Message) (width : Nat) :
    (fresh messages width).heights.length = messages.length :=
  List.length_map _

/-- Of no messages, nothing is kept. -/
theorem kept_none (messages : List Message) : none.Kept messages :=
  ⟨[], List.nil_prefix, rfl⟩

theorem kept_fresh (messages : List Message) (width : Nat) : (fresh messages width).Kept messages :=
  ⟨messages, List.prefix_rfl, rfl⟩

/-- More messages take nothing away from what is kept. -/
theorem Kept.append (hk : h.Kept messages) (more : List Message) : h.Kept (messages ++ more) := by
  obtain ⟨seen, hseen, hh⟩ := hk
  exact ⟨seen, hseen.trans (List.prefix_append messages more), hh⟩

/-- What can be used again are all heights, or none if the columns are others. -/
theorem reusable_fresh {seen : List Message} (hseen : seen <+: messages) (kept width : Nat) :
    (fresh seen kept).reusable messages.length width = if kept = width then seen.length else 0 := by
  have hle : seen.length ≤ messages.length := hseen.length_le
  rw [reusable, count_fresh, length_heights_fresh]
  by_cases hw : kept = width
  · rw [if_pos hw, if_neg, Nat.min_eq_left hle]
    simpa [fresh, ofList, hw] using hle
  · rw [if_neg hw, if_pos]
    simp [fresh, ofList, hw]

/-- If what is used again are the heights of the first messages, all others are measured. -/
theorem measure_eq_of_take {seen : List Message} {width : Nat} (hseen : seen <+: messages)
    (hknown : h.heights.take (h.reusable messages.length width) =
      seen.map fun m => (Card.ofMessage m).height width) :
    h.measure messages width = fresh messages width := by
  obtain ⟨others, rfl⟩ := hseen
  simp only [measure, hknown, List.length_map, List.drop_left, ← List.map_append]
  simp [fresh, ofList]

/-- What is kept is completed to what would be measured for all messages. -/
theorem Kept.measure_eq (hk : h.Kept messages) (width : Nat) :
    h.measure messages width = fresh messages width := by
  obtain ⟨seen, hseen, hh⟩ := hk
  have hreuse := reusable_fresh hseen h.width width
  rw [← hh] at hreuse
  by_cases hw : h.width = width
  · refine measure_eq_of_take hseen ?_
    rw [hreuse, if_pos hw, hh, hw]
    exact List.take_of_length_le (Nat.le_of_eq (length_heights_fresh seen width))
  · -- In other columns every card is measured anew.
    refine measure_eq_of_take (List.nil_prefix : [] <+: messages) ?_
    rw [hreuse, if_neg hw, List.take_zero, List.map_nil]

end Heights

end CircuitHub

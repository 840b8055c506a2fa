import CircuitHub.Proofs.Transcript.Heights
import CircuitHub.Transcript.Basic

/-!
# A conversation that is shown

A conversation and its transcript, as they change in a run: a message is said, the window is moved,
or the transcript is drawn into some area, in any order and as often as one likes. Messages are said
between any two drawings, and areas grow and shrink, so that the heights a transcript keeps may
be those of a shorter conversation in other columns. They never are those of another one
(`Showing.Reachable.kept`), and drawing makes them the heights of the conversation at hand
(`Showing.heights_draw`).
-/

namespace CircuitHub

/-- An event changes nothing of a transcript but where its window begins and whether it sticks. -/
theorem Transcript.handle?_eq {t u : Transcript} {event : Event} (h : t.handle? event = some u) :
    u = { t with scroll := t.scroll.moveTo u.scroll.offset, sticky := u.sticky } := by
  have repinned : ∀ v : Transcript, v.repin =
      { v with scroll := v.scroll.moveTo v.repin.scroll.offset, sticky := v.repin.sticky } := by
    intro v
    rw [Transcript.repin]
    split
    · rfl
    · rfl
  cases event with
  | scrollUp | scrollPageUp | scrollToBottom =>
    cases h
    rfl
  | scrollDown | scrollPageDown =>
    cases h
    exact repinned _
  | _ => exact nomatch h

/-- A conversation and the transcript that shows it. -/
structure Showing where
  /-- The conversation. -/
  conversation : Conversation
  /-- The transcript. -/
  transcript : Transcript

namespace Showing

/-- A conversation that has not been shown yet. -/
def start (conversation : Conversation) : Showing := ⟨conversation, .start⟩

/-- A message is said. -/
def append (s : Showing) (m : Message) : Showing :=
  { s with conversation := s.conversation.append m }

/-- The transcript is drawn into an area of a grid. -/
def draw (s : Showing) (waiting? : Option Waiting) (g : Grid) (area : Area) : Showing :=
  { s with transcript := (s.transcript.draw s.conversation.messages waiting? g area).1 }

/-- What can happen next. -/
inductive Step : Showing → Showing → Prop
  | append (s : Showing) (m : Message) : Step s (s.append m)
  | scroll {s : Showing} {event : Event} {t : Transcript} :
    s.transcript.handle? event = some t → Step s { s with transcript := t }
  | draw (s : Showing) (waiting? : Option Waiting) (g : Grid) (area : Area) :
    Step s (s.draw waiting? g area)

/-- What can come of a conversation that has not been shown yet. -/
inductive Reachable : Showing → Prop
  | start (conversation : Conversation) : Reachable (start conversation)
  | step {s t : Showing} : Reachable s → Step s t → Reachable t

/-! ## What is kept -/

/-- Moving the window changes no heights. -/
theorem heights_handle? {t u : Transcript} {event : Event} (h : t.handle? event = some u) :
    u.heights = t.heights := by
  rw [Transcript.handle?_eq h]

/-- Drawing measures what is not known, and then changes no heights. -/
theorem heights_draw_eq_measure (s : Showing) (waiting? : Option Waiting) (g : Grid) (area : Area) :
    (s.draw waiting? g area).transcript.heights =
      s.transcript.heights.measure s.conversation.messages (area.width - 1) := by
  have measured : (s.transcript.measured s.conversation.messages area).heights =
      s.transcript.heights.measure s.conversation.messages (area.width - 1) := by
    rw [Transcript.measured]
    split
    · rfl
    · rw [Transcript.clamp]
      split
      · rfl
      · rfl
  exact measured

variable {s t : Showing}

/-- Whatever happens next, what is kept are heights of the first messages. -/
theorem Step.kept (h : Step s t) (hk : s.transcript.heights.Kept s.conversation.messages) :
    t.transcript.heights.Kept t.conversation.messages := by
  cases h with
  | append m =>
    rw [Showing.append, Conversation.messages_append]
    exact hk.append [m]
  | scroll hevent => rwa [heights_handle? hevent]
  | draw waiting? g area =>
    -- Now they are those of all messages, in the columns of this area.
    rw [heights_draw_eq_measure, hk.measure_eq]
    exact Heights.kept_fresh _ _

theorem Reachable.kept (h : Reachable s) :
    s.transcript.heights.Kept s.conversation.messages := by
  induction h with
  | start conversation => exact Heights.kept_none _
  | step _ hstep ih => exact hstep.kept ih

/-- After each drawing there is one height for each message, the one that its card has in the
    columns at hand, and the rows below the messages are the sums of these, cut down to the greatest
    extent: all is as if no height had been known before. -/
theorem heights_draw (h : Reachable s) (waiting? : Option Waiting) (g : Grid) (area : Area) :
    let drawn := (s.draw waiting? g area).transcript.heights
    let measured := s.conversation.messages.map fun m => (Card.ofMessage m).height (area.width - 1)
    drawn.heights = measured ∧ drawn.bottoms.length = measured.length ∧
      (∀ i < measured.length,
        drawn.bottoms[i]? = some (Extent.saturate (total (measured.take (i + 1))))) ∧
      drawn = Heights.none.measure s.conversation.messages (area.width - 1) := by
  intro drawn measured
  have hfresh : drawn = Heights.fresh s.conversation.messages (area.width - 1) :=
    (heights_draw_eq_measure s waiting? g area).trans (h.kept.measure_eq _)
  rw [hfresh, (Heights.kept_none s.conversation.messages).measure_eq]
  refine ⟨rfl, runningSums_length 0 measured, fun i hi => ?_, rfl⟩
  rw [Heights.fresh, Heights.ofList, runningSums_getElem? hi, Nat.zero_add]

/-- A conversation that has been shown twice, in 60 and in 30 columns, and has grown after each. -/
def grown : Showing :=
  ((((start (.start 0)).draw none (.blank 0 0) ⟨0, 0, 61, 10⟩).append ⟨.user, ['h'], 0⟩).draw none
    (.blank 0 0) ⟨0, 0, 31, 10⟩).append ⟨.model, ['x'], 0⟩

theorem reachable_grown : Reachable grown :=
  .step (.step (.step (.step (.start _) (.draw _ _ _ _)) (.append _ _)) (.draw _ _ _ _))
    (.append _ _)

theorem heights_draw_grown :
    Reachable grown ∧
      (grown.draw none (.blank 0 0) ⟨0, 0, 31, 10⟩).transcript.heights.heights = [8, 3, 3] ∧
      (grown.draw none (.blank 0 0) ⟨0, 0, 31, 10⟩).transcript.heights.bottoms[2]? = some 14 := by
  obtain ⟨heights, -, bottoms, -⟩ := heights_draw reachable_grown none (.blank 0 0) ⟨0, 0, 31, 10⟩
  have cards : (grown.conversation.messages.map fun m =>
      (Card.ofMessage m).height ((⟨0, 0, 31, 10⟩ : Area).width - 1)) = [8, 3, 3] := by
    decide +kernel
  rw [cards] at heights bottoms
  exact ⟨reachable_grown, heights, bottoms 2 (by decide)⟩

end Showing

end CircuitHub

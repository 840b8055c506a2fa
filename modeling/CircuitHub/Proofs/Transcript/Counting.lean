import CircuitHub.Proofs.Result
import CircuitHub.Proofs.Transcript.Tiles

/-!
# Rows counted in extents

All rows on a screen are counted in extents, and there are only so many of these. Here a transcript
is measured and drawn with sums that may have no result (`Transcript.draw?`). The counts of rows are
still taken modulo the number of extents, as `Card.height` does it.

If the rows of each message are an extent, each card is measured to have its rows, and if the rows
of the whole transcript are one as well, all sums have a result: what is drawn here is what the
transcript draws, in just so many rows (`Showing.rows_counted`). A card that is too narrow for its
parts is an exception, as it gets one row whatever its parts are, and if all messages together have
more rows than there are extents, the transcript is cut down to the greatest extent
(`Showing.not_rows_summed`).
-/

namespace CircuitHub

/-! ## Measuring -/

namespace Card

variable {c : Card} {width : Nat}

/-- The height of the card in so many columns, if all sums are extents. -/
def height? (c : Card) (width : Nat) : Option Nat :=
  let inner := width - frameColumns
  if inner = 0 then some 1
  else do
    let body ← Extent.sum? (c.parts.map (·.height inner))
    let rows ← Extent.add? body (Extent.wrap (c.parts.length - 1))
    Extent.add? rows frameRows

/-- The rows that the card gets in so many columns, however many they are: all that it has, or one
    if it is too narrow for any part. -/
def allotted (c : Card) (width : Nat) : Nat := if width ≤ frameColumns then 1 else c.rowCount width

theorem height_eq_allotted (hfit : c.allotted width ≤ Extent.greatest) :
    c.height width = c.allotted width := by
  by_cases hwidth : width ≤ frameColumns
  · rw [allotted, if_pos hwidth, height, if_pos (Nat.sub_eq_zero_of_le hwidth)]
  · rw [allotted, if_neg hwidth] at hfit ⊢
    exact height_eq_rowCount (Nat.not_le.1 hwidth) hfit

/-- A height that is not too great is found without a sum that is. -/
theorem height?_eq_height (hfit : c.allotted width ≤ Extent.greatest) :
    c.height? width = some (c.height width) := by
  have hheight := height_eq_allotted hfit
  rw [← hheight, height] at hfit
  rw [height?, height]
  split
  · rfl
  · rename_i hinner
    rw [if_neg hinner] at hfit
    simp only [Option.bind_eq_bind]
    rw [Extent.sum?_eq_total (by omega), Option.bind_some, Extent.add?_of_le (by omega),
      Option.bind_some, Extent.add?_of_le hfit]

end Card

namespace Heights

variable {h : Heights} {messages : List Message} {width : Nat}

/-- The heights of messages in so many columns, of which only those are measured that are not
    known. -/
def measure? (h : Heights) (messages : List Message) (width : Nat) : Option Heights :=
  let known := h.heights.take (h.reusable messages.length width)
  let new? := (messages.drop known.length).mapM fun m => (Card.ofMessage m).height? width
  new?.map fun new => { ofList (known ++ new) width with count := messages.length }

theorem measure?_eq
    (hfit : ∀ m ∈ messages, (Card.ofMessage m).allotted width ≤ Extent.greatest) :
    h.measure? messages width = some (h.measure messages width) := by
  rw [measure?, mapM_of_forall_some fun m hm =>
    Card.height?_eq_height (hfit m (List.mem_of_mem_drop hm))]
  rfl

end Heights

namespace Transcript

variable {t : Transcript} {messages : List Message} {waiting? : Option Waiting}

/-- The transcript when its cards have been measured for an area. -/
def measured? (t : Transcript) (messages : List Message) (area : Area) : Option Transcript :=
  (t.heights.measure? messages (area.width - 1)).map fun heights =>
    let t := { t with heights, viewport := area.height }
    if t.sticky then t else t.clamp

theorem measured?_eq {area : Area}
    (hfit : ∀ m ∈ messages, (Card.ofMessage m).allotted (area.width - 1) ≤ Extent.greatest) :
    t.measured? messages area = some (t.measured messages area) := by
  rw [measured?, Heights.measure?_eq hfit]
  rfl

/-! ## Drawing -/

/-- The rows that are drawn. -/
def canvasHeight? (t : Transcript) (waiting? : Option Waiting) : Option Nat :=
  Extent.add? t.heights.total (indicatorRows waiting?)

theorem canvasHeight?_eq (hrows : t.canvasHeight waiting? ≤ Extent.greatest) :
    t.canvasHeight? waiting? = some (t.canvasHeight waiting?) :=
  Extent.add?_of_le hrows

/-- Messages with their heights, each with its rows from a row on. The row below the last of them
    must be an extent as well. -/
def placements? (width top : Nat) : List (Message × Nat) → Option (List (Message × Area))
  | [] => some []
  | (m, height) :: rest => do
    let below ← Extent.add? top height
    let places ← placements? width below rest
    some ((m, ⟨0, top, width, height⟩) :: places)

theorem placements?_eq (width : Nat) {top : Nat} {cards : List (Message × Nat)}
    (hfit : top + total (cards.map Prod.snd) ≤ Extent.greatest) :
    placements? width top cards = some (placements width top cards) := by
  induction cards generalizing top with
  | nil => rfl
  | cons card cards ih =>
    rw [List.map_cons, total_cons, ← Nat.add_assoc] at hfit
    rw [placements?, placements, Extent.add?_of_le (Nat.le_trans (Nat.le_add_right _ _) hfit)]
    simp only [Option.bind_eq_bind, Option.bind_some, ih hfit]

/-- The messages that are painted, each with its rows. -/
def painted? (t : Transcript) (messages : List Message) (width : Nat) :
    Option (List (Message × Area)) :=
  let (start, stop) := t.heights.visible t.scroll.offset t.viewport
  placements? width (t.heights.top start) (((messages.zip t.heights.heights).take stop).drop start)

/-- The cards that are painted and what is said below them. -/
def canvas? (t : Transcript) (messages : List Message) (waiting? : Option Waiting) (width : Nat) :
    Option Grid := do
  let rows ← t.canvasHeight? waiting?
  let places ← t.painted? messages width
  let g := places.foldl (fun g (m, area) => (Card.ofMessage m).draw g area) (.blank width rows)
  match waiting? with
  | some w =>
    let row ← Extent.add? t.heights.total 1
    some (Paragraph.draw { lines := [indicator w] } g ⟨0, row, width, 1⟩)
  | none => some g

/-- The transcript shown in an area. -/
def draw? (t : Transcript) (messages : List Message) (waiting? : Option Waiting) (g : Grid)
    (area : Area) : Option (Transcript × Grid) := do
  let measured ← t.measured? messages area
  let rows ← measured.canvasHeight? waiting?
  let canvas ← measured.canvas? messages waiting? (area.width - 1)
  let scroll := if measured.sticky then measured.scroll.toBottom else measured.scroll
  let shown := { measured with scroll := scroll.afterShow rows area.height }
  some (shown, shown.scroll.draw canvas g area)

section Drawn

variable {heights : List Nat} {width : Nat}

/-- The last of the messages that are painted ends with the transcript at the latest. -/
theorem top_add_total_le (ht : t.heights = .ofList heights width)
    (hlength : messages.length = heights.length) (hpos : ∀ n ∈ heights, 0 < n)
    (hfit : total heights ≤ Extent.greatest) {start stop : Nat}
    (hvisible : t.heights.visible t.scroll.offset t.viewport = (start, stop)) :
    t.heights.top start +
        total ((((messages.zip t.heights.heights).take stop).drop start).map Prod.snd) ≤
      Extent.greatest := by
  have hle := Heights.visible_le hpos hfit width t.scroll.offset t.viewport
  have hstop := Heights.visible_snd_le heights width t.scroll.offset t.viewport
  rw [← ht, hvisible] at hle hstop
  have hheights : (messages.zip heights).map Prod.snd = heights := List.map_snd_zip hlength.ge
  have habove : (heights.take stop).take start = heights.take start := by
    rw [List.take_take, Nat.min_eq_left hle]
  rw [ht, Heights.top_ofList hfit (Nat.le_trans hle hstop), ← habove, List.map_drop, List.map_take,
    show (Heights.ofList heights width).heights = heights from rfl, hheights, ← total_append,
    List.take_append_drop]
  exact Nat.le_trans (total_take_le heights stop) hfit

/-- If the messages are not too high, neither is anything that is painted of them. -/
theorem painted?_eq (ht : t.heights = .ofList heights width)
    (hlength : messages.length = heights.length) (hpos : ∀ n ∈ heights, 0 < n)
    (hfit : total heights ≤ Extent.greatest) (columns : Nat) :
    t.painted? messages columns = some (t.painted messages columns) := by
  rw [painted?, painted]
  generalize hvisible : t.heights.visible t.scroll.offset t.viewport = range
  exact placements?_eq columns (top_add_total_le ht hlength hpos hfit hvisible)

/-- If the transcript is not too high, neither is anything that is drawn of it. -/
theorem canvas?_eq (ht : t.heights = .ofList heights width)
    (hlength : messages.length = heights.length) (hpos : ∀ n ∈ heights, 0 < n)
    (hfit : total heights ≤ Extent.greatest) (hrows : t.canvasHeight waiting? ≤ Extent.greatest)
    (columns : Nat) :
    t.canvas? messages waiting? columns = some (t.canvas messages waiting? columns) := by
  have hplaces := painted?_eq ht hlength hpos hfit columns
  unfold canvas? canvas
  simp only [Option.bind_eq_bind, canvasHeight?_eq hrows, Option.bind_some, hplaces]
  cases waiting? with
  | none => rfl
  | some w =>
    -- What is said below the cards has the second of its two rows.
    have hrow : t.heights.total + 1 ≤ Extent.greatest :=
      Nat.le_trans (Nat.add_le_add_left (by decide : 1 ≤ 2) _) hrows
    simp only [Extent.add?_of_le hrow, Option.bind_some]

theorem draw?_eq {g : Grid} {area : Area}
    (hmeasured : t.measured? messages area = some (t.measured messages area))
    (hrows : (t.measured messages area).canvasHeight waiting? ≤ Extent.greatest)
    (hcanvas : (t.measured messages area).canvas? messages waiting? (area.width - 1) =
      some ((t.measured messages area).canvas messages waiting? (area.width - 1))) :
    t.draw? messages waiting? g area = some (t.draw messages waiting? g area) := by
  rw [draw?, hmeasured]
  simp only [Option.bind_eq_bind, Option.bind_some, canvasHeight?_eq hrows, hcanvas]
  rfl

end Drawn

end Transcript

/-! ## All rows -/

namespace Showing

variable {s : Showing}

/-- The rows that all messages get in so many columns, however many they are. -/
def allotted (s : Showing) (width : Nat) : Nat :=
  total (s.conversation.messages.map fun m => (Card.ofMessage m).allotted width)

theorem total_cardHeights {area : Area}
    (hcards : ∀ m ∈ s.conversation.messages,
      (Card.ofMessage m).allotted (area.width - 1) ≤ Extent.greatest) :
    total (s.cardHeights area) = s.allotted (area.width - 1) :=
  congrArg total (List.map_congr_left fun m hm => Card.height_eq_allotted (hcards m hm))

/-- If the rows of each message are an extent, every card is measured to have its rows, no sum that
    is made for it is too great, and the rows of the transcript are those of all messages, cut down
    to the greatest extent. If these and the rows that say that a reply is awaited are an extent as
    well, nothing is cut down, and no sum that is made to draw the transcript is too great. -/
theorem rows_counted (h : Reachable s) (waiting? : Option Waiting) (g : Grid) (area : Area)
    (hcards : ∀ m ∈ s.conversation.messages,
      (Card.ofMessage m).allotted (area.width - 1) ≤ Extent.greatest) :
    let measured := s.transcript.measured s.conversation.messages area
    (∀ m ∈ s.conversation.messages, (Card.ofMessage m).height? (area.width - 1) =
      some ((Card.ofMessage m).allotted (area.width - 1))) ∧
    s.transcript.measured? s.conversation.messages area = some measured ∧
    measured.heights.total = Extent.saturate (s.allotted (area.width - 1)) ∧
    (s.allotted (area.width - 1) + Transcript.indicatorRows waiting? ≤ Extent.greatest →
      measured.canvasHeight waiting? =
        s.allotted (area.width - 1) + Transcript.indicatorRows waiting? ∧
      s.transcript.draw? s.conversation.messages waiting? g area =
        some (s.transcript.draw s.conversation.messages waiting? g area)) := by
  intro measured
  have hheights := heights_measured h area
  have htotal : measured.heights.total = Extent.saturate (s.allotted (area.width - 1)) := by
    rw [hheights, Heights.total_ofList, total_cardHeights hcards]
  have hmeasured := Transcript.measured?_eq (t := s.transcript) hcards
  refine ⟨fun m hm => ?_, hmeasured, htotal, fun hsum => ?_⟩
  · rw [Card.height?_eq_height (hcards m hm), Card.height_eq_allotted (hcards m hm)]
  have hfit : s.allotted (area.width - 1) ≤ Extent.greatest :=
    Nat.le_trans (Nat.le_add_right _ _) hsum
  have hrows : measured.canvasHeight waiting? =
      s.allotted (area.width - 1) + Transcript.indicatorRows waiting? := by
    rw [Transcript.canvasHeight, htotal, Extent.saturate, Nat.min_eq_left hfit]
  have hcanvas : measured.canvas? s.conversation.messages waiting? (area.width - 1) =
      some (measured.canvas s.conversation.messages waiting? (area.width - 1)) := by
    refine Transcript.canvas?_eq hheights (List.length_map _).symm (fun n hn => ?_)
      (by rwa [total_cardHeights hcards]) (by rwa [hrows]) _
    obtain ⟨m, -, rfl⟩ := List.mem_map.1 hn
    exact Card.height_pos _ _
  exact ⟨hrows, Transcript.draw?_eq hmeasured (by rwa [hrows]) hcanvas⟩

/-- Drawn for the second time in 30 columns, a conversation of cards with 8, 3 and 3 rows. -/
theorem rows_counted_grown :
    Reachable grown ∧
      (grown.transcript.measured grown.conversation.messages ⟨0, 0, 31, 10⟩).canvasHeight
        (some ⟨3, 1⟩) = 16 ∧
      grown.transcript.draw? grown.conversation.messages (some ⟨3, 1⟩) (.blank 31 10)
          ⟨0, 0, 31, 10⟩ =
        some (grown.transcript.draw grown.conversation.messages (some ⟨3, 1⟩) (.blank 31 10)
          ⟨0, 0, 31, 10⟩) := by
  have hallotted : (grown.conversation.messages.map fun m =>
      (Card.ofMessage m).allotted ((⟨0, 0, 31, 10⟩ : Area).width - 1)) = [8, 3, 3] := by
    decide +kernel
  have hcards : ∀ m ∈ grown.conversation.messages,
      (Card.ofMessage m).allotted ((⟨0, 0, 31, 10⟩ : Area).width - 1) ≤ Extent.greatest := by
    rw [← List.forall_mem_map (P := (· ≤ Extent.greatest)), hallotted]
    decide
  have hrows : grown.allotted ((⟨0, 0, 31, 10⟩ : Area).width - 1) = 14 := congrArg total hallotted
  obtain ⟨-, -, -, hdrawn⟩ :=
    rows_counted reachable_grown (some ⟨3, 1⟩) (.blank 31 10) ⟨0, 0, 31, 10⟩ hcards
  rw [hrows] at hdrawn
  exact ⟨reachable_grown, hdrawn (by decide)⟩

/-! ### Too many rows -/

/-- A message of 202 rows in the one column that an area of six columns leaves for it. -/
def long : Message := ⟨.user, List.replicate 200 'h', 0⟩

/-- The welcome and 330 long messages. -/
def tall : Showing := start ⟨⟨.model, welcome, 0⟩, List.replicate 330 long⟩

/-- Each message of a tall conversation is measured to have its rows, and there are more of these in
    all than there are extents. -/
theorem rows_tall :
    (∀ m ∈ tall.conversation.messages,
      (Card.ofMessage m).height 5 = (Card.ofMessage m).rowCount 5) ∧
      Extent.greatest <
        total (tall.conversation.messages.map fun m => (Card.ofMessage m).rowCount 5) := by
  have hlong : (Card.ofMessage long).rowCount 5 = 202 := by decide +kernel
  constructor
  · intro m hm
    refine Card.height_eq_rowCount (by decide) ?_
    rcases List.mem_cons.1 hm with rfl | hm
    · decide +kernel
    · rw [List.eq_of_mem_replicate hm, hlong]
      decide
  · have htotal : total (List.replicate 330 202) = 66660 := by decide +kernel
    have hlater : total (tall.conversation.later.map fun m => (Card.ofMessage m).rowCount 5) =
        66660 := by
      rw [tall, start, List.map_replicate, hlong, htotal]
    rw [Conversation.messages, List.map_cons, total_cons, hlater]
    exact Nat.lt_of_lt_of_le (by decide) (Nat.le_add_left 66660 _)

/-- A card in four columns gets one row, though its border alone has two. A tall conversation is cut
    down to the greatest extent. -/
theorem not_rows_summed :
    ((Card.ofMessage ⟨.user, ['h'], 0⟩).rowCount 4 = 2 ∧
      (Card.ofMessage ⟨.user, ['h'], 0⟩).height 4 = 1) ∧
    Reachable tall ∧
    (∀ m ∈ tall.conversation.messages,
      (Card.ofMessage m).height 5 = (Card.ofMessage m).rowCount 5) ∧
    Extent.greatest <
      total (tall.conversation.messages.map fun m => (Card.ofMessage m).rowCount 5) ∧
    (tall.transcript.measured tall.conversation.messages ⟨0, 0, 6, 3⟩).canvasHeight none =
      Extent.greatest := by
  have hreachable : Reachable tall := .start _
  obtain ⟨hwhole, hgreater⟩ := rows_tall
  refine ⟨by decide +kernel, hreachable, hwhole, hgreater, ?_⟩
  have hcards : total (tall.cardHeights ⟨0, 0, 6, 3⟩) =
      total (tall.conversation.messages.map fun m => (Card.ofMessage m).rowCount 5) :=
    congrArg total (List.map_congr_left hwhole)
  rw [canvasHeight_measured hreachable, rows, Heights.total_ofList, hcards, Extent.saturate,
    Nat.min_eq_right (Nat.le_of_lt hgreater)]
  rfl

end Showing

end CircuitHub

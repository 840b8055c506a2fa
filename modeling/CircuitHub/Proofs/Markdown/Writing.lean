import CircuitHub.Proofs.Markdown.Nesting

/-!
# What is written on a page

Events only ever add to a page: spans at the end of its last line, and lines after it. What they add
depends on the open tags and not on what is written already. So if there are lines above a page, the
same lines are above it after any events (`Page.Below.handleAll`).

Therefore each text of well-nested events stands on their page once, between what the events before
it and those after it write, and each item begins a line of its own, with the number that its list
has counted to (`handleAll_wellNested`).
-/

namespace CircuitHub

/-- The line with more spans at its end. -/
def Line.append (line : Line) (spans : List Span) : Line :=
  { line with spans := line.spans ++ spans }

theorem Line.append_append (line : Line) (spans more : List Span) :
    (line.append spans).append more = line.append (spans ++ more) := by
  simp only [append, List.append_assoc]

namespace Markdown

variable {color : Color} {n outer : Nest}

namespace Page

variable {above : List Line} {left : Line} {p q : Page}

/-! ## Lines above a page -/

/-- One page is another one with lines above it, of which the last one goes on in its first line. -/
def Below (above : List Line) (left : Line) (p q : Page) : Prop :=
  ∃ first below, p.lines = below ++ [first] ∧
    q = { p with lines := below ++ left.append first.spans :: above }

namespace Below

/-- What does not depend on lines is the same below others. -/
theorem read_eq {α : Type} (h : Below above left p q) (f : Page → α)
    (hf : ∀ p lines, f { p with lines } = f p) : f q = f p := by
  obtain ⟨first, below, -, rfl⟩ := h
  exact hf p _

/-- What leaves lines alone can be done below others. -/
theorem update (h : Below above left p q) (f : Page → Page)
    (hf : ∀ p lines, f { p with lines } = { f p with lines }) : Below above left (f p) (f q) := by
  obtain ⟨first, below, hlines, rfl⟩ := h
  exact ⟨first, below, (congrArg Page.lines (hf p p.lines)).trans hlines, hf p _⟩

theorem pushLine (h : Below above left p q) (spans : List Span) :
    Below above left (p.pushLine spans) (q.pushLine spans) := by
  obtain ⟨first, below, hlines, rfl⟩ := h
  exact ⟨first, ⟨p.margin ++ spans, {}⟩ :: below, congrArg (_ :: ·) hlines, rfl⟩

theorem foldl_pushLine (h : Below above left p q) (lines : List Line) :
    Below above left (lines.foldl (fun p line => p.pushLine line.spans) p)
      (lines.foldl (fun p line => p.pushLine line.spans) q) := by
  induction lines generalizing p q with
  | nil => exact h
  | cons line lines ih => exact ih (h.pushLine line.spans)

theorem pushSpan (h : Below above left p q) (t : Text) (s : Style) :
    Below above left (p.pushSpan t s) (q.pushSpan t s) := by
  obtain ⟨first, below, hlines, rfl⟩ := h
  -- the span goes to the line that goes on from the lines above only if there is no other line
  cases below with
  | nil =>
    rw [List.nil_append] at hlines
    refine ⟨first.append [⟨t, s⟩], [], ?_, ?_⟩
    · rw [Page.pushSpan, hlines]
      rfl
    · rw [Page.pushSpan, Page.pushSpan, hlines]
      simp only [Line.append, List.nil_append, List.append_assoc]
  | cons line below =>
    refine ⟨first, line.append [⟨t, s⟩] :: below, ?_, ?_⟩
    · rw [Page.pushSpan, hlines]
      rfl
    · rw [Page.pushSpan, Page.pushSpan, hlines]
      rfl

theorem beginBlock (h : Below above left p q) : Below above left p.beginBlock q.beginBlock := by
  rw [Page.beginBlock, Page.beginBlock, h.read_eq (·.gap) fun _ _ => rfl]
  split
  · exact (h.pushLine []).update (fun p => { p with gap := false }) fun _ _ => rfl
  · exact h

theorem beginItem (h : Below above left p q) : Below above left p.beginItem q.beginItem := by
  have hq : q.counters = p.counters := h.read_eq (·.counters) fun _ _ => rfl
  cases hcounters : p.counters with
  | nil =>
    rw [beginItem_of_nil hcounters, beginItem_of_nil (hq.trans hcounters)]
    exact h.pushLine []
  | cons counter? counters =>
    rw [beginItem_eq hcounters, beginItem_eq (hq.trans hcounters), hq]
    exact (h.pushLine _).update
      (fun p => { p with counters := counter?.map (· + 1) :: counters }) fun _ _ => rfl

theorem openTag (h : Below above left p q) (tag : Tag) :
    Below above left (p.openTag tag) (q.openTag tag) := by
  cases tag with
  | paragraph => exact h.beginBlock.pushLine []
  | heading level =>
    rw [Page.openTag, Page.openTag, h.read_eq (·.color) fun _ _ => rfl]
    exact (h.beginBlock.pushLine _).update (·.pushStyle (headingStyle p.color level)) fun _ _ => rfl
  | quote =>
    exact h.beginBlock.update
      (fun p => { p with margin := p.margin ++ [Span.mk "│ " faint] }.pushStyle (quoteStyle p.color))
      fun _ _ => rfl
  | code info? =>
    exact h.beginBlock.update (fun p => { p with code? := some (info?.getD [], []) }) fun _ _ => rfl
  | list start? =>
    have hlist : Below above left (if p.counters.isEmpty then p.beginBlock else p)
        (if q.counters.isEmpty then q.beginBlock else q) := by
      rw [h.read_eq (·.counters) fun _ _ => rfl]
      split
      · exact h.beginBlock
      · exact h
    exact hlist.update (fun p => { p with counters := start? :: p.counters }) fun _ _ => rfl
  | item => exact h.beginItem
  | accent kind => exact h.update (·.pushStyle (accentStyle kind)) fun _ _ => rfl
  | link url =>
    exact h.update (fun p => { p with url? := some url }.pushStyle linkStyle) fun _ _ => rfl
  | html | image => exact h

theorem setCode (h : Below above left p q) : Below above left p.setCode q.setCode := by
  rw [Page.setCode, Page.setCode, h.read_eq (·.code?) fun _ _ => rfl]
  split
  · exact (h.update (fun p => { p with code? := none }) fun _ _ => rfl).foldl_pushLine _
  · exact h

theorem setUrl (h : Below above left p q) : Below above left p.setUrl q.setUrl := by
  rw [Page.setUrl, Page.setUrl, h.read_eq (·.url?) fun _ _ => rfl]
  split
  · have hnone := h.update (fun p => { p with url? := none }) fun _ _ => rfl
    exact ((hnone.pushSpan _ _).pushSpan _ _).pushSpan _ _
  · exact h

theorem closeTag (h : Below above left p q) (tag : Tag) :
    Below above left (p.closeTag tag) (q.closeTag tag) := by
  cases tag with
  | paragraph => exact h.update (·.endBlock) fun _ _ => rfl
  | heading => exact h.update (·.popStyle.endBlock) fun _ _ => rfl
  | quote =>
    exact h.update (fun p => { p with margin := p.margin.dropLast }.popStyle.endBlock) fun _ _ => rfl
  | code => exact h.setCode.update (·.endBlock) fun _ _ => rfl
  | list =>
    exact h.update (fun p => { p with counters := p.counters.tail }.endBlock) fun _ _ => rfl
  | accent => exact h.update (·.popStyle) fun _ _ => rfl
  | link => exact (h.update (·.popStyle) fun _ _ => rfl).setUrl
  | item | html | image => exact h

theorem addText (h : Below above left p q) (t : Text) :
    Below above left (p.addText t) (q.addText t) := by
  rw [Page.addText, Page.addText, h.read_eq (·.code?) fun _ _ => rfl]
  split
  · exact h.update (fun p => { p with code? := some _ }) fun _ _ => rfl
  · rw [h.read_eq (·.style) fun _ _ => rfl]
    exact h.pushSpan _ _

/-- Lines above a page are above it after any event. -/
theorem handle (h : Below above left p q) (e : Event) :
    Below above left (p.handle e) (q.handle e) := by
  cases e with
  | opened tag => exact h.openTag tag
  | closed tag => exact h.closeTag tag
  | text t => exact h.addText t
  | html t =>
    rw [Page.handle, Page.handle, h.read_eq (·.style) fun _ _ => rfl]
    exact h.pushSpan t p.style
  | code | softBreak | task => exact h.pushSpan _ _
  | hardBreak => exact h.pushLine []
  | rule => exact (h.beginBlock.pushLine _).update (·.endBlock) fun _ _ => rfl

theorem handleAll (h : Below above left p q) (events : List Event) :
    Below above left (p.handleAll events) (q.handleAll events) := by
  induction events generalizing p q with
  | nil => exact h
  | cons e events ih => exact ih (h.handle e)

theorem reverse_lines (h : Below above left p q) {first : Line} {below : List Line}
    (hp : p.lines.reverse = first :: below) :
    q.lines.reverse = above.reverse ++ left.append first.spans :: below := by
  obtain ⟨first', below', hlines, rfl⟩ := h
  rw [hlines, List.reverse_append] at hp
  cases hp
  simp

end Below

/-- The lines that a span is put on: if there are none, one begins. -/
def begun (p : Page) : List Line := if p.lines = [] then [⟨p.margin, {}⟩] else p.lines

theorem below_pushSpan (h : p.begun = left :: above) (t : Text) (s : Style) :
    Below above (left.append [⟨t, s⟩]) { p with lines := [.blank] } (p.pushSpan t s) := by
  refine ⟨.blank, [], rfl, ?_⟩
  rw [begun] at h
  rw [pushSpan]
  split at h
  case isTrue hnone =>
    rw [hnone]
    cases h
    simp [pushLine, Line.append, Line.blank, hnone]
  case isFalse =>
    rw [h]
    simp [Line.append, Line.blank]

theorem below_pushLine (p : Page) (spans : List Span) :
    Below p.lines ⟨p.margin ++ spans, {}⟩ { p with lines := [.blank] } (p.pushLine spans) :=
  ⟨.blank, [], rfl, by simp [pushLine, Line.append, Line.blank]⟩

theorem below_beginItem {counter? : Option Nat} {counters : List (Option Nat)}
    (h : p.counters = counter? :: counters) :
    Below p.lines ⟨p.margin ++ [⟨itemMark p.counters, faint⟩], {}⟩
      { p with lines := [.blank], counters := counter?.map (· + 1) :: counters } p.beginItem := by
  rw [beginItem_eq h]
  exact (below_pushLine p _).update
    (fun p => { p with counters := counter?.map (· + 1) :: counters }) fun _ _ => rfl

theorem begun_ne_nil (p : Page) : p.begun ≠ [] := by
  rw [begun]
  split
  · exact List.cons_ne_nil _ _
  · assumption

theorem handleAll_append (p : Page) (events more : List Event) :
    p.handleAll (events ++ more) = (p.handleAll events).handleAll more :=
  List.foldl_append

/-- Pages have lines once there are lines above them. -/
theorem Below.exists_reverse_lines (h : Below above left p q) :
    ∃ first below, p.lines.reverse = first :: below := by
  obtain ⟨first, below, hlines, -⟩ := h
  exact ⟨first, below.reverse, by rw [hlines, List.reverse_append]; rfl⟩

end Page

/-! ## Where texts and items stand -/

/-- Whatever text comes between some events and others, it is written once and in one style: right
    after all that the events before it write, and before all that the events after it write. -/
def WritesText (color : Color) (before after : List Event) (s : Style) : Prop :=
  ∃ above left right below, ((Page.blank color).handleAll before).begun.reverse = above ++ [left] ∧
    ∀ t, ((Page.blank color).handleAll (before ++ .text t :: after)).lines.reverse =
      above ++ left.append (⟨Code.expandTabs t, s⟩ :: right) :: below

/-- An item that begins between some events and others begins a line, below those that the events
    before it write, with what each line begins with and a mark. -/
def WritesItem (color : Color) (before after : List Event) (margin : List Span) (mark : Text) :
    Prop :=
  ∃ right below, ((Page.blank color).handleAll (before ++ .opened .item :: after)).lines.reverse =
    ((Page.blank color).handleAll before).lines.reverse ++
      ⟨margin ++ ⟨mark, Page.faint⟩ :: right, {}⟩ :: below

theorem writesText {before : List Event} (hn : Nest.after? [] before = some n)
    (hcode : n.inCode = false) (after : List Event) :
    WritesText color before after (n.style color) := by
  have hfits := Page.fits_handleAll hn color
  generalize hp : (Page.blank color).handleAll before = p at hfits
  have hnone : p.code? = none := by simpa [hcode] using hfits.isSome_code?
  obtain ⟨left, above, hbegun⟩ := List.exists_cons_of_ne_nil p.begun_ne_nil
  have hbelow (t : Text) : Page.Below above (left.append [⟨Code.expandTabs t, n.style color⟩])
      (({ p with lines := [.blank] } : Page).handleAll after)
      ((Page.blank color).handleAll (before ++ .text t :: after)) := by
    rw [Page.handleAll_append, hp]
    have htext : p.handle (.text t) = p.pushSpan (Code.expandTabs t) (n.style color) := by
      rw [Page.handle, Page.addText, hnone, hfits.style_eq]
    refine Page.Below.handleAll ?_ after
    rw [htext]
    exact Page.below_pushSpan hbegun _ _
  obtain ⟨first, below, hlines⟩ := (hbelow []).exists_reverse_lines
  refine ⟨above.reverse, left, first.spans, below, ?_, fun t => ?_⟩
  · rw [hp, hbegun, List.reverse_cons]
  · rw [(hbelow t).reverse_lines hlines, Line.append_append]
    rfl

/-- How many lists are open. -/
def Nest.depth (n : Nest) : Nat := n.countP (·.tag.isList)

theorem Nest.length_counters (n : Nest) : n.counters.length = n.depth := by
  rw [counters, List.length_filterMap_eq_countP, depth]
  congr 1
  funext o
  obtain ⟨tag, items⟩ := o
  cases tag <;> rfl

theorem itemMark_counters (start items : Nat) (outer : Nest) :
    Page.itemMark (Nest.counters (⟨.list (some start), items⟩ :: outer)) =
      .replicate (2 * outer.depth) ' ' ++ Text.ofNat (start + items) ++ ". " := by
  have hcounters : Nest.counters (⟨.list (some start), items⟩ :: outer) =
      some (start + items) :: outer.counters := rfl
  rw [hcounters, Page.itemMark, List.length_cons, Nat.add_sub_cancel, outer.length_counters,
    Nat.mul_comm, ← List.flatten_replicate_replicate]
  rfl

theorem writesItem {before : List Event} {start items : Nat}
    (hn : Nest.after? [] before = some (⟨.list (some start), items⟩ :: outer))
    (after : List Event) : WritesItem color before after outer.margin
      (.replicate (2 * outer.depth) ' ' ++ Text.ofNat (start + items) ++ ". ") := by
  have hfits := Page.fits_handleAll hn color
  generalize hp : (Page.blank color).handleAll before = p at hfits
  have hbelow := (Page.below_beginItem hfits.counters_eq).handleAll after
  obtain ⟨first, below, hlines⟩ := hbelow.exists_reverse_lines
  refine ⟨first.spans, below, ?_⟩
  calc ((Page.blank color).handleAll (before ++ .opened .item :: after)).lines.reverse
      = (p.beginItem.handleAll after).lines.reverse := by
        rw [Page.handleAll_append, hp]
        rfl
    _ = _ := hbelow.reverse_lines hlines
    _ = _ := by
        rw [hp, hfits.margin_eq, hfits.counters_eq, itemMark_counters, Line.append,
          List.append_assoc]
        rfl

theorem Nest.exists_eq_list (h : (n.next? (.opened .item)).isSome) :
    ∃ start? items outer, n = ⟨.list start?, items⟩ :: outer := by
  obtain _ | ⟨⟨tag, items⟩, outer⟩ := n
  · cases h
  · cases tag with
    | list start? => exact ⟨start?, items, outer, rfl⟩
    | _ => cases h

/-- At each event of well-nested ones, the tags are known that are open there, and it may come. -/
theorem WellNested.exists_nest {before after : List Event} {e : Event}
    (h : WellNested (before ++ e :: after)) :
    ∃ n, Nest.after? [] before = some n ∧ (n.next? e).isSome := by
  rw [WellNested, Nest.after?_append] at h
  obtain ⟨n, hn, hafter⟩ := Option.bind_eq_some_iff.1 h
  obtain ⟨n', hnext, -⟩ := Option.bind_eq_some_iff.1 hafter
  exact ⟨n, hn, Option.isSome_of_mem hnext⟩

/-- After well-nested events nothing is open on the page. Each text among them that does not stand
    in code is written once and in order, in the style that the tags open around it make up. Each
    item of a list that starts with a number is written with this number and those after it in
    order, at the indent of the list, whatever there is in the items before it. -/
theorem handleAll_wellNested (color : Color) {events : List Event} (h : WellNested events) :
    ((Page.blank color).handleAll events).AtRest ∧
    (∀ before t after, events = before ++ .text t :: after →
      ∃ n, Nest.after? [] before = some n ∧
        (n.inCode = false → WritesText color before after (n.style color))) ∧
    ∀ before after, events = before ++ .opened .item :: after →
      ∃ (start? : Option Nat) (items : Nat) (outer : Nest),
        Nest.after? [] before = some (⟨.list start?, items⟩ :: outer) ∧
        ∀ start, start? = some start →
          WritesItem color before after outer.margin
            (.replicate (2 * outer.depth) ' ' ++ Text.ofNat (start + items) ++ ". ") := by
  refine ⟨(Page.fits_handleAll h color).atRest, ?_, ?_⟩
  · rintro before t after rfl
    obtain ⟨n, hn, -⟩ := h.exists_nest
    exact ⟨n, hn, fun hcode => writesText hn hcode after⟩
  · rintro before after rfl
    obtain ⟨n, hn, hnext⟩ := h.exists_nest
    obtain ⟨start?, items, outer, rfl⟩ := Nest.exists_eq_list hnext
    exact ⟨start?, items, outer, hn, fun start hstart => writesItem (hstart ▸ hn) after⟩

/-- Below a quote that holds a numbered list, whose first item holds a list without numbers, the
    second item begins with the next number, and a strong link in it has the style of the quote
    too. -/
theorem handleAll_wellNested_quoted :
    let before : List Event := [.opened .quote, .opened (.list (some 3)), .opened .item,
      .text "one", .opened (.list none), .opened .item, .text "within", .closed .item,
      .closed (.list none), .closed .item]
    let between : List Event := [.opened (.accent .strong), .opened (.link "there")]
    let after : List Event := [.closed (.link "there"), .closed (.accent .strong), .closed .item,
      .closed (.list (some 3)), .closed .quote]
    let events := before ++ .opened .item :: between ++ .text "two" :: after
    WellNested events ∧ ((Page.blank .white).handleAll events).AtRest ∧
    WritesItem .white before (between ++ .text "two" :: after) [⟨"│ ", Page.faint⟩] "4. " ∧
    WritesText .white (before ++ .opened .item :: between) after
      { fg? := some .cyan
        emphasis := { bold := true, dim := true, italic := true, underlined := true } } := by
  intro before between after events
  have h : WellNested events := by decide
  obtain ⟨hrest, htext, hitem⟩ := handleAll_wellNested .white h
  refine ⟨h, hrest, ?_, ?_⟩
  · obtain ⟨start?, items, outer, hn, hwritten⟩ :=
      hitem before (between ++ .text "two" :: after) rfl
    cases hn
    exact hwritten 3 rfl
  · obtain ⟨n, hn, hwritten⟩ := htext (before ++ .opened .item :: between) "two" after rfl
    cases hn
    exact hwritten rfl

end Markdown

end CircuitHub

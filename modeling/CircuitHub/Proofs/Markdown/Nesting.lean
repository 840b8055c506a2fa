import CircuitHub.Markdown.Typeset
import Mathlib.Data.List.Basic

/-!
# Tags within tags

A document comes as events, of which some open tags and some close them. They are *well nested* if
what closes is always what opened last, nothing is open at the end, and each tag holds what it may
hold (`WellNested`): items stand in lists, and code holds text. The events of every document are
(`wellNested_events`).

A page keeps what it needs of the open tags in stacks of its own: styles, bars in the margin, the
numbers of lists. Each tag that is opened puts something on some of them, and it is for the event
that closes the tag to take it away again. While events are well nested, the stacks hold what is due
to the open tags and nothing else (`Page.Fits`): one event keeps it so (`Page.Fits.handle`), and
therefore any number of them do (`Page.fits_handleAll`). When all tags are closed, nothing is left
(`Page.Fits.atRest`).
-/

namespace CircuitHub.Markdown

/-! ## Nests -/

/-- A tag that is open, and how many items have begun right in it. -/
structure OpenTag where
  /-- The tag. -/
  tag : Tag
  /-- The items. -/
  items : Nat
  deriving DecidableEq, Repr

/-- The tags that are open, the innermost first. -/
abbrev Nest := List OpenTag

def Tag.isList : Tag → Bool
  | list _ => true
  | _ => false

def Tag.isCode : Tag → Bool
  | code _ => true
  | _ => false

def Tag.isLink : Tag → Bool
  | link _ => true
  | _ => false

def Tag.isQuote : Tag → Bool
  | quote => true
  | _ => false

/-- The event begins an item. -/
def Event.isItem : Event → Bool
  | opened .item => true
  | _ => false

def Event.isText : Event → Bool
  | text _ => true
  | _ => false

namespace Nest

/-- A list is innermost. -/
def inList (n : Nest) : Bool := n.head?.any (·.tag.isList)

/-- Code is innermost. -/
def inCode (n : Nest) : Bool := n.head?.any (·.tag.isCode)

/-- The innermost tag may hold the event: nothing but a list holds items, and code holds nothing but
    text. -/
def admits (n : Nest) (e : Event) : Bool := (n.inList || !e.isItem) && (!n.inCode || e.isText)

/-- The nest with more items begun right in its innermost tag. -/
def addItems (n : Nest) (items : Nat) : Nest :=
  match n with
  | o :: outer => { o with items := o.items + items } :: outer
  | [] => []

/-- The nest with a tag opened. -/
def enter (n : Nest) (tag : Tag) : Nest := ⟨tag, 0⟩ :: if tag = .item then n.addItems 1 else n

/-- The nest after an event, if the event may come. -/
def next? (n : Nest) : Event → Option Nest
  | .closed tag =>
    match n with
    | o :: outer => if o.tag = tag then some outer else none
    | [] => none
  | .opened tag => if n.admits (.opened tag) then some (n.enter tag) else none
  | e => if n.admits e then some n else none

/-- The nest after some events, if they may come. -/
def after? (n : Nest) (events : List Event) : Option Nest := events.foldlM next? n

theorem after?_append (n : Nest) (events more : List Event) :
    n.after? (events ++ more) = (n.after? events).bind (·.after? more) :=
  List.foldlM_append

end Nest

/-- Every tag is closed, the innermost first, and holds what it may hold. -/
def WellNested (events : List Event) : Prop := Nest.after? [] events = some []

instance (events : List Event) : Decidable (WellNested events) :=
  inferInstanceAs (Decidable (_ = _))

/-! ## What is due to open tags -/

/-- The style that a tag lays over the text in it. -/
def Tag.overlay? (color : Color) : Tag → Option Style
  | heading level => some (Page.headingStyle color level)
  | quote => some (Page.quoteStyle color)
  | accent kind => some (Page.accentStyle kind)
  | link _ => some Page.linkStyle
  | _ => none

/-- The number of the next item, if the tag is a list. -/
def OpenTag.counter? (o : OpenTag) : Option (Option Nat) :=
  match o.tag with
  | .list start? => some (start?.map (· + o.items))
  | _ => none

namespace Nest

/-- The styles that the open tags lay over the text, the innermost first. -/
def overlays (color : Color) (n : Nest) : List Style := n.filterMap (·.tag.overlay? color)

/-- The style of text: those of the open tags, from the outermost on, each laid over what is there,
    the first one over the plain colour. -/
def style (color : Color) (n : Nest) : Style := (n.overlays color).foldr .atop (.ofColor color)

theorem style_cons_of_none {color : Color} {o : OpenTag} (h : o.tag.overlay? color = none)
    (outer : Nest) : style color (o :: outer) = style color outer := by
  have hoverlays : overlays color (o :: outer) = overlays color outer := List.filterMap_cons_none h
  rw [style, hoverlays, style]

theorem style_cons_of_some {color : Color} {o : OpenTag} {s : Style}
    (h : o.tag.overlay? color = some s) (outer : Nest) :
    style color (o :: outer) = s.atop (style color outer) := by
  have hoverlays : overlays color (o :: outer) = s :: overlays color outer :=
    List.filterMap_cons_some h
  rw [style, hoverlays, List.foldr_cons, style]

/-- The style of text in each of the open tags that have one. -/
def styles (color : Color) : Nest → List Style
  | [] => []
  | o :: outer =>
    match o.tag.overlay? color with
    | some _ => style color (o :: outer) :: styles color outer
    | none => styles color outer

/-- One bar for each quote that is open. -/
def margin (n : Nest) : List Span := .replicate (n.countP (·.tag.isQuote)) ⟨"│ ", Page.faint⟩

/-- The numbers of the next items of the open lists. -/
def counters (n : Nest) : List (Option Nat) := n.filterMap OpenTag.counter?

/-- No link is open. -/
def noLink (n : Nest) : Bool := n.all fun o => !o.tag.isLink

end Nest

namespace Page

/-- The page holds what is due to the open tags. -/
structure Fits (color : Color) (n : Nest) (p : Page) : Prop where
  color_eq : p.color = color
  styles_eq : p.styles = n.styles color
  margin_eq : p.margin = n.margin
  counters_eq : p.counters = n.counters
  isSome_code? : p.code?.isSome = n.inCode
  url?_eq_none : n.noLink = true → p.url? = none
  /-- Nothing is open in code. -/
  code_innermost : ∀ o ∈ n.tail, o.tag.isCode = false

/-- Nothing is open on the page. -/
structure AtRest (p : Page) : Prop where
  styles_eq : p.styles = []
  margin_eq : p.margin = []
  counters_eq : p.counters = []
  code?_eq : p.code? = none
  url?_eq : p.url? = none

variable {color : Color} {n outer : Nest} {p q : Page}

theorem fits_blank (color : Color) : Fits color [] (blank color) :=
  ⟨rfl, rfl, rfl, rfl, rfl, fun _ => rfl, nofun⟩

/-- When no tag is open, nothing is left of those that have been. -/
theorem Fits.atRest (h : Fits color [] p) : p.AtRest where
  styles_eq := h.styles_eq
  margin_eq := h.margin_eq
  counters_eq := h.counters_eq
  code?_eq := by simpa [Nest.inCode] using h.isSome_code?
  url?_eq := h.url?_eq_none rfl

/-- Text has the style that is due to the open tags. -/
theorem Fits.style_eq (h : Fits color n p) : p.style = n.style color := by
  rw [style, h.color_eq, h.styles_eq]
  clear h
  induction n with
  | nil => rfl
  | cons o outer ih =>
    rw [Nest.styles]
    cases hoverlay : o.tag.overlay? color with
    | some s => rfl
    | none => exact ih.trans (Nest.style_cons_of_none hoverlay outer).symm

/-! ## What is written makes no difference -/

/-- The page without what is written on it. -/
def setting (p : Page) : Page := { p with lines := [], gap := false }

theorem Fits.congr (h : Fits color n p) (hq : q.setting = p.setting) : Fits color n q where
  color_eq := (congrArg Page.color hq).trans h.color_eq
  styles_eq := (congrArg Page.styles hq).trans h.styles_eq
  margin_eq := (congrArg Page.margin hq).trans h.margin_eq
  counters_eq := (congrArg Page.counters hq).trans h.counters_eq
  isSome_code? := (congrArg (·.code?.isSome) hq).trans h.isSome_code?
  url?_eq_none hlink := (congrArg Page.url? hq).trans (h.url?_eq_none hlink)
  code_innermost := h.code_innermost

theorem setting_pushSpan (p : Page) (t : Text) (s : Style) :
    (p.pushSpan t s).setting = p.setting := by
  rw [pushSpan]
  split <;> rfl

theorem setting_beginBlock (p : Page) : p.beginBlock.setting = p.setting := by
  rw [beginBlock]
  split <;> rfl

theorem setting_foldl_pushLine (lines : List Line) (p : Page) :
    (lines.foldl (fun p line => p.pushLine line.spans) p).setting = p.setting := by
  induction lines generalizing p with
  | nil => rfl
  | cons line lines ih => exact ih _

/-! ## Opening and closing -/

/-- A page fits one more tag if what is due to the tag is put on its stacks. -/
theorem Fits.cons (h : Fits color n p) (hn : n.inCode = false) (o : OpenTag)
    (hcolor : q.color = p.color)
    (hstyles : q.styles = ((o.tag.overlay? color).map (·.atop p.style)).toList ++ p.styles)
    (hmargin : q.margin = p.margin ++ if o.tag.isQuote then [⟨"│ ", faint⟩] else [])
    (hcounters : q.counters = o.counter?.toList ++ p.counters)
    (hcode : q.code?.isSome = (o.tag.isCode || p.code?.isSome))
    (hurl : o.tag.isLink = false → q.url? = p.url?) : Fits color (o :: n) q where
  color_eq := hcolor.trans h.color_eq
  styles_eq := by
    rw [hstyles, Nest.styles, h.styles_eq, h.style_eq]
    cases hoverlay : o.tag.overlay? color with
    | some s => simp [Nest.style_cons_of_some hoverlay]
    | none => rfl
  margin_eq := by
    rw [hmargin, h.margin_eq, Nest.margin, Nest.margin, List.countP_cons]
    split
    · rw [List.replicate_succ']
    · exact List.append_nil _
  counters_eq := by
    rw [hcounters, h.counters_eq, Nest.counters, Nest.counters, List.filterMap_cons]
    cases o.counter? <;> rfl
  isSome_code? := by
    rw [hcode, h.isSome_code?, hn, Bool.or_false]
    rfl
  url?_eq_none hlink := by
    simp only [Nest.noLink, List.all_cons, Bool.and_eq_true, Bool.not_eq_true'] at hlink
    exact (hurl hlink.1).trans (h.url?_eq_none hlink.2)
  code_innermost := by
    cases n with
    | nil => exact nofun
    | cons o' outer =>
      exact List.forall_mem_cons.2 ⟨by simpa [Nest.inCode] using hn, h.code_innermost⟩

/-- A page fits one tag less if what is due to the tag is taken off its stacks. -/
theorem Fits.tail {o : OpenTag} (h : Fits color (o :: outer) p) (hcolor : q.color = p.color)
    (hstyles : q.styles = if (o.tag.overlay? color).isSome then p.styles.tail else p.styles)
    (hmargin : q.margin = if o.tag.isQuote then p.margin.dropLast else p.margin)
    (hcounters : q.counters = if o.tag.isList then p.counters.tail else p.counters)
    (hcode : q.code? = if o.tag.isCode then none else p.code?)
    (hurl : q.url? = if o.tag.isLink then none else p.url?) : Fits color outer q where
  color_eq := hcolor.trans h.color_eq
  styles_eq := by
    rw [hstyles, h.styles_eq, Nest.styles]
    cases o.tag.overlay? color <;> rfl
  margin_eq := by
    rw [hmargin, h.margin_eq, Nest.margin, Nest.margin, List.countP_cons]
    split <;> simp
  counters_eq := by
    rw [hcounters, h.counters_eq, Nest.counters, Nest.counters, List.filterMap_cons]
    rcases o with ⟨tag, items⟩
    cases tag <;> rfl
  isSome_code? := by
    have houter : outer.inCode = false := by
      cases outer with
      | nil => rfl
      | cons o' outer => exact h.code_innermost o' List.mem_cons_self
    rw [hcode, houter]
    split
    · rfl
    · rename_i hnot
      rw [h.isSome_code?]
      simpa [Nest.inCode] using hnot
  url?_eq_none hlink := by
    rw [hurl]
    split
    · rfl
    · rename_i hnot
      exact h.url?_eq_none (by simpa [Nest.noLink, hnot] using hlink)
  code_innermost o ho := h.code_innermost o (List.mem_of_mem_tail ho)

/-- An item that stands in no list begins a line. -/
theorem beginItem_of_nil (h : p.counters = []) : p.beginItem = p.pushLine [] := by
  obtain ⟨⟩ := p
  cases h
  rfl

/-- An item that stands in a list begins a line with a mark, and the list counts it. -/
theorem beginItem_eq {counter? : Option Nat} {counters : List (Option Nat)}
    (h : p.counters = counter? :: counters) :
    p.beginItem = { p.pushLine [⟨itemMark p.counters, faint⟩] with
      counters := counter?.map (· + 1) :: counters } := by
  have hempty : (p.pushLine []).counters.isEmpty = false := congrArg List.isEmpty h
  have hmark : (p.pushLine []).pushSpan (itemMark p.counters) faint =
      p.pushLine [⟨itemMark p.counters, faint⟩] := by
    simp only [pushLine, pushSpan, List.append_nil]
  simp only [beginItem, hempty, Bool.false_eq_true, if_false]
  rw [show (p.pushLine []).counters = p.counters from rfl, hmark]
  obtain ⟨⟩ := p
  cases h
  cases counter? <;> rfl

/-- An item that begins is counted by the list that it stands in. -/
theorem Fits.beginItem (h : Fits color n p) (hn : n.inList = true) :
    Fits color (n.addItems 1) p.beginItem := by
  obtain _ | ⟨⟨tag, items⟩, outer⟩ := n
  · cases hn
  · cases tag with
    | list start? =>
      rw [beginItem_eq h.counters_eq]
      refine ⟨h.color_eq, h.styles_eq, h.margin_eq, ?_, h.isSome_code?, h.url?_eq_none,
        h.code_innermost⟩
      cases start? <;> rfl
    | _ => cases hn

theorem Fits.openTag (h : Fits color n p) {tag : Tag} (hn : n.admits (.opened tag) = true) :
    Fits color (n.enter tag) (p.openTag tag) := by
  have hcode : n.inCode = false := by
    simpa [Nest.admits, Event.isText] using (Bool.and_eq_true_iff.1 hn).2
  have hblock : Fits color n p.beginBlock := h.congr (setting_beginBlock p)
  cases tag with
  | paragraph =>
    have hline : Fits color n (p.beginBlock.pushLine []) := hblock.congr rfl
    exact hline.cons hcode _ rfl rfl (List.append_nil _).symm rfl rfl fun _ => rfl
  | heading level =>
    have hline : Fits color n (p.beginBlock.pushLine
        [⟨List.replicate level '#' ++ [' '], headingStyle p.color level⟩]) := hblock.congr rfl
    refine hline.cons hcode _ rfl ?_ (List.append_nil _).symm rfl rfl fun _ => rfl
    rw [← h.color_eq]
    rfl
  | quote =>
    refine hblock.cons hcode _ rfl ?_ rfl rfl rfl fun _ => rfl
    rw [← hblock.color_eq]
    rfl
  | code info? => exact hblock.cons hcode _ rfl rfl (List.append_nil _).symm rfl rfl fun _ => rfl
  | list start? =>
    have hlist : Fits color n (if p.counters.isEmpty then p.beginBlock else p) := by
      split
      · exact hblock
      · exact h
    refine hlist.cons hcode _ rfl rfl (List.append_nil _).symm ?_ rfl fun _ => rfl
    cases start? <;> rfl
  | item =>
    have hlist : n.inList = true := by
      simpa [Nest.admits, Event.isItem] using (Bool.and_eq_true_iff.1 hn).1
    have hcount : (n.addItems 1).inCode = false := by
      cases n with
      | nil => rfl
      | cons o outer => exact hcode
    exact (h.beginItem hlist).cons hcount _ rfl rfl (List.append_nil _).symm rfl rfl fun _ => rfl
  | accent kind => exact h.cons hcode _ rfl rfl (List.append_nil _).symm rfl rfl fun _ => rfl
  | link url => exact h.cons hcode _ rfl rfl (List.append_nil _).symm rfl rfl nofun
  | html | image => exact h.cons hcode _ rfl rfl (List.append_nil _).symm rfl rfl fun _ => rfl

theorem setting_setCode (p : Page) : p.setCode.setting = { p.setting with code? := none } := by
  rw [setCode]
  split
  · exact setting_foldl_pushLine _ _
  · rename_i hcode
    simp only [setting, hcode]

theorem setting_setUrl (p : Page) : p.setUrl.setting = { p.setting with url? := none } := by
  rw [setUrl]
  split
  · simp only [setting_pushSpan]
    rfl
  · rename_i hurl
    simp only [setting, hurl]

theorem Fits.closeTag {o : OpenTag} (h : Fits color (o :: outer) p) :
    Fits color outer (p.closeTag o.tag) := by
  obtain ⟨tag, items⟩ := o
  cases tag with
  | paragraph | heading | quote | list | accent | item | html | image =>
    exact h.tail rfl rfl rfl rfl rfl rfl
  | code info? =>
    have hclosed : Fits color outer { p with code? := none } := h.tail rfl rfl rfl rfl rfl rfl
    exact hclosed.congr (setting_setCode p)
  | link url =>
    have hclosed : Fits color outer { p.popStyle with url? := none } :=
      h.tail rfl rfl rfl rfl rfl rfl
    exact hclosed.congr (setting_setUrl p.popStyle)

/-- Text and all else that opens nothing and closes nothing leaves the stacks as they are. -/
theorem Fits.addText (h : Fits color n p) (t : Text) : Fits color n (p.addText t) := by
  rw [Page.addText]
  cases hcode : p.code? with
  | none => exact h.congr (setting_pushSpan _ _ _)
  | some code =>
    exact ⟨h.color_eq, h.styles_eq, h.margin_eq, h.counters_eq,
      (congrArg Option.isSome hcode).symm.trans h.isSome_code?, h.url?_eq_none, h.code_innermost⟩

/-- While events are well nested, a page that fits the open tags goes on to do so. -/
theorem Fits.handle (h : Fits color n p) {e : Event} {n' : Nest} (hn : n.next? e = some n') :
    Fits color n' (p.handle e) := by
  cases e with
  | opened tag =>
    obtain ⟨hadmits, hn⟩ := Option.ite_none_right_eq_some.1 hn
    cases hn
    exact h.openTag hadmits
  | closed tag =>
    cases n with
    | nil => cases hn
    | cons o outer =>
      obtain ⟨rfl, houter⟩ := Option.ite_none_right_eq_some.1 hn
      cases houter
      exact h.closeTag
  | text t =>
    cases (Option.ite_none_right_eq_some.1 hn).2
    exact h.addText t
  | code | html | softBreak | task =>
    cases (Option.ite_none_right_eq_some.1 hn).2
    exact h.congr (setting_pushSpan _ _ _)
  | hardBreak =>
    cases (Option.ite_none_right_eq_some.1 hn).2
    exact h.congr rfl
  | rule =>
    cases (Option.ite_none_right_eq_some.1 hn).2
    exact h.congr (setting_beginBlock p)

theorem Fits.handleAll (h : Fits color n p) {events : List Event} {n' : Nest}
    (hn : n.after? events = some n') : Fits color n' (p.handleAll events) := by
  induction events generalizing n p with
  | nil =>
    cases hn
    exact h
  | cons e events ih =>
    obtain ⟨next, hnext, hafter⟩ := Option.bind_eq_some_iff.1 hn
    exact ih (h.handle hnext) hafter

/-- The page fits the tags that are open after events that begin with none. -/
theorem fits_handleAll {events : List Event} (hn : Nest.after? [] events = some n) (color : Color) :
    Fits color n ((blank color).handleAll events) :=
  (fits_blank color).handleAll hn

end Page

end CircuitHub.Markdown

import CircuitHub.Proofs.Markdown.Nesting

/-!
# What documents are read as

The events of every document are well nested (`wellNested_events`). In the tree of a document, what
an event opens is closed again, so all that there is to see to is that items stand in lists
(`Block.Sound`). The blocks that are open while a document is read stand within each other in this
way too, and every line that is read leaves them so (`Draft.Sound.read`).
-/

namespace CircuitHub.Markdown

variable {n : Nest} {e : Event} {events more : List Event}

/-! ## Events of a tree -/

namespace Nest

/-- The events may come where some tags are open, and close all that they open. -/
def Holds (n : Nest) (events : List Event) : Prop :=
  ∃ items, n.after? events = some (n.addItems items)

@[simp] theorem inCode_addItems (n : Nest) (items : Nat) : (n.addItems items).inCode = n.inCode := by
  cases n <;> rfl

@[simp] theorem inList_addItems (n : Nest) (items : Nat) : (n.addItems items).inList = n.inList := by
  cases n <;> rfl

theorem addItems_zero (n : Nest) : n.addItems 0 = n := by
  cases n <;> rfl

theorem addItems_addItems (n : Nest) (items more : Nat) :
    (n.addItems items).addItems more = n.addItems (items + more) := by
  cases n with
  | nil => rfl
  | cons o outer => simp only [addItems, Nat.add_assoc]

theorem admits_of_inCode (hn : n.inCode = false) (he : e.isItem = true → n.inList = true) :
    n.admits e = true := by
  rw [admits, hn]
  cases hitem : e.isItem with
  | false => simp
  | true => simp [he hitem]

theorem holds_nil (n : Nest) : n.Holds [] := ⟨0, congrArg some n.addItems_zero.symm⟩

theorem Holds.append (h : n.Holds events) (hmore : ∀ items, (n.addItems items).Holds more) :
    n.Holds (events ++ more) := by
  obtain ⟨items, hitems⟩ := h
  obtain ⟨items', hitems'⟩ := hmore items
  refine ⟨items + items', ?_⟩
  rw [after?_append, hitems, Option.bind_some, hitems', addItems_addItems]

theorem holds_singleton (h : n.next? e = some n) : n.Holds [e] :=
  ⟨0, by rw [addItems_zero, after?, List.foldlM_cons, h]; rfl⟩

theorem enter_eq (n : Nest) (tag : Tag) : ∃ items, n.enter tag = ⟨tag, 0⟩ :: n.addItems items := by
  rw [enter]
  split
  · exact ⟨1, rfl⟩
  · exact ⟨0, by rw [addItems_zero]⟩

theorem Holds.around {tag : Tag} (h : (n.enter tag).Holds events)
    (hn : n.admits (.opened tag) = true) : n.Holds (tag.around events) := by
  obtain ⟨inner, hinner⟩ := h
  obtain ⟨items, henter⟩ := n.enter_eq tag
  refine ⟨items, ?_⟩
  have hopened : n.next? (.opened tag) = some (n.enter tag) := if_pos hn
  have hclosed : next? (⟨tag, inner⟩ :: n.addItems items) (.closed tag) = some (n.addItems items) :=
    if_pos rfl
  rw [Tag.around, List.cons_append, after?, List.foldlM_cons, hopened]
  change (n.enter tag).after? (events ++ [.closed tag]) = _
  rw [after?_append, hinner, henter, addItems, Nat.zero_add]
  change after? _ [.closed tag] = _
  rw [after?, List.foldlM_cons, hclosed]
  rfl

end Nest

mutual

theorem Inline.holds_events : ∀ (i : Inline) {n : Nest}, n.inCode = false → n.Holds i.events
  | .text _, _, hn | .code _, _, hn | .html _, _, hn | .softBreak, _, hn | .hardBreak, _, hn =>
    Nest.holds_singleton (if_pos (Nest.admits_of_inCode hn (by nofun)))
  | .accent _ children, _, hn | .link _ children, _, hn | .image children, _, hn =>
    (Inline.holds_eventsOfList children rfl).around (Nest.admits_of_inCode hn (by nofun))

theorem Inline.holds_eventsOfList :
    ∀ (inlines : List Inline) {n : Nest}, n.inCode = false → n.Holds (Inline.eventsOfList inlines)
  | [], n, _ => n.holds_nil
  | i :: inlines, n, hn => (i.holds_events hn).append fun items =>
      Inline.holds_eventsOfList inlines ((n.inCode_addItems items).trans hn)

end

theorem Nest.holds_html (hn : n.inCode = false) (lines : List Text) : n.Holds (lines.map .html) := by
  induction lines generalizing n with
  | nil => exact n.holds_nil
  | cons line lines ih =>
    have hline : n.Holds [.html line] := holds_singleton (if_pos (admits_of_inCode hn (by nofun)))
    exact hline.append fun items => ih ((n.inCode_addItems items).trans hn)

theorem Leaf.holds_events (read : Text → List Inline) (loose : Bool) (hn : n.inCode = false)
    (l : Leaf) : n.Holds (l.events read loose) := by
  cases l with
  | paragraph content =>
    rw [events]
    split
    · exact (Inline.holds_eventsOfList (read content) rfl).around (Nest.admits_of_inCode hn nofun)
    · exact Inline.holds_eventsOfList (read content) hn
  | heading level content =>
    exact (Inline.holds_eventsOfList (read content) rfl).around (Nest.admits_of_inCode hn nofun)
  | rule => exact Nest.holds_singleton (if_pos (Nest.admits_of_inCode hn (by nofun)))
  | code info? body =>
    refine Nest.Holds.around ?_ (Nest.admits_of_inCode hn nofun)
    split
    · exact Nest.holds_nil _
    · exact Nest.holds_singleton rfl
  | html lines => exact (Nest.holds_html rfl lines).around (Nest.admits_of_inCode hn nofun)

namespace Block

def isItem : Block → Bool
  | item _ _ => true
  | _ => false

/-- No items stand in the block or in any block within it, but in lists. -/
inductive Sound : Block → Prop
  | leaf (l : Leaf) : Sound (leaf l)
  | quote {children : List Block} :
      (∀ b ∈ children, Sound b) → (∀ b ∈ children, b.isItem = false) → Sound (quote children)
  | item {task? : Option Bool} {children : List Block} :
      (∀ b ∈ children, Sound b) → (∀ b ∈ children, b.isItem = false) → Sound (item task? children)
  | list {loose : Bool} {start? : Option Nat} {items : List Block} :
      (∀ b ∈ items, Sound b) → Sound (list loose start? items)

theorem holds_eventsOfList {read : Text → List Inline} {loose : Bool} {blocks : List Block}
    (h : ∀ b ∈ blocks, ∀ {n : Nest}, n.inCode = false → (b.isItem = true → n.inList = true) →
      n.Holds (b.events read loose))
    (hn : n.inCode = false) (hitem : ∀ b ∈ blocks, b.isItem = true → n.inList = true) :
    n.Holds (eventsOfList read loose blocks) := by
  induction blocks generalizing n with
  | nil => exact n.holds_nil
  | cons b blocks ih =>
    rw [List.forall_mem_cons] at h hitem
    refine (h.1 hn hitem.1).append fun items => ih h.2 ((n.inCode_addItems items).trans hn) ?_
    rw [Nest.inList_addItems]
    exact hitem.2

theorem Sound.holds_events {b : Block} (h : b.Sound) (read : Text → List Inline) (loose : Bool)
    (hn : n.inCode = false) (hitem : b.isItem = true → n.inList = true) :
    n.Holds (b.events read loose) := by
  induction h generalizing n loose with
  | leaf l => exact l.holds_events read loose hn
  | quote _ hchildren ih =>
    refine Nest.Holds.around ?_ (Nest.admits_of_inCode hn nofun)
    exact holds_eventsOfList (fun b hb _ => ih b hb true) rfl fun b hb h =>
      absurd h (by simp [hchildren b hb])
  | @item task? children _ hchildren ih =>
    refine Nest.Holds.around ?_ (Nest.admits_of_inCode hn fun _ => hitem rfl)
    have hinner (items : Nat) : (((n.enter .item).addItems items).Holds
        (eventsOfList read loose children)) :=
      holds_eventsOfList (fun b hb _ => ih b hb loose) rfl fun b hb h =>
        absurd h (by simp [hchildren b hb])
    refine Nest.Holds.append ?_ hinner
    cases task? with
    | none => exact Nest.holds_nil _
    | some done => exact Nest.holds_singleton rfl
  | @list _ start? items _ ih =>
    refine Nest.Holds.around ?_ (Nest.admits_of_inCode hn nofun)
    exact holds_eventsOfList (fun b hb _ => ih b hb _) rfl fun _ _ _ => rfl

/-- If items stand nowhere but in lists, the events are well nested. -/
theorem wellNested_eventsOfList {blocks : List Block} (h : ∀ b ∈ blocks, b.Sound)
    (hitem : ∀ b ∈ blocks, b.isItem = false) (read : Text → List Inline) (loose : Bool) :
    WellNested (eventsOfList read loose blocks) := by
  have hholds : Nest.Holds [] (eventsOfList read loose blocks) :=
    holds_eventsOfList (fun b hb _ => (h b hb).holds_events read loose) rfl fun b hb h =>
      absurd h (by simp [hitem b hb])
  exact hholds.elim fun _ h => h

end Block

/-! ## Drafts -/

/-- The block may stand in a list, or where there is none. -/
def Block.MayStand (inList : Bool) (b : Block) : Prop :=
  b.Sound ∧ (b.isItem = true → inList = true)

def Container.isList : Container → Bool
  | list _ _ _ => true
  | _ => false

def Container.isItem : Container → Bool
  | item _ _ _ => true
  | _ => false

namespace Level

/-- A list is the innermost of some open blocks. -/
def inList (levels : List Level) : Bool := levels.head?.any (·.container.isList)

/-- Open blocks, the innermost first, may stand within each other, and the blocks that are done may
    stand in them. -/
def Stand : List Level → Prop
  | [] => True
  | l :: levels => (l.container.isItem = true → inList levels = true) ∧
      (∀ b ∈ l.children, b.MayStand l.container.isList) ∧ Stand levels

theorem Stand.mayStand_block {l : Level} {levels : List Level} (h : Stand (l :: levels)) :
    l.block.MayStand (inList levels) := by
  obtain ⟨container, children⟩ := l
  obtain ⟨hitem, hchildren, -⟩ := h
  have hsound : ∀ b ∈ children.reverse, b.Sound := fun b hb =>
    (hchildren b (List.mem_reverse.1 hb)).1
  have hnot (hlist : container.isList = false) : ∀ b ∈ children.reverse, b.isItem = false := by
    intro b hb
    refine Bool.eq_false_iff.2 fun h => ?_
    have hin := (hchildren b (List.mem_reverse.1 hb)).2 h
    rw [hlist] at hin
    cases hin
  cases container with
  | quote => exact ⟨.quote hsound (hnot rfl), nofun⟩
  | list => exact ⟨.list hsound, nofun⟩
  | item => exact ⟨.item hsound (hnot rfl), fun _ => hitem rfl⟩

end Level

namespace Draft

/-- The blocks of the draft may stand where they do. -/
structure Sound (d : Draft) : Prop where
  levels : Level.Stand d.levels
  base : ∀ b ∈ d.base, b.MayStand false

variable {d : Draft}

theorem sound_start : start.Sound := ⟨trivial, nofun⟩

namespace Sound

theorem push (h : d.Sound) {b : Block} (hb : b.MayStand (Level.inList d.levels)) :
    (d.push b).Sound := by
  obtain ⟨levels, base, leaf?, afterBlank, definitions⟩ := d
  cases levels with
  | nil => exact ⟨trivial, List.forall_mem_cons.2 ⟨hb, h.base⟩⟩
  | cons l levels =>
    obtain ⟨hitem, hchildren, hlevels⟩ := h.levels
    exact ⟨⟨hitem, List.forall_mem_cons.2 ⟨hb, hchildren⟩, hlevels⟩, h.base⟩

theorem pushLeaf (h : d.Sound) (l : Leaf) : (d.pushLeaf l).Sound := h.push ⟨.leaf l, nofun⟩

theorem closeLeaf (h : d.Sound) : d.closeLeaf.Sound := by
  have hnone : Sound { d with leaf? := none } := ⟨h.levels, h.base⟩
  rw [Draft.closeLeaf]
  split
  · exact h
  · dsimp only
    split
    · have hdefined (definitions : List Definition) :
          Sound { d with leaf? := none, definitions } := ⟨h.levels, h.base⟩
      split
      · exact hdefined _
      · exact (hdefined _).pushLeaf _
    all_goals exact hnone.pushLeaf _

theorem closeLeafIf (h : d.Sound) (closed : Bool) :
    (if closed then d.closeLeaf else d).Sound := by
  split
  · exact h.closeLeaf
  · exact h

theorem closeLevel (h : d.Sound) : d.closeLevel.Sound := by
  obtain ⟨levels, base, leaf?, afterBlank, definitions⟩ := d
  cases levels with
  | nil => exact h
  | cons l levels =>
    have houter : Sound ⟨levels, base, leaf?, afterBlank, definitions⟩ := ⟨h.levels.2.2, h.base⟩
    exact houter.push h.levels.mayStand_block

theorem closeTo (h : d.Sound) (n : Nat) : (d.closeTo n).Sound := by
  rw [Draft.closeTo]
  generalize d.levels.length - n = levels
  replace h := h.closeLeaf
  generalize d.closeLeaf = d' at h
  induction levels generalizing d' with
  | zero => exact h
  | succ levels ih => exact ih _ h.closeLevel

theorem loosen (h : d.Sound) : d.loosen.Sound := by
  rw [Draft.loosen]
  split
  · rename_i hlevels
    have hstand := hlevels ▸ h.levels
    exact ⟨⟨fun _ => rfl, hstand.2.1, hstand.2.2⟩, h.base⟩
  · exact h

theorem beginBlock (h : d.Sound) : d.beginBlock.Sound := by
  have hafter {d : Draft} (h : d.Sound) :
      (if d.afterBlank then { d.loosen with afterBlank := false } else d).Sound := by
    split
    · exact ⟨h.loosen.levels, h.loosen.base⟩
    · exact h
  rw [Draft.beginBlock]
  split
  · rename_i hlevels
    have hstand := hlevels ▸ h.levels
    exact hafter ⟨hstand, h.base⟩
  · exact hafter h.closeLevel
  · exact hafter h

theorem pushLevel (h : d.Sound) {c : Container}
    (hc : c.isItem = true → Level.inList d.levels = true) : (d.pushLevel c).Sound :=
  ⟨⟨hc, nofun, h.levels⟩, h.base⟩

theorem pushItem (h : d.Sound) (b : Bullet) (indent : Nat) : (d.pushItem b indent).Sound := by
  have hlist : ((d.beginBlock.pushLevel (.list b.mark b.start? false)).pushLevel
      (.item indent none true)).Sound :=
    (h.beginBlock.pushLevel (by nofun)).pushLevel fun _ => rfl
  rw [Draft.pushItem]
  split
  · rename_i hlevels
    split
    · have hstand := hlevels ▸ h.levels
      exact ⟨⟨fun _ => rfl, nofun, hstand⟩, h.base⟩
    · exact hlist
  · exact hlist

theorem setTask (h : d.Sound) (done : Bool) : (d.setTask done).Sound := by
  rw [Draft.setTask]
  split
  · rename_i hlevels
    have hstand := hlevels ▸ h.levels
    exact ⟨hstand, h.base⟩
  · exact h

theorem blank (h : d.Sound) : d.blank.Sound := by
  rw [Draft.blank]
  split
  · exact h
  · exact ⟨h.closeLevel.levels, h.closeLevel.base⟩
  · exact ⟨h.levels, h.base⟩

theorem setLeaf (h : d.Sound) (leaf? : Option OpenLeaf) : Sound { d with leaf? } :=
  ⟨h.levels, h.base⟩

theorem beginLeaf (h : d.Sound) (l : Indent) (broken : Bool) : (d.beginLeaf l broken).Sound := by
  rw [Draft.beginLeaf]
  split
  · exact h.blank
  replace h := h.beginBlock
  dsimp only
  split
  · exact h.setLeaf _
  split
  · exact (h.setLeaf _).closeLeafIf _
  · split
    · exact h.pushLeaf _
    split
    · exact h.pushLeaf _
    split
    · exact h.setLeaf _
    · exact h.setLeaf _

/-- A line may begin items and quotes, one within the other, before what it begins in them. -/
theorem begin (h : d.Sound) (l : Indent) (broken : Bool) : (d.begin l broken).Sound := by
  fun_induction Draft.begin d l broken
  case case1 | case7 => exact h.beginLeaf _ _
  case case2 => exact h.pushItem _ _
  case case3 => exact (h.pushItem _ _).setTask _
  case case4 =>
    rename_i ih
    exact ih ((h.pushItem _ _).setTask _)
  case case5 =>
    rename_i ih
    exact ih (h.pushItem _ _)
  case case6 =>
    rename_i ih
    exact ih (h.beginBlock.pushLevel (by nofun))

/-- Whatever a line says, blocks stand where they may after it if they do before it. -/
theorem read (h : d.Sound) (line : SourceLine) (next? : Option Text) :
    (d.read line next?).Sound := by
  rw [Draft.read]
  generalize matchLevels (.ofLine line.text) d.levels.reverse = rest
  obtain ⟨kept, l⟩ := rest
  have hanew := (h.closeTo kept).begin l line.broken
  dsimp only
  split
  · exact hanew
  · -- code between fences
    split
    · exact hanew
    split
    · exact h.closeLeaf
    · exact h.setLeaf _
  · -- indented code
    split
    · exact ⟨h.levels, h.base⟩
    · exact hanew
  · -- another language
    split
    · exact hanew
    · exact (h.setLeaf _).closeLeafIf _
  · -- prose, which a line below it may make a heading
    split
    · exact hanew
    split
    · split
      · refine Sound.pushLeaf ?_ _
        exact ⟨h.levels, h.base⟩
      · split
        · exact hanew
        · exact h.setLeaf _
    · exact h.setLeaf _

theorem readAll (h : d.Sound) (lines : List SourceLine) : (d.readAll lines).Sound := by
  induction lines generalizing d with
  | nil => exact h
  | cons line lines ih => exact ih (h.read line _)

end Sound

end Draft

/-- Whatever a document says, its events are well nested. -/
theorem wellNested_events (t : Text) : WellNested (Markdown.events t) := by
  have hbase := ((Draft.sound_start.readAll (sourceLines t)).closeTo 0).base
  refine Block.wellNested_eventsOfList (fun b hb => ?_) (fun b hb => ?_) _ _
  · exact (hbase b (List.mem_reverse.1 hb)).1
  · exact Bool.eq_false_iff.2 fun h => nomatch (hbase b (List.mem_reverse.1 hb)).2 h

end CircuitHub.Markdown

import CircuitHub.Field.Draw
import CircuitHub.Proofs.Field.Rows
import Mathlib.Data.List.DropRight

/-!
# The two halves of a field

A field is a text and a number of bytes, but one thinks of it as two texts: what stands before the
cursor and what stands after it (`Halves`). Editing is simple in these terms. A character is deleted
at the end of the one or at the beginning of the other, and a cursor that moves takes characters
from one half to the other.

* `Field.Holds`: the field is the two halves;
* `Field.Edit`: what an event may make of two halves;
* `Field.Reachable.holds`: whatever has been done to a field, it is always two halves;
* `Field.handle_edits`: an event makes of the field what it makes of its halves, and comes to nothing
  exactly if it changes nothing.
-/

namespace CircuitHub

/-- A text with a cursor in it. -/
structure Halves where
  /-- What stands before the cursor. -/
  before : Text
  /-- What stands after the cursor. -/
  after : Text
  deriving DecidableEq

namespace Halves

/-- The whole text. -/
def text (s : Halves) : Text := s.before ++ s.after

/-- The halves with a text put in before the cursor. -/
def insert (s : Halves) (t : Text) : Halves := ⟨s.before ++ t, s.after⟩

/-- The halves without the last character before the cursor. -/
def deleteBefore (s : Halves) : Halves := ⟨s.before.dropLast, s.after⟩

/-- The halves without the first character after the cursor. -/
def deleteAfter (s : Halves) : Halves := ⟨s.before, s.after.tail⟩

/-- The cursor one character to the left. -/
def left (s : Halves) : Halves := ⟨s.before.dropLast, s.before.getLast?.toList ++ s.after⟩

/-- The cursor one character to the right. -/
def right (s : Halves) : Halves := ⟨s.before ++ s.after.head?.toList, s.after.tail⟩

/-- The cursor after the last line break before it. -/
def lineStart (s : Halves) : Halves :=
  ⟨s.before.rdropWhile (· != '\n'), s.before.rtakeWhile (· != '\n') ++ s.after⟩

/-- The cursor before the next line break. -/
def lineEnd (s : Halves) : Halves :=
  ⟨s.before ++ s.after.takeWhile (· != '\n'), s.after.dropWhile (· != '\n')⟩

@[simp] theorem text_left (s : Halves) : s.left.text = s.text := by
  rcases List.eq_nil_or_concat s.before with h | ⟨init, c, h⟩ <;> simp [left, text, h]

@[simp] theorem text_right (s : Halves) : s.right.text = s.text := by
  cases h : s.after <;> simp [right, text, h]

@[simp] theorem text_lineStart (s : Halves) : s.lineStart.text = s.text := by
  rw [text, lineStart, ← List.append_assoc, List.rdropWhile_append_rtakeWhile, text]

@[simp] theorem text_lineEnd (s : Halves) : s.lineEnd.text = s.text := by
  rw [text, lineEnd, List.append_assoc, List.takeWhile_append_dropWhile, text]

end Halves

/-! ## Line breaks -/

/-- The text in which a carriage return and a line feed after it are a line feed alone. -/
def Text.joinBreaks : Text → Text
  | [] => []
  | '\r' :: '\n' :: t => '\n' :: joinBreaks t
  | c :: t => c :: joinBreaks t

/-- The text with a space for each character that breaks a line. -/
def Text.spaceBreaks (t : Text) : Text := t.map fun c => if c = '\n' ∨ c = '\r' then ' ' else c

theorem Text.joinBreaks_eq_nil {t : Text} : t.joinBreaks = [] ↔ t = [] := by
  fun_cases Text.joinBreaks t <;> simp

theorem replaceAll_eq_joinBreaks (t : Text) : t.replaceAll ['\r', '\n'] ['\n'] = t.joinBreaks := by
  fun_induction Text.joinBreaks t with
  | case1 => rw [Text.replaceAll]
  | case2 t ih =>
    rw [Text.replaceAll]
    simpa using ih
  | case3 c t h ih =>
    have hmark : ¬['\r', '\n'] <+: c :: t := by
      rintro ⟨r, hr⟩
      cases hr
      exact h r rfl rfl
    rw [Text.replaceAll, if_neg (mt List.isPrefixOf_iff_prefix.1 hmark), ih]

/-! ## Cursors beside a cursor -/

theorem cursorBefore_append (before after : Text) :
    Text.cursorBefore (before ++ after) before.byteSize = Text.byteSize before.dropLast := by
  rw [Text.cursorBefore, Text.takeBytes_append_left]
  rcases List.eq_nil_or_concat before with rfl | ⟨init, c, rfl⟩
  · rfl
  · simp

theorem cursorAfter_append (before after : Text) :
    Text.cursorAfter (before ++ after) before.byteSize =
      Text.byteSize (before ++ after.head?.toList) := by
  rw [Text.cursorAfter, Text.dropBytes_append_left]
  cases after with
  | nil => simp
  | cons c after => simp

namespace Field

/-- A text as it is typed into a field: a field of one row has no line breaks. -/
def typed (f : Field) (t : Text) : Text :=
  if f.isSingleLine then t.spaceBreaks else t.joinBreaks

theorem normalize_eq_typed (f : Field) (t : Text) : f.normalize t = f.typed t := by
  rw [normalize, typed, replaceAll_eq_joinBreaks, Text.spaceBreaks]
  simp

theorem typed_eq_nil {f : Field} {t : Text} : f.typed t = [] ↔ t = [] := by
  rw [typed]
  split
  · exact List.map_eq_nil_iff
  · exact Text.joinBreaks_eq_nil

/-! ## Halves -/

/-- The field is these two halves. -/
structure Holds (f : Field) (s : Halves) : Prop where
  text_eq : f.text = s.text
  cursor_eq : f.cursor = s.before.byteSize

variable {f : Field} {s s' : Halves}

theorem Holds.takeBytes_eq (h : f.Holds s) : f.text.takeBytes f.cursor = s.before := by
  rw [h.text_eq, h.cursor_eq, Halves.text, Text.takeBytes_append_left]

theorem Holds.dropBytes_eq (h : f.Holds s) : f.text.dropBytes f.cursor = s.after := by
  rw [h.text_eq, h.cursor_eq, Halves.text, Text.dropBytes_append_left]

/-- A field has but one cursor. -/
theorem Holds.unique (h : f.Holds s) (h' : f.Holds s') : s = s' := by
  obtain ⟨hb, ha⟩ := Text.append_inj_of_byteSize (h.text_eq.symm.trans h'.text_eq)
    (h.cursor_eq.symm.trans h'.cursor_eq)
  cases s
  cases s'
  cases hb
  cases ha
  rfl

/-- The field is of other halves, or of the same and then nothing is said to have happened. -/
structure Becomes (s s' : Halves) (result : Field × Option FieldChange) : Prop where
  holds : result.1.Holds s'
  change_eq : result.2 = if s' = s then none else some .edited

theorem Holds.stay (h : f.Holds s) : Becomes s s (f, none) := ⟨h, by rw [if_pos rfl]⟩

/-- What is put in is what is typed. -/
theorem Holds.insert (h : f.Holds s) (t : Text) : Becomes s (s.insert (f.typed t)) (f.insert t) := by
  rw [Field.insert]
  split
  · rename_i ht
    rw [typed_eq_nil.2 (List.isEmpty_iff.1 ht), Halves.insert, List.append_nil]
    exact h.stay
  · rename_i ht
    -- No text that is not empty is typed as nothing, so that the first half grows.
    have hne : s.insert (f.typed t) ≠ s := fun he => by
      have := congrArg Halves.before he
      simp [Halves.insert, typed_eq_nil] at this
      simp [this] at ht
    refine ⟨⟨?_, ?_⟩, by rw [if_neg hne]⟩
    · simp only [h.takeBytes_eq, h.dropBytes_eq, normalize_eq_typed]
      rfl
    · simp only [h.cursor_eq, normalize_eq_typed, Halves.insert, Text.byteSize_append]

/-- A cursor that goes elsewhere parts the same text. -/
theorem Holds.moveTo (h : f.Holds s) (ht : s'.text = s.text) {cursor : Nat}
    (hc : cursor = s'.before.byteSize) : Becomes s s' (f.moveTo cursor) := by
  have hmoved : ({ f with cursor := cursor } : Field).Holds s' := ⟨h.text_eq.trans ht.symm, hc⟩
  rw [Field.moveTo]
  split
  · rename_i hsame
    have hf : f.Holds s' := ⟨h.text_eq.trans ht.symm, hsame.symm.trans hc⟩
    rw [hf.unique h]
    exact h.stay
  · rename_i hother
    refine ⟨hmoved, ?_⟩
    rw [if_neg fun he => hother (by rw [hc, he, h.cursor_eq])]

/-- Wherever the cursor goes, it parts the same text if it stands between two characters. -/
theorem Holds.exists_moveTo (h : f.Holds s) {cursor : Nat} (hc : f.text.HasCursor cursor) :
    ∃ s', s'.text = s.text ∧ Becomes s s' (f.moveTo cursor) := by
  obtain ⟨before, after, ht, hsize⟩ := hc
  have ht' : (⟨before, after⟩ : Halves).text = s.text := ht.symm.trans h.text_eq
  exact ⟨⟨before, after⟩, ht', h.moveTo ht' hsize⟩

/-- A field of one row has none to go up or down to. In others the cursor parts the same text. -/
theorem Holds.exists_moveVertically (h : f.Holds s) (down : Bool) :
    ∃ s', (s'.text = s.text ∧ (f.isSingleLine = true → s' = s)) ∧
      Becomes s s' (if f.isSingleLine then (f, none) else f.moveVertically down) := by
  have hstay : ∃ s', s'.text = s.text ∧ Becomes s s' (f, none) := ⟨s, rfl, h.stay⟩
  split
  · exact ⟨s, ⟨rfl, fun _ => rfl⟩, h.stay⟩
  · rename_i hs
    suffices ∃ s', s'.text = s.text ∧ Becomes s s' (f.moveVertically down) by
      obtain ⟨s', ht, hb⟩ := this
      exact ⟨s', ⟨ht, fun hs' => absurd hs' hs⟩, hb⟩
    rw [Field.moveVertically]
    simp only
    split
    · split
      · exact h.exists_moveTo (Row.hasCursor_offsetAt _ _ _)
      · exact hstay
    · split
      · exact h.exists_moveTo (Row.hasCursor_offsetAt _ _ _)
      · exact hstay

/-- What is deleted is what stands between two cursors. -/
theorem holds_deleteBetween (before deleted after : Text)
    (ht : f.text = before ++ deleted ++ after) :
    (f.deleteBetween before.byteSize (before ++ deleted).byteSize).1.Holds ⟨before, after⟩ := by
  refine ⟨?_, rfl⟩
  have hbefore : f.text.takeBytes before.byteSize = before := by
    rw [ht, List.append_assoc, Text.takeBytes_append_left]
  have hafter : f.text.dropBytes (before ++ deleted).byteSize = after := by
    rw [ht, Text.dropBytes_append_left]
  simp only [deleteBetween, hbefore, hafter]
  rfl

theorem Holds.deleteBefore (h : f.Holds s) : Becomes s s.deleteBefore (f.handle .backspace) := by
  obtain ⟨before, after⟩ := s
  rcases List.eq_nil_or_concat before with rfl | ⟨init, c, rfl⟩
  · have hnothing : f.handle .backspace = (f, none) := if_pos h.cursor_eq
    rw [hnothing]
    exact h.stay
  · rw [List.concat_eq_append] at h ⊢
    have hpos : f.cursor ≠ 0 := by
      have hc := c.utf8Size_pos
      rw [h.cursor_eq, Text.byteSize_append, Text.byteSize_cons]
      omega
    -- The character that goes stands between this cursor and that of the field.
    have hprev : f.text.cursorBefore f.cursor = Text.byteSize init := by
      rw [h.text_eq, h.cursor_eq, Halves.text, cursorBefore_append, List.dropLast_concat]
    have hcut : f.handle .backspace =
        f.deleteBetween (f.text.cursorBefore f.cursor) f.cursor := if_neg hpos
    have hdeleted := holds_deleteBetween init [c] after h.text_eq
    rw [← hprev, ← h.cursor_eq, ← hcut] at hdeleted
    refine ⟨?_, ?_⟩
    · rwa [Halves.deleteBefore, List.dropLast_concat]
    · rw [hcut, if_neg fun he => by simpa [Halves.deleteBefore] using congrArg (·.before.length) he]
      rfl

theorem Holds.deleteAfter (h : f.Holds s) : Becomes s s.deleteAfter (f.handle .delete) := by
  obtain ⟨before, after⟩ := s
  have hsize : f.text.byteSize = f.cursor + after.byteSize := by
    rw [h.text_eq, h.cursor_eq, Halves.text, Text.byteSize_append]
  cases after with
  | nil =>
    have hnothing : f.handle .delete = (f, none) := if_pos (Nat.le_of_eq hsize)
    rw [hnothing]
    exact h.stay
  | cons c after =>
    have hbelow : ¬f.text.byteSize ≤ f.cursor := by
      have hc := c.utf8Size_pos
      rw [hsize, Text.byteSize_cons]
      omega
    have hnext : f.text.cursorAfter f.cursor = Text.byteSize (before ++ [c]) := by
      rw [h.text_eq, h.cursor_eq, Halves.text, cursorAfter_append]
      rfl
    have hcut : f.handle .delete =
        f.deleteBetween f.cursor (f.text.cursorAfter f.cursor) := if_neg hbelow
    have hdeleted := holds_deleteBetween before [c] after (by
      rw [h.text_eq, Halves.text, List.append_assoc, List.singleton_append])
    rw [← hnext, ← h.cursor_eq, ← hcut] at hdeleted
    refine ⟨hdeleted, ?_⟩
    rw [hcut, if_neg fun he => by simpa [Halves.deleteAfter] using congrArg (·.after.length) he]
    rfl

theorem Holds.lineStart_eq (h : f.Holds s) : f.lineStart = s.lineStart.before.byteSize := by
  have hsize := congrArg Text.byteSize
    (List.rdropWhile_append_rtakeWhile (p := (· != '\n')) (l := s.before))
  rw [Text.byteSize_append, List.rtakeWhile, Text.byteSize_reverse] at hsize
  -- The field counts back from its cursor the bytes that stand after the last line break.
  rw [Field.lineStart, h.takeBytes_eq, h.cursor_eq, Halves.lineStart]
  exact Nat.sub_eq_of_eq_add hsize.symm

theorem Holds.lineEnd_eq (h : f.Holds s) : f.lineEnd = s.lineEnd.before.byteSize := by
  rw [Field.lineEnd, h.dropBytes_eq, h.cursor_eq, Halves.lineEnd, Text.byteSize_append]
  rfl

/-! ## Events -/

/-- What an event may make of two halves in this field, as it is set up. -/
def Edit (f : Field) (s s' : Halves) : Event → Prop
  | .type c => s' = s.insert (f.typed [c])
  | .paste t => s' = s.insert (f.typed t)
  | .newLine => s' = if f.isSingleLine then s else s.insert ['\n']
  | .submit =>
    if f.enterBreaks then s' = s.insert (f.typed ['\n'])
    else s' = if f.disabled || s.text.isBlank then s else ⟨[], []⟩
  | .backspace => s' = s.deleteBefore
  | .delete => s' = s.deleteAfter
  | .cursorLeft => s' = s.left
  | .cursorRight => s' = s.right
  | .cursorHome => s' = s.lineStart
  | .cursorEnd => s' = s.lineEnd
  | .scrollUp | .scrollDown => s'.text = s.text ∧ (f.isSingleLine = true → s' = s)
  | _ => s' = s

theorem edit_submit_breaking (he : f.enterBreaks = true) {s' : Halves} :
    f.Edit s s' .submit ↔ s' = s.insert (f.typed ['\n']) :=
  iff_of_eq (if_pos he)

theorem edit_submit_sending (he : f.enterBreaks = false) {s' : Halves} :
    f.Edit s s' .submit ↔ s' = if f.disabled || s.text.isBlank then s else ⟨[], []⟩ :=
  iff_of_eq (if_neg (ne_true_of_eq_false he))

/-- The event sends the text of this field, unless it changes nothing. -/
def Sends (f : Field) (e : Event) : Prop := e = .submit ∧ f.enterBreaks = false

instance (f : Field) (e : Event) : Decidable (f.Sends e) := inferInstanceAs (Decidable (_ ∧ _))

/-- What an event comes to that makes these halves of others. -/
def outcome (f : Field) (s s' : Halves) (e : Event) : Option FieldChange :=
  if s' = s then none else if f.Sends e then some (.submitted s.text) else some .edited

theorem outcome_eq_none {e : Event} : f.outcome s s' e = none ↔ s' = s := by
  rw [outcome]
  split
  · simp_all
  · split <;> simp_all

theorem Becomes.outcome_eq {result : Field × Option FieldChange} (h : Becomes s s' result)
    {e : Event} (he : ¬f.Sends e) : result.2 = f.outcome s s' e := by
  rw [h.change_eq, outcome, if_neg he]

/-- Sending a text empties the field, unless the text is blank or cannot be sent now. -/
theorem Holds.submit (h : f.Holds s) (he : f.enterBreaks = false) :
    ∃ s', f.submit.1.Holds s' ∧ f.Edit s s' .submit ∧ f.submit.2 = f.outcome s s' .submit := by
  have hblank : f.text.isBlank = s.text.isBlank := by rw [h.text_eq]
  rw [Field.submit, hblank]
  simp only [edit_submit_sending he, outcome]
  split
  · rename_i hkept
    exact ⟨s, h, rfl, by rw [if_pos rfl]⟩
  · rename_i hsent
    -- What is sent is not blank, so that the field is not empty before.
    have hne : (⟨[], []⟩ : Halves) ≠ s := by
      rintro rfl
      simp [Halves.text, Text.isBlank] at hsent
    refine ⟨⟨[], []⟩, ⟨rfl, rfl⟩, rfl, ?_⟩
    rw [if_neg hne, if_pos ⟨rfl, he⟩, h.text_eq]

/-- An event makes of a field what it makes of its halves. -/
theorem Holds.handle (h : f.Holds s) (e : Event) :
    ∃ s', (f.handle e).1.Holds s' ∧ f.Edit s s' e ∧ (f.handle e).2 = f.outcome s s' e := by
  have edited : ∀ {s'}, Becomes s s' (f.handle e) → f.Edit s s' e → ¬f.Sends e →
      ∃ s', (f.handle e).1.Holds s' ∧ f.Edit s s' e ∧ (f.handle e).2 = f.outcome s s' e :=
    fun hb hedit he => ⟨_, hb.holds, hedit, hb.outcome_eq he⟩
  have kept : (f.handle e) = (f, none) → f.Edit s s e →
      ∃ s', (f.handle e).1.Holds s' ∧ f.Edit s s' e ∧ (f.handle e).2 = f.outcome s s' e :=
    fun hf hedit => ⟨s, by rw [hf]; exact h, hedit, by rw [hf, outcome, if_pos rfl]⟩
  cases e with
  | type c => exact edited (h.insert [c]) rfl fun he => nomatch he.1
  | paste t => exact edited (h.insert t) rfl fun he => nomatch he.1
  | backspace => exact edited h.deleteBefore rfl fun he => nomatch he.1
  | delete => exact edited h.deleteAfter rfl fun he => nomatch he.1
  | cursorLeft =>
    refine edited (h.moveTo s.text_left ?_) rfl fun he => nomatch he.1
    rw [h.text_eq, h.cursor_eq, Halves.text, cursorBefore_append]
    rfl
  | cursorRight =>
    refine edited (h.moveTo s.text_right ?_) rfl fun he => nomatch he.1
    rw [h.text_eq, h.cursor_eq, Halves.text, cursorAfter_append]
    rfl
  | cursorHome => exact edited (h.moveTo s.text_lineStart h.lineStart_eq) rfl fun he => nomatch he.1
  | cursorEnd => exact edited (h.moveTo s.text_lineEnd h.lineEnd_eq) rfl fun he => nomatch he.1
  | newLine =>
    by_cases hs : f.isSingleLine = true
    · exact kept (if_pos hs) (if_pos hs).symm
    · have hbreak : f.handle .newLine = f.insert ['\n'] := if_neg hs
      have hinsert := h.insert ['\n']
      rw [← hbreak, typed, if_neg hs] at hinsert
      exact edited hinsert (if_neg hs).symm fun he => nomatch he.1
  | submit =>
    by_cases he : f.enterBreaks = true
    · have hbreak : f.handle .submit = f.insert ['\n'] := if_pos he
      have hinsert := h.insert ['\n']
      rw [← hbreak] at hinsert
      exact edited hinsert ((edit_submit_breaking he).mpr rfl) fun hs => by simp [Sends, he] at hs
    · have hsubmit : f.handle .submit = f.submit := if_neg he
      rw [hsubmit]
      exact h.submit (by simpa using he)
  | scrollUp =>
    obtain ⟨s', hedit, hb⟩ := h.exists_moveVertically false
    exact edited hb hedit fun he => nomatch he.1
  | scrollDown =>
    obtain ⟨s', hedit, hb⟩ := h.exists_moveVertically true
    exact edited hb hedit fun he => nomatch he.1
  | _ => exact kept rfl rfl

/-! ## Fields in use -/

/-- What may be done to a field. -/
inductive Step : Field → Field → Prop
  | withMaxRows (f : Field) (n : Nat) : Step f (f.withMaxRows n)
  | enterBreaks (f : Field) : Step f { f with enterBreaks := true }
  | focus (f : Field) (focused disabled : Bool) : Step f { f with focused, disabled }
  | setText (f : Field) (t : Text) : Step f (f.setText t)
  | handle (f : Field) (e : Event) : Step f (f.handle e).1
  | draw (f : Field) (frame : Frame) (area : Area) : Step f (f.draw frame area).1

/-- What can come of an empty field. -/
inductive Reachable : Field → Prop
  | empty (title placeholder : Text) : Reachable (.empty title placeholder)
  | step {f f' : Field} : Reachable f → Step f f' → Reachable f'

/-- Whatever is done to a field that is two halves, it is two halves again. -/
theorem Holds.step {f' : Field} (h : f.Holds s) (hs : Step f f') : ∃ s', f'.Holds s' := by
  cases hs with
  | setText t => exact ⟨⟨t, []⟩, (List.append_nil t).symm, rfl⟩
  | handle e =>
    obtain ⟨s', hs', -⟩ := h.handle e
    exact ⟨s', hs'⟩
  | withMaxRows | enterBreaks | focus | draw => exact ⟨s, h.text_eq, h.cursor_eq⟩

theorem Reachable.holds (h : Reachable f) : ∃ s, f.Holds s := by
  induction h with
  | empty title placeholder => exact ⟨⟨[], []⟩, rfl, rfl⟩
  | step _ hs ih =>
    obtain ⟨s, ih⟩ := ih
    exact ih.step hs

/-- However a field is set up and whatever has been done to it, it is two halves, and an event makes
    of it what it makes of these: what is typed goes in before the cursor, characters go at the
    cursor or over to the other half, and rows up or down part the same text elsewhere. What is sent
    is the whole text, of which nothing stays. The event comes to nothing exactly if both the text
    and the cursor are as before. -/
theorem handle_edits (h : Reachable f) (e : Event) :
    ∃ s s', f.Holds s ∧ (f.handle e).1.Holds s' ∧ f.Edit s s' e ∧
      (f.handle e).2 = f.outcome s s' e ∧
      ((f.handle e).2 = none ↔ (f.handle e).1.text = f.text ∧ (f.handle e).1.cursor = f.cursor) := by
  obtain ⟨s, hs⟩ := h.holds
  obtain ⟨s', hs', hedit, hout⟩ := hs.handle e
  refine ⟨s, s', hs, hs', hedit, hout, ?_⟩
  rw [hout, outcome_eq_none]
  constructor
  · rintro rfl
    exact ⟨hs'.text_eq.trans hs.text_eq.symm, hs'.cursor_eq.trans hs.cursor_eq.symm⟩
  · rintro ⟨ht, hc⟩
    have hsame : f.Holds s' := ⟨ht.symm.trans hs'.text_eq, hc.symm.trans hs'.cursor_eq⟩
    exact hsame.unique hs

/-- A field in which the cursor stands between `é`, which has two bytes, and `b`. -/
def accented : Field := (((empty [] []).setText ['é', 'b']).handle .cursorLeft).1

theorem reachable_accented : Reachable accented :=
  .step (.step (.empty [] []) (.setText _ _)) (.handle _ _)

theorem holds_accented : accented.Holds ⟨['é'], ['b']⟩ := ⟨rfl, rfl⟩

theorem handle_edits_accented :
    Reachable accented ∧ accented.cursor = 2 ∧
      (accented.handle .backspace).1.Holds ⟨[], ['b']⟩ ∧
      (accented.handle .backspace).2 = some .edited := by
  obtain ⟨s, s', hs, hs', hedit, hout, -⟩ := handle_edits reachable_accented .backspace
  obtain rfl := hs.unique holds_accented
  obtain rfl : s' = ⟨[], ['b']⟩ := hedit
  exact ⟨reachable_accented, rfl, hs', hout⟩

/-- A field of one row, in which the key that sends a text would break the line. -/
def oneRow : Field :=
  (({ (empty [] []).withMaxRows 1 with enterBreaks := true } : Field).handle (.type 'a')).1

theorem reachable_oneRow : Reachable oneRow :=
  .step (.step (.step (.empty [] []) (.withMaxRows _ 1)) (.enterBreaks _)) (.handle _ _)

/-- That key puts in a line break, sends the text or changes nothing in most fields, but not in all:
    where there is one row, it puts in a space. -/
theorem submit_spaces_one_row :
    ¬∀ (f : Field) (s s' : Halves), Reachable f → f.Holds s → (f.handle .submit).1.Holds s' →
      s' = s.insert ['\n'] ∨
        (s' = ⟨[], []⟩ ∧ (f.handle .submit).2 = some (.submitted s.text)) ∨ s' = s := by
  intro h
  have hs : oneRow.Holds ⟨['a'], []⟩ := ⟨rfl, rfl⟩
  have hs' : (oneRow.handle .submit).1.Holds ⟨['a', ' '], []⟩ := ⟨by decide, by decide⟩
  exact absurd (h oneRow _ _ reachable_oneRow hs hs') (by decide)

end Field

end CircuitHub

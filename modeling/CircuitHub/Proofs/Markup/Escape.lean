import CircuitHub.Markup.Event
import CircuitHub.Proofs.Result
import CircuitHub.Proofs.Text.Scan

/-!
# Text between tags

Between tags a text is written with three of its characters by reference (`escape`), so that none of
them is read as the start of a tag or of a reference. Unescaping gives the text back. A reader does
not: it meets an event for each reference, which does not say what the reference stands for, and
between two references it meets what is left of the text there without the white space around it.

* `unescape?_escape`: nothing is lost by escaping;
* `Reader.next_text`, `Reader.next_written`: what a reader meets in an escaped text;
* `StartTag.next_opening`, `StartTag.next_closing`: what it meets where an element starts and ends.
-/

namespace CircuitHub.Markup

/-- A character that is written by reference. -/
def isReferred (c : Char) : Bool := c = '&' || c = '<' || c = '>'

/-- A character as it is written between tags. -/
def written (c : Char) : Text :=
  if c = '&' then "&amp;" else if c = '<' then "&lt;" else if c = '>' then "&gt;" else [c]

/-- A text as it is written between tags. -/
def escape (t : Text) : Text := t.flatMap written

@[simp] theorem escape_nil : escape [] = [] := rfl

@[simp] theorem escape_cons (c : Char) (t : Text) : escape (c :: t) = written c ++ escape t := rfl

theorem isReferred_iff {c : Char} : isReferred c = true ↔ c = '&' ∨ c = '<' ∨ c = '>' := by
  simp [isReferred, or_assoc]

theorem ne_of_not_isReferred {c : Char} (h : isReferred c = false) :
    c ≠ '&' ∧ c ≠ '<' ∧ c ≠ '>' := by
  simpa [isReferred, and_assoc] using h

theorem written_of_not_isReferred {c : Char} (h : isReferred c = false) : written c = [c] := by
  obtain ⟨hamp, hlt, hgt⟩ := ne_of_not_isReferred h
  rw [written, if_neg hamp, if_neg hlt, if_neg hgt]

/-- Every reference begins with an ampersand. -/
theorem written_of_isReferred {c : Char} (h : isReferred c = true) :
    ∃ name, written c = '&' :: name := by
  rcases isReferred_iff.1 h with rfl | rfl | rfl <;> exact ⟨_, rfl⟩

theorem unescape?_written (c : Char) (t : Text) :
    unescape? (written c ++ t) = (unescape? t).map (c :: ·) := by
  cases h : isReferred c with
  | false =>
    rw [written_of_not_isReferred h, List.singleton_append, unescape?]
    exact (ne_of_not_isReferred h).1
  | true =>
    obtain ⟨name, hname⟩ := written_of_isReferred h
    rw [hname, List.cons_append, unescape?]
    rcases isReferred_iff.1 h with rfl | rfl | rfl <;> (cases hname; rfl)

/-- Unescaping gives back what has been escaped. -/
theorem unescape?_escape (t : Text) : unescape? (escape t) = some t := by
  induction t with
  | nil => simp [unescape?]
  | cons c t ih => rw [escape_cons, unescape?_written, ih, Option.map_some]

/-! ## What a reader meets -/

theorem isSpace_of_isGap {c : Char} (h : isGap c = true) : isSpace c = true := by
  simp only [isGap, Bool.or_eq_true, decide_eq_true_eq, or_assoc] at h
  rcases h with rfl | rfl | rfl | rfl <;> rfl

namespace Reader

variable {opened : List Text}

/-- White space between events is passed over. -/
theorem next_gap {gap : Text} (h : gap.all isGap = true) (rest : Text) :
    next ⟨gap ++ rest, opened⟩ = next ⟨rest, opened⟩ := by
  rw [next, next, List.dropWhile_append_of_pos (List.all_eq_true.1 h)]

/-- The text before a tag or a reference is met without the white space around it. -/
theorem next_text {t : Text} {stop : Char} (h : ∀ c ∈ t, isReferred c = false)
    (hshown : t.all isGap = false) (hstop : stop = '<' ∨ stop = '&') (rest : Text) :
    next ⟨t ++ stop :: rest, opened⟩ =
      .ok (some (.text (Text.dropEndWhile isGap (t.dropWhile isGap)), ⟨stop :: rest, opened⟩)) := by
  have hgap : isGap stop = false := by rcases hstop with rfl | rfl <;> rfl
  have hends : (stop != '<' && stop != '&') = false := by rcases hstop with rfl | rfl <;> rfl
  -- The event begins at the first character that is no white space, and it is neither of the two
  -- that begin other events.
  rw [next, Text.dropWhile_append_stop hgap]
  cases hdrop : t.dropWhile isGap with
  | nil =>
    rw [List.dropWhile_eq_nil_iff, ← List.all_eq_true] at hdrop
    rw [hshown] at hdrop
    cases hdrop
  | cons c more =>
    have hplain : ∀ c' ∈ c :: more, c' ≠ '<' ∧ c' ≠ '&' := by
      intro c' hmem
      rw [← hdrop] at hmem
      have hne := ne_of_not_isReferred (h c' ((List.dropWhile_suffix _).subset hmem))
      exact ⟨hne.2.1, hne.1⟩
    have hmore : (more ++ stop :: rest).takeWhile (fun c => c != '<' && c != '&') = more := by
      rw [Text.takeWhile_append_stop hends, List.takeWhile_eq_self_iff]
      exact fun c' hmem => by simpa using hplain c' (List.mem_cons_of_mem _ hmem)
    obtain ⟨hlt, hamp⟩ := hplain c List.mem_cons_self
    rw [List.cons_append, nextAt]
    · simp only [hmore, List.drop_left]
    all_goals simp [hlt, hamp]

/-- A reference is passed over. -/
theorem next_written {c : Char} (h : isReferred c = true) (rest : Text) :
    next ⟨written c ++ rest, opened⟩ = .ok (some (.skipped, ⟨rest, opened⟩)) := by
  rcases isReferred_iff.1 h with rfl | rfl | rfl <;> rfl

end Reader

/-! ## Elements -/

theorem takeTag?_append {quote? : Option Char} {t content rest : Text}
    (h : takeTag? quote? t = some (content, rest)) (more : Text) :
    takeTag? quote? (t ++ more) = some (content, rest ++ more) := by
  induction t generalizing quote? content with
  | nil => cases h
  | cons c t ih =>
    rw [List.cons_append]
    cases quote? with
    | none =>
      simp only [takeTag?] at h ⊢
      by_cases hc : c = '>'
      · rw [if_pos hc] at h ⊢
        cases h
        rfl
      · rw [if_neg hc] at h ⊢
        obtain ⟨⟨content, rest⟩, hread, he⟩ := Option.map_eq_some_iff.1 h
        cases he
        rw [ih hread]
        rfl
    | some quote =>
      simp only [takeTag?] at h ⊢
      obtain ⟨⟨content, rest⟩, hread, he⟩ := Option.map_eq_some_iff.1 h
      cases he
      rw [ih hread]
      rfl

/-- What stands between the brackets of a tag that opens an element. -/
structure StartTag where
  /-- The name of the element and its attributes, as they are written. -/
  content : Text
  /-- The attributes, each by the local part of its name. -/
  attributes : List (Text × Text)
  /-- The first bracket after the one that opens the tag is not part of a quoted value. -/
  ends : takeTag? none (content ++ ['>']) = some (content, [])
  /-- It is neither a closing tag nor a declaration nor an instruction. -/
  begins : ∀ c ∈ content.head?, c ≠ '/' ∧ c ≠ '!' ∧ c ≠ '?'
  /-- It does not close the element that it opens. -/
  opens : content.getLast? ≠ some '/'
  /-- Its attributes are well formed. -/
  wellFormed : (Tag.ofContent content).readAttributes = .ok attributes
  /-- Its name can be written in a closing tag. -/
  closes : takeTag? none ((Tag.ofContent content).name ++ ['>']) =
    some ((Tag.ofContent content).name, [])

namespace StartTag

variable (start : StartTag) {opened : List Text}

/-- The tag that is read. -/
def tag : Tag := Tag.ofContent start.content

theorem readAttributes_tag : start.tag.readAttributes = .ok start.attributes := start.wellFormed

/-- The tag as it is written. -/
def opening : Text := '<' :: start.content ++ ['>']

/-- The tag that closes the element, as it is written. -/
def closing : Text := '<' :: '/' :: start.tag.name ++ ['>']

theorem next_opening (rest : Text) :
    Reader.next ⟨start.opening ++ rest, opened⟩ =
      .ok (some (.opened start.tag, ⟨rest, start.tag.name :: opened⟩)) := by
  have hread : takeTag? none (start.content ++ ['>'] ++ rest) = some (start.content, rest) :=
    takeTag?_append start.ends rest
  -- The first character says what kind of tag it is.
  have hhead : ∀ c ∈ (start.content ++ ['>'] ++ rest).head?, c ≠ '/' ∧ c ≠ '!' ∧ c ≠ '?' := by
    cases hcontent : start.content with
    | nil => simp
    | cons c more =>
      intro c' hc'
      exact start.begins c' (by rw [hcontent]; exact hc')
  have hne (c : Char) (t : Text) (h : start.content ++ ['>'] ++ rest = c :: t) :
      c ≠ '/' ∧ c ≠ '!' ∧ c ≠ '?' := hhead c (by rw [h]; rfl)
  change Reader.nextAt opened ('<' :: (start.content ++ ['>'] ++ rest)) = _
  rw [Reader.nextAt]
  · simp only [hread, tagEvent, if_neg start.opens, tag]
  · exact fun t h => (hne _ t h).2.1 rfl
  · exact fun t h => (hne _ t h).2.2 rfl
  · exact fun t h => (hne _ t h).1 rfl

theorem next_closing (rest : Text) :
    Reader.next ⟨start.closing ++ rest, start.tag.name :: opened⟩ =
      .ok (some (.closed start.tag.name, ⟨rest, opened⟩)) := by
  have hread : takeTag? none (start.tag.name ++ ['>'] ++ rest) = some (start.tag.name, rest) :=
    takeTag?_append start.closes rest
  -- The name of a tag holds no white space, so that none is taken off it.
  have hname : Text.dropEndWhile isGap start.tag.name = start.tag.name := by
    refine List.rdropWhile_eq_self_iff.2 fun hne => ?_
    simpa using List.mem_takeWhile_imp (List.getLast_mem hne)
  change Reader.nextAt _ ('<' :: '/' :: (start.tag.name ++ ['>'] ++ rest)) = _
  rw [Reader.nextAt]
  simp only [hread, closeTag, hname, ite_self, if_true]
  rfl

end StartTag

end CircuitHub.Markup

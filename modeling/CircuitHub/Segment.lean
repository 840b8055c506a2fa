import CircuitHub.Text.Basic

/-!
# Segments

The text of a message is a sequence of *segments*: paragraphs of prose, and code between fences of
three grave accents. Segments come out one at a time (`Stream.next?`), each taken off what the
stream has not read yet, and `segments` is all of them in order.

* `Stream.next?_size_lt`: a segment leaves a smaller stream, so that every text has finitely many.
-/

namespace CircuitHub

/-- The mark that opens and closes a piece of code. -/
def fence : Text := ['\x60', '\x60', '\x60']

theorem length_fence : fence.length = 3 := rfl

/-- A typed piece of a message. -/
inductive Segment where
  /-- Lines of prose, none of them blank. -/
  | paragraph (text : Text)
  /-- A fenced piece of code; the language is empty where the fence names none. -/
  | code (language body : Text)
  deriving DecidableEq, Repr

namespace Segment

/-- What the segment says, without the fences. -/
def text : Segment → Text
  | paragraph t => t
  | code _ body => body

/-- The language of a piece of code. -/
def language? : Segment → Option Text
  | paragraph _ => none
  | code language _ => some language

/-- Code of the language `svg` is drawn, and all else is shown as it is written. -/
def isDrawing : Segment → Bool
  | code language _ => language == ['s', 'v', 'g']
  | paragraph _ => false

/-- The code between two fences. The language is the rest of the fence's line, and the body loses
    the line break before the closing fence. A piece on one line has no language. -/
def ofFenced (inner : Text) : Segment :=
  if inner.contains ['\n'] then
    code inner.firstLine.trim ((inner.afterLine.dropSuffix ['\n']).dropSuffix ['\r'])
  else code [] inner.trim

end Segment

/-! ### Paragraphs -/

/-- The prose without the blank lines it begins with. -/
def skipBlankLines (t : Text) : Text :=
  if _h : t = [] then []
  else if t.firstLine.isBlank then skipBlankLines t.afterLine
  else t
termination_by t.length
decreasing_by exact Text.afterLine_length_lt _h

/-- The lines up to the first blank one, without the break after the last of them, and what
    follows. -/
def takeParagraph (t : Text) : Text × Text :=
  if _h : t = [] then ([], [])
  else if t.firstLine.isBlank then ([], t)
  else
    let (more, rest) := takeParagraph t.afterLine
    (if more.isEmpty then t.firstLine else t.firstLine ++ '\n' :: more, rest)
termination_by t.length
decreasing_by exact Text.afterLine_length_lt _h

/-- The next paragraph of some prose and what follows it. Carriage returns at the end of the
    paragraph do not belong to it. -/
def nextParagraph? (prose : Text) : Option (Text × Text) :=
  match skipBlankLines prose with
  | [] => none
  | c :: t =>
    let (paragraph, rest) := takeParagraph (c :: t)
    some (paragraph.dropEndWhile (· == '\r'), rest)

theorem skipBlankLines_length_le (t : Text) : (skipBlankLines t).length ≤ t.length := by
  fun_induction skipBlankLines t with
  | case1 => simp
  | case2 t h _ ih => exact Nat.le_trans ih (Nat.le_of_lt (Text.afterLine_length_lt h))
  | case3 => exact Nat.le_refl _

theorem firstLine_not_blank_of_skip {t : Text} {c : Char} {r : Text}
    (h : skipBlankLines t = c :: r) : Text.isBlank (Text.firstLine (c :: r)) = false := by
  fun_induction skipBlankLines t with
  | case1 => cases h
  | case2 _ _ _ ih => exact ih h
  | case3 t _ hb => rw [← h]; simpa using hb

theorem takeParagraph_length_le (t : Text) : (takeParagraph t).2.length ≤ t.length := by
  fun_induction takeParagraph t with
  | case1 => simp
  | case2 => exact Nat.le_refl _
  | case3 t h _ more rest heq ih =>
    rw [heq] at ih
    exact Nat.le_trans ih (Nat.le_of_lt (Text.afterLine_length_lt h))

theorem takeParagraph_length_lt {t : Text} (hb : t.firstLine.isBlank = false) :
    (takeParagraph t).2.length < t.length := by
  by_cases h : t = []
  · subst h; simp [Text.firstLine, Text.isBlank] at hb
  · rw [takeParagraph]
    simp only [h, hb, dite_false, Bool.false_eq_true, if_false]
    exact Nat.lt_of_le_of_lt (takeParagraph_length_le _) (Text.afterLine_length_lt h)

theorem nextParagraph?_length_lt {prose p rest : Text} (h : nextParagraph? prose = some (p, rest)) :
    rest.length < prose.length := by
  unfold nextParagraph? at h
  split at h
  · cases h
  · rename_i c t hs
    simp only [Option.some.injEq, Prod.mk.injEq] at h
    rw [← h.2]
    exact Nat.lt_of_lt_of_le (takeParagraph_length_lt (firstLine_not_blank_of_skip hs))
      (hs ▸ skipBlankLines_length_le prose)

/-! ### The stream of segments -/

/-- Where the reading of a message stands. -/
structure Stream where
  /-- What has not been searched for fences. -/
  rest : Text
  /-- Prose whose paragraphs come next. -/
  prose : Text
  /-- The code that follows the prose. -/
  pending? : Option Segment

namespace Stream

/-- The stream at the start of a message. -/
def start (content : Text) : Stream := ⟨content, [], none⟩

/-- The piece of the message before the next fence, and the code that fence opens. A fence that is
    never closed makes all that follows it code. -/
def refill (rest : Text) : Stream :=
  match rest.cut? fence with
  | none => ⟨[], rest, none⟩
  | some (prose, opened) =>
    match opened.cut? fence with
    | some (inner, after) => ⟨after, prose, some (Segment.ofFenced inner)⟩
    | none => ⟨[], prose, some (Segment.ofFenced opened)⟩

/-- A bound on the segments still to come. -/
def size (s : Stream) : Nat :=
  s.rest.length + s.prose.length + (if s.pending?.isSome then 1 else 0)

/-- The next paragraph of the prose at hand, and else the code after it. -/
def ready? (s : Stream) : Option (Segment × Stream) :=
  match nextParagraph? s.prose with
  | some (p, prose) => some (.paragraph p, { s with prose })
  | none => s.pending?.map fun code => (code, { s with prose := [], pending? := none })

/-- The next segment, and the stream after it. -/
def next? (s : Stream) : Option (Segment × Stream) :=
  s.ready?.or (if s.rest.isEmpty then none else (refill s.rest).ready?)

theorem refill_size_le (rest : Text) : (refill rest).size ≤ rest.length := by
  unfold refill
  split
  · simp [size]
  · rename_i prose opened h
    have h₁ := Text.cut?_length h
    rw [length_fence] at h₁
    split
    · rename_i inner after h'
      have h₂ := Text.cut?_length h'
      rw [length_fence] at h₂
      simp only [size, Option.isSome_some, if_true]
      omega
    · simp only [size, Option.isSome_some, if_true, List.length_nil]
      omega

theorem ready?_size_lt {s t : Stream} {x : Segment} (h : s.ready? = some (x, t)) :
    t.size < s.size := by
  unfold ready? at h
  split at h
  · rename_i p prose hp
    simp only [Option.some.injEq, Prod.mk.injEq] at h
    rw [← h.2]
    have := nextParagraph?_length_lt hp
    simp only [size]
    omega
  · rw [Option.map_eq_some_iff] at h
    obtain ⟨code, hc, he⟩ := h
    simp only [Prod.mk.injEq] at he
    rw [← he.2]
    simp only [size, hc, Option.isSome_some, Option.isSome_none, if_true, Bool.false_eq_true,
      if_false, List.length_nil]
    omega

/-- A segment leaves a smaller stream. -/
theorem next?_size_lt {s t : Stream} {x : Segment} (h : s.next? = some (x, t)) :
    t.size < s.size := by
  unfold next? at h
  rcases hr : s.ready? with _ | ⟨y, u⟩
  · rw [hr, Option.none_or] at h
    split at h
    · cases h
    · have h₁ := ready?_size_lt h
      have h₂ := refill_size_le s.rest
      have h₃ : s.rest.length ≤ s.size := by simp only [size]; omega
      omega
  · rw [hr, Option.some_or] at h
    cases h
    exact ready?_size_lt hr

/-- All segments still to come. -/
def toList (s : Stream) : List Segment :=
  match _h : s.next? with
  | none => []
  | some (x, t) => x :: t.toList
termination_by s.size
decreasing_by exact next?_size_lt _h

end Stream

/-- The segments of a message, in order. -/
def segments (content : Text) : List Segment := (Stream.start content).toList

end CircuitHub

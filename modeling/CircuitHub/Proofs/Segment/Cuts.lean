import CircuitHub.Proofs.Segment.Prose
import CircuitHub.Proofs.Text.Cursor

/-!
# Where a message is cut

A message is searched for marks, which are fences and line breaks, and cut at the number of bytes at
which a mark begins and at the one at which it ends. A character may have several bytes, and a cut
within one has no result, nor has a difference that would be less than zero. Here the reading of a
message is written down with cuts and differences that may have none. As a mark is found between two
characters (`Text.parted?_eq`), and a paragraph ends where its last line does (`paragraphEnd?_eq`),
all of them have one.

* `skipBlankLines?_eq`, `cutParagraph?_eq`: prose is read without cutting a character;
* `Stream.cutNext?_eq`: so is a message, segment by segment.
-/

namespace CircuitHub

namespace Text

/-! ## Marks -/

/-- The number of bytes before the first occurrence of a mark. -/
def find? (mark : Text) : Text → Option Nat
  | [] => if mark.isEmpty then some 0 else none
  | c :: t => if mark.isPrefixOf (c :: t) then some 0 else (find? mark t).map (c.utf8Size + ·)

/-- The text before the first occurrence of a mark and the text after it, if the mark occurs, both
    cut out of the text. -/
def parted? (t mark : Text) : Option (Option (Text × Text)) :=
  match find? mark t with
  | none => some none
  | some place => do
    let before ← t.between? 0 place
    let after ← t.between? (place + mark.byteSize) t.byteSize
    some (some (before, after))

/-- A mark is found behind the text before it. -/
theorem find?_eq (mark t : Text) : find? mark t = (t.cut? mark).map fun cut => cut.1.byteSize := by
  fun_induction find? mark t with
  | case1 h => rw [cut?, if_pos h, Option.map_some, byteSize_nil]
  | case2 h => rw [cut?, if_neg h, Option.map_none]
  | case3 c t h => rw [cut?, if_pos h, Option.map_some, byteSize_nil]
  | case4 c t h ih =>
    rw [cut?, if_neg h, ih, Option.map_map, Option.map_map]
    congr 1
    funext cut
    exact (byteSize_cons c cut.1).symm

/-- A mark begins and ends between two characters. -/
theorem parted?_eq (t mark : Text) : t.parted? mark = some (t.cut? mark) := by
  rw [parted?, find?_eq]
  rcases hcut : t.cut? mark with _ | ⟨before, after⟩
  · rfl
  · have ht := cut?_eq_some hcut
    have hbefore : t.between? 0 before.byteSize = some before := by
      rw [ht, List.append_assoc]
      exact between?_append [] before (mark ++ after)
    have hafter : t.between? (before.byteSize + mark.byteSize) t.byteSize = some after := by
      have h := between?_append (before ++ mark) after []
      rwa [List.append_nil, ← ht, byteSize_append] at h
    simp only [Option.map_some, hbefore, hafter, Option.bind_eq_bind, Option.bind_some]

/-- A text is cut at its first line break, if there is one. -/
theorem cut?_newline (t : Text) :
    t.cut? ['\n'] = if '\n' ∈ t then some (t.firstLine, t.afterLine) else none := by
  induction t with
  | nil => rfl
  | cons c t ih =>
    by_cases hc : c = '\n'
    · simp [cut?, hc, firstLine, afterLine]
    · have hc' : '\n' ≠ c := Ne.symm hc
      rw [cut?, if_neg (by simpa using hc'), ih]
      by_cases ht : '\n' ∈ t <;> simp [ht, hc, hc', firstLine, afterLine]

/-- The first line and what follows its break, both cut out of the text. -/
def splitLine? (t : Text) : Option (Text × Text) := do
  match ← t.parted? ['\n'] with
  | some (line, rest) => some (line, rest)
  | none => some (t, [])

theorem splitLine?_eq (t : Text) : t.splitLine? = some (t.firstLine, t.afterLine) := by
  rw [splitLine?, parted?_eq, cut?_newline]
  by_cases h : '\n' ∈ t
  · simp only [if_pos h, Option.bind_eq_bind, Option.bind_some]
  · simp only [if_neg h, Option.bind_eq_bind, Option.bind_some, firstLine_eq_self h,
      afterLine_eq_nil h]

end Text

/-! ## Paragraphs -/

/-- The prose without the blank lines it begins with. -/
def skipBlankLines? (t : Text) : Option Text :=
  if _hne : t = [] then some []
  else match _h : t.splitLine? with
    | none => none
    | some (line, rest) => if line.isBlank then skipBlankLines? rest else some t
termination_by t.length
decreasing_by
  rw [Text.splitLine?_eq] at _h
  cases _h
  exact Text.afterLine_length_lt _hne

/-- Where the lines of some prose end that are not blank, and what follows, when those above the
    cursor have been read. The end is told by the bytes of the prose up to there, and those up to
    the cursor are the difference between what there is and what is left. -/
def paragraphEnd? (prose cursor : Text) (stop : Nat) : Option (Nat × Text) :=
  if _hne : cursor = [] then some (stop, cursor)
  else match _h : cursor.splitLine? with
    | none => none
    | some (line, rest) =>
      if line.isBlank then some (stop, cursor)
      else if prose.byteSize < cursor.byteSize then none
      else paragraphEnd? prose rest (prose.byteSize - cursor.byteSize + line.byteSize)
termination_by cursor.length
decreasing_by
  rw [Text.splitLine?_eq] at _h
  cases _h
  exact Text.afterLine_length_lt _hne

/-- The next paragraph of some prose and what follows it, if there is one. -/
def cutParagraph? (prose : Text) : Option (Option (Text × Text)) := do
  let start ← skipBlankLines? prose
  if start.isEmpty then some none
  else
    let (stop, rest) ← paragraphEnd? start start 0
    let paragraph ← start.between? 0 stop
    some (some (paragraph.dropEndWhile (· == '\r'), rest))

theorem skipBlankLines?_of_ne_nil {t : Text} (h : t ≠ []) :
    skipBlankLines? t =
      if t.firstLine.isBlank then skipBlankLines? t.afterLine else some t := by
  rw [skipBlankLines?, dif_neg h]
  split
  · rename_i hline
    cases (Text.splitLine?_eq t).symm.trans hline
  · rename_i hline
    cases (Text.splitLine?_eq t).symm.trans hline
    rfl

theorem skipBlankLines?_eq (t : Text) : skipBlankLines? t = some (skipBlankLines t) := by
  fun_induction skipBlankLines t with
  | case1 => rw [skipBlankLines?, dif_pos rfl]
  | case2 t hne hb ih => rw [skipBlankLines?_of_ne_nil hne, if_pos hb, ih]
  | case3 t hne hb => rw [skipBlankLines?_of_ne_nil hne, if_neg hb]

theorem paragraphEnd?_of_ne_nil {prose cursor : Text} (h : cursor ≠ [])
    (hle : cursor.byteSize ≤ prose.byteSize) (stop : Nat) :
    paragraphEnd? prose cursor stop =
      if cursor.firstLine.isBlank then some (stop, cursor)
      else paragraphEnd? prose cursor.afterLine
        (prose.byteSize - cursor.byteSize + cursor.firstLine.byteSize) := by
  rw [paragraphEnd?, dif_neg h]
  split
  · rename_i hline
    cases (Text.splitLine?_eq cursor).symm.trans hline
  · rename_i hline
    cases (Text.splitLine?_eq cursor).symm.trans hline
    rw [if_neg (Nat.not_lt.2 hle)]

/-- A paragraph ends where its last line does, if there is any line. -/
theorem paragraphEnd?_eq (above cursor : Text) (stop : Nat) :
    paragraphEnd? (above ++ cursor) cursor stop =
      some (if (takeParagraph cursor).1 = [] then stop
        else above.byteSize + (takeParagraph cursor).1.byteSize, (takeParagraph cursor).2) := by
  fun_induction takeParagraph cursor generalizing above stop with
  | case1 => rw [paragraphEnd?, dif_pos rfl, if_pos rfl]
  | case2 t hne hb => rw [paragraphEnd?_of_ne_nil hne (by simp), if_pos hb, if_pos rfl]
  | case3 t hne hb more rest heq ih =>
    have hline : t.firstLine ≠ [] := fun hnil => hb (by rw [hnil]; rfl)
    have hstop : (above ++ t).byteSize - t.byteSize + t.firstLine.byteSize =
        above.byteSize + t.firstLine.byteSize := by
      rw [Text.byteSize_append, Nat.add_sub_cancel]
    rw [paragraphEnd?_of_ne_nil hne (by simp), if_neg hb, hstop]
    by_cases hbreak : '\n' ∈ t
    · have habove : above ++ t.firstLine ++ ['\n'] ++ t.afterLine = above ++ t := by
        rw [List.append_assoc, List.append_assoc, List.singleton_append,
          firstLine_append_afterLine hbreak]
      have h := ih (above ++ t.firstLine ++ ['\n']) (above.byteSize + t.firstLine.byteSize)
      rw [habove, heq] at h
      rw [h]
      cases more with
      | nil => simp [hline]
      | cons c more => simp [hline, Nat.add_assoc]
    · -- No line follows, and nothing is left.
      rw [afterLine_eq_nil hbreak, takeParagraph, dif_pos rfl] at heq
      cases heq
      rw [afterLine_eq_nil hbreak, paragraphEnd?, dif_pos rfl]
      simp [hline]

theorem takeParagraph_fst_isPrefix (t : Text) : (takeParagraph t).1 <+: t := by
  fun_induction takeParagraph t with
  | case1 => exact List.prefix_rfl
  | case2 t hne hb => exact List.nil_prefix
  | case3 t hne hb more rest heq ih =>
    rw [heq] at ih
    cases more with
    | nil => exact List.takeWhile_prefix _
    | cons c more =>
      have hbreak : '\n' ∈ t := by
        by_contra hbreak
        rw [afterLine_eq_nil hbreak] at ih
        cases List.prefix_nil.1 ih
      conv_rhs => rw [← firstLine_append_afterLine hbreak]
      exact (List.prefix_append_right_inj _).2 (List.cons_prefix_cons.2 ⟨rfl, ih⟩)

theorem paragraphEnd?_self (prose : Text) : paragraphEnd? prose prose 0 =
    some ((takeParagraph prose).1.byteSize, (takeParagraph prose).2) := by
  have h := paragraphEnd?_eq [] prose 0
  rw [List.nil_append, Text.byteSize_nil, Nat.zero_add] at h
  rw [h]
  split
  · rename_i hnil
    rw [hnil, Text.byteSize_nil]
  · rfl

theorem between?_takeParagraph (prose : Text) :
    prose.between? 0 (takeParagraph prose).1.byteSize = some (takeParagraph prose).1 := by
  obtain ⟨after, hafter⟩ := takeParagraph_fst_isPrefix prose
  have h := Text.between?_append [] (takeParagraph prose).1 after
  rwa [List.nil_append, hafter, Text.byteSize_nil] at h

/-- The next paragraph is cut out of the prose. -/
theorem cutParagraph?_eq (prose : Text) : cutParagraph? prose = some (nextParagraph? prose) := by
  rw [cutParagraph?, skipBlankLines?_eq, nextParagraph?]
  simp only [Option.bind_eq_bind, Option.bind_some]
  cases skipBlankLines prose with
  | nil => rfl
  | cons c t =>
    simp only [List.isEmpty_cons, Bool.false_eq_true, if_false, paragraphEnd?_self,
      Option.bind_some, between?_takeParagraph]

/-! ## Segments -/

/-- The code between two fences. -/
def Segment.ofFenced? (inner : Text) : Option Segment := do
  match ← inner.parted? ['\n'] with
  | some (language, body) =>
    some (.code language.trim ((body.dropSuffix ['\n']).dropSuffix ['\r']))
  | none => some (.code [] inner.trim)

theorem Segment.ofFenced?_eq (inner : Text) : ofFenced? inner = some (ofFenced inner) := by
  rw [ofFenced?, Text.parted?_eq, ofFenced, Text.contains, Text.cut?_newline]
  by_cases h : '\n' ∈ inner
  · simp only [if_pos h, Option.bind_eq_bind, Option.bind_some, Option.isSome_some, if_true]
  · simp only [if_neg h, Option.bind_eq_bind, Option.bind_some, Option.isSome_none,
      Bool.false_eq_true, if_false]

namespace Stream

/-- The piece of the message before the next fence, and the code that fence opens. -/
def cutPiece? (rest : Text) : Option Stream := do
  match ← rest.parted? fence with
  | none => some ⟨[], rest, none⟩
  | some (prose, opened) =>
    match ← opened.parted? fence with
    | some (inner, after) => do
      let code ← Segment.ofFenced? inner
      some ⟨after, prose, some code⟩
    | none => do
      let code ← Segment.ofFenced? opened
      some ⟨[], prose, some code⟩

/-- The next paragraph of the prose at hand, and else the code after it, if there is either. -/
def cutReady? (s : Stream) : Option (Option (Segment × Stream)) := do
  match ← cutParagraph? s.prose with
  | some (p, prose) => some (some (.paragraph p, { s with prose }))
  | none => some (s.pending?.map fun code => (code, { s with prose := [], pending? := none }))

/-- The next segment, if there is one, and the stream after it. -/
def cutNext? (s : Stream) : Option (Option (Segment × Stream)) := do
  match ← s.cutReady? with
  | some next => some (some next)
  | none =>
    if s.rest.isEmpty then some none
    else
      let piece ← cutPiece? s.rest
      piece.cutReady?

theorem cutPiece?_eq (rest : Text) : cutPiece? rest = some (refill rest) := by
  simp only [cutPiece?, refill, Text.parted?_eq, Segment.ofFenced?_eq, Option.bind_eq_bind,
    Option.bind_some]
  rcases rest.cut? fence with _ | ⟨prose, opened⟩
  · rfl
  · simp only
    rcases opened.cut? fence with _ | ⟨inner, after⟩ <;> rfl

theorem cutReady?_eq (s : Stream) : s.cutReady? = some s.ready? := by
  simp only [cutReady?, ready?, cutParagraph?_eq, Option.bind_eq_bind, Option.bind_some]
  rcases nextParagraph? s.prose with _ | ⟨p, prose⟩ <;> rfl

/-- Whatever has been read of a message, what comes next is cut out of it. -/
theorem cutNext?_eq (s : Stream) : s.cutNext? = some s.next? := by
  simp only [cutNext?, next?, cutReady?_eq, cutPiece?_eq, Option.bind_eq_bind, Option.bind_some]
  rcases s.ready? with _ | next
  · rw [Option.none_or]
    by_cases hrest : s.rest.isEmpty = true
    · simp only [if_pos hrest]
    · simp only [if_neg hrest]
  · rfl

end Stream

end CircuitHub

import CircuitHub.Markup.Entity

/-!
# Markup events

Marked-up text is read as a sequence of events: tags that open, close or do both, and the text
between them. The reader is lenient: it does not ask for a single root element, and it leaves
elements open at the end. What it does check, it checks only when it gets there
(`Reader.next`), so that what stands before a mistake has been seen by then.

* `Reader.next_length_lt`: an event takes characters off the text, so that reading ends.
-/

namespace CircuitHub.Markup

/-- What is wrong with a piece of markup. -/
inductive Malformed where
  /-- The text ends inside a tag, a comment or a reference. -/
  | unfinished
  /-- A closing tag does not close the innermost open element. -/
  | mismatchedClose (name : Text)
  /-- An exclamation mark after `<` that begins neither comment, character data nor document type. -/
  | unknownDeclaration
  /-- A document type without a name. -/
  | namelessDocumentType
  /-- An attribute that is not a name, an equals sign and a quoted value, or that occurs twice. -/
  | badAttribute
  deriving DecidableEq, Repr

/-- What is wrong, in words. -/
def Malformed.message : Malformed → Text
  | unfinished => "unfinished markup"
  | mismatchedClose name => "unexpected closing tag </" ++ name ++ ['>']
  | unknownDeclaration => "unknown declaration"
  | namelessDocumentType => "document type without a name"
  | badAttribute => "bad attribute"

/-- The white space that separates the parts of a tag. -/
def isGap (c : Char) : Bool := c = ' ' || c = '\t' || c = '\n' || c = '\r'

/-- An opening tag: the name of its element, and the text of its attributes. -/
structure Tag where
  /-- The name with its qualifier. -/
  name : Text
  /-- All that follows the name. -/
  attributes : Text

/-- The part of a name after its qualifier. -/
def localName (name : Text) : Text :=
  match name.cut? [':'] with
  | some (_, name) => name
  | none => name

/-- A tag by what stands between its brackets. -/
def Tag.ofContent (content : Text) : Tag :=
  ⟨content.takeWhile (!isGap ·), content.dropWhile (!isGap ·)⟩

/-! ### Attributes -/

/-- A character of an attribute's key, the first apart. -/
def isKeyChar (c : Char) : Bool := c != '=' && !isGap c

/-- The attribute that a text begins with, its value unescaped, and what follows. -/
def takeAttribute? : Text → Option ((Text × Text) × Text)
  | [] => none
  | c :: t =>
    let key := c :: t.takeWhile isKeyChar
    match (t.dropWhile isKeyChar).dropWhile isGap with
    | '=' :: t =>
      match t.dropWhile isGap with
      | [] => none
      | quote :: t =>
        if quote = '"' || quote = '\'' then
          match t.dropWhile (· != quote) with
          | [] => none
          | _ :: rest => (unescape? (t.takeWhile (· != quote))).map fun value => ((key, value), rest)
        else none
    | _ => none

theorem takeAttribute?_length_lt {t rest : Text} {a : Text × Text}
    (h : takeAttribute? t = some (a, rest)) : rest.length < t.length := by
  unfold takeAttribute? at h
  split at h
  · cases h
  · rename_i c t
    simp only at h
    split at h
    · rename_i u hu
      split at h
      · cases h
      · rename_i q v hv
        split at h
        · split at h
          · cases h
          · rename_i d w hw
            rw [Option.map_eq_some_iff] at h
            obtain ⟨value, _, he⟩ := h
            simp only [Prod.mk.injEq] at he
            obtain ⟨_, rfl⟩ := he
            have h₁ := Text.length_dropWhile_le isKeyChar t
            have h₂ := Text.length_dropWhile_le isGap (t.dropWhile isKeyChar)
            have h₃ := Text.length_dropWhile_le isGap u
            have h₄ := Text.length_dropWhile_le (· != q) v
            rw [hu] at h₂
            rw [hv] at h₃
            rw [hw] at h₄
            simp only [List.length_cons] at *
            omega
        · cases h
    · cases h

/-- The attributes that make up a text, each key with its value. No key occurs twice, nor is it one
    of those seen before. -/
def readAttributes? (seen : List Text) (t : Text) : Option (List (Text × Text)) :=
  if t.all isGap then some []
  else match _h : takeAttribute? (t.dropWhile isGap) with
    | none => none
    | some ((key, value), rest) =>
      if seen.contains key then none
      else (readAttributes? (key :: seen) rest).map ((key, value) :: ·)
termination_by t.length
decreasing_by
  exact Nat.lt_of_lt_of_le (takeAttribute?_length_lt _h) (Text.length_dropWhile_le isGap t)

/-- The attributes of a tag, each by the local part of its key. -/
def Tag.readAttributes (tag : Tag) : Except Malformed (List (Text × Text)) :=
  match readAttributes? [] tag.attributes with
  | none => .error .badAttribute
  | some attributes => .ok (attributes.map fun (key, value) => (localName key, value))

/-! ### Events -/

/-- What a reader meets. -/
inductive Event where
  /-- A tag that opens an element. -/
  | opened (tag : Tag)
  /-- A tag that opens an element and closes it. -/
  | whole (tag : Tag)
  /-- A tag that closes an element. -/
  | closed (name : Text)
  /-- Text that is not white space, without the white space around it. -/
  | text (t : Text)
  /-- A comment, character data, a declaration, an instruction, or a reference within text. -/
  | skipped

/-- The reader of marked-up text. -/
structure Reader where
  /-- What has not been read. -/
  rest : Text
  /-- The names of the open elements, the innermost first. -/
  opened : List Text

/-- The reader at the start of a text, after the mark of byte order if there is one. -/
def Reader.start : Text → Reader
  | '\uFEFF' :: t => ⟨t, []⟩
  | t => ⟨t, []⟩

/-- What stands before the first `>` that no quotes enclose, and what follows it. Inside quotes,
    `quote?` is the mark that ends them. -/
def takeTag? (quote? : Option Char) : Text → Option (Text × Text)
  | [] => none
  | c :: t =>
    match quote? with
    | none =>
      if c = '>' then some ([], t)
      else
        let quote? := if c = '"' || c = '\'' then some c else none
        (takeTag? quote? t).map fun (content, rest) => (c :: content, rest)
    | some quote =>
      (takeTag? (if c = quote then none else some quote) t).map fun (content, rest) =>
        (c :: content, rest)

/-- What stands before the `>` that ends a declaration within which `depth` brackets are open, and
    what follows it. -/
def takeBalanced? (depth : Nat) : Text → Option (Text × Text)
  | [] => none
  | c :: t =>
    if c = '>' && depth = 0 then some ([], t)
    else
      let depth := if c = '<' then depth + 1 else if c = '>' then depth - 1 else depth
      (takeBalanced? depth t).map fun (content, rest) => (c :: content, rest)

/-- What follows a declaration, by the text after its `<!`. -/
def skipDeclaration (t : Text) : Except Malformed Text :=
  if ['-', '-'].isPrefixOf t then
    match Text.cut? (t.drop 2) ['-', '-', '>'] with
    | some (_, rest) => .ok rest
    | none => .error .unfinished
  else if "[CDATA[".toList.isPrefixOf t then
    match Text.cut? (t.drop 7) [']', ']', '>'] with
    | some (_, rest) => .ok rest
    | none => .error .unfinished
  else if Text.upperAscii (t.take 7) == "DOCTYPE".toList then
    match takeBalanced? 0 (t.drop 7) with
    | some (content, rest) =>
      if content.all isGap then .error .namelessDocumentType else .ok rest
    | none => .error .unfinished
  else .error .unknownDeclaration

/-- What follows an instruction, by the text after its `<?`. -/
def skipInstruction (t : Text) : Except Malformed Text :=
  match t.cut? ['?', '>'] with
  | some (_, rest) => if t.head? = some '>' then .error .unfinished else .ok rest
  | none => .error .unfinished

/-- The event of a tag by what stands between its brackets, and the open elements after it. -/
def tagEvent (opened : List Text) (content : Text) : Event × List Text :=
  if content.getLast? = some '/' then (.whole (Tag.ofContent content.dropLast), opened)
  else
    let tag := Tag.ofContent content
    (.opened tag, tag.name :: opened)

/-- A closing tag by what stands between its brackets: the white space at the end of the name does
    not count, unless there is nothing else. -/
def closeTag (opened : List Text) (content : Text) : Except Malformed (Event × List Text) :=
  let name := if content.all isGap then content else content.dropEndWhile isGap
  match opened with
  | [] => .error (.mismatchedClose name)
  | innermost :: opened =>
    if innermost = name then .ok (.closed name, opened) else .error (.mismatchedClose name)

namespace Reader

/-- The next event after white space has been skipped, and the reader after it. -/
def nextAt (opened : List Text) : Text → Except Malformed (Option (Event × Reader))
  | [] => .ok none
  | '<' :: '!' :: t => (skipDeclaration t).map fun rest => some (.skipped, ⟨rest, opened⟩)
  | '<' :: '?' :: t => (skipInstruction t).map fun rest => some (.skipped, ⟨rest, opened⟩)
  | '<' :: '/' :: t =>
    match takeTag? none t with
    | none => .error .unfinished
    | some (content, rest) =>
      (closeTag opened content).map fun (event, opened) => some (event, ⟨rest, opened⟩)
  | '<' :: t =>
    match takeTag? none t with
    | none => .error .unfinished
    | some (content, rest) =>
      let (event, opened) := tagEvent opened content
      .ok (some (event, ⟨rest, opened⟩))
  | '&' :: t =>
    let name := t.takeWhile fun c => c != ';' && c != '&' && c != '<'
    match t.drop name.length with
    | ';' :: rest => .ok (some (.skipped, ⟨rest, opened⟩))
    | _ => .error .unfinished
  | c :: t =>
    let more := t.takeWhile fun c => c != '<' && c != '&'
    .ok (some (.text (Text.dropEndWhile isGap (c :: more)), ⟨t.drop more.length, opened⟩))

/-- The next event and the reader after it; none at the end of the text. -/
def next (r : Reader) : Except Malformed (Option (Event × Reader)) :=
  nextAt r.opened (r.rest.dropWhile isGap)

end Reader

theorem takeTag?_length_lt {quote? : Option Char} {t content rest : Text}
    (h : takeTag? quote? t = some (content, rest)) : rest.length < t.length := by
  induction t generalizing quote? content with
  | nil => cases h
  | cons c t ih =>
    simp only [takeTag?] at h
    split at h
    · split at h
      · cases h
        simp
      · rw [Option.map_eq_some_iff] at h
        obtain ⟨⟨a, b⟩, hr, he⟩ := h
        cases he
        have := ih hr
        simp only [List.length_cons] at *
        omega
    · rw [Option.map_eq_some_iff] at h
      obtain ⟨⟨a, b⟩, hr, he⟩ := h
      cases he
      have := ih hr
      simp only [List.length_cons] at *
      omega

theorem takeBalanced?_length_lt {depth : Nat} {t content rest : Text}
    (h : takeBalanced? depth t = some (content, rest)) : rest.length < t.length := by
  induction t generalizing depth content with
  | nil => cases h
  | cons c t ih =>
    simp only [takeBalanced?] at h
    split at h
    · cases h
      simp
    · rw [Option.map_eq_some_iff] at h
      obtain ⟨⟨a, b⟩, hr, he⟩ := h
      cases he
      have := ih hr
      simp only [List.length_cons] at *
      omega

theorem skipDeclaration_length_le {t rest : Text} (h : skipDeclaration t = .ok rest) :
    rest.length ≤ t.length := by
  unfold skipDeclaration at h
  split at h
  · split at h
    · rename_i hc
      cases h
      have := Text.cut?_length hc
      simp only [List.length_drop] at this
      omega
    · cases h
  · split at h
    · split at h
      · rename_i hc
        cases h
        have := Text.cut?_length hc
        simp only [List.length_drop] at this
        omega
      · cases h
    · split at h
      · split at h
        · rename_i hb
          split at h
          · cases h
          · cases h
            have := takeBalanced?_length_lt hb
            simp only [List.length_drop] at this
            omega
        · cases h
      · cases h

theorem skipInstruction_length_le {t rest : Text} (h : skipInstruction t = .ok rest) :
    rest.length ≤ t.length := by
  unfold skipInstruction at h
  split at h
  · rename_i hc
    split at h
    · cases h
    · cases h
      have := Text.cut?_length hc
      omega
  · cases h

/-- An event takes characters off the text. -/
theorem Reader.next_length_lt {r r' : Reader} {e : Event} (h : r.next = .ok (some (e, r'))) :
    r'.rest.length < r.rest.length := by
  have hle := Text.length_dropWhile_le isGap r.rest
  refine Nat.lt_of_lt_of_le ?_ hle
  unfold Reader.next at h
  generalize r.rest.dropWhile isGap = t at h
  unfold Reader.nextAt at h
  split at h
  · cases h
  · rename_i t
    rcases hs : skipDeclaration t with _ | rest
    · rw [hs] at h
      cases h
    · rw [hs] at h
      cases h
      have := skipDeclaration_length_le hs
      simp only [List.length_cons]
      omega
  · rename_i t
    rcases hs : skipInstruction t with _ | rest
    · rw [hs] at h
      cases h
    · rw [hs] at h
      cases h
      have := skipInstruction_length_le hs
      simp only [List.length_cons]
      omega
  · split at h
    · cases h
    · rename_i t _ content rest ht
      rcases hc : closeTag r.opened content with _ | ⟨e, o⟩
      · rw [hc] at h
        cases h
      · rw [hc] at h
        cases h
        have := takeTag?_length_lt ht
        simp only [List.length_cons]
        omega
  · split at h
    · cases h
    · rename_i ht
      cases h
      have := takeTag?_length_lt ht
      simp only [List.length_cons]
      omega
  · rename_i t
    simp only at h
    split at h
    · rename_i rest hd
      cases h
      have := congrArg List.length hd
      simp only [List.length_drop, List.length_cons] at this
      simp only [List.length_cons]
      omega
    · cases h
  · cases h
    simp only [List.length_drop, List.length_cons]
    omega

end CircuitHub.Markup

/-!
# Texts

A text is the list of its characters, so that every operation on it is a recursion on that list.
White space is the Unicode property of that name, and a text is *blank* when it holds nothing else.

* `Text.cut?_eq_some`: a cut at a mark loses nothing but the mark;
* `Text.afterLine_length_lt`: a line taken off a text leaves a shorter one.
-/

namespace CircuitHub

/-- A text, as the list of its characters. -/
abbrev Text := List Char

instance : Coe String Text := ⟨String.toList⟩

/-- The Unicode property `White_Space`. -/
def isSpace (c : Char) : Bool :=
  let n := c.toNat
  (9 ≤ n && n ≤ 13) || n == 0x20 || n == 0x85 || n == 0xA0 || n == 0x1680
    || (0x2000 ≤ n && n ≤ 0x200A) || n == 0x2028 || n == 0x2029 || n == 0x202F
    || n == 0x205F || n == 0x3000

/-- The general category `Cc`. -/
def isControl (c : Char) : Bool :=
  c.toNat < 0x20 || (0x7F ≤ c.toNat && c.toNat < 0xA0)

namespace Text

/-- The text without the longest ending whose characters all satisfy `p`. -/
def dropEndWhile (p : Char → Bool) (t : Text) : Text :=
  (t.reverse.dropWhile p).reverse

/-- The text without the white space it begins with. -/
def trimStart (t : Text) : Text := t.dropWhile isSpace

/-- The text without the white space it ends in. -/
def trimEnd (t : Text) : Text := t.dropEndWhile isSpace

/-- The text without the white space around it. -/
def trim (t : Text) : Text := t.trimStart.trimEnd

/-- Every character is white space. -/
def isBlank (t : Text) : Bool := t.all isSpace

/-- The text without `mark` at its end, where it ends so. -/
def dropSuffix (t mark : Text) : Text :=
  if mark.isSuffixOf t then t.take (t.length - mark.length) else t

/-- The text before the first occurrence of `mark`, and the text after it. -/
def cut? (t mark : Text) : Option (Text × Text) :=
  match t with
  | [] => if mark.isEmpty then some ([], []) else none
  | c :: t =>
    if mark.isPrefixOf (c :: t) then some ([], (c :: t).drop mark.length)
    else (cut? t mark).map fun (before, after) => (c :: before, after)

/-- The text holds `part` as a run of neighbouring characters. -/
def contains (t part : Text) : Bool := (t.cut? part).isSome

/-- The text with each run `mark` of it, left to right, replaced by `new`. The mark is not empty. -/
def replaceAll (t mark new : Text) : Text :=
  match t with
  | [] => []
  | c :: rest =>
    if mark.isPrefixOf (c :: rest) then new ++ replaceAll (rest.drop (mark.length - 1)) mark new
    else c :: replaceAll rest mark new
termination_by t.length
decreasing_by all_goals simp; try omega

/-- The pieces of the text between the characters that satisfy `p`: one more than there are such
    characters. -/
def splitAt (p : Char → Bool) : Text → List Text
  | [] => [[]]
  | c :: t =>
    if p c then [] :: splitAt p t
    else match splitAt p t with
      | [] => [[c]]
      | piece :: pieces => (c :: piece) :: pieces

/-- The pieces of the text between its line breaks. -/
def splitLines (t : Text) : List Text := t.splitAt (· == '\n')

/-- The first line, without its line break. -/
def firstLine (t : Text) : Text := t.takeWhile (· != '\n')

/-- What follows the first line break. -/
def afterLine (t : Text) : Text := (t.dropWhile (· != '\n')).drop 1

/-- The lines of the text: each ends at a line break or at the end of the text, and a carriage
    return before the line break belongs to the break. A break at the very end starts no line. -/
def lines (t : Text) : List Text :=
  let pieces := t.splitLines
  let broken := pieces.dropLast.map (·.dropSuffix ['\r'])
  match pieces.getLast? with
  | some last => if last.isEmpty then broken else broken ++ [last]
  | none => broken

/-- A digit of the decimal system, as a number. -/
def digitValue (c : Char) : Nat := c.toNat - '0'.toNat

/-- The number written by decimal digits. -/
def natOfDigits (t : Text) : Nat := t.foldl (fun n c => 10 * n + digitValue c) 0

/-- The decimal digits of a number. -/
def ofNat (n : Nat) : Text := Nat.toDigits 10 n

/-- Latin letters in upper case, all other characters as they are. -/
def upperAscii (t : Text) : Text := t.map Char.toUpper

/-- Latin letters in lower case, all other characters as they are. -/
def lowerAscii (t : Text) : Text := t.map Char.toLower

/-- Two texts that differ at most in the case of Latin letters. -/
def equalsIgnoringAsciiCase (a b : Text) : Bool := a.lowerAscii == b.lowerAscii

/-! ### Laws -/

theorem cut?_length {mark t before after : Text} (h : cut? t mark = some (before, after)) :
    before.length + mark.length + after.length = t.length := by
  induction t generalizing before with
  | nil =>
    simp only [cut?] at h
    split at h
    · rename_i hm
      simp only [Option.some.injEq, Prod.mk.injEq] at h
      obtain ⟨rfl, rfl⟩ := h
      simp [List.isEmpty_iff.1 hm]
    · simp at h
  | cons c t ih =>
    simp only [cut?] at h
    split at h
    · rename_i hp
      simp only [Option.some.injEq, Prod.mk.injEq] at h
      obtain ⟨rfl, rfl⟩ := h
      have hle := (List.isPrefixOf_iff_prefix.1 hp).length_le
      simp only [List.length_nil, List.length_drop, List.length_cons] at *
      omega
    · rw [Option.map_eq_some_iff] at h
      obtain ⟨⟨b, a⟩, hc, he⟩ := h
      simp only [Prod.mk.injEq] at he
      obtain ⟨rfl, rfl⟩ := he
      have := ih hc
      simp only [List.length_cons]
      omega

/-- A cut at a mark loses nothing but the mark. -/
theorem cut?_eq_some {mark t before after : Text} (h : cut? t mark = some (before, after)) :
    t = before ++ mark ++ after := by
  induction t generalizing before with
  | nil =>
    simp only [cut?] at h
    split at h
    · rename_i hm
      simp only [Option.some.injEq, Prod.mk.injEq] at h
      obtain ⟨rfl, rfl⟩ := h
      simp [List.isEmpty_iff.1 hm]
    · simp at h
  | cons c t ih =>
    simp only [cut?] at h
    split at h
    · rename_i hp
      simp only [Option.some.injEq, Prod.mk.injEq] at h
      obtain ⟨rfl, rfl⟩ := h
      obtain ⟨r, hr⟩ := List.isPrefixOf_iff_prefix.1 hp
      rw [← hr]
      simp
    · rw [Option.map_eq_some_iff] at h
      obtain ⟨⟨b, a⟩, hc, he⟩ := h
      simp only [Prod.mk.injEq] at he
      obtain ⟨rfl, rfl⟩ := he
      simp [ih hc]

theorem length_dropWhile_le (p : Char → Bool) (t : Text) : (t.dropWhile p).length ≤ t.length :=
  (List.dropWhile_suffix p).length_le

/-- A line taken off a text that is not empty leaves a shorter text. -/
theorem afterLine_length_lt {t : Text} (h : t ≠ []) : t.afterLine.length < t.length := by
  cases t with
  | nil => exact absurd rfl h
  | cons c t =>
    simp only [afterLine, List.dropWhile_cons, List.length_drop]
    split
    · have := length_dropWhile_le (· != '\n') t
      simp only [List.length_cons]
      omega
    · simp

end Text

end CircuitHub

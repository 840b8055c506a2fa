import CircuitHub.Text.Utf8

/-!
# Cursors in a text

A cursor is a number of bytes, and stands between two characters of a text where it is the size of a
beginning of the text (`Text.HasCursor`). The text is then parted at the cursor without loss: the
two parts that are taken by bytes are those before and after it (`Text.takeBytes_append_left`,
`Text.dropBytes_append_left`).

Text is cut only at cursors: elsewhere a cut would part a character, and has no result
(`Text.between?`, `Text.putIn?`, `Text.without?`).

* `Text.append_inj_of_byteSize`: a cursor parts a text in one way only;
* `Text.between?_append`: what is cut out of a text between two cursors stands there.
-/

namespace CircuitHub.Text

/-! ## Sizes -/

@[simp] theorem byteSize_nil : byteSize [] = 0 := rfl

theorem foldl_byteSize (t : Text) (n : Nat) :
    t.foldl (fun n c => n + c.utf8Size) n = n + t.byteSize := by
  induction t generalizing n with
  | nil => rfl
  | cons c t ih =>
    rw [byteSize, List.foldl_cons, List.foldl_cons, ih, ih, Nat.zero_add, Nat.add_assoc]

@[simp] theorem byteSize_cons (c : Char) (t : Text) :
    byteSize (c :: t) = c.utf8Size + byteSize t := by
  rw [byteSize, List.foldl_cons, foldl_byteSize, Nat.zero_add]

@[simp] theorem byteSize_append (a b : Text) : byteSize (a ++ b) = byteSize a + byteSize b := by
  induction a with
  | nil => simp
  | cons c a ih => simp [ih, Nat.add_assoc]

@[simp] theorem byteSize_reverse (t : Text) : byteSize t.reverse = byteSize t := by
  induction t with
  | nil => rfl
  | cons c t ih => simp [ih, Nat.add_comm]

@[simp] theorem byteSize_eq_zero {t : Text} : t.byteSize = 0 ↔ t = [] := by
  cases t with
  | nil => simp
  | cons c t =>
    have := c.utf8Size_pos
    simp only [byteSize_cons, reduceCtorEq, iff_false]
    omega

/-! ## Parts -/

theorem takeBytes_zero (t : Text) : t.takeBytes 0 = [] := by
  cases t with
  | nil => rfl
  | cons c t => rw [takeBytes, if_neg (Nat.not_le.2 c.utf8Size_pos)]

theorem dropBytes_zero (t : Text) : t.dropBytes 0 = t := by
  cases t with
  | nil => rfl
  | cons c t => rw [dropBytes, if_neg (Nat.not_le.2 c.utf8Size_pos)]

/-- What comes before a cursor, and possibly more, is taken as a whole. -/
theorem takeBytes_append_add (a b : Text) (n : Nat) :
    (a ++ b).takeBytes (a.byteSize + n) = a ++ b.takeBytes n := by
  induction a with
  | nil => rw [byteSize_nil, Nat.zero_add]; rfl
  | cons c a ih =>
    rw [List.cons_append, takeBytes, byteSize_cons, if_pos (by omega),
      show c.utf8Size + byteSize a + n - c.utf8Size = byteSize a + n by omega, ih]
    rfl

theorem dropBytes_append_add (a b : Text) (n : Nat) :
    (a ++ b).dropBytes (a.byteSize + n) = b.dropBytes n := by
  induction a with
  | nil => rw [byteSize_nil, Nat.zero_add]; rfl
  | cons c a ih =>
    rw [List.cons_append, dropBytes, byteSize_cons, if_pos (by omega),
      show c.utf8Size + byteSize a + n - c.utf8Size = byteSize a + n by omega, ih]

@[simp] theorem takeBytes_append_left (a b : Text) : (a ++ b).takeBytes a.byteSize = a := by
  simpa [takeBytes_zero] using takeBytes_append_add a b 0

@[simp] theorem dropBytes_append_left (a b : Text) : (a ++ b).dropBytes a.byteSize = b := by
  simpa [dropBytes_zero] using dropBytes_append_add a b 0

/-! ## Cursors -/

/-- The cursor stands between two characters of the text. -/
def HasCursor (t : Text) (cursor : Nat) : Prop :=
  ∃ before after, t = before ++ after ∧ cursor = before.byteSize

/-- A cursor parts a text in one way only. -/
theorem append_inj_of_byteSize {a b a' b' : Text} (h : a ++ b = a' ++ b')
    (hsize : a.byteSize = a'.byteSize) : a = a' ∧ b = b' := by
  have hbefore := takeBytes_append_left a b
  have hafter := dropBytes_append_left a b
  rw [h, hsize] at hbefore hafter
  exact ⟨hbefore.symm.trans (takeBytes_append_left a' b'),
    hafter.symm.trans (dropBytes_append_left a' b')⟩

theorem hasCursor_byteSize (t : Text) : t.HasCursor t.byteSize :=
  ⟨t, [], (List.append_nil t).symm, rfl⟩

variable {t : Text} {cursor : Nat}

theorem HasCursor.le_byteSize (h : t.HasCursor cursor) : cursor ≤ t.byteSize := by
  obtain ⟨before, after, rfl, rfl⟩ := h
  rw [byteSize_append]
  exact Nat.le_add_right _ _

/-- A number of bytes is a cursor exactly if so many bytes of the text are whole characters. -/
theorem hasCursor_iff : t.HasCursor cursor ↔ (t.takeBytes cursor).byteSize = cursor := by
  constructor
  · rintro ⟨before, after, rfl, rfl⟩
    rw [takeBytes_append_left]
  · exact fun h => ⟨_, _, (takeBytes_append_dropBytes t cursor).symm, h.symm⟩

instance (t : Text) (cursor : Nat) : Decidable (t.HasCursor cursor) :=
  decidable_of_iff _ hasCursor_iff.symm

/-- Of two beginnings of a text, the shorter one is how the longer one begins. -/
theorem prefix_of_byteSize_le {a b a' b' : Text} (h : a ++ b = a' ++ b')
    (hsize : a.byteSize ≤ a'.byteSize) : a <+: a' := by
  rcases List.append_eq_append_iff.1 h with ⟨part, ha', -⟩ | ⟨part, ha, -⟩
  · exact ⟨part, ha'.symm⟩
  · rw [ha, byteSize_append] at hsize
    obtain rfl : part = [] := byteSize_eq_zero.1 (by omega)
    exact ⟨[], by rw [ha, List.append_nil, List.append_nil]⟩

/-! ## Cuts -/

/-- The text can be cut from the first place up to the second without cutting a character. -/
structure IsCut (t : Text) (start stop : Nat) : Prop where
  hasStart : t.HasCursor start
  hasStop : t.HasCursor stop
  le : start ≤ stop

instance (t : Text) (start stop : Nat) : Decidable (t.IsCut start stop) :=
  decidable_of_iff (t.HasCursor start ∧ t.HasCursor stop ∧ start ≤ stop)
    ⟨fun ⟨h₁, h₂, h₃⟩ => ⟨h₁, h₂, h₃⟩, fun ⟨h₁, h₂, h₃⟩ => ⟨h₁, h₂, h₃⟩⟩

theorem isCut_append (before part after : Text) :
    (before ++ part ++ after).IsCut before.byteSize (before ++ part).byteSize where
  hasStart := ⟨before, part ++ after, List.append_assoc _ _ _, rfl⟩
  hasStop := ⟨before ++ part, after, rfl, rfl⟩
  le := by
    rw [byteSize_append]
    exact Nat.le_add_right _ _

/-- The text between two places. There is none if a character were cut. -/
def between? (t : Text) (start stop : Nat) : Option Text :=
  if t.IsCut start stop then some ((t.takeBytes stop).dropBytes start) else none

/-- The text with another put in at a place. There is none if a character were cut. -/
def putIn? (t : Text) (place : Nat) (new : Text) : Option Text :=
  if t.HasCursor place then some (t.takeBytes place ++ new ++ t.dropBytes place) else none

/-- The text without what stands between two places. There is none if a character were cut. -/
def without? (t : Text) (start stop : Nat) : Option Text :=
  if t.IsCut start stop then some (t.takeBytes start ++ t.dropBytes stop) else none

theorem between?_append (before part after : Text) :
    (before ++ part ++ after).between? before.byteSize (before ++ part).byteSize = some part := by
  rw [between?, if_pos (isCut_append before part after), takeBytes_append_left,
    dropBytes_append_left]

/-- What is cut out of a text stands there. -/
theorem exists_append_of_between? {start stop : Nat} {part : Text}
    (h : t.between? start stop = some part) :
    ∃ before after, t = before ++ part ++ after ∧ start = before.byteSize ∧
      stop = (before ++ part).byteSize := by
  rw [between?] at h
  split at h
  · rename_i hcut
    obtain ⟨before, after, ht, rfl⟩ := hcut.hasStart
    obtain ⟨left, right, ht', rfl⟩ := hcut.hasStop
    obtain ⟨mid, rfl⟩ := prefix_of_byteSize_le (ht.symm.trans ht') hcut.le
    rw [ht', takeBytes_append_left, dropBytes_append_left, Option.some.injEq] at h
    obtain rfl := h
    exact ⟨before, right, ht', rfl, rfl⟩
  · exact nomatch h

example : between? ['é', 'a'] 2 3 = some ['a'] := by decide

example : between? ['é', 'a'] 1 3 = none := by decide

/-- What stands before a cursor. -/
theorem HasCursor.between?_zero (h : t.HasCursor cursor) :
    t.between? 0 cursor = some (t.takeBytes cursor) := by
  obtain ⟨before, after, rfl, rfl⟩ := h
  rw [takeBytes_append_left]
  exact between?_append [] before after

/-- What stands after a cursor. -/
theorem HasCursor.between?_byteSize (h : t.HasCursor cursor) :
    t.between? cursor t.byteSize = some (t.dropBytes cursor) := by
  obtain ⟨before, after, rfl, rfl⟩ := h
  rw [dropBytes_append_left]
  simpa using between?_append before after []

end CircuitHub.Text

import CircuitHub.Proofs.Schematic.Numerals
import CircuitHub.Proofs.Schematic.Tokens
import CircuitHub.Proofs.Text.Bytes

/-!
# Path data byte by byte

Path data is read over its bytes, and what stands between two of them is cut out of the text. A cut
within a character is a fault, and so are a place past the end and a reading that stays where it is
(`scan?`, `tokensAt?`). All that path data is made of belongs to the basic alphabet, so that no byte
of another character is taken for it (`isForeign_of_le`): the bytes begin with the number that the
characters begin with (`takeNumber?_byteChars`), and all cuts are made at cursors.

* `scan?_append`: what is found at a cursor is what the text goes on with from there;
* `scan?_cases`: it is a mistake there, or the place moves on to a later cursor;
* `tokens?_eq`: reading over bytes has no fault and gives the tokens of the characters;
* `straysAt_of_tokens`: the only mistake is a character with which no number, no command and no
  separator begins.
-/

namespace CircuitHub.Path

open Text (byteChars byteChars_cons_cases)

/-! ## Characters beyond the basic alphabet -/

/-- The character is nothing that path data is made of. -/
structure IsForeign (c : Char) : Prop where
  not_separator : isSeparator c = false
  not_letter : isCommandLetter c = false
  not_sign : c ≠ '+' ∧ c ≠ '-'
  not_digit : c.isDigit = false
  not_point : c ≠ '.'
  not_exponent : c ≠ 'e' ∧ c ≠ 'E'

theorem isForeign_of_le {c : Char} (h : 0x80 ≤ c.toNat) : IsForeign c := by
  have hne (d : Char) (hd : d.toNat < 0x80) : c ≠ d := by
    rintro rfl
    omega
  have hsize : c.utf8Size ≠ 1 := by
    rw [Text.utf8Size_eq]
    split_ifs <;> omega
  exact {
    not_separator := Bool.eq_false_iff.2 fun hc => hsize (utf8Size_of_isSeparator hc)
    not_letter := Bool.eq_false_iff.2 fun hc => hsize (utf8Size_of_isCommandLetter hc)
    not_sign := ⟨hne '+' (by decide), hne '-' (by decide)⟩
    not_digit := Bool.eq_false_iff.2 fun hc => by
      have hlast : c.toNat ≤ 57 := (Char.isDigit_iff_toNat.1 hc).2
      omega
    not_point := hne '.' (by decide)
    not_exponent := ⟨hne 'e' (by decide), hne 'E' (by decide)⟩ }

/-- The first byte of a text is a separator or a letter exactly if the first character is. -/
theorem exists_byteChars_cons (c : Char) (t : Text) :
    ∃ d tail, byteChars (c :: t) = d :: tail ∧ isSeparator d = isSeparator c ∧
      isCommandLetter d = isCommandLetter c ∧ (isCommandLetter c = true → d = c) := by
  rcases byteChars_cons_cases c t with heq | ⟨hc, d, tail, hd, heq⟩
  · exact ⟨c, _, heq, rfl, rfl, fun _ => rfl⟩
  · have hc := isForeign_of_le hc
    have hd := isForeign_of_le hd
    refine ⟨d, tail, heq, ?_, ?_, fun hletter => ?_⟩
    · rw [hc.not_separator, hd.not_separator]
    · rw [hc.not_letter, hd.not_letter]
    · rw [hc.not_letter] at hletter
      exact nomatch hletter

/-! ## Numbers in bytes -/

theorem splitSign_byteChars (t : Text) :
    splitSign t.byteChars = ((splitSign t).1, (splitSign t).2.byteChars) := by
  cases t with
  | nil => rfl
  | cons c t =>
    rcases byteChars_cons_cases c t with heq | ⟨hc, d, tail, hd, heq⟩
    · rw [heq, splitSign, splitSign]
      split
      · rfl
      · rw [heq]
    · obtain ⟨hcplus, hcminus⟩ := (isForeign_of_le hc).not_sign
      obtain ⟨hdplus, hdminus⟩ := (isForeign_of_le hd).not_sign
      simp [heq, splitSign, hcplus, hcminus, hdplus, hdminus]

theorem splitDigits_byteChars (seen : Bool) (t : Text) :
    splitDigits seen t.byteChars = ((splitDigits seen t).1, (splitDigits seen t).2.byteChars) := by
  induction t generalizing seen with
  | nil => rfl
  | cons c t ih =>
    rcases byteChars_cons_cases c t with heq | ⟨hc, d, tail, hd, heq⟩
    · rw [heq, splitDigits, splitDigits, ih, ih]
      split
      · rfl
      · split
        · rfl
        · rw [heq]
    · simp [heq, splitDigits, (isForeign_of_le hc).not_digit, (isForeign_of_le hc).not_point,
        (isForeign_of_le hd).not_digit, (isForeign_of_le hd).not_point]

theorem takeWhile_byteChars (t : Text) :
    t.byteChars.takeWhile Char.isDigit = t.takeWhile Char.isDigit := by
  induction t with
  | nil => rfl
  | cons c t ih =>
    rcases byteChars_cons_cases c t with heq | ⟨hc, d, tail, hd, heq⟩
    · rw [heq, List.takeWhile_cons, List.takeWhile_cons, ih]
    · rw [heq, List.takeWhile_cons_of_neg (by simp [(isForeign_of_le hd).not_digit]),
        List.takeWhile_cons_of_neg (by simp [(isForeign_of_le hc).not_digit])]

theorem dropWhile_byteChars (t : Text) :
    t.byteChars.dropWhile Char.isDigit = byteChars (t.dropWhile Char.isDigit) := by
  induction t with
  | nil => rfl
  | cons c t ih =>
    rcases byteChars_cons_cases c t with heq | ⟨hc, d, tail, hd, heq⟩
    · rw [heq, List.dropWhile_cons, List.dropWhile_cons, ih]
      split
      · rfl
      · exact heq.symm
    · rw [heq, List.dropWhile_cons_of_neg (by simp [(isForeign_of_le hd).not_digit]),
        List.dropWhile_cons_of_neg (by simp [(isForeign_of_le hc).not_digit]), heq]

theorem splitExponent_byteChars (t : Text) :
    splitExponent t.byteChars = ((splitExponent t).1, (splitExponent t).2.byteChars) := by
  cases t with
  | nil => rfl
  | cons c t =>
    rcases byteChars_cons_cases c t with heq | ⟨hc, d, tail, hd, heq⟩
    · rw [heq, splitExponent, splitExponent]
      split
      · simp only [splitSign_byteChars, takeWhile_byteChars, dropWhile_byteChars]
        split
        · rw [heq]
        · rfl
      · rw [heq]
    · obtain ⟨hc, hcE⟩ := (isForeign_of_le hc).not_exponent
      obtain ⟨hd, hdE⟩ := (isForeign_of_le hd).not_exponent
      simp [heq, splitExponent, hc, hcE, hd, hdE]

/-- The bytes of a text begin with the number that the text begins with. -/
theorem takeNumber?_byteChars (t : Text) :
    takeNumber? t.byteChars =
      (takeNumber? t).map fun (number, rest) => (number, rest.byteChars) := by
  simp only [takeNumber?, splitSign_byteChars, splitDigits_byteChars, splitExponent_byteChars]
  split <;> rfl

variable {t number rest data : Text}

/-- A number is as many bytes as characters. -/
theorem length_eq_byteSize (h : takeNumber? t = some (number, rest)) :
    number.length = number.byteSize := by
  have hbytes : takeNumber? t.byteChars = some (number, rest.byteChars) := by
    rw [takeNumber?_byteChars, h]
    rfl
  have happ := takeNumber?_append hbytes
  rw [← takeNumber?_append h, Text.byteChars_append] at happ
  rw [← Text.length_byteChars, ← List.append_cancel_right happ]

/-- A number that is found has the first character of the text. -/
theorem exists_cons_of_takeNumber? {c : Char} (h : takeNumber? (c :: t) = some (number, rest)) :
    ∃ part, number = c :: part := by
  have happ := takeNumber?_append h
  cases number with
  | nil =>
    have hshorter := takeNumber?_length_lt h
    rw [← happ] at hshorter
    exact absurd hshorter (Nat.lt_irrefl _)
  | cons d part => exact ⟨part, by rw [(List.cons.inj happ).1]⟩

/-- A number that is found has a value. -/
theorem exists_readFloat?_of_takeNumber? (h : takeNumber? t = some (number, rest)) :
    ∃ x, readFloat? number = some x := by
  obtain ⟨d, hd⟩ := exists_read?_of_takeNumber? h
  exact ⟨d.toFloat, by rw [readFloat?, hd]⟩

/-! ## One look at the data -/

/-- What is found at a place in the bytes of path data, and the place to go on from. A separator is
    no token. There is no answer past the end and where a character would be cut. -/
def scan? (data : Text) (place : Nat) : Option (Except PathError (Option Token × Nat)) :=
  match data.byteChars.drop place with
  | [] => none
  | c :: bytes =>
    if isSeparator c then some (.ok (none, place + 1))
    else if isCommandLetter c then some (.ok (some (.command c), place + 1))
    else
      match takeNumber? (c :: bytes) with
      | none => (data.between? place data.byteSize).map fun after =>
          .error (.unexpected (after.head?.getD ' ') place)
      | some (number, _) => (data.between? place (place + number.length)).map fun part =>
          match readFloat? part with
          | none => .error (.valueless part)
          | some x => .ok (some (.number x), place + number.length)

/-- What is found at a cursor is what the text goes on with from there. -/
theorem scan?_append (before : Text) (c : Char) (t : Text) :
    scan? (before ++ c :: t) before.byteSize = some
      (if isSeparator c then .ok (none, before.byteSize + 1)
      else if isCommandLetter c then .ok (some (.command c), before.byteSize + 1)
      else
        match takeNumber? (c :: t) with
        | none => .error (.unexpected c before.byteSize)
        | some (number, _) =>
          match readFloat? number with
          | none => .error (.valueless number)
          | some x => .ok (some (.number x), before.byteSize + number.byteSize)) := by
  obtain ⟨d, tail, hbytes, hsep, hletter, hsame⟩ := exists_byteChars_cons c t
  rw [scan?, Text.drop_byteChars, hbytes]
  simp only [hsep, hletter]
  split
  · rfl
  · split
    · rename_i hc
      rw [hsame hc]
    · rw [← hbytes, takeNumber?_byteChars]
      cases hnumber : takeNumber? (c :: t) with
      | none =>
        have hcut := Text.between?_append before (c :: t) []
        rw [List.append_nil] at hcut
        simp only [Option.map_none, hcut]
        rfl
      | some found =>
        obtain ⟨number, rest⟩ := found
        -- The number stands in the text, and as many bytes after the cursor as it has characters.
        have hcut := Text.between?_append before number rest
        rw [List.append_assoc, takeNumber?_append hnumber, Text.byteSize_append] at hcut
        simp only [Option.map_some, length_eq_byteSize hnumber, hcut]

/-- A character of the data with which no separator, no command and no decimal number begins, and
    where it stands. -/
def StraysAt (data : Text) (c : Char) (place : Nat) : Prop :=
  ∃ before after, data = before ++ c :: after ∧ place = before.byteSize ∧
    isSeparator c = false ∧ isCommandLetter c = false ∧
    ∀ number rest, c :: after = number ++ rest → Decimal.read? number = none

theorem straysAt_append {before : Text} {c : Char} (hsep : ¬isSeparator c = true)
    (hc : ¬isCommandLetter c = true) (hnone : takeNumber? (c :: t) = none) :
    StraysAt (before ++ c :: t) c before.byteSize :=
  ⟨before, t, rfl, rfl, Bool.eq_false_iff.2 hsep, Bool.eq_false_iff.2 hc,
    fun _ _ happ => read?_eq_none_of_takeNumber? (happ ▸ hnone)⟩

variable {place : Nat}

/-- Before the end of the data, a look at it finds a character that strays there, or the place moves
    on to a later cursor. -/
theorem scan?_cases (h : data.HasCursor place) (hlt : place < data.byteSize) :
    (∃ c, scan? data place = some (.error (.unexpected c place)) ∧ StraysAt data c place) ∨
      ∃ token? next, scan? data place = some (.ok (token?, next)) ∧ place < next ∧
        data.HasCursor next := by
  obtain ⟨before, after, rfl, rfl⟩ := h
  cases after with
  | nil => simp at hlt
  | cons c t =>
    rw [scan?_append]
    by_cases hsep : isSeparator c = true
    · rw [if_pos hsep]
      exact .inr ⟨none, _, rfl, Nat.lt_succ_self _, before ++ [c], t, by simp,
        by simp [utf8Size_of_isSeparator hsep]⟩
    · by_cases hc : isCommandLetter c = true
      · rw [if_neg hsep, if_pos hc]
        exact .inr ⟨some (.command c), _, rfl, Nat.lt_succ_self _, before ++ [c], t, by simp,
          by simp [utf8Size_of_isCommandLetter hc]⟩
      · rw [if_neg hsep, if_neg hc]
        cases hnumber : takeNumber? (c :: t) with
        | none => exact .inl ⟨c, rfl, straysAt_append hsep hc hnumber⟩
        | some found =>
          obtain ⟨number, rest⟩ := found
          obtain ⟨x, hx⟩ := exists_readFloat?_of_takeNumber? hnumber
          obtain ⟨part, rfl⟩ := exists_cons_of_takeNumber? hnumber
          have hpast : 0 < Text.byteSize (c :: part) := by
            have := c.utf8Size_pos
            rw [Text.byteSize_cons]
            omega
          simp only [hx]
          refine .inr ⟨_, _, rfl, Nat.lt_add_of_pos_right hpast, before ++ c :: part, rest, ?_, ?_⟩
          · rw [List.append_assoc, takeNumber?_append hnumber]
          · rw [Text.byteSize_append]

/-! ## All tokens -/

/-- The tokens from a place in the bytes of path data on. There is no answer where a look at the data
    has none or stays where it is. -/
def tokensAt? (data : Text) (place : Nat) : Option (Except PathError (List Token)) :=
  if _h : place < data.byteSize then
    match scan? data place with
    | none => none
    | some (.error e) => some (.error e)
    | some (.ok (token?, next)) =>
      if _h : place < next then
        (tokensAt? data next).map fun tokens => tokens.map (token?.toList ++ ·)
      else none
  else some (.ok [])
termination_by data.byteSize - place

/-- The tokens of path data, by its bytes. -/
def tokens? (data : Text) : Option (Except PathError (List Token)) := tokensAt? data 0

theorem tokensAt?_byteSize (data : Text) : tokensAt? data data.byteSize = some (.ok []) := by
  rw [tokensAt?, dif_neg (Nat.lt_irrefl _)]

theorem byteSize_lt_append_cons (before : Text) (c : Char) (t : Text) :
    before.byteSize < (before ++ c :: t).byteSize := by
  have := c.utf8Size_pos
  rw [Text.byteSize_append, Text.byteSize_cons]
  omega

variable {before : Text} {c : Char}

/-- A mistake that is found at a cursor ends the reading. -/
theorem tokensAt?_error {e : PathError}
    (hscan : scan? (before ++ c :: t) before.byteSize = some (.error e)) :
    tokensAt? (before ++ c :: t) before.byteSize = some (.error e) := by
  rw [tokensAt?, dif_pos (byteSize_lt_append_cons before c t)]
  simp only [hscan]

/-- What is found at a cursor comes before what is found behind it. -/
theorem tokensAt?_ok {token? : Option Token} {part : Text} {stop : Nat}
    {tokens : Except PathError (List Token)} (hpart : c :: part ++ rest = c :: t)
    (hstop : (before ++ c :: part).byteSize = stop)
    (hscan : scan? (before ++ c :: t) before.byteSize = some (.ok (token?, stop)))
    (hrest : tokensAt? (before ++ c :: part ++ rest) stop = some tokens) :
    tokensAt? (before ++ c :: t) before.byteSize = some (tokens.map (token?.toList ++ ·)) := by
  rw [List.append_assoc, hpart] at hrest
  rw [tokensAt?, dif_pos (byteSize_lt_append_cons before c t)]
  simp only [hscan]
  rw [dif_pos (hstop ▸ byteSize_lt_append_cons before c part), hrest]
  rfl

/-- From a cursor on, the bytes give the tokens that the text has from there. -/
theorem tokensAt?_append (before after : Text) :
    tokensAt? (before ++ after) before.byteSize = some (tokensFrom before.byteSize after) := by
  generalize hplace : before.byteSize = place
  fun_induction tokensFrom place after generalizing before with
  | case1 =>
    rw [← hplace, List.append_nil]
    exact tokensAt?_byteSize before
  | case2 place c t hc ih =>
    subst hplace
    have hscan := scan?_append before c t
    rw [if_pos hc] at hscan
    have hstop : (before ++ [c]).byteSize = before.byteSize + 1 := by
      simp [utf8Size_of_isSeparator hc]
    have htokens := tokensAt?_ok (List.singleton_append) hstop hscan (ih (before ++ [c]) hstop)
    -- What is no token adds nothing to the tokens that come after it.
    rw [htokens]
    cases tokensFrom (before.byteSize + 1) t <;> rfl
  | case3 place c t hsep hc ih =>
    subst hplace
    have hscan := scan?_append before c t
    rw [if_neg hsep, if_pos hc] at hscan
    have hstop : (before ++ [c]).byteSize = before.byteSize + 1 := by
      simp [utf8Size_of_isCommandLetter hc]
    exact tokensAt?_ok List.singleton_append hstop hscan (ih (before ++ [c]) hstop)
  | case4 place c t hsep hc hnone =>
    subst hplace
    have hscan := scan?_append before c t
    rw [if_neg hsep, if_neg hc] at hscan
    simp only [hnone] at hscan
    exact tokensAt?_error hscan
  | case5 place c t hsep hc number rest hnumber hvalue =>
    subst hplace
    have hscan := scan?_append before c t
    rw [if_neg hsep, if_neg hc] at hscan
    simp only [hnumber, hvalue] at hscan
    exact tokensAt?_error hscan
  | case6 place c t hsep hc number rest hnumber x hvalue ih =>
    subst hplace
    have hscan := scan?_append before c t
    rw [if_neg hsep, if_neg hc] at hscan
    simp only [hnumber, hvalue] at hscan
    obtain ⟨part, rfl⟩ := exists_cons_of_takeNumber? hnumber
    have hstop := Text.byteSize_append before (c :: part)
    exact tokensAt?_ok (takeNumber?_append hnumber) hstop hscan (ih (before ++ c :: part) hstop)

/-- Reading over bytes has no fault, and gives the tokens of the characters. -/
theorem tokens?_eq (data : Text) : tokens? data = some (tokens data) :=
  tokensAt?_append [] data

/-- The only mistake that reading finds is a character that strays. -/
theorem straysAt_of_tokensAt? {e : PathError} (hcursor : data.HasCursor place)
    (h : tokensAt? data place = some (.error e)) :
    ∃ c place', e = .unexpected c place' ∧ StraysAt data c place' := by
  fun_induction tokensAt? data place with
  | case1 place hlt hscan => exact nomatch h
  | case2 place hlt e' hscan =>
    obtain ⟨c, hfound, hstrays⟩ | ⟨_, _, hfound, -⟩ := scan?_cases hcursor hlt
    · cases hscan.symm.trans hfound
      cases h
      exact ⟨c, place, rfl, hstrays⟩
    · exact nomatch hscan.symm.trans hfound
  | case3 place hlt token? next hscan hnext ih =>
    obtain ⟨c, hfound, hstrays⟩ | ⟨_, _, hfound, -, hcursor'⟩ := scan?_cases hcursor hlt
    · exact nomatch hscan.symm.trans hfound
    · cases hscan.symm.trans hfound
      obtain ⟨read, hread, hmap⟩ := Option.map_eq_some_iff.1 h
      cases read with
      | error => exact ih hcursor' (hread.trans (congrArg some hmap))
      | ok => exact nomatch hmap
  | case4 => exact nomatch h
  | case5 => exact nomatch h

theorem straysAt_of_tokens {e : PathError} (h : tokens data = .error e) :
    ∃ c place, e = .unexpected c place ∧ StraysAt data c place :=
  straysAt_of_tokensAt? ⟨[], data, rfl, rfl⟩ ((tokens?_eq data).trans (congrArg some h))

end CircuitHub.Path

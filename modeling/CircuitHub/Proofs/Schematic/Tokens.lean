import CircuitHub.Proofs.Result
import CircuitHub.Proofs.Text.Cursor
import CircuitHub.Proofs.Text.Scan
import CircuitHub.Schematic.PathData

/-!
# Tokens and separators

A number reaches as far as it can, and to know where it ends one has to look past it: at a point, at
the letter of an exponent, at a sign. A separator is none of these, so that it ends a number as the
end of the data does (`takeNumber?_append_separator`). What stands before a separator is therefore
read as if nothing followed, and what stands after it as if nothing came before.

* `tokensFrom_append_separator`: the tokens of data with a separator in it;
* `tokensFrom_add`: where the data begins shows in the place of a mistake and nowhere else;
* `tokens_append_eq`: from both, the tokens of two parts and of the whole;
* `tokensRead_eq`: the tokens up to the first mistake are all of them, if there is none.
-/

namespace CircuitHub.Path

/-! ## Separators -/

variable {s : Char}

theorem isSeparator_cases (hs : isSeparator s = true) :
    s = ' ' ∨ s = '\t' ∨ s = '\n' ∨ s = '\r' ∨ s = '\x0c' ∨ s = ',' := by
  simpa [isSeparator, or_assoc] using hs

/-- No part of a number is a separator: neither a sign, a digit, a point nor the letter of an
    exponent. -/
theorem not_numeral_of_isSeparator (hs : isSeparator s = true) :
    (s ≠ '+' ∧ s ≠ '-') ∧ s.isDigit = false ∧ s ≠ '.' ∧ s ≠ 'e' ∧ s ≠ 'E' := by
  rcases isSeparator_cases hs with rfl | rfl | rfl | rfl | rfl | rfl <;> decide

theorem utf8Size_of_isSeparator (hs : isSeparator s = true) : s.utf8Size = 1 := by
  rcases isSeparator_cases hs with rfl | rfl | rfl | rfl | rfl | rfl <;> decide

theorem utf8Size_of_isCommandLetter {c : Char} (hc : isCommandLetter c = true) :
    c.utf8Size = 1 := by
  rw [isCommandLetter, Bool.and_eq_true, Bool.and_eq_true] at hc
  have hval : c.val ≤ 0x7f := by
    rcases Bool.or_eq_true_iff.1 hc.1.1 with hupper | hlower
    · exact UInt32.le_trans (of_decide_eq_true hupper).2 (by decide)
    · exact UInt32.le_trans (of_decide_eq_true (Bool.and_eq_true_iff.1 hlower).2) (by decide)
  exact if_pos hval

/-! ## Numbers before a separator -/

theorem splitSign_append_separator (hs : isSeparator s = true) (t u : Text) :
    splitSign (t ++ s :: u) = ((splitSign t).1, (splitSign t).2 ++ s :: u) := by
  obtain ⟨⟨hplus, hminus⟩, -⟩ := not_numeral_of_isSeparator hs
  cases t with
  | nil => simp [splitSign, hplus, hminus]
  | cons c t =>
    simp only [List.cons_append, splitSign]
    split <;> rfl

theorem splitDigits_append_separator (hs : isSeparator s = true) (seen : Bool) (t u : Text) :
    splitDigits seen (t ++ s :: u) = ((splitDigits seen t).1, (splitDigits seen t).2 ++ s :: u) := by
  obtain ⟨-, hdigit, hpoint, -⟩ := not_numeral_of_isSeparator hs
  induction t generalizing seen with
  | nil => simp [splitDigits, hdigit, hpoint]
  | cons c t ih =>
    simp only [List.cons_append, splitDigits]
    split
    · rw [ih]
    · split
      · rw [ih]
      · rfl

theorem splitExponent_append_separator (hs : isSeparator s = true) (t u : Text) :
    splitExponent (t ++ s :: u) = ((splitExponent t).1, (splitExponent t).2 ++ s :: u) := by
  obtain ⟨-, hdigit, -, he, hE⟩ := not_numeral_of_isSeparator hs
  cases t with
  | nil => simp [splitExponent, he, hE]
  | cons c t =>
    -- The digits of the exponent end at the separator, and so there are none after it.
    have htake := Text.takeWhile_append_stop hdigit (splitSign t).2 u
    have hdrop := Text.dropWhile_append_stop hdigit (splitSign t).2 u
    simp only [List.cons_append, splitExponent, splitSign_append_separator hs, htake, hdrop]
    split
    · split <;> rfl
    · rfl

/-- A separator ends a number as the end of the data does. -/
theorem takeNumber?_append_separator (hs : isSeparator s = true) (t u : Text) :
    takeNumber? (t ++ s :: u) = (takeNumber? t).map fun (number, rest) => (number, rest ++ s :: u) := by
  simp only [takeNumber?, splitSign_append_separator hs, splitDigits_append_separator hs,
    splitExponent_append_separator hs]
  split <;> rfl

/-! ## Tokens before and after a separator -/

/-- What is neither a separator nor the letter of a command has to begin a number. -/
theorem tokensFrom_cons {c : Char} (hsep : ¬isSeparator c = true) (hc : ¬isCommandLetter c = true)
    (offset : Nat) (t : Text) :
    tokensFrom offset (c :: t) =
      match takeNumber? (c :: t) with
      | none => .error (.unexpected c offset)
      | some (number, rest) =>
        match readFloat? number with
        | none => .error (.valueless number)
        | some x => (tokensFrom (offset + number.byteSize) rest).map (.number x :: ·) := by
  rw [tokensFrom, if_neg hsep, if_neg hc]
  split
  · rename_i hnone
    rw [hnone]
  · rename_i number rest hsome
    cases hfloat : readFloat? number with
    | none => simp only [hsome, hfloat]
    | some x => simp only [hsome, hfloat]

/-- One more token before those of two readings. -/
theorem map_cons_bind {α ε : Type} (x : α) (first second : Except ε (List α)) :
    (first.bind fun xs => second.map (xs ++ ·)).map (x :: ·) =
      (first.map (x :: ·)).bind fun xs => second.map (xs ++ ·) := by
  cases first <;> cases second <;> rfl

/-- The tokens of data with a separator in it are those before it and those after it. A mistake
    before the separator is found first. -/
theorem tokensFrom_append_separator (hs : isSeparator s = true) (offset : Nat) (a b : Text) :
    tokensFrom offset (a ++ s :: b) =
      (tokensFrom offset a).bind fun before =>
        (tokensFrom (offset + a.byteSize + 1) b).map (before ++ ·) := by
  fun_induction tokensFrom offset a with
  | case1 offset =>
    rw [List.nil_append, tokensFrom, if_pos hs, Text.byteSize_nil, Nat.add_zero]
    cases tokensFrom (offset + 1) b <;> rfl
  | case2 offset c t hc ih =>
    rw [List.cons_append, tokensFrom, if_pos hc, ih, Text.byteSize_cons, utf8Size_of_isSeparator hc,
      Nat.add_assoc offset 1]
  | case3 offset c t hsep hc ih =>
    rw [List.cons_append, tokensFrom, if_neg hsep, if_pos hc, ih, Text.byteSize_cons,
      utf8Size_of_isCommandLetter hc, Nat.add_assoc offset 1, map_cons_bind]
  | case4 offset c t hsep hc hnone =>
    have hnext := takeNumber?_append_separator hs (c :: t) b
    rw [hnone, List.cons_append] at hnext
    rw [List.cons_append, tokensFrom_cons hsep hc, hnext]
    rfl
  | case5 offset c t hsep hc number rest hnumber hvalue =>
    have hnext := takeNumber?_append_separator hs (c :: t) b
    rw [hnumber, List.cons_append] at hnext
    rw [List.cons_append, tokensFrom_cons hsep hc, hnext]
    simp only [Option.map_some, hvalue]
    rfl
  | case6 offset c t hsep hc number rest hnumber x hvalue ih =>
    have hnext := takeNumber?_append_separator hs (c :: t) b
    have hsize := congrArg Text.byteSize (takeNumber?_append hnumber)
    rw [hnumber, List.cons_append] at hnext
    rw [List.cons_append, tokensFrom_cons hsep hc, hnext]
    simp only [Option.map_some, hvalue]
    rw [ih, ← hsize, Text.byteSize_append, Nat.add_assoc offset number.byteSize, map_cons_bind]

/-! ## Where data begins -/

/-- The mistake in data that begins `n` bytes later. -/
def PathError.shift (n : Nat) : PathError → PathError
  | .unexpected c offset => .unexpected c (offset + n)
  | e => e

/-- Where the data begins shows in the place of a mistake and nowhere else. -/
theorem tokensFrom_add (offset n : Nat) (data : Text) :
    tokensFrom (offset + n) data = (tokensFrom offset data).mapError (·.shift n) := by
  fun_induction tokensFrom offset data with
  | case1 => rw [tokensFrom]; rfl
  | case2 offset c t hc ih =>
    rw [tokensFrom, if_pos hc, ← ih, Nat.add_right_comm]
  | case3 offset c t hsep hc ih =>
    rw [tokensFrom, if_neg hsep, if_pos hc, Nat.add_right_comm, ih]
    cases tokensFrom (offset + 1) t <;> rfl
  | case4 offset c t hsep hc hnone =>
    rw [tokensFrom_cons hsep hc, hnone]
    rfl
  | case5 offset c t hsep hc number rest hnumber hvalue =>
    rw [tokensFrom_cons hsep hc, hnumber]
    simp only [hvalue]
    rfl
  | case6 offset c t hsep hc number rest hnumber x hvalue ih =>
    rw [tokensFrom_cons hsep hc, hnumber]
    simp only [hvalue]
    rw [Nat.add_right_comm, ih]
    cases tokensFrom (offset + number.byteSize) rest <;> rfl

/-- What stands after a separator is read as if it stood alone, and its mistakes are found where it
    stands in the whole. -/
theorem tokens_append_eq (hs : isSeparator s = true) (a b : Text) :
    tokens (a ++ s :: b) =
      (tokens a).bind fun before =>
        ((tokens b).mapError (·.shift (a.byteSize + 1))).map (before ++ ·) := by
  rw [tokens, tokensFrom_append_separator hs, Nat.add_assoc, tokensFrom_add]
  rfl

/-! ## The first tokens -/

/-- The tokens of path data up to its end or its first mistake. -/
def tokensRead (data : Text) : List Token :=
  match data with
  | [] => []
  | c :: t =>
    if isSeparator c then tokensRead t
    else if isCommandLetter c then .command c :: tokensRead t
    else
      match _h : takeNumber? (c :: t) with
      | none => []
      | some (number, rest) =>
        match readFloat? number with
        | none => []
        | some x => .number x :: tokensRead rest
termination_by data.length
decreasing_by
  · simp
  · simp
  · exact takeNumber?_length_lt _h

/-- If there is no mistake, the tokens up to the first one are all of them. -/
theorem tokensRead_eq {offset : Nat} {data : Text} {ts : List Token}
    (h : tokensFrom offset data = .ok ts) : tokensRead data = ts := by
  fun_induction tokensRead data generalizing offset ts with
  | case1 =>
    rw [tokensFrom] at h
    cases h
    rfl
  | case2 c t hc ih =>
    rw [tokensFrom, if_pos hc] at h
    exact ih h
  | case3 c t hsep hc ih =>
    rw [tokensFrom, if_neg hsep, if_pos hc] at h
    obtain ⟨rest, hrest, rfl⟩ := map_eq_ok_iff.1 h
    rw [ih hrest]
  | case4 c t hsep hc hnone =>
    rw [tokensFrom_cons hsep hc, hnone] at h
    cases h
  | case5 c t hsep hc number rest hnumber hvalue =>
    rw [tokensFrom_cons hsep hc, hnumber] at h
    simp only [hvalue] at h
    cases h
  | case6 c t hsep hc number rest hnumber x hvalue ih =>
    rw [tokensFrom_cons hsep hc, hnumber] at h
    simp only [hvalue] at h
    obtain ⟨ts', hrest, rfl⟩ := map_eq_ok_iff.1 h
    rw [ih hrest]

end CircuitHub.Path

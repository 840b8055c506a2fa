import CircuitHub.Json.Token
import CircuitHub.Proofs.Text.Forms
import Mathlib.Data.List.Chain
import Mathlib.Data.List.TakeWhile

/-!
# Tokens are read back

A token is read back as it was written, if what follows cannot be part of it
(`JsonToken.first?_write`).

* Strings: each character, as it stands in a string, is read as its code point, whether it stands
  for itself or is escaped (`scanString_writeChar`). So a string ends where it was closed, whatever
  text it holds, and holds that text again (`scanString_flatMap_writeChar`).
* Numbers: nothing closes a number, and it is read as far as it can go on. Two numbers must
  therefore not follow each other. All other tokens begin with a character with which no number can
  go on (`Stops`).
-/

namespace CircuitHub

namespace JsonToken

/-! ### Strings -/

theorem scanString_quote (rest : Text) : scanString ('"' :: rest) = some ([], rest) := by
  rw [scanString]

theorem scanString_escape {t rest : Text} {n : Nat} (h : escape? t = some (n, rest)) :
    scanString ('\\' :: t) = (scanString rest).map fun (codes, rest) => (n :: codes, rest) := by
  rw [scanString]
  split
  · simp_all
  · simp_all

theorem scanString_plain {c : Char} (hq : c ≠ '"') (hb : c ≠ '\\') (hc : 0x20 ≤ c.toNat)
    (rest : Text) :
    scanString (c :: rest) =
      (scanString rest).map fun (codes, rest) => (c.toNat :: codes, rest) := by
  rw [scanString]
  · rw [if_neg (by omega)]
  · simpa using hq
  · simpa using hb

/-- The four digits by which a control character is escaped. -/
theorem escape?_hexPair {n : Nat} (h : n < 256) (rest : Text) :
    escape? ("u00" ++ Text.hexPair n ++ rest) = some (n, rest) := by
  have zero : Text.digitIn? 16 '0' = some 0 := by decide
  have pair := Text.natInBase?_hexPair h
  have four : Text.natInBase? 16 ('0' :: '0' :: Text.hexPair n) = some n := by
    simpa [Text.natInBase?, Text.hexPair, zero] using pair
  exact congrArg (Option.map (·, rest)) four

/-- A character is read from how it stands in a string. -/
theorem scanString_writeChar (c : Char) (rest : Text) :
    scanString (writeChar c ++ rest) =
      (scanString rest).map fun (codes, rest) => (c.toNat :: codes, rest) := by
  unfold writeChar
  split_ifs with hq hb h8 hC hn hr ht hc
  · subst hq; exact scanString_escape rfl
  · subst hb; exact scanString_escape rfl
  · subst h8; exact scanString_escape rfl
  · subst hC; exact scanString_escape rfl
  · subst hn; exact scanString_escape rfl
  · subst hr; exact scanString_escape rfl
  · subst ht; exact scanString_escape rfl
  · exact scanString_escape (escape?_hexPair (by omega) rest)
  · exact scanString_plain hq hb (by omega) rest

/-- A string is read up to where it is closed. -/
theorem scanString_flatMap_writeChar (t rest : Text) :
    scanString (t.flatMap writeChar ++ '"' :: rest) = some (t.map Char.toNat, rest) := by
  induction t with
  | nil => exact scanString_quote rest
  | cons c t ih =>
    rw [List.flatMap_cons, List.append_assoc, scanString_writeChar, ih]
    rfl

/-- The code points of the characters of a text make up that text. -/
theorem textOfCodes?_map_toNat (t : Text) : textOfCodes? (t.map Char.toNat) = some t := by
  rw [textOfCodes?, Text.pairUp_map_toNat, Text.mapM_map_some]

/-! ### Numbers

Each part of a number is read from a text as it is where another text follows that stops it.
-/

/-- What a text begins with is nothing with which a number goes on. -/
def Stops (t : Text) : Prop :=
  ∀ c ∈ t.head?, c.isDigit = false ∧ c ≠ '.' ∧ c ≠ 'e' ∧ c ≠ 'E'

theorem stops_nil : Stops [] := by simp [Stops]

theorem stops_cons {c : Char} {t : Text} :
    Stops (c :: t) ↔ c.isDigit = false ∧ c ≠ '.' ∧ c ≠ 'e' ∧ c ≠ 'E' := by
  simp [Stops]

variable {t u run rest : Text}

/-- A row of digits ends where the digits do. -/
theorem digits?_eq_some_iff : digits? t = some (run, rest) ↔
    t = run ++ rest ∧ run ≠ [] ∧ (∀ c ∈ run, c.isDigit = true) ∧
      ∀ c ∈ rest.head?, c.isDigit = false := by
  constructor
  · intro h
    rw [digits?] at h
    split at h
    · cases h
    · rename_i hne
      cases h
      have hrest : t.drop (t.takeWhile Char.isDigit).length = t.dropWhile Char.isDigit := by
        conv_lhs => arg 2; rw [← List.takeWhile_append_dropWhile (p := Char.isDigit) (l := t)]
        exact List.drop_left
      rw [hrest]
      refine ⟨List.takeWhile_append_dropWhile.symm, by simpa using hne,
        fun c hc => List.mem_takeWhile_imp hc, fun c hc => ?_⟩
      have hhead := List.head?_dropWhile_not Char.isDigit t
      rw [hc] at hhead
      exact hhead
  · rintro ⟨rfl, hne, hall, hstop⟩
    have hrest : rest.takeWhile Char.isDigit = [] := by
      cases rest with
      | nil => rfl
      | cons c rest => exact List.takeWhile_cons_of_neg (by simp [hstop c rfl])
    rw [digits?, List.takeWhile_append_of_pos hall, hrest, List.append_nil, List.drop_left, if_neg]
    rwa [List.isEmpty_iff]

theorem digits?_append (h : digits? t = some (run, u)) (hs : Stops rest) :
    digits? (t ++ rest) = some (run, u ++ rest) := by
  obtain ⟨rfl, hne, hall, hstop⟩ := digits?_eq_some_iff.1 h
  refine digits?_eq_some_iff.2 ⟨List.append_assoc _ _ _, hne, hall, fun c hc => ?_⟩
  cases u with
  | nil => exact (hs c hc).1
  | cons d u => exact hstop c hc

theorem whole?_append (h : whole? t = some (run, u)) (hs : Stops rest) :
    whole? (t ++ rest) = some (run, u ++ rest) := by
  unfold whole? at h
  split at h
  · simp_all [whole?]
  · rename_i hz
    cases t with
    | nil => exact nomatch h
    | cons c t =>
      rw [List.cons_append, whole?]
      · exact digits?_append h hs
      · simpa using hz

theorem places?_append (h : places? t = some (run, u)) (hs : Stops rest) :
    places? (t ++ rest) = some (run, u ++ rest) := by
  unfold places? at h
  split at h
  · obtain ⟨⟨run, u⟩, hd, he⟩ := Option.map_eq_some_iff.1 h
    simp_all [places?, digits?_append hd hs]
  · rename_i hp
    obtain ⟨rfl, rfl⟩ : [] = run ∧ t = u := by simpa using h
    rw [places?]
    -- No point begins what follows, nor what is left of `t`.
    intro t' ht
    cases t with
    | nil => exact (stops_cons.1 (show Stops ('.' :: t') from ht ▸ hs)).2.1 rfl
    | cons c t => exact hp t (by simp_all)

/-- The sign at the start of a text, if it is one of these, and what follows it. -/
def signOf (signs : Text) : Text → Text × Text
  | c :: t => if c ∈ signs then ([c], t) else ([], c :: t)
  | [] => ([], [])

theorem signOf_append (signs : Text) (h : t ≠ []) (rest : Text) :
    signOf signs (t ++ rest) = ((signOf signs t).1, (signOf signs t).2 ++ rest) := by
  cases t with
  | nil => exact absurd rfl h
  | cons c t =>
    rw [List.cons_append, signOf, signOf]
    split <;> rfl

theorem exponent?_cons (c : Char) (t : Text) :
    exponent? (c :: t) =
      if c = 'e' || c = 'E' then
        (digits? (signOf ['+', '-'] t).2).map fun r => (c :: (signOf ['+', '-'] t).1 ++ r.1, r.2)
      else some ([], c :: t) := by
  cases t with
  | nil => rfl
  | cons d t =>
    by_cases hd : d ∈ ['+', '-']
    · obtain rfl | rfl : d = '+' ∨ d = '-' := by simpa using hd
      · rfl
      · rfl
    · rw [signOf, if_neg hd, exponent?] <;> simp_all

theorem scanNumber_eq (t : Text) :
    scanNumber t = (whole? (signOf ['-'] t).2).bind fun whole =>
      (places? whole.2).bind fun places =>
        (exponent? places.2).bind fun exponent =>
          some ((signOf ['-'] t).1 ++ whole.1 ++ places.1 ++ exponent.1, exponent.2) := by
  cases t with
  | nil => rfl
  | cons c t =>
    by_cases hc : c ∈ ['-']
    · obtain rfl : c = '-' := by simpa using hc
      rfl
    · rw [signOf, if_neg hc, scanNumber]
      · rfl
      · simp_all

theorem exponent?_append (h : exponent? t = some (run, u)) (hs : Stops rest) :
    exponent? (t ++ rest) = some (run, u ++ rest) := by
  cases t with
  | nil =>
    obtain ⟨rfl, rfl⟩ : [] = run ∧ [] = u := by simpa [exponent?] using h
    cases rest with
    | nil => rfl
    | cons c rest =>
      have := (stops_cons.1 hs).2.2
      simp [exponent?, this]
  | cons c t =>
    rw [exponent?_cons] at h
    rw [List.cons_append, exponent?_cons]
    split at h
    · rename_i he
      obtain ⟨⟨run, u⟩, hd, ho⟩ := Option.map_eq_some_iff.1 h
      -- There is a digit in `t`, so that its sign is not what follows `t`.
      have hne : t ≠ [] := by
        rintro rfl
        exact nomatch hd
      rw [if_pos he, signOf_append _ hne, digits?_append hd hs]
      simp_all
    · rename_i he
      rw [if_neg he]
      obtain ⟨rfl, rfl⟩ : [] = run ∧ c :: t = u := by simpa using h
      rfl

theorem scanNumber_append (h : scanNumber t = some (run, u)) (hs : Stops rest) :
    scanNumber (t ++ rest) = some (run, u ++ rest) := by
  have hne : t ≠ [] := by
    rintro rfl
    exact nomatch h
  rw [scanNumber_eq] at h ⊢
  obtain ⟨⟨whole, t₁⟩, hw, h⟩ := Option.bind_eq_some_iff.1 h
  obtain ⟨⟨places, t₂⟩, hp, h⟩ := Option.bind_eq_some_iff.1 h
  obtain ⟨⟨exponent, t₃⟩, he, h⟩ := Option.bind_eq_some_iff.1 h
  rw [signOf_append _ hne, whole?_append hw hs, Option.bind_some, places?_append hp hs,
    Option.bind_some, exponent?_append he hs, Option.bind_some]
  simp_all

/-- A number begins with its sign or a digit. -/
theorem scanNumber_head {c : Char} {r : Text × Text} (h : scanNumber (c :: t) = some r) :
    c = '-' ∨ c.isDigit = true := by
  by_cases hm : c = '-'
  · exact .inl hm
  · by_contra hd
    have hd : c.isDigit = false := by simp_all
    have hz : c ≠ '0' := by
      rintro rfl
      exact nomatch hd
    simp [scanNumber, whole?, digits?, hm, hz, hd] at h

/-! ### Rows of tokens -/

/-- A token that is read back: a number has to be written as numbers are. -/
def IsRegular : JsonToken → Prop
  | number digits => scanNumber digits = some (digits, [])
  | _ => True

instance : DecidablePred IsRegular
  | number digits => inferInstanceAs (Decidable (scanNumber digits = some (digits, [])))
  | openArray | closeArray | openObject | closeObject | comma | colon | null | boolean _
  | string _ => isTrue trivial

/-- Whether a token is a number. -/
def isNumber : JsonToken → Bool
  | number _ => true
  | _ => false

theorem first?_quote (t : Text) :
    first? ('"' :: t) =
      (scanString t).map fun (codes, rest) => (string (textOfCodes? codes), rest) := by
  rw [first?]

theorem first?_number {digits : Text} (h : scanNumber t = some (digits, rest)) :
    first? t = some (number digits, rest) := by
  cases t with
  | nil => exact nomatch h
  | cons c t =>
    have hc := scanNumber_head h
    rw [first?]
    · rw [h]
      rfl
    -- No other token begins as a number does.
    all_goals
      rintro _ ⟨⟩
      exact absurd hc (by decide)

/-- A string is written between two marks. -/
theorem write_string (t rest : Text) :
    (string (some t)).write ++ rest = '"' :: (t.flatMap writeChar ++ '"' :: rest) := by
  have h : (string (some t)).write = '"' :: (t.flatMap writeChar ++ ['"']) := rfl
  rw [h, List.cons_append, List.append_assoc, List.singleton_append]

/-- A string without text is written as half of a pair. -/
theorem first?_write_half (rest : Text) :
    first? ((string none).write ++ rest) = some (string none, rest) := by
  have h : (string none).write ++ rest = '"' :: '\\' :: ("ud800" ++ '"' :: rest) := rfl
  have half : escape? ("ud800" ++ '"' :: rest) = some (0xD800, '"' :: rest) := rfl
  rw [h, first?_quote, scanString_escape half, scanString_quote]
  rfl

/-- A token is read back, as what follows it cannot be part of it. -/
theorem first?_write {token : JsonToken} (h : token.IsRegular) {rest : Text}
    (hs : token.isNumber = true → Stops rest) :
    first? (token.write ++ rest) = some (token, rest) := by
  cases token with
  | openArray | closeArray | openObject | closeObject | comma | colon | null => rfl
  | boolean b => cases b <;> rfl
  | number digits => exact first?_number (scanNumber_append h (hs rfl))
  | string t? =>
    cases t? with
    | none => exact first?_write_half rest
    | some t =>
      have whole := textOfCodes?_map_toNat t
      rw [write_string, first?_quote, scanString_flatMap_writeChar]
      simp only [Option.map_some, whole]

/-- White space begins no token. -/
theorem isGap_of_first? {c : Char} {r : JsonToken × Text} (h : first? (c :: t) = some r) :
    isGap c = false := by
  cases hg : isGap c with
  | false => rfl
  | true =>
    obtain ((rfl | rfl) | rfl) | rfl : ((c = ' ' ∨ c = '\n') ∨ c = '\r') ∨ c = '\t' := by
      simpa [isGap] using hg
    all_goals simp [first?, scanNumber, whole?, digits?] at h

/-- A row of tokens begins with the first token of the text. -/
theorem scan_of_first? {token : JsonToken} (h : first? t = some (token, rest))
    (hlen : rest.length < t.length) : scan t = (scan rest).map (token :: ·) := by
  cases t with
  | nil => exact nomatch hlen
  | cons c t =>
    rw [scan, isGap_of_first? h, h]
    simp only [Bool.false_eq_true, if_false, dif_pos hlen]

end JsonToken

end CircuitHub

import CircuitHub.Proofs.Json.Value

/-!
# Spellings of values

The tokens of a value may be spelled in different ways, as strings have escapes, and with any white
space before, between and after them (`JsonToken.Spells`). A text is read as a value exactly if it
spells the tokens of the value (`JsonValue.read?_eq_some_iff`). So nothing but the tokens counts,
and no spelling of a value is refused, however large or deep the value is. One of the spellings is
that in which the value is written (`JsonValue.read?_write`).

* A token that is read from a text was spelled by the part of the text that was taken
  (`exists_of_first?`), and that part is read as the same token wherever it stands
  (`first?_append`): what is known of a token by itself is known in a text.
* The end of a number is the only one that depends on what follows. Between two tokens of a value
  that have no mark of their own there always is one.
-/

namespace CircuitHub

namespace JsonToken

variable {t u l run rest : Text} {token : JsonToken} {tokens : List JsonToken}

/-! ## Strings -/

/-- What is read as an escape is the same escape wherever it stands. -/
theorem exists_of_escape? {n : Nat} (h : escape? t = some (n, rest)) :
    ∃ l, t = l ++ rest ∧ ∀ u, escape? (l ++ u) = some (n, u) := by
  unfold escape? at h
  split at h
  case h_9 a b c d t =>
    obtain ⟨m, hm, he⟩ := Option.map_eq_some_iff.1 h
    cases he
    exact ⟨['u', a, b, c, d], rfl, fun u => by simp [escape?, hm]⟩
  case h_10 => cases h
  all_goals
    cases h
    exact ⟨[_], rfl, fun _ => rfl⟩

/-- What is read as a string is the same string wherever it stands. -/
theorem exists_of_scanString {codes : List Nat} (h : scanString t = some (codes, rest)) :
    ∃ l, t = l ++ rest ∧ ∀ u, scanString (l ++ u) = some (codes, u) := by
  fun_induction scanString t generalizing codes rest with
  | case1 => cases h
  | case2 t =>
    cases h
    exact ⟨['"'], rfl, scanString_quote⟩
  | case3 t n t' he ih =>
    obtain ⟨⟨codes, rest⟩, hs, hr⟩ := Option.map_eq_some_iff.1 h
    cases hr
    obtain ⟨l, rfl, hl⟩ := ih hs
    obtain ⟨k, rfl, hk⟩ := exists_of_escape? he
    refine ⟨'\\' :: (k ++ l), by simp, fun u => ?_⟩
    rw [List.cons_append, List.append_assoc, scanString_escape (hk _), hl]
    rfl
  | case4 => cases h
  | case5 => cases h
  | case6 c t hq hb hc ih =>
    obtain ⟨⟨codes, rest⟩, hs, hr⟩ := Option.map_eq_some_iff.1 h
    cases hr
    obtain ⟨l, rfl, hl⟩ := ih hs
    refine ⟨c :: l, rfl, fun u => ?_⟩
    rw [List.cons_append, scanString_plain (by simpa using hq) (by simpa using hb) (by omega), hl]
    rfl

/-! ## Numbers -/

/-- What is scanned is taken off the text, and is scanned as well if less of the text follows. -/
structure Scans (scan? : Text → Option (Text × Text)) : Prop where
  takes : ∀ {t run rest}, scan? t = some (run, rest) → t = run ++ rest
  keeps : ∀ {t run rest u}, scan? t = some (run, rest) → u <+: rest →
    scan? (run ++ u) = some (run, u)

/-- The start of a text begins as the text does. -/
theorem mem_head?_of_isPrefix (hu : u <+: rest) {c : Char} (hc : c ∈ u.head?) : c ∈ rest.head? := by
  obtain ⟨r, rfl⟩ := hu
  rw [List.head?_append, Option.mem_def.1 hc]
  rfl

theorem scans_digits? : Scans digits? where
  takes h := (digits?_eq_some_iff.1 h).1
  keeps h hu := by
    obtain ⟨-, hne, hall, hstop⟩ := digits?_eq_some_iff.1 h
    exact digits?_eq_some_iff.2 ⟨rfl, hne, hall, fun c hc => hstop c (mem_head?_of_isPrefix hu hc)⟩

theorem scans_whole? : Scans whole? where
  takes h := by
    unfold whole? at h
    split at h
    · cases h
      rfl
    · exact scans_digits?.takes h
  keeps {t run rest u} h hu := by
    unfold whole? at h
    split at h
    · cases h
      rfl
    · rename_i hz
      obtain ⟨hrun, hne, -, -⟩ := digits?_eq_some_iff.1 h
      obtain ⟨c, run, rfl⟩ := List.exists_cons_of_ne_nil hne
      rw [List.cons_append, whole?]
      · exact scans_digits?.keeps h hu
      · intro _ ht
        obtain ⟨rfl, -⟩ := List.cons.inj ht
        exact hz _ hrun

theorem scans_places? : Scans places? where
  takes h := by
    unfold places? at h
    split at h
    · obtain ⟨⟨run, rest⟩, hd, he⟩ := Option.map_eq_some_iff.1 h
      cases he
      exact congrArg _ (scans_digits?.takes hd)
    · cases h
      rfl
  keeps {t run rest u} h hu := by
    unfold places? at h
    split at h
    · obtain ⟨⟨run, rest⟩, hd, he⟩ := Option.map_eq_some_iff.1 h
      cases he
      exact congrArg (Option.map _) (scans_digits?.keeps hd hu)
    · rename_i hp
      cases h
      rw [List.nil_append, places?]
      rintro t' rfl
      obtain ⟨r, rfl⟩ := hu
      exact hp _ rfl

theorem signOf_eq_append (signs t : Text) : t = (signOf signs t).1 ++ (signOf signs t).2 := by
  cases t with
  | nil => rfl
  | cons c t =>
    rw [signOf]
    split <;> rfl

theorem not_isDigit_of_sign {c : Char} (h : c ∈ ['+', '-']) : c.isDigit = false := by
  rcases List.mem_pair.1 h with rfl | rfl <;> rfl

/-- A sign that is taken off a text is taken off as well if digits follow it. -/
theorem signOf_append_of_digit {signs : Text} (hsigns : signs ⊆ ['+', '-']) (t : Text)
    (hu : ∀ c ∈ u.head?, c.isDigit = true) :
    signOf signs ((signOf signs t).1 ++ u) = ((signOf signs t).1, u) := by
  have hnone : signOf signs u = ([], u) := by
    cases u with
    | nil => rfl
    | cons c u =>
      have hc : c ∉ signs := fun hmem =>
        Bool.false_ne_true ((not_isDigit_of_sign (hsigns hmem)).symm.trans (hu c rfl))
      rw [signOf, if_neg hc]
  cases t with
  | nil => exact hnone
  | cons c t =>
    rw [signOf]
    split
    · rename_i hc
      rw [List.singleton_append, signOf, if_pos hc]
    · exact hnone

theorem isDigit_head_of_digits? (h : digits? t = some (run, rest)) (u : Text) :
    ∀ c ∈ (run ++ u).head?, c.isDigit = true := by
  obtain ⟨-, hne, hall, -⟩ := digits?_eq_some_iff.1 h
  obtain ⟨d, run, rfl⟩ := List.exists_cons_of_ne_nil hne
  intro c hc
  obtain rfl : d = c := by simpa using hc
  exact hall d List.mem_cons_self

theorem isDigit_head_of_whole? (h : whole? t = some (run, rest)) (u : Text) :
    ∀ c ∈ (run ++ u).head?, c.isDigit = true := by
  unfold whole? at h
  split at h
  · cases h
    rintro c ⟨⟩
    rfl
  · exact isDigit_head_of_digits? h u

theorem scans_exponent? : Scans exponent? where
  takes {t run rest} h := by
    cases t with
    | nil =>
      cases h
      rfl
    | cons c t =>
      rw [exponent?_cons] at h
      split at h
      · obtain ⟨⟨run, rest⟩, hd, he⟩ := Option.map_eq_some_iff.1 h
        cases he
        have hsign := signOf_eq_append ['+', '-'] t
        rw [scans_digits?.takes hd, ← List.append_assoc] at hsign
        exact congrArg (c :: ·) hsign
      · cases h
        rfl
  keeps {t run rest u} h hu := by
    cases t with
    | nil =>
      cases h
      rw [List.prefix_nil.1 hu]
      rfl
    | cons c t =>
      rw [exponent?_cons] at h
      split at h
      · rename_i hc
        obtain ⟨⟨run, rest⟩, hd, he⟩ := Option.map_eq_some_iff.1 h
        cases he
        have hsign := signOf_append_of_digit (fun _ hc => hc) t
          (isDigit_head_of_digits? hd u)
        rw [List.cons_append, List.cons_append, List.append_assoc, exponent?_cons, if_pos hc, hsign,
          scans_digits?.keeps hd hu]
        rfl
      · rename_i hc
        cases h
        rw [List.nil_append]
        cases u with
        | nil => rfl
        | cons d u =>
          obtain ⟨rfl, -⟩ := List.cons_prefix_cons.1 hu
          rw [exponent?_cons, if_neg hc]

/-- A number that is read is written as numbers are, and nothing else is taken off the text. -/
theorem exists_of_scanNumber (h : scanNumber t = some (run, rest)) :
    t = run ++ rest ∧ scanNumber run = some (run, []) := by
  rw [scanNumber_eq] at h
  obtain ⟨⟨whole, t₁⟩, hw, h⟩ := Option.bind_eq_some_iff.1 h
  obtain ⟨⟨places, t₂⟩, hp, h⟩ := Option.bind_eq_some_iff.1 h
  obtain ⟨⟨exponent, t₃⟩, he, h⟩ := Option.bind_eq_some_iff.1 h
  cases h
  dsimp only at hp he ⊢
  have ht := signOf_eq_append ['-'] t
  have hsign := signOf_append_of_digit (fun _ hc => List.mem_cons_of_mem '+' hc) t
    (isDigit_head_of_whole? hw (places ++ exponent))
  -- Each part of the number is cut off a text that begins with the part after it, and does so too
  -- where the text ends with the number.
  have ht₁ : t₁ = places ++ exponent ++ t₃ := by
    rw [List.append_assoc, ← scans_exponent?.takes he, scans_places?.takes hp]
  have hw' := scans_whole?.keeps hw (ht₁ ▸ List.prefix_append (places ++ exponent) t₃)
  have hp' := scans_places?.keeps hp (scans_exponent?.takes he ▸ List.prefix_append exponent t₃)
  have he' := scans_exponent?.keeps he List.nil_prefix
  rw [List.append_nil] at he'
  constructor
  · rw [scans_whole?.takes hw, ht₁] at ht
    simpa using ht
  · rw [scanNumber_eq]
    simp only [List.append_assoc, hsign, hw', hp', he', Option.bind_some]

/-! ## Tokens -/

/-- What is read as a token is the same token wherever it stands, unless it is a number and goes
    on. -/
theorem exists_of_first? (h : first? t = some (token, rest)) :
    ∃ l, t = l ++ rest ∧
      ∀ u, (token.isNumber = true → Stops u) → first? (l ++ u) = some (token, u) := by
  unfold first? at h
  split at h
  case h_7 t =>
    obtain ⟨⟨codes, rest⟩, hs, he⟩ := Option.map_eq_some_iff.1 h
    cases he
    obtain ⟨l, rfl, hl⟩ := exists_of_scanString hs
    refine ⟨'"' :: l, rfl, fun u _ => ?_⟩
    rw [List.cons_append, first?_quote, hl]
    rfl
  case h_11 =>
    obtain ⟨⟨digits, rest⟩, hs, he⟩ := Option.map_eq_some_iff.1 h
    cases he
    obtain ⟨rfl, hdigits⟩ := exists_of_scanNumber hs
    exact ⟨digits, rfl, fun u hu => first?_number (scanNumber_append hdigits (hu rfl))⟩
  case h_8 => cases h; exact ⟨"null".toList, rfl, fun _ _ => rfl⟩
  case h_9 => cases h; exact ⟨"true".toList, rfl, fun _ _ => rfl⟩
  case h_10 => cases h; exact ⟨"false".toList, rfl, fun _ _ => rfl⟩
  all_goals
    cases h
    exact ⟨[_], rfl, fun _ _ => rfl⟩

/-- A token that makes up a text is read at the start of a longer text, unless it is a number and
    goes on. -/
theorem first?_append (h : first? l = some (token, [])) (hs : token.isNumber = true → Stops u) :
    first? (l ++ u) = some (token, u) := by
  obtain ⟨l', hl, hall⟩ := exists_of_first? h
  rw [List.append_nil] at hl
  exact hl ▸ hall u hs

/-- No token but a number begins with something with which a number goes on. -/
theorem stops_of_first? (h : first? t = some (token, rest)) (hn : token.isNumber = false) :
    Stops t := by
  unfold first? at h
  split at h
  case h_11 =>
    obtain ⟨⟨digits, rest⟩, -, he⟩ := Option.map_eq_some_iff.1 h
    cases he
    cases hn
  all_goals exact stops_cons.2 (by decide)

theorem stops_of_isGap {c : Char} (h : isGap c = true) (t : Text) : Stops (c :: t) := by
  obtain ((rfl | rfl) | rfl) | rfl : ((c = ' ' ∨ c = '\n') ∨ c = '\r') ∨ c = '\t' := by
    simpa [isGap] using h
  all_goals exact stops_cons.2 (by decide)

/-- A text consists of some tokens, each in one of its spellings, with white space between them. -/
inductive Spells : List JsonToken → Text → Prop
  | nil : Spells [] []
  | gap {c : Char} (hc : isGap c = true) {tokens : List JsonToken} {t : Text}
    (ht : Spells tokens t) : Spells tokens (c :: t)
  | cons {token : JsonToken} {l : Text} (hl : first? l = some (token, []))
    {tokens : List JsonToken} {t : Text} (ht : Spells tokens t) : Spells (token :: tokens) (l ++ t)

/-- Tokens may be written with any white space behind each of them. -/
theorem spells_flatMap_write (gap : Text) (hgap : ∀ c ∈ gap, isGap c = true)
    (h : ∀ token ∈ tokens, token.IsRegular) :
    Spells tokens (tokens.flatMap fun token => token.write ++ gap) := by
  have hspace : ∀ {tokens t}, Spells tokens t → Spells tokens (gap ++ t) := by
    intro tokens t ht
    induction gap with
    | nil => exact ht
    | cons c gap ih =>
      exact .gap (hgap c List.mem_cons_self) (ih fun c hc => hgap c (List.mem_cons_of_mem _ hc))
  induction tokens with
  | nil => exact .nil
  | cons token tokens ih =>
    have hwrite := first?_write (h token List.mem_cons_self) fun _ => stops_nil
    rw [List.append_nil] at hwrite
    rw [List.flatMap_cons, List.append_assoc]
    exact .cons hwrite (hspace (ih fun token ht => h token (List.mem_cons_of_mem _ ht)))

theorem ne_nil_of_first? {r : JsonToken × Text} (h : first? t = some r) : t ≠ [] := by
  rintro rfl
  cases h

/-- Only a number can be such that a number before it would go on. -/
theorem Spells.stops (h : Spells tokens t) (hn : ∀ token ∈ tokens.head?, token.isNumber = false) :
    Stops t := by
  induction h with
  | nil => exact stops_nil
  | gap hc => exact stops_of_isGap hc _
  | cons hl =>
    obtain ⟨c, l, rfl⟩ := List.exists_cons_of_ne_nil (ne_nil_of_first? hl)
    exact stops_cons.2 (stops_cons.1 (stops_of_first? hl (hn _ rfl)))

/-- The tokens that a text consists of are read from it, if no number follows a number. -/
theorem Spells.scan (h : Spells tokens t) (ha : Apart tokens) : scan t = some tokens := by
  induction h with
  | nil => rw [JsonToken.scan]
  | gap hc _ ih => rw [JsonToken.scan, if_pos hc, ih ha]
  | @cons token l hl tokens t ht ih =>
    -- A number ends where white space or a token that is no number follows.
    have hfollow := List.isChain_cons.1 ha
    have hstops : token.isNumber = true → Stops t := fun hn =>
      ht.stops fun next hnext => hfollow.1 next hnext hn
    have hlen : t.length < (l ++ t).length := by
      have := List.length_pos_iff.2 (ne_nil_of_first? hl)
      rw [List.length_append]
      omega
    rw [scan_of_first? (first?_append hl hstops) hlen, ih hfollow.2]
    rfl

/-- A text from which tokens are read consists of them. -/
theorem spells_of_scan (h : JsonToken.scan t = some tokens) : Spells tokens t := by
  fun_induction JsonToken.scan t generalizing tokens with
  | case1 =>
    cases h
    exact .nil
  | case2 c t hc ih => exact .gap hc (ih h)
  | case3 c t hc token rest hfirst hlen ih =>
    obtain ⟨tokens, hs, rfl⟩ := Option.map_eq_some_iff.1 h
    obtain ⟨l, hl, hall⟩ := exists_of_first? hfirst
    have hlexeme := hall [] fun _ => stops_nil
    rw [List.append_nil] at hlexeme
    rw [hl]
    exact .cons hlexeme (ih hs)
  | case4 => cases h
  | case5 => cases h

end JsonToken

namespace JsonValue

open JsonToken (Apart Spells)

/-! ## Values -/

/-- An array that does not end at once holds a value. -/
theorem ne_nil_of_itemsOfTokens? {n : Nat} {tokens rest : List JsonToken} {items : List JsonValue}
    (h : itemsOfTokens? n tokens = some (items, rest)) : items ≠ [] := by
  cases n with
  | zero => cases h
  | succ n =>
    unfold itemsOfTokens? at h
    split at h
    · cases h
      exact List.cons_ne_nil _ _
    · obtain ⟨_, -, he⟩ := Option.map_eq_some_iff.1 h
      cases he
      exact List.cons_ne_nil _ _
    · cases h

/-- An object that does not end at once has a member. -/
theorem ne_nil_of_membersOfTokens? {n : Nat} {tokens rest : List JsonToken}
    {members : List (Option Text × JsonValue)}
    (h : membersOfTokens? n tokens = some (members, rest)) : members ≠ [] := by
  unfold membersOfTokens? at h
  split at h
  · split at h
    · cases h
      exact List.cons_ne_nil _ _
    · obtain ⟨_, -, he⟩ := Option.map_eq_some_iff.1 h
      cases he
      exact List.cons_ne_nil _ _
    · cases h
  · cases h

mutual

/-- What is read as a value are the tokens of the value. -/
theorem eq_of_ofTokens? : ∀ {n : Nat} {tokens rest : List JsonToken} {v : JsonValue},
    ofTokens? n tokens = some (v, rest) → tokens = v.tokens ++ rest
  | 0, _, _, _, h => nomatch h
  | _ + 1, [], _, _, h => nomatch h
  | n + 1, token :: tokens, rest, v, h => by
    unfold ofTokens? at h
    dsimp only at h
    split at h
    case h_5 =>
      split at h
      · cases h
        rfl
      · obtain ⟨⟨items, rest'⟩, hitems, he⟩ := Option.map_eq_some_iff.1 h
        cases he
        rw [eq_of_itemsOfTokens? hitems, JsonValue.tokens]
        simp
    case h_6 =>
      split at h
      · cases h
        rfl
      · obtain ⟨⟨members, rest'⟩, hmembers, he⟩ := Option.map_eq_some_iff.1 h
        cases he
        rw [eq_of_membersOfTokens? hmembers, JsonValue.tokens]
        simp
    all_goals
      cases h
      try rfl

theorem eq_of_itemsOfTokens? :
    ∀ {n : Nat} {tokens rest : List JsonToken} {items : List JsonValue},
      itemsOfTokens? n tokens = some (items, rest) →
      tokens = itemTokens items ++ .closeArray :: rest
  | 0, _, _, _, h => nomatch h
  | n + 1, tokens, rest, items, h => by
    unfold itemsOfTokens? at h
    split at h
    · rename_i hfirst
      cases h
      exact eq_of_ofTokens? hfirst
    · rename_i hfirst
      obtain ⟨⟨items, rest'⟩, hitems, he⟩ := Option.map_eq_some_iff.1 h
      cases he
      rw [eq_of_ofTokens? hfirst, eq_of_itemsOfTokens? hitems, itemTokens]
      · simp
      · exact ne_nil_of_itemsOfTokens? hitems
    · cases h

theorem eq_of_membersOfTokens? :
    ∀ {n : Nat} {tokens rest : List JsonToken} {members : List (Option Text × JsonValue)},
      membersOfTokens? n tokens = some (members, rest) →
      tokens = memberTokens members ++ .closeObject :: rest
  | 0, _, _, _, h => nomatch h
  | n + 1, tokens, rest, members, h => by
    unfold membersOfTokens? at h
    split at h
    · rename_i hn
      cases hn
      split at h
      · rename_i hfirst
        cases h
        rw [eq_of_ofTokens? hfirst]
        rfl
      · rename_i hfirst
        obtain ⟨⟨members, rest'⟩, hmembers, he⟩ := Option.map_eq_some_iff.1 h
        cases he
        rw [eq_of_ofTokens? hfirst, eq_of_membersOfTokens? hmembers, memberTokens]
        · simp
        · exact ne_nil_of_membersOfTokens? hmembers
      · cases h
    · cases h

end

/-- The tokens of a value have marks between its numbers. -/
theorem apart_tokens (v : JsonValue) : Apart v.tokens := by
  have h := apart_tokens_append ⟨.nil, by simp⟩ v
  rwa [List.append_nil] at h

/-- A text is read as a value exactly if it spells the tokens of the value. -/
theorem read?_eq_some_iff {t : Text} {v : JsonValue} : read? t = some v ↔ Spells v.tokens t := by
  constructor
  · intro h
    obtain ⟨tokens, hs, hv⟩ := Option.bind_eq_some_iff.1 h
    split at hv
    · rename_i hof
      cases hv
      have hall := eq_of_ofTokens? hof
      rw [List.append_nil] at hall
      exact hall ▸ JsonToken.spells_of_scan hs
    · cases hv
  · intro h
    have hs := h.scan (apart_tokens v)
    have hof := ofTokens?_tokens_append [] v (v.tokens.length + 1) (Nat.lt_succ_self _)
    rw [List.append_nil] at hof
    simp [read?, hs, hof]

/-- A value is read back as it was written, if its numbers are written as numbers are. -/
theorem read?_write {v : JsonValue} (h : ∀ token ∈ v.tokens, token.IsRegular) :
    read? v.write = some v := by
  have hspells := JsonToken.spells_flatMap_write [] (by simp) h
  simp only [List.append_nil] at hspells
  exact read?_eq_some_iff.2 hspells

end JsonValue

end CircuitHub

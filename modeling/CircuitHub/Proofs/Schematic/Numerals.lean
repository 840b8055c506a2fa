import CircuitHub.Proofs.Text.Scan
import CircuitHub.Schematic.PathData

/-!
# Numbers in path data

Where a number stands in path data is found first, and then the number is read. Both go by digits at
the start, after a sign and with at most one point before or among them (`BeginsDigits`), so that
neither knows of numbers that the other does not know.

* `exists_read?_of_takeNumber?`: what is found can be read;
* `read?_eq_none_of_takeNumber?`: where nothing is found, no beginning of the text can be read.
-/

namespace CircuitHub.Path

variable {t u number rest : Text}

/-! ## Where a number begins -/

/-- A digit stands at the start of the text, or right after a point there. -/
def BeginsDigits (t : Text) : Prop :=
  ∃ c rest, c.isDigit = true ∧ (t = c :: rest ∨ t = '.' :: c :: rest)

theorem BeginsDigits.append (h : BeginsDigits t) (u : Text) : BeginsDigits (t ++ u) := by
  obtain ⟨c, rest, hc, rfl | rfl⟩ := h
  · exact ⟨c, rest ++ u, hc, .inl rfl⟩
  · exact ⟨c, rest ++ u, hc, .inr rfl⟩

/-- After a point only digits are taken. -/
theorem splitDigits_true (t : Text) :
    splitDigits true t = (t.takeWhile Char.isDigit, t.dropWhile Char.isDigit) := by
  induction t with
  | nil => rfl
  | cons c t ih =>
    rw [splitDigits, ih, List.takeWhile_cons, List.dropWhile_cons]
    cases c.isDigit <;> simp

/-- Digits are taken up to a point, and after it as well. -/
theorem splitDigits_false (t : Text) :
    splitDigits false t =
      match t.dropWhile Char.isDigit with
      | '.' :: r => (t.takeWhile Char.isDigit ++ '.' :: r.takeWhile Char.isDigit,
          r.dropWhile Char.isDigit)
      | r => (t.takeWhile Char.isDigit, r) := by
  induction t with
  | nil => rfl
  | cons c t ih =>
    rw [splitDigits, ih, List.takeWhile_cons, List.dropWhile_cons]
    cases hc : c.isDigit with
    | true =>
      simp only [if_true]
      split <;> rfl
    | false =>
      by_cases hpoint : c = '.'
      · subst hpoint
        simp [splitDigits_true]
      · simp [hpoint]

theorem any_splitDigits_iff (t : Text) :
    (splitDigits false t).1.any Char.isDigit = true ↔ BeginsDigits t := by
  constructor
  · intro h
    cases t with
    | nil => exact nomatch h
    | cons c t =>
      rw [splitDigits] at h
      by_cases hc : c.isDigit = true
      · exact ⟨c, t, hc, .inl rfl⟩
      · by_cases hpoint : c = '.'
        · subst hpoint
          -- The point is no digit, so that one is taken after it.
          cases t with
          | nil => exact nomatch h
          | cons d t =>
            by_cases hd : d.isDigit = true
            · exact ⟨d, t, hd, .inr rfl⟩
            · simp [splitDigits_true, hd] at h
        · simp [hc, hpoint] at h
  · rintro ⟨c, rest, hc, rfl | rfl⟩
    · simp [splitDigits, hc]
    · simp [splitDigits, splitDigits_true, hc]

/-- A number is found exactly if it begins after the sign. -/
theorem isSome_takeNumber?_iff (t : Text) :
    (takeNumber? t).isSome = true ↔ BeginsDigits (splitSign t).2 := by
  rw [← any_splitDigits_iff, takeNumber?]
  simp only
  split <;> simp_all

/-! ## What is found can be read -/

theorem takeWhile_digits {digits tail : Text} (hdigits : ∀ c ∈ digits, c.isDigit = true)
    (htail : ∀ c ∈ tail.head?, c.isDigit = false) :
    (digits ++ tail).takeWhile Char.isDigit = digits := by
  rw [List.takeWhile_append_of_pos hdigits]
  cases tail with
  | nil => simp
  | cons c tail => simp [htail c rfl]

theorem dropWhile_digits {digits tail : Text} (hdigits : ∀ c ∈ digits, c.isDigit = true)
    (htail : ∀ c ∈ tail.head?, c.isDigit = false) :
    (digits ++ tail).dropWhile Char.isDigit = tail := by
  rw [List.dropWhile_append_of_pos hdigits]
  cases tail with
  | nil => rfl
  | cons c tail => simp [htail c rfl]

theorem read?_eq (t : Text) :
    Decimal.read? t = Decimal.unsigned? (Decimal.takeSign t).1 (Decimal.takeSign t).2 := rfl

/-- A sign that was found is read, and no more than that. -/
theorem takeSign_append (t : Text) (hu : ∀ c ∈ u.head?, c ≠ '+' ∧ c ≠ '-') :
    (Decimal.takeSign ((splitSign t).1 ++ u)).2 = u := by
  have hnone : (Decimal.takeSign u).2 = u := by
    unfold Decimal.takeSign
    split
    · exact absurd rfl (hu '-' rfl).2
    · exact absurd rfl (hu '+' rfl).1
    · rfl
  cases t with
  | nil => exact hnone
  | cons c t =>
    rw [splitSign]
    split
    · rename_i hsign
      rcases (by simpa using hsign : c = '+' ∨ c = '-') with rfl | rfl <;> rfl
    · exact hnone

theorem not_sign_of_isDigit {c : Char} (h : c.isDigit = true) : c ≠ '+' ∧ c ≠ '-' := by
  constructor <;> rintro rfl <;> exact absurd h (by decide)

/-- An exponent that was found is read. -/
theorem exists_exponent? (t : Text) : ∃ n, Decimal.exponent? (splitExponent t).1 = some n := by
  unfold splitExponent
  split
  · exact ⟨0, rfl⟩
  · rename_i c t
    split
    · rename_i hletter
      simp only
      split
      · exact ⟨0, rfl⟩
      · rename_i hne
        have hdigits : ∀ d ∈ (splitSign t).2.takeWhile Char.isDigit, d.isDigit = true :=
          fun d hd => List.mem_takeWhile_imp hd
        have hsign := takeSign_append t (u := (splitSign t).2.takeWhile Char.isDigit)
          fun d hd => not_sign_of_isDigit (hdigits d (List.mem_of_mem_head? hd))
        have hlower : c.toLower = 'e' := by
          rcases (by simpa using hletter : c = 'e' ∨ c = 'E') with rfl | rfl <;> decide
        rw [List.cons_append, Decimal.exponent?]
        simp only [hsign, hlower]
        rw [if_pos]
        · exact ⟨_, rfl⟩
        · simp [hne]
    · exact ⟨0, rfl⟩

/-- Nothing stands there but what begins with the letter of an exponent. -/
def BeginsExponent (t : Text) : Prop := ∀ c ∈ t.head?, c = 'e' ∨ c = 'E'

theorem beginsExponent_splitExponent (t : Text) : BeginsExponent (splitExponent t).1 := by
  unfold splitExponent
  split
  · simp [BeginsExponent]
  · split
    · rename_i c t hletter
      simp only
      split
      · simp [BeginsExponent]
      · simpa [BeginsExponent] using hletter
    · simp [BeginsExponent]

theorem BeginsExponent.not_isDigit (h : BeginsExponent t) : ∀ c ∈ t.head?, c.isDigit = false := by
  intro c hc
  rcases h c hc with rfl | rfl <;> decide

/-- Digits with a point among them are read with the exponent after them. -/
theorem isSome_unsigned?_point {whole places tail : Text} (negative : Bool)
    (hwhole : ∀ c ∈ whole, c.isDigit = true) (hplaces : ∀ c ∈ places, c.isDigit = true)
    (htail : BeginsExponent tail) (hne : whole ++ places ≠ []) :
    (Decimal.unsigned? negative (whole ++ '.' :: (places ++ tail))).isSome =
      (Decimal.exponent? tail).isSome := by
  have hpoint : ∀ c ∈ ('.' :: (places ++ tail)).head?, c.isDigit = false := by
    rintro c ⟨⟩
    decide
  rw [Decimal.unsigned?, takeWhile_digits hwhole hpoint, dropWhile_digits hwhole hpoint]
  simp only [takeWhile_digits hplaces htail.not_isDigit, dropWhile_digits hplaces htail.not_isDigit]
  rw [if_neg (by simpa using hne), Option.isSome_map]

/-- Digits without a point are read with the exponent after them. -/
theorem isSome_unsigned?_whole {whole tail : Text} (negative : Bool)
    (hwhole : ∀ c ∈ whole, c.isDigit = true) (htail : BeginsExponent tail) (hne : whole ≠ []) :
    (Decimal.unsigned? negative (whole ++ tail)).isSome = (Decimal.exponent? tail).isSome := by
  rw [Decimal.unsigned?, takeWhile_digits hwhole htail.not_isDigit,
    dropWhile_digits hwhole htail.not_isDigit]
  have hpoint : ∀ r, tail ≠ '.' :: r := by
    rintro r rfl
    exact absurd (htail '.' rfl) (by decide)
  split
  rename_i places rest' heq
  split at heq
  · exact absurd rfl (hpoint _)
  · obtain ⟨rfl, rfl⟩ := Prod.mk.inj heq
    rw [List.append_nil, if_neg (by simpa using hne), Option.isSome_map]

/-- The digits that are found are whole ones, or some before and some after a point. -/
theorem exists_splitDigits_eq (t : Text) :
    ∃ whole places : Text, (∀ c ∈ whole, c.isDigit = true) ∧ (∀ c ∈ places, c.isDigit = true) ∧
      ((splitDigits false t).1 = whole ++ '.' :: places ∨
        (splitDigits false t).1 = whole ∧ places = []) := by
  have hrun (t : Text) : ∀ c ∈ t.takeWhile Char.isDigit, c.isDigit = true :=
    fun c hc => List.mem_takeWhile_imp hc
  rw [splitDigits_false]
  split
  · exact ⟨_, _, hrun t, hrun _, .inl rfl⟩
  · exact ⟨_, [], hrun t, by simp, .inr ⟨rfl, rfl⟩⟩

/-- The digits that are found begin with one of them or with a point. -/
theorem head?_splitDigits (t : Text) :
    ∀ c ∈ (splitDigits false t).1.head?, c.isDigit = true ∨ c = '.' := by
  cases t with
  | nil => simp [splitDigits]
  | cons c t =>
    rw [splitDigits]
    split
    · simp_all
    · split <;> simp_all

/-- Digits that are found are read with the exponent after them, if one of them is a digit. -/
theorem exists_unsigned?_splitDigits (negative : Bool) {tail : Text} (htail : BeginsExponent tail)
    {n : Int} (hn : Decimal.exponent? tail = some n)
    (hany : (splitDigits false t).1.any Char.isDigit = true) :
    ∃ d, Decimal.unsigned? negative ((splitDigits false t).1 ++ tail) = some d := by
  obtain ⟨whole, places, hwhole, hplaces, hdigits⟩ := exists_splitDigits_eq t
  rw [← Option.isSome_iff_exists]
  rcases hdigits with hdigits | ⟨hdigits, rfl⟩
  · have hne : whole ++ places ≠ [] := by
      intro hnil
      obtain ⟨rfl, rfl⟩ := List.append_eq_nil_iff.1 hnil
      rw [hdigits] at hany
      exact absurd hany (by decide)
    rw [hdigits, List.append_assoc, List.cons_append,
      isSome_unsigned?_point negative hwhole hplaces htail hne, hn]
    rfl
  · have hne : whole ≠ [] := by
      rintro rfl
      rw [hdigits] at hany
      exact absurd hany (by decide)
    rw [hdigits, isSome_unsigned?_whole negative hwhole htail hne, hn]
    rfl

/-- A number that is found is one. -/
theorem exists_read?_of_takeNumber? (h : takeNumber? t = some (number, rest)) :
    ∃ d, Decimal.read? number = some d := by
  rw [takeNumber?] at h
  simp only at h
  split at h
  · rename_i hany
    obtain ⟨rfl, -⟩ := Prod.mk.inj (Option.some.inj h)
    generalize (splitSign t).2 = u at hany
    obtain ⟨n, hn⟩ := exists_exponent? (splitDigits false u).2
    have htail := beginsExponent_splitExponent (splitDigits false u).2
    generalize (splitExponent (splitDigits false u).2).1 = tail at hn htail
    -- The sign of the number is the one that was found, as no other follows it.
    have hsign : ∀ c ∈ ((splitDigits false u).1 ++ tail).head?, c ≠ '+' ∧ c ≠ '-' := by
      intro c hc
      rw [List.head?_append_of_ne_nil _ fun hnil => by simp [hnil] at hany] at hc
      rcases head?_splitDigits u c hc with hdigit | rfl
      · exact not_sign_of_isDigit hdigit
      · decide
    rw [List.append_assoc, read?_eq, takeSign_append t hsign]
    exact exists_unsigned?_splitDigits _ htail hn hany
  · cases h

/-! ## Where nothing is found -/

/-- Where digits are read, a number begins. -/
theorem beginsDigits_of_unsigned? {negative : Bool} {d : Decimal}
    (h : Decimal.unsigned? negative t = some d) : BeginsDigits t := by
  cases t with
  | nil => exact nomatch h
  | cons c t =>
    by_cases hc : c.isDigit = true
    · exact ⟨c, t, hc, .inl rfl⟩
    · by_cases hpoint : c = '.'
      · subst hpoint
        cases t with
        | nil => exact nomatch h
        | cons d t =>
          by_cases hd : d.isDigit = true
          · exact ⟨d, t, hd, .inr rfl⟩
          · simp [Decimal.unsigned?, hc, hd] at h
      · simp [Decimal.unsigned?, hc, hpoint] at h

/-- A sign is found where it is read, whatever follows the number. -/
theorem splitSign_append_right (h : number ≠ []) (rest : Text) :
    (splitSign (number ++ rest)).2 = (Decimal.takeSign number).2 ++ rest := by
  obtain ⟨c, t, rfl⟩ := List.exists_cons_of_ne_nil h
  unfold Decimal.takeSign
  split
  · simp_all [splitSign]
  · simp_all [splitSign]
  · simp_all [splitSign]

/-- Where no number is found, none stands at the start of the text. -/
theorem read?_eq_none_of_takeNumber? (h : takeNumber? (number ++ rest) = none) :
    Decimal.read? number = none := by
  by_contra hread
  obtain ⟨d, hd⟩ := Option.ne_none_iff_exists'.1 hread
  have hbegins := beginsDigits_of_unsigned? ((read?_eq number).symm.trans hd)
  have hne : number ≠ [] := by
    rintro rfl
    exact nomatch hd
  have hfound := (isSome_takeNumber?_iff (number ++ rest)).2 <| by
    rw [splitSign_append_right hne]
    exact hbegins.append rest
  rw [h] at hfound
  exact nomatch hfound

end CircuitHub.Path

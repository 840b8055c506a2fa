import CircuitHub.Proofs.Schematic.Subpaths
import Mathlib.Logic.Relation

/-!
# Letters that are left out

A command that has had its numbers goes on if more of them follow, and its letter need not be said
again; after a move, the command that goes on is a line. To say the letter after all makes no
difference (`Repeats.traceFrom_eq`): the pen has it in mind already, as the numbers before have been
drawn in whole groups by then (`traceFrom_groups`). What is drawn before the letter of those groups
does not matter to this, nor whether it can be drawn at all, as no number is taken across a letter
(`traceFrom_congr_command`).

* `trace_repeats`: path data is drawn as it would be with all letters that are left out.
-/

namespace CircuitHub.Path

variable {pen : Pen} {ts : List Token} {k : Char} {c : Command} {args : List Float}

/-! ## Letters and what they name -/

theorem letter_eq (h : meaning? k = some (.draws c)) : c.letter = k := by
  unfold meaning? at h
  split at h <;> cases h <;> rfl

@[simp] theorem Command.arity_following (c : Command) : c.following.arity = c.arity := by
  obtain ⟨letter, kind⟩ := c
  cases kind <;> rfl

@[simp] theorem Command.following_following (c : Command) :
    c.following.following = c.following := by
  obtain ⟨letter, kind⟩ := c
  cases kind <;> rfl

/-- The letter of the command that goes on names this command. -/
theorem meaning?_following (h : meaning? k = some (.draws c)) :
    meaning? c.following.letter = some (.draws c.following) := by
  have hletter := letter_eq h
  obtain ⟨letter, kind⟩ := c
  cases kind with
  | move =>
    simp only [Command.following]
    split <;> decide
  | line | horizontal | vertical | curve => exact hletter ▸ h

/-- A command that has had its numbers leaves the one that goes on in mind. -/
theorem command?_draw (h : pen.command? = some c) (args : List Float) :
    (pen.draw c args).2.command? = some c.following := by
  obtain ⟨letter, kind⟩ := c
  cases kind with
  | move => rfl
  | line | horizontal | vertical | curve => exact h

/-! ## Numbers before a letter -/

theorem takeNumbers?_map (args : List Float) (rest : List Token) :
    takeNumbers? args.length (args.map .number ++ rest) = some (args, rest) := by
  induction args with
  | nil => rfl
  | cons x args ih => simp [takeNumbers?, ih]

/-- No number is taken from behind a letter. -/
theorem takeNumbers?_append_command (n : Nat) (ts : List Token) (k : Char) (more : List Token) :
    takeNumbers? n (ts ++ .command k :: more) =
      (takeNumbers? n ts).map fun (args, rest) => (args, rest ++ .command k :: more) := by
  induction n generalizing ts with
  | zero => rfl
  | succ n ih =>
    match ts with
    | [] => rfl
    | .command _ :: _ => rfl
    | .number x :: ts =>
      rw [List.cons_append, takeNumbers?, takeNumbers?, ih, Option.map_map, Option.map_map]
      rfl

/-- What is drawn from a letter on tells how the whole is drawn. -/
theorem traceFrom_congr_command {k₁ k₂ : Char} {more₁ more₂ : List Token}
    (h : ∀ pen, traceFrom pen (.command k₁ :: more₁) = traceFrom pen (.command k₂ :: more₂))
    (pen : Pen) (before : List Token) :
    traceFrom pen (before ++ .command k₁ :: more₁) =
      traceFrom pen (before ++ .command k₂ :: more₂) := by
  fun_induction traceFrom pen before with
  | case1 pen => exact h pen
  | case2 pen c rest hc => rw [List.cons_append, List.cons_append, traceFrom, traceFrom, hc]
  | case3 pen c rest hc closing next hclose ih =>
    rw [List.cons_append, List.cons_append, traceFrom, traceFrom, hc]
    simp only [hclose, ih]
  | case4 pen c rest command hc ih =>
    rw [List.cons_append, List.cons_append, traceFrom, traceFrom, hc]
    exact ih
  | case5 pen x rest hcommand =>
    rw [List.cons_append, List.cons_append, traceFrom_number_eq, traceFrom_number_eq, hcommand]
  | case6 pen x rest command hcommand hargs =>
    have hmore (k : Char) (more : List Token) := takeNumbers?_append_command command.arity
      (.number x :: rest) k more
    simp only [List.cons_append, hargs, Option.map_none] at hmore
    simp only [List.cons_append, traceFrom_number_eq, hcommand, hmore]
  | case7 pen x rest command hcommand args rest' hargs drawn next hdraw ih =>
    have hmore (k : Char) (more : List Token) := takeNumbers?_append_command command.arity
      (.number x :: rest) k more
    simp only [List.cons_append, hargs, Option.map_some] at hmore
    simp only [List.cons_append, traceFrom_number_eq, hcommand, hmore, hdraw, ih]

/-! ## Groups of numbers -/

/-- A group of numbers is drawn by the command that the pen has in mind. -/
theorem traceFrom_group (hcommand : pen.command? = some c) (hargs : args.length = c.arity)
    (more : List Token) :
    traceFrom pen (args.map .number ++ more) =
      (traceFrom (pen.draw c args).2 more).map ((pen.draw c args).1 ++ ·) := by
  cases args with
  | nil => exact absurd hargs (Nat.succ_ne_zero _).symm
  | cons x args =>
    have htake := takeNumbers?_map (x :: args) more
    rw [hargs] at htake
    exact traceFrom_number hcommand htake

/-- Some groups of numbers are drawn whatever follows them, and leave the command that goes on in
    mind. -/
theorem traceFrom_groups (hcommand : pen.command? = some c) {n : Nat} {numbers : List Float}
    (hlength : numbers.length = (n + 1) * c.arity) :
    ∃ drawn pen', pen'.command? = some c.following ∧ ∀ more,
      traceFrom pen (numbers.map .number ++ more) = (traceFrom pen' more).map (drawn ++ ·) := by
  induction n generalizing pen c numbers with
  | zero =>
    exact ⟨_, _, command?_draw hcommand numbers, traceFrom_group hcommand (by omega)⟩
  | succ n ih =>
    have hgroup : (numbers.take c.arity).length = c.arity := by
      rw [List.length_take, hlength, Nat.add_mul (n + 1) 1]
      omega
    have hrest : (numbers.drop c.arity).length = (n + 1) * c.following.arity := by
      rw [List.length_drop, hlength, Command.arity_following, Nat.add_mul (n + 1) 1]
      omega
    obtain ⟨drawn, pen', hcommand', hdrawn⟩ :=
      ih (command?_draw hcommand (numbers.take c.arity)) hrest
    refine ⟨(pen.draw c (numbers.take c.arity)).1 ++ drawn, pen',
      hcommand'.trans (congrArg some c.following_following), fun more => ?_⟩
    calc traceFrom pen (numbers.map .number ++ more)
        = traceFrom pen ((numbers.take c.arity).map .number ++
            ((numbers.drop c.arity).map .number ++ more)) := by
          rw [← List.append_assoc, ← List.map_append, List.take_append_drop]
      _ = (traceFrom pen' more).map ((pen.draw c (numbers.take c.arity)).1 ++ drawn ++ ·) := by
          rw [traceFrom_group hcommand hgroup, hdrawn, map_append_append]

/-! ## Letters said again -/

namespace Meaning

/-- How many numbers belong to a letter each time. -/
def arity : Meaning → Nat
  | draws c => c.arity
  | closes => 0

/-- The letter that would be said again if numbers follow. After the letter of a move it is that of
    a line. -/
def again (letter : Char) : Meaning → Char
  | draws c => c.following.letter
  | closes => letter

end Meaning

/-- A letter is followed by as many numbers as it takes, once or several times, and then by another
    number. Before this one, the second tokens say a letter again. -/
inductive Repeats : List Token → List Token → Prop
  | intro {letter : Char} {meaning : Meaning} {n : Nat} (before : List Token)
    (numbers : List Float) (x : Float) (rest : List Token)
    (hletter : meaning? letter = some meaning)
    (hlength : numbers.length = (n + 1) * meaning.arity) :
    Repeats (before ++ .command letter :: (numbers.map .number ++ .number x :: rest))
      (before ++ .command letter ::
        (numbers.map .number ++ .command (meaning.again letter) :: .number x :: rest))

/-- No number belongs to the letter that closes a subpath, however often it is said. -/
theorem traceFrom_closes_number (hk : meaning? k = some .closes) (pen : Pen) (x : Float)
    (rest : List Token) :
    traceFrom pen (.command k :: .number x :: rest) = .error .numberWithoutCommand := by
  rw [traceFrom, hk]
  simp only [traceFrom_number_eq, Pen.close]
  rfl

/-- To say a letter again changes neither what is drawn nor what is wrong. -/
theorem Repeats.traceFrom_eq {ts' : List Token} (h : Repeats ts ts') (pen : Pen) :
    traceFrom pen ts' = traceFrom pen ts := by
  obtain ⟨before, numbers, x, rest, hletter, hlength⟩ := h
  rename_i letter meaning n
  refine traceFrom_congr_command (fun pen => ?_) pen before
  cases meaning with
  | closes =>
    obtain rfl : numbers = [] := List.length_eq_zero_iff.1 hlength
    rw [List.map_nil, List.nil_append, List.nil_append, traceFrom_closes_number hletter, traceFrom,
      hletter]
    simp only [Meaning.again, traceFrom_closes_number hletter]
    rfl
  | draws c =>
    have hletters : ({ pen with command? := some c } : Pen).command? = some c := rfl
    obtain ⟨drawn, pen', hcommand, hdrawn⟩ := traceFrom_groups hletters hlength
    rw [traceFrom, traceFrom, hletter]
    -- The pen has the command that goes on in mind, and its letter tells it nothing new.
    have hsame : { pen' with command? := some c.following } = pen' := by rw [← hcommand]
    simp only [hdrawn, Meaning.again]
    rw [traceFrom, meaning?_following hletter]
    simp only [hsame]

/-! ## All letters -/

/-- Tokens with the letters that are left out. A command in force comes with how many numbers it
    still lacks. -/
def explicitFrom (due? : Option (Command × Nat)) : List Token → List Token
  | [] => []
  | .command k :: rest =>
    .command k :: explicitFrom
      (match meaning? k with
        | some (.draws c) => some (c, c.arity)
        | _ => none) rest
  | .number x :: rest =>
    match due? with
    | none => .number x :: explicitFrom none rest
    | some (c, n + 1) => .number x :: explicitFrom (some (c, n)) rest
    | some (c, 0) =>
      .command c.following.letter :: .number x ::
        explicitFrom (some (c.following, c.following.arityPred)) rest

/-- Tokens with the letters that are left out. -/
def explicit (ts : List Token) : List Token := explicitFrom none ts

/-- No letter is left out: none is followed by more numbers than it takes at once. -/
def IsExplicit (ts : List Token) : Prop :=
  ∀ (before : List Token) (letter : Char) (c : Command) (numbers : List Float) (rest : List Token),
    ts = before ++ .command letter :: (numbers.map .number ++ rest) →
      meaning? letter = some (.draws c) → numbers.length ≤ c.arity

/-- Some tokens end in the letter of a command and numbers, of which the command lacks `n`. -/
def EndsIn (before : List Token) (c : Command) (n : Nat) : Prop :=
  ∃ (start : List Token) (letter : Char) (numbers : List Float),
    before = start ++ .command letter :: numbers.map .number ∧
      meaning? letter = some (.draws c) ∧ numbers.length + n = c.arity

theorem EndsIn.number {before : List Token} {n : Nat} (h : EndsIn before c (n + 1)) (x : Float) :
    EndsIn (before ++ [.number x]) c n := by
  obtain ⟨start, letter, numbers, rfl, hletter, hlength⟩ := h
  refine ⟨start, letter, numbers ++ [x], by simp, hletter, ?_⟩
  rw [List.length_append, List.length_singleton]
  omega

theorem endsIn_command (before : List Token) (hk : meaning? k = some (.draws c)) :
    EndsIn (before ++ [.command k]) c c.arity :=
  ⟨before, k, [], rfl, hk, Nat.zero_add _⟩

/-- A number after a whole group is one before which a letter may be said again. -/
theorem EndsIn.repeats {before : List Token} (h : EndsIn before c 0) (x : Float)
    (rest : List Token) :
    Repeats (before ++ .number x :: rest)
      (before ++ .command c.following.letter :: .number x :: rest) := by
  obtain ⟨start, letter, numbers, rfl, hletter, hlength⟩ := h
  rw [List.append_assoc, List.append_assoc]
  refine .intro (n := 0) start numbers x rest hletter ?_
  rw [Meaning.arity]
  omega

/-- The letters that are left out can be said again one by one. -/
theorem repeats_explicitFrom (due? : Option (Command × Nat)) (before ts : List Token)
    (hdue : ∀ due ∈ due?, EndsIn before due.1 due.2) :
    Relation.ReflTransGen Repeats (before ++ ts) (before ++ explicitFrom due? ts) := by
  induction ts generalizing due? before with
  | nil => exact .refl
  | cons t ts ih =>
    -- A token that is taken over stands at the end of those that are settled.
    have taken (due? : Option (Command × Nat)) (before : List Token)
        (hdue : ∀ due ∈ due?, EndsIn (before ++ [t]) due.1 due.2) :
        Relation.ReflTransGen Repeats (before ++ t :: ts) (before ++ t :: explicitFrom due? ts) := by
      simpa using ih due? (before ++ [t]) hdue
    cases t with
    | command k =>
      refine taken _ before fun due hmem => ?_
      split at hmem
      · rename_i c hk
        cases hmem
        exact endsIn_command before hk
      · cases hmem
    | number x =>
      match due? with
      | none => exact taken none before fun due hmem => nomatch hmem
      | some (c, n + 1) =>
        refine taken _ before fun due hmem => ?_
        cases hmem
        exact (hdue _ rfl).number x
      | some (c, 0) =>
        have hends : EndsIn before c 0 := hdue _ rfl
        obtain ⟨-, letter, -, -, hletter, -⟩ := hdue _ rfl
        refine .head (hends.repeats x ts) ?_
        have hsaid : EndsIn (before ++ [.command c.following.letter] ++ [.number x]) c.following
            c.following.arityPred :=
          (endsIn_command before (meaning?_following hletter)).number x
        have hrest := taken (some (c.following, c.following.arityPred))
          (before ++ [.command c.following.letter]) fun due hmem => by
            cases hmem
            exact hsaid
        simpa [explicitFrom] using hrest

/-- A command that lacks some numbers has no more of them before the next letter. -/
theorem length_le_of_explicitFrom {n : Nat} {numbers : List Float} {rest : List Token}
    (h : explicitFrom (some (c, n)) ts = numbers.map .number ++ rest) : numbers.length ≤ n := by
  induction ts generalizing c n numbers with
  | nil =>
    cases numbers with
    | nil => exact Nat.zero_le n
    | cons x numbers => exact nomatch h
  | cons t ts ih =>
    cases numbers with
    | nil => exact Nat.zero_le n
    | cons x numbers =>
      cases t with
      | command k => exact nomatch h
      | number y =>
        cases n with
        | zero => exact nomatch h
        | succ n =>
          rw [explicitFrom, List.map_cons, List.cons_append, List.cons.injEq] at h
          exact Nat.succ_le_succ (ih h.2)

/-- A letter that stands before the tokens has all numbers that it takes at once. -/
theorem IsExplicit.cons (h : IsExplicit ts)
    (hk : ∀ (c : Command) (numbers : List Float) (rest : List Token),
      meaning? k = some (.draws c) → ts = numbers.map .number ++ rest →
        numbers.length ≤ c.arity) :
    IsExplicit (.command k :: ts) := by
  intro before letter c numbers rest hts hletter
  cases before with
  | nil =>
    obtain ⟨hsame, htail⟩ := List.cons.inj hts
    cases hsame
    exact hk c numbers rest hletter htail
  | cons t before => exact h before letter c numbers rest (List.cons.inj hts).2 hletter

theorem IsExplicit.cons_number (h : IsExplicit ts) (x : Float) : IsExplicit (.number x :: ts) := by
  intro before letter c numbers rest hts hletter
  cases before with
  | nil => exact nomatch hts
  | cons t before => exact h before letter c numbers rest (List.cons.inj hts).2 hletter

/-- No letter is left out any more. -/
theorem isExplicit_explicitFrom (due? : Option (Command × Nat)) (ts : List Token)
    (hdue : ∀ due ∈ due?, ∃ letter, meaning? letter = some (.draws due.1)) :
    IsExplicit (explicitFrom due? ts) := by
  induction ts generalizing due? with
  | nil => simp [explicitFrom, IsExplicit]
  | cons t ts ih =>
    cases t with
    | command k =>
      rw [explicitFrom]
      refine (ih _ fun due hmem => ?_).cons fun c numbers rest hk h => ?_
      · split at hmem
        · rename_i c hk
          cases hmem
          exact ⟨k, hk⟩
        · cases hmem
      · rw [hk] at h
        exact length_le_of_explicitFrom h
    | number x =>
      match due? with
      | none => exact (ih none hdue).cons_number x
      | some (c, n + 1) =>
        refine (ih _ fun due hmem => ?_).cons_number x
        cases hmem
        exact hdue (c, n + 1) rfl
      | some (c, 0) =>
        obtain ⟨letter, hletter⟩ := hdue _ rfl
        have hsaid := meaning?_following hletter
        have hrest : IsExplicit (explicitFrom (some (c.following, c.following.arityPred)) ts) :=
          ih _ fun due hmem => by
            cases hmem
            exact ⟨_, hsaid⟩
        refine (hrest.cons_number x).cons fun c' numbers rest hk h => ?_
        cases hk.symm.trans hsaid
        cases numbers with
        | nil => exact Nat.zero_le _
        | cons y numbers => exact Nat.succ_le_succ (length_le_of_explicitFrom (List.cons.inj h).2)

theorem repeats_explicit (ts : List Token) : Relation.ReflTransGen Repeats ts (explicit ts) :=
  repeats_explicitFrom none [] ts fun _ h => nomatch h

theorem isExplicit_explicit (ts : List Token) : IsExplicit (explicit ts) :=
  isExplicit_explicitFrom none ts fun _ h => nomatch h

theorem traceFrom_explicit (pen : Pen) (ts : List Token) :
    traceFrom pen (explicit ts) = traceFrom pen ts := by
  generalize explicit ts = ts', repeats_explicit ts = h
  induction h with
  | refl => rfl
  | tail _ hlast ih => exact (hlast.traceFrom_eq pen).trans ih

/-! ## Path data -/

/-- Wherever numbers follow the whole groups of a letter, saying the letter again leaves the drawing
    and its mistakes as they are. With all letters that are left out said again one by one, path
    data is drawn as it is without them. -/
theorem trace_repeats :
    (∀ ts ts', Repeats ts ts' → ∀ pen, traceFrom pen ts' = traceFrom pen ts) ∧
      (∀ ts, Relation.ReflTransGen Repeats ts (explicit ts) ∧ IsExplicit (explicit ts)) ∧
      ∀ data, trace data = (tokens data).bind fun ts => traceFrom Pen.origin (explicit ts) := by
  refine ⟨fun ts ts' h => h.traceFrom_eq, fun ts => ⟨repeats_explicit ts, isExplicit_explicit ts⟩,
    fun data => ?_⟩
  rw [trace_eq]
  exact congrArg _ (funext fun ts => (traceFrom_explicit Pen.origin ts).symm)

/-- A move with a second group and half a group after it. The line that goes on is said, and lacks a
    number all the same. -/
theorem trace_repeats_halfLine :
    Repeats [.command 'm', .number 5, .number 40, .number 40, .number 5, .number 40]
        [.command 'm', .number 5, .number 40, .number 40, .number 5, .command 'l', .number 40] ∧
      traceFrom Pen.origin
          [.command 'm', .number 5, .number 40, .number 40, .number 5, .command 'l', .number 40] =
        .error (.missingNumbers 'l' 2) := by
  have hmove : meaning? 'm' = some (.draws ⟨'m', .move⟩) := by decide
  have hrepeats : Repeats [.command 'm', .number 5, .number 40, .number 40, .number 5, .number 40]
      [.command 'm', .number 5, .number 40, .number 40, .number 5, .command 'l', .number 40] :=
    .intro (n := 1) [] [5, 40, 40, 5] 40 [] hmove rfl
  refine ⟨hrepeats, (trace_repeats.1 _ _ hrepeats Pen.origin).trans ?_⟩
  simp [traceFrom, hmove, takeNumbers?, Command.arity, Command.arityPred, Pen.draw,
    Command.following, Command.isRelative, Except.map]

end CircuitHub.Path

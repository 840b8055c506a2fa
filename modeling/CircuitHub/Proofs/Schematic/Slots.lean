import CircuitHub.Proofs.Schematic.Repeats
import CircuitHub.Proofs.Schematic.Scanning

/-!
# Letters and slots

A pen may have no command in mind but only its letter, and look up how many numbers the letter takes
and where they take the pen (`arity?`, `LetterPen.draw?`). The numbers are put into seven slots. That
there are more of them, that the letter takes the pen nowhere and that no number is used up are
faults (`LetterPen.traceFrom?`), and none of them happens: a letter is kept in mind only if it names
a command (`Pen.IsNamed`), and the one that goes on after a move names one as well.

* `traceFrom?_byLetter`: a pen that goes by letters draws what the pen with commands draws;
* `trace_faultless`: path data is read over its bytes and drawn by letters without a fault.
-/

namespace CircuitHub.Path

/-- How many numbers a letter takes each time, if it names a command. -/
def arity? (c : Char) : Option Nat :=
  match c.toUpper with
  | 'M' | 'L' | 'T' => some 2
  | 'H' | 'V' => some 1
  | 'S' | 'Q' => some 4
  | 'C' => some 6
  | 'A' => some 7
  | 'Z' => some 0
  | _ => none

/-- A pen that has the letter of its command in mind. -/
structure LetterPen where
  /-- Where the pen is. -/
  position : Point
  /-- Where the subpath began. -/
  start : Point
  /-- The letter that the next numbers belong to. -/
  letter? : Option Char

/-- The slots for the numbers of a command, with zeros in those that the command leaves. -/
def slots (args : List Float) : Vector Float 7 := Vector.ofFn fun i => args[i.val]?.getD 0

/-- The strokes of a letter and the pen after it. There is no answer for a letter that takes the pen
    nowhere. -/
def LetterPen.draw? (pen : LetterPen) (c : Char) (args : Vector Float 7) :
    Option (List Stroke × LetterPen) :=
  let pointAt (x y : Float) : Point :=
    if c.isLower then ⟨pen.position.x + x, pen.position.y + y⟩ else ⟨x, y⟩
  let strokeTo (p : Point) : List Stroke × LetterPen :=
    ([⟨pen.position, p⟩], { pen with position := p })
  match c.toUpper with
  | 'M' =>
    let p := pointAt args[0] args[1]
    some ([], ⟨p, p, some (if c.isLower then 'l' else 'L')⟩)
  | 'L' | 'T' => some (strokeTo (pointAt args[0] args[1]))
  | 'H' =>
    let x := if c.isLower then pen.position.x + args[0] else args[0]
    some (strokeTo ⟨x, pen.position.y⟩)
  | 'V' =>
    let y := if c.isLower then pen.position.y + args[0] else args[0]
    some (strokeTo ⟨pen.position.x, y⟩)
  | 'S' | 'Q' => some (strokeTo (pointAt args[2] args[3]))
  | 'C' => some (strokeTo (pointAt args[4] args[5]))
  | 'A' => some (strokeTo (pointAt args[5] args[6]))
  | _ => none

/-- The strokes that a pen draws by the tokens of path data. There is no answer where a letter takes
    more numbers than there are slots, where it takes the pen nowhere, and where no number is used
    up. -/
def LetterPen.traceFrom? (pen : LetterPen) (tokens : List Token) :
    Option (Except PathError (List Stroke)) :=
  match tokens with
  | [] => some (.ok [])
  | .command c :: rest =>
    if arity? c = none then some (.error (.unknownCommand c))
    else if c = 'z' ∨ c = 'Z' then
      let closing := if pen.position == pen.start then [] else [⟨pen.position, pen.start⟩]
      (traceFrom? ⟨pen.start, pen.start, none⟩ rest).map fun strokes => strokes.map (closing ++ ·)
    else traceFrom? { pen with letter? := some c } rest
  | .number x :: rest =>
    match pen.letter? with
    | none => some (.error .numberWithoutCommand)
    | some c =>
      let count := (arity? c).getD 0
      if 7 < count then none
      else
        match takeNumbers? count (.number x :: rest) with
        | none => some (.error (.missingNumbers c count))
        | some (args, rest') =>
          match pen.draw? c (slots args) with
          | none => none
          | some (drawn, next) =>
            if _h : rest'.length ≤ rest.length then
              (next.traceFrom? rest').map fun strokes => strokes.map (drawn ++ ·)
            else none
termination_by tokens.length

/-- The strokes of path data, read over its bytes and drawn by letters. -/
def trace? (data : Text) : Option (Except PathError (List Stroke)) :=
  match tokens? data with
  | none => none
  | some (.error e) => some (.error e)
  | some (.ok tokens) => LetterPen.traceFrom? ⟨⟨0, 0⟩, ⟨0, 0⟩, none⟩ tokens

/-! ## Letters and commands -/

variable {c : Char} {command : Command} {pen : Pen}

/-- The letters of each kind of command. -/
theorem toUpper_of_meaning? (h : meaning? c = some (.draws command)) :
    command = ⟨c, .move⟩ ∧ c.toUpper = 'M' ∨
    command = ⟨c, .line⟩ ∧ (c.toUpper = 'L' ∨ c.toUpper = 'T') ∨
    command = ⟨c, .horizontal⟩ ∧ c.toUpper = 'H' ∨
    command = ⟨c, .vertical⟩ ∧ c.toUpper = 'V' ∨
    command = ⟨c, .curve 2⟩ ∧ (c.toUpper = 'S' ∨ c.toUpper = 'Q') ∨
    command = ⟨c, .curve 4⟩ ∧ c.toUpper = 'C' ∨
    command = ⟨c, .curve 5⟩ ∧ c.toUpper = 'A' := by
  unfold meaning? at h
  split at h <;> simp_all

theorem arity?_of_draws (h : meaning? c = some (.draws command)) :
    arity? c = some command.arity := by
  rcases toUpper_of_meaning? h with ⟨rfl, hc⟩ | ⟨rfl, hc | hc⟩ | ⟨rfl, hc⟩ | ⟨rfl, hc⟩ |
    ⟨rfl, hc | hc⟩ | ⟨rfl, hc⟩ | ⟨rfl, hc⟩ <;>
  simp [arity?, hc, Command.arity, Command.arityPred]

/-- There are slots for the numbers of every command. -/
theorem arity_le_seven (h : meaning? c = some (.draws command)) : command.arity ≤ 7 := by
  rcases toUpper_of_meaning? h with ⟨rfl, -⟩ | ⟨rfl, -⟩ | ⟨rfl, -⟩ | ⟨rfl, -⟩ | ⟨rfl, -⟩ |
    ⟨rfl, -⟩ | ⟨rfl, -⟩ <;>
  simp [Command.arity, Command.arityPred]

theorem arity?_eq_none (h : meaning? c = none) : arity? c = none := by
  unfold meaning? at h
  split at h <;> simp_all [arity?]

/-- The pen with the letter of its command for the command. -/
def Pen.byLetter (pen : Pen) : LetterPen := ⟨pen.position, pen.start, pen.command?.map (·.letter)⟩

theorem draw?_byLetter (h : meaning? c = some (.draws command)) (pen : Pen) (args : List Float) :
    pen.byLetter.draw? c (slots args) =
      some ((pen.draw command args).1, (pen.draw command args).2.byLetter) := by
  rcases toUpper_of_meaning? h with ⟨rfl, hc⟩ | ⟨rfl, hc | hc⟩ | ⟨rfl, hc⟩ | ⟨rfl, hc⟩ |
    ⟨rfl, hc | hc⟩ | ⟨rfl, hc⟩ | ⟨rfl, hc⟩ <;>
  simp only [LetterPen.draw?, hc] <;> rfl

theorem eq_of_toUpper_eq_Z (h : c.toUpper = 'Z') : c = 'z' ∨ c = 'Z' := by
  delta Char.toUpper at h
  split at h
  · rename_i hlower
    left
    have hlast : c.val.toNat ≤ 122 := UInt32.le_iff_toNat_le.1 hlower.2
    have hval := congrArg (fun d : Char => d.val.toNat) h
    rw [Char.ext_iff, ← UInt32.toNat_inj]
    simp only [UInt32.toNat_add, UInt32.reduceToNat, Char.reduceVal, UInt32.reduceSub,
      Nat.reducePow] at hval ⊢
    omega
  · exact .inr h

theorem closes_iff : meaning? c = some .closes ↔ c = 'z' ∨ c = 'Z' := by
  constructor
  · intro h
    unfold meaning? at h
    split at h
    case h_10 hc => exact eq_of_toUpper_eq_Z hc
    all_goals cases h
  · rintro (rfl | rfl) <;> decide

/-- The pen has no command in mind but one that its letter names. -/
def Pen.IsNamed (pen : Pen) : Prop :=
  ∀ command ∈ pen.command?, meaning? command.letter = some (.draws command)

theorem Pen.isNamed_origin : Pen.origin.IsNamed := fun _ h => nomatch h

/-- A pen that goes by letters takes numbers as the pen does, and finds slots for all of them. -/
theorem traceFrom?_number {pen : Pen} (hpen : pen.IsNamed) (hcommand : pen.command? = some command)
    (x : Float) (rest : List Token) :
    pen.byLetter.traceFrom? (.number x :: rest) =
      match takeNumbers? command.arity (.number x :: rest) with
      | none => some (.error (.missingNumbers command.letter command.arity))
      | some (args, rest') =>
        ((pen.draw command args).2.byLetter.traceFrom? rest').map
          fun strokes => strokes.map ((pen.draw command args).1 ++ ·) := by
  have hnamed := hpen command hcommand
  have hletter : pen.byLetter.letter? = some command.letter := by rw [Pen.byLetter, hcommand]; rfl
  rw [LetterPen.traceFrom?, hletter]
  simp only [arity?_of_draws hnamed, Option.getD_some, if_neg (Nat.not_lt.2 (arity_le_seven hnamed))]
  cases hargs : takeNumbers? command.arity (.number x :: rest) with
  | none => rfl
  | some taken =>
    obtain ⟨args, rest'⟩ := taken
    have hlength := takeNumbers?_length hargs
    rw [List.length_cons, Command.arity] at hlength
    simp only [draw?_byLetter hnamed]
    rw [dif_pos (by omega)]

/-- A pen that goes by letters draws what the pen draws. -/
theorem traceFrom?_byLetter {pen : Pen} (hpen : pen.IsNamed) (ts : List Token) :
    pen.byLetter.traceFrom? ts = some (traceFrom pen ts) := by
  fun_induction traceFrom pen ts with
  | case1 pen => rw [LetterPen.traceFrom?]
  | case2 pen c rest hc => rw [LetterPen.traceFrom?, if_pos (arity?_eq_none hc)]
  | case3 pen c rest hc closing next hclose ih =>
    obtain ⟨rfl, rfl⟩ := Prod.mk.inj hclose
    have hletter := closes_iff.1 hc
    have harity : ¬arity? c = none := by
      rcases hletter with rfl | rfl <;> decide
    have hrest : LetterPen.traceFrom? ⟨pen.start, pen.start, none⟩ rest =
        some (traceFrom pen.close.2 rest) := ih fun _ h => absurd h (Option.not_mem_none _)
    rw [LetterPen.traceFrom?, if_neg harity, if_pos hletter]
    simp only [Pen.byLetter, hrest]
    rfl
  | case4 pen c rest command hc ih =>
    -- The letter is known and does not close the subpath, so that it is kept in mind.
    have harity : ¬arity? c = none := by
      rw [arity?_of_draws hc]
      exact Option.some_ne_none _
    have hletter : ¬(c = 'z' ∨ c = 'Z') := fun h => by
      cases (closes_iff.2 h).symm.trans hc
    have hsame := letter_eq hc
    have hrest := ih fun command' hmem => by
      cases hmem
      rwa [hsame]
    rw [LetterPen.traceFrom?, if_neg harity, if_neg hletter, ← hrest, ← hsame]
    rfl
  | case5 pen x rest hcommand =>
    rw [LetterPen.traceFrom?]
    simp only [Pen.byLetter, hcommand]
    rfl
  | case6 pen x rest command hcommand hargs =>
    rw [traceFrom?_number hpen hcommand]
    simp only [hargs]
  | case7 pen x rest command hcommand args rest' hargs drawn next hdraw ih =>
    rw [traceFrom?_number hpen hcommand]
    simp only [hargs, hdraw]
    have hnext : next.command? = some command.following := by
      have := command?_draw hcommand args
      rwa [hdraw] at this
    -- What is left is the name of the command that goes on.
    rw [ih fun command' hmem => ?_]
    · rfl
    · obtain rfl : command.following = command' := Option.some.inj (hnext.symm.trans hmem)
      exact meaning?_following (hpen command hcommand)

/-! ## Path data -/

theorem trace?_eq (data : Text) : trace? data = some (trace data) := by
  rw [trace?, tokens?_eq, trace_eq]
  cases tokens data with
  | error e => rfl
  | ok ts => exact traceFrom?_byLetter Pen.isNamed_origin ts

/-- Path data is read and drawn without a fault. At each cursor before its end one either finds a
    character with which nothing begins, or goes on to a later cursor. Reading over the bytes gives
    the tokens, its only mistake is such a character at its place, and drawing by letters and slots
    gives the strokes. -/
theorem trace_faultless (data : Text) :
    (∀ place, data.HasCursor place → place < data.byteSize →
      (∃ c, scan? data place = some (.error (.unexpected c place)) ∧ StraysAt data c place) ∨
        ∃ token? next, scan? data place = some (.ok (token?, next)) ∧ place < next ∧
          data.HasCursor next) ∧
      tokens? data = some (tokens data) ∧
      (∀ e, tokens data = .error e → ∃ c place, e = .unexpected c place ∧ StraysAt data c place) ∧
      trace? data = some (trace data) :=
  ⟨fun _ => scan?_cases, tokens?_eq data, fun _ => straysAt_of_tokens, trace?_eq data⟩

theorem tokens_accent : tokens "M5 é" = .error (.unexpected 'é' 3) := by
  have hsize : '5'.utf8Size = 1 := by decide
  simp [tokens, tokensFrom, isSeparator, isCommandLetter, takeNumber?, splitSign, splitDigits,
    splitExponent, Except.map, readFloat?_five, hsize]

/-- The letter that is no command takes two bytes, and the numbers before it lack one. The letter is
    the mistake. -/
theorem trace_faultless_accent :
    Text.HasCursor "M5 é" 3 ∧ 3 < Text.byteSize "M5 é" ∧
      scan? "M5 é" 3 = some (.error (.unexpected 'é' 3)) ∧ StraysAt "M5 é" 'é' 3 ∧
      tokens? "M5 é" = some (.error (.unexpected 'é' 3)) ∧
      trace? "M5 é" = some (.error (.unexpected 'é' 3)) := by
  have hcursor : Text.HasCursor "M5 é" 3 := by decide
  have hlt : 3 < Text.byteSize "M5 é" := by decide
  have hnone : scan? "M5 é" 3 = some (.error (.unexpected 'é' 3)) :=
    scan?_append ['M', '5', ' '] 'é' []
  obtain ⟨hscan, hread, -, htrace⟩ := trace_faultless "M5 é"
  obtain ⟨c, hc, hstrays⟩ | ⟨_, _, htoken, -⟩ := hscan 3 hcursor hlt
  · cases hnone.symm.trans hc
    rw [tokens_accent] at hread
    rw [trace_eq, tokens_accent] at htrace
    exact ⟨hcursor, hlt, hc, hstrays, hread, htrace⟩
  · cases hnone.symm.trans htoken

end CircuitHub.Path

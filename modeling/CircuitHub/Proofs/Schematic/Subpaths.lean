import CircuitHub.Proofs.Schematic.Tokens

/-!
# Subpaths

A path is drawn by a pen that remembers where it is, where the subpath began and which command the
next numbers belong to. A move to a point overwrites all three, so that a subpath which begins with
one is drawn the same wherever it stands (`traceFrom_move`). What comes before it is drawn in full by
then: no number of the subpath belongs to a command before it (`traceFrom_append`).

* `trace_append_subpath`: path data followed by a subpath that begins with a move to a point.
-/

namespace CircuitHub.Path

variable {pen : Pen} {ts : List Token} {strokes : List Stroke}

/-- The numbers that a command takes from its data are the ones it takes if the data goes on. -/
theorem takeNumbers?_append {n : Nat} {rest : List Token} {args : List Float}
    (h : takeNumbers? n ts = some (args, rest)) (more : List Token) :
    takeNumbers? n (ts ++ more) = some (args, rest ++ more) := by
  induction n generalizing ts args with
  | zero =>
    cases h
    rfl
  | succ n ih =>
    match ts with
    | [] => cases h
    | .command _ :: _ => cases h
    | .number x :: ts =>
      obtain ⟨⟨xs, r⟩, hr, he⟩ := Option.map_eq_some_iff.1 h
      cases he
      rw [List.cons_append, takeNumbers?, ih hr]
      rfl

/-- Numbers are drawn by the command that the pen has, if there are enough of them. -/
theorem traceFrom_number_eq (pen : Pen) (x : Float) (rest : List Token) :
    traceFrom pen (.number x :: rest) =
      match pen.command? with
      | none => .error .numberWithoutCommand
      | some command =>
        match takeNumbers? command.arity (.number x :: rest) with
        | none => .error (.missingNumbers command.letter command.arity)
        | some (args, rest') =>
          (traceFrom (pen.draw command args).2 rest').map ((pen.draw command args).1 ++ ·) := by
  rw [traceFrom]
  cases pen.command? with
  | none => rfl
  | some command =>
    simp only
    split
    · rename_i hnone
      rw [hnone]
    · rename_i hsome
      rw [hsome]

/-- A pen with a command draws the strokes that the command makes of its numbers. -/
theorem traceFrom_number {x : Float} {rest rest' : List Token} {command : Command}
    {args : List Float} (hcommand : pen.command? = some command)
    (hargs : takeNumbers? command.arity (.number x :: rest) = some (args, rest')) :
    traceFrom pen (.number x :: rest) =
      (traceFrom (pen.draw command args).2 rest').map ((pen.draw command args).1 ++ ·) := by
  rw [traceFrom_number_eq, hcommand]
  simp only [hargs]

/-- Strokes before those of a drawing that goes on. -/
theorem map_append_append {ε : Type} (first second : List Stroke) (x : Except ε (List Stroke)) :
    (x.map (second ++ ·)).map (first ++ ·) = x.map (first ++ second ++ ·) := by
  cases x with
  | error e => rfl
  | ok strokes => simp [Except.map, List.append_assoc]

/-- Tokens that can be drawn are drawn alike whatever follows them, and some pen goes on from there. -/
theorem traceFrom_append (h : traceFrom pen ts = .ok strokes) :
    ∃ pen', ∀ more, traceFrom pen (ts ++ more) = (traceFrom pen' more).map (strokes ++ ·) := by
  fun_induction traceFrom pen ts generalizing strokes with
  | case1 pen =>
    cases h
    refine ⟨pen, fun more => ?_⟩
    rw [List.nil_append]
    cases traceFrom pen more <;> rfl
  | case2 => cases h
  | case3 pen c rest hc closing next hclose ih =>
    obtain ⟨drawn, hdrawn, rfl⟩ := map_eq_ok_iff.1 h
    obtain ⟨pen', hpen'⟩ := ih hdrawn
    refine ⟨pen', fun more => ?_⟩
    rw [List.cons_append, traceFrom, hc]
    simp only [hclose]
    rw [hpen', map_append_append]
  | case4 pen c rest command hc ih =>
    obtain ⟨pen', hpen'⟩ := ih h
    refine ⟨pen', fun more => ?_⟩
    rw [List.cons_append, traceFrom, hc]
    exact hpen' more
  | case5 => cases h
  | case6 => cases h
  | case7 pen x rest command hcommand args rest' hargs drawn next hdraw ih =>
    obtain ⟨after, hafter, rfl⟩ := map_eq_ok_iff.1 h
    obtain ⟨pen', hpen'⟩ := ih hafter
    refine ⟨pen', fun more => ?_⟩
    have hmore := takeNumbers?_append hargs more
    rw [List.cons_append] at hmore ⊢
    rw [traceFrom_number hcommand hmore, hdraw, hpen', map_append_append]

/-- A letter that names a command, and the numbers that it takes. -/
theorem traceFrom_command {c : Char} {command : Command} {rest : List Token} {args : List Float}
    (hc : meaning? c = some (.draws command))
    (hargs : takeNumbers? command.arity ts = some (args, rest)) (pen : Pen) :
    traceFrom pen (.command c :: ts) =
      (traceFrom (Pen.draw { pen with command? := some command } command args).2 rest).map
        ((Pen.draw { pen with command? := some command } command args).1 ++ ·) := by
  rw [traceFrom, hc]
  cases ts with
  | nil => cases hargs
  | cons token ts =>
    cases token with
    | command => cases hargs
    | number x => exact traceFrom_number rfl hargs

/-- A move to a point leaves nothing of what the pen was before. -/
theorem traceFrom_move (pen : Pen) (x y : Float) (rest : List Token) :
    traceFrom pen (.command 'M' :: .number x :: .number y :: rest) =
      traceFrom ⟨⟨x, y⟩, ⟨x, y⟩, some ⟨'L', .line⟩⟩ rest := by
  have hmeaning : meaning? 'M' = some (.draws ⟨'M', .move⟩) := by decide
  have hargs : takeNumbers? (Command.arity ⟨'M', .move⟩) (.number x :: .number y :: rest) =
      some ([x, y], rest) := rfl
  -- The letter is a capital, so that the numbers are the point itself.
  have hdraw : Pen.draw { pen with command? := some ⟨'M', .move⟩ } ⟨'M', .move⟩ [x, y] =
      ([], ⟨⟨x, y⟩, ⟨x, y⟩, some ⟨'L', .line⟩⟩) := by
    simp [Pen.draw, Pen.target, Pen.pointAt, Command.following, Command.isRelative]
  rw [traceFrom_command hmeaning hargs, hdraw]
  cases traceFrom ⟨⟨x, y⟩, ⟨x, y⟩, some ⟨'L', .line⟩⟩ rest <;> rfl

/-! ## Path data -/

theorem trace_eq (data : Text) : trace data = (tokens data).bind (traceFrom Pen.origin) := rfl

variable {d₁ d₂ : Text} {first : List Stroke} {x y : Float}

/-- Path data that goes on, after a separator, with a move to a point is drawn exactly if what goes
    on is, and then the strokes of both parts are drawn. -/
theorem trace_eq_ok_iff {s : Char} (hs : isSeparator s = true) (h₁ : trace d₁ = .ok first)
    (h₂ : [.command 'M', .number x, .number y] <+: tokensRead d₂) {drawn : List Stroke} :
    trace (d₁ ++ s :: d₂) = .ok drawn ↔ ∃ second, trace d₂ = .ok second ∧ first ++ second = drawn := by
  obtain ⟨ts₁, htokens₁, hfirst⟩ := bind_eq_ok_iff.1 h₁
  obtain ⟨pen', hpen'⟩ := traceFrom_append hfirst
  have htokens : tokens (d₁ ++ s :: d₂) =
      ((tokens d₂).mapError (·.shift (d₁.byteSize + 1))).map (ts₁ ++ ·) := by
    rw [tokens_append_eq hs, htokens₁]
    rfl
  rw [trace_eq, trace_eq, htokens]
  cases htokens₂ : tokens d₂ with
  | error e => simp [Except.mapError, Except.map, Except.bind]
  | ok ts₂ =>
    rw [tokensRead_eq htokens₂] at h₂
    obtain ⟨rest, rfl⟩ := h₂
    -- After the move the pen is the same, whether it drew the first part or nothing.
    have hsame := (traceFrom_move pen' x y rest).trans (traceFrom_move Pen.origin x y rest).symm
    change traceFrom Pen.origin (ts₁ ++ .command 'M' :: .number x :: .number y :: rest) = _ ↔ _
    rw [hpen', hsame, map_eq_ok_iff]
    rfl

/-- Path data that can be drawn, followed by a space and a subpath that begins with a move to a
    point: it can be drawn exactly if the subpath can, and then the strokes are those of the data
    followed by those of the subpath, whatever command the data has left open. -/
theorem trace_append_subpath (h₁ : trace d₁ = .ok first)
    (h₂ : [.command 'M', .number x, .number y] <+: tokensRead d₂) :
    ((∃ drawn, trace (d₁ ++ ' ' :: d₂) = .ok drawn) ↔ ∃ second, trace d₂ = .ok second) ∧
    ∀ second, trace d₂ = .ok second → trace (d₁ ++ ' ' :: d₂) = .ok (first ++ second) := by
  have hspace : isSeparator ' ' = true := rfl
  refine ⟨⟨?_, ?_⟩, fun second h => (trace_eq_ok_iff hspace h₁ h₂).2 ⟨second, h, rfl⟩⟩
  · rintro ⟨drawn, h⟩
    obtain ⟨second, hsecond, -⟩ := (trace_eq_ok_iff hspace h₁ h₂).1 h
    exact ⟨second, hsecond⟩
  · rintro ⟨second, h⟩
    exact ⟨first ++ second, (trace_eq_ok_iff hspace h₁ h₂).2 ⟨second, h, rfl⟩⟩

/-- The number that the digits of a natural number write. -/
def whole (n : Nat) : Float := Decimal.toFloat ⟨false, n, 0⟩

theorem readFloat?_five : readFloat? ['5'] = some (whole 5) := rfl
theorem readFloat?_forty : readFloat? ['4', '0'] = some (whole 40) := rfl

theorem tokens_dangling : tokens "M5,40 H40 v" = .ok [.command 'M', .number (whole 5),
    .number (whole 40), .command 'H', .number (whole 40), .command 'v'] := by
  simp [tokens, tokensFrom, isSeparator, isCommandLetter, takeNumber?, splitSign, splitDigits,
    splitExponent, Except.map, readFloat?_five, readFloat?_forty]

theorem trace_dangling :
    trace "M5,40 H40 v" = .ok [⟨⟨whole 5, whole 40⟩, ⟨whole 40, whole 40⟩⟩] := by
  have hmeaning : meaning? 'H' = some (.draws ⟨'H', .horizontal⟩) := by decide
  have hdangling : meaning? 'v' = some (.draws ⟨'v', .vertical⟩) := by decide
  rw [trace_eq, tokens_dangling]
  simp only [Except.bind]
  rw [traceFrom_move, traceFrom_command hmeaning rfl]
  simp [Pen.draw, Pen.target, Command.isRelative, traceFrom, hdangling, Except.map]

theorem tokens_moved : tokens "M40,5 V40" = .ok [.command 'M', .number (whole 40),
    .number (whole 5), .command 'V', .number (whole 40)] := by
  simp [tokens, tokensFrom, isSeparator, isCommandLetter, takeNumber?, splitSign, splitDigits,
    splitExponent, Except.map, readFloat?_five, readFloat?_forty]

theorem trace_moved :
    trace "M40,5 V40" = .ok [⟨⟨whole 40, whole 5⟩, ⟨whole 40, whole 40⟩⟩] := by
  have hmeaning : meaning? 'V' = some (.draws ⟨'V', .vertical⟩) := by decide
  rw [trace_eq, tokens_moved]
  simp only [Except.bind]
  rw [traceFrom_move, traceFrom_command hmeaning rfl]
  simp [Pen.draw, Pen.target, Command.isRelative, traceFrom, Except.map]

/-- The first part ends in a command that waits for numbers, and the numbers that follow are not
    its own. -/
theorem trace_append_subpath_dangling :
    trace "M5,40 H40 v" = .ok [⟨⟨whole 5, whole 40⟩, ⟨whole 40, whole 40⟩⟩] ∧
    [.command 'M', .number (whole 40), .number (whole 5)] <+: tokensRead "M40,5 V40" ∧
    trace ("M5,40 H40 v" ++ ' ' :: "M40,5 V40".toList) =
      .ok [⟨⟨whole 5, whole 40⟩, ⟨whole 40, whole 40⟩⟩,
        ⟨⟨whole 40, whole 5⟩, ⟨whole 40, whole 40⟩⟩] := by
  have hmoved : [.command 'M', .number (whole 40), .number (whole 5)] <+:
      tokensRead "M40,5 V40" := by
    rw [tokensRead_eq tokens_moved]
    exact List.prefix_append _ [_, _]
  exact ⟨trace_dangling, hmoved, (trace_append_subpath trace_dangling hmoved).2 _ trace_moved⟩

end CircuitHub.Path

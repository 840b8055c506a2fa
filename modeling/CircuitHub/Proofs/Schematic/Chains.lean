import CircuitHub.Proofs.Schematic.Subpaths

/-!
# Chains of strokes

A path is drawn without lifting the pen but for moves: a stroke begins where the one before it ends,
or at the target of a move between the two. A subpath that is closed comes back to where it began,
and there the next stroke begins.

To say so, moves and closings are noted down with the strokes (`Mark`, `recordFrom`): what is noted
tells where the next stroke has to begin (`reached`, `begun`), without a look at the pen that draws
it. The pen stands at the end of the last stroke or move, and after a closing where the subpath
began (`Pen.Follows`). The two places need not be the same point, as no stroke is drawn between
points whose numbers are equal, and zeros of either sign are.

* `trace_chained`: the strokes of path data are chained.
-/

namespace CircuitHub

/-- The two points are the same one, or their numbers are equal. -/
def Point.Meets (p q : Point) : Prop := p = q ∨ (p == q) = true

namespace Path

/-! ## What is noted down -/

/-- What happens in a drawing. -/
inductive Mark where
  /-- A move has taken the pen to a point. -/
  | moved (target : Point)
  /-- A stroke has been drawn. -/
  | drew (stroke : Stroke)
  /-- The subpath has been closed, after the stroke back if there is one. -/
  | closed

namespace Mark

/-- The stroke that has been drawn. -/
def stroke? : Mark → Option Stroke
  | drew s => some s
  | _ => none

/-- The target of a move. -/
def target? : Mark → Option Point
  | moved p => some p
  | _ => none

/-- The point to which a move or a stroke leads. -/
def stop? : Mark → Option Point
  | moved p => some p
  | drew s => some s.target
  | closed => none

end Mark

/-- What a command does with its numbers. -/
def Pen.noteDraw (pen : Pen) (c : Command) (args : List Float) : Mark :=
  match c.kind with
  | .move => .moved (pen.target c args)
  | _ => .drew ⟨pen.position, pen.target c args⟩

/-- What closing the subpath does. -/
def Pen.noteClose (pen : Pen) : List Mark := pen.close.1.map .drew ++ [.closed]

/-- What happens while a pen draws by the tokens of path data. -/
def recordFrom (pen : Pen) (tokens : List Token) : Except PathError (List Mark) :=
  match tokens with
  | [] => .ok []
  | .command c :: rest =>
    match meaning? c with
    | none => .error (.unknownCommand c)
    | some .closes => (recordFrom pen.close.2 rest).map (pen.noteClose ++ ·)
    | some (.draws command) => recordFrom { pen with command? := some command } rest
  | .number x :: rest =>
    match pen.command? with
    | none => .error .numberWithoutCommand
    | some command =>
      match _h : takeNumbers? command.arity (.number x :: rest) with
      | none => .error (.missingNumbers command.letter command.arity)
      | some (args, rest') =>
        (recordFrom (pen.draw command args).2 rest').map ([pen.noteDraw command args] ++ ·)
termination_by tokens.length
decreasing_by
  · simp
  · simp
  · have := takeNumbers?_length _h
    simp only [Command.arity, List.length_cons] at *
    omega

/-- What happens while path data is drawn. -/
def record (data : Text) : Except PathError (List Mark) :=
  (tokens data).bind (recordFrom Pen.origin)

/-- The strokes among what is noted down. -/
def strokesOf (marks : List Mark) : List Stroke := marks.filterMap Mark.stroke?

theorem strokesOf_noteDraw (pen : Pen) (c : Command) (args : List Float) :
    strokesOf [pen.noteDraw c args] = (pen.draw c args).1 := by
  obtain ⟨letter, kind⟩ := c
  cases kind <;> rfl

theorem strokesOf_noteClose (pen : Pen) : strokesOf pen.noteClose = pen.close.1 := by
  have hdrew : Mark.stroke? ∘ Mark.drew = some := rfl
  simp [strokesOf, Pen.noteClose, hdrew, Mark.stroke?]

theorem map_strokesOf_append {ε : Type} (marks : List Mark) (x : Except ε (List Mark)) :
    (x.map (marks ++ ·)).map strokesOf = (x.map strokesOf).map (strokesOf marks ++ ·) := by
  cases x with
  | error e => rfl
  | ok rest => simp [Except.map, strokesOf]

/-- The strokes that are noted down are those that are drawn. -/
theorem traceFrom_eq_record (pen : Pen) (ts : List Token) :
    traceFrom pen ts = (recordFrom pen ts).map strokesOf := by
  fun_induction recordFrom pen ts with
  | case1 pen => rw [traceFrom]; rfl
  | case2 pen c rest hc => rw [traceFrom, hc]; rfl
  | case3 pen c rest hc ih =>
    rw [traceFrom, hc, map_strokesOf_append, strokesOf_noteClose, ← ih]
  | case4 pen c rest command hc ih => rw [traceFrom, hc]; exact ih
  | case5 pen x rest hcommand => rw [traceFrom_number_eq, hcommand]; rfl
  | case6 pen x rest command hcommand hargs =>
    rw [traceFrom_number_eq, hcommand]
    simp only [hargs]
    rfl
  | case7 pen x rest command hcommand args rest' hargs ih =>
    rw [traceFrom_number hcommand hargs, map_strokesOf_append, strokesOf_noteDraw, ← ih]

theorem trace_eq_record (data : Text) :
    trace data = (record data).map strokesOf := by
  rw [trace_eq, record]
  cases tokens data with
  | error e => rfl
  | ok ts => exact traceFrom_eq_record Pen.origin ts

/-! ## Where the next stroke has to begin -/

/-- Where the last stroke or move ends, and the origin before all of them. -/
def reached (marks : List Mark) : Point := (marks.filterMap Mark.stop?).getLast?.getD ⟨0, 0⟩

/-- Where the subpath began: the target of the last move, and the origin before the first. -/
def begun (marks : List Mark) : Point := (marks.filterMap Mark.target?).getLast?.getD ⟨0, 0⟩

variable {marks past : List Mark} {p : Point} {s : Stroke} {pen : Pen}

@[simp] theorem reached_moved : reached (past ++ [.moved p]) = p := by simp [reached, Mark.stop?]
@[simp] theorem reached_drew : reached (past ++ [.drew s]) = s.target := by
  simp [reached, Mark.stop?]
@[simp] theorem reached_closed : reached (past ++ [.closed]) = reached past := by
  simp [reached, Mark.stop?]
theorem begun_moved : begun (past ++ [.moved p]) = p := by simp [begun, Mark.target?]
@[simp] theorem begun_drew : begun (past ++ [.drew s]) = begun past := by
  simp [begun, Mark.target?]
@[simp] theorem begun_closed : begun (past ++ [.closed]) = begun past := by
  simp [begun, Mark.target?]

/-- After what is noted down a mark is as it has to be: a stroke begins where the last stroke or
    move ends, right after a closing where the subpath began, and a closing finds the subpath there. -/
def Mark.Joins (past : List Mark) : Mark → Prop
  | moved _ => True
  | drew s => (reached past).Meets s.source ∧ (past.getLast? = some closed → s.source = begun past)
  | closed => (reached past).Meets (begun past)

/-- After what is noted down all further marks are as they have to be. -/
def Joined (past : List Mark) : List Mark → Prop
  | [] => True
  | m :: marks => m.Joins past ∧ Joined (past ++ [m]) marks

theorem joined_append {marks' : List Mark} :
    Joined past (marks ++ marks') ↔ Joined past marks ∧ Joined (past ++ marks) marks' := by
  induction marks generalizing past with
  | nil => simp [Joined]
  | cons m marks ih => simp [Joined, ih, and_assoc]

theorem Joined.joins {before after : List Mark} {m : Mark}
    (h : Joined past (before ++ m :: after)) : m.Joins (past ++ before) :=
  (joined_append.1 h).2.1

/-- The pen stands where it has to after what is noted down. -/
structure Pen.Follows (pen : Pen) (past : List Mark) : Prop where
  /-- It knows where the subpath began. -/
  start_eq : pen.start = begun past
  /-- It stands at the end of the last stroke or move, -/
  position_eq : past.getLast? ≠ some .closed → pen.position = reached past
  /-- and after a closing where the subpath began. -/
  position_of_closed : past.getLast? = some .closed → pen.position = begun past
  /-- A closing has found the subpath there. -/
  meets_of_closed : past.getLast? = some .closed → (reached past).Meets (begun past)

theorem Pen.follows_origin : Pen.origin.Follows [] where
  start_eq := rfl
  position_eq _ := rfl
  position_of_closed h := nomatch h
  meets_of_closed h := nomatch h

/-- A stroke from where the pen stands joins what is noted down. -/
theorem Pen.Follows.joins (h : pen.Follows past) (hs : s.source = pen.position) :
    (Mark.drew s).Joins past := by
  by_cases hclosed : past.getLast? = some .closed
  · have hposition := h.position_of_closed hclosed
    refine ⟨?_, fun _ => hs.trans hposition⟩
    rw [hs, hposition]
    exact h.meets_of_closed hclosed
  · exact ⟨.inl ((h.position_eq hclosed).symm.trans hs.symm), fun hlast => absurd hlast hclosed⟩

theorem Pen.Follows.drew (h : pen.Follows past) (p : Point) :
    (Mark.drew ⟨pen.position, p⟩).Joins past ∧
      Pen.Follows { pen with position := p } (past ++ [.drew ⟨pen.position, p⟩]) := by
  refine ⟨h.joins rfl, ⟨by simpa using h.start_eq, fun _ => by simp, ?_, ?_⟩⟩ <;> simp

theorem Pen.follows_moved (p : Point) (past : List Mark) (command? : Option Command) :
    Pen.Follows ⟨p, p, command?⟩ (past ++ [.moved p]) := by
  refine ⟨begun_moved.symm, fun _ => ?_, ?_, ?_⟩ <;> simp

/-- What a command does with its numbers joins what is noted down. -/
theorem Pen.Follows.draw (h : pen.Follows past) (c : Command) (args : List Float) :
    Joined past [pen.noteDraw c args] ∧
      (pen.draw c args).2.Follows (past ++ [pen.noteDraw c args]) := by
  obtain ⟨letter, kind⟩ := c
  cases kind with
  | move => exact ⟨⟨trivial, trivial⟩, follows_moved _ past _⟩
  | line | horizontal | vertical | curve =>
    obtain ⟨hjoins, hfollows⟩ := h.drew (pen.target _ args)
    exact ⟨⟨hjoins, trivial⟩, hfollows⟩

theorem Pen.Follows.closed (hstart : pen.start = begun past)
    (hmeets : (reached past).Meets (begun past)) :
    Pen.Follows ⟨pen.start, pen.start, none⟩ (past ++ [.closed]) := by
  refine ⟨?_, ?_, fun _ => ?_, fun _ => ?_⟩ <;> simp [hstart, hmeets]

/-- A subpath that is closed comes back to where it began. -/
theorem Pen.Follows.close (h : pen.Follows past) :
    Joined past pen.noteClose ∧ pen.close.2.Follows (past ++ pen.noteClose) := by
  rw [Pen.noteClose, Pen.close]
  split
  · rename_i hthere
    -- The pen is there already. After a closing it has not moved, and else it is where the chain ends.
    have hmeets : (reached past).Meets (begun past) := by
      by_cases hclosed : past.getLast? = some .closed
      · exact h.meets_of_closed hclosed
      · rw [← h.position_eq hclosed, ← h.start_eq]
        exact .inr hthere
    exact ⟨⟨hmeets, trivial⟩, closed h.start_eq hmeets⟩
  · obtain ⟨hjoins, hback⟩ := h.drew pen.start
    have hmeets : (reached (past ++ [.drew ⟨pen.position, pen.start⟩])).Meets
        (begun (past ++ [.drew ⟨pen.position, pen.start⟩])) := by
      rw [reached_drew, begun_drew]
      exact .inl h.start_eq
    refine ⟨⟨hjoins, hmeets, trivial⟩, ?_⟩
    simpa using closed hback.start_eq hmeets

/-- Whatever a pen draws by the tokens of path data joins what is noted down. -/
theorem Pen.Follows.joined (h : pen.Follows past) {ts : List Token}
    (hrecord : recordFrom pen ts = .ok marks) : Joined past marks := by
  fun_induction recordFrom pen ts generalizing past marks with
  | case1 pen =>
    cases hrecord
    trivial
  | case2 => cases hrecord
  | case3 pen c rest hc ih =>
    obtain ⟨next, hnext, rfl⟩ := map_eq_ok_iff.1 hrecord
    obtain ⟨hclose, hfollows⟩ := h.close
    exact joined_append.2 ⟨hclose, ih hfollows hnext⟩
  | case4 pen c rest command hc ih =>
    exact ih ⟨h.start_eq, h.position_eq, h.position_of_closed, h.meets_of_closed⟩ hrecord
  | case5 => cases hrecord
  | case6 => cases hrecord
  | case7 pen x rest command hcommand args rest' hargs ih =>
    obtain ⟨next, hnext, rfl⟩ := map_eq_ok_iff.1 hrecord
    obtain ⟨hdraw, hfollows⟩ := h.draw command args
    exact joined_append.2 ⟨hdraw, ih hfollows hnext⟩

/-! ## Path data -/

/-- Closings alone lead nowhere. -/
def AllClosings (marks : List Mark) : Prop := ∀ m ∈ marks, m = .closed

theorem reached_append_closings {closings : List Mark} (h : AllClosings closings) :
    reached (past ++ closings) = reached past := by
  induction closings using List.reverseRecOn with
  | nil => rw [List.append_nil]
  | append_singleton closings m ih =>
    obtain rfl : m = .closed := h m (by simp)
    rw [← List.append_assoc, reached_closed]
    exact ih fun m hm => h m (List.mem_append_left _ hm)

theorem begun_append_closings {closings : List Mark} (h : AllClosings closings) :
    begun (past ++ closings) = begun past := by
  induction closings using List.reverseRecOn with
  | nil => rw [List.append_nil]
  | append_singleton closings m ih =>
    obtain rfl : m = .closed := h m (by simp)
    rw [← List.append_assoc, begun_closed]
    exact ih fun m hm => h m (List.mem_append_left _ hm)

theorem getLast?_append_closings {closings : List Mark} (h : AllClosings closings) :
    (past ++ .closed :: closings).getLast? = some .closed := by
  have hall : AllClosings (.closed :: closings) := List.forall_mem_cons.2 ⟨rfl, h⟩
  rw [List.getLast?_append_of_ne_nil _ (List.cons_ne_nil _ _),
    List.getLast?_eq_some_getLast (List.cons_ne_nil _ _), hall _ (List.getLast_mem _)]

/-- What is noted down of a drawing whose strokes are chained. -/
structure Chained (marks : List Mark) : Prop where
  /-- A stroke begins where the one before it ends, if there is no move between the two. -/
  meets_of_drew : ∀ before s closings s' after,
    marks = before ++ .drew s :: (closings ++ .drew s' :: after) → AllClosings closings →
      s.target.Meets s'.source
  /-- After moves it begins at the target of the last one. -/
  meets_of_moved : ∀ before p closings s after,
    marks = before ++ .moved p :: (closings ++ .drew s :: after) → AllClosings closings →
      p.Meets s.source
  /-- With neither before it, it begins at the origin. -/
  meets_of_first : ∀ closings s after,
    marks = closings ++ .drew s :: after → AllClosings closings → Point.Meets ⟨0, 0⟩ s.source
  /-- A closing finds the strokes since the last move where the subpath began. -/
  meets_of_closed : ∀ before after,
    marks = before ++ .closed :: after → (reached before).Meets (begun before)
  /-- The stroke after a closing begins there, if there is no move between the two. -/
  source_of_closed : ∀ before closings s after,
    marks = before ++ .closed :: (closings ++ .drew s :: after) → AllClosings closings →
      s.source = begun before

theorem Joined.chained (h : Joined [] marks) : Chained marks := by
  have meets (before : List Mark) {closings after : List Mark} {s : Stroke}
      (hmarks : marks = before ++ (closings ++ .drew s :: after)) (hclosings : AllClosings closings) :
      (reached before).Meets s.source := by
    rw [hmarks, ← List.append_assoc] at h
    exact reached_append_closings hclosings ▸ h.joins.1
  constructor
  · intro before s closings s' after hmarks hclosings
    have hmeets := meets _ (hmarks.trans (List.append_cons _ _ _)) hclosings
    rwa [reached_drew] at hmeets
  · intro before p closings s after hmarks hclosings
    have hmeets := meets _ (hmarks.trans (List.append_cons _ _ _)) hclosings
    rwa [reached_moved] at hmeets
  · intro closings s after hmarks hclosings
    exact meets [] hmarks hclosings
  · rintro before after rfl
    exact h.joins
  · rintro before closings s after rfl hclosings
    have hsplit : before ++ .closed :: (closings ++ .drew s :: after) =
        (before ++ .closed :: closings) ++ .drew s :: after := by simp
    rw [hsplit] at h
    refine (h.joins.2 (getLast?_append_closings hclosings)).trans ?_
    rw [List.nil_append, List.append_cons, begun_append_closings hclosings, begun_closed]

/-- The strokes of path data that can be drawn are chained. Each begins where the one before it ends,
    or at the target of the last move if there is one between the two; the first of all begins at
    the origin if there is no move before it. Where a subpath is closed, the strokes since the last
    move have come back to where it began, and there the next stroke begins if there is no move
    before it. -/
theorem trace_chained {data : Text} {strokes : List Stroke} (h : trace data = .ok strokes) :
    ∃ marks, record data = .ok marks ∧ strokesOf marks = strokes ∧ Chained marks := by
  rw [trace_eq_record] at h
  obtain ⟨marks, hmarks, hstrokes⟩ := map_eq_ok_iff.1 h
  obtain ⟨ts, -, hrecord⟩ := bind_eq_ok_iff.1 hmarks
  exact ⟨marks, hmarks, hstrokes, (Pen.follows_origin.joined hrecord).chained⟩

/-- The zero with a minus sign. -/
def minusZero : Float := Decimal.toFloat ⟨true, 0, 0⟩

theorem readFloat?_zero : readFloat? ['0'] = some (whole 0) := rfl
theorem readFloat?_minusZero : readFloat? ['-', '0'] = some minusZero := rfl

theorem tokens_thereAndBack : tokens "M0,40 H5 H-0 z V5" = .ok [.command 'M', .number (whole 0),
    .number (whole 40), .command 'H', .number (whole 5), .command 'H', .number minusZero,
    .command 'z', .command 'V', .number (whole 5)] := by
  simp [tokens, tokensFrom, isSeparator, isCommandLetter, takeNumber?, splitSign, splitDigits,
    splitExponent, Except.map, readFloat?_five, readFloat?_forty, readFloat?_zero,
    readFloat?_minusZero]

theorem trace_thereAndBack : trace "M0,40 H5 H-0 z V5" = .ok
    [⟨⟨whole 0, whole 40⟩, ⟨whole 5, whole 40⟩⟩, ⟨⟨whole 5, whole 40⟩, ⟨minusZero, whole 40⟩⟩,
      ⟨⟨whole 0, whole 40⟩, ⟨whole 0, whole 5⟩⟩] := by
  have hacross : meaning? 'H' = some (.draws ⟨'H', .horizontal⟩) := by decide
  have hdown : meaning? 'V' = some (.draws ⟨'V', .vertical⟩) := by decide
  have hclose : meaning? 'z' = some .closes := by decide
  have hequal : (Point.mk minusZero (whole 40) == ⟨whole 0, whole 40⟩) = true := by decide +kernel
  rw [trace_eq, tokens_thereAndBack]
  simp only [Except.bind]
  rw [traceFrom_move]
  simp [traceFrom, hacross, hdown, hclose, hequal, takeNumbers?, Command.arity, Command.arityPred,
    Pen.draw, Pen.close, Pen.target, Command.isRelative, Except.map]

/-- The second stroke ends at a zero with a minus sign, so that nothing is drawn to close the
    subpath, and the third stroke begins at the zero where the subpath began. -/
theorem trace_chained_thereAndBack :
    trace "M0,40 H5 H-0 z V5" = .ok
      [⟨⟨whole 0, whole 40⟩, ⟨whole 5, whole 40⟩⟩, ⟨⟨whole 5, whole 40⟩, ⟨minusZero, whole 40⟩⟩,
        ⟨⟨whole 0, whole 40⟩, ⟨whole 0, whole 5⟩⟩] ∧
    ∃ marks, record "M0,40 H5 H-0 z V5" = .ok marks ∧ (strokesOf marks).length = 3 ∧
      Chained marks := by
  obtain ⟨marks, hmarks, hstrokes, hchained⟩ := trace_chained trace_thereAndBack
  exact ⟨trace_thereAndBack, marks, hmarks, congrArg List.length hstrokes, hchained⟩

end Path

end CircuitHub

import CircuitHub.Markdown.Tree
import CircuitHub.Text.Table.Punctuation
import CircuitHub.Markdown.Reference

/-!
# Emphasis

Runs of stars, underscores and tildes open and close emphasis. A run that can close is matched with
the nearest run before it that can open and fits; what stands between is emphasised, and runs left
over are text.
-/

namespace CircuitHub.Markdown

/-- A run of marks that may open or close emphasis. -/
structure Run where
  /-- The character of the marks. -/
  mark : Char
  /-- How many of them are left. -/
  count : Nat
  /-- How many there were. -/
  length : Nat
  /-- They can open. -/
  opens : Bool
  /-- They can close. -/
  closes : Bool
  deriving DecidableEq, Repr

namespace Run

/-- The marks can both open and close. -/
def isBoth (r : Run) : Bool := r.opens && r.closes

/-- The marks as text. -/
def text (r : Run) : Inline := .text (List.replicate r.count r.mark)

/-- One run can close what the other opened. Runs that can do both must not match by accident of
    their lengths, and tildes match only as many. -/
def fits (closer opener : Run) : Bool :=
  closer.mark = opener.mark && (closer.mark != '~' || closer.length = opener.length) &&
    ((!closer.isBoth && !opener.isBoth) || (closer.length + opener.length) % 3 != 0 ||
      closer.length % 3 = 0)

end Run

/-- Punctuation in the sense that matters for emphasis. -/
def isPunctuation (c : Char) : Bool :=
  if c.toNat < 0x80 then isAsciiPunctuation c else Table.punctuation.mem c

/-- Marks can open before a character and after another one. -/
def canOpen (mark : Char) (count : Nat) (before? after? : Option Char) : Bool :=
  match before?, after? with
  | _, none => false
  | before?, some after =>
    if isSpace after then false
    else match before? with
      | none => true
      | some before =>
        (mark = '*' && !isPunctuation after) || (mark = '~' && 1 < count) ||
          (mark = '~' && before = '~' && !isPunctuation after) || isSpace before ||
          isPunctuation before

/-- Marks can close after a character and before another one. -/
def canClose (mark : Char) (count : Nat) (before? after? : Option Char) : Bool :=
  match before? with
  | none => false
  | some before =>
    if isSpace before then false
    else match after? with
      | none => true
      | some after =>
        ((mark = '*' || (mark = '~' && 1 < count)) && !isPunctuation before) ||
          (mark = '~' && before = '~') || isSpace after || isPunctuation after

/-! ### Matching -/

/-- A run that is open, and what follows it, the last piece first. -/
structure OpenRun where
  /-- The run. -/
  run : Run
  /-- The pieces after it. -/
  after : List Inline

/-- Open runs, the innermost first, above what stands before all of them, the last piece first. -/
structure EmphasisStack where
  /-- The open runs. -/
  runs : List OpenRun
  /-- The pieces before them. -/
  base : List Inline

namespace EmphasisStack

/-- The stack with one more piece. -/
def push (s : EmphasisStack) (piece : Inline) : EmphasisStack :=
  match s.runs with
  | [] => { s with base := piece :: s.base }
  | r :: runs => { s with runs := { r with after := piece :: r.after } :: runs }

/-- Pieces between `count` matched marks on either side, as one piece: pairs of marks are strong and
    stand within the single mark that may be left. -/
def wrap (mark : Char) : Nat → List Inline → List Inline
  | 0, pieces => pieces
  | 1, pieces => [.accent (if mark = '~' then .strikethrough else .emphasis) pieces]
  | n + 2, pieces =>
    wrap mark n [.accent (if mark = '~' then .strikethrough else .strong) pieces]

/-- The nearest open run that a run can close, with what follows it, and the open runs outside. -/
def findOpener? (closer : Run) (inner : List Inline) :
    List OpenRun → Option (Run × List Inline × List OpenRun)
  | [] => none
  | r :: runs =>
    if closer.fits r.run then some (r.run, inner ++ r.after, runs)
    else findOpener? closer (inner ++ r.after ++ [r.run.text]) runs

/-- The stack after a run that can close, and the marks of the run that are left. The number of
    marks bounds how often the run can close something. -/
def close (s : EmphasisStack) (closer : Run) : Nat → EmphasisStack × Run
  | 0 => (s, closer)
  | n + 1 =>
    if closer.count = 0 then (s, closer)
    else match findOpener? closer [] s.runs with
      | none => (s, closer)
      | some (opener, inner, outer) =>
        let matched := min closer.count opener.count
        let wrapped := wrap closer.mark matched inner.reverse
        let left := { opener with count := opener.count - matched }
        let s : EmphasisStack :=
          if left.count = 0 then wrapped.foldl push { s with runs := outer }
          else { s with runs := ⟨left, wrapped.reverse⟩ :: outer }
        close s { closer with count := closer.count - matched } n

/-- The stack after a run of marks. -/
def run (s : EmphasisStack) (r : Run) : EmphasisStack :=
  let (s, r) := if r.closes then s.close r r.count else (s, r)
  if r.count = 0 then s
  else if r.opens then { s with runs := ⟨r, []⟩ :: s.runs }
  else s.push r.text

/-- All pieces, the marks of runs that are still open as text. -/
def finish (s : EmphasisStack) : List Inline :=
  (s.runs.foldr (fun r before => r.after ++ r.run.text :: before) s.base).reverse

end EmphasisStack

/-- A piece of prose before emphasis is found. -/
inductive Piece where
  /-- A piece that is done. -/
  | inline (i : Inline)
  /-- Marks of emphasis. -/
  | run (r : Run)

/-- The prose that pieces make up. -/
def emphasize (pieces : List Piece) : List Inline :=
  (pieces.foldl (fun s p => match p with
    | .inline i => s.push i
    | .run r => s.run r) (⟨[], []⟩ : EmphasisStack)).finish

end CircuitHub.Markdown

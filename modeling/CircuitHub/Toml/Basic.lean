import CircuitHub.Text.Basic

/-!
# TOML values

TOML is a text format for settings. A document is a table, whose entries are values by keys and are
among others tables again. Where an entry goes is told by a path of keys, and a path makes the
tables that it passes through.

What a table may still receive depends on how it came about (`Origin`): no table is opened twice by
a header, none is reached into by a dotted key unless a path has made it, and one that is written
between braces is closed.
-/

namespace CircuitHub

/-- How a table came about. -/
inductive Origin where
  /-- By a header of its own. The whole document counts as such. -/
  | header
  /-- On the way to another header. -/
  | passage
  /-- By a key with dots. -/
  | dotted
  /-- Between braces. -/
  | inlined
  deriving DecidableEq, Repr

/-- A value. -/
inductive Toml where
  | text (value : Text)
  | integer (value : Int)
  /-- A number with decimal places or an exponent, or one that is not finite, as it is written. -/
  | decimal (written : Text)
  | boolean (value : Bool)
  /-- A date, a time of day or both, as it is written. -/
  | moment (written : Text)
  /-- A list. One whose elements are opened by headers is `growing`. -/
  | list (growing : Bool) (items : List Toml)
  | table (origin : Origin) (entries : List (Text × Toml))
  deriving Inhabited, Repr

namespace Toml

/-- The entries of a table. -/
abbrev Entries := List (Text × Toml)

/-- The entries with a value at a key, in place of the one that is there. -/
def put (key : Text) (value : Toml) : Entries → Entries
  | [] => [(key, value)]
  | (k, v) :: entries =>
    if k == key then (key, value) :: entries else (k, v) :: put key value entries

/-- The entries after a change at the end of a path. The way leads through tables, and through the
    last element of a growing list. What is missing on the way is made, by a dotted key if `dotted`
    and else as a passage; a dotted key does not lead into a table with a header of its own. -/
def changeAt (dotted : Bool) (change : Origin → Entries → Option Entries) :
    List Text → Origin → Entries → Option Entries
  | [], origin, entries => change origin entries
  | key :: path, _, entries =>
    match entries.lookup key with
    | none => do
      let origin := if dotted then .dotted else .passage
      let inner ← changeAt dotted change path origin []
      some (put key (table origin inner) entries)
    | some (table origin inner) =>
      if origin == .inlined || (dotted && origin == .header) then none
      else do
        let inner ← changeAt dotted change path origin inner
        some (put key (table origin inner) entries)
    | some (list true items) =>
      match items.getLast? with
      | some (table origin inner) => do
        let inner ← changeAt dotted change path origin inner
        some (put key (list true (items.dropLast ++ [table origin inner])) entries)
      | _ => none
    | some _ => none

/-- The entries with a new one. A dotted key ends in a table that such keys have made, and a key
    without dots does not. -/
def assign (path : List Text) (value : Toml) (origin : Origin) (entries : Entries) :
    Option Entries := do
  let key ← path.getLast?
  let way := path.dropLast
  changeAt true (fun origin entries =>
    if (origin == .dotted) == way.isEmpty || (entries.lookup key).isSome then none
    else some (put key value entries)) way origin entries

/-- The entries when a header has opened a table. -/
def openTable (path : List Text) (entries : Entries) : Option Entries := do
  let key ← path.getLast?
  changeAt false (fun _ entries =>
    match entries.lookup key with
    | none => some (put key (table .header []) entries)
    | some (table .passage inner) => some (put key (table .header inner) entries)
    | some _ => none) path.dropLast .header entries

/-- The entries when a header has opened another element of a growing list. -/
def openElement (path : List Text) (entries : Entries) : Option Entries := do
  let key ← path.getLast?
  changeAt false (fun _ entries =>
    match entries.lookup key with
    | none => some (put key (list true [table .header []]) entries)
    | some (list true items) => some (put key (list true (items ++ [table .header []])) entries)
    | some _ => none) path.dropLast .header entries

end Toml

end CircuitHub

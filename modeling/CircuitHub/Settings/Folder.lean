import CircuitHub.Text.Utf8

/-!
# Folders

A folder holds files and other folders by name. A place in it is told by the list of names on the
way there. A path is a text that walks from place to place: its parts lie between slashes, a single
dot stays and a double dot goes up.

* `Folder.find?_write?`: what is written to a file is found there.
-/

namespace CircuitHub

/-- What stands at a place: a file with its bytes, or a folder. -/
inductive Item where
  | file (bytes : List UInt8)
  | folder (items : List (Text × Item))
  deriving Inhabited, Repr

/-- A folder, by what stands in it. -/
abbrev Folder := List (Text × Item)

namespace Folder

/-- The folder with an item at a name, in place of the one that is there. -/
def put (name : Text) (item : Item) : Folder → Folder
  | [] => [(name, item)]
  | (n, i) :: folder =>
    if n == name then (name, item) :: folder else (n, i) :: put name item folder

theorem put_lookup (name : Text) (item : Item) (folder : Folder) :
    (put name item folder).lookup name = some item := by
  induction folder with
  | nil => simp [put]
  | cons e folder ih =>
    obtain ⟨n, i⟩ := e
    by_cases hn : n = name
    · simp [put, hn]
    · have hn' : (name == n) = false := by simpa using Ne.symm hn
      simp [put, hn, List.lookup_cons, hn', ih]

/-- What stands at a place. -/
def find? (folder : Folder) : List Text → Option Item
  | [] => some (.folder folder)
  | name :: place => match folder.lookup name with
    | some (.folder inner) => find? inner place
    | some (.file bytes) => if place.isEmpty then some (.file bytes) else none
    | none => none

/-- The folder after bytes have been written to a file. Folders on the way are made. Nothing is
    written where a file stands in the way of a folder or a folder in that of the file. -/
def write? (folder : Folder) (bytes : List UInt8) : List Text → Option Folder
  | [] => none
  | [name] => match folder.lookup name with
    | some (.folder _) => none
    | _ => some (put name (.file bytes) folder)
  | name :: place => match folder.lookup name with
    | some (.folder inner) =>
      (write? inner bytes place).map fun inner => put name (.folder inner) folder
    | some (.file _) => none
    | none => (write? [] bytes place).map fun inner => put name (.folder inner) folder

/-- What is written to a file is found there. -/
theorem find?_write? {folder after : Folder} {bytes : List UInt8} {place : List Text}
    (h : folder.write? bytes place = some after) : after.find? place = some (.file bytes) := by
  fun_induction write? folder bytes place generalizing after with
  | case1 => cases h
  | case2 => cases h
  | case3 =>
    cases h
    simp [find?, put_lookup]
  | case4 folder name place _ inner _ ih =>
    obtain ⟨inner', hi, rfl⟩ := Option.map_eq_some_iff.1 h
    simp [find?, put_lookup, ih hi]
  | case5 => cases h
  | case6 folder name place _ _ ih =>
    obtain ⟨inner', hi, rfl⟩ := Option.map_eq_some_iff.1 h
    simp [find?, put_lookup, ih hi]

/-- The place that the parts of a path lead to. Each step is made from a folder, and none leads out
    of the whole. -/
def walk? (folder : Folder) (place : List Text) : List Text → Option (List Text)
  | [] => some place
  | part :: parts => match folder.find? place with
    | some (.folder _) =>
      if part.isEmpty || part == ['.'] then walk? folder place parts
      else if part == ['.', '.'] then
        if place.isEmpty then none else walk? folder place.dropLast parts
      else walk? folder (place ++ [part]) parts
    | _ => none

/-- The text of the file that a path leads to from a place. A path that begins with a slash leads
    out of the folder. -/
def textAt? (folder : Folder) (place : List Text) (path : Text) : Option Text :=
  if path.head? == some '/' then none
  else match (walk? folder place (path.splitAt (· == '/'))).bind folder.find? with
    | some (.file bytes) => Text.decode? bytes
    | _ => none

end Folder

end CircuitHub

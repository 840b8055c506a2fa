import CircuitHub.Toml.Document

/-!
# Settings

What a user may set is written in a TOML document with two sections. Nothing has to be set, and
entries that mean nothing here are ignored, but an entry of the wrong kind spoils the document.
-/

namespace CircuitHub

/-- What the user has set. -/
structure Settings where
  /-- The model that is asked. -/
  model? : Option Text
  /-- What holds for all prompts. -/
  instruction? : Option Text
  /-- The file with what holds for all prompts. -/
  instructionFile? : Option Text
  /-- How many seconds an exchange may take, or zero for any number. -/
  seconds? : Option Nat
  /-- The key of the service. -/
  key? : Option Text
  /-- The address of the service. -/
  base? : Option Text
  deriving DecidableEq, Repr

namespace Settings

/-- Nothing is set. -/
def unset : Settings := ⟨none, none, none, none, none, none⟩

/-- The members of a section by their names. A section is a table, or a list of all members in the
    order of the names. One that is missing, or is only a date, has no members. -/
def section? (names : List Text) : Option Toml → Option (List (Option Toml))
  | none | some (.moment _) => some (names.map fun _ => none)
  | some (.table _ entries) => some (names.map fun name => entries.lookup name)
  | some (.list _ items) =>
    if names.length ≤ items.length then some ((items.take names.length).map some) else none
  | some _ => none

/-- The text that a member sets. -/
def text? : Option Toml → Option (Option Text)
  | none => some none
  | some (.text t) => some (some t)
  | some _ => none

/-- The number that a member sets, which is not negative. -/
def natural? : Option Toml → Option (Option Nat)
  | none => some none
  | some (.integer n) => if 0 ≤ n then some (some n.toNat) else none
  | some _ => none

/-- What the entries of a document set. -/
def ofEntries? (entries : Toml.Entries) : Option Settings := do
  let general ← section?
    ["default_model", "system_instruction", "system_instruction_file", "request_timeout_secs"]
    (entries.lookup "general".toList)
  let service ← section? ["api_key", "base_url"] (entries.lookup "gemini".toList)
  match general, service with
  | [model, instruction, file, seconds], [key, base] =>
    some ⟨← text? model, ← text? instruction, ← text? file, ← natural? seconds, ← text? key,
      ← text? base⟩
  | _, _ => none

/-- What a document sets. -/
def read? (document : Text) : Option Settings := (Toml.read? document).bind ofEntries?

end Settings

end CircuitHub

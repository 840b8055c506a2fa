import CircuitHub.Text.Basic

/-!
# Validation of definitions

A definition of a part is checked for two keys that it needs. The keys only have to occur in it;
its structure is not read.
-/

namespace CircuitHub

/-- What a check says. -/
inductive Validation where
  /-- Nothing has been checked. -/
  | idle
  /-- Both keys occur. -/
  | valid
  /-- There is no text. -/
  | emptyInput
  /-- A key is missing. -/
  | missingFields
  deriving DecidableEq, Inhabited, Repr

namespace Validation

/-- What a check says, in words. -/
def message : Validation → Text
  | idle => "Ready to validate"
  | valid => "Validation Successful: Structure conforms to 'component.schema.json'."
  | emptyInput => "Input cannot be empty."
  | missingFields => "Validation Failed: Missing required fields 'name' or 'designator'."

/-- The check of a definition. -/
def ofInput (input : Text) : Validation :=
  if input.isBlank then emptyInput
  else if input.contains "name:" && input.contains "designator:" then valid
  else missingFields

end Validation

end CircuitHub

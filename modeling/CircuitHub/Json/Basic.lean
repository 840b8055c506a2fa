import CircuitHub.Json.Token

/-!
# JSON values

A value is null, a truth value, a number, a string, an array of values or an object, whose members
are values with names. A value is written as a row of tokens without white space between them
(`JsonValue.write`) and read from any text whose tokens make up one value (`JsonValue.read?`).

A record is a value from which named members are taken. It is an object, in which each of the names
occurs at most once while other members do not matter, or else an array of the members in the order
of their names.
-/

namespace CircuitHub

/-- A value. A string or name may have no text, where it holds half a character. -/
inductive JsonValue where
  | null
  | boolean (value : Bool)
  /-- A number, as it is written. -/
  | number (digits : Text)
  | string (text? : Option Text)
  | array (items : List JsonValue)
  | object (members : List (Option Text × JsonValue))
  deriving Inhabited, Repr

namespace JsonValue

/-! ### Writing -/

mutual

/-- The tokens of a value. -/
def tokens : JsonValue → List JsonToken
  | null => [.null]
  | boolean b => [.boolean b]
  | number digits => [.number digits]
  | string t? => [.string t?]
  | array items => .openArray :: itemTokens items ++ [.closeArray]
  | object members => .openObject :: memberTokens members ++ [.closeObject]

/-- The tokens of the values in an array, with commas between them. -/
def itemTokens : List JsonValue → List JsonToken
  | [] => []
  | [v] => tokens v
  | v :: items => tokens v ++ .comma :: itemTokens items

/-- The tokens of the members of an object, with commas between them. -/
def memberTokens : List (Option Text × JsonValue) → List JsonToken
  | [] => []
  | [(name, v)] => .string name :: .colon :: tokens v
  | (name, v) :: members => .string name :: .colon :: tokens v ++ .comma :: memberTokens members

end

/-- A value as it is written. -/
def write (v : JsonValue) : Text := v.tokens.flatMap JsonToken.write

/-- An object whose names have texts. -/
def ofMembers (members : List (Text × JsonValue)) : JsonValue :=
  object (members.map fun (name, v) => (some name, v))

/-- A string that is a text. -/
def ofText (t : Text) : JsonValue := string (some t)

/-! ### Reading

The number that counts down is at least the number of tokens, so that it never ends a reading.
-/

mutual

/-- The value at the start of a row of tokens, and what follows it. -/
def ofTokens? : Nat → List JsonToken → Option (JsonValue × List JsonToken)
  | n + 1, token :: rest => match token with
    | .null => some (null, rest)
    | .boolean b => some (boolean b, rest)
    | .number digits => some (number digits, rest)
    | .string t? => some (string t?, rest)
    | .openArray => match rest with
      | .closeArray :: rest => some (array [], rest)
      | rest => (itemsOfTokens? n rest).map fun (items, rest) => (array items, rest)
    | .openObject => match rest with
      | .closeObject :: rest => some (object [], rest)
      | rest => (membersOfTokens? n rest).map fun (members, rest) => (object members, rest)
    | .closeArray | .closeObject | .comma | .colon => none
  | _, _ => none

/-- The values of an array up to its end, at least one, and what follows it. -/
def itemsOfTokens? : Nat → List JsonToken → Option (List JsonValue × List JsonToken)
  | n + 1, tokens => match ofTokens? n tokens with
    | some (v, .closeArray :: rest) => some ([v], rest)
    | some (v, .comma :: rest) => (itemsOfTokens? n rest).map fun (items, rest) => (v :: items, rest)
    | _ => none
  | 0, _ => none

/-- The members of an object up to its end, at least one, and what follows it. -/
def membersOfTokens? :
    Nat → List JsonToken → Option (List (Option Text × JsonValue) × List JsonToken)
  | n + 1, .string name :: .colon :: tokens => match ofTokens? n tokens with
    | some (v, .closeObject :: rest) => some ([(name, v)], rest)
    | some (v, .comma :: rest) =>
      (membersOfTokens? n rest).map fun (members, rest) => ((name, v) :: members, rest)
    | _ => none
  | _, _ => none

end

/-- The value that makes up all of a text. -/
def read? (t : Text) : Option JsonValue := do
  let tokens ← JsonToken.scan t
  match ofTokens? (tokens.length + 1) tokens with
  | some (v, []) => some v
  | _ => none

/-! ### Records -/

/-- The text of a string. -/
def text? : JsonValue → Option Text
  | string t? => t?
  | _ => none

/-- The values of an array. -/
def items? : JsonValue → Option (List JsonValue)
  | array items => some items
  | _ => none

/-- The value of the first member with a name. -/
def member? (members : List (Option Text × JsonValue)) (name : Text) : Option JsonValue :=
  (members.find? fun m => m.1 == some name).map (·.2)

/-- The members of a record by their names, each if it is there. All names in an object are texts,
    and those that are asked for are not repeated. An array holds at least the first `least` of the
    members and no more than all. -/
def record? (names : List Text) (least : Nat) : JsonValue → Option (List (Option JsonValue))
  | object members =>
    if members.all (·.1.isSome) && names.all fun name => members.countP (·.1 == some name) ≤ 1 then
      some (names.map (member? members))
    else none
  | array items =>
    if least ≤ items.length && items.length ≤ names.length then
      some (names.zipIdx.map fun (_, i) => items[i]?)
    else none
  | _ => none

/-- The member of a record that has only one. -/
def soleMember? (name : Text) (least : Nat) (v : JsonValue) : Option (Option JsonValue) :=
  (v.record? [name] least).bind List.head?

/-- What a member means that may be missing or null. -/
def optional? {α : Type} (meaning? : JsonValue → Option α) :
    Option JsonValue → Option (Option α)
  | none | some null => some none
  | some v => (meaning? v).map some

/-- What the values of an array mean, which may be missing. -/
def list? {α : Type} (meaning? : JsonValue → Option α) : Option JsonValue → Option (List α)
  | none => some []
  | some v => v.items?.bind (·.mapM meaning?)

end JsonValue

end CircuitHub

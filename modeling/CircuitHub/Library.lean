import CircuitHub.Text.LowerCase

/-!
# The library of parts

The library is a fixed table of parts. Each has a definition and may have a symbol, given as path
data on a field of a hundred units.
-/

namespace CircuitHub

/-- The kind of a part. -/
inductive Category where
  | passive
  | semiconductor
  | integratedCircuit
  deriving DecidableEq, Repr

/-- The name of a category. -/
def Category.label : Category → Text
  | passive => "Passive"
  | semiconductor => "Semiconductor"
  | integratedCircuit => "Integrated Circuit"

/-- A part of the library. -/
structure Part where
  /-- The name that no other part has. -/
  id : Text
  /-- The name for readers. -/
  name : Text
  /-- Its kind. -/
  category : Category
  /-- What it is, in a sentence. -/
  description : Text
  /-- Its definition. -/
  definition : Text
  /-- The path data of its symbol. -/
  symbolPath? : Option Text
  deriving DecidableEq, Repr

/-- A symbol that can be drawn. -/
structure Symbol where
  /-- The name that no other symbol has. -/
  id : Text
  /-- The name of its part. -/
  name : Text
  /-- The kind of its part. -/
  category : Category
  /-- The drawing, as markup. -/
  markup : Text
  deriving DecidableEq, Repr

namespace Library

/-- Lines of text, one after the other. -/
def linesOf (lines : List String) : Text :=
  (lines.map String.toList).intersperse ['\n'] |>.flatten

/-- A part for resistance. -/
def resistor : Part where
  id := "res_001"
  name := "Generic Resistor"
  category := .passive
  description := "A standard passive two-terminal electrical component that implements " ++
    "electrical resistance as a circuit element."
  definition := linesOf ["name: Resistor", "designator: R", "pins:", "  - number: 1",
    "    name: ~", "  - number: 2", "    name: ~", "parameters:", "  resistance:",
    "    type: number", "    unit: ohm", "    required: true", "  tolerance:",
    "    type: number", "    unit: percent", "    default: 5"]
  symbolPath? := some
    "M5,10 H15 L20,5 L30,15 L40,5 L50,15 L60,5 L70,15 L80,5 L85,10 H95".toList

/-- A part for capacitance. -/
def capacitor : Part where
  id := "cap_001"
  name := "Ceramic Capacitor"
  category := .passive
  description := "A passive two-terminal electrical component used to store energy " ++
    "electrostatically in an electric field."
  definition := linesOf ["name: Capacitor", "designator: C", "pins:", "  - number: 1",
    "    name: ~", "  - number: 2", "    name: ~", "parameters:", "  capacitance:",
    "    type: number", "    unit: farad", "    required: true", "  voltage_rating:",
    "    type: number", "    unit: volt"]
  symbolPath? := some "M5,10 H40 M40,0 V20 M60,0 V20 M60,10 H95".toList

/-- An amplifier. -/
def amplifier : Part where
  id := "opamp_001"
  name := "Op-Amp (Ideal)"
  category := .integratedCircuit
  description := "A DC-coupled high-gain electronic voltage amplifier with a differential " ++
    "input and, usually, a single-ended output."
  definition := linesOf ["name: Operational Amplifier", "designator: U", "pins:",
    "  - number: 1", "    name: IN+", "  - number: 2", "    name: IN-", "  - number: 3",
    "    name: V+", "  - number: 4", "    name: V-", "  - number: 5", "    name: OUT",
    "parameters:", "  gain:", "    type: number", "    default: 100000"]
  symbolPath? := some "M20,10 V90 L80,50 Z M10,25 H20 M10,75 H20 M80,50 H90".toList

/-- A transistor. -/
def transistor : Part where
  id := "bjt_npn"
  name := "NPN Transistor"
  category := .semiconductor
  description := "A bipolar junction transistor (BJT) where the majority charge carriers are " ++
    "electrons."
  definition := linesOf ["name: NPN Transistor", "designator: Q", "pins:", "  - number: 1",
    "    name: Base", "  - number: 2", "    name: Collector", "  - number: 3",
    "    name: Emitter", "parameters:", "  beta:", "    type: number", "    default: 100"]
  symbolPath? := some
    "M30,20 V80 M30,50 H10 M30,30 L60,10 M30,70 L60,90 L55,80 M58,86 L53,92".toList

/-- The parts, in the order of the table. -/
def parts : List Part := [resistor, capacitor, amplifier, transistor]

/-- The symbol of a part: its path on a field of a hundred units. -/
def symbolOf (part : Part) : Symbol where
  id := "sym_" ++ part.id
  name := part.name
  category := part.category
  markup :=
    let path : Text := match part.symbolPath? with
      | some d => "<path d=\"" ++ d ++ "\"/>"
      | none => []
    "<svg viewBox=\"0 0 100 100\" fill=\"none\" stroke=\"currentColor\" stroke-width=\"2\" " ++
      "stroke-linecap=\"round\" stroke-linejoin=\"round\" " ++
      "xmlns=\"http://www.w3.org/2000/svg\">" ++ path ++ "</svg>"

/-- One symbol for each part, in the same order. -/
def symbols : List Symbol := parts.map symbolOf

/-- The schema that definitions are meant to follow. -/
def schema : Text := linesOf [
  "\x7b",
  "  \"$schema\": \"http://json-schema.org/draft-07/schema#\",",
  "  \"title\": \"Component Definition\",",
  "  \"type\": \"object\",",
  "  \"required\": [\"name\", \"designator\", \"pins\"],",
  "  \"properties\": \x7b",
  "    \"name\": \x7b \"type\": \"string\" \x7d,",
  "    \"designator\": \x7b \"type\": \"string\", \"pattern\": \"^[A-Z]+$\" \x7d,",
  "    \"pins\": \x7b",
  "      \"type\": \"array\",",
  "      \"items\": \x7b",
  "        \"type\": \"object\",",
  "        \"required\": [\"number\"],",
  "        \"properties\": \x7b",
  "          \"number\": \x7b \"type\": \"integer\" \x7d,",
  "          \"name\": \x7b \"type\": [\"string\", \"null\"] \x7d",
  "        \x7d",
  "      \x7d",
  "    \x7d,",
  "    \"parameters\": \x7b \"type\": \"object\" \x7d",
  "  \x7d",
  "\x7d"]

/-- The part has the term in its name or in the name of its category; case does not count. -/
def matchesTerm (needle : Text) (part : Part) : Bool :=
  needle.isEmpty || part.name.lower.contains needle || part.category.label.lower.contains needle

/-- The parts that match a term, without the white space around it. -/
def search (term : Text) : List Part := parts.filter (matchesTerm term.trim.lower)

end Library

end CircuitHub

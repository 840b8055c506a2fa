import CircuitHub.Text.Basic

/-!
# Views

The hub shows one of five views at a time. They have an order, in which one walks from each to the
next and from the last to the first.
-/

namespace CircuitHub

/-- One of the five views. -/
inductive View where
  | dashboard
  | components
  | symbols
  | designer
  | validator
  deriving DecidableEq, Inhabited, Repr

namespace View

/-- The views in the order of the sidebar. -/
def all : List View := [dashboard, components, symbols, designer, validator]

/-- The name in the sidebar. -/
def label : View → Text
  | dashboard => "Dashboard"
  | components => "Components"
  | symbols => "Symbol Library"
  | designer => "AI Designer"
  | validator => "Validator"

/-- The heading above the view. -/
def title : View → Text
  | dashboard => "Mission Control"
  | components => "Component Database"
  | symbols => "Symbol Assets"
  | designer => "AI Workbench"
  | validator => "Validation Tool"

/-- What the view is for. -/
def subtitle : View → Text
  | dashboard => "System Overview & Quick Actions"
  | components => "View and manage component YAML definitions"
  | symbols => "Browse machine-readable SVG symbols"
  | designer => "Assistive generation powered by Google Gemini"
  | validator => "Ensure data consistency and reliability"

/-- The name on the command line. -/
def name : View → Text
  | dashboard => "dashboard"
  | components => "components"
  | symbols => "symbols"
  | designer => "ai-designer"
  | validator => "validator"

/-- The place in the order, from zero. -/
def index : View → Nat
  | dashboard => 0
  | components => 1
  | symbols => 2
  | designer => 3
  | validator => 4

/-- The view after this one. -/
def next : View → View
  | dashboard => components
  | components => symbols
  | symbols => designer
  | designer => validator
  | validator => dashboard

/-- The view before this one. -/
def prev : View → View
  | dashboard => validator
  | components => dashboard
  | symbols => components
  | designer => symbols
  | validator => designer

/-- The view of a name, in any case of the letters if `ignoreCase`. -/
def ofName? (ignoreCase : Bool) (t : Text) : Option View :=
  all.find? fun v => if ignoreCase then v.name.equalsIgnoringAsciiCase t else v.name == t

end View

end CircuitHub

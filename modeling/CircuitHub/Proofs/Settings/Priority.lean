import CircuitHub.Proofs.Exchange.Running
import CircuitHub.Proofs.Text.Scan
import CircuitHub.Settings.Setup
import Mathlib.Logic.Relation

/-!
# Which source decides

What the hub works with is chosen among sources, and every choice has an order in which the sources
are looked at (`Choice.order`). The first one that supplies a text decides (`Sources.Decides`). A
variable of the environment supplies its value and a file what stands in it, without the white space
around it, but neither does if that is blank.

A source is looked at only if all above it supply nothing (`Sources.LooksAt`). So a choice depends
on no source below the one that decides, and on none that it does not have in its order.

* `Sources.setup_text?_eq_some_iff`: what is in force is what the deciding source supplies;
* `Sources.setup_text?_congr`: it stays the same as long as the sources that are looked at do;
* `Sources.in_force`: so it does in a hub at work, and with it everything that providers are asked.
-/

namespace CircuitHub

/-- Where a text in force may come from. -/
inductive Source where
  | commandLine
  /-- A variable of the environment. -/
  | environment (name : Text)
  | settings
  /-- The file that the settings name. -/
  | file
  /-- The hub itself. -/
  | builtIn
  deriving DecidableEq

/-- What the text of a source comes to, if it counts. -/
def Source.supply? : Source → Text → Option Text
  | environment _, t => if t.isBlank then none else some t
  | file, t => if t.isBlank then none else some t.trim
  | commandLine, t | settings, t | builtIn, t => some t

/-- A text that is chosen among sources. -/
inductive Choice where
  | model
  | instruction
  | key
  | base
  deriving DecidableEq

/-- The sources of a choice, the highest first. -/
def Choice.order : Choice → List Source
  | model => [.commandLine, .environment "LEGION_MODEL", .settings, .builtIn]
  | instruction => [.settings, .file, .builtIn]
  | key => [.environment "GEMINI_API_KEY", .environment "API_KEY", .settings]
  | base => [.environment "GEMINI_BASE_URL", .settings, .builtIn]

/-- The text that is in force for a choice. -/
def Setup.text? (setup : Setup) : Choice → Option Text
  | .model => some setup.model
  | .instruction => some setup.instruction
  | .key => setup.key?
  | .base => some setup.base

/-- What may be set anywhere. -/
structure Sources where
  /-- What the user has set. -/
  settings : Settings
  /-- The model that the command line names. -/
  argument? : Option Text
  /-- The variables of the environment. -/
  environment : Environment
  /-- The texts of files. -/
  fileText? : Text → Option Text

namespace Sources

variable (s : Sources)

/-- What is in force. -/
def setup : Setup := .resolve s.settings s.argument? s.environment s.fileText?

/-- What the hub itself has for a choice. -/
def builtIn? : Choice → Option Text
  | .model => some defaultModel
  | .instruction => some defaultInstruction
  | .key => none
  | .base => some defaultBase

/-- What the settings have for a choice. -/
def inSettings? : Choice → Option Text
  | .model => s.settings.model?
  | .instruction => s.settings.instruction?
  | .key => s.settings.key?
  | .base => s.settings.base?

/-- The text that stands in a source, for a choice that has the source in its order. -/
def text? (c : Choice) : Source → Option Text
  | .commandLine => s.argument?
  | .environment name => s.environment name
  | .settings => s.inSettings? c
  | .file => s.settings.instructionFile?.bind s.fileText?
  | .builtIn => builtIn? c

/-- The text that a source supplies for a choice. -/
def supplied? (c : Choice) (x : Source) : Option Text := (s.text? c x).bind x.supply?

/-- All sources of a choice above `x` supply nothing. -/
def LooksAt (c : Choice) (x : Source) : Prop :=
  ∃ above below, c.order = above ++ x :: below ∧ ∀ y ∈ above, s.supplied? c y = none

/-- The first source of a choice that supplies anything is `x`, and it supplies `t`. -/
def Decides (c : Choice) (x : Source) (t : Text) : Prop :=
  s.LooksAt c x ∧ s.supplied? c x = some t

/-! ### What is in force -/

theorem supplied?_environment (c : Choice) (name : Text) :
    s.supplied? c (.environment name) = s.environment.filled? name := by
  rw [supplied?, text?, Environment.filled?]
  cases s.environment name with
  | none => rfl
  | some t => cases h : t.isBlank <;> simp [Source.supply?, Option.filter_some, h]

theorem supplied?_file (c : Choice) :
    s.supplied? c .file =
      ((s.settings.instructionFile?.bind s.fileText?).map Text.trim).filter (!·.isEmpty) := by
  rw [supplied?, text?]
  cases s.settings.instructionFile?.bind s.fileText? with
  | none => rfl
  | some t =>
    cases h : t.isBlank with
    | true => simp [Source.supply?, Option.filter_some, h, Text.trim_eq_nil h]
    | false => simp [Source.supply?, Option.filter_some, h, Text.trim_eq_nil_iff]

theorem supplied?_settings (c : Choice) : s.supplied? c .settings = s.inSettings? c := by
  rw [supplied?, text?]
  cases s.inSettings? c <;> rfl

theorem supplied?_commandLine (c : Choice) : s.supplied? c .commandLine = s.argument? := by
  rw [supplied?, text?]
  cases s.argument? <;> rfl

theorem supplied?_builtIn (c : Choice) : s.supplied? c .builtIn = builtIn? c := by
  cases c <;> rfl

/-- What is in force is the first text that a source in the order supplies. -/
theorem setup_text?_eq (c : Choice) : s.setup.text? c = c.order.findSome? (s.supplied? c) := by
  cases c <;>
    simp only [Choice.order, List.findSome?_cons, List.findSome?_nil, supplied?_commandLine,
      supplied?_environment, supplied?_settings, supplied?_file, supplied?_builtIn, inSettings?,
      builtIn?, Setup.text?, setup, Setup.resolve]
  -- What is left depends on which of the sources supply something.
  case model =>
    rw [Setup.modelOf]
    cases s.argument? <;> cases s.environment.filled? "LEGION_MODEL" <;>
      cases s.settings.model? <;> rfl
  case instruction =>
    rw [Setup.instructionOf]
    cases s.settings.instruction? <;>
      cases ((s.settings.instructionFile?.bind s.fileText?).map Text.trim).filter (!·.isEmpty) <;>
      rfl
  case key =>
    rw [Setup.keyOf]
    cases s.environment.filled? "GEMINI_API_KEY" <;> cases s.environment.filled? "API_KEY" <;>
      cases s.settings.key? <;> rfl
  case base =>
    rw [Setup.baseOf]
    cases s.environment.filled? "GEMINI_BASE_URL" <;> cases s.settings.base? <;> rfl

theorem setup_text?_eq_some_iff {c : Choice} {t : Text} :
    s.setup.text? c = some t ↔ ∃ x, s.Decides c x t := by
  rw [setup_text?_eq, List.findSome?_eq_some_iff]
  constructor
  · rintro ⟨above, x, below, horder, hx, habove⟩
    exact ⟨x, ⟨above, below, horder, habove⟩, hx⟩
  · rintro ⟨x, ⟨above, below, horder, habove⟩, hx⟩
    exact ⟨above, x, below, horder, hx, habove⟩

/-- What follows some sources that supply nothing supplies the same as long as the sources that are
    looked at do. -/
theorem findSome?_congr_of_looksAt {s s' : Sources} {c : Choice}
    (h : ∀ x, s.LooksAt c x → s'.text? c x = s.text? c x) (above : List Source)
    {below : List Source} (horder : c.order = above ++ below)
    (habove : ∀ y ∈ above, s.supplied? c y = none) :
    below.findSome? (s'.supplied? c) = below.findSome? (s.supplied? c) := by
  induction below generalizing above with
  | nil => rfl
  | cons x below ih =>
    -- Nothing above `x` supplies anything, so that it is looked at.
    have same : s'.supplied? c x = s.supplied? c x := by
      rw [supplied?, supplied?, h x ⟨above, below, horder, habove⟩]
    rw [List.findSome?_cons, List.findSome?_cons, same]
    cases hx : s.supplied? c x with
    | some t => rfl
    | none =>
      -- Then it does not decide, and the next source is looked at as well.
      refine ih (above ++ [x]) (by simp [horder]) fun y hy => ?_
      rcases List.mem_append.1 hy with hy | hy
      · exact habove y hy
      · rwa [List.mem_singleton.1 hy]

/-- A choice stays the same as long as the sources that are looked at for it do. -/
theorem setup_text?_congr {s s' : Sources} {c : Choice}
    (h : ∀ x, s.LooksAt c x → s'.text? c x = s.text? c x) :
    s'.setup.text? c = s.setup.text? c := by
  rw [setup_text?_eq, setup_text?_eq]
  exact findSome?_congr_of_looksAt h [] rfl (by simp)

/-- How long an exchange may take, in thousandths of a second: as long as the settings say, where
    zero is for any time, or else two minutes. -/
def limit? : Option Nat :=
  match s.settings.seconds? with
  | none => some 120000
  | some 0 => none
  | some seconds => some (1000 * seconds)

theorem client_limit?_eq : s.setup.client.limit? = s.limit? := by
  simp only [setup, Setup.resolve, Setup.client, Setup.secondsOf, limit?]
  rcases s.settings.seconds? with _ | _ | seconds <;> rfl

end Sources

namespace RunningHub

variable {r r' : RunningHub}

/-- What the providers of the exchanges are asked: each ends with an answer to this (`Step.finish`),
    or with the limit. -/
def requests (r : RunningHub) : List Request :=
  r.exchanges.map fun x => r.hub.client.request x.prompt

/-- Nothing changes how prompts are sent. -/
theorem Step.client_eq (h : Step r r') : r'.hub.client = r.hub.client := by
  cases h with
  | dispatch e =>
    rcases r.session.dispatch_cases e with ⟨prompt, -, -, hub, -⟩ | ⟨same, -⟩
    · exact (congrArg Hub.client hub :)
    · exact same.client
  | finish provider => rfl
  | @take action rest hq =>
    rcases r.hub.update_cases action with ⟨prompt, -, -, -, hu⟩ | ⟨reply, -, -, hu⟩ | ⟨same, -⟩
    · exact congrArg (·.1.client) hu
    · exact congrArg (·.1.client) hu
    · exact same.client
  | draw step frame => rfl
  | pass seconds => rfl

theorem client_eq_of_reflTransGen (h : Relation.ReflTransGen Step r r') :
    r'.hub.client = r.hub.client := by
  induction h with
  | refl => rfl
  | tail _ hs ih => exact hs.client_eq.trans ih

end RunningHub

namespace Sources

/-- Whatever has happened to a hub that was started with what is in force: every provider is asked
    for the model and with the instruction of the deciding sources, within the time that the
    settings allow. The key is that of the deciding source, if there is one. Other sources in which
    those that are looked at for a choice are the same, whatever else they hold, come to the same
    choice, and the time depends on nothing but what is set for it. -/
theorem in_force (s : Sources) {now : Clock} {r : RunningHub}
    (h : Relation.ReflTransGen RunningHub.Step (.start s.setup.client now) r) :
    (∀ request ∈ r.requests,
      (∃ x, s.Decides .model x request.model) ∧ ∃ x, s.Decides .instruction x request.instruction) ∧
    (∃ x, s.Decides .model x r.hub.client.model) ∧
    (∃ x, s.Decides .instruction x r.hub.client.instruction) ∧
    r.hub.client.limit? = s.limit? ∧
    (∀ key, s.setup.key? = some key ↔ ∃ x, s.Decides .key x key) ∧
    ∀ s' : Sources,
      (∀ c, (∀ x, s.LooksAt c x → s'.text? c x = s.text? c x) →
        s'.setup.text? c = s.setup.text? c) ∧
      (s'.settings.seconds? = s.settings.seconds? →
        s'.setup.client.limit? = s.setup.client.limit?) := by
  have client : r.hub.client = s.setup.client := RunningHub.client_eq_of_reflTransGen h
  have model : ∃ x, s.Decides .model x s.setup.client.model := s.setup_text?_eq_some_iff.1 rfl
  have instruction : ∃ x, s.Decides .instruction x s.setup.client.instruction :=
    s.setup_text?_eq_some_iff.1 rfl
  rw [client]
  refine ⟨fun request hrequest => ?_, model, instruction, s.client_limit?_eq,
    fun key => s.setup_text?_eq_some_iff (c := .key), fun s' => ⟨fun c => setup_text?_congr, ?_⟩⟩
  · obtain ⟨exchange, -, rfl⟩ := List.mem_map.1 hrequest
    rw [client]
    exact ⟨model, instruction⟩
  · intro hseconds
    rw [client_limit?_eq, client_limit?_eq, limit?, limit?, hseconds]

/-- Sources of which the higher ones are blank. -/
def mostlyBlank : Sources where
  settings := ⟨some "m", none, some "f", some 0, some "l", none⟩
  argument? := none
  environment name := if name = "API_KEY" then some "k" else some " "
  fileText? path := if path = "f" then some " x\n" else none

/-- A hub with these sources that has been asked `h` in the designer. -/
def askedBlank : RunningHub :=
  (((RunningHub.start mostlyBlank.setup.client 0).dispatch (.selectView 3)).dispatch
    (.type 'h')).dispatch .submit

theorem in_force_askedBlank :
    Relation.ReflTransGen RunningHub.Step (.start mostlyBlank.setup.client 0) askedBlank ∧
      askedBlank.requests = [⟨"m", "h", "x"⟩] ∧ askedBlank.hub.client.limit? = none ∧
      ∃ x, mostlyBlank.Decides .key x "k" := by
  have run : Relation.ReflTransGen RunningHub.Step (.start mostlyBlank.setup.client 0) askedBlank :=
    ((Relation.ReflTransGen.single (.dispatch _ (.selectView 3))).tail
      (.dispatch _ (.type 'h'))).tail (.dispatch _ .submit)
  obtain ⟨-, -, -, limit, key, -⟩ := in_force mostlyBlank run
  exact ⟨run, by decide +kernel, limit, (key "k").1 (by decide)⟩

end Sources

end CircuitHub

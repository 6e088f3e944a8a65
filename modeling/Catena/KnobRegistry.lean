import Catena.JsonPaths
import Catena.PanelService

/-!
# The knob registry

`load` of `render_knobs.py`: the registry behind the installer, the inventory's
`.env` and the panel, parsed from YAML, and the checks that every part of it
goes through.
-/

namespace Catena

/-- A step that ends well went through both its halves. -/
theorem bind_ok {ε α β : Type} {step : Except ε α} {next : α → Except ε β} {value : β}
    (ran : (step >>= next) = .ok value) : ∃ first, step = .ok first ∧ next first = .ok value := by
  cases step with
  | error failure => cases ran
  | ok first => exact ⟨first, rfl, ran⟩

namespace RenderKnobs

open PanelService (orList sortedKeys)

/-- What reading the registry raises. -/
inductive LoadError where
  | knobError (message : String)
  | typeError
  | attributeError
  deriving DecidableEq

abbrev Result := Except LoadError

def require (condition : Bool) (message : String) : Result Unit :=
  if condition then .ok () else .error (.knobError message)

def isDict : Json → Bool
  | .obj _ => true
  | _ => false

def isStr : Json → Bool
  | .str _ => true
  | _ => false

/-- `d.get(key)`. -/
def item (value : Json) (key : String) : Option Json :=
  PyDict.get value.fields key

/-- `key in d`. -/
def has (value : Json) (key : String) : Bool :=
  (item value key).isSome

/-- `bool(d.get(key))`. -/
def holds (value : Json) (key : String) : Bool :=
  (item value key).any Json.truthy

/-- A string. -/
def textOf : Option Json → String
  | some (.str text) => text
  | _ => ""

/-- `isinstance(value, str) and value`. -/
def isText (value : Option Json) : Bool :=
  value.any fun value => isStr value && value.truthy

/-- `isinstance(value, str) and value.strip()`. -/
def isNonblank (value : Option Json) : Bool :=
  value.any isStr && PyText.strip (textOf value) ≠ ""

/-- `value in names`, for a tuple or a list of strings. -/
def isOneOf (names : List String) : Option Json → Bool
  | some (.str text) => text ∈ names
  | _ => false

/-- The items of a list; other values have none. -/
def itemsOf : Option Json → List Json
  | some (.arr items) => items
  | _ => []

/-- `isinstance(value, list) and value`. -/
def isFullList (value : Option Json) : Bool :=
  !(itemsOf value).isEmpty

/-- `value in items`. -/
def isIn (value : Json) (items : List Json) : Bool :=
  items.any fun item => item.pyEq value

/-- A tuple of strings, as it is printed. -/
def printed (names : List String) : String :=
  "(" ++ ", ".intercalate (names.map fun name => "'" ++ name ++ "'") ++
    (if names.length = 1 then ",)" else ")")

def residences : List String :=
  ["store", "controller", "host"]

def kinds : List String :=
  ["secret", "text", "choice"]

def panelSections : List String :=
  ["secrets", "config"]

def groups : List String :=
  ["tunnel", "backup", "mail", "alerts", "share", "access", "license", "hostnames",
    "subdomains", "server", "vulnerabilities"]

def panelOptionSources : List String :=
  ["timezones", "cloudflare_zones"]

def guiSuggestionSources : List String :=
  ["ssh_keys"]

def langs : List String :=
  ["en", "fr"]

def knobFields : List String :=
  ["key", "residence", "var", "env", "panel", "step", "label", "help", "depends", "required",
    "gui_suggestions_from", "gui_choice"]

def guiChoices : List String :=
  ["public", "private"]

def guiStepFields : List String :=
  ["name", "title", "doc", "note"]

def envUnquotable : List Char :=
  [' ', '\t', '#', '"', '\'', '$']

section Checks

variable (py : Builtins)

/-- A list of strings, as it is printed. -/
def shown (names : List String) : String :=
  py.repr (.arr (names.map Json.str))

/-- `set(value) - set(known)`. -/
def unknownKeys (value : Json) (known : List String) : List String :=
  (PyDict.keys value.fields).filter (· ∉ known)

/-- `{sorted(names)}`. -/
def shownSorted (names : List String) : String :=
  shown py (names.mergeSort fun left right => left ≤ right)

def checkText (place field : String) (value : Json) (required : List String) : Result Unit := do
  require (isDict value) (place ++ ": " ++ field ++ " is not a mapping of language to text")
  require (unknownKeys value langs).isEmpty
    (place ++ ": " ++ field ++ " has languages " ++ shownSorted py (unknownKeys value langs) ++
      "; the readers know " ++ printed langs)
  required.forM fun lang =>
    require (isNonblank (item value lang)) (place ++ ": " ++ field ++ " has no " ++ lang ++ " text")

/-- `{value!r}`, for `d.get(key)`. -/
def reprAt (value : Json) (key : String) : String :=
  py.repr ((item value key).getD .null)

def checkPanelOptions (key : String) (panel : Json) : Result Unit :=
  if isOneOf ["choice"] (item panel "kind") then do
    require (isFullList (item panel "options"))
      (key ++ ": a choice field needs a non-empty options list")
    require ((itemsOf (item panel "options")).all isStr)
      (key ++ ": choice options must be strings")
  else
    require (((item panel "options").getD .null).same .null)
      (key ++ ": options on a " ++ textOf (item panel "kind") ++ " field are read by nothing")

def checkPanelDefault (key : String) (panel default : Json) : Result Unit := do
  require (!isOneOf ["secret"] (item panel "kind")) (key ++ ": a secret field shows no default")
  require (isText (some default)) (key ++ ": panel default must be a non-empty string")
  require (((item panel "options").getD .null).same .null ||
      isIn default (itemsOf (item panel "options")))
    (key ++ ": the default " ++ py.repr default ++ " is not one of " ++ reprAt py panel "options")

def checkPanelSource (key : String) (panel source : Json) : Result Unit := do
  require (isOneOf panelOptionSources (some source))
    (key ++ ": options_from " ++ py.repr source ++ " is not one of " ++ printed panelOptionSources)
  require (isOneOf ["text"] (item panel "kind"))
    (key ++ ": options_from fills a text field's list; a choice declares its own options")

/-- A check of a value that is there and is not `None`. -/
def whereGiven (value : Option Json) (check : Json → Result Unit) : Result Unit :=
  match value with
  | none => .ok ()
  | some .null => .ok ()
  | some value => check value

def checkPanel (key : String) (panel : Json) : Result Unit := do
  require (isDict panel) (key ++ ": panel is not a mapping")
  ["group", "section", "kind", "optional"].forM fun field =>
    require (has panel field) (key ++ ": panel is missing " ++ field)
  require (isOneOf groups (item panel "group"))
    (key ++ ": panel group " ++ reprAt py panel "group" ++ " is not one of " ++ printed groups)
  require (isOneOf panelSections (item panel "section"))
    (key ++ ": panel section " ++ reprAt py panel "section" ++ " is not one of " ++
      printed panelSections)
  require (isOneOf kinds (item panel "kind"))
    (key ++ ": panel kind " ++ reprAt py panel "kind" ++ " is not one of " ++ printed kinds)
  require (match item panel "optional" with | some (.bool _) => true | _ => false)
    (key ++ ": panel optional is not a boolean")
  checkPanelOptions key panel
  whereGiven (item panel "default") (checkPanelDefault py key panel)
  whereGiven (item panel "options_from") (checkPanelSource py key panel)

/-- A value that `in` looks up in a set or a dict has to be hashable. -/
def hashable : Option Json → Result Unit
  | some (.arr _) => .error .typeError
  | some (.obj _) => .error .typeError
  | _ => .ok ()

/-- The options of an `.env` key, where it has them. -/
def checkEnvOptions (key : String) (default options : Json) : Result Unit := do
  require (isFullList (some options)) (key ++ ": env options is empty")
  require ((itemsOf (some options)).all isStr) (key ++ ": env options must be strings")
  require (isIn default (itemsOf (some options)))
    (key ++ ": the default " ++ py.repr default ++ " is not one of " ++ py.repr options)

/-- The example of an `.env` key, where it has one. -/
def checkEnvExample (key : String) (default example_ : Json) : Result Unit := do
  require (isText (some example_)) (key ++ ": env example must be a non-empty string")
  require (!default.truthy)
    (key ++ ": a knob with a default needs no example; the default already illustrates it")

def checkEnv (key : String) (env : Json) (sections : List String) : Result Unit := do
  require (isDict env) (key ++ ": env is not a mapping")
  hashable (item env "section")
  require (isOneOf sections (item env "section"))
    (key ++ ": env section " ++ reprAt py env "section" ++
      " is not a declared section; the template would have nowhere to print it")
  let default := (item env "default").getD .null
  require (isStr default) (key ++ ": env needs a string default (an empty one marks it optional)")
  require (!envUnquotable.any fun character => character ∈ (textOf (some default)).toList)
    (key ++ ": the default " ++ py.repr default ++ " cannot be written unquoted in a .env, " ++
      "so it is the wrong default to illustrate the field with")
  whereGiven (item env "options") (checkEnvOptions py key default)
  whereGiven (item env "example") (checkEnvExample key default)
  whereGiven (item env "reseed") fun reseed =>
    require (reseed.same (.bool true)) (key ++ ": env reseed is `true` or absent")

/-- One section of the template, after those named so far. -/
def checkSection (names : List String) (given : Json) : Result (List String) := do
  require (isDict given) ("env_sections: " ++ py.repr given ++ " is not a mapping")
  require (isText (item given "name")) ("env_sections: " ++ py.repr given ++ " has no name")
  let name := textOf (item given "name")
  require (isText (item given "title")) ("env_sections " ++ name ++ ": no title")
  require (name ∉ names) ("env_sections " ++ name ++ ": declared twice")
  .ok (names ++ [name])

/-- One step of the launcher, after those named so far. -/
def checkStep (names : List String) (step : Json) : Result (List String) := do
  require (isDict step) ("gui_steps: " ++ py.repr step ++ " is not a mapping")
  require (isText (item step "name")) ("gui_steps: " ++ py.repr step ++ " has no name")
  let name := textOf (item step "name")
  require (name ∉ names) ("gui_steps " ++ name ++ ": declared twice")
  require (unknownKeys step guiStepFields).isEmpty
    ("gui_steps " ++ name ++ ": " ++ shownSorted py (unknownKeys step guiStepFields) ++
      " are not step fields")
  ["title", "doc"].forM fun field => do
    require (has step field) ("gui_steps " ++ name ++ ": no " ++ field)
    checkText py ("gui_steps " ++ name) field ((item step field).getD .null) langs
  (if has step "note" then
    checkText py ("gui_steps " ++ name) "note" ((item step "note").getD .null) langs
  else .ok ())
  .ok (names ++ [name])

/-- What the launcher or the template says about a knob. -/
def checkHelp (key : String) (entry : Json) (steps : List String) : Result Unit :=
  let textAt := fun field required =>
    checkText py key field ((item entry field).getD .null) required
  if has entry "step" then do
    require (isOneOf steps (item entry "step"))
      (key ++ ": step " ++ reprAt py entry "step" ++
        " is not a declared gui step, so the launcher would have nowhere to ask for it")
    require (has entry "env")
      (key ++ ": the installer asks only for what its .env keeps, and this knob has no env home")
    require (has entry "label")
      (key ++ ": a field the launcher asks for needs a label to name it on the page")
    textAt "label" langs
    require (has entry "help")
      (key ++ ": a field the launcher asks for needs help to explain it")
    textAt "help" langs
  else if has entry "env" then do
    require (has entry "help") (key ++ ": a key the .env carries needs help above it")
    textAt "help" ["en"]
  else
    require (!has entry "help")
      (key ++ ": help is read by the launcher and the .env, and this knob is in neither")

/-- The choice in front of a field, where it has one. -/
def checkGuiChoice (key : String) (entry choice : Json) : Result Unit := do
  require (isDict choice && sortedKeys choice.fields == ["private", "public"])
    (key ++ ": gui_choice labels exactly " ++ printed guiChoices)
  guiChoices.forM fun option =>
    checkText py (key ++ " gui_choice") option ((item choice option).getD .null) langs
  require (!holds entry "required")
    (key ++ ": a field behind a gui_choice is required only when `private` is chosen, " ++
      "so it cannot be required outright")

/-- A check of a field that is there. -/
def whereHas (entry : Json) (field : String) (check : Json → Result Unit) : Result Unit :=
  match item entry field with
  | none => .ok ()
  | some value => check value

/-- One knob, after the keys seen so far. -/
def checkEntry (steps seen : List String) (entry : Json) : Result (List String) := do
  require (isDict entry) ("knobs.yml: entry " ++ py.repr entry ++ " is not a mapping")
  require (isText (item entry "key")) ("knobs.yml: entry with no key: " ++ py.repr entry)
  let key := textOf (item entry "key")
  require (key ∉ seen) (key ++ ": declared twice")
  require (unknownKeys entry knobFields).isEmpty
    (key ++ ": " ++ shownSorted py (unknownKeys entry knobFields) ++
      " are not registry fields; a maintainer's note is a # comment")
  whereHas entry "panel" (checkPanel py key)
  require (!(has entry "env" && holds entry "panel"))
    (key ++ ": has an env home and a panel field; a value lives in one place")
  checkHelp py key entry steps
  ["required", "gui_suggestions_from", "label", "gui_choice"].forM fun field =>
    require (!has entry field || has entry "step")
      (key ++ ": " ++ field ++ " is read by the launcher, and this knob has no step")
  whereHas entry "gui_choice" (checkGuiChoice py key entry)
  whereHas entry "required" fun required =>
    require (match required with | .bool _ => true | _ => false) (key ++ ": required is not a boolean")
  whereHas entry "gui_suggestions_from" fun source =>
    require (isOneOf guiSuggestionSources (some source))
      (key ++ ": gui_suggestions_from is not one of " ++ printed guiSuggestionSources)
  .ok (seen ++ [key])

/-- What holds of a secret alone. -/
def checkSecret (entry : Json) : Result Unit := do
  let key := textOf (item entry "key")
  require (!has entry "residence")
    (key ++ ": a secret always lives in the store; residence is not its to state")
  require (!has entry "env") (key ++ ": a secret never appears in the .env template")
  let panel := (item entry "panel").getD .null
  require (!holds entry "panel" || isOneOf ["secrets"] (item panel "section"))
    (key ++ ": a secret renders in the secrets section")
  require (!holds entry "panel" || isOneOf ["secret"] (item panel "kind"))
    (key ++ ": a secret renders as a secret field")

/-- What holds of a config value alone. -/
def checkConfig (sections : List String) (entry : Json) : Result Unit := do
  let key := textOf (item entry "key")
  let residence := item entry "residence"
  require (isOneOf residences residence)
    (key ++ ": residence " ++ reprAt py entry "residence" ++ " is not one of " ++
      printed residences)
  require (!has entry "var" || isOneOf ["store"] residence)
    (key ++ ": only a stored value is projected onto an Ansible fact")
  whereHas entry "env" fun env => do
    checkEnv py key env sections
    require (!holds env "reseed" || isOneOf ["store"] residence)
      (key ++ ": reseed writes the .env value into the store, and a " ++ textOf residence ++
        " value is not stored")
  let panel := (item entry "panel").getD .null
  require (!holds entry "panel" || isOneOf ["store"] residence)
    (key ++ ": the panel writes the store, so only a stored value can be a field on it")
  require (!holds entry "panel" || isOneOf ["config"] (item panel "section"))
    (key ++ ": a config value renders in the config section")

/-- The options of the choice fields. -/
def choices (entries : List Json) : PyDict String (List Json) :=
  PyDict.ofPairs ((entries.filter fun entry =>
    isOneOf ["choice"] (item ((item entry "panel").getD .null) "kind")).map fun entry =>
      (textOf (item entry "key"), itemsOf (item ((item entry "panel").getD .null) "options")))

def checkDepends (offered : PyDict String (List Json)) (entry depends : Json) : Result Unit := do
  let key := textOf (item entry "key")
  require (isDict depends && has depends "choice" && has depends "values")
    (key ++ ": depends needs both `choice` and `values`")
  hashable (item depends "choice")
  require (isOneOf (PyDict.keys offered) (item depends "choice"))
    (key ++ ": depends on " ++ reprAt py depends "choice" ++ ", which is not a choice field")
  let values ← match SwarmService.iterate ((item depends "values").getD .null) with
    | .ok values => .ok values
    | .error _ => .error .typeError
  let unknown := values.filter fun value =>
    !isIn value ((PyDict.get offered (textOf (item depends "choice"))).getD [])
  require unknown.isEmpty
    (key ++ ": depends on " ++ reprAt py depends "choice" ++ " values " ++
      py.repr (.arr unknown) ++ " that it does not offer")
  require (holds entry "panel")
    (key ++ ": depends governs whether the PANEL shows a field, and this knob is not one")

/-- `value or []`, which has to be a list. -/
def listAt (doc : Json) (key message : String) : Result (List Json) :=
  match orList ((item doc key).getD .null) with
  | .arr items => .ok items
  | _ => .error (.knobError message)

/-- `load`, from the parsed document. -/
def load (doc : Json) : Result Json := do
  require (isDict doc) "knobs.yml: top level is not a mapping"
  require (((item doc "version").getD .null).pyEq (.int 1)) "knobs.yml: expected version 1"
  let secrets ← listAt doc "secrets" "knobs.yml: secrets is not a list"
  let config ← listAt doc "config" "knobs.yml: config is not a list"
  require (isNonblank (item doc "env_header"))
    "knobs.yml: env_header is the template's preamble and cannot be empty"
  require (isFullList (item doc "env_sections"))
    "knobs.yml: env_sections is the template's running order"
  let sectionNames ← (itemsOf (item doc "env_sections")).foldlM (checkSection py) []
  require (isFullList (item doc "gui_steps")) "knobs.yml: gui_steps is the launcher's running order"
  let stepNames ← (itemsOf (item doc "gui_steps")).foldlM (checkStep py) []
  let _ ← (secrets ++ config).foldlM (checkEntry py stepNames) []
  secrets.forM checkSecret
  config.forM (checkConfig py sectionNames)
  let used := (config.filterMap (item · "env")).map fun env => textOf (item env "section")
  require (sectionNames.filter (· ∉ used)).isEmpty
    ("env_sections: " ++ shown py (sectionNames.filter (· ∉ used)) ++ " carry no key")
  let asked := ((secrets ++ config).filterMap (item · "step")).map fun step => textOf (some step)
  require (stepNames.filter (· ∉ asked)).isEmpty
    ("gui_steps: " ++ shown py (stepNames.filter (· ∉ asked)) ++ " ask for nothing")
  (secrets ++ config).forM fun entry =>
    whereGiven (item entry "depends") (checkDepends py (choices (secrets ++ config)) entry)
  .ok doc

end Checks

end RenderKnobs

end Catena

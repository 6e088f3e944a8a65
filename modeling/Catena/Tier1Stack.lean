import Catena.PanelService

/-!
# The roster of services and its stack file

`tier1_spec_upsert` and `tier1_stack_render` of the filter `tier1_stack.py`:
each role puts its service's spec on a roster, and the roster is rendered as
one compose mapping whose networks, volumes and secrets are all external.
-/

namespace Catena

namespace Tier1Stack

open SwarmService (FilterError asInt asFloat iterate)
open PanelService (orList sortedKeys)

/-- What `_fail` is called with. -/
inductive Refusal where
  | noSpecName
  | noServices
  | duplicate (name : String)
  | notMapping (spec : Json)
  | missing (key : String)
  | refusedKey (name reason : String)
  | rollback (name : String)
  | portNotMapping (name : String) (port : Json)
  | hostIp (name : String)
  | secretPair (name : String) (secret : Json)
  deriving DecidableEq

/-- The message behind `tier1_stack_render: `. -/
def Refusal.message (py : Builtins) : Refusal → String
  | noSpecName => "tier1_spec_upsert: spec has no name"
  | noServices => "services must be a non-empty list of service specs"
  | duplicate name => "duplicate service name " ++ py.repr (.str name)
  | notMapping spec => "each service must be a mapping, got " ++ py.repr spec
  | missing key => "service spec is missing required key " ++ py.repr (.str key)
  | refusedKey name reason => name ++ ": " ++ reason
  | rollback name => name ++ ": update_failure_action must be 'pause', not " ++
      "'rollback' -- catena-admin payload/engines/stackupdate is " ++
      "the rollback authority and swarm must not pre-empt it"
  | portNotMapping name port => name ++ ": ports must be mappings, got " ++ py.repr port
  | hostIp name => name ++ ": host_ip is not expressible in a swarm port " ++
      "-- `docker stack deploy` rejects the file outright. Scope the " ++
      "port with the public-ports registry instead"
  | secretPair name secret => name ++ ": secret " ++ py.repr secret ++ " needs name + target"

/-- The exceptions of the filters; `refused` is the `ValueError` of `_fail`. -/
inductive StackError where
  | filter (error : FilterError)
  | keyError (key : String)
  | refused (refusal : Refusal)
  deriving DecidableEq

abbrev Result := Except StackError

def fail {α : Type} (refusal : Refusal) : Result α :=
  .error (.refused refusal)

/-- A step of the other filters. -/
def lift {α : Type} : Except FilterError α → Result α
  | .ok value => .ok value
  | .error error => .error (.filter error)

abbrev Spec := PyDict String Json

def restartDelay : String :=
  "5s"

def requiredKeys : List String :=
  ["name", "image"]

/-- `_REFUSED`. -/
def refusedKeys : List (String × String) :=
  [("depends_on", "depends_on is SILENTLY IGNORED by `docker stack deploy` -- it would " ++
      "read as ordering while doing nothing. Ordering is " ++
      "deploy.restart_policy (crash-and-retry) plus a readiness probe"),
    ("restart", "top-level `restart` is silently ignored by swarm; use " ++
      "deploy.restart_policy (this renderer emits it for you)"),
    ("network_mode", "network_mode is silently ignored by `docker stack deploy`. Host " ++
      "networking is membership in the external network 'host' " ++
      "-- put it in `networks` instead"),
    ("group", "a supplementary group is not expressible in a stack file -- " ++
      "`docker stack config` rejects group_add outright, and the compose " ++
      "schema has no other spelling. A service that needs one keeps its own " ++
      "`docker service create` argv (see catena_admin_service.py)"),
    ("group_add", "group_add is REJECTED by `docker stack config`; see the `group` " ++
      "refusal above")]

/-- A field of a mapping, where there is a value for it. -/
def field (key : String) (value : Option Json) : PyDict String Json :=
  match value with
  | some value => [(key, value)]
  | none => []

def listField (key : String) (items : List Json) : PyDict String Json :=
  field key (if items.isEmpty then none else some (.arr items))

section Render

variable (py : Builtins)

/-- `str(spec.get(key) or "")`. -/
def textAt (spec : Spec) (key : String) : String :=
  Json.textOr py (PyDict.get spec key)

/-- The items of `spec.get(key) or []`. -/
def listed (spec : Spec) (key : String) : Result (List Json) :=
  lift (iterate (orList ((PyDict.get spec key).getD .null)))

/-- `str(value)`, as a value. -/
def shown (value : Json) : Json :=
  .str (value.toText py)

/-- `str(spec[key])`, where the key is there. -/
def shownAt (spec : Spec) (key : String) : Option Json :=
  (PyDict.get spec key).map (shown py)

/-- `{str(k): str(v) for k, v in sorted(value.items())}`, of `spec.get(key) or {}`. -/
def sortedTexts (spec : Spec) (key : String) : Result (Option Json) :=
  match SwarmService.orEmpty ((PyDict.get spec key).getD .null) with
  | .obj [] => .ok none
  | .obj items => .ok (some (.obj ((sortedKeys items).map fun key =>
      (key, shown py ((PyDict.get items key).getD .null)))))
  | _ => .error (.filter .attributeError)

def readAt (spec : Spec) (key : String) (read : Json → Result Json) : Result (Option Json) :=
  match PyDict.get spec key with
  | some value => (read value).map some
  | none => .ok none

/-- Swarm's own rollback is refused. -/
def failureAction (name : String) (action : Json) : Result Json :=
  if action.toText py = "rollback" then fail (.rollback name) else .ok (shown py action)

/-- The part of `_deploy_block` that is swarm's update config. -/
def updateConfig (spec : Spec) : Result (PyDict String Json) := do
  let action ← readAt spec "update_failure_action" (failureAction py (textAt py spec "name"))
  let ratio ← readAt spec "update_max_failure_ratio" fun ratio =>
    (lift (asFloat py ratio)).map .float
  .ok (field "failure_action" action ++ field "monitor" (shownAt py spec "update_monitor") ++
    field "order" (shownAt py spec "update_order") ++ field "max_failure_ratio" ratio)

/-- A mapping, left out where it is empty. -/
def filled (items : PyDict String Json) : Option Json :=
  if items.isEmpty then none else some (.obj items)

def deployBlock (spec : Spec) : Result Json := do
  let replicas ← lift (asInt py ((PyDict.get spec "replicas").getD (.int 1)))
  let isGlobal := PyText.strip (textAt py spec "mode") = "global"
  let memory (key : String) := (shownAt py spec key).map fun text => Json.obj [("memory", text)]
  let update ← updateConfig py spec
  let constraints ← listed spec "constraints"
  .ok (.obj ((if isGlobal then [] else [("replicas", .int replicas)]) ++
    [("restart_policy", .obj [("condition", .str "any"), ("delay", .str restartDelay)])] ++
    (if isGlobal then [("mode", .str "global")] else []) ++
    field "resources" (filled (field "limits" (memory "limit_memory") ++
      field "reservations" (memory "reserve_memory"))) ++
    field "update_config" (filled update) ++
    field "placement" (if constraints.isEmpty then none else
      some (.obj [("constraints", .arr (constraints.map (shown py)))]))))

def healthcheck (spec : Spec) : Result (Option Json) :=
  match PyDict.get spec "health_cmd" with
  | none => .ok none
  | some command => do
      let retries ← readAt spec "health_retries" fun retries =>
        (lift (asInt py retries)).map .int
      .ok (some (.obj ([("test", .arr [.str "CMD-SHELL", shown py command])] ++
        field "interval" (shownAt py spec "health_interval") ++ field "retries" retries ++
        field "start_period" (shownAt py spec "health_start_period"))))

/-- `port[key]`. -/
def portNumber (port : PyDict String Json) (key : String) : Result Json :=
  match PyDict.get port key with
  | some value => (lift (asInt py value)).map Json.int
  | none => .error (.keyError key)

/-- One round of `_ports`. -/
def portEntry (name : String) : Json → Result Json
  | .obj port =>
      if (PyDict.get port "host_ip").isSome then fail (.hostIp name)
      else do
        let target ← portNumber py port "target"
        let published ← portNumber py port "published"
        .ok (.obj [("target", target), ("published", published),
          ("protocol", shown py ((PyDict.get port "protocol").getD (.str "tcp"))),
          ("mode", shown py ((PyDict.get port "mode").getD (.str "host")))])
  | port => fail (.portNotMapping name port)

def ports (spec : Spec) : Result (List Json) := do
  let given ← listed spec "ports"
  given.mapM (portEntry py (textAt py spec "name"))

/-- `secret.get("name") or secret.get("source")`. -/
def secretSource (secret : PyDict String Json) : Json :=
  let name := (PyDict.get secret "name").getD .null
  if name.truthy then name else (PyDict.get secret "source").getD .null

/-- A secret in one of its two spellings. -/
def secretEntry (name : String) : Json → Result Json
  | .obj secret =>
      let source := Json.textOr py (some (secretSource secret))
      let target := Json.textOr py (PyDict.get secret "target")
      if source = "" ∨ target = "" then fail (.secretPair name (.obj secret))
      else .ok (.obj [("source", .str source), ("target", .str target)])
  | secret => .ok (shown py secret)

/-- The checks `_service` begins with. -/
def checkSpec (spec : Spec) : Result Unit :=
  match requiredKeys.find? fun key => PyText.strip (textAt py spec key) = "" with
  | some key => fail (.missing key)
  | none =>
      match refusedKeys.find? fun refused => (PyDict.get spec refused.1).isSome with
      | some (_, reason) => fail (.refusedKey (textAt py spec "name") reason)
      | none => .ok ()

def service : Json → Result Json
  | .obj spec => do
      let _ ← checkSpec py spec
      let deploy ← deployBlock py spec
      let networks ← listed spec "networks"
      let environment ← sortedTexts py spec "environment"
      let given ← listed spec "secrets"
      let secrets ← given.mapM (secretEntry py (textAt py spec "name"))
      let volumes ← listed spec "volumes"
      let published ← ports py spec
      let hosts ← listed spec "extra_hosts"
      let labels ← sortedTexts py spec "container_labels"
      let health ← healthcheck py spec
      let command ← readAt spec "command" fun command => (lift (iterate command)).map .arr
      .ok (.obj ([("image", shown py ((PyDict.get spec "image").getD .null)),
          ("deploy", deploy)] ++
        field "stop_grace_period" (shownAt py spec "stop_grace_period") ++
        listField "networks" (networks.map (shown py)) ++
        field "environment" environment ++
        listField "secrets" secrets ++
        listField "volumes" (volumes.map (shown py)) ++
        listField "ports" published ++
        listField "extra_hosts" (hosts.map (shown py)) ++
        field "labels" labels ++
        field "healthcheck" health ++
        field "command" command ++
        field "user" (shownAt py spec "user")))
  | spec => fail (.notMapping spec)

/-- `str(s.get("name") or "")`. -/
def writtenName : Json → String
  | .obj spec => textAt py spec "name"
  | _ => ""

/-- The name a spec renders under. -/
def serviceName (spec : Json) : String :=
  PyText.strip (writtenName py spec)

/-- `s.get("name")` of an entry that is no mapping raises. -/
def checkMapping : Json → Result Unit
  | .obj _ => .ok ()
  | _ => .error (.filter .attributeError)

def tier1SpecUpsert (existing spec : Json) : Result Json := do
  let _ ← checkMapping (if spec.truthy then spec else .obj [])
  let name := serviceName py spec
  if name = "" then fail .noSpecName
  else do
    let entries ← lift (iterate (orList existing))
    let _ ← entries.mapM checkMapping
    .ok (.arr ((entries.filter fun entry => writtenName py entry ≠ name) ++ [spec]))

/-- The specs put on the roster one after another. -/
def accumulate (specs : List Json) : Result Json :=
  specs.foldlM (tier1SpecUpsert py) (.arr [])

def renderNext (rendered : PyDict String Json) (spec : Json) : Result (PyDict String Json) := do
  let name := serviceName py spec
  if name ∈ PyDict.keys rendered then fail (.duplicate name)
  else do
    let entry ← service py spec
    .ok (PyDict.set rendered name entry)

/-- The network, secret and volume names a spec refers to. -/
structure References where
  networks : List String
  secrets : List String
  volumes : List String

def secretName : Json → String
  | .obj secret => (secretSource secret).toText py
  | secret => secret.toText py

/-- What stands before the first colon. -/
def volumeSource (volume : String) : String :=
  match PyText.partition ':' volume.toList with
  | some (source, _) => String.ofList source
  | none => volume

/-- A bind mount starts with / and is not a named volume. -/
def isNamed (source : String) : Bool :=
  source ≠ "" && !("/".toList.isPrefixOf source.toList)

/-- What the second pass reads of one spec. -/
def referencesOf : Json → Result References
  | .obj spec => do
      let networks ← listed spec "networks"
      let secrets ← listed spec "secrets"
      let volumes ← listed spec "volumes"
      .ok {
        networks := networks.map fun network => network.toText py
        secrets := secrets.map (secretName py)
        volumes := (volumes.map fun volume => volumeSource (volume.toText py)).filter isNamed }
  | _ => .error (.filter .attributeError)

/-- `{name: {"external": True} for name in sorted(names)}`, where there are any. -/
def external (names : List String) : Option Json :=
  if names.isEmpty then none
  else some (.obj ((names.dedup.mergeSort fun left right => left ≤ right).map fun name =>
    (name, .obj [("external", .bool true)])))

def renderSpecs (specs : List Json) : Result Json := do
  let rendered ← specs.foldlM (renderNext py) []
  let references ← specs.mapM (referencesOf py)
  .ok (.obj ([("services", .obj rendered)] ++
    field "networks" (external (references.flatMap References.networks)) ++
    field "volumes" (external (references.flatMap References.volumes)) ++
    field "secrets" (external (references.flatMap References.secrets))))

def tier1StackRender : Json → Result Json
  | .arr (spec :: specs) => renderSpecs py (spec :: specs)
  | _ => fail .noServices

end Render

end Tier1Stack

end Catena

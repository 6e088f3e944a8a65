import Catena.ServiceQuiet

/-!
# The panel's service

The filters that render the panel's swarm service: the environment and the
secrets it is declared with, the command line that creates it, and the three
drifts that bring a live service to it.
-/

namespace Catena

namespace PanelService

open SwarmService

/-- The exceptions of the filters. -/
inductive PanelError where
  | filter (error : FilterError)
  | keyError (key : String)
  deriving DecidableEq

/-- A step of the other filters. -/
def lift {α : Type} : Except FilterError α → Except PanelError α
  | .ok value => .ok value
  | .error error => .error (.filter error)

def valueError {α : Type} (message : String) : Except PanelError α :=
  .error (.filter (.valueError message))

/-- `value[key]`. -/
def index (key : String) : Json → Except PanelError Json
  | .obj fields =>
      match PyDict.get fields key with
      | some value => .ok value
      | none => .error (.keyError key)
  | _ => .error (.filter .typeError)

/-- `value or []`. -/
def orList (value : Json) : Json :=
  if value.truthy then value else .arr []

/-- `str(value or "")`. -/
def textOrEmpty (py : Builtins) (value : Json) : String :=
  Json.textOr py (some value)

/-- A step for every item, in order. -/
def collect {α β : Type} (step : α → Except PanelError β) : List α → Except PanelError (List β)
  | [] => .ok []
  | item :: rest => do
      let first ← step item
      let others ← collect step rest
      .ok (first :: others)

/-- `hashlib.sha256(value.encode("utf-8")).hexdigest()[:8]`. -/
structure ValueDigest where
  of : String → String
  hex : ∀ value, ∀ character ∈ (of value).toList, character.isAlphanum = true

section Filters

variable (py : Builtins) (digest : ValueDigest)

def secretName (base value : String) : String :=
  base ++ "-" ++ digest.of value

/-- One round of `secret_entries`. -/
def secretEntry (spec : Json) : Except PanelError (Option Json) := do
  let given ← lift (getOr "value" .null spec)
  let value := textOrEmpty py given
  if PyText.strip value = "" then .ok none
  else
    let base ← index "base" spec
    let target ← index "target" spec
    .ok (some (.obj [("name", .str (secretName digest (base.toText py) value)),
      ("target", .str (target.toText py)), ("value", .str value)]))

def secretEntries (specs : Json) : Except PanelError (List Json) := do
  let specs ← lift (iterate (orList specs))
  let entries ← collect (secretEntry py digest) specs
  .ok (entries.filterMap id)

def secretMountDir : String :=
  "/run/secrets"

/-- The variable that tells where a secret is. -/
def fileVariable (target : String) : String :=
  target ++ "_FILE"

/-- `{str(k): str(v) for k, v in value.items()}`. -/
def textItems : Json → Except PanelError (PyDict String String)
  | .obj fields => .ok (PyDict.ofPairs (fields.map fun field => (field.1, field.2.toText py)))
  | _ => .error (.filter .attributeError)

def catenaAdminFullEnv (spec : Json) : Except PanelError (PyDict String String) := do
  let plain ← lift (getOr "env" .null spec)
  let env ← textItems py (orEmpty plain)
  let listed ← lift (getOr "secrets" .null spec)
  let secrets ← lift (iterate (orList listed))
  let targets ← collect (index "target") secrets
  .ok (targets.foldl (fun env target =>
    PyDict.set env (fileVariable (target.toText py))
      (secretMountDir ++ "/" ++ target.toText py)) env)

/-- `_MOUNTS`. -/
def panelMounts : List (String × String × Bool) :=
  [("/var/lib/catena/admin", "/var/lib/catena/admin", false),
    ("/etc/catena/admin-ssh", "/etc/catena/admin-ssh", true),
    ("/var/backups/catena-export", "/var/backups/catena-export", true),
    ("/var/lib/catena", "/var/lib/catena", true),
    ("/etc/catena/admin-actions.yml", "/etc/catena/admin-actions.yml", true),
    ("/etc/catena/extra-tiles.yml", "/etc/catena/extra-tiles.yml", true),
    ("/run/systemd/journal/socket", "/run/systemd/journal/socket", false)]

def mountArg (mount : String × String × Bool) : String :=
  "type=bind,source=" ++ mount.1 ++ ",destination=" ++ mount.2.1 ++
    if mount.2.2 then ",readonly" else ""

/-- A key the spec must give. -/
def required (spec : Json) (key : String) : Except PanelError Json := do
  let value ← lift (getOr key .null spec)
  if value.truthy = false ∨ PyText.strip (value.toText py) = "" then
    valueError ("catena_admin_service_argv: spec." ++ key ++ " is required")
  else .ok value

/-- The text a secret is given to docker in. -/
def secretOption (name target : String) : String :=
  "source=" ++ name ++ ",target=" ++ target

/-- `sorted(d)`. -/
def sortedKeys {V : Type} (items : PyDict String V) : List String :=
  (PyDict.keys items).mergeSort fun left right => left ≤ right

/-- `key=value`. -/
def assignment (key value : String) : String :=
  key ++ "=" ++ value

/-- The assignments of an environment, in the order of their names. -/
def assignments (env : PyDict String String) : List String :=
  (sortedKeys env).map fun key => assignment key ((PyDict.get env key).getD "")

def specDict : Json → Except PanelError Unit
  | .obj _ => .ok ()
  | _ => valueError "catena_admin_service_argv: spec must be a dict"

def networkList : Json → Except PanelError (List Json)
  | .arr items => .ok items
  | _ => valueError "catena_admin_service_argv: spec.networks is a list"

def catenaAdminServiceArgv (spec : Json) : Except PanelError (List String) := do
  specDict spec
  let name ← required py spec "name"
  let image ← required py spec "image"
  let networks ← required py spec "networks"
  let uiPort ← required py spec "ui_port"
  let directPort ← required py spec "direct_port"
  let networks ← networkList networks
  let given ← lift (getOr "group" .null spec)
  let group := PyText.strip (textOrEmpty py given)
  let listed ← lift (getOr "secrets" .null spec)
  let secrets ← lift (iterate (orList listed))
  let secrets ← collect (fun secret => do
    let name ← index "name" secret
    let target ← index "target" secret
    .ok ("--secret=" ++ secretOption (name.toText py) (target.toText py))) secrets
  let env ← catenaAdminFullEnv py spec
  let given ← lift (getOr "hardening" .null spec)
  let hardening ← lift (iterate (orList given))
  .ok (["docker", "service", "create", "--detach", "--name=" ++ name.toText py] ++
    networks.map (fun network => "--network=" ++ network.toText py) ++
    ["--restart-condition=any",
      "--publish=mode=host,published=" ++ uiPort.toText py ++ ",target=" ++
        directPort.toText py,
      "--host=host.docker.internal:host-gateway"] ++
    (if group = "" then [] else ["--group=" ++ group]) ++
    panelMounts.map (fun mount => "--mount=" ++ mountArg mount) ++
    secrets ++
    (assignments env).map (fun text => "--env=" ++ text) ++
    hardening.map (fun flag => flag.toText py) ++
    [image.toText py])

def taskTemplate (inspect : Json) : Except PanelError Json :=
  let inspect := match inspect with
    | .arr (item :: _) => item
    | .arr [] => .obj []
    | other => other
  match inspect with
  | .obj fields => lift (child "Spec" (.obj fields) >>= child "TaskTemplate")
  | _ => .ok (.obj [])

def containerSpec (inspect : Json) : Except PanelError Json := do
  let template ← taskTemplate inspect
  lift (child "ContainerSpec" template)

/-- The items of `value.get(key) or []`. -/
def listed (key : String) (value : Json) : Except PanelError (List Json) := do
  let found ← lift (getOr key .null value)
  lift (iterate (orList found))

/-- `text.partition("=")`, without the separator. -/
def cut (text : String) : String × String :=
  match PyText.partition '=' text.toList with
  | some (key, value) => (String.ofList key, String.ofList value)
  | none => (text, "")

/-- An environment by its assignments. -/
def envOf (texts : List String) : PyDict String String :=
  PyDict.ofPairs (texts.map cut)

/-- The flags that bring `live` to `want`. -/
def envFlags (live : PyDict String String) (want : PyDict String String) : List String :=
  ((sortedKeys want).filter fun key => PyDict.get live key ≠ PyDict.get want key).flatMap
      (fun key => ["--env-add", assignment key ((PyDict.get want key).getD "")]) ++
    (sortedDifference (PyDict.keys live) (PyDict.keys want)).flatMap fun key => ["--env-rm", key]

def catenaAdminEnvDrift (inspect : Json) : Json → Except PanelError (List String)
  | .obj fields => do
      let container ← containerSpec inspect
      let entries ← listed "Env" container
      .ok (envFlags (envOf (entries.map fun entry => entry.toText py))
        (fields.map fun field => (field.1, field.2.toText py)))
  | _ => valueError "catena_admin_env_drift: env must be a dict"

def liveSecret : Json → Except PanelError (Option (String × String))
  | .obj fields => do
      let name := textOrEmpty py ((PyDict.get fields "SecretName").getD .null)
      let file := orEmpty ((PyDict.get fields "File").getD .null)
      let target ← lift (getOr "Name" .null file)
      .ok (if name = "" then none else some (name, textOrEmpty py target))
  | _ => .ok none

/-- The name and the target of a declared secret. -/
def wantedSecret (secret : Json) : Except PanelError (String × String) := do
  let name ← index "name" secret
  let target ← index "target" secret
  .ok (name.toText py, target.toText py)

/-- The flags that mount what is wanted, by name. -/
def secretFlags (live want : PyDict String String) : List String :=
  (sortedDifference (PyDict.keys live) (PyDict.keys want)).flatMap
      (fun name => ["--secret-rm", name]) ++
    (sortedDifference (PyDict.keys want) (PyDict.keys live)).flatMap fun name =>
      ["--secret-add", secretOption name ((PyDict.get want name).getD "")]

def catenaAdminSecretDrift (inspect secrets : Json) : Except PanelError (List String) := do
  let container ← containerSpec inspect
  let entries ← listed "Secrets" container
  let live ← collect (liveSecret py) entries
  let secrets ← lift (iterate (orList secrets))
  let want ← collect (wantedSecret py) secrets
  .ok (secretFlags (PyDict.ofPairs (live.filterMap id)) (PyDict.ofPairs want))

/-- The id and the name of a declared network. -/
def wantedNetwork (network : String × Json) : Except PanelError (String × String) :=
  let id := PyText.strip (textOrEmpty py network.2)
  if id = "" then valueError ("catena_admin_network_drift: no id for network " ++ network.1)
  else .ok (id, network.1)

def liveNetwork : Json → Option String
  | .obj fields => some (textOrEmpty py ((PyDict.get fields "Target").getD .null))
  | _ => none

/-- The flags that attach what is wanted, by id. -/
def networkFlags (live : List String) (want : PyDict String String) : List String :=
  (sortedDifference live (PyDict.keys want)).flatMap (fun id => ["--network-rm", id]) ++
    (sortedDifference (PyDict.keys want) live).flatMap fun id =>
      ["--network-add", (PyDict.get want id).getD ""]

def catenaAdminNetworkDrift (inspect : Json) : Json → Except PanelError (List String)
  | .obj networkIds => do
      let want ← collect (wantedNetwork py) networkIds
      let template ← taskTemplate inspect
      let entries ← listed "Networks" template
      .ok (networkFlags (entries.filterMap (liveNetwork py)) (PyDict.ofPairs want))
  | _ => valueError "catena_admin_network_drift: network_ids must be a dict"

end Filters

end PanelService

end Catena

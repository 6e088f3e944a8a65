import Catena.PanelService
import Catena.ServiceEdits

/-!
# The swarm's side of the panel

What docker shows of the panel's environment, secrets and networks, and what it
makes of the flags that name them.  Docker removes by name, then adds by name.
-/

namespace Catena

namespace PanelService

open SwarmService

def envPath : List String := ["Spec", "TaskTemplate", "ContainerSpec", "Env"]

def secretsPath : List String := ["Spec", "TaskTemplate", "ContainerSpec", "Secrets"]

def networksPath : List String := ["Spec", "TaskTemplate", "Networks"]

/-- The objects on the way to the lists. -/
def panelSections : List (List String) :=
  [["Spec"], ["Spec", "TaskTemplate"], ["Spec", "TaskTemplate", "ContainerSpec"]]

def itemsOf : Json → List Json
  | .arr items => items
  | _ => []

/-- The list at a path. -/
def itemsAt (path : List String) (service : Json) : List Json :=
  itemsOf ((Json.valueAt path service).getD .null)

def textOf : Json → Option String
  | .str text => some text
  | _ => none

/-- The secret's name and target in an item of the list. -/
def mountOf (item : Json) : Option (String × String) := do
  let name ← (Json.valueAt ["SecretName"] item).bind textOf
  let target ← (Json.valueAt ["File", "Name"] item).bind textOf
  some (name, target)

def networkOf (item : Json) : Option String :=
  (Json.valueAt ["Target"] item).bind textOf

def liveEnv (service : Json) : PyDict String String :=
  envOf ((itemsAt envPath service).filterMap textOf)

def mounts (service : Json) : List (String × String) :=
  (itemsAt secretsPath service).filterMap mountOf

def attached (service : Json) : List String :=
  (itemsAt networksPath service).filterMap networkOf

/-- Missing, empty or a list of items like this. -/
def ListOf (proper : Json → Prop) (value : Option Json) : Prop :=
  ∀ found, value = some found → found.truthy = true →
    ∃ items, found = .arr items ∧ ∀ item ∈ items, proper item

/-- A secret as docker shows it. -/
def IsMount (item : Json) : Prop :=
  ∃ name target, mountOf item = some (name, target) ∧ name ≠ ""

/-- The parts of docker that read a flag's text: the secret and the target of a
`--secret` option, and the id of the network a name or an id stands for. -/
structure Swarm where
  secretOpt : String → Option (String × String)
  networkId : String → Option String

/-- A service as docker shows it. -/
structure PanelShown (swarm : Swarm) (service : Json) : Prop where
  isObject : ∃ fields, service = .obj fields
  nested : ∀ path ∈ panelSections, ObjectOrEmpty (Json.valueAt path service)
  env : ListOf (fun item => ∃ text, item = .str text) (Json.valueAt envPath service)
  secrets : ListOf IsMount (Json.valueAt secretsPath service)
  networks : ListOf (fun item => ∃ id, networkOf item = some id ∧ swarm.networkId id = some id)
    (Json.valueAt networksPath service)

/-- A text without the characters that comma-separated options give a meaning. -/
def Unquoted (text : String) : Prop :=
  ∀ character ∈ text.toList,
    character ≠ ',' ∧ character ≠ '"' ∧ character ≠ '\r' ∧ character ≠ '\n'

/-- A text that stands in such an option as it is. -/
def PlainOption (text : String) : Prop :=
  text ≠ "" ∧ Unquoted text

/-- What docker's documentation promises: a plain option names its secret and target; what
it reads is not blank; and a network's id is
the id of that network. -/
structure Swarm.Documented (swarm : Swarm) : Prop where
  secret : ∀ name target, PlainOption name → PlainOption target →
    swarm.secretOpt (secretOption name target) = some (name, target)
  named : ∀ text mount, swarm.secretOpt text = some mount → mount.1 ≠ "" ∧ mount.2 ≠ ""
  network : ∀ network id, swarm.networkId network = some id →
    swarm.networkId id = some id ∧ PyText.strip id = id ∧ id ≠ ""

/-- The flags of a command line with their texts. -/
def flagPairs : List String → Option (List (String × String))
  | [] => some []
  | flag :: text :: rest => (flagPairs rest).map ((flag, text) :: ·)
  | [_] => none

/-- The texts given with a flag. -/
def texts (flag : String) (pairs : List (String × String)) : List String :=
  (pairs.filter fun pair => pair.1 = flag).map Prod.snd

/-- The object docker stores for a mounted secret. -/
def mountItem (mount : String × String) : Json :=
  .obj [("File", .obj [("Name", .str mount.2)]), ("SecretName", .str mount.1)]

def networkItem (id : String) : Json :=
  .obj [("Target", .str id)]

/-- The assignments after some names are removed and some are set: with anything
to set, docker keeps one assignment a name. -/
def updatedEnv (removed added : List String) (live : List String) : List String :=
  let kept := live.filter fun text => (cut text).1 ∉ removed
  if added = [] then kept
  else (PyDict.ofPairs ((kept ++ added).map fun text => ((cut text).1, text))).map Prod.snd

def keepsMount (removed : List String) (item : Json) : Bool :=
  match mountOf item with
  | some (name, _) => name ∉ removed
  | none => true

def keepsNetwork (removed : List String) (item : Json) : Bool :=
  match networkOf item with
  | some id => id ∉ removed
  | none => true

/-- The lists of a service, set. -/
def withLists (env secrets networks : List Json) (service : Json) : Json :=
  Json.setAt networksPath (.arr networks)
    (Json.setAt secretsPath (.arr secrets) (Json.setAt envPath (.arr env) service))

namespace Swarm

/-- `docker service update`.  It refuses to attach a network twice. -/
def update (swarm : Swarm) (flags : List String) (service : Json) : Option Json := do
  let pairs ← flagPairs flags
  let added ← (texts "--secret-add" pairs).mapM swarm.secretOpt
  let detached ← (texts "--network-rm" pairs).mapM swarm.networkId
  let joined ← (texts "--network-add" pairs).mapM swarm.networkId
  let networks := (itemsAt networksPath service).filter (keepsNetwork detached)
  if joined.Nodup ∧ ∀ id ∈ joined, id ∉ networks.filterMap networkOf then
    some (withLists
      ((updatedEnv (texts "--env-rm" pairs) (texts "--env-add" pairs)
        ((itemsAt envPath service).filterMap textOf)).map Json.str)
      ((itemsAt secretsPath service).filter (keepsMount (texts "--secret-rm" pairs)) ++
        added.map mountItem)
      (networks ++ joined.map networkItem) service)
  else none

/-- The flags of `docker service create` before the image. -/
def createPairs : List String → Option (List (String × String))
  | [] => none
  | word :: rest =>
      if word = "--detach" then createPairs rest
      else if "--".toList.isPrefixOf word.toList then
        match PyText.partition '=' word.toList with
        | some (flag, text) =>
            (createPairs rest).map ((String.ofList flag, String.ofList text) :: ·)
        | none =>
            match rest with
            | text :: rest => (createPairs rest).map ((word, text) :: ·)
            | [] => none
      else some []

/-- `docker service create`, from the service that the other flags describe. -/
def create (swarm : Swarm) (argv : List String) (service : Json) : Option Json :=
  if argv.take 3 = ["docker", "service", "create"] then do
    let pairs ← createPairs (argv.drop 3)
    let secrets ← (texts "--secret" pairs).mapM swarm.secretOpt
    let networks ← (texts "--network" pairs).mapM swarm.networkId
    some (withLists ((texts "--env" pairs).map Json.str) (secrets.map mountItem)
      (networks.map networkItem) service)
  else none

end Swarm

/-- A secret as the role declares it. -/
structure SecretSpec where
  base : String
  target : String
  value : Option Json

def SecretSpec.json (secret : SecretSpec) : Json :=
  .obj ([("base", .str secret.base), ("target", .str secret.target)] ++
    secret.value.toList.map fun value => ("value", value))

/-- The secret's value, as the entries hold it. -/
def SecretSpec.text (py : Builtins) (secret : SecretSpec) : String :=
  textOrEmpty py (secret.value.getD .null)

/-- What a spec declares: names of variables without `=`, secrets with targets of
their own, networks and the dict its hardening flags are rendered from. -/
structure PanelSpec where
  env : PyDict String Json
  envKeys : (PyDict.keys env).Nodup
  envNames : ∀ key ∈ PyDict.keys env, '=' ∉ key.toList
  secrets : List SecretSpec
  targets : (secrets.map SecretSpec.target).Nodup
  networks : List String
  desired : PyDict String Json

namespace PanelSpec

/-- The secrets that are not blank. -/
def given (py : Builtins) (spec : PanelSpec) : List SecretSpec :=
  spec.secrets.filter fun secret => PyText.strip (secret.text py) ≠ ""

def declared (py : Builtins) (digest : ValueDigest) (spec : PanelSpec) : List (String × String) :=
  (spec.given py).map fun secret =>
    (secretName digest secret.base (secret.text py), secret.target)

/-- A spec dict with this content, its secrets resolved to `entries`. -/
structure Describes (py : Builtins) (digest : ValueDigest) (spec : PanelSpec)
    (fields : PyDict String Json) (entries : List Json) : Prop where
  env : PyDict.get fields "env" = some (.obj spec.env)
  resolved : secretEntries py digest (.arr (spec.secrets.map SecretSpec.json)) = .ok entries
  secrets : PyDict.get fields "secrets" = some (.arr entries)
  networks : PyDict.get fields "networks" = some (.arr (spec.networks.map Json.str))
  hardening : ∃ flags, swarmServiceCreateArgs py (.obj spec.desired) = .ok flags ∧
    PyDict.get fields "hardening" = some (.arr (flags.map Json.str))

/-- The id of each network the spec names. -/
structure Identifies (swarm : Swarm) (spec : PanelSpec) (ids : PyDict String Json) : Prop where
  complete : ∀ network ∈ spec.networks, ∃ id, (network, Json.str id) ∈ ids
  sound : ∀ item ∈ ids, item.1 ∈ spec.networks ∧
    ∃ id, item.2 = .str id ∧ swarm.networkId item.1 = some id

end PanelSpec

/-- `docker service inspect` of a service, as it is or as its one item. -/
def Shows (inspect service : Json) : Prop :=
  inspect = service ∨ inspect = .arr [service]

/-- The three drifts of one spec. -/
structure Drifts (py : Builtins) (fields : PyDict String Json) (entries : List Json)
    (ids : PyDict String Json) (inspect : Json) (env secrets networks : List String) : Prop where
  env : ∃ full, catenaAdminFullEnv py (.obj fields) = .ok full ∧
    catenaAdminEnvDrift py inspect (.obj (full.map fun item => (item.1, .str item.2))) = .ok env
  secrets : catenaAdminSecretDrift py inspect (.arr entries) = .ok secrets
  networks : catenaAdminNetworkDrift py inspect (.obj ids) = .ok networks

/-- The service has the declared shape. -/
structure Reached (py : Builtins) (digest : ValueDigest) (swarm : Swarm) (spec : PanelSpec)
    (fields : PyDict String Json) (service : Json) : Prop where
  env : ∃ full, catenaAdminFullEnv py (.obj fields) = .ok full ∧
    ∀ key, PyDict.get (liveEnv service) key = PyDict.get full key
  secrets : ∀ mount, mount ∈ mounts service ↔ mount ∈ spec.declared py digest
  networks : ∀ id, id ∈ attached service ↔
    ∃ network ∈ spec.networks, swarm.networkId network = some id
  files : ∀ mount ∈ spec.declared py digest,
    PyDict.get (liveEnv service) (fileVariable mount.2) =
        some (secretMountDir ++ "/" ++ mount.2) ∧
      mount.2 ∈ (mounts service).map Prod.snd

/-- Every drift of the service is empty. -/
def Quiet (py : Builtins) (fields : PyDict String Json) (entries : List Json)
    (ids : PyDict String Json) (service : Json) : Prop :=
  ∀ inspect, Shows inspect service → Drifts py fields entries ids inspect [] [] []

/-- The drifts lead the live service to the declared shape and to rest, and a
service created from the spec is at rest. -/
structure Reconciles (py : Builtins) (digest : ValueDigest) (swarm : Swarm) (spec : PanelSpec)
    (fields : PyDict String Json) (entries : List Json) (ids : PyDict String Json)
    (service : Json) : Prop where
  updated : ∀ inspect, Shows inspect service → ∃ env secrets networks after,
    Drifts py fields entries ids inspect env secrets networks ∧
    swarm.update (env ++ secrets ++ networks) service = some after ∧
    Reached py digest swarm spec fields after ∧ Quiet py fields entries ids after
  created : ∀ argv base created, catenaAdminServiceArgv py (.obj fields) = .ok argv →
    swarm.create argv base = some created → Quiet py fields entries ids created

/-- Every declared secret that is mounted is mounted at its declared targets and
no others, and every other one is declared for one target. -/
def MountsAgree (live declared : List (String × String)) : Prop :=
  ∀ name ∈ declared.map Prod.fst,
    (name ∈ live.map Prod.fst → ∀ target, (name, target) ∈ live ↔ (name, target) ∈ declared) ∧
    (name ∉ live.map Prod.fst → ∀ target other, (name, target) ∈ declared →
      (name, other) ∈ declared → other = target)

end PanelService

end Catena

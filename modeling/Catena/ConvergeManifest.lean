import Catena.PyJson
import Catena.Runs
import Mathlib.Data.List.Sort

/-!
# The converge's manifest and its prune

`converge_manifest.py` decides which files a previous converge installed and
this one does not ship, and `prune_withdrawn_files.yml` removes them and
records what this converge ships.

A host is its files with the prune in progress.  A file is known by its place,
the one name of the file that a path leads to, since `/lib/x` and `/usr/lib/x`
may be one file and the filters compare texts.  Converges, their prune tasks
and other programs take steps on the host; what the converges wrote is kept
beside the files.
-/

namespace Catena

namespace Converge

structure Entry where
  path : String
  sha256 : String
  deriving DecidableEq

/-- What the `stat` module reports. -/
structure Stat where
  present : Bool
  checksum : Option String
  deriving DecidableEq

section Filters

variable (py : Builtins)

/-- `_paths`, after the paths already kept. -/
def pathsFrom : List String → List Json → Except PyError (List String)
  | kept, [] => .ok kept
  | kept, .str raw :: rest =>
    let path := PyText.strip raw
    if path = "" ∨ path ∈ kept then pathsFrom kept rest
    else if path.toList.head? = some '/' then pathsFrom (kept ++ [path]) rest
    else .error (.valueError ("converge manifest: declared path must be absolute: " ++
      py.repr (.str path)))
  | _, raw :: _ =>
    .error (.valueError ("converge manifest: declared path must be a string, got " ++
      py.repr raw))

def paths (declared : List Json) : Except PyError (List String) :=
  pathsFrom py [] declared

/-- The path a result of the stat loop is about. -/
def itemPath (item : Json) : String :=
  if item.truthy then
    match item with
    | .obj fields =>
      match PyDict.get fields "path" with
      | none => ""
      | some path => PyText.strip (path.toText py)
    | _ => PyText.strip (item.toText py)
  else ""

/-- `by_path` of `converge_installed`. -/
def byPath (stats : List (Json × Stat)) : PyDict String String :=
  stats.foldl (fun found result =>
    let path := itemPath py result.1
    if path = "" ∨ result.2.present = false then found
    else found.set path (result.2.checksum.getD "")) []

def convergeInstalled (declared : List Json) (stats : List (Json × Stat)) :
    Except PyError (List Entry) := do
  let kept ← paths py declared
  return kept.filterMap fun path =>
    (PyDict.get (byPath py stats) path).map fun sha256 => ⟨path, sha256⟩

/-- `d.get(key)` of a value that may be no dict. -/
def field (value : Json) (key : String) : Option Json :=
  match value with
  | .obj fields => PyDict.get fields key
  | _ => none

/-- What `for entry in (d.get(key) or [])` runs over, where all that is no
dict is skipped. -/
def entries (found : Option Json) : Except PyError (List Json) :=
  match found with
  | none => .ok []
  | some value =>
    if value.truthy then
      match value with
      | .arr items => .ok items
      | .str _ => .ok []
      | .obj _ => .ok []
      | _ => .error .typeError
    else .ok []

/-- The loop of `converge_withdrawn`, after the entries already found. -/
def withdrawnFrom (keep : List String) : List Entry → List Json → List Entry
  | found, [] => found
  | found, .obj fields :: rest =>
    let path := PyText.strip (Json.textOr py (PyDict.get fields "path"))
    if path = "" ∨ path ∈ keep ∨ path ∈ found.map Entry.path then
      withdrawnFrom keep found rest
    else
      withdrawnFrom keep
        (found ++ [⟨path, Json.textOr py (PyDict.get fields "sha256")⟩]) rest
  | found, _ :: rest => withdrawnFrom keep found rest

def convergeWithdrawn (previous : Json) (declared : List Json) :
    Except PyError (List Entry) := do
  let keep ← paths py declared
  let installed ← entries (field previous "installed")
  return (withdrawnFrom py keep [] installed).insertionSort
    fun first second => first.path ≤ second.path

/-- The paths a payload manifest claims. -/
def claimed (payload : Json) : Except PyError (List String) := do
  let listed ← entries (field payload "entries")
  return listed.filterMap fun entry =>
    match field entry "path" with
    | none => none
    | some path =>
      if path.truthy then some (PyText.strip (path.toText py)) else none

def convergeUnclaimed (withdrawn : List Entry) (payload : Json) :
    Except PyError (List Entry) := do
  let taken ← claimed py payload
  return withdrawn.filter fun entry => entry.path ∉ taken

/-- Whether `_split` counts a candidate as still ours. -/
def isOurs (result : Entry × Stat) : Bool :=
  result.1.path ≠ "" && result.2.present && result.1.sha256 ≠ "" &&
    result.1.sha256 == result.2.checksum.getD ""

def convergePrunable (stats : List (Entry × Stat)) : List Entry :=
  (stats.filter isOurs).map Prod.fst

end Filters

/-- A file of the host: a regular one with its content, or anything else. -/
inductive Node where
  | file (content : String)
  | special
  deriving DecidableEq

/-- What Ansible and Python compute with: their JSON reader and printer, the
converge's own path, the digest of the `stat` module, and the place each path
leads to through the host's directories. -/
structure Tools where
  py : Builtins
  toNiceJson : Json → String
  convergePath : String
  sha256 : String → String
  place : String → String

def convergeManifestPath : String := "/var/lib/catena/converge-manifest.json"
def payloadManifestPath : String := "/var/lib/catena/payload-manifest.json"

/-- Where the prune of the current converge stands: outside it, or past the
check with the files still to remove. -/
inductive Phase where
  | idle
  | pruning (declared : List Json) (ours : List Entry)
  deriving DecidableEq

/-- The files by their places.  `converges` counts the records made; `written`
holds what the converges wrote, each with its place and that count at the time. -/
structure Host where
  files : PyDict String Node
  phase : Phase
  converges : Nat
  written : List (Nat × String × String)
  recorded : List Json
  deriving DecidableEq

section Tasks

variable (tools : Tools)

/-- The `stat` module with a sha256 checksum. -/
def stat (files : PyDict String Node) (path : String) : Stat :=
  match files.get (tools.place path) with
  | none => ⟨false, none⟩
  | some (.file content) => ⟨true, some (tools.sha256 content)⟩
  | some .special => ⟨true, none⟩

/-- The text of a file as `slurp | b64decode | trim` gives it. -/
def slurp (files : PyDict String Node) (path : String) : List Char :=
  match files.get (tools.place path) with
  | some (.file content) => PyText.stripChars PyText.isSpace content.toList
  | _ => []

/-- The guarded reading of a manifest; the error is a failed `from_json`. -/
def readManifest (files : PyDict String Node) (path : String) : Except PyError Json :=
  let raw := slurp tools files path
  if raw.head? = some '{' ∧ raw.getLast? = some '}' then
    match tools.py.loads (String.ofList raw) with
    | some value => .ok value
    | none => .error (.valueError "")
  else .ok (.obj [])

/-- The tasks up to the split: what the prune is going to remove. -/
def check (files : PyDict String Node) (declared : List Json) :
    Except PyError (List Entry) := do
  let previous ← readManifest tools files convergeManifestPath
  let withdrawn ← convergeWithdrawn tools.py previous declared
  let payload ← readManifest tools files payloadManifestPath
  let unclaimed ← convergeUnclaimed tools.py withdrawn payload
  return convergePrunable (unclaimed.map fun entry => (entry, stat tools files entry.path))

/-- The manifest a converge records. -/
def manifest (declared : List Json) (installed : List Entry) : Json :=
  .obj [("schema", .int 1), ("converged_by", .str tools.convergePath),
    ("declared", .arr declared),
    ("installed", .arr (installed.map fun entry =>
      .obj [("path", .str entry.path), ("sha256", .str entry.sha256)]))]

/-- The path a stat loop over the declared entries asks for. -/
def statItem (files : PyDict String Node) (raw : Json) : Json × Stat :=
  (raw, stat tools files (raw.toText tools.py))

/-- What other programs and the converge do, one task at a time. -/
inductive Step where
  | ship (path content : String)
  | check (declared : List Json)
  | remove
  | record
  | stop
  | foreign (path : String) (node : Option Node)

def Host.step (host : Host) : Step → Host
  | .ship path content =>
    match host.phase with
    | .idle =>
      { host with
        files := host.files.set (tools.place path) (.file content)
        written := host.written ++ [(host.converges, tools.place path, content)] }
    | .pruning _ _ => host
  | .check declared =>
    match host.phase with
    | .idle =>
      match check tools host.files declared with
      | .ok ours => { host with phase := .pruning declared ours }
      | .error _ => host
    | .pruning _ _ => host
  | .remove =>
    match host.phase with
    | .pruning declared (entry :: rest) =>
      { host with
        files := host.files.erase (tools.place entry.path)
        phase := .pruning declared rest }
    | _ => host
  | .record =>
    match host.phase with
    | .pruning declared [] =>
      match convergeInstalled tools.py declared
          (declared.map (statItem tools host.files)) with
      | .ok installed =>
        let value := manifest tools declared installed
        let content := tools.toNiceJson value ++ "\n"
        { files := host.files.set (tools.place convergeManifestPath) (.file content)
          phase := .idle
          converges := host.converges + 1
          written := host.written ++
            [(host.converges, tools.place convergeManifestPath, content)]
          recorded := host.recorded ++ [value] }
      | .error _ => { host with phase := .idle }
    | _ => host
  | .stop => { host with phase := .idle }
  | .foreign path none => { host with files := host.files.erase (tools.place path) }
  | .foreign path (some node) => { host with files := host.files.set (tools.place path) node }

def Host.run (host : Host) (steps : List Step) : Host :=
  Runs.run (Host.step tools) host steps

end Tasks

end Converge

end Catena

import Catena.ByteLines
import Catena.ImageRef
import Catena.InstallOutcome
import Mathlib

/-!
# Pulling an image

`fetch`: the layers of the image that a reference names are found through its
manifests, each checked against the digest that names it, downloaded, unpacked
into a staging directory inside `dest`, and moved into place.  The registry may
answer anything, and another thing at each attempt; standard error may refuse any line.
-/

namespace Catena.Fetch

open PyText Posix ByteLines

/-- What is asked of the world outside: a path of the registry, or that standard error
take a line. -/
inductive Ask where
  | path (path : List Char)
  | line

/-- What one `_open` gives: it raises, or there is a body, and reading on from its end
raises or not.  Writing a line raises, or not. -/
inductive Reply where
  | failed (failure : Failure)
  | body (data : List UInt8) (ends : Option Failure)

/-- The registry and standard error: the reply to the last of what has been asked. -/
abbrev Network := List Ask → Reply

structure World where
  asks : List Ask
  fs : Fs

/-- A part of the program, run with a registry and a file system. -/
def Online (α : Type) : Type :=
  World → Except Failure α × World

instance : Monad Online where
  pure value world := (.ok value, world)
  bind part next world :=
    match part world with
    | (.ok value, after) => next value after
    | (.error failure, after) => (.error failure, after)

namespace Online

def raise {α : Type} (failure : Failure) : Online α :=
  fun world => (.error failure, world)

def lift {α : Type} (value : Except Failure α) : Online α :=
  fun world => (value, world)

def onDisk {α : Type} (part : Disk α) : Online α :=
  fun world => ((part world.fs).1, { world with fs := (part world.fs).2 })

theorem bind_apply {α β : Type} (part : Online α) (next : α → Online β) (world : World) :
    (part >>= next) world =
      match part world with
      | (.ok value, after) => next value after
      | (.error failure, after) => (.error failure, after) :=
  rfl

end Online

open Online (onDisk)

/-- The library functions the pull rests on: `"sha256:"` with the digest of the bytes
in hexadecimal, `json.loads` of bytes, and the members `tarfile` reads out of an archive
opened in a mode. -/
structure Tools where
  py : Builtins
  sha256 : List UInt8 → Name
  loads : List UInt8 → Option Json
  members : Name → List UInt8 → Layer

/-- A blob is cut short: `isinstance(size, int) and got < size`. -/
def cutShort (size : Option Json) (data : List UInt8) : Bool :=
  match size with
  | some (.int wanted) => decide ((data.length : Int) < wanted)
  | some (.bool wanted) => wanted && data.isEmpty
  | _ => false

section Reads

variable [Process] (tools : Tools) (network : Network)

/-- One `_open` of a path. -/
def ask (path : List Char) : Online (List UInt8 × Option Failure) :=
  fun world =>
    match network (world.asks ++ [.path path]) with
    | .failed failure => (.error failure, { world with asks := world.asks ++ [.path path] })
    | .body data ends => (.ok (data, ends), { world with asks := world.asks ++ [.path path] })

/-- `_say`, of any message. -/
def say : Online Unit :=
  fun world =>
    match network (world.asks ++ [.line]) with
    | .failed failure => (.error failure, { world with asks := world.asks ++ [.line] })
    | .body _ _ => (.ok (), { world with asks := world.asks ++ [.line] })

def attempts : Nat := 3

def transient : Failure → Bool
  | .web worth => worth
  | .os _ => true
  | _ => false

/-- `Registry._retry`, with this many attempts after the next one. -/
def retry {α : Type} (once : Online α) : Nat → Online α
  | 0 => once
  | left + 1 => fun world =>
      match once world with
      | (.ok value, after) => (.ok value, after)
      | (.error failure, after) =>
          if transient failure then (say network >>= fun _ => retry once left) after
          else (.error failure, after)

/-- One read of a whole body. -/
def readOnce (path : List Char) : Online (List UInt8) := do
  let answer ← ask network path
  match answer.2 with
  | none => return answer.1
  | some failure => Online.raise failure

/-- `Registry.get`, for the body. -/
def get (path : List Char) : Online (List UInt8) :=
  retry network (readOnce network path) (attempts - 1)

/-- One attempt at a blob: the body goes into the file as far as it comes. -/
def downloadOnce (path : List Char) (size : Option Json) (target : Path) : Online Name := do
  let answer ← ask network path
  onDisk (alter fun fs => writeFile fs target answer.1)
  match answer.2 with
  | some failure => Online.raise failure
  | none =>
      if cutShort size answer.1 then Online.raise (.web true) else return tools.sha256 answer.1

def download (repoPath digest : Name) (size : Option Json) (target : Path) : Online Unit := do
  let actual ← retry network (downloadOnce tools network
    ("/v2/".toList ++ repoPath ++ "/blobs/".toList ++ digest) size target) (attempts - 1)
  if actual = digest then return ()
  else Online.raise (.fetch ("blob " ++ String.ofList digest ++ " hashes to " ++
    String.ofList actual ++ "; refusing it"))

def manifest (repoPath digest : Name) (what : String) : Online (PyDict String Json) := do
  let body ← get network ("/v2/".toList ++ repoPath ++ "/manifests/".toList ++ digest)
  if tools.sha256 body ≠ digest then
    Online.raise (.fetch ("the " ++ what ++ " " ++ String.ofList digest ++ " hashes to " ++
      String.ofList (tools.sha256 body) ++ "; refusing it"))
  else
    match tools.loads body with
    | none => Online.raise (.python (.valueError "json"))
    | some (.obj fields) => return fields
    | some _ => Online.raise (.fetch ("the " ++ what ++ " " ++ String.ofList digest ++
        " is not a JSON object"))

/-- The text of a field, as `str` or an f-string gives it. -/
def fieldText (fields : PyDict String Json) (name : String) : String :=
  ((PyDict.get fields name).getD .null).toText tools.py

/-- `fields.get(name) == text`. -/
def fieldIs (fields : PyDict String Json) (name text : String) : Bool :=
  match PyDict.get fields name with
  | some (.str value) => value == text
  | _ => false

/-- The entry and its platform, where both are objects. -/
def platformOf : Json → Option (PyDict String Json × PyDict String Json)
  | .obj entry =>
      match PyDict.get entry "platform" with
      | some (.obj platform) => some (entry, platform)
      | _ => none
  | _ => none

/-- The loop of `_platform_entry`, with what has been offered so far. -/
def entryFor (platform osName arch variant : String) :
    List Json → List String → Except Failure (PyDict String Json)
  | [], offered => .error (.fetch ("the image has no " ++ platform ++ " build (it has " ++
      (if offered = [] then "none" else ", ".intercalate offered) ++ ")"))
  | candidate :: rest, offered =>
      match platformOf candidate with
      | none => entryFor platform osName arch variant rest offered
      | some (entry, p) =>
          if fieldIs p "os" osName && fieldIs p "architecture" arch &&
              (variant == "" || fieldIs p "variant" variant) then
            if ImageRef.isDigest (fieldText tools entry "digest").toList then .ok entry
            else .error (.fetch ("the " ++ platform ++ " entry names no sha256 digest"))
          else entryFor platform osName arch variant rest
            (offered ++ [fieldText tools p "os" ++ "/" ++ fieldText tools p "architecture"])

def platformEntry (entries : Json) (platform : Name) : Except Failure (PyDict String Json) :=
  let listed := match entries with
    | .arr items => items
    | _ => []
  match (splitOn '/' platform).map String.ofList with
  | [osName, arch] => entryFor tools (String.ofList platform) osName arch "" listed []
  | [osName, arch, variant] =>
      entryFor tools (String.ofList platform) osName arch variant listed []
  | _ => .error (.fetch ("--platform " ++ tools.py.repr (.str (String.ofList platform)) ++
      " is not os/arch[/variant]"))

/-- A layer descriptor: its digest, its size, and the mode its archive is opened in. -/
structure LayerRef where
  digest : Name
  size : Option Json
  mode : Name

/-- `_LAYER_MODES`. -/
def layerMode (mediaType : String) : Option Name :=
  if mediaType = "application/vnd.oci.image.layer.v1.tar+gzip" then some "r|gz".toList
  else if mediaType = "application/vnd.docker.image.rootfs.diff.tar.gzip" then
    some "r|gz".toList
  else if mediaType = "application/vnd.oci.image.layer.v1.tar" then some "r|".toList
  else none

/-- One descriptor, vetted.  A list or an object is no key of a dictionary. -/
def layerRef (digest : Name) : Json → Except Failure LayerRef
  | .obj fields =>
      if ImageRef.isDigest (fieldText tools fields "digest").toList then
        let refused : Failure := .fetch ("layer " ++ fieldText tools fields "digest" ++ " is " ++
          fieldText tools fields "mediaType" ++
          "; only gzip and uncompressed tar layers can be read here")
        match PyDict.get fields "mediaType" with
        | some (.str mediaType) =>
            match layerMode mediaType with
            | some mode => .ok ⟨(fieldText tools fields "digest").toList,
                PyDict.get fields "size", mode⟩
            | none => .error refused
        | some (.arr _) => .error (.python .typeError)
        | some (.obj _) => .error (.python .typeError)
        | _ => .error refused
      else .error (.fetch ("a layer of " ++ String.ofList digest ++ " names no sha256 digest"))
  | _ => .error (.fetch ("a layer of " ++ String.ofList digest ++ " names no sha256 digest"))

/-- The descriptors of a manifest. -/
def layersOf (digest : Name) (doc : PyDict String Json) : Except Failure (List LayerRef) :=
  match PyDict.get doc "layers" with
  | some (.arr layers) => layers.mapM (layerRef tools digest)
  | _ => .error (.fetch (String.ofList digest ++
      " is neither an image index nor an image manifest (mediaType " ++
      tools.py.repr ((PyDict.get doc "mediaType").getD .null) ++ ")"))

def imageLayers (repoPath digest platform : Name) : Online (List LayerRef) := do
  let doc ← manifest tools network repoPath digest "image"
  match PyDict.get doc "manifests" with
  | none => Online.lift (layersOf tools digest doc)
  | some entries => do
      let entry ← Online.lift (platformEntry tools entries platform)
      let doc ← manifest tools network repoPath (fieldText tools entry "digest").toList
        (String.ofList platform ++ " manifest")
      Online.lift (layersOf tools digest doc)

def blobName : Name :=
  "blob".toList

def imageName : Name :=
  "IMAGE".toList

/-- One layer: downloaded, applied, and its blob removed. -/
def unpackLayer (repoPath : Name) (staging : Path) (starts : List Path) (layer : LayerRef)
    (modes : PyDict Path Nat) : Online (PyDict Path Nat) := do
  download tools network repoPath layer.digest layer.size (staging ++ [blobName])
  let blob ← onDisk (look fun fs => readFile fs (staging ++ [blobName]))
  let modes ← onDisk (applyLayer tools.py (staging ++ [treeName]) starts
    (tools.members layer.mode blob) modes)
  onDisk (alter fun fs => unlink fs (staging ++ [blobName]))
  return modes

def unpackLayers (repoPath : Name) (staging : Path) (starts : List Path) :
    List LayerRef → PyDict Path Nat → Online (PyDict Path Nat)
  | [], modes => return modes
  | layer :: rest, modes => do
      let modes ← unpackLayer tools network repoPath staging starts layer modes
      say network
      unpackLayers repoPath staging starts rest modes

/-- What `fetch` does in its staging directory. -/
def staged (repoPath name : Name) (dest staging : Path) (starts : List Path)
    (layers : List LayerRef) : Online Unit := do
  onDisk (alter fun fs => mkdir fs (staging ++ [treeName]) 0o777)
  let modes ← unpackLayers tools network repoPath staging starts layers []
  onDisk (install (staging ++ [treeName]) dest staging starts modes)
  onDisk (alter fun fs => writeFile fs (staging ++ [imageName]) (utf8 (name ++ ['\n'])))
  onDisk (alter fun fs => replace fs (staging ++ [imageName]) (dest ++ [imageName]))

/-- The directory goes, whatever the run has come to. -/
def withStaging (staging : Path) (part : Online Unit) : Online Unit :=
  fun world => ((part world).1,
    { (part world).2 with fs := (Posix.rmtree (part world).2.fs staging).1 })

/-- `path.mkdir(mode, exist_ok=True)`. -/
def mkdirOnce (path : Path) (mode : Nat) : Disk Unit :=
  fun fs =>
    match mkdir fs path mode with
    | .ok after => (.ok (), after)
    | .error .noEntry => (.error (.os .noEntry), fs)
    | .error errno =>
        if isDirectory fs path then (.ok (), fs) else (.error (.os errno), fs)

/-- `path.mkdir(mode, parents=True, exist_ok=True)`, of the path with its components
in reverse. -/
def mkdirParents : List Name → Nat → Disk Unit
  | [], mode => mkdirOnce [] mode
  | name :: above, mode => fun fs =>
      match mkdirOnce (name :: above).reverse mode fs with
      | (.error (.os .noEntry), _) =>
          (mkdirParents above 0o777 >>= fun _ => mkdirOnce (name :: above).reverse mode) fs
      | outcome => outcome

/-- `host_platform`, for the machine `os.uname` names. -/
def hostPlatform (machine : Name) : Except Failure Name :=
  if machine = "x86_64".toList ∨ machine = "amd64".toList then .ok "linux/amd64".toList
  else if machine = "aarch64".toList ∨ machine = "arm64".toList then .ok "linux/arm64".toList
  else .error (.fetch ("no catena-admin build for a " ++ String.ofList machine ++
    " machine; pass --platform"))

/-- A failure of `parse_ref`. -/
def ofRefFailure : LatestRelease.Failure → Failure
  | .fetch message => .fetch message
  | .resolve message => .resolve message
  | .python error => .python error

/-- The image a reference names. -/
def refOf (ref : String) : Except Failure ImageRef.Ref :=
  match ImageRef.parseRef ref with
  | .error failure => .error (ofRefFailure failure)
  | .ok image =>
      if image.digest = [] then
        .error (.fetch (ref ++ " names no digest; resolve it first"))
      else .ok image

/-- The part of `fetch` that changes the disk, with the name `mkdtemp` finds free in
`dest`. -/
def pull (repoPath name : Name) (dest : Path) (fresh : Name) (starts : List Path)
    (layers : List LayerRef) : Online Unit := do
  onDisk (mkdirParents dest.reverse 0o700)
  onDisk (alter fun fs => mkdir fs (dest ++ [fresh]) 0o700)
  withStaging (dest ++ [fresh])
    (staged tools network repoPath name dest (dest ++ [fresh]) starts layers)

def fetch (machine fresh : Name) (ref : String) (dest : Path) (paths : List Name)
    (platform : Name) : Online Unit := do
  let image ← Online.lift (refOf ref)
  let starts ← Online.lift (prefixes tools.py paths)
  let platform ← Online.lift (if platform = [] then hostPlatform machine else .ok platform)
  say network
  let layers ← imageLayers tools network image.path image.digest platform
  pull tools network image.path image.name dest fresh starts layers
  say network

end Reads

end Catena.Fetch

import Catena.DispatchText
import Catena.HostProgram

/-!
# The switch of the dispatch path

`helpers/dispatch_path.py` as a program of file operations and commands, each
of which may fail or be the last before the process stops: BESIDE, PROOF,
SWITCH and RETIRE, with their undo paths.
-/

namespace Catena.Dispatch

open PyText

/-- The four rule files root writes. -/
inductive Slot where
  | sudoers
  | sudoersNext
  | acceptenv
  | acceptenvNext
  deriving DecidableEq

def Slot.path : Slot → Text
  | sudoers => "/etc/sudoers.d/catena-admin-runner".toList
  | sudoersNext => "/etc/sudoers.d/catena-admin-runner-next".toList
  | acceptenv => "/etc/ssh/sshd_config.d/30-catena-admin-runner-acceptenv.conf".toList
  | acceptenvNext => "/etc/ssh/sshd_config.d/30-catena-admin-runner-next.conf".toList

/-- What ends a run that does not return: a refusal, or another exception. -/
inductive Failure where
  | refused (message : String)
  | osError (reason : String)
  | other
  deriving DecidableEq

/-- A completed command. -/
structure Ran where
  code : Int
  stdout : Text
  stderr : Text

/-- What stands at a name under the generations directory. -/
inductive Kind where
  | absent
  | directory
  | symlink
  | file
  deriving DecidableEq

/-- An operation on the host.  Generations, and the temporary directories
beside them, go by their names; a proof key's directory goes by a number. -/
inductive Op where
  | readPanelPub
  | openKeys
  | closeKeys
  | readKeys
  | unlinkKeysTmp
  | writeKeysTmp (text : Text)
  | replaceKeys
  | unlinkKeys
  | readFile (slot : Slot)
  | writeTmp (slot : Slot) (text : Text)
  | chmodTmp (slot : Slot) (mode : Nat)
  | unlinkTmp (slot : Slot)
  | replaceFile (slot : Slot)
  | hasFile (slot : Slot)
  | unlinkFile (slot : Slot)
  | run (argv : List Text)
  | isIntact (gen : Text) (files : List (Text × Text))
  | makeBase
  | removeTree (name : Text) (ignoreErrors : Bool)
  | makeDir (name : Text)
  | chmodDir (name : Text)
  | writeIn (name file text : Text)
  | chmodIn (name file : Text)
  | kindOf (name : Text)
  | unlinkEntry (name : Text)
  | renameDir (source target : Text)
  | listGenerations
  | readLink
  | clearLinkTmp
  | symlinkTmp (target : Text)
  | replaceLink
  | makeProofDir
  | readProofPub (dir : Nat)
  | removeProofDir (dir : Nat)
  | listProofDirs
  | nonce
  | expires
  | record (paths : List Text)
  | recorded

/-- What an operation answers. -/
abbrev Res : Op → Type
  | .readPanelPub => Option Text
  | .readKeys => Option Text
  | .unlinkKeys => Bool
  | .readFile _ => Option Text
  | .hasFile _ => Bool
  | .run _ => Ran
  | .isIntact _ _ => Bool
  | .kindOf _ => Kind
  | .listGenerations => List Text
  | .readLink => Option Text
  | .makeProofDir => Nat
  | .readProofPub _ => Text
  | .listProofDirs => List Nat
  | .nonce => Text
  | .expires => Text
  | .recorded => List Text
  | _ => Unit

abbrev PathProg := Prog Op Res Failure

def ask (op : Op) : PathProg (Res op) :=
  Prog.call op

def refuse {α : Type} (message : String) : PathProg α :=
  Prog.raise (.refused message)

def tail (output : Text) : String :=
  let joined := join [' '] (words output)
  let last := joined.drop (joined.length - 300)
  if last = [] then "no output" else String.ofList last

/-- `except BaseException: undo(); raise`. -/
def onFailure {α : Type} (program : PathProg α) (undo : PathProg Unit) : PathProg α :=
  Prog.tryExcept program fun failure => do
    undo
    Prog.raise failure

def write (slot : Slot) (text : Text) (mode : Nat) (check : List Text) :
    PathProg Bool := do
  let held ← ask (.readFile slot)
  if held = some text then return false
  else do
    let _ ← ask (.writeTmp slot text)
    let _ ← ask (.chmodTmp slot mode)
    let _ ← accepted slot check
    let _ ← ask (.replaceFile slot)
    let _ ← ask (.record [slot.path])
    return true
where
  /-- The command the temporary has to pass. -/
  accepted (slot : Slot) : List Text → PathProg Unit
    | [] => pure ()
    | command :: arguments => do
        let ran ← ask (.run (command :: arguments ++ [slot.path ++ ".tmp".toList]))
        if ran.code ≠ 0 then do
          let _ ← ask (.unlinkTmp slot)
          refuse (String.ofList command ++ " refused " ++ String.ofList slot.path ++ ": " ++
            tail (ran.stdout ++ ran.stderr))
        else return ()

def visudo : List Text :=
  ["/usr/sbin/visudo".toList, "-cf".toList]

/-- `Host.remove`, of a rule file. -/
def remove (slot : Slot) : PathProg Bool := do
  if ← ask (.hasFile slot) then do
    let _ ← ask (.unlinkFile slot)
    let _ ← ask (.record [slot.path])
    return true
  else return false

def generationPath (name : Text) : Text :=
  generationsDir ++ '/' :: name

/-- `Host.remove`, of a name under the generations directory. -/
def removeGeneration (name : Text) : PathProg Bool := do
  match ← ask (.kindOf name) with
  | .absent => return false
  | .directory => do
      let _ ← ask (.removeTree name false)
      let _ ← ask (.record [generationPath name])
      return true
  | _ => do
      let _ ← ask (.unlinkEntry name)
      let _ ← ask (.record [generationPath name])
      return true

def putBack (slot : Slot) (text : Option Text) (mode : Nat) : PathProg Unit := do
  match text with
  | none => do
      let _ ← remove slot
      return ()
  | some text => do
      let _ ← write slot text mode []
      return ()

def link (path target : Text) : PathProg Bool := do
  let held ← ask .readLink
  if held = some target then return false
  else do
    let _ ← ask .clearLinkTmp
    let _ ← ask (.symlinkTmp target)
    let _ ← ask .replaceLink
    let _ ← ask (.record [path])
    return true

/-- The directory a generation is put together in. -/
def buildName (gen : Text) : Text :=
  '.' :: gen ++ ".tmp".toList

def generationFiles (entry dispatcher : Text) : List (Text × Text) :=
  [("entry".toList, entry), ("dispatcher".toList, dispatcher)]

/-- The two executables, written into the directory. -/
def fillDirectory (name : Text) : List (Text × Text) → PathProg Unit
  | [] => pure ()
  | (file, text) :: rest => do
      let _ ← ask (.writeIn name file text)
      let _ ← ask (.chmodIn name file)
      fillDirectory name rest

/-- What stands where the generation goes is removed. -/
def clearGeneration (gen : Text) : PathProg Unit := do
  if (← ask (.kindOf gen)) = .symlink then ask (.unlinkEntry gen)
  else ask (.removeTree gen true)

/-- The generation, put together beside its place and moved there. -/
def buildGeneration (gen : Text) (files : List (Text × Text)) : PathProg Unit := do
  let _ ← ask .makeBase
  let _ ← ask (.removeTree (buildName gen) true)
  let _ ← ask (.makeDir (buildName gen))
  let _ ← ask (.chmodDir (buildName gen))
  fillDirectory (buildName gen) files
  clearGeneration gen
  let _ ← ask (.renameDir (buildName gen) gen)
  ask (.record (files.map fun file => generationPath gen ++ '/' :: file.1))

def installGeneration (gen entry dispatcher : Text) : PathProg Bool := do
  if ← ask (.isIntact gen (generationFiles entry dispatcher)) then return false
  else do
    buildGeneration gen (generationFiles entry dispatcher)
    return true

def reloadArgv : List Text :=
  ["/usr/bin/systemctl".toList, "reload".toList, "ssh".toList]

def sshdReload : PathProg Unit := do
  let ran ← ask (.run reloadArgv)
  if ran.code ≠ 0 then refuse ("sshd did not reload: " ++ tail ran.stderr) else return ()

def placeSshd (slot : Slot) (text : Text) : PathProg Bool := do
  let before ← ask (.readFile slot)
  if ← write slot text 0o644 [] then do
    let ran ← ask (.run ["/usr/sbin/sshd".toList, "-t".toList])
    if ran.code ≠ 0 then do
      putBack slot before 0o644
      refuse ("sshd refused " ++ String.ofList slot.path ++ ": " ++ tail ran.stderr)
    else return true
  else return false

def keysPath (cfg : Config) : Text :=
  cfg.runnerHome ++ "/.ssh/authorized_keys".toList

/-- `RunnerKeys.write`. -/
def writeKeys (cfg : Config) (text : Text) : PathProg Bool := do
  let held ← ask .readKeys
  if held = some text then return false
  else do
    Prog.tryExcept (do
      let _ ← ask .unlinkKeysTmp
      let _ ← ask (.writeKeysTmp text)
      ask .replaceKeys) fun failure =>
        match failure with
        | .osError reason => refuse (String.ofList (keysPath cfg) ++
            " could not be written (" ++ reason ++ ")")
        | failure => Prog.raise failure
    let _ ← ask (.record [keysPath cfg])
    return true

/-- `RunnerKeys.remove`. -/
def removeKeys (cfg : Config) : PathProg Bool := do
  if ← ask .unlinkKeys then do
    let _ ← ask (.record [keysPath cfg])
    return true
  else return false

/-- `RunnerKeys.put_back`. -/
def putBackKeys (cfg : Config) (text : Option Text) : PathProg Unit := do
  match text with
  | none => do
      let _ ← removeKeys cfg
      return ()
  | some text => do
      let _ ← writeKeys cfg text
      return ()

def sshArgv (cfg : Config) (key request : Text) (env : List (Text × Text)) : List Text :=
  ["/usr/bin/ssh", "-F", "/dev/null", "-T", "-i"].map String.toList ++ [key] ++
    ["-o", "IdentitiesOnly=yes", "-o", "BatchMode=yes",
      "-o", "StrictHostKeyChecking=yes", "-o"].map String.toList ++
    ["UserKnownHostsFile=".toList ++ cfg.panelKeyDir ++ "/known_hosts".toList] ++
    ["-o", "GlobalKnownHostsFile=/dev/null", "-o", "HostKeyAlias=" ++ hostAlias,
      "-o", "HostKeyAlgorithms=ssh-ed25519", "-o", "ConnectTimeout=10",
      "-o", "LogLevel=ERROR"].map String.toList ++
    (if env = [] then [] else
      ["-o".toList, "SetEnv ".toList ++
        join [' '] (env.map fun item => item.1 ++ '=' :: item.2)]) ++
    ["-p".toList, "22".toList, cfg.runnerUser ++ '@' :: loopback.toList, request]

/-- `_dispatch`, with this many attempts left after the first. -/
def dispatch (argv : List Text) : Nat → PathProg Ran
  | 0 => ask (.run argv)
  | more + 1 => do
      let ran ← ask (.run argv)
      if ran.code = 255 then dispatch argv more else return ran

/-- The names that arrived at the dispatcher. -/
def arrived (lines : List Text) : List Text :=
  (lines.drop 1).filterMap (afterStart "arrived ".toList)

section Proof

variable (py : Builtins)

/-- What is wrong with the answer to the proof dispatch. -/
def answerReasons (cfg : Config) (gen : Text) (ran : Ran) : List String :=
  let lines := splitLines ran.stdout
  let answer := lines.headD []
  let missing := cfg.names.filter fun name => !(arrived lines).contains name
  (if answer ≠ proofAction.toList ++ ' ' :: gen then
    ["generation " ++ String.ofList gen ++ " did not answer the proof (the answer was " ++
      py.repr (.str (String.ofList answer)) ++ ")"] else []) ++
  (if missing ≠ [] then
    [String.ofList (join ", ".toList missing) ++ " did not reach the dispatcher (sshd's " ++
      "AcceptEnv or sudo's env_keep dropped them)"] else [])

/-- `entry_refusal in stderr`, and the entry's exit code. -/
def entryRefused (ran : Ran) : Bool :=
  ran.code == 2 && contains ran.stderr entryRefusal.toList

def attempts : Nat := 5

def prove (cfg : Config) (key gen : Text) : PathProg (List String) := do
  let nonce ← ask .nonce
  let ran ← dispatch (sshArgv cfg key proofAction.toList
    (cfg.names.map fun name => (name, nonce))) (attempts - 1)
  if ran.code ≠ 0 then
    return ["the proof dispatch exited " ++ toString ran.code ++ ": " ++ tail ran.stderr]
  else do
    let carried ← dispatch (sshArgv cfg key (proofAction ++ " carried").toList [])
      (attempts - 1)
    return answerReasons py cfg gen ran ++
      if entryRefused carried then [] else
        ["a request carrying more than the action name was not refused by the entry " ++
          "before sudo (exit " ++ toString carried.code ++ ")"]

def proofKey (dir : Nat) : Text :=
  ("/run/catena-dispatch-proof." ++ toString dir ++ "/id_ed25519").toList

/-- The keys with the proof key's line beside the panel's. -/
def proofKeys (gen : Text) (keysBefore : Option Text) (pub expires : Text) : Text :=
  let keys := keysBefore.getD header
  (if keys.getLast? = some '\n' then keys else keys ++ ['\n']) ++
    (keyLine (entryPath gen) pub true expires ++ ['\n'])

def proveBeside (cfg : Config) (gen : Text) (keysBefore : Option Text) :
    PathProg (List String) := do
  let dir ← ask .makeProofDir
  Prog.tryFinally (do
    let ran ← ask (.run (["/usr/bin/ssh-keygen", "-q", "-t", "ed25519", "-N", "", "-C", "",
      "-f"].map String.toList ++ [proofKey dir]))
    if ran.code ≠ 0 then
      return ["ssh-keygen could not mint the proof key: " ++ tail ran.stderr]
    else do
      let pub ← ask (.readProofPub dir)
      let expires ← ask .expires
      let _ ← writeKeys cfg (proofKeys gen keysBefore (stripChars isSpace pub) expires)
      Prog.tryFinally (prove py cfg (proofKey dir) gen) (putBackKeys cfg keysBefore))
    (ask (.removeProofDir dir))

/-- Everything one generation writes, rendered once. -/
structure Rendered where
  cfg : Config
  gen : Text
  panelKey : Text
  entry : Text
  dispatcher : Text
  panelKeys : Text
  rule : Text
  accept : Text

def render (cfg : Config) (gen panelKey panelPub : Text) : Rendered where
  cfg := cfg
  gen := gen
  panelKey := panelKey
  entry := text cfg.entry
  dispatcher := text cfg.dispatcher
  panelKeys := panelKeys gen panelPub
  rule := sudoRule cfg.runnerUser (dispatcherPath gen) cfg.names
  accept := acceptenvRule cfg.runnerUser cfg.names

/-- `undo`, of a move. -/
def undo (gen : Text) (reloaded : Bool) : PathProg Unit := do
  let _ ← removeGeneration gen
  let _ ← remove .sudoersNext
  let removed ← remove .acceptenvNext
  if removed || reloaded then sshdReload else return ()

/-- BESIDE, up to the reload: from there on, undoing it reloads. -/
def beside (path : Rendered) : PathProg Unit := do
  let _ ← installGeneration path.gen path.entry path.dispatcher
  let _ ← write .sudoersNext path.rule 0o440 visudo
  let _ ← placeSshd .acceptenvNext path.accept
  return ()

def proof (path : Rendered) (keysBefore : Option Text) : PathProg Unit := do
  sshdReload
  let reasons ← proveBeside py path.cfg path.gen keysBefore
  if reasons ≠ [] then
    refuse ("the proof through generation " ++ String.ofList path.gen ++ " failed: " ++
      "; ".intercalate reasons)
  else return ()

/-- The panel's own proof after the SWITCH. -/
def switched (path : Rendered) : PathProg Unit := do
  let reasons ← prove py path.cfg path.panelKey path.gen
  if reasons ≠ [] then
    refuse ("the panel's key did not dispatch through generation " ++
      String.ofList path.gen ++ " after the switch: " ++ "; ".intercalate reasons)
  else return ()

def move (path : Rendered) (keysBefore : Option Text) : PathProg Unit := do
  onFailure (beside path) (undo path.gen false)
  onFailure (proof py path keysBefore) (undo path.gen true)
  let _ ← onFailure (writeKeys path.cfg path.panelKeys) (undo path.gen true)
  onFailure (switched py path) do
    putBackKeys path.cfg keysBefore
    undo path.gen true

/-- The -next rules, put back after a proof that failed. -/
def restoreNext (path : Rendered) : PathProg Unit := do
  let _ ← write .sudoersNext path.rule 0o440 visudo
  if ← placeSshd .acceptenvNext path.accept then sshdReload else return ()

/-- Names under the generations directory, removed one by one. -/
def removeOthers (gen : Text) : List Text → PathProg Unit
  | [] => pure ()
  | other :: rest => do
      if other ≠ gen then do
        let _ ← removeGeneration other
        removeOthers gen rest
      else removeOthers gen rest

/-- Proof key directories a killed run left. -/
def removeStale : List Nat → PathProg Unit
  | [] => pure ()
  | dir :: rest => do
      let _ ← ask (.removeProofDir dir)
      removeStale rest

/-- The proof once the rules have moved into place. -/
def proveRetired (path : Rendered) : PathProg Unit := do
  let reasons ← prove py path.cfg path.panelKey path.gen
  if reasons ≠ [] then do
    restoreNext path
    refuse ("generation " ++ String.ofList path.gen ++ " did not prove itself once its " ++
      "rules moved into place, so its -next rules are back: " ++ "; ".intercalate reasons)
  else return ()

/-- RETIRE, once the main files hold the rules: the -next files go, and the
panel's key proves what changed. -/
def settleRules (path : Rendered) (touched placed : Bool) : PathProg Unit := do
  let unruled ← remove .sudoersNext
  let unaccepted ← remove .acceptenvNext
  if placed || unaccepted then sshdReload else pure ()
  if touched || placed || unruled || unaccepted then proveRetired py path else pure ()

/-- The link, the other generations and the proof keys of killed runs. -/
def tidy (path : Rendered) : PathProg Unit := do
  let _ ← link path.cfg.link (dispatcherPath path.gen)
  removeOthers path.gen (← ask .listGenerations)
  removeStale (← ask .listProofDirs)

def retire (path : Rendered) : PathProg Unit := do
  let installed ← installGeneration path.gen path.entry path.dispatcher
  let rekeyed ← writeKeys path.cfg path.panelKeys
  let ruled ← write .sudoers path.rule 0o440 visudo
  let placed ← placeSshd .acceptenv path.accept
  settleRules py path (installed || rekeyed || ruled) placed
  tidy path

/-- What `switch` prints. -/
structure Verdict where
  ok : Bool
  changed : Bool
  generation : Text
  wrote : List Text
  summary : String

/-- `verdict`, of the paths written so far. -/
def verdict (gen : Text) (ok : Bool) (summary : String) : PathProg Verdict := do
  let wrote ← ask .recorded
  return {
    ok := ok
    changed := !wrote.isEmpty
    generation := gen
    wrote := wrote.dedup.mergeSort fun first second =>
      decide (String.ofList first ≤ String.ofList second)
    summary := summary }

/-- `except Refused as e`; any other exception goes on. -/
def onRefused {α : Type} (program : PathProg α) (handler : String → PathProg α) :
    PathProg α :=
  Prog.tryExcept program fun failure =>
    match failure with
    | .refused message => handler message
    | failure => Prog.raise failure

/-- The summary of a switch that went through. -/
def okSummary (running : Running) (gen : Text) (wrote : List Text) : String :=
  if running ≠ .generation gen then
    "the panel dispatches through generation " ++ String.ofList gen ++
      ", proven, in place of " ++ describe running
  else if wrote ≠ [] then
    "generation " ++ String.ofList gen ++ " is running; its rules, key line and link " ++
      "are in place, proven"
  else "generation " ++ String.ofList gen ++ " is running; nothing to change"

/-- The move to this generation, where another one runs. -/
def moveTo (path : Rendered) (keysBefore : Option Text) (running : Running) :
    PathProg Unit :=
  if running ≠ .generation path.gen then move py path keysBefore else pure ()

/-- What a refusal says; `current` is what the panel dispatches through. -/
def refusal (current : Running) (gen : Text) (message : String) : PathProg Verdict :=
  verdict gen false ("the panel dispatches through " ++ describe current ++ ": " ++ message)

/-- `_switch`, once the keys are read. -/
def switchFrom (path : Rendered) (keysBefore : Option Text) (running : Running) :
    PathProg Verdict := do
  let moved ← onRefused (do
    moveTo py path keysBefore running
    return none) fun message => do
      return some (← refusal running path.gen message)
  match moved with
  | some answer => return answer
  | none =>
      onRefused (do
        retire py path
        let wrote ← ask .recorded
        verdict path.gen true (okSummary running path.gen wrote)) fun message =>
          refusal (.generation path.gen) path.gen message

/-- `_switch`. -/
def switchKeys (path : Rendered) (blob : Text) : PathProg Verdict := do
  let read ← onRefused (do
    let keys ← ask .readKeys
    return (Except.ok keys : Except String (Option Text))) fun message =>
      return .error message
  match read with
  | .error message => verdict path.gen false message
  | .ok keysBefore =>
      switchFrom py path keysBefore (runningGeneration (lineFor keysBefore blob))

def switch (sha256 : Text → Text) (cfg : Config) : PathProg Verdict := do
  match passthroughProblem py cfg.passthrough with
  | some problem =>
      return { ok := false, changed := false, generation := [], wrote := [], summary := problem }
  | none =>
      let gen := generation sha256 cfg
      let panelKey := cfg.panelKeyDir ++ "/id_ed25519".toList
      let pubFile ← ask .readPanelPub
      let panelPub := stripChars isSpace (pubFile.getD [])
      if keyBlob panelPub = [] then
        verdict gen false ("the panel's public key " ++ String.ofList panelKey ++
          ".pub is missing or empty; the install writes it")
      else if !isPanelKey panelPub then
        verdict gen false ("the panel's public key " ++ String.ofList panelKey ++
          ".pub is not exactly one ssh-ed25519 line, so it is not put in the runner's " ++
          "authorized_keys")
      else do
        let opened ← onRefused (do
          let _ ← ask .openKeys
          return none) fun message => return some message
        match opened with
        | some message => verdict gen false message
        | none =>
            Prog.tryFinally (switchKeys py (render cfg gen panelKey panelPub) (keyBlob panelPub))
              (ask .closeKeys)

end Proof

end Catena.Dispatch

import Catena.DispatchPath

/-!
# The host the dispatch path is switched on

The rule files, the runner's keys, the generations and the link, and what each
operation does to them.  A file's content is what was written to it; reading it
translates its line ends.
-/

namespace Catena.Dispatch

open PyText

/-- What stands in a generation's directory.  A plain file is root's, with mode
0755. -/
inductive Node where
  | regular (plain : Bool) (content : Text)
  | other
  deriving DecidableEq

/-- What stands under the generations directory. -/
inductive Entry where
  | directory (plain : Bool) (files : PyDict Text Node)
  | symlink
  | file
  deriving DecidableEq

/-- What stands at the path of the dispatcher link. -/
inductive Link where
  | absent
  | symlink (target : Text)
  | other
  deriving DecidableEq

/-- Whose a file is, and its mode. -/
structure Owned where
  uid : Nat
  gid : Nat
  mode : Nat
  deriving DecidableEq

/-- `keysOwned` is of the runner's keys, where they stand; `runner` is the runner
account's uid and gid. -/
structure Host where
  panelPub : Option Text
  runner : Nat × Nat
  keys : Option Text
  keysOwned : Owned
  keysTmp : Option Text
  files : Slot → Option Text
  tmps : Slot → Option Text
  loaded : Option Text × Option Text
  generations : PyDict Text Entry
  link : Link
  linkTmp : Option Text
  proofDirs : List Nat
  nextDir : Nat
  wrote : List Text

/-- What is not up to the program: whether an operation raises, the result of a
command, the text it reads or draws, and what a removal that fails halfway
leaves behind. -/
structure Choice where
  raises : Option Failure
  ran : Ran
  text : Text
  kept : List Text

def Choice.ok : Choice :=
  ⟨none, ⟨0, [], []⟩, [], []⟩

namespace Host

/-- What `RunnerKeys.write` makes a file: the runner's alone. -/
def runnersOwn (host : Host) : Owned :=
  ⟨host.runner.1, host.runner.2, 0o600⟩

def entry (host : Host) (name : Text) : Option Entry :=
  PyDict.get host.generations name

def setEntry (host : Host) (name : Text) (entry : Entry) : Host :=
  { host with generations := PyDict.set host.generations name entry }

def dropEntry (host : Host) (name : Text) : Host :=
  { host with generations := PyDict.erase host.generations name }

def setFile (host : Host) (slot : Slot) (content : Option Text) : Host :=
  { host with files := Function.update host.files slot content }

def setTmp (host : Host) (slot : Slot) (content : Option Text) : Host :=
  { host with tmps := Function.update host.tmps slot content }

/-- A plain file with this text. -/
def holdsPlain (files : PyDict Text Node) (file : Text × Text) : Bool :=
  match PyDict.get files file.1 with
  | some (.regular true content) => universal content == file.2
  | _ => false

/-- `generation_intact`. -/
def intact (host : Host) (gen : Text) (expected : List (Text × Text)) : Bool :=
  match host.entry gen with
  | some (.directory true files) =>
      (files.map Prod.fst).isPerm (expected.map Prod.fst) &&
        expected.all (holdsPlain files)
  | _ => false

def kind (host : Host) (name : Text) : Kind :=
  match host.entry name with
  | none => .absent
  | some (.directory _ _) => .directory
  | some .symlink => .symlink
  | some .file => .file

/-- Change the files of a directory. -/
def inDirectory (host : Host) (name : Text)
    (change : Bool → PyDict Text Node → Entry) : Host × Except Failure Unit :=
  match host.entry name with
  | some (.directory plain files) => (host.setEntry name (change plain files), .ok ())
  | _ => (host, .error (.osError "not a directory"))

/-- `os.rename` of a directory: the target is absent or an empty directory. -/
def rename (host : Host) (source target : Text) : Host × Except Failure Unit :=
  match host.entry source, host.entry target with
  | some moved, none => ((host.dropEntry source).setEntry target moved, .ok ())
  | some moved, some (.directory _ []) =>
      ((host.dropEntry source).setEntry target moved, .ok ())
  | _, _ => (host, .error (.osError "not empty"))

/-- `shutil.rmtree`. -/
def removeTree (host : Host) (name : Text) (ignoreErrors : Bool) :
    Host × Except Failure Unit :=
  match host.entry name with
  | some (.directory _ _) => (host.dropEntry name, .ok ())
  | _ => (host, if ignoreErrors then .ok () else .error (.osError "not a directory"))

/-- A removal that fails halfway. -/
def thin (host : Host) (name : Text) (kept : List Text) : Host :=
  match host.entry name with
  | some (.directory plain files) => host.setEntry name
      (.directory plain (files.filter fun file => kept.contains file.1))
  | _ => host

end Host

/-- What an operation that does not fail does and answers. -/
def act (host : Host) (choice : Choice) : (op : Op) → Host × Except Failure (Res op)
  | .readPanelPub => (host, .ok (host.panelPub.map universal))
  | .openKeys => (host, .ok ())
  | .closeKeys => (host, .ok ())
  | .readKeys => (host, .ok (host.keys.map universal))
  | .unlinkKeysTmp => ({ host with keysTmp := none }, .ok ())
  | .writeKeysTmp text => ({ host with keysTmp := some text }, .ok ())
  | .replaceKeys =>
      match host.keysTmp with
      | some text => ({ host with
          keys := some text
          keysOwned := host.runnersOwn
          keysTmp := none }, .ok ())
      | none => (host, .error (.osError "no such file"))
  | .unlinkKeys => ({ host with keys := none }, .ok host.keys.isSome)
  | .readFile slot => (host, .ok ((host.files slot).map universal))
  | .writeTmp slot text => (host.setTmp slot (some text), .ok ())
  | .chmodTmp _ _ => (host, .ok ())
  | .unlinkTmp slot => (host.setTmp slot none, .ok ())
  | .replaceFile slot =>
      match host.tmps slot with
      | some text => ((host.setFile slot (some text)).setTmp slot none, .ok ())
      | none => (host, .error (.osError "no such file"))
  | .hasFile slot => (host, .ok (host.files slot).isSome)
  | .unlinkFile slot => (host.setFile slot none, .ok ())
  | .run argv =>
      if argv = reloadArgv ∧ choice.ran.code = 0 then
        ({ host with loaded := (host.files .acceptenv, host.files .acceptenvNext) },
          .ok choice.ran)
      else (host, .ok choice.ran)
  | .isIntact gen files => (host, .ok (host.intact gen files))
  | .makeBase => (host, .ok ())
  | .removeTree name ignoreErrors => host.removeTree name ignoreErrors
  | .makeDir name =>
      match host.entry name with
      | none => (host.setEntry name (.directory false []), .ok ())
      | some _ => (host, .error (.osError "exists"))
  | .chmodDir name => host.inDirectory name fun _ files => .directory true files
  | .writeIn name file text => host.inDirectory name fun plain files =>
      .directory plain (PyDict.set files file (.regular false text))
  | .chmodIn name file => host.inDirectory name fun plain files =>
      .directory plain (match PyDict.get files file with
        | some (.regular _ content) => PyDict.set files file (.regular true content)
        | _ => files)
  | .kindOf name => (host, .ok (host.kind name))
  | .unlinkEntry name =>
      match host.entry name with
      | some .symlink => (host.dropEntry name, .ok ())
      | some .file => (host.dropEntry name, .ok ())
      | _ => (host, .error (.osError "not a file"))
  | .renameDir source target => host.rename source target
  | .listGenerations =>
      (host, .ok ((host.generations.map Prod.fst).mergeSort fun first second =>
        decide (String.ofList first ≤ String.ofList second)))
  | .readLink =>
      (host, .ok (match host.link with
        | .symlink target => some target
        | _ => none))
  | .clearLinkTmp => ({ host with linkTmp := none }, .ok ())
  | .symlinkTmp target => ({ host with linkTmp := some target }, .ok ())
  | .replaceLink =>
      match host.linkTmp with
      | some target => ({ host with link := .symlink target, linkTmp := none }, .ok ())
      | none => (host, .error (.osError "no such file"))
  | .makeProofDir =>
      ({ host with
          proofDirs := host.nextDir :: host.proofDirs
          nextDir := host.nextDir + 1 }, .ok host.nextDir)
  | .readProofPub _ => (host, .ok choice.text)
  | .removeProofDir dir =>
      ({ host with proofDirs := host.proofDirs.filter (· ≠ dir) }, .ok ())
  | .listProofDirs => (host, .ok host.proofDirs)
  | .nonce => (host, .ok choice.text)
  | .expires => (host, .ok choice.text)
  | .record paths => ({ host with wrote := host.wrote ++ paths }, .ok ())
  | .recorded => (host, .ok host.wrote)

/-- What an operation that fails does and raises.  The comparison of a
directory answers for itself, and so do the program's own records. -/
def fail (host : Host) (choice : Choice) (failure : Failure) :
    (op : Op) → Host × Except Failure (Res op)
  | .removeTree name ignoreErrors =>
      (host.thin name choice.kept, if ignoreErrors then .ok () else .error failure)
  | .isIntact gen files => act host choice (.isIntact gen files)
  | .removeProofDir _ => (host, .ok ())
  | .record paths => act host choice (.record paths)
  | .recorded => act host choice .recorded
  | _ => (host, .error failure)

def perform (host : Host) (choice : Choice) (op : Op) :
    Host × Except Failure (Res op) :=
  match choice.raises with
  | some failure => fail host choice failure op
  | none => act host choice op

end Catena.Dispatch

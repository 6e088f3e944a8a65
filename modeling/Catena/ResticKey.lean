import Catena.HostProgram
import Catena.Store

/-!
# The restic password program

`scripts/catena-restic-key.py` as a program of file operations and restic
calls, each of which may fail or be the last before the process stops.
-/

namespace Catena.ResticKey

open Catena.Store (dictOf dump)

/-- Operations that leave what the program works on as it is. -/
inductive Quiet where
  | closeTemp (name : Nat)
  | chmodTemp (name : Nat)
  | closeStoreTmp
  | chmodStore
  | chmodPass
  | makeStoreDirectory
  deriving DecidableEq

/-- What `_restic_env` adds to the process environment. -/
structure Env where
  repository : Json
  accessKey : Json
  secretKey : Json

/-- An operation on the host.  Temporary password files are named by
number. -/
inductive Op where
  | lockStore
  | unlockStore
  | readStore
  | readHeld
  | urandom
  | makeTemp
  | writeTemp (name : Nat) (text : String)
  | unlinkTemp (name : Nat)
  | catConfig (env : Env) (passwordFile : Nat)
  | keyPasswd (env : Env) (passwordFile newPasswordFile : Nat)
  | init (env : Env) (passwordFile : Nat)
  | listDestination (env : Env)
  | openStoreTmp
  | writeStoreTmp (document : Json)
  | replaceStore
  | openPass
  | writePass (text : String)
  | quiet (call : Quiet)

/-- A record that the backups wait: readable or not. -/
abbrev Held := Option Json

/-- What an operation answers. -/
abbrev Res : Op → Type
  | .readStore => Option Json
  | .readHeld => Option Held
  | .urandom => String
  | .makeTemp => Nat
  | .catConfig _ _ => Nat
  | .keyPasswd _ _ _ => Nat × String
  | .init _ _ => Nat × String
  | .listDestination _ => Option Bool
  | _ => Unit

abbrev HostProg := Prog Op Res PyError

/-- Perform one operation. -/
def ask (op : Op) : HostProg (Res op) :=
  Prog.call op

/-- What a request is answered with. -/
inductive Reply where
  | ok
  | answered (ok : Bool)
  | minted (password : String)
  | repository (state : String)
  | refused (error : String)
  deriving DecidableEq

/-- A password was set or generated. -/
def Reply.accepted : Reply → Bool
  | ok => true
  | minted _ => true
  | _ => false

def loadStore (file : Option Json) : Except PyError Store :=
  match file with
  | some (.obj raw) => Store.load (some (.obj raw))
  | none => Store.load none
  | some _ => .error .attributeError

def resticEnv (store : Store) : Env where
  repository := (PyDict.get store.config "BACKUP_RESTIC_REPO").getD (.str "")
  accessKey := (PyDict.get store.secrets "backup_s3_access_key").getD (.str "")
  secretKey := (PyDict.get store.secrets "backup_s3_secret_key").getD (.str "")

/-- A subprocess takes text for every variable of its environment. -/
def Env.isText (env : Env) : Bool :=
  match env.repository, env.accessKey, env.secretKey with
  | .str _, .str _, .str _ => true
  | _, _, _ => false

/-- Run a subprocess with the environment. -/
def Env.run (env : Env) (op : Op) : HostProg (Res op) :=
  if env.isText then ask op else Prog.raise .typeError

/-- `_write_secret_file`: the text is joined once the file is there. -/
def writeSecretFile (value : Json) : HostProg Nat := do
  let name ← ask .makeTemp
  match value with
  | .str text => do
      let _ ← ask (.writeTemp name (text ++ "\n"))
      let _ ← ask (.quiet (.closeTemp name))
      let _ ← ask (.quiet (.chmodTemp name))
      return name
  | _ => Prog.raise .typeError

def noRepository : Nat := 10

def wrongPassword : Nat := 12

def unlink (name : Nat) : HostProg Unit :=
  ask (.unlinkTemp name)

def catConfig (env : Env) (password : Json) : HostProg Nat := do
  let file ← writeSecretFile password
  Prog.tryFinally (env.run (.catConfig env file)) (unlink file)

/-- The document `_save_store` writes. -/
def savedDocument (store : Store) (file : Option Json) : Except PyError Json :=
  match dump store file with
  | .ok document => .ok document
  | .error _ => .error .typeError

def saveStore (store : Store) : HostProg Unit := do
  let file ← ask .readStore
  let document ← Prog.lift (savedDocument store file)
  let _ ← ask .openStoreTmp
  let _ ← Prog.tryFinally (ask (.writeStoreTmp document))
    (ask (.quiet .closeStoreTmp))
  let _ ← ask .replaceStore
  ask (.quiet .chmodStore)

/-- `Path(pass_file).write_text(password + "\n")` and its `chmod`. -/
def writePassFile (password : String) : HostProg Unit := do
  let _ ← ask .openPass
  let _ ← ask (.writePass (password ++ "\n"))
  ask (.quiet .chmodPass)

/-- `_held`: the fields of the record, empty where it cannot be read. -/
def held : HostProg (Option (PyDict String Json)) := do
  let record ← Prog.tryExcept (ask .readHeld) fun _ =>
    pure (some none : Option Held)
  match record with
  | none => return none
  | some (some (.obj fields)) => return some fields
  | some _ => return some []

/-- `_location`, for a string. -/
def location (repository : List Char) :
    Option (List Char × List Char × List Char) :=
  (PyText.afterStart "s3:".toList repository).bind fun rest =>
    let (scheme, rest) := ["http", "https"].foldl (fun (scheme, rest) name =>
      match PyText.afterStart (name.toList ++ "://".toList) rest with
      | some after => (name.toList, after)
      | none => (scheme, rest)) ("https".toList, rest)
    let (host, path) := (PyText.partition '/' rest).getD (rest, [])
    let path := PyText.stripChars (fun character => character == '/') path
    if host = [] ∨ path = [] then none else some (scheme, host, path)

/-- `_location` of a stored value. -/
def locationOf : Json → Except PyError (Option (List Char × List Char × List Char))
  | .str text => .ok (location text.toList)
  | _ => .error .attributeError

def storedPassword (store : Store) : Option Json :=
  PyDict.get store.secrets "backup_restic_password"

/-- The store with another password. -/
def withPassword (store : Store) (password : String) : Store :=
  { store with
    secrets := PyDict.set store.secrets "backup_restic_password" (.str password) }

/-- The re-key itself: both passwords in files of their own, `restic key
passwd`, and the files removed. -/
def rekey (env : Env) (current : Json) (newPassword : String) :
    HostProg (Nat × String) := do
  let currentFile ← writeSecretFile current
  let newFile ← writeSecretFile (.str newPassword)
  Prog.tryFinally (env.run (.keyPasswd env currentFile newFile)) do
    unlink currentFile
    unlink newFile

def setPassword (store : Store) (newPassword : String) : HostProg Reply := do
  let current := (storedPassword store).getD (.str "")
  let env := resticEnv store
  if !current.truthy then
    return .refused "no current restic password on-box to re-key from"
  else if !env.repository.truthy then
    return .refused "backup repo not configured"
  else do
    let (code, stderr) ← rekey env current newPassword
    if code ≠ 0 then
      return .refused ("restic key passwd failed: " ++
        String.ofList (stderr.toList.take 200))
    else do
      saveStore (withPassword store newPassword)
      writePassFile newPassword
      return .ok

/-- The end of `cmd_generate`: a password for a destination that holds no
repository yet. -/
def mintPassword (store : Store) (replace : Bool) : HostProg Reply := do
  let password ← ask .urandom
  let env := resticEnv store
  let code ← if env.repository.truthy then catConfig env (.str password)
    else pure noRepository
  if code = wrongPassword then
    return .refused ("the repository already holds backups encrypted under " ++
      "another password. Restore this server from it on the Restore page, or " ++
      "point Settings at an empty repository")
  else if code ≠ noRepository then
    return .refused ("could not read the repository (restic exit " ++
      toString code ++ "); check its address and keys")
  else do
    saveStore (withPassword store password)
    if replace then writePassFile password else pure ()
    return .minted password

/-- The hold's record that names the destination as the adopted one. -/
def adopted (py : Builtins) (hold : PyDict String Json)
    (here : List Char × List Char × List Char) : Bool :=
  location (Json.textOr py (PyDict.get hold "settings")).toList = some here

def cmdGenerate (py : Builtins) (store : Store) (replace : Bool) :
    HostProg Reply := do
  if ((storedPassword store).getD .null).truthy then
    if !replace then
      return .refused ("a backup encryption password already exists; " ++
        "validate or rotate it instead")
    else
      match ← held with
      | none => return .refused ("a new backup encryption password replaces " ++
          "the stored one only while the backups wait after a restore; " ++
          "rotate it instead")
      | some hold =>
          match ← Prog.lift (locationOf (resticEnv store).repository) with
          | none => return .refused ("the backup destination is not a " ++
              "repository address; save one in Settings")
          | some here =>
              if !adopted py hold here then mintPassword store replace
              else if !Json.pyEq ((PyDict.get hold "choice").getD .null)
                  (.str "fresh") then
                return .refused ("the backup destination is the one the " ++
                  "restore brought back; a new password is made for a new " ++
                  "destination, or when the Restore page's choice is a fresh " ++
                  "repository")
              else do
                let password ← ask .urandom
                match ← setPassword store password with
                | .ok => return .minted password
                | reply => return reply
  else mintPassword store replace

def cmdRotate (py : Builtins) (store : Store)
    (request : PyDict String Json) : HostProg Reply := do
  match ← held with
  | some _ => return .refused ("the backups wait after a restore of this " ++
      "server, and nothing is written to the repository until the destination " ++
      "is confirmed, or a new one saved, in Settings")
  | none =>
      let newPassword := Json.textOr py (PyDict.get request "new_password")
      if newPassword = "" then return .refused "no new password supplied"
      else setPassword store newPassword

def cmdValidate (py : Builtins) (store : Store)
    (request : PyDict String Json) : HostProg Reply := do
  let password := Json.textOr py (PyDict.get request "password")
  if password = "" then return .refused "no password supplied"
  else if !((PyDict.get store.config "BACKUP_RESTIC_REPO").getD .null).truthy then
    return .refused "backup repo not configured"
  else do
    let code ← catConfig (resticEnv store) (.str password)
    return .answered (code == 0)

def locationHoldsAnything (env : Env) : HostProg (Option Bool) := do
  match ← Prog.lift (locationOf env.repository) with
  | none => return none
  | some _ => env.run (.listDestination env)

def cmdInit (store : Store) : HostProg Reply := do
  let env := resticEnv store
  let password := (storedPassword store).getD (.str "")
  if !(env.repository.truthy && env.accessKey.truthy && env.secretKey.truthy) then
    return .refused "no backup destination is saved"
  else if !password.truthy then
    return .refused ("no backup encryption password is stored yet; generate " ++
      "it on the Settings page")
  else do
    let code ← catConfig env password
    if code = 0 then return .repository "exists"
    else if code = wrongPassword then
      return .refused ("the destination holds a repository encrypted under " ++
        "another password. Restore this server from it on the Restore page, " ++
        "or point Settings at an empty bucket")
    else if code ≠ noRepository then
      return .refused ("could not read the destination (restic exit " ++
        toString code ++ "); check its address and keys")
    else
      match ← locationHoldsAnything env with
      | none => return .refused ("could not list the destination, so nothing " ++
          "was created there; check its address and keys")
      | some true => return .refused ("the destination holds files that are " ++
          "not a restic repository. Point Settings at an empty bucket, or at " ++
          "a prefix nothing else uses")
      | some false => do
          let file ← writeSecretFile password
          let (code, stderr) ← Prog.tryFinally (env.run (.init env file))
            (unlink file)
          if code ≠ 0 then
            return .refused ("restic init failed: " ++
              String.ofList (stderr.toList.take 200))
          else return .repository "created"

/-- `main`, from the request it read. -/
def main (py : Builtins) (request : Json) : HostProg Reply := do
  match request with
  | .obj fields =>
      let store ← (ask .readStore >>= fun file => Prog.lift (loadStore file))
      match PyDict.get fields "op" with
      | some (.str "generate") =>
          cmdGenerate py store (match PyDict.get fields "replace" with
            | some (.bool value) => value
            | _ => false)
      | some (.str "validate") => cmdValidate py store fields
      | some (.str "rotate") => cmdRotate py store fields
      | some (.str "init") => cmdInit store
      | op => Prog.raise (.systemExit
          ("unknown op " ++ py.repr (op.getD .null)))
  | _ => Prog.raise (.systemExit "expected a JSON object on stdin")

theorem load_of_loadStore {file : Option Json} {store : Store}
    (loaded : loadStore file = .ok store) : Store.load file = .ok store := by
  unfold loadStore at loaded
  split at loaded
  · exact loaded
  · exact loaded
  · simp at loaded

/-- Operations on the temporary password files, and questions. -/
def IsPrivate : Op → Prop
  | .readHeld => True
  | .makeTemp => True
  | .writeTemp _ _ => True
  | .unlinkTemp _ => True
  | .catConfig _ _ => True
  | .listDestination _ => True
  | .quiet _ => True
  | _ => False

theorem only_ask {op : Op} (isPrivate : IsPrivate op) :
    (ask op).Only IsPrivate :=
  ⟨isPrivate, fun _ => trivial⟩

theorem only_ask_bind {op : Op} {α : Type} {next : Res op → HostProg α}
    (isPrivate : IsPrivate op) (rest : ∀ value, (next value).Only IsPrivate) :
    (ask op >>= next).Only IsPrivate :=
  (only_ask isPrivate).bind rest

theorem only_writeSecretFile (value : Json) :
    (writeSecretFile value).Only IsPrivate := by
  unfold writeSecretFile
  refine only_ask_bind trivial fun name => ?_
  cases value with
  | str text =>
      refine only_ask_bind trivial fun _ => ?_
      refine only_ask_bind trivial fun _ => ?_
      exact only_ask_bind trivial fun _ => trivial
  | _ => trivial

theorem only_unlink (name : Nat) : (unlink name).Only IsPrivate :=
  only_ask trivial

theorem only_run {allowed : Op → Prop} {env : Env} {op : Op}
    (isAllowed : allowed op) : (env.run op).Only allowed := by
  unfold Env.run
  split
  · exact ⟨isAllowed, fun _ => trivial⟩
  · trivial

theorem only_catConfig (env : Env) (password : Json) :
    (catConfig env password).Only IsPrivate :=
  (only_writeSecretFile password).bind fun file =>
    Prog.Only.tryFinally (only_run (by trivial)) (only_unlink file)

theorem only_held : held.Only IsPrivate := by
  unfold held
  refine Prog.Only.bind ?_ fun record => ?_
  · refine Prog.Only.andThen (only_ask trivial) fun outcome => ?_
    cases outcome with
    | ok value => trivial
    | error failure => trivial
  · split <;> trivial

theorem only_cmdValidate (py : Builtins) (store : Store)
    (fields : PyDict String Json) :
    (cmdValidate py store fields).Only IsPrivate := by
  unfold cmdValidate
  dsimp only
  split
  · trivial
  · split
    · trivial
    · exact (only_catConfig _ _).bind fun _ => trivial

end Catena.ResticKey

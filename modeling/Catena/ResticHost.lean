import Catena.ResticKey

/-!
# The host the restic password program runs on

The store and its temporary sibling, the pass file, the temporary password
files and the backup destination, and what each operation does to them.  What
restic reads out of a password file is left open as `reading`.
-/

namespace Catena.ResticKey

/-- What the backup destination holds.  A repository has one current key. -/
inductive Destination where
  | nothing
  | foreign
  | repository (key : String)
  deriving DecidableEq

/-- A file that may be absent, and may hold a JSON document or something that
is none, as a file just opened for writing does. -/
abbrev JsonFile := Option (Option Json)

structure Host where
  store : JsonFile
  storeTmp : JsonFile
  passFile : Option String
  heldFile : Option Held
  temps : PyDict Nat String
  nextTemp : Nat
  destination : Destination

/-- What is not up to the program: whether the operation fails, the exit code
of a subprocess that failed for a passing reason, and the text it reads or
prints.  The exit codes by which restic speaks of the repository are its
own. -/
structure Choice where
  fails : Bool
  code : Nat
  text : String

/-- An operation that goes through. -/
def Choice.ok : Choice :=
  ⟨false, 0, ""⟩

section Perform

variable (reading : String → String)

/-- The key a password file opens a repository with. -/
def Host.keyIn (host : Host) (name : Nat) : Option String :=
  (PyDict.get host.temps name).map reading

/-- The exit code of `restic cat config`. -/
def Host.catCode (host : Host) (name : Nat) : Nat :=
  match host.destination with
  | .repository key => if host.keyIn reading name = some key then 0 else wrongPassword
  | _ => noRepository

/-- What `restic key passwd` leaves, and its exit code. -/
def Host.passwd (host : Host) (name newName : Nat) : Host × Nat :=
  match host.destination, host.keyIn reading newName with
  | .repository key, some newKey =>
      if host.keyIn reading name = some key then
        ({ host with destination := .repository newKey }, 0)
      else (host, wrongPassword)
  | _, _ => (host, noRepository)

/-- What an operation that does not fail does and answers. -/
def act (host : Host) (choice : Choice) : (op : Op) → Host × Except PyError (Res op)
  | .lockStore => (host, .ok ())
  | .unlockStore => (host, .ok ())
  | .readStore =>
      (host, match host.store with
        | none => .ok none
        | some (some document) => .ok (some document)
        | some none => .error (.valueError "not JSON"))
  | .readHeld => (host, .ok host.heldFile)
  | .urandom => (host, .ok choice.text)
  | .makeTemp =>
      ({ host with
          temps := PyDict.set host.temps host.nextTemp ""
          nextTemp := host.nextTemp + 1 }, .ok host.nextTemp)
  | .writeTemp name text =>
      ({ host with temps := PyDict.set host.temps name text }, .ok ())
  | .unlinkTemp name => ({ host with temps := PyDict.erase host.temps name }, .ok ())
  | .catConfig _ name =>
      (host, .ok (if choice.code ∈ [0, noRepository, wrongPassword] then
        host.catCode reading name else choice.code))
  | .keyPasswd _ name newName =>
      if choice.code = 0 then
        let (after, code) := host.passwd reading name newName
        (after, .ok (code, choice.text))
      else (host, .ok (choice.code, choice.text))
  | .init _ name =>
      if choice.code ≠ 0 then (host, .ok (choice.code, choice.text))
      else
        match host.destination, host.keyIn reading name with
        | .nothing, some key =>
            ({ host with destination := .repository key }, .ok (0, choice.text))
        | _, _ => (host, .ok (1, choice.text))
  | .listDestination _ =>
      (host, .ok (if choice.code = 0 then some (host.destination ≠ .nothing) else none))
  | .openStoreTmp => ({ host with storeTmp := some none }, .ok ())
  | .writeStoreTmp document => ({ host with storeTmp := some (some document) }, .ok ())
  | .replaceStore =>
      match host.storeTmp with
      | some content =>
          ({ host with store := some content, storeTmp := none }, .ok ())
      | none => (host, .error .osError)
  | .openPass => ({ host with passFile := some "" }, .ok ())
  | .writePass text => ({ host with passFile := some text }, .ok ())
  | .quiet _ => (host, .ok ())

/-- What a failing operation raises; a store lock that another writer keeps
past the wait ends the run with 75. -/
def failure : Op → PyError
  | .lockStore => .exitStatus 75
  | _ => .osError

/-- Perform one operation; one that fails raises and changes nothing. -/
def perform (host : Host) (choice : Choice) (op : Op) :
    Host × Except PyError (Res op) :=
  if choice.fails then (host, .error (failure op))
  else act reading host choice op

end Perform

end Catena.ResticKey

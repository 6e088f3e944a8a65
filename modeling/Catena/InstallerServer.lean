import Catena.InstallerRun
import Catena.Runs
import Mathlib.Logic.Function.Basic

/-!
# The installer's server

The requests of the threading HTTP server and the install threads they start,
statement by statement.  The handler class holds the shown run, which every
request reads again each time it uses it; an install thread keeps the run
object it was started with.
-/

namespace Catena

namespace Installer

/-- A value of the form: the field's key, the value, and whether the field is
a credential. -/
structure Answer where
  key : String
  value : String
  secret : Bool
  deriving DecidableEq

/-- One thing a step proved, or could not. -/
structure Check where
  label : String
  ok : Bool
  detail : String
  blocking : Bool
  deriving DecidableEq

def Check.blocks (check : Check) : Bool :=
  !check.ok && check.blocking

def blocked (checks : List Check) : Bool :=
  checks.any Check.blocks

/-- Where a request is, and then the install thread it started.  From
`clearing` on, the run object is the one `start_install` was called with. -/
inductive Phase where
  | waiting
  | recording (form : List Answer)
  | probing
  | saving (checks : List Check)
  | starting
  | clearing (run : Nat)
  | storing (run : Nat)
  | spawning (run : Nat)
  | installing (run : Nat)
  | ended (run : Nat) (status : Int)
  | connecting (run : Nat)
  | finished
  deriving DecidableEq

/-- The run object an install is starting or running on. -/
def Phase.busy : Phase → Option Nat
  | .clearing run | .storing run | .spawning run | .installing run => some run
  | _ => none

/-- The run object whose end state a thread has still to save. -/
def Phase.unsaved : Phase → Option Nat
  | .clearing run | .storing run | .spawning run | .installing run
  | .ended run _ => some run
  | _ => none

/-- The run object a thread runs the install of. -/
def Phase.active : Phase → Option Nat
  | .installing run => some run
  | _ => none

/-- The run object of a thread past its install, which saves the end state and
opens the forward. -/
def Phase.tail : Phase → Option Nat
  | .ended run _ | .connecting run => some run
  | _ => none

/-- What an inventory's latest install came to, as its own thread lives it,
with every keyset printed for the inventory since this process began. -/
structure Account where
  thread : Nat
  run : Nat
  state : String
  printed : List (PyDict String String)

/-- The keyset printed last. -/
def Account.keyset (account : Account) : PyDict String String :=
  account.printed.getLast?.getD []

def Account.print (account : Account) (keyset : PyDict String String) : Account :=
  { account with printed := account.printed ++ [keyset] }

@[simp] theorem Account.print_state (account : Account) (keyset : PyDict String String) :
    (account.print keyset).state = account.state := rfl

@[simp] theorem Account.print_keyset (account : Account) (keyset : PyDict String String) :
    (account.print keyset).keyset = keyset := by
  simp [Account.keyset, Account.print]

/-- The installer process: its run objects by number, how many there are, the
shown one, the inventory directories, and each request's phase.  `account` is
kept beside the program: no step of it reads it. -/
structure Server where
  runs : Nat → Run
  count : Nat
  shown : Option Nat
  folders : String → Option Folder
  phase : Nat → Phase
  account : String → Option Account

namespace Server

def setRun (server : Server) (run : Nat) (change : Run → Run) : Server :=
  { server with runs := Function.update server.runs run (change (server.runs run)) }

def setPhase (server : Server) (thread : Nat) (phase : Phase) : Server :=
  { server with phase := Function.update server.phase thread phase }

/-- A statement on the shown run, when there is one. -/
def onShown (server : Server) (change : Run → Run) : Server :=
  match server.shown with
  | some run => server.setRun run change
  | none => server

/-- `save` of a run object. -/
def store (server : Server) (tools : Tools) (run : Nat) : Server :=
  let object := server.runs run
  { server with
    folders := Function.update server.folders object.inventory
      (some (object.save tools (server.folders object.inventory))) }

/-- What the install of a run object came to, seen by a thread. -/
def tell (server : Server) (run thread : Nat) (change : Account → Account) : Server :=
  let inventory := (server.runs run).inventory
  match server.account inventory with
  | some account =>
    if account.thread = thread then
      { server with
        account := Function.update server.account inventory (some (change account)) }
    else server
  | none => server

/-- A new install of a run object. -/
def enter (server : Server) (run thread : Nat) : Server :=
  let inventory := (server.runs run).inventory
  let printed := ((server.account inventory).map Account.printed).getD []
  { server with
    account := Function.update server.account inventory
      (some ⟨thread, run, stateInstalling, printed⟩) }

/-- `_open`: nothing changes where `load` raises. -/
def openInventory (server : Server) (tools : Tools) (processes : Processes)
    (secretKeys : List String) (inventory : String) : Server :=
  match load tools processes secretKeys inventory (server.folders inventory) with
  | none => server
  | some opened =>
    let loaded :=
      { server with
        runs := Function.update server.runs server.count opened
        count := server.count + 1
        shown := some server.count }
    match server.folders inventory with
    | some _ => loaded
    | none => loaded.store tools server.count

/-- `do_POST` up to its check of the state. -/
def arrive (server : Server) (thread : Nat) (form : List Answer) : Server :=
  match server.phase thread with
  | .waiting =>
    match server.shown with
    | none => server.setPhase thread .finished
    | some run =>
      if (server.runs run).state = stateInstalling then server.setPhase thread .finished
      else server.setPhase thread (.recording form)
  | _ => server

/-- The next value of the form. -/
def record (server : Server) (thread : Nat) : Server :=
  match server.phase thread with
  | .recording [] => server.setPhase thread .probing
  | .recording (answer :: rest) =>
    (server.onShown fun run => run.answer answer.key answer.value answer.secret).setPhase
      thread (.recording rest)
  | _ => server

/-- What the verification finds, and why a key pair could not be created. -/
def probe (server : Server) (thread : Nat) (problem : Option String)
    (checks : List Check) : Server :=
  match server.phase thread with
  | .probing =>
    (match problem with
      | some problem =>
        server.onShown fun run => run.append ("catena-installer: " ++ problem)
      | none => server).setPhase thread (.saving checks)
  | _ => server

/-- `self.run.save()`, and the decision to start. -/
def keep (server : Server) (tools : Tools) (thread : Nat) : Server :=
  match server.phase thread with
  | .saving checks =>
    (match server.shown with
      | some run => server.store tools run
      | none => server).setPhase thread (if blocked checks then .finished else .starting)
  | _ => server

/-- The call of `start_install`, with its first statement. -/
def startInstall (server : Server) (thread : Nat) : Server :=
  match server.phase thread, server.shown with
  | .starting, some run =>
    ((server.setRun run fun run => { run with state := stateInstalling }).enter
      run thread).setPhase thread (.clearing run)
  | _, _ => server

/-- `current.log.clear()`, `current.save()` and the start of the thread. -/
def advance (server : Server) (tools : Tools) (thread : Nat) : Server :=
  match server.phase thread with
  | .clearing run =>
    (server.setRun run fun run => { run with log := [] }).setPhase thread (.storing run)
  | .storing run => (server.store tools run).setPhase thread (.spawning run)
  | .spawning run => server.setPhase thread (.installing run)
  | _ => server

/-- A line of the install's output. -/
def line (server : Server) (thread : Nat) (text : String) : Server :=
  match server.phase thread with
  | .installing run => server.setRun run fun run => run.append text
  | _ => server

/-- The passwords the install prints. -/
def keyset (server : Server) (thread : Nat) (printed : PyDict String String) : Server :=
  match server.phase thread with
  | .installing run =>
    (server.setRun run fun run => { run with keyset := printed }).tell run thread
      fun account => account.print printed
  | _ => server

def endState (status : Int) : String :=
  if status = 0 then stateDone else stateFailed

/-- The end of `install.run`: the thread sets the end state. -/
def finish (server : Server) (thread : Nat) (status : Int) : Server :=
  match server.phase thread with
  | .installing run =>
    ((server.setRun run fun run => { run with state := endState status }).tell run thread
      fun account => { account with state := endState status }).setPhase
        thread (.ended run status)
  | _ => server

/-- The thread saves the end state. -/
def settle (server : Server) (tools : Tools) (thread : Nat) : Server :=
  match server.phase thread with
  | .ended run status =>
    (server.store tools run).setPhase thread
      (if status = 0 then .connecting run else .finished)
  | _ => server

/-- `open_forward`, given why the forward could not be opened. -/
def openForward (run : Run) (problem : Option String) : Run :=
  if run.forward then run
  else
    match problem with
    | none => { run with forward := true }
    | some problem =>
      run.append ("catena-installer: the panel forward did not open: " ++ problem)

/-- The thread opens the panel's forward and ends. -/
def connect (server : Server) (thread : Nat) (problem : Option String) : Server :=
  match server.phase thread with
  | .connecting run =>
    (server.setRun run fun run => openForward run problem).setPhase thread .finished
  | _ => server

/-- An exception no handler catches ends the request or the thread.  An
install that ends so has failed. -/
def die (server : Server) (thread : Nat) : Server :=
  (match server.phase thread with
    | .clearing run | .storing run | .spawning run | .installing run =>
      server.tell run thread fun account => { account with state := stateFailed }
    | _ => server).setPhase thread .finished

end Server

/-- What happens in the process.  `knock` is a POST to `/connect`. -/
inductive Step where
  | openInventory (processes : Processes) (secretKeys : List String)
      (inventory : String)
  | arrive (thread : Nat) (form : List Answer)
  | record (thread : Nat)
  | probe (thread : Nat) (problem : Option String) (checks : List Check)
  | keep (thread : Nat)
  | startInstall (thread : Nat)
  | advance (thread : Nat)
  | line (thread : Nat) (text : String)
  | keyset (thread : Nat) (printed : PyDict String String)
  | finish (thread : Nat) (status : Int)
  | settle (thread : Nat)
  | connect (thread : Nat) (problem : Option String)
  | knock (problem : Option String)
  | die (thread : Nat)

def Server.step (tools : Tools) (server : Server) : Step → Server
  | .openInventory processes secretKeys inventory =>
    server.openInventory tools processes secretKeys inventory
  | .arrive thread form => server.arrive thread form
  | .record thread => server.record thread
  | .probe thread problem checks => server.probe thread problem checks
  | .keep thread => server.keep tools thread
  | .startInstall thread => server.startInstall thread
  | .advance thread => server.advance tools thread
  | .line thread text => server.line thread text
  | .keyset thread printed => server.keyset thread printed
  | .finish thread status => server.finish thread status
  | .settle thread => server.settle tools thread
  | .connect thread problem => server.connect thread problem
  | .knock problem => server.onShown fun run => Server.openForward run problem
  | .die thread => server.die thread

/-- The translations a page shows in place of a password. -/
structure Texts where
  pending : String
  notAgain : String

def keysetFields : List String :=
  ["admin_password", "console_recovery_password", "journal_verification_key"]

/-- `keyset_shown`, of the run's `keyset`. -/
def keysetShown (texts : Texts) (keyset : PyDict String String) : PyDict String String :=
  if keyset = [] then keysetFields.map fun name => (name, texts.pending)
  else
    keysetFields.map fun name =>
      let printed := (PyDict.get keyset name).getD ""
      (name, if printed = "" then texts.notAgain else printed)

/-- What `/progress` answers. -/
structure Progress where
  state : String
  log : String
  keyset : PyDict String String

def progress (texts : Texts) (run : Run) : Progress :=
  ⟨run.state, String.intercalate "\n" run.log, keysetShown texts run.keyset⟩

/-- The process as `serve` begins: no request has arrived, and the run given
on the command line, if any, is shown. -/
structure Server.Begun (server : Server) : Prop where
  phase : ∀ thread, server.phase thread = .waiting
  account : ∀ inventory, server.account inventory = none
  shown : ∀ run, server.shown = some run → run < server.count
  keyset : ∀ run, run < server.count → (server.runs run).keyset = []

end Installer

end Catena

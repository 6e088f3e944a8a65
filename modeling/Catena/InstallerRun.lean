import Catena.PyJson

/-!
# An inventory's run in the installer

The installer's run object: one inventory, what a client answered for it, and
where the install got to.  It is written to the inventory's directory, but for
the credentials, the log and the printed passwords, and read back from there.
-/

namespace Catena

namespace Installer

def stateAnswering : String :=
  "answering"

def stateInstalling : String :=
  "installing"

def stateDone : String :=
  "done"

def stateFailed : String :=
  "failed"

def logLines : Nat :=
  2000

/-- One inventory, resumable.  `forward` tells whether the panel's forward is
open. -/
structure Run where
  inventory : String
  answers : PyDict String String := []
  secrets : PyDict String String := []
  secretKeys : List String
  state : String := stateAnswering
  log : List String := []
  keyset : PyDict String String := []
  forward : Bool := false

/-- A state file: one `load` raises on, or the document it holds. -/
inductive StateFile where
  | malformed
  | holds (doc : Json)

/-- An inventory's directory: the text of its `.env` and its state file. -/
structure Folder where
  env : Option String
  state : Option StateFile

/-- What the run object leaves to its libraries: `seed.write_env`, given the
old text, `seed.read_existing_env`, Python's `str` of a JSON value and this
process's id. -/
structure Tools where
  writeEnv : Option String → PyDict String String → String
  readExistingEnv : String → PyDict String String
  py : Builtins
  pid : Int

/-- Whether `os.kill(pid, 0)` finds a process: `none` where it raises what
`_running` does not catch. -/
abbrev Processes := Int → Option Bool

namespace Run

def answer (run : Run) (key value : String) (secret : Bool) : Run :=
  if secret || run.secretKeys.contains key then
    { run with secrets := run.secrets.set key value }
  else
    { run with answers := run.answers.set key value }

/-- The lines `run.log` keeps. -/
def append (run : Run) (text : String) : Run :=
  let lines := run.log ++ [text]
  { run with log := lines.drop (lines.length - logLines) }

/-- `save`: the directory it leaves. -/
def save (tools : Tools) (run : Run) (old : Option Folder) : Folder where
  env := some (tools.writeEnv (old.bind Folder.env)
    (run.answers.filter fun answered => !run.secretKeys.contains answered.1))
  state := some (.holds (.obj [("state", .str run.state), ("pid", .int tools.pid)]))

end Run

def running (processes : Processes) : Option Json → Option Bool
  | some (.int pid) => processes pid
  | some (.bool value) => processes (if value then 1 else 0)
  | _ => some false

/-- The state word a document gives: `none` where `load` raises. -/
def resumed (tools : Tools) (processes : Processes) : StateFile → Option String
  | .holds (.obj doc) =>
    let word :=
      match PyDict.get doc "state" with
      | some value => if value.truthy then value.toText tools.py else stateAnswering
      | none => stateAnswering
    if word = stateInstalling then
      (running processes (PyDict.get doc "pid")).map fun alive =>
        if alive then word else stateFailed
    else some word
  | _ => none

/-- `load`: `none` where it raises. -/
def load (tools : Tools) (processes : Processes) (secretKeys : List String)
    (inventory : String) (folder : Option Folder) : Option Run :=
  let answers :=
    match folder.bind Folder.env with
    | some text =>
      (tools.readExistingEnv text).filter fun answered =>
        !secretKeys.contains answered.1
    | none => []
  let run : Run := { inventory, answers, secretKeys }
  match folder.bind Folder.state with
  | none => some run
  | some file =>
    (resumed tools processes file).map fun state => { run with state := state }

section Resume

variable {tools : Tools} {processes : Processes} {secretKeys : List String}
  {inventory : String} {folder : Option Folder} {run opened : Run}

/-- A loaded run shows no printed passwords. -/
theorem load_keyset
    (loads : load tools processes secretKeys inventory folder = some opened) :
    opened.inventory = inventory ∧ opened.keyset = [] := by
  unfold load at loads
  simp only at loads
  split at loads
  · obtain rfl := Option.some.inj loads
    exact ⟨rfl, rfl⟩
  · obtain ⟨state, _, rfl⟩ := Option.map_eq_some_iff.mp loads
    exact ⟨rfl, rfl⟩

/-- A run saved in an end state is read back in it. -/
theorem load_save_state {state : String} (holds : ∃ env, folder = some
      ⟨env, some (.holds (.obj [("state", .str state), ("pid", .int tools.pid)]))⟩)
    (ended : state = stateDone ∨ state = stateFailed)
    (loads : load tools processes secretKeys inventory folder = some opened) :
    opened.state = state := by
  obtain ⟨env, rfl⟩ := holds
  have word : resumed tools processes
      (.holds (.obj [("state", .str state), ("pid", .int tools.pid)])) = some state := by
    rcases ended with rfl | rfl <;> rfl
  simp only [load, Option.bind_some, word, Option.map_some, Option.some.injEq] at loads
  rw [← loads]

end Resume

end Installer

end Catena

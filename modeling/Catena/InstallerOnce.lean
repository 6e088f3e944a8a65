import Catena.InstallerServer

/-!
# One install at a time

The state check of a request and the state change of `start_install` are
separated by the form and the probes, so two requests can both pass the check.
Where every start still finds the check true, the state word is a lock.
-/

namespace Catena

namespace Installer

open Runs

variable {tools : Tools} {server : Server}

/-- At most one thread runs the install of a run object. -/
def OneInstall (server : Server) : Prop :=
  ∀ first second run, (server.phase first).active = some run →
    (server.phase second).active = some run → first = second

/-- At most one install thread of a run object is alive, in its install or
past it. -/
def OneThread (server : Server) : Prop :=
  ∀ first second run,
    (server.phase first).active = some run ∨ (server.phase first).tail = some run →
    (server.phase second).active = some run ∨ (server.phase second).tail = some run →
    first = second

/-- A start finds the run in a state the check of `do_POST` lets through. -/
def Fresh (server : Server) : Step → Prop
  | .startInstall thread =>
    server.phase thread = .starting → ∀ run, server.shown = some run →
      (server.runs run).state ≠ stateInstalling
  | _ => True

/-- A start finds no thread of the run that saves its end state or opens the
forward. -/
def Clear (server : Server) : Step → Prop
  | .startInstall thread =>
    server.phase thread = .starting → ∀ run, server.shown = some run →
      ∀ other, (server.phase other).tail ≠ some run
  | _ => True

namespace Server

@[simp]
theorem setPhase_phase (thread other : Nat) (phase : Phase) :
    (server.setPhase thread phase).phase other =
      if other = thread then phase else server.phase other := by
  simp [setPhase, Function.update_apply]

/-- A phase is set, and nothing else. -/
@[simp]
theorem setPhase_frame (thread : Nat) (phase : Phase) :
    (server.setPhase thread phase).runs = server.runs ∧
      (server.setPhase thread phase).shown = server.shown ∧
      (server.setPhase thread phase).count = server.count ∧
      (server.setPhase thread phase).folders = server.folders ∧
      (server.setPhase thread phase).account = server.account :=
  ⟨rfl, rfl, rfl, rfl, rfl⟩

@[simp]
theorem setRun_runs (run other : Nat) (change : Run → Run) :
    (server.setRun run change).runs other =
      if other = run then change (server.runs run) else server.runs other := by
  simp [setRun, Function.update_apply]

/-- A statement on a run object changes nothing else. -/
@[simp]
theorem setRun_frame (run : Nat) (change : Run → Run) :
    (server.setRun run change).phase = server.phase ∧
      (server.setRun run change).shown = server.shown ∧
      (server.setRun run change).count = server.count ∧
      (server.setRun run change).folders = server.folders ∧
      (server.setRun run change).account = server.account :=
  ⟨rfl, rfl, rfl, rfl, rfl⟩

/-- A save writes a directory, and nothing else. -/
@[simp]
theorem store_frame (run : Nat) :
    (server.store tools run).runs = server.runs ∧
      (server.store tools run).phase = server.phase ∧
      (server.store tools run).shown = server.shown ∧
      (server.store tools run).count = server.count ∧
      (server.store tools run).account = server.account :=
  ⟨rfl, rfl, rfl, rfl, rfl⟩

@[simp]
theorem enter_frame (run thread : Nat) :
    (server.enter run thread).runs = server.runs ∧
      (server.enter run thread).phase = server.phase ∧
      (server.enter run thread).shown = server.shown ∧
      (server.enter run thread).count = server.count ∧
      (server.enter run thread).folders = server.folders :=
  ⟨rfl, rfl, rfl, rfl, rfl⟩

@[simp]
theorem tell_frame (run thread : Nat) (change : Account → Account) :
    (server.tell run thread change).runs = server.runs ∧
      (server.tell run thread change).phase = server.phase ∧
      (server.tell run thread change).shown = server.shown ∧
      (server.tell run thread change).count = server.count ∧
      (server.tell run thread change).folders = server.folders := by
  unfold tell
  dsimp only
  split
  · split <;> exact ⟨rfl, rfl, rfl, rfl, rfl⟩
  · exact ⟨rfl, rfl, rfl, rfl, rfl⟩

end Server

/-- A directory whose state file was written for a state word. -/
def Tells (tools : Tools) (state : String) (folder : Option Folder) : Prop :=
  ∃ env, folder = some
    ⟨env, some (.holds (.obj [("state", .str state), ("pid", .int tools.pid)]))⟩

theorem Phase.busy_none {phase : Phase} (free : phase.unsaved = none) :
    phase.busy = none := by
  cases phase <;> simp_all [Phase.busy, Phase.unsaved]

theorem Phase.unsaved_of_busy {phase : Phase} {run : Nat} (here : phase.busy = some run) :
    phase.unsaved = some run := by
  cases phase <;> simp_all [Phase.busy, Phase.unsaved]

/-- A step that moves no install between its stages and changes no state word
and no printed password: a directory it writes tells the word of the shown run
or of a run whose end state is to be saved. -/
structure Quiet (tools : Tools) (before after : Server) : Prop where
  count : after.count = before.count
  shown : after.shown = before.shown
  account : after.account = before.account
  inventory : ∀ run, (after.runs run).inventory = (before.runs run).inventory
  state : ∀ run, (after.runs run).state = (before.runs run).state
  keyset : ∀ run, (after.runs run).keyset = (before.runs run).keyset
  busy : ∀ thread, (after.phase thread).busy = (before.phase thread).busy
  unsaved : ∀ thread, (after.phase thread).unsaved = (before.phase thread).unsaved
  tail : ∀ thread run, (after.phase thread).tail = some run →
    (before.phase thread).tail = some run
  folders : ∀ inventory, after.folders inventory = before.folders inventory ∨
    ∃ run, (before.runs run).inventory = inventory ∧
      (before.shown = some run ∨ ∃ thread, (before.phase thread).unsaved = some run) ∧
      Tells tools (before.runs run).state (after.folders inventory)

namespace Quiet

theorem refl (server : Server) : Quiet tools server server where
  count := rfl
  shown := rfl
  account := rfl
  inventory _ := rfl
  state _ := rfl
  keyset _ := rfl
  busy _ := rfl
  unsaved _ := rfl
  tail _ _ here := here
  folders _ := .inl rfl

theorem trans {before between after : Server} (first : Quiet tools before between)
    (second : Quiet tools between after) : Quiet tools before after where
  count := second.count.trans first.count
  shown := second.shown.trans first.shown
  account := second.account.trans first.account
  inventory run := (second.inventory run).trans (first.inventory run)
  state run := (second.state run).trans (first.state run)
  keyset run := (second.keyset run).trans (first.keyset run)
  busy thread := (second.busy thread).trans (first.busy thread)
  unsaved thread := (second.unsaved thread).trans (first.unsaved thread)
  tail thread run here := first.tail thread run (second.tail thread run here)
  folders inventory := by
    rcases second.folders inventory with same | ⟨run, named, held, tells⟩
    · rw [same]
      exact first.folders inventory
    · simp only [first.inventory, first.shown, first.unsaved, first.state] at named held tells
      exact .inr ⟨run, named, held, tells⟩

theorem setRun (run : Nat) (change : Run → Run)
    (inventory : (change (server.runs run)).inventory = (server.runs run).inventory)
    (state : (change (server.runs run)).state = (server.runs run).state)
    (keyset : (change (server.runs run)).keyset = (server.runs run).keyset) :
    Quiet tools server (server.setRun run change) where
  count := rfl
  shown := rfl
  account := rfl
  inventory other := by
    by_cases same : other = run <;> simp [same, inventory]
  state other := by
    by_cases same : other = run <;> simp [same, state]
  keyset other := by
    by_cases same : other = run <;> simp [same, keyset]
  busy _ := rfl
  unsaved _ := rfl
  tail _ _ here := here
  folders _ := .inl rfl

theorem onShown (change : Run → Run)
    (inventory : ∀ run, (change run).inventory = run.inventory)
    (state : ∀ run, (change run).state = run.state)
    (keyset : ∀ run, (change run).keyset = run.keyset) :
    Quiet tools server (server.onShown change) := by
  unfold Server.onShown
  cases server.shown with
  | none => exact refl server
  | some run => exact setRun run change (inventory _) (state _) (keyset _)

theorem setPhase (thread : Nat) (phase : Phase)
    (busy : phase.busy = (server.phase thread).busy)
    (unsaved : phase.unsaved = (server.phase thread).unsaved)
    (tail : ∀ run, phase.tail = some run → (server.phase thread).tail = some run) :
    Quiet tools server (server.setPhase thread phase) where
  count := rfl
  shown := rfl
  account := rfl
  inventory _ := rfl
  state _ := rfl
  keyset _ := rfl
  busy other := by
    by_cases same : other = thread <;> simp [same, busy]
  unsaved other := by
    by_cases same : other = thread <;> simp [same, unsaved]
  tail other run here := by
    by_cases same : other = thread
    · subst same
      exact tail run (by simpa using here)
    · simpa [same] using here
  folders _ := .inl rfl

theorem store (run : Nat)
    (held : server.shown = some run ∨ ∃ thread, (server.phase thread).unsaved = some run) :
    Quiet tools server (server.store tools run) where
  count := rfl
  shown := rfl
  account := rfl
  inventory _ := rfl
  state _ := rfl
  keyset _ := rfl
  busy _ := rfl
  unsaved _ := rfl
  tail _ _ here := here
  folders inventory := by
    by_cases named : inventory = (server.runs run).inventory
    · subst named
      have written : (server.store tools run).folders (server.runs run).inventory =
          some ((server.runs run).save tools (server.folders (server.runs run).inventory)) := by
        simp [Server.store]
      exact .inr ⟨run, rfl, held, _, written⟩
    · exact .inl (by simp [Server.store, named])

/-- A thread that holds no install moves to a phase that holds none. -/
theorem idle (thread : Nat) (phase : Phase)
    (before : (server.phase thread).unsaved = none) (after : phase.unsaved = none)
    (tail : phase.tail = none) : Quiet tools server (server.setPhase thread phase) :=
  setPhase thread phase
    ((Phase.busy_none after).trans (Phase.busy_none before).symm)
    (after.trans before.symm) fun run here => by rw [tail] at here; cases here

theorem arrive (thread : Nat) (form : List Answer) :
    Quiet tools server (server.arrive thread form) := by
  unfold Server.arrive
  cases here : server.phase thread with
  | waiting =>
    have free : (server.phase thread).unsaved = none := by rw [here]; rfl
    cases server.shown with
    | none => exact idle thread _ free rfl rfl
    | some run =>
      dsimp only
      split
      · exact idle thread _ free rfl rfl
      · exact idle thread _ free rfl rfl
  | _ => exact refl server

theorem answered (key value : String) (secret : Bool) (run : Run) :
    (run.answer key value secret).inventory = run.inventory ∧
      (run.answer key value secret).state = run.state ∧
      (run.answer key value secret).keyset = run.keyset := by
  unfold Run.answer
  split <;> exact ⟨rfl, rfl, rfl⟩

theorem appended (text : String) (run : Run) :
    (run.append text).inventory = run.inventory ∧
      (run.append text).state = run.state ∧
      (run.append text).keyset = run.keyset := by
  unfold Run.append
  exact ⟨rfl, rfl, rfl⟩

theorem record (thread : Nat) : Quiet tools server (server.record thread) := by
  unfold Server.record
  cases here : server.phase thread with
  | recording form =>
    have free : (server.phase thread).unsaved = none := by rw [here]; rfl
    cases form with
    | nil => exact idle thread _ free rfl rfl
    | cons answer rest =>
      have noted : Quiet tools server (server.onShown fun run =>
          run.answer answer.key answer.value answer.secret) :=
        onShown _ (fun run => (answered _ _ _ run).1) (fun run => (answered _ _ _ run).2.1)
          fun run => (answered _ _ _ run).2.2
      exact noted.trans (idle thread _ ((noted.unsaved thread).trans free) rfl rfl)
  | _ => exact refl server

theorem probe (thread : Nat) (problem : Option String) (checks : List Check) :
    Quiet tools server (server.probe thread problem checks) := by
  unfold Server.probe
  cases here : server.phase thread with
  | probing =>
    have free : (server.phase thread).unsaved = none := by rw [here]; rfl
    cases problem with
    | none => exact idle thread _ free rfl rfl
    | some problem =>
      have noted : Quiet tools server (server.onShown fun run =>
          run.append ("catena-installer: " ++ problem)) :=
        onShown _ (fun run => (appended _ run).1) (fun run => (appended _ run).2.1)
          fun run => (appended _ run).2.2
      exact noted.trans (idle thread _ ((noted.unsaved thread).trans free) rfl rfl)
  | _ => exact refl server

theorem keep (thread : Nat) : Quiet tools server (server.keep tools thread) := by
  unfold Server.keep
  cases here : server.phase thread with
  | saving checks =>
    have free : (server.phase thread).unsaved = none := by rw [here]; rfl
    have next : ∀ held : Server, held.phase = server.phase →
        Quiet tools held (held.setPhase thread (if blocked checks then .finished else .starting)) := by
      intro held same
      split
      · exact idle thread _ (by rw [same]; exact free) rfl rfl
      · exact idle thread _ (by rw [same]; exact free) rfl rfl
    cases shown : server.shown with
    | none => exact next server rfl
    | some run => exact (store run (.inl shown)).trans (next _ rfl)
  | _ => exact refl server

theorem advance (thread : Nat) : Quiet tools server (server.advance tools thread) := by
  unfold Server.advance
  cases here : server.phase thread with
  | clearing run =>
    have cleared : Quiet tools server (server.setRun run fun run => { run with log := [] }) :=
      setRun run _ rfl rfl rfl
    exact cleared.trans (setPhase thread _ (by simp [here, Phase.busy])
      (by simp [here, Phase.unsaved]) (by simp [Phase.tail]))
  | storing run =>
    have saved : Quiet tools server (server.store tools run) :=
      store run (.inr ⟨thread, by rw [here]; rfl⟩)
    exact saved.trans (setPhase thread _ (by simp [here, Phase.busy])
      (by simp [here, Phase.unsaved]) (by simp [Phase.tail]))
  | spawning run =>
    exact setPhase thread _ (by simp [here, Phase.busy])
      (by simp [here, Phase.unsaved]) (by simp [Phase.tail])
  | _ => exact refl server

theorem line (thread : Nat) (text : String) : Quiet tools server (server.line thread text) := by
  unfold Server.line
  cases server.phase thread with
  | installing run =>
    exact setRun run _ (appended _ _).1 (appended _ _).2.1 (appended _ _).2.2
  | _ => exact refl server

theorem opened (run : Run) (problem : Option String) :
    (Server.openForward run problem).inventory = run.inventory ∧
      (Server.openForward run problem).state = run.state ∧
      (Server.openForward run problem).keyset = run.keyset := by
  unfold Server.openForward
  split
  · exact ⟨rfl, rfl, rfl⟩
  · cases problem with
    | none => exact ⟨rfl, rfl, rfl⟩
    | some problem => exact appended _ run

theorem connect (thread : Nat) (problem : Option String) :
    Quiet tools server (server.connect thread problem) := by
  unfold Server.connect
  cases here : server.phase thread with
  | connecting run =>
    have forwarded : Quiet tools server
        (server.setRun run fun run => Server.openForward run problem) :=
      setRun run _ (opened _ problem).1 (opened _ problem).2.1 (opened _ problem).2.2
    exact forwarded.trans (idle thread _ (by simp [here, Phase.unsaved]) rfl rfl)
  | _ => exact refl server

theorem knock (problem : Option String) :
    Quiet tools server (server.onShown fun run => Server.openForward run problem) :=
  onShown _ (fun run => (opened run problem).1) (fun run => (opened run problem).2.1)
    fun run => (opened run problem).2.2

theorem die (thread : Nat) (free : (server.phase thread).unsaved = none) :
    Quiet tools server (server.die thread) := by
  unfold Server.die
  have ends : Quiet tools server (server.setPhase thread .finished) := idle thread _ free rfl rfl
  cases here : server.phase thread with
  | clearing run | storing run | spawning run | installing run =>
    rw [here] at free
    cases free
  | _ => exact ends

end Quiet

/-- Installs hold the state word of their run object as a lock. -/
structure Locked (server : Server) : Prop where
  shown : ∀ run, server.shown = some run → run < server.count
  made : ∀ thread run, (server.phase thread).busy = some run → run < server.count
  word : ∀ thread run, (server.phase thread).busy = some run →
    (server.runs run).state = stateInstalling
  one : ∀ first second run, (server.phase first).busy = some run →
    (server.phase second).busy = some run → first = second

namespace Locked

theorem begun (begun : server.Begun) : Locked server where
  shown := begun.shown
  made thread run here := by rw [begun.phase] at here; cases here
  word thread run here := by rw [begun.phase] at here; cases here
  one first second run here := by rw [begun.phase] at here; cases here

/-- A step that keeps the state words of installs and puts no thread on one. -/
theorem calm {before after : Server} (locked : Locked before)
    (shown : ∀ run, after.shown = some run → run < after.count)
    (count : before.count ≤ after.count)
    (busy : ∀ thread run, (after.phase thread).busy = some run →
      (before.phase thread).busy = some run)
    (state : ∀ thread run, (after.phase thread).busy = some run →
      (after.runs run).state = (before.runs run).state) : Locked after where
  shown := shown
  made thread run here := Nat.lt_of_lt_of_le (locked.made thread run (busy thread run here)) count
  word thread run here :=
    (state thread run here).trans (locked.word thread run (busy thread run here))
  one first second run firstHere secondHere :=
    locked.one first second run (busy first run firstHere) (busy second run secondHere)

theorem quiet {before after : Server} (locked : Locked before)
    (quiet : Quiet tools before after) : Locked after :=
  locked.calm
    (fun run here => by
      rw [quiet.count]
      exact locked.shown run (quiet.shown ▸ here))
    (Nat.le_of_eq quiet.count.symm)
    (fun thread run here => quiet.busy thread ▸ here)
    fun _ run _ => quiet.state run

theorem openInventory (locked : Locked server) (processes : Processes)
    (secretKeys : List String) (inventory : String) :
    Locked (server.openInventory tools processes secretKeys inventory) := by
  unfold Server.openInventory
  split
  · exact locked
  · rename_i opened loads
    have loaded : Locked
        { server with
          runs := Function.update server.runs server.count opened
          count := server.count + 1
          shown := some server.count } :=
      locked.calm (fun run here => by cases here; exact Nat.lt_succ_self _)
        (Nat.le_succ _) (fun _ _ here => here) fun thread run here => by
          have older := locked.made thread run here
          simp [Nat.ne_of_lt older]
    dsimp only
    split
    · exact loaded
    · exact loaded.calm (fun run here => loaded.shown run here) (Nat.le_refl _)
        (fun _ _ here => here) fun _ _ _ => rfl

theorem startInstall (locked : Locked server) (thread : Nat)
    (fresh : Fresh server (.startInstall thread)) : Locked (server.startInstall thread) := by
  unfold Server.startInstall
  split
  · rename_i run starting shown
    have word := fresh starting run shown
    have free : ∀ other, (server.phase other).busy ≠ some run := by
      intro other here
      exact word (locked.word other run here)
    have busy : ∀ other held, ((((server.setRun run fun run =>
        { run with state := stateInstalling }).enter run thread).setPhase thread
          (.clearing run)).phase other).busy = some held →
        other = thread ∧ held = run ∨
          other ≠ thread ∧ held ≠ run ∧ (server.phase other).busy = some held := by
      intro other held here
      by_cases same : other = thread
      · exact .inl ⟨same, by simpa [same, Phase.busy, eq_comm] using here⟩
      · have older : (server.phase other).busy = some held := by simpa [same] using here
        exact .inr ⟨same, fun clash => free other (clash ▸ older), older⟩
    exact
      { shown := locked.shown
        made := by
          intro other held here
          rcases busy other held here with ⟨_, rfl⟩ | ⟨_, _, older⟩
          · exact locked.shown held shown
          · exact locked.made other held older
        word := by
          intro other held here
          rcases busy other held here with ⟨_, rfl⟩ | ⟨_, apart, older⟩
          · simp
          · simpa [apart] using locked.word other held older
        one := by
          intro first second held firstHere secondHere
          rcases busy first held firstHere with ⟨rfl, rfl⟩ | ⟨_, apart, older⟩
          · rcases busy second held secondHere with ⟨rfl, _⟩ | ⟨_, apart, _⟩
            · rfl
            · exact absurd rfl apart
          · rcases busy second held secondHere with ⟨_, rfl⟩ | ⟨_, _, later⟩
            · exact absurd rfl apart
            · exact locked.one first second held older later }
  · exact locked

theorem keyset (locked : Locked server) (thread : Nat) (printed : PyDict String String) :
    Locked (server.keyset thread printed) := by
  unfold Server.keyset
  split
  · rename_i run here
    exact locked.calm (by simpa using locked.shown) (by simp) (by simp)
      fun other held _ => by
        by_cases same : held = run <;> simp [same]
  · exact locked

theorem finish (locked : Locked server) (thread : Nat) (status : Int) :
    Locked (server.finish thread status) := by
  unfold Server.finish
  split
  · rename_i run here
    have mine : (server.phase thread).busy = some run := by rw [here]; rfl
    have older : ∀ other held, ((server.setPhase thread (.ended run status)).phase other).busy =
        some held → other ≠ thread ∧ (server.phase other).busy = some held := by
      intro other held busy
      by_cases same : other = thread
      · simp [same, Phase.busy] at busy
      · exact ⟨same, by simpa [same] using busy⟩
    exact locked.calm (by simpa using locked.shown) (by simp)
      (fun other held busy => (older other held (by simpa using busy)).2)
      fun other held busy => by
        obtain ⟨apart, stays⟩ := older other held (by simpa using busy)
        have elsewhere : held ≠ run := by
          rintro rfl
          exact apart (locked.one other thread held stays mine)
        simp [elsewhere]
  · exact locked

theorem leave (locked : Locked server) (thread : Nat) (phase : Phase)
    (free : phase.busy = none) : Locked (server.setPhase thread phase) :=
  locked.calm locked.shown (Nat.le_refl _)
    (fun other run here => by
      by_cases same : other = thread
      · simp [same, free] at here
      · simpa [same] using here)
    fun _ _ _ => rfl

theorem settle (locked : Locked server) (thread : Nat) :
    Locked (server.settle tools thread) := by
  unfold Server.settle
  split
  · rename_i run status here
    have saved : Locked (server.store tools run) :=
      locked.calm locked.shown (Nat.le_refl _) (fun _ _ here => here) fun _ _ _ => rfl
    split
    · exact saved.leave thread _ rfl
    · exact saved.leave thread _ rfl
  · exact locked

theorem die (locked : Locked server) (thread : Nat) : Locked (server.die thread) := by
  unfold Server.die
  have told : ∀ run change, Locked (server.tell run thread change) := by
    intro run change
    exact locked.calm (by simpa using locked.shown) (by simp) (by simp) (by simp)
  split
  · exact (told _ _).leave thread _ rfl
  · exact (told _ _).leave thread _ rfl
  · exact (told _ _).leave thread _ rfl
  · exact (told _ _).leave thread _ rfl
  · exact locked.leave thread _ rfl

theorem step (taken : Step) (locked : Locked server) (fresh : Fresh server taken) :
    Locked (server.step tools taken) := by
  cases taken with
  | openInventory processes secretKeys inventory =>
    exact locked.openInventory processes secretKeys inventory
  | startInstall thread => exact locked.startInstall thread fresh
  | keyset thread printed => exact locked.keyset thread printed
  | finish thread status => exact locked.finish thread status
  | settle thread => exact locked.settle thread
  | die thread => exact locked.die thread
  | arrive thread form =>
    exact locked.quiet (.arrive thread form : Quiet tools server _)
  | record thread => exact locked.quiet (.record thread : Quiet tools server _)
  | probe thread problem checks =>
    exact locked.quiet (.probe thread problem checks : Quiet tools server _)
  | keep thread => exact locked.quiet (.keep thread : Quiet tools server _)
  | advance thread => exact locked.quiet (.advance thread : Quiet tools server _)
  | line thread text => exact locked.quiet (.line thread text : Quiet tools server _)
  | connect thread problem =>
    exact locked.quiet (.connect thread problem : Quiet tools server _)
  | knock problem => exact locked.quiet (.knock problem : Quiet tools server _)

end Locked

theorem Phase.busy_of_active {phase : Phase} {run : Nat} (here : phase.active = some run) :
    phase.busy = some run := by
  cases phase <;> simp_all [Phase.busy, Phase.active]

/-- A thread starts or runs the install of a run object, or is past it. -/
def Phase.Holds (phase : Phase) (run : Nat) : Prop :=
  phase.busy = some run ∨ phase.tail = some run

theorem Quiet.holds {before after : Server} (quiet : Quiet tools before after)
    {thread run : Nat} (here : (after.phase thread).Holds run) :
    (before.phase thread).Holds run :=
  here.imp (fun busy => quiet.busy thread ▸ busy) (quiet.tail thread run)

theorem holds_setPhase {thread other run : Nat} {phase : Phase}
    (here : ((server.setPhase thread phase).phase other).Holds run)
    (within : ∀ run, phase.Holds run → (server.phase thread).Holds run) :
    (server.phase other).Holds run := by
  by_cases same : other = thread
  · subst same
    exact within run (by simpa using here)
  · simpa [same] using here

/-- Only a start gives a thread a run object. -/
theorem holds_step {taken : Step} (starts : ∀ thread, taken ≠ .startInstall thread)
    {thread run : Nat} (here : ((server.step tools taken).phase thread).Holds run) :
    (server.phase thread).Holds run := by
  cases taken with
  | startInstall thread => exact absurd rfl (starts thread)
  | openInventory processes secretKeys inventory =>
    simp only [Server.step, Server.openInventory] at here
    split at here
    · exact here
    · split at here <;> exact here
  | keyset other printed =>
    simp only [Server.step, Server.keyset] at here
    split at here
    · simpa using here
    · exact here
  | finish other status =>
    simp only [Server.step, Server.finish] at here
    split at here
    · rename_i held installing
      refine holds_setPhase (by simpa using here) fun run inside => ?_
      rw [installing]
      rcases inside with inside | inside <;> cases inside
      exact .inl rfl
    · exact here
  | settle other =>
    simp only [Server.step, Server.settle] at here
    split at here
    · rename_i held status ended
      refine holds_setPhase (by simpa using here) fun run inside => ?_
      rw [ended]
      split at inside
      · rcases inside with inside | inside <;> cases inside
        exact .inr rfl
      · rcases inside with inside | inside <;> cases inside
    · exact here
  | die other =>
    have finished : ∀ phase, (Phase.finished).Holds phase → (server.phase other).Holds phase := by
      intro phase inside
      rcases inside with inside | inside <;> cases inside
    simp only [Server.step, Server.die] at here
    split at here <;> exact holds_setPhase (by simpa using here) finished
  | arrive other form => exact (Quiet.arrive other form : Quiet tools server _).holds here
  | record other => exact (Quiet.record other : Quiet tools server _).holds here
  | probe other problem checks =>
    exact (Quiet.probe other problem checks : Quiet tools server _).holds here
  | keep other => exact (Quiet.keep other : Quiet tools server _).holds here
  | advance other => exact (Quiet.advance other : Quiet tools server _).holds here
  | line other text => exact (Quiet.line other text : Quiet tools server _).holds here
  | connect other problem => exact (Quiet.connect other problem : Quiet tools server _).holds here
  | knock problem => exact (Quiet.knock problem : Quiet tools server _).holds here

/-- One thread to a run object, from the start of its install to its end. -/
def Alone (server : Server) : Prop :=
  ∀ first second run, (server.phase first).Holds run →
    (server.phase second).Holds run → first = second

theorem Alone.startInstall (alone : Alone server) (locked : Locked server) (thread : Nat)
    (fresh : Fresh server (.startInstall thread)) (clear : Clear server (.startInstall thread)) :
    Alone (server.startInstall thread) := by
  unfold Server.startInstall
  split
  · rename_i run starting shown
    have free : ∀ other, ¬ (server.phase other).Holds run := by
      rintro other (busy | tail)
      · exact fresh starting run shown (locked.word other run busy)
      · exact clear starting run shown other tail
    have holds : ∀ other held, ((((server.setRun run fun run =>
        { run with state := stateInstalling }).enter run thread).setPhase thread
          (.clearing run)).phase other).Holds held →
        other = thread ∧ held = run ∨ held ≠ run ∧ (server.phase other).Holds held := by
      intro other held here
      by_cases same : other = thread
      · rcases here with here | here <;> simp [same, Phase.busy, Phase.tail] at here
        exact .inl ⟨same, here.symm⟩
      · have older : (server.phase other).Holds held := by simpa [same] using here
        exact .inr ⟨fun clash => free other (clash ▸ older), older⟩
    intro first second held firstHere secondHere
    rcases holds first held firstHere with ⟨rfl, rfl⟩ | ⟨apart, older⟩
    · rcases holds second held secondHere with ⟨rfl, _⟩ | ⟨apart, _⟩
      · rfl
      · exact absurd rfl apart
    · rcases holds second held secondHere with ⟨_, rfl⟩ | ⟨_, later⟩
      · exact absurd rfl apart
      · exact alone first second held older later
  · exact alone

theorem Alone.step (taken : Step) (alone : Alone server) (locked : Locked server)
    (fresh : Fresh server taken) (clear : Clear server taken) :
    Alone (server.step tools taken) := by
  by_cases starts : ∃ thread, taken = .startInstall thread
  · obtain ⟨thread, rfl⟩ := starts
    exact alone.startInstall locked thread fresh clear
  · have other : ∀ thread, taken ≠ .startInstall thread := fun thread same => starts ⟨thread, same⟩
    intro first second run firstHere secondHere
    exact alone first second run (holds_step other firstHere) (holds_step other secondHere)

/-- Where every start finds the run's state word free, no two threads run the
install of one run; where it also finds no thread past its install, no two
install threads of one run are alive. -/
theorem installs_one_at_a_time {steps : List Step} (begun : server.Begun)
    (fresh : Throughout (Server.step tools) Fresh server steps) :
    OneInstall (run (Server.step tools) server steps) ∧
      (Throughout (Server.step tools) Clear server steps →
        OneThread (run (Server.step tools) server steps)) := by
  constructor
  · have locked : Locked (run (Server.step tools) server steps) :=
      invariant (fun _ taken before allowed => before.step taken allowed) (.begun begun) fresh
    intro first second held firstHere secondHere
    exact locked.one first second held (Phase.busy_of_active firstHere)
      (Phase.busy_of_active secondHere)
  · intro clear
    have both : Locked (run (Server.step tools) server steps) ∧
        Alone (run (Server.step tools) server steps) :=
      @invariant _ _ (Server.step tools)
        (fun server taken => Fresh server taken ∧ Clear server taken) server steps
        (fun server => Locked server ∧ Alone server)
        (fun _ taken before allowed =>
          ⟨before.1.step taken allowed.1, before.2.step taken before.1 allowed.1 allowed.2⟩)
        ⟨.begun begun, fun first second run here => by
          rw [begun.phase] at here
          rcases here with here | here <;> cases here⟩
        (throughout_and fresh clear)
    intro first second held firstHere secondHere
    exact both.2 first second held (firstHere.imp_left Phase.busy_of_active)
      (secondHere.imp_left Phase.busy_of_active)

def sampleTools : Tools where
  writeEnv _ _ := ""
  readExistingEnv _ := []
  py := .unused
  pid := 7

/-- A process that shows one inventory, answered before. -/
def sampleServer : Server where
  runs _ := { inventory := "newco", secretKeys := [] }
  count := 1
  shown := some 0
  folders _ := some ⟨some "", none⟩
  phase _ := .waiting
  account _ := none

theorem sampleServer_begun : sampleServer.Begun where
  phase _ := rfl
  account _ := rfl
  shown run here := by cases here; decide
  keyset _ _ := rfl

/-- A submission from its check to the start of the install. -/
def submit (thread : Nat) : List Step :=
  [.arrive thread [], .record thread, .probe thread none [], .keep thread]

def launch (thread : Nat) : List Step :=
  [.startInstall thread, .advance thread, .advance thread, .advance thread]

/-- An install, and a submission while it runs. -/
theorem second_submission_waits :
    OneInstall (run (Server.step sampleTools) sampleServer
      (submit 0 ++ launch 0 ++ submit 1 ++ launch 1)) :=
  (installs_one_at_a_time sampleServer_begun (by
    refine ⟨trivial, trivial, trivial, trivial, ?_, trivial, trivial, trivial, trivial,
      trivial, trivial, trivial, ?_, trivial, trivial, trivial, trivial⟩
    · intro _ run shown
      cases shown
      decide
    · intro starting
      exact absurd starting (by decide))).1

/-- A double click: both submissions pass the check, and both start. -/
theorem double_click_installs_twice :
    ¬ ∀ (tools : Tools) (server : Server) (steps : List Step), server.Begun →
      OneInstall (run (Server.step tools) server steps) := by
  intro once
  have both := once sampleTools sampleServer
    (submit 0 ++ submit 1 ++ launch 0 ++ launch 1) sampleServer_begun 0 1 0
    (by decide) (by decide)
  cases both

end Installer

end Catena

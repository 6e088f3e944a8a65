import Catena.InstallerOnce

/-!
# The page shows the install that is running

An open replaces the shown run object by one loaded from disk, and an install
thread keeps writing to the object it was started with.  The page follows the
install as long as no inventory is opened again before its install has saved
its end, or after it printed passwords.
-/

namespace Catena

namespace Installer

open Runs

variable {tools : Tools} {server : Server}

/-- What the page reads is what the inventory's latest install came to, and every keyset
printed for the inventory. -/
def Shows (server : Server) : Prop :=
  ∀ run account, server.shown = some run →
    server.account (server.runs run).inventory = some account →
    ∀ texts, (progress texts (server.runs run)).state = account.state ∧
      (account.printed = [] → (progress texts (server.runs run)).keyset = keysetShown texts []) ∧
      ∀ printed ∈ account.printed, (server.runs run).keyset = printed ∧
        (progress texts (server.runs run)).keyset = keysetShown texts printed

/-- An inventory is opened before its first install in this process, or once
its install has saved its end and none printed passwords; an install prints no other
keyset than was printed for its inventory before; a start passes the check of
`do_POST`; no exception ends an install thread before it has saved its end. -/
def Orderly (server : Server) : Step → Prop
  | .openInventory _ _ inventory =>
    ∀ account, server.account inventory = some account →
      (∀ printed ∈ account.printed, printed = []) ∧
        ∀ thread, (server.phase thread).unsaved ≠ some account.run
  | .keyset thread printed =>
    ∀ run account, server.phase thread = .installing run →
      server.account (server.runs run).inventory = some account →
      ∀ earlier ∈ account.printed, earlier = printed
  | .die thread => (server.phase thread).unsaved = none
  | taken => Fresh server taken

/-- Every account is that of one run object, which the shown object agrees
with and whose end state is on disk once no thread has it to save. -/
structure Told (tools : Tools) (server : Server) : Prop where
  shown : ∀ run, server.shown = some run → run < server.count
  made : ∀ thread run, (server.phase thread).unsaved = some run → run < server.count
  run : ∀ inventory account, server.account inventory = some account →
    account.run < server.count ∧ (server.runs account.run).inventory = inventory ∧
      (server.runs account.run).state = account.state ∧
      (server.runs account.run).keyset = account.keyset
  word : ∀ inventory account, server.account inventory = some account →
    account.state = stateDone ∨ account.state = stateFailed ∨
      (server.phase account.thread).busy = some account.run
  busy : ∀ thread run, (server.phase thread).busy = some run →
    ∃ account, server.account (server.runs run).inventory = some account ∧
      account.thread = thread ∧ account.run = run ∧ account.state = stateInstalling
  unsaved : ∀ thread run, (server.phase thread).unsaved = some run →
    ∃ account, server.account (server.runs run).inventory = some account ∧
      account.run = run
  agrees : ∀ run account, server.shown = some run →
    server.account (server.runs run).inventory = some account →
    (server.runs run).state = account.state ∧ (server.runs run).keyset = account.keyset ∧
      ∀ thread, (server.phase thread).unsaved = some account.run → account.run = run
  disk : ∀ inventory account, server.account inventory = some account →
    (∀ thread, (server.phase thread).unsaved ≠ some account.run) →
    Tells tools account.state (server.folders inventory)
  untold : ∀ run, run < server.count →
    server.account (server.runs run).inventory = none → (server.runs run).keyset = []
  once : ∀ inventory account, server.account inventory = some account →
    ∀ printed ∈ account.printed, printed = account.keyset

namespace Told

theorem begun (begun : server.Begun) : Told tools server where
  shown := begun.shown
  made thread run here := by rw [begun.phase] at here; cases here
  run inventory account here := by rw [begun.account] at here; cases here
  word inventory account here := by rw [begun.account] at here; cases here
  busy thread run here := by rw [begun.phase] at here; cases here
  unsaved thread run here := by rw [begun.phase] at here; cases here
  agrees run account _ here := by rw [begun.account] at here; cases here
  disk inventory account here := by rw [begun.account] at here; cases here
  untold run within _ := begun.keyset run within
  once inventory account here := by rw [begun.account] at here; cases here

/-- The state word of the run object a directory is written from is the
account's. -/
theorem written (told : Told tools server) {run : Nat} {account : Account}
    (held : server.shown = some run ∨ ∃ thread, (server.phase thread).unsaved = some run)
    (here : server.account (server.runs run).inventory = some account) :
    (server.runs run).state = account.state := by
  rcases held with shown | ⟨thread, unsaved⟩
  · exact (told.agrees run account shown here).1
  · obtain ⟨found, same, rfl⟩ := told.unsaved thread run unsaved
    obtain rfl : found = account := Option.some.inj (same.symm.trans here)
    exact (told.run _ found same).2.2.1

theorem quiet {after : Server} (told : Told tools server) (quiet : Quiet tools server after) :
    Told tools after where
  shown run here := by
    rw [quiet.count]
    exact told.shown run (quiet.shown ▸ here)
  made thread run here := by
    rw [quiet.count]
    exact told.made thread run (quiet.unsaved thread ▸ here)
  run inventory account here := by
    rw [quiet.count, quiet.inventory, quiet.state, quiet.keyset]
    exact told.run inventory account (quiet.account ▸ here)
  word inventory account here := by
    rw [quiet.busy]
    exact told.word inventory account (quiet.account ▸ here)
  busy thread run here := by
    rw [quiet.inventory, quiet.account]
    exact told.busy thread run (quiet.busy thread ▸ here)
  unsaved thread run here := by
    rw [quiet.inventory, quiet.account]
    exact told.unsaved thread run (quiet.unsaved thread ▸ here)
  agrees run account shown here := by
    rw [quiet.inventory, quiet.account] at here
    simp only [quiet.state, quiet.keyset, quiet.unsaved]
    exact told.agrees run account (quiet.shown ▸ shown) here
  disk inventory account here free := by
    rw [quiet.account] at here
    simp only [quiet.unsaved] at free
    rcases quiet.folders inventory with same | ⟨run, named, held, tells⟩
    · rw [same]
      exact told.disk inventory account here free
    · subst named
      rw [← told.written held here]
      exact tells
  untold run within here := by
    rw [quiet.inventory, quiet.account] at here
    rw [quiet.keyset]
    exact told.untold run (quiet.count ▸ within) here
  once inventory account here := told.once inventory account (quiet.account ▸ here)

/-- The thread of an install writes to its run object what its account says. -/
theorem note {after : Server} (told : Told tools server) {thread run : Nat}
    {account : Account} (next : Phase) (noted : Account)
    (installing : server.phase thread = .installing run)
    (found : server.account (server.runs run).inventory = some account)
    (mine : account.thread = thread) (same : account.run = run)
    (count : after.count = server.count) (shown : after.shown = server.shown)
    (folders : after.folders = server.folders)
    (phase : ∀ other, after.phase other = if other = thread then next else server.phase other)
    (inventory : ∀ other, (after.runs other).inventory = (server.runs other).inventory)
    (others : ∀ other, other ≠ run → (after.runs other).state = (server.runs other).state ∧
      (after.runs other).keyset = (server.runs other).keyset)
    (state : (after.runs run).state = noted.state)
    (keyset : (after.runs run).keyset = noted.keyset)
    (accounts : after.account =
      Function.update server.account (server.runs run).inventory (some noted))
    (notedThread : noted.thread = thread) (notedRun : noted.run = run)
    (unsaved : next.unsaved = some run)
    (once : ∀ printed ∈ noted.printed, printed = noted.keyset)
    (stage : next.busy = some run ∧ noted.state = stateInstalling ∨
      next.busy = none ∧ (noted.state = stateDone ∨ noted.state = stateFailed)) :
    Told tools after := by
  have unsavedSame : ∀ other, (after.phase other).unsaved = (server.phase other).unsaved := by
    intro other
    rw [phase]
    split
    · rename_i here
      rw [here, installing, unsaved]
      rfl
    · rfl
  have accountHere : after.account (server.runs run).inventory = some noted := by
    simp [accounts]
  have accountThere : ∀ name, name ≠ (server.runs run).inventory →
      after.account name = server.account name := by
    intro name apart
    simp [accounts, apart]
  have busyThere : ∀ other held, other ≠ thread → (server.phase other).busy = some held →
      (server.runs held).inventory ≠ (server.runs run).inventory := by
    intro other held apart busy clash
    obtain ⟨owner, owned, owns, _⟩ := told.busy other held busy
    rw [clash, found] at owned
    exact apart (owns.symm.trans ((Option.some.inj owned) ▸ mine))
  exact
    { shown := by rw [count, shown]; exact told.shown
      made := by
        intro other held here
        rw [count]
        exact told.made other held (unsavedSame other ▸ here)
      run := by
        intro name owner here
        rw [count]
        by_cases named : name = (server.runs run).inventory
        · subst named
          obtain rfl := Option.some.inj (accountHere.symm.trans here)
          obtain ⟨within, _⟩ := told.run _ account found
          exact ⟨by rw [notedRun, ← same]; exact within, by rw [notedRun, inventory],
            by rw [notedRun]; exact state, by rw [notedRun]; exact keyset⟩
        · rw [accountThere name named] at here
          obtain ⟨within, owns, word, printed⟩ := told.run name owner here
          have apart : owner.run ≠ run := fun clash => named (by rw [← owns, clash])
          exact ⟨within, (inventory _).trans owns, (others _ apart).1.trans word,
            (others _ apart).2.trans printed⟩
      word := by
        intro name owner here
        by_cases named : name = (server.runs run).inventory
        · subst named
          obtain rfl := Option.some.inj (accountHere.symm.trans here)
          rcases stage with ⟨busy, _⟩ | ⟨_, ended | ended⟩
          · exact .inr (.inr (by rw [notedThread, notedRun, phase, if_pos rfl]; exact busy))
          · exact .inl ended
          · exact .inr (.inl ended)
        · rw [accountThere name named] at here
          rcases told.word name owner here with ended | ended | busy
          · exact .inl ended
          · exact .inr (.inl ended)
          · have apart : owner.thread ≠ thread := by
              intro clash
              rw [clash, installing] at busy
              obtain rfl := Option.some.inj busy
              exact named (told.run name owner here).2.1.symm
            exact .inr (.inr (by rw [phase, if_neg apart]; exact busy))
      busy := by
        intro other held here
        rw [inventory]
        rw [phase] at here
        split at here
        · rename_i sameThread
          rcases stage with ⟨busy, word⟩ | ⟨busy, _⟩
          · obtain rfl := Option.some.inj (busy.symm.trans here)
            exact ⟨noted, accountHere, by rw [notedThread, sameThread], notedRun, word⟩
          · rw [busy] at here
            cases here
        · rename_i apart
          rw [accountThere _ (busyThere other held apart here)]
          exact told.busy other held here
      unsaved := by
        intro other held here
        rw [inventory]
        rw [unsavedSame] at here
        obtain ⟨owner, owned, owns⟩ := told.unsaved other held here
        by_cases named : (server.runs held).inventory = (server.runs run).inventory
        · rw [named, found] at owned
          obtain rfl := Option.some.inj owned
          rw [named]
          exact ⟨noted, accountHere, by rw [notedRun, ← same, owns]⟩
        · rw [accountThere _ named]
          exact ⟨owner, owned, owns⟩
      agrees := by
        intro visible owner here owned
        rw [shown] at here
        rw [inventory] at owned
        by_cases named : (server.runs visible).inventory = (server.runs run).inventory
        · rw [named] at owned
          obtain rfl := Option.some.inj (accountHere.symm.trans owned)
          have onRun : account.run = visible :=
            (told.agrees visible account here (by rw [named]; exact found)).2.2 thread
              (by rw [installing, same]; rfl)
          obtain rfl : run = visible := same.symm.trans onRun
          exact ⟨state, keyset, fun _ _ => notedRun⟩
        · rw [accountThere _ named] at owned
          obtain ⟨word, printed, holds⟩ := told.agrees visible owner here owned
          have apart : visible ≠ run := fun clash => named (by rw [clash])
          exact ⟨(others _ apart).1.trans word, (others _ apart).2.trans printed,
            fun other unsaved => holds other (unsavedSame other ▸ unsaved)⟩
      disk := by
        intro name owner here free
        by_cases named : name = (server.runs run).inventory
        · subst named
          obtain rfl := Option.some.inj (accountHere.symm.trans here)
          exact absurd (by rw [unsavedSame, installing, notedRun]; rfl) (free thread)
        · rw [accountThere name named] at here
          rw [folders]
          exact told.disk name owner here fun other => unsavedSame other ▸ free other
      untold := by
        intro other within here
        rw [inventory] at here
        by_cases named : (server.runs other).inventory = (server.runs run).inventory
        · rw [named, accountHere] at here
          cases here
        · have apart : other ≠ run := fun clash => named (by rw [clash])
          rw [accountThere _ named] at here
          rw [(others _ apart).2]
          exact told.untold other (count ▸ within) here
      once := by
        intro name owner here
        by_cases named : name = (server.runs run).inventory
        · subst named
          obtain rfl := Option.some.inj (accountHere.symm.trans here)
          exact once
        · rw [accountThere name named] at here
          exact told.once name owner here }

/-- What an install tells of its own run object is recorded. -/
theorem tells {thread run : Nat} {account : Account} {write : Run → Run}
    (change : Account → Account)
    (found : server.account (server.runs run).inventory = some account)
    (mine : account.thread = thread)
    (inventory : (write (server.runs run)).inventory = (server.runs run).inventory) :
    ((server.setRun run write).tell run thread change).account =
      Function.update server.account (server.runs run).inventory (some (change account)) := by
  unfold Server.tell
  simp only [Server.setRun_runs, if_true, inventory, Server.setRun_frame, found, mine]

theorem keyset (told : Told tools server) (thread : Nat) (printed : PyDict String String)
    (orderly : Orderly server (.keyset thread printed)) :
    Told tools (server.keyset thread printed) := by
  unfold Server.keyset
  split
  · rename_i run here
    obtain ⟨account, found, mine, same, word⟩ := told.busy thread run (by rw [here]; rfl)
    have once : ∀ shown ∈ (account.print printed).printed,
        shown = (account.print printed).keyset := by
      intro shown member
      rw [Account.print_keyset]
      rcases List.mem_append.mp member with earlier | last
      · exact orderly run account here found shown earlier
      · exact List.mem_singleton.mp last
    exact told.note (.installing run) (account.print printed) here found mine same
      (by simp) (by simp) (by simp)
      (fun other => by
        by_cases clash : other = thread
        · simp [clash, here]
        · simp [clash])
      (fun other => by by_cases clash : other = run <;> simp [clash])
      (fun other apart => by simp [apart])
      (by simpa [same] using (told.run _ account found).2.2.1) (by simp)
      (tells (fun account => account.print printed) found mine rfl)
      mine same rfl once (.inl ⟨rfl, word⟩)
  · exact told

theorem endState_ended (status : Int) :
    Server.endState status = stateDone ∨ Server.endState status = stateFailed := by
  unfold Server.endState
  split
  · exact .inl rfl
  · exact .inr rfl

theorem finish (told : Told tools server) (thread : Nat) (status : Int) :
    Told tools (server.finish thread status) := by
  unfold Server.finish
  split
  · rename_i run here
    obtain ⟨account, found, mine, same, _⟩ := told.busy thread run (by rw [here]; rfl)
    exact told.note (.ended run status) { account with state := Server.endState status }
      here found mine same (by simp) (by simp) (by simp) (fun other => by simp)
      (fun other => by by_cases clash : other = run <;> simp [clash])
      (fun other apart => by simp [apart])
      (by simp) (by simpa [same, Account.keyset] using (told.run _ account found).2.2.2)
      (tells (fun account => { account with state := Server.endState status }) found mine rfl)
      mine same rfl (told.once _ account found) (.inr ⟨rfl, endState_ended status⟩)
  · exact told

/-- A start on the shown run object, which no other install of its inventory
is on. -/
theorem entered (told : Told tools server) {thread run : Nat}
    (starting : server.phase thread = .starting) (shown : server.shown = some run)
    (free : ∀ other held, (server.phase other).busy = some held →
      (server.runs held).inventory ≠ (server.runs run).inventory)
    {prior : List (PyDict String String)}
    (printed : ((server.account (server.runs run).inventory).map Account.printed).getD [] =
      prior)
    (last : (server.runs run).keyset = prior.getLast?.getD [])
    (once : ∀ keyset ∈ prior, keyset = prior.getLast?.getD []) :
    Told tools (((server.setRun run fun run => { run with state := stateInstalling }).enter
      run thread).setPhase thread (.clearing run)) := by
  generalize reached : ((server.setRun run fun run =>
    { run with state := stateInstalling }).enter run thread).setPhase thread
      (.clearing run) = after
  have phase : ∀ other, after.phase other =
      if other = thread then .clearing run else server.phase other := by
    intro other
    simp [← reached]
  have inventory : ∀ other, (after.runs other).inventory = (server.runs other).inventory := by
    intro other
    by_cases clash : other = run <;> simp [← reached, clash]
  have keyset : ∀ other, (after.runs other).keyset = (server.runs other).keyset := by
    intro other
    by_cases clash : other = run <;> simp [← reached, clash]
  have state : ∀ other, (after.runs other).state =
      if other = run then stateInstalling else (server.runs other).state := by
    intro other
    by_cases clash : other = run <;> simp [← reached, clash]
  have account : ∀ name, after.account name = if name = (server.runs run).inventory then
      some ⟨thread, run, stateInstalling, prior⟩
      else server.account name := by
    intro name
    simp [← reached, Server.enter, Function.update_apply, printed]
  have same : after.shown = some run ∧ after.count = server.count ∧
      after.folders = server.folders := by
    simp [← reached, shown]
  have apart : ∀ {held : Nat},
      (server.runs held).inventory ≠ (server.runs run).inventory → held ≠ run :=
    fun named clash => named (by rw [clash])
  exact
    { shown := by
        intro visible here
        rw [same.1] at here
        cases here
        rw [same.2.1]
        exact told.shown run shown
      made := by
        intro other held here
        rw [same.2.1]
        rw [phase] at here
        split at here
        · cases here
          exact told.shown run shown
        · exact told.made other held here
      run := by
        intro name owner here
        rw [account] at here
        rw [same.2.1, inventory, state, keyset]
        split at here
        · rename_i named
          cases here
          exact ⟨told.shown run shown, named.symm, by simp, last⟩
        · rename_i named
          obtain ⟨within, owns, rest⟩ := told.run name owner here
          rw [if_neg (apart (by rw [owns]; exact named))]
          exact ⟨within, owns, rest⟩
      word := by
        intro name owner here
        rw [account] at here
        rw [phase]
        split at here
        · cases here
          exact .inr (.inr (by rw [if_pos rfl]; rfl))
        · rcases told.word name owner here with ended | ended | busy
          · exact .inl ended
          · exact .inr (.inl ended)
          · have other : owner.thread ≠ thread := by
              intro clash
              rw [clash, starting] at busy
              cases busy
            exact .inr (.inr (by rw [if_neg other]; exact busy))
      busy := by
        intro other held here
        rw [inventory, account]
        rw [phase] at here
        split at here
        · rename_i clash
          cases here
          exact ⟨_, if_pos rfl, clash.symm, rfl, rfl⟩
        · rw [if_neg (free other held here)]
          exact told.busy other held here
      unsaved := by
        intro other held here
        rw [inventory, account]
        rw [phase] at here
        split at here
        · cases here
          exact ⟨_, if_pos rfl, rfl⟩
        · obtain ⟨owner, owned, owns⟩ := told.unsaved other held here
          split
          · rename_i named
            rw [named] at owned
            have onRun := (told.agrees run owner shown owned).2.2 other (owns ▸ here)
            exact ⟨_, rfl, onRun.symm.trans owns⟩
          · exact ⟨owner, owned, owns⟩
      agrees := by
        intro visible owner here owned
        rw [same.1] at here
        cases here
        rw [inventory, account, if_pos rfl] at owned
        cases owned
        exact ⟨by rw [state, if_pos rfl], (keyset run).trans last, fun _ _ => rfl⟩
      disk := by
        intro name owner here unheld
        rw [account] at here
        split at here
        · cases here
          exact absurd (by rw [phase, if_pos rfl]; rfl) (unheld thread)
        · rw [same.2.2]
          refine told.disk name owner here fun other held => unheld other ?_
          rw [phase, if_neg]
          · exact held
          · rintro rfl
            rw [starting] at held
            cases held
      untold := by
        intro other within here
        rw [inventory, account] at here
        rw [keyset]
        split at here
        · cases here
        · exact told.untold other (same.2.1 ▸ within) here
      once := by
        intro name owner here
        rw [account] at here
        split at here
        · cases here
          exact once
        · exact told.once name owner here }

theorem startInstall (told : Told tools server) (thread : Nat)
    (fresh : Fresh server (.startInstall thread)) :
    Told tools (server.startInstall thread) := by
  unfold Server.startInstall
  split
  · rename_i run starting shown
    have word := fresh starting run shown
    have within := told.shown run shown
    have free : ∀ other held, (server.phase other).busy = some held →
        (server.runs held).inventory ≠ (server.runs run).inventory := by
      intro other held busy clash
      obtain ⟨owner, owned, _, _, installing⟩ := told.busy other held busy
      rw [clash] at owned
      exact word ((told.agrees run owner shown owned).1.trans installing)
    cases found : server.account (server.runs run).inventory with
    | none =>
        have nothing : ((server.account (server.runs run).inventory).map
            Account.printed).getD [] = [] := by
          rw [found]
          rfl
        exact told.entered starting shown free nothing (told.untold run within found) (by simp)
    | some account =>
        exact told.entered starting shown free (by rw [found]; rfl)
          (told.agrees run account shown found).2.1 (told.once _ account found)
  · exact told

/-- `_open` of an inventory none of whose threads has an end to save, and that
printed no passwords. -/
theorem openInventory (told : Told tools server) (processes : Processes)
    (secretKeys : List String) (inventory : String)
    (orderly : Orderly server (.openInventory processes secretKeys inventory)) :
    Told tools (server.openInventory tools processes secretKeys inventory) := by
  unfold Server.openInventory
  split
  · exact told
  · rename_i opened loads
    have fresh := load_keyset loads
    have older : ∀ run, run < server.count →
        Function.update server.runs server.count opened run = server.runs run := by
      intro run within
      exact Function.update_of_ne (Nat.ne_of_lt within) _ _
    have loaded : Told tools
        { server with
          runs := Function.update server.runs server.count opened
          count := server.count + 1
          shown := some server.count } :=
      { shown := fun run here => by cases here; exact Nat.lt_succ_self _
        made := fun thread run here => Nat.lt_succ_of_lt (told.made thread run here)
        run := by
          intro name account here
          obtain ⟨within, rest⟩ := told.run name account here
          exact ⟨Nat.lt_succ_of_lt within, by
            simp only [older account.run within]
            exact rest⟩
        word := told.word
        busy := by
          intro thread run here
          have within := told.made thread run (Phase.unsaved_of_busy here)
          simp only [older run within]
          exact told.busy thread run here
        unsaved := by
          intro thread run here
          simp only [older run (told.made thread run here)]
          exact told.unsaved thread run here
        agrees := by
          intro run account shown here
          cases shown
          simp only [Function.update_self, fresh.1] at here ⊢
          obtain ⟨empty, free⟩ := orderly account here
          have ended : account.state = stateDone ∨ account.state = stateFailed := by
            rcases told.word inventory account here with ended | ended | busy
            · exact .inl ended
            · exact .inr ended
            · exact absurd (Phase.unsaved_of_busy busy) (free _)
          have none : account.keyset = [] := by
            cases last : account.printed.getLast? with
            | none => rw [Account.keyset, last]; rfl
            | some keyset =>
                rw [Account.keyset, last]
                exact empty keyset (List.mem_of_getLast? last)
          exact ⟨load_save_state (told.disk inventory account here free) ended loads,
            fresh.2.trans none.symm, fun thread held => absurd held (free thread)⟩
        disk := told.disk
        once := told.once
        untold := by
          intro run within here
          by_cases new : run = server.count
          · subst new
            simpa using fresh.2
          · have before : run < server.count := by
              have : run < server.count + 1 := within
              omega
            simp only [older run before] at here ⊢
            exact told.untold run before here }
    dsimp only
    split
    · exact loaded
    · rename_i absent
      exact
        { loaded with
          disk := by
            intro name account here free
            have tells := told.disk name account here free
            by_cases named : name = inventory
            · subst named
              obtain ⟨env, written⟩ := tells
              rw [absent] at written
              cases written
            · simpa [Server.store, fresh.1, named] using tells }

/-- A thread whose end state is on disk is done with it. -/
theorem leave (told : Told tools server) {thread run : Nat} {status : Int} (phase : Phase)
    (ended : server.phase thread = .ended run status)
    (saved : Tells tools (server.runs run).state
      (server.folders (server.runs run).inventory))
    (free : phase.unsaved = none) : Told tools (server.setPhase thread phase) := by
  have unsaved : ∀ other held, ((server.setPhase thread phase).phase other).unsaved = some held →
      other ≠ thread ∧ (server.phase other).unsaved = some held := by
    intro other held here
    by_cases same : other = thread
    · simp [same, free] at here
    · exact ⟨same, by simpa [same] using here⟩
  have busy : ∀ other, ((server.setPhase thread phase).phase other).busy =
      (server.phase other).busy := by
    intro other
    by_cases same : other = thread
    · rw [same, Server.setPhase_phase, if_pos rfl, Phase.busy_none free, ended]
      rfl
    · simp [same]
  exact
    { shown := told.shown
      made := fun other held here => told.made other held (unsaved other held here).2
      run := told.run
      word := by
        intro name owner here
        rw [busy]
        exact told.word name owner here
      busy := by
        intro other held here
        rw [busy] at here
        exact told.busy other held here
      unsaved := fun other held here => told.unsaved other held (unsaved other held here).2
      agrees := by
        intro visible owner shown here
        obtain ⟨word, printed, holds⟩ := told.agrees visible owner shown here
        exact ⟨word, printed, fun other held => holds other (unsaved other _ held).2⟩
      disk := by
        intro name owner here unheld
        by_cases mine : owner.run = run
        · obtain ⟨_, named, word, _⟩ := told.run name owner here
          rw [mine] at named word
          rw [← named, ← word]
          exact saved
        · refine told.disk name owner here fun other held => ?_
          by_cases same : other = thread
          · rw [same, ended] at held
            exact mine (Option.some.inj held).symm
          · exact unheld other (by simpa [same] using held)
      untold := told.untold
      once := told.once }

/-- The thread saves its end state. -/
theorem settle (told : Told tools server) (thread : Nat) :
    Told tools (server.settle tools thread) := by
  unfold Server.settle
  split
  · rename_i run status ended
    have stored : Told tools (server.store tools run) :=
      told.quiet (.store run (.inr ⟨thread, by rw [ended]; rfl⟩))
    have saved : Tells tools (server.runs run).state
        ((server.store tools run).folders (server.runs run).inventory) :=
      ⟨_, Function.update_self _ _ _⟩
    split
    · exact stored.leave _ ended saved rfl
    · exact stored.leave _ ended saved rfl
  · exact told

theorem step (taken : Step) (told : Told tools server) (orderly : Orderly server taken) :
    Told tools (server.step tools taken) := by
  cases taken with
  | openInventory processes secretKeys inventory =>
    exact told.openInventory processes secretKeys inventory orderly
  | startInstall thread => exact told.startInstall thread orderly
  | keyset thread printed => exact told.keyset thread printed orderly
  | finish thread status => exact told.finish thread status
  | settle thread => exact told.settle thread
  | die thread => exact told.quiet (.die thread orderly)
  | arrive thread form => exact told.quiet (.arrive thread form)
  | record thread => exact told.quiet (.record thread)
  | probe thread problem checks => exact told.quiet (.probe thread problem checks)
  | keep thread => exact told.quiet (.keep thread)
  | advance thread => exact told.quiet (.advance thread)
  | line thread text => exact told.quiet (.line thread text)
  | connect thread problem => exact told.quiet (.connect thread problem)
  | knock problem => exact told.quiet (.knock problem)

end Told

/-- Over an orderly run, the page shows the install of the shown inventory:
the state its thread is in, and every password printed for it. -/
theorem shows_running_install {steps : List Step} (begun : server.Begun)
    (orderly : Throughout (Server.step tools) Orderly server steps) :
    Shows (run (Server.step tools) server steps) := by
  have told : Told tools (run (Server.step tools) server steps) :=
    invariant (fun _ taken before allowed => before.step taken allowed) (.begun begun) orderly
  intro visible account shown here texts
  obtain ⟨word, last, _⟩ := told.agrees visible account shown here
  refine ⟨word, fun none => ?_, fun printed member => ?_⟩
  · rw [progress, last, Account.keyset, none]
    rfl
  · have same := last.trans (told.once _ account here printed member).symm
    exact ⟨same, congrArg (keysetShown texts) same⟩

/-- A first install of an inventory opened in this process prints its
passwords and ends. -/
theorem first_install_shown :
    Shows (run (Server.step sampleTools) sampleServer
      ([.openInventory (fun _ => some true) [] "newco"] ++ submit 0 ++ launch 0 ++
        [.keyset 0 [("admin_password", "p")], .finish 0 0, .settle 0])) :=
  shows_running_install sampleServer_begun (by
    refine ⟨?_, trivial, trivial, trivial, trivial, ?_, trivial, trivial, trivial, ?_,
      trivial, trivial, trivial⟩
    · intro account here
      cases here
    · intro _ run shown
      cases shown
      decide
    · intro run account installing here
      cases installing
      cases here
      intro earlier member
      cases member)

/-- An inventory reopened while its install runs: the page stays on
"installing" after the install has ended, and never shows its passwords. -/
theorem reopened_install_lost :
    ¬ ∀ (tools : Tools) (server : Server) (steps : List Step), server.Begun →
      Shows (run (Server.step tools) server steps) := by
  intro shows
  have read := shows sampleTools sampleServer
    (submit 0 ++ launch 0 ++ [.openInventory (fun _ => some true) [] "newco",
      .keyset 0 [("admin_password", "p")], .finish 0 0, .settle 0]) sampleServer_begun
    1 ⟨0, 0, stateDone, [[("admin_password", "p")]]⟩ (by decide) rfl ⟨"", ""⟩
  exact absurd (read.2.2 _ (List.mem_singleton.mpr rfl)).1 (by decide)

end Installer

end Catena

import Catena.DispatchSettled
import Catena.DispatchRuns

/-!
# A refused move

`_move` has three layers of undoing: an sshd drop-in that sshd refuses is put
back, the proof puts the runner's keys back, and what is left goes with `undo`.
Here any command may refuse and any operation outside the undoing may fail, and
what a move that raises leaves is compared with what it found.
-/

namespace Catena.Dispatch

open PyText

/-! ### Where a move can fail -/

/-- The operations that may fail.  Removals do not, and neither does what puts
the new generation's directory together. -/
def mayFail : Op → Bool
  | .hasFile _ => false
  | .unlinkFile _ => false
  | .isIntact _ _ => false
  | .makeBase => false
  | .removeTree _ _ => false
  | .makeDir _ => false
  | .chmodDir _ => false
  | .writeIn _ _ _ => false
  | .chmodIn _ _ => false
  | .kindOf _ => false
  | .unlinkEntry _ => false
  | .renameDir _ _ => false
  | .record _ => false
  | _ => true

def Choice.through (choice : Choice) : Choice :=
  { choice with
    raises := none
    ran := { choice.ran with code := 0 } }

/-- `undo` begins with the removal of the generation and goes on with the
`-next` files, which no other part of a move removes first. -/
def beginsUndo : Op → Bool
  | .hasFile .sudoersNext => true
  | _ => false

/-- The runner's keys are replaced. -/
def replaces : (op : Op) → Except Failure (Res op) → Bool
  | .replaceKeys, .ok _ => true
  | _, _ => false

/-- The operations that read, write and remove the runner's keys. -/
def touchesKeys : Op → Bool
  | .readKeys => true
  | .unlinkKeysTmp => true
  | .writeKeysTmp _ => true
  | .replaceKeys => true
  | .unlinkKeys => true
  | _ => false

/-- A host, whether the move on it is being undone, what the runner's keys read as when
the move began, whether they were replaced, and whether one of the operations that put
them back failed. -/
structure Watched where
  host : Host
  undoing : Bool
  found : Option Text
  replaced : Bool
  stuck : Bool

/-- The choice an operation is left with. -/
def Watched.granted (now : Watched) (choice : Choice) (op : Op) : Choice :=
  if mayFail op && !now.undoing then choice else choice.through

def Watched.reads (now : Watched) : Option Text :=
  now.host.keys.map universal

/-- The operation fails, on keys that are not the ones the move found. -/
def Watched.sticks (now : Watched) (choice : Choice) (op : Op) : Bool :=
  touchesKeys op && (now.granted choice op).raises.isSome && decide (now.reads ≠ now.found)

def Watched.moved (now : Watched) (host : Host) (op : Op) (answer : Except Failure (Res op))
    (sticks : Bool) : Watched where
  host := host
  undoing := now.undoing || beginsUndo op
  found := now.found
  replaced := now.replaced || replaces op answer
  stuck := now.stuck || sticks

section Moved

variable (now : Watched) (host : Host) (op : Op) (answer : Except Failure (Res op))
  (sticks : Bool)

@[simp] theorem Watched.moved_host : (now.moved host op answer sticks).host = host :=
  rfl

@[simp] theorem Watched.moved_undoing :
    (now.moved host op answer sticks).undoing = (now.undoing || beginsUndo op) :=
  rfl

@[simp] theorem Watched.moved_found : (now.moved host op answer sticks).found = now.found :=
  rfl

@[simp] theorem Watched.moved_replaced :
    (now.moved host op answer sticks).replaced = (now.replaced || replaces op answer) :=
  rfl

@[simp] theorem Watched.moved_stuck :
    (now.moved host op answer sticks).stuck = (now.stuck || sticks) :=
  rfl

end Moved

/-- Perform one operation of a move whose undoing goes through. -/
def watch (now : Watched) (choice : Choice) (op : Op) : Watched × Except Failure (Res op) :=
  let (host, answer) := perform now.host (now.granted choice op) op
  (now.moved host op answer (now.sticks choice op), answer)

/-- A move begins. -/
def Host.watched (host : Host) (undoing : Bool) : Watched :=
  ⟨host, undoing, host.keys.map universal, false, false⟩

/-- The AcceptEnv configuration in the files. -/
def Host.configured (host : Host) : Option Text × Option Text :=
  (host.files .acceptenv, host.files .acceptenvNext)

/-- The host is as the move found it.  The directory a generation is put
together in is one of the entries unless a killed run left it behind. -/
structure Restored (gen : Text) (before after : Host) : Prop where
  keys : after.keys = before.keys
  owned : before.keys.isSome = true → after.keysOwned = before.keysOwned
  files : ∀ slot, after.files slot = before.files slot
  link : after.link = before.link
  entry : ∀ name, name ≠ buildName gen ∨ before.entry name = none →
    after.entry name = before.entry name
  loaded : before.loaded = before.configured → after.loaded = after.configured

/-- Ends of a program under `watch`. -/
abbrev Leads {α : Type} (program : PathProg α)
    (ends : Except Failure α → Watched → Prop) (now : Watched) : Prop :=
  program.Always watch (fun _ => True) ends now

section Frames

variable {reach : Reach} {now : Watched}

/-- The keys read as they did, and none of their operations is held against them that
was not before. -/
structure Steady (before after : Watched) : Prop where
  reads : after.reads = before.reads
  found : after.found = before.found
  replaced : after.replaced = before.replaced
  stays : before.stuck = true → after.stuck = true
  calm : before.reads = before.found → after.stuck = before.stuck

theorem Steady.refl (now : Watched) : Steady now now :=
  ⟨rfl, rfl, rfl, fun stuck => stuck, fun _ => rfl⟩

theorem Steady.trans {first second third : Watched} (one : Steady first second)
    (other : Steady second third) : Steady first third where
  reads := other.reads.trans one.reads
  found := other.found.trans one.found
  replaced := other.replaced.trans one.replaced
  stays stuck := other.stays (one.stays stuck)
  calm same := (other.calm (by rw [one.reads, one.found, same])).trans (one.calm same)

theorem replaces_within {op : Op} (within : Within reach op) (noKeys : ¬ reach.keys)
    (answer : Except Failure (Res op)) : replaces op answer = false := by
  cases op <;> first | rfl | exact absurd within noKeys

/-- An operation that leaves the keys alone. -/
theorem steady_watch {op : Op} (within : Within reach op) (noKeys : ¬ reach.keys)
    (now : Watched) (choice : Choice) : Steady now (watch now choice op).1 where
  reads := congrArg (Option.map universal) ((agree_perform within _ _).keys noKeys)
  found := rfl
  replaced := by simp [watch, Watched.moved, replaces_within within noKeys]
  stays stuck := by simp [watch, Watched.moved, stuck]
  calm same := by simp [watch, Watched.moved, Watched.sticks, same]

/-- A program that leaves the keys alone leaves everything outside its reach. -/
theorem Only.leads {α : Type} {program : PathProg α} (only : program.Only (Within reach))
    (noKeys : ¬ reach.keys) :
    Leads program (fun _ after => Agree reach now.host after.host ∧ Steady now after) now := by
  have kept : program.Always watch
      (fun after => Agree reach now.host after.host ∧ Steady now after)
      (fun _ _ => True) now := by
    refine only.always ?_ ⟨Agree.refl reach _, Steady.refl _⟩
    rintro op within before choice ⟨agrees, steady⟩
    exact ⟨agrees.trans (agree_perform within _ _),
      steady.trans (steady_watch within noKeys before choice)⟩
  exact (kept.mono fun _ _ here _ => here).weaken fun _ _ => trivial

/-- Anything but a reload of sshd. -/
def NoReload (op : Op) : Prop :=
  op ≠ .run reloadArgv

theorem loaded_perform {op : Op} (noReload : NoReload op) (host : Host) (choice : Choice) :
    (perform host choice op).1.loaded = host.loaded := by
  unfold perform
  split
  · cases op with
    | removeTree name ignoreErrors =>
        simp only [fail, Host.thin]
        split <;> rfl
    | _ => rfl
  · cases op with
    | run argv =>
        have other : argv ≠ reloadArgv := fun same => noReload (congrArg Op.run same)
        simp [act, other]
    | removeTree name ignoreErrors =>
        simp only [act, Host.removeTree]
        split <;> rfl
    | renameDir source target =>
        simp only [act, Host.rename]
        split <;> rfl
    | chmodDir name =>
        simp only [act, Host.inDirectory]
        split <;> rfl
    | writeIn name file text =>
        simp only [act, Host.inDirectory]
        split <;> rfl
    | chmodIn name file =>
        simp only [act, Host.inDirectory]
        split <;> rfl
    | replaceKeys =>
        simp only [act]
        split <;> rfl
    | replaceFile slot =>
        simp only [act]
        split <;> rfl
    | makeDir name =>
        simp only [act]
        split <;> rfl
    | unlinkEntry name =>
        simp only [act]
        split <;> rfl
    | replaceLink =>
        simp only [act]
        split <;> rfl
    | _ => rfl

/-- A program that does not reload sshd leaves what it has loaded. -/
theorem NoReload.leads {α : Type} {program : PathProg α} (only : program.Only NoReload) :
    Leads program (fun _ after => after.host.loaded = now.host.loaded) now := by
  have kept : program.Always watch (fun after => after.host.loaded = now.host.loaded)
      (fun _ _ => True) now := by
    refine only.always ?_ rfl
    intro op noReload before choice loaded
    exact (loaded_perform noReload _ _).trans loaded
  exact (kept.mono fun _ _ here _ => here).weaken fun _ _ => trivial

/-- Two things a program leads to, it leads to together. -/
theorem Leads.and {α : Type} {program : PathProg α}
    {first second : Except Failure α → Watched → Prop} (one : Leads program first now)
    (other : Leads program second now) :
    Leads program (fun outcome after => first outcome after ∧ second outcome after) now :=
  (Prog.Always.and one other).weaken fun _ _ => trivial

end Frames

/-! ### The undoing -/

section Undoing

variable {now : Watched}

/-- An operation that does not fail does what it does. -/
theorem watch_sure {op : Op} (sure : mayFail op = false ∨ now.undoing = true)
    (choice : Choice) :
    perform now.host (now.granted choice op) op = act now.host choice.through op := by
  have granted : now.granted choice op = choice.through := by
    unfold Watched.granted
    rcases sure with never | undoing
    · simp [never]
    · simp [undoing]
  rw [granted]
  rfl

theorem ask_noReload {op : Op} {α : Type} {next : Res op → PathProg α}
    (noReload : NoReload op) (rest : ∀ value, (next value).Only NoReload) :
    (ask op >>= next).Only NoReload :=
  Prog.Only.bind ⟨noReload, fun _ => trivial⟩ rest

theorem removeGeneration_noReload (gen : Text) : (removeGeneration gen).Only NoReload := by
  unfold removeGeneration
  refine ask_noReload (by simp [NoReload]) fun kind => ?_
  cases kind with
  | absent => trivial
  | _ =>
      refine ask_noReload (by simp [NoReload]) fun _ => ?_
      exact ask_noReload (by simp [NoReload]) fun _ => trivial

theorem remove_noReload (slot : Slot) : (remove slot).Only NoReload := by
  unfold remove
  refine ask_noReload (by simp [NoReload]) fun there => ?_
  split
  · refine ask_noReload (by simp [NoReload]) fun _ => ?_
    exact ask_noReload (by simp [NoReload]) fun _ => trivial
  · trivial

theorem not_sticks {op : Op} (sure : mayFail op = false ∨ now.undoing = true)
    (choice : Choice) : now.sticks choice op = false := by
  unfold Watched.sticks Watched.granted
  rcases sure with never | undoing
  · simp [never, Choice.through]
  · simp [undoing, Choice.through]

/-- An operation that goes through, and what it answers. -/
theorem sure_bind {op : Op} {α : Type} {next : Res op → PathProg α}
    {ends : Except Failure α → Watched → Prop} {value : Res op} {after : Host}
    (sure : mayFail op = false ∨ now.undoing = true)
    (acts : ∀ choice : Choice, act now.host choice.through op = (after, .ok value))
    (rest : Leads (next value) ends (now.moved after op (.ok value) false)) :
    Leads (ask op >>= next) ends now := by
  refine ⟨trivial, fun choice => ?_⟩
  have acted := (watch_sure sure choice).trans (acts choice)
  simp only [watch, acted, not_sticks sure]
  exact rest

/-- The generation's directory is removed, whatever stands there. -/
theorem removeGeneration_gone (gen : Text) (now : Watched) :
    Leads (removeGeneration gen) (fun outcome after =>
      (∃ removed, outcome = .ok removed) ∧ after.host.entry gen = none) now := by
  have dropped : (now.host.dropEntry gen).entry gen = none := by
    rw [entry_dropEntry, if_pos rfl]
  unfold removeGeneration
  refine sure_bind (Or.inl rfl) (fun _ => rfl) ?_
  unfold Host.kind
  cases found : now.host.entry gen with
  | none => exact ⟨trivial, ⟨_, rfl⟩, found⟩
  | some entry =>
      cases entry with
      | directory plain files =>
          have acts (choice : Choice) : act now.host choice.through (.removeTree gen false) =
              (now.host.dropEntry gen, .ok ()) := by
            simp [act, Host.removeTree, found]
          refine sure_bind (Or.inl rfl) acts ?_
          refine sure_bind (Or.inl rfl) (fun _ => rfl) ?_
          exact ⟨trivial, ⟨_, rfl⟩, dropped⟩
      | symlink =>
          have acts (choice : Choice) : act now.host choice.through (.unlinkEntry gen) =
              (now.host.dropEntry gen, .ok ()) := by
            simp [act, found]
          refine sure_bind (Or.inl rfl) acts ?_
          refine sure_bind (Or.inl rfl) (fun _ => rfl) ?_
          exact ⟨trivial, ⟨_, rfl⟩, dropped⟩
      | file =>
          have acts (choice : Choice) : act now.host choice.through (.unlinkEntry gen) =
              (now.host.dropEntry gen, .ok ()) := by
            simp [act, found]
          refine sure_bind (Or.inl rfl) acts ?_
          refine sure_bind (Or.inl rfl) (fun _ => rfl) ?_
          exact ⟨trivial, ⟨_, rfl⟩, dropped⟩

/-- A `-next` file is removed, and the caller learns whether it was there. -/
theorem remove_gone (slot : Slot) (now : Watched) :
    Leads (remove slot) (fun outcome after =>
      outcome = .ok (now.host.files slot).isSome ∧ after.host.files slot = none ∧
        (now.undoing = true ∨ slot = .sudoersNext → after.undoing = true)) now := by
  have begins : (now.undoing = true ∨ slot = .sudoersNext) →
      (now.undoing || beginsUndo (.hasFile slot)) = true := by
    rintro (undoing | rfl)
    · simp [undoing]
    · simp [beginsUndo]
  unfold remove
  refine sure_bind (Or.inl rfl) (fun _ => rfl) ?_
  split
  · rename_i there
    refine sure_bind (Or.inl rfl) (fun _ => rfl) ?_
    refine sure_bind (Or.inl rfl) (fun _ => rfl) ?_
    refine ⟨trivial, by rw [there], by simp [Host.setFile], ?_⟩
    intro started
    simp [begins started]
  · rename_i absent
    refine ⟨trivial, ?_, by simpa using absent, begins⟩
    simpa using absent

/-- Nothing outside the reach has changed, and nothing was loaded. -/
structure Drops (reach : Reach) (before after : Watched) : Prop where
  agrees : Agree reach before.host after.host
  steady : Steady before after
  loaded : after.host.loaded = before.host.loaded

theorem Drops.leads {α : Type} {program : PathProg α} {reach : Reach}
    (only : program.Only (Within reach)) (noKeys : ¬ reach.keys)
    (noReload : program.Only NoReload) (now : Watched) :
    Leads program (fun _ after => Drops reach now after) now :=
  (Leads.and (Only.leads only noKeys) (NoReload.leads noReload)).mono
    fun _ _ _ ends => ⟨ends.1.1, ends.1.2, ends.2⟩

/-- What `undo` may change. -/
def undoReach (gen : Text) : Reach :=
  ⟨fun slot => slot = .sudoersNext ∨ slot = .acceptenvNext, fun name => name = gen,
    False, False⟩

theorem Drops.trans {gen : Text} {first second third : Watched}
    (one : Drops (undoReach gen) first second) (other : Drops (undoReach gen) second third) :
    Drops (undoReach gen) first third :=
  ⟨one.agrees.trans other.agrees, one.steady.trans other.steady,
    other.loaded.trans one.loaded⟩

theorem Drops.ofFile {gen : Text} {slot : Slot} {before after : Watched}
    (drops : Drops (fileReach slot) before after)
    (inside : slot = .sudoersNext ∨ slot = .acceptenvNext) :
    Drops (undoReach gen) before after := by
  refine ⟨drops.agrees.widen ?_ (fun _ inside => inside.elim) id id, drops.steady,
    drops.loaded⟩
  rintro other rfl
  exact inside

/-- What `undo` leaves. -/
structure Undone (gen : Text) (before after : Watched) : Prop where
  agrees : Agree (undoReach gen) before.host after.host
  steady : Steady before after
  entry : after.host.entry gen = none
  rule : after.host.files .sudoersNext = none
  accept : after.host.files .acceptenvNext = none

/-- The reload at the end of `undo`. -/
theorem sshdReload_undoing (undoing : now.undoing = true) :
    Leads sshdReload (fun outcome after => outcome = .ok () ∧
      Agree noReach now.host after.host ∧ Steady now after ∧
        after.host.loaded = after.host.configured) now := by
  unfold sshdReload
  refine ⟨trivial, fun choice => ?_⟩
  have steady : Steady now (watch now choice (.run reloadArgv)).1 :=
    @steady_watch noReach _ (by trivial) not_false now choice
  have acted := @watch_sure now (.run reloadArgv) (Or.inr undoing) choice
  simp only [act, Choice.through, and_true, if_true] at acted
  simp only [watch, acted] at steady ⊢
  refine ⟨trivial, rfl, ⟨rfl, fun _ _ => rfl, fun _ _ => rfl, fun _ => rfl, fun _ => rfl⟩,
    steady, rfl⟩

theorem undo_leads (gen : Text) (reloaded : Bool) (now : Watched) :
    Leads (undo gen reloaded) (fun outcome after => outcome = .ok () ∧ Undone gen now after ∧
      (after.host.loaded = after.host.configured ∨
        reloaded = false ∧ after.host.loaded = now.host.loaded)) now := by
  have inFile (slot : Slot) : (remove slot).Only (Within (fileReach slot)) :=
    only_remove rfl
  have inName : (removeGeneration gen).Only (Within (undoReach gen)) :=
    only_removeGeneration rfl
  unfold undo
  refine Prog.Always.bind ((removeGeneration_gone gen now).and
    (Drops.leads inName not_false (removeGeneration_noReload gen) now)) ?_ ?_
  · rintro removed first _ ⟨⟨_, gone⟩, firstDrops⟩
    refine Prog.Always.bind ((remove_gone .sudoersNext first).and
      (Drops.leads (inFile _) not_false (remove_noReload _) first)) ?_ ?_
    · rintro unruled second _ ⟨⟨_, ruleGone, begun⟩, ruleDrops⟩
      refine Prog.Always.bind ((remove_gone .acceptenvNext second).and
        (Drops.leads (inFile _) not_false (remove_noReload _) second)) ?_ ?_
      · rintro unaccepted third _ ⟨⟨_, acceptGone, stays⟩, acceptDrops⟩
        have undoing := stays (Or.inl (begun (Or.inr rfl)))
        have drops := (firstDrops.trans (ruleDrops.ofFile (Or.inl rfl))).trans
          (acceptDrops.ofFile (Or.inr rfl))
        have entry : third.host.entry gen = none :=
          (acceptDrops.agrees.entry gen not_false).trans
            ((ruleDrops.agrees.entry gen not_false).trans gone)
        have rule : third.host.files .sudoersNext = none :=
          (acceptDrops.agrees.files _ (by simp [fileReach])).trans ruleGone
        have undone : Undone gen now third :=
          ⟨drops.agrees, drops.steady, entry, rule, acceptGone⟩
        split
        · refine (sshdReload_undoing undoing).mono ?_
          rintro outcome last _ ⟨ok, agrees, steady, loaded⟩
          refine ⟨ok, ⟨drops.agrees.trans agrees.ofNoReach, drops.steady.trans steady,
            (agrees.entry gen not_false).trans entry,
            (agrees.files _ not_false).trans rule,
            (agrees.files _ not_false).trans acceptGone⟩, Or.inl loaded⟩
        · rename_i nothing
          refine ⟨trivial, rfl, undone, Or.inr ⟨by simp_all, drops.loaded⟩⟩
      · rintro failure third _ ⟨⟨impossible, _⟩, _⟩
        cases impossible
    · rintro failure second _ ⟨⟨impossible, _⟩, _⟩
      cases impossible
  · rintro failure first _ ⟨⟨⟨_, impossible⟩, _⟩, _⟩
    cases impossible

end Undoing

/-! ### The runner's keys -/

section Keys

variable {now after : Watched} {content : Option Text}

/-- An operation on the keys fails and changes nothing, or goes through. -/
theorem watch_touch {op : Op} (touches : touchesKeys op = true) (now : Watched)
    (choice : Choice) :
    (∃ failure, watch now choice op =
      (now.moved now.host op (.error failure) (decide (now.reads ≠ now.found)),
        .error failure)) ∨
    ∃ granted, watch now choice op =
      (now.moved (act now.host granted op).1 op (act now.host granted op).2 false,
        (act now.host granted op).2) := by
  cases raises : (now.granted choice op).raises with
  | none =>
      right
      refine ⟨now.granted choice op, ?_⟩
      simp [watch, perform, raises, Watched.sticks]
  | some failure =>
      left
      refine ⟨failure, ?_⟩
      have failed : perform now.host (now.granted choice op) op = (now.host, .error failure) := by
        unfold perform
        rw [raises]
        cases op <;> first | rfl | cases touches
      simp [watch, failed, raises, Watched.sticks, touches]

structure SameKeys (before after : Watched) : Prop where
  agrees : Agree keysReach before.host after.host
  keys : after.host.keys = before.host.keys
  steady : Steady before after

/-- The keys are the content, which they did not read as. -/
structure Turned (content : Option Text) (before after : Watched) : Prop where
  agrees : Agree keysReach before.host after.host
  other : before.reads ≠ content
  keys : after.host.keys = content
  found : after.found = before.found
  replaced : after.replaced = (before.replaced || content.isSome)
  stuck : after.stuck = before.stuck

/-- The keys stayed as they are, which is held against them unless they are the ones
the move found. -/
structure Stayed (before after : Watched) : Prop where
  same : SameKeys before after
  stuck : before.reads ≠ before.found → after.stuck = true

def KeysLead {α : Type} (content : Option Text) (before : Watched) :
    Except Failure α → Watched → Prop
  | .ok _, after => before.reads = content ∧ SameKeys before after ∨
      Turned content before after
  | .error _, after => Stayed before after

theorem SameKeys.trans {first second third : Watched} (one : SameKeys first second)
    (other : SameKeys second third) : SameKeys first third :=
  ⟨one.agrees.trans other.agrees, other.keys.trans one.keys, one.steady.trans other.steady⟩

/-- The keys were looked at, and nothing is held against them. -/
structure Looked (before after : Watched) : Prop where
  same : SameKeys before after
  stuck : after.stuck = before.stuck

theorem Looked.trans {first second third : Watched} (one : Looked first second)
    (other : Looked second third) : Looked first third :=
  ⟨one.same.trans other.same, other.stuck.trans one.stuck⟩

theorem Looked.stayed {first second third : Watched} (one : Looked first second)
    (other : Stayed second third) : Stayed first third :=
  ⟨one.same.trans other.same, fun own => other.stuck (by
    rw [one.same.steady.reads, one.same.steady.found]
    exact own)⟩

theorem Looked.turn {first second third : Watched} (one : Looked first second)
    (other : Turned content second third) : Turned content first third where
  agrees := one.same.agrees.trans other.agrees
  other := one.same.steady.reads ▸ other.other
  keys := other.keys
  found := other.found.trans one.same.steady.found
  replaced := by rw [other.replaced, one.same.steady.replaced]
  stuck := other.stuck.trans one.stuck

theorem Turned.looked {first second third : Watched} (one : Turned content first second)
    (other : Looked second third) : Turned content first third where
  agrees := one.agrees.trans other.same.agrees
  other := one.other
  keys := other.same.keys.trans one.keys
  found := other.same.steady.found.trans one.found
  replaced := other.same.steady.replaced.trans one.replaced
  stuck := other.stuck.trans one.stuck

/-- Operations that do not concern the keys. -/
theorem sameKeys_leads {α : Type} {program : PathProg α}
    (only : program.Only (Within noReach)) (now : Watched) :
    Leads program (fun _ after => SameKeys now after) now :=
  (Only.leads only not_false).mono fun _ _ _ ends =>
    ⟨ends.1.ofNoReach, ends.1.keys not_false, ends.2⟩

theorem looked_moved {op : Op} {host : Host} {answer : Except Failure (Res op)}
    (agrees : Agree noReach now.host host) (quiet : replaces op answer = false) :
    Looked now (now.moved host op answer false) := by
  have keys : host.keys = now.host.keys := agrees.keys not_false
  refine ⟨⟨agrees.ofNoReach, keys, ?_⟩, by simp⟩
  constructor
  · simp [Watched.reads, keys]
  · rfl
  · simp [quiet]
  · simp
  · simp

theorem stayed_moved (now : Watched) {op : Op} (failure : Failure)
    (quiet : replaces op (.error failure) = false) : Stayed now
      (now.moved now.host op (.error failure) (decide (now.reads ≠ now.found))) := by
  refine ⟨⟨Agree.refl _ _, rfl, ?_⟩, fun own => by simp [own]⟩
  constructor
  · rfl
  · rfl
  · simp [quiet]
  · intro stuck
    simp [stuck]
  · intro same
    simp [same]

/-- The draft takes the place of the keys. -/
theorem replaceKeys_leads {text : Text} (other : now.reads ≠ some text)
    (drafted : now.host.keysTmp = some text) :
    Leads (ask .replaceKeys) (fun outcome after => match outcome with
      | .ok _ => Turned (some text) now after
      | .error _ => Stayed now after) now := by
  refine ⟨trivial, fun choice => ?_⟩
  rcases @watch_touch .replaceKeys rfl now choice with ⟨failure, failed⟩ | ⟨granted, acted⟩
  · rw [failed]
    exact ⟨trivial, stayed_moved now failure rfl⟩
  · have agrees : Agree keysReach now.host (act now.host granted .replaceKeys).1 :=
      agree_act (by trivial) now.host granted
    rw [acted]
    simp only [act, drafted] at agrees ⊢
    exact ⟨trivial, agrees, other, rfl, rfl, rfl, by simp⟩

/-- A draft of new keys is written, and takes their place. -/
theorem draftKeys_leads (text : Text) (now : Watched) (other : now.reads ≠ some text) :
    Leads (do
      let _ ← ask .unlinkKeysTmp
      let _ ← ask (.writeKeysTmp text)
      ask .replaceKeys) (fun outcome after => match outcome with
        | .ok _ => Turned (some text) now after
        | .error _ => Stayed now after) now := by
  refine ⟨trivial, fun unlinking => ?_⟩
  rcases @watch_touch .unlinkKeysTmp rfl now unlinking with ⟨failure, failed⟩ | ⟨granted, acted⟩
  · rw [failed]
    exact ⟨trivial, stayed_moved now failure rfl⟩
  · have unlinked : Looked now (now.moved (act now.host granted .unlinkKeysTmp).1
        .unlinkKeysTmp (act now.host granted .unlinkKeysTmp).2 false) :=
      looked_moved (agree_act (by trivial) now.host granted) rfl
    rw [acted]
    generalize now.moved (act now.host granted .unlinkKeysTmp).1 .unlinkKeysTmp
      (act now.host granted .unlinkKeysTmp).2 false = cleared at unlinked ⊢
    refine ⟨trivial, fun writing => ?_⟩
    rcases @watch_touch (.writeKeysTmp text) rfl cleared writing with
      ⟨failure, failed⟩ | ⟨allowed, wrote⟩
    · rw [failed]
      exact ⟨trivial, unlinked.stayed (stayed_moved cleared failure rfl)⟩
    · have written : Looked now (cleared.moved (act cleared.host allowed (.writeKeysTmp text)).1
          (.writeKeysTmp text) (.ok ()) false) :=
        unlinked.trans (looked_moved (agree_act (by trivial) cleared.host allowed) rfl)
      rw [wrote]
      refine (@replaceKeys_leads _ text ?_ rfl).mono ?_
      · exact fun same => other (written.same.steady.reads.symm.trans same)
      · intro outcome after _ ended
        cases outcome with
        | ok value => exact written.turn ended
        | error failure => exact written.stayed ended

/-- A write or a removal is recorded. -/
theorem record_leads (paths : List Text) (value : Bool) (now : Watched) :
    Leads (ask (.record paths) >>= fun _ => pure value)
      (fun outcome after => outcome = .ok value ∧ Looked now after) now := by
  refine sure_bind (Or.inl rfl) (fun _ => rfl) ⟨trivial, rfl, ?_⟩
  exact looked_moved ⟨rfl, fun _ _ => rfl, fun _ _ => rfl, fun _ => rfl, fun _ => rfl⟩ rfl

theorem writeKeys_leads (cfg : Config) (text : Text) (now : Watched) :
    Leads (writeKeys cfg text) (KeysLead (some text) now) now := by
  unfold writeKeys
  refine ⟨trivial, fun reading => ?_⟩
  rcases @watch_touch .readKeys rfl now reading with ⟨failure, failed⟩ | ⟨granted, acted⟩
  · rw [failed]
    exact ⟨trivial, stayed_moved now failure rfl⟩
  · have read : Looked now (now.moved now.host .readKeys
        (.ok (now.host.keys.map universal)) false) :=
      looked_moved (Agree.refl _ _) rfl
    rw [acted]
    simp only [act]
    generalize now.moved now.host .readKeys (.ok (now.host.keys.map universal)) false =
      known at read
    change Leads (if now.reads = some text then _ else _) _ _
    split
    · rename_i held
      exact ⟨trivial, Or.inl ⟨held, read.same⟩⟩
    · rename_i other
      have differs : known.reads ≠ some text := by
        rw [read.same.steady.reads]
        exact other
      rw [Leads, Prog.bind_eq, Prog.always_andThen]
      unfold Prog.tryExcept
      rw [Prog.always_andThen]
      refine (draftKeys_leads text known differs).mono ?_
      rintro outcome after _ ended
      cases outcome with
      | ok value =>
          refine ⟨trivial, (record_leads [keysPath cfg] true after).mono ?_⟩
          rintro outcome last _ ⟨rfl, recorded⟩
          exact Or.inr (read.turn (ended.looked recorded))
      | error failure => cases failure <;> exact ⟨trivial, trivial, read.stayed ended⟩

/-- What `removeKeys` leads to. -/
theorem removeKeys_leads (cfg : Config) (now : Watched) :
    Leads (removeKeys cfg) (KeysLead none now) now := by
  unfold removeKeys
  refine ⟨trivial, fun unlinking => ?_⟩
  rcases @watch_touch .unlinkKeys rfl now unlinking with ⟨failure, failed⟩ | ⟨granted, acted⟩
  · rw [failed]
    exact ⟨trivial, stayed_moved now failure rfl⟩
  · rw [acted]
    simp only [act]
    have agrees : Agree keysReach now.host { now.host with keys := none } :=
      ⟨rfl, fun _ _ => rfl, fun _ _ => rfl, fun outside => absurd trivial outside, fun _ => rfl⟩
    cases held : now.host.keys with
    | none =>
        refine ⟨trivial, Or.inl ⟨by simp [Watched.reads, held], agrees, held.symm, ?_⟩⟩
        exact ⟨by simp [Watched.reads, held], rfl, by simp [replaces], by simp, by simp⟩
    | some text =>
        refine (record_leads [keysPath cfg] true _).mono ?_
        rintro outcome last _ ⟨rfl, recorded⟩
        have removed : Turned none now (now.moved { now.host with keys := none } .unlinkKeys
            (.ok true) false) :=
          ⟨agrees, by simp [Watched.reads, held], rfl, rfl, by simp [replaces], by simp⟩
        exact Or.inr (removed.looked recorded)

theorem putBackKeys_leads (cfg : Config) (kept : Option Text) (now : Watched) :
    Leads (putBackKeys cfg kept) (KeysLead kept now) now := by
  unfold putBackKeys
  cases kept with
  | none =>
      refine Prog.Always.bind (removeKeys_leads cfg now) ?_ ?_
      · exact fun _ _ _ ended => ⟨trivial, ended⟩
      · exact fun _ _ _ ended => ended
  | some text =>
      refine Prog.Always.bind (writeKeys_leads cfg text now) ?_ ?_
      · exact fun _ _ _ ended => ⟨trivial, ended⟩
      · exact fun _ _ _ ended => ended

end Keys

/-! ### The new generation's directory -/

section Installing

variable {gen : Text} {now : Watched}

/-- The generation is put together beside its place, which is free. -/
structure Drafting (gen : Text) (host : Host) : Prop where
  free : host.entry gen = none
  directory : ∃ plain files, host.entry (buildName gen) = some (.directory plain files)

theorem Drafting.changes {host : Host} (drafting : Drafting gen host)
    {change : Bool → PyDict Text Node → Entry}
    (stays : ∀ plain files, ∃ after content, change plain files = .directory after content) :
    ∃ after, host.inDirectory (buildName gen) change = (after, .ok ()) ∧
      Drafting gen after := by
  obtain ⟨plain, files, found⟩ := drafting.directory
  obtain ⟨kept, content, changed⟩ := stays plain files
  refine ⟨host.setEntry (buildName gen) (change plain files), ?_, ?_, kept, content, ?_⟩
  · simp [Host.inDirectory, found]
  · rw [entry_setEntry, if_neg (buildName_ne gen)]
    exact drafting.free
  · rw [entry_setEntry, if_pos rfl, changed]

/-- The files of a directory, one of them marked as root's executable. -/
def markedIn (name : Text) (files : PyDict Text Node) : PyDict Text Node :=
  match PyDict.get files name with
  | some (.regular _ content) => PyDict.set files name (.regular true content)
  | _ => files

theorem fillDirectory_leads (files : List (Text × Text)) (drafting : Drafting gen now.host) :
    Leads (fillDirectory (buildName gen) files)
      (fun outcome after => outcome = .ok () ∧ Drafting gen after.host) now := by
  induction files generalizing now with
  | nil => exact ⟨trivial, rfl, drafting⟩
  | cons file others ih =>
      obtain ⟨name, text⟩ := file
      obtain ⟨written, writes, writing⟩ := @Drafting.changes gen now.host drafting
        (fun plain files => .directory plain (PyDict.set files name (.regular false text)))
        fun plain files => ⟨_, _, rfl⟩
      obtain ⟨marked, marks, marking⟩ := @Drafting.changes gen written writing
        (fun plain files => .directory plain (markedIn name files))
        fun plain files => ⟨_, _, rfl⟩
      refine sure_bind (Or.inl rfl) (fun _ => writes) ?_
      refine sure_bind (Or.inl rfl) (fun _ => marks) ?_
      exact ih marking

/-- Nothing stands where the generation goes, so nothing is cleared. -/
theorem clearGeneration_leads (drafting : Drafting gen now.host) :
    Leads (clearGeneration gen)
      (fun outcome after => outcome = .ok () ∧ Drafting gen after.host) now := by
  have kind : now.host.kind gen = .absent := by
    simp [Host.kind, drafting.free]
  unfold clearGeneration
  refine sure_bind (Or.inl rfl) (fun _ => rfl) ?_
  rw [kind, if_neg (by simp)]
  refine ⟨trivial, fun choice => ?_⟩
  have acted := @watch_sure (now.moved now.host (.kindOf gen) (.ok .absent) false)
    (.removeTree gen true) (Or.inl rfl) choice
  simp only [act, Watched.moved, Host.removeTree, drafting.free, if_true] at acted
  simp only [watch, Watched.moved, acted]
  exact ⟨trivial, rfl, drafting⟩

/-- Once the generation is in its place nothing is left beside it. -/
theorem buildGeneration_leads (files : List (Text × Text))
    (free : now.host.entry gen = none) (clear : now.host.entry (buildName gen) = none) :
    Leads (buildGeneration gen files)
      (fun _ after => after.host.entry (buildName gen) = none) now := by
  have removes (choice : Choice) :
      act now.host choice.through (.removeTree (buildName gen) true) = (now.host, .ok ()) := by
    simp [act, Host.removeTree, clear]
  have makes (choice : Choice) : act now.host choice.through (.makeDir (buildName gen)) =
      (now.host.setEntry (buildName gen) (.directory false []), .ok ()) := by
    simp [act, clear]
  have made : Drafting gen (now.host.setEntry (buildName gen) (.directory false [])) := by
    refine ⟨?_, false, [], ?_⟩
    · rw [entry_setEntry, if_neg (buildName_ne gen)]
      exact free
    · rw [entry_setEntry, if_pos rfl]
  obtain ⟨opened, opens, opening⟩ := @Drafting.changes gen _ made
    (fun _ files => .directory true files) fun _ _ => ⟨_, _, rfl⟩
  unfold buildGeneration
  refine sure_bind (Or.inl rfl) (fun _ => rfl) ?_
  refine sure_bind (Or.inl rfl) removes ?_
  refine sure_bind (Or.inl rfl) makes ?_
  refine sure_bind (Or.inl rfl) (fun _ => opens) ?_
  refine Prog.Always.bind (fillDirectory_leads files opening) ?_ ?_
  · rintro _ filled _ ⟨_, filling⟩
    refine Prog.Always.bind (clearGeneration_leads filling) ?_ ?_
    · rintro _ cleared _ ⟨_, clearing⟩
      obtain ⟨plain, content, found⟩ := clearing.directory
      have renames (choice : Choice) :
          act cleared.host choice.through (.renameDir (buildName gen) gen) =
            ((cleared.host.dropEntry (buildName gen)).setEntry gen (.directory plain content),
              .ok ()) := by
        simp [act, Host.rename, found, clearing.free]
      refine sure_bind (Or.inl rfl) renames ?_
      have quiet : (ask (.record (files.map fun file =>
          generationPath gen ++ '/' :: file.1))).Only (Within noReach) :=
        only_ask (by trivial)
      refine (Only.leads quiet not_false).mono ?_
      rintro outcome after _ ⟨agrees, _⟩
      rw [agrees.entry _ not_false, Watched.moved_host, entry_setEntry,
        if_neg (buildName_ne gen).symm, entry_dropEntry, if_pos rfl]
    · rintro failure cleared _ ⟨impossible, _⟩
      cases impossible
  · rintro failure filled _ ⟨impossible, _⟩
    cases impossible

theorem installGeneration_leads (entry dispatcher : Text)
    (free : now.host.entry gen = none) :
    Leads (installGeneration gen entry dispatcher) (fun _ after =>
      now.host.entry (buildName gen) = none →
        after.host.entry (buildName gen) = none) now := by
  by_cases left : now.host.entry (buildName gen) = none
  · unfold installGeneration
    have absent : now.host.intact gen (generationFiles entry dispatcher) = false := by
      simp [Host.intact, free]
    refine sure_bind (Or.inl rfl) (fun _ => rfl) ?_
    rw [absent]
    refine Prog.Always.bind (buildGeneration_leads _ free left) ?_ ?_
    · exact fun _ after _ gone => ⟨trivial, fun _ => gone⟩
    · exact fun _ after _ gone _ => gone
  · have within : (installGeneration gen entry dispatcher).Only
        (Within (generationReach gen)) :=
      only_installGeneration (Or.inl rfl) (Or.inr rfl) _ _
    exact (Only.leads within not_false).mono fun _ _ _ _ none => absurd none left

end Installing

/-! ### BESIDE loads nothing -/

section Beside

theorem fillDirectory_noReload (name : Text) (files : List (Text × Text)) :
    (fillDirectory name files).Only NoReload := by
  induction files with
  | nil => trivial
  | cons file rest ih =>
      refine ask_noReload (by simp [NoReload]) fun _ => ?_
      exact ask_noReload (by simp [NoReload]) fun _ => ih

theorem clearGeneration_noReload (gen : Text) : (clearGeneration gen).Only NoReload := by
  refine ask_noReload (by simp [NoReload]) fun kind => ?_
  split
  · exact ⟨by simp [NoReload], fun _ => trivial⟩
  · exact ⟨by simp [NoReload], fun _ => trivial⟩

theorem installGeneration_noReload (gen entry dispatcher : Text) :
    (installGeneration gen entry dispatcher).Only NoReload := by
  refine ask_noReload (by simp [NoReload]) fun intact => ?_
  split
  · trivial
  · refine Prog.Only.bind ?_ fun _ => trivial
    refine ask_noReload (by simp [NoReload]) fun _ => ?_
    refine ask_noReload (by simp [NoReload]) fun _ => ?_
    refine ask_noReload (by simp [NoReload]) fun _ => ?_
    refine ask_noReload (by simp [NoReload]) fun _ => ?_
    refine Prog.Only.bind (fillDirectory_noReload _ _) fun _ => ?_
    refine Prog.Only.bind (clearGeneration_noReload gen) fun _ => ?_
    refine ask_noReload (by simp [NoReload]) fun _ => ?_
    exact ⟨by simp [NoReload], fun _ => trivial⟩

/-- The command a temporary has to pass is no reload. -/
theorem write_noReload (slot : Slot) (text : Text) (mode : Nat) {check : List Text}
    (other : check.headI ≠ reloadArgv.headI) : (write slot text mode check).Only NoReload := by
  have checked : (write.accepted slot check).Only NoReload := by
    cases check with
    | nil => trivial
    | cons command arguments =>
        have noReload : NoReload
            (.run (command :: arguments ++ [slot.path ++ ".tmp".toList])) := by
          intro same
          apply other
          rw [← Op.run.inj same]
          rfl
        refine ask_noReload noReload fun ran => ?_
        split
        · exact ask_noReload (by simp [NoReload]) fun _ => trivial
        · trivial
  refine ask_noReload (by simp [NoReload]) fun held => ?_
  split
  · trivial
  · refine ask_noReload (by simp [NoReload]) fun _ => ?_
    refine ask_noReload (by simp [NoReload]) fun _ => ?_
    refine Prog.Only.bind checked fun _ => ?_
    refine ask_noReload (by simp [NoReload]) fun _ => ?_
    exact ask_noReload (by simp [NoReload]) fun _ => trivial

theorem placeSshd_noReload (slot : Slot) (text : Text) :
    (placeSshd slot text).Only NoReload := by
  have writes (content : Text) : (write slot content 0o644 []).Only NoReload :=
    write_noReload slot content _ (by decide)
  have asks : NoReload (.run ["/usr/sbin/sshd".toList, "-t".toList]) := by
    intro same
    exact absurd (Op.run.inj same) (by decide)
  refine ask_noReload (by simp [NoReload]) fun before => ?_
  refine Prog.Only.bind (writes text) fun wrote => ?_
  split
  · refine ask_noReload asks fun ran => ?_
    split
    · refine Prog.Only.bind ?_ fun _ => trivial
      cases before with
      | none => exact Prog.Only.bind (remove_noReload slot) fun _ => trivial
      | some kept => exact Prog.Only.bind (writes kept) fun _ => trivial
    · trivial
  · trivial

end Beside

/-! ### The stages of a move -/

section Stages

variable {gen : Text} {start : Host} {now after : Watched}

/-- The keys read as the move found them, and putting them back never failed. -/
structure Returned (start : Host) (now : Watched) : Prop where
  found : now.found = start.keys.map universal
  stuck : now.stuck = false
  keys : now.host.keys = start.keys ∧ now.replaced = false ∨
    now.host.keys = start.keys.map universal ∧ now.replaced = true

/-- The keys are a text of the move's own, which nothing has failed to put back yet. -/
structure Ours (start : Host) (now : Watched) : Prop where
  found : now.found = start.keys.map universal
  stuck : now.stuck = false
  replaced : now.replaced = true
  other : now.reads ≠ start.keys.map universal

/-- The keys are a text of the move's own, which it failed to put back. -/
structure Lost (start : Host) (now : Watched) : Prop where
  stuck : now.stuck = true
  other : now.reads ≠ start.keys.map universal

theorem universal_idem (text : Text) : universal (universal text) = universal text :=
  universal_of_clean (not_mem_universal text)

theorem Returned.reads (quiet : Returned start now) :
    now.reads = start.keys.map universal := by
  unfold Watched.reads
  rcases quiet.keys with ⟨keys, _⟩ | ⟨keys, _⟩
  · rw [keys]
  · rw [keys]
    cases start.keys with
    | none => rfl
    | some text => exact congrArg some (universal_idem text)

theorem Returned.calm (quiet : Returned start now) : now.reads = now.found :=
  quiet.reads.trans quiet.found.symm

theorem Returned.steady (quiet : Returned start now) (keys : after.host.keys = now.host.keys)
    (steady : Steady now after) : Returned start after where
  found := steady.found.trans quiet.found
  stuck := (steady.calm quiet.calm).trans quiet.stuck
  keys := by
    rw [keys, steady.replaced]
    exact quiet.keys

theorem Returned.same (quiet : Returned start now) (same : SameKeys now after) :
    Returned start after :=
  quiet.steady same.keys same.steady

theorem Ours.looked (ours : Ours start now) (looked : Looked now after) : Ours start after where
  found := looked.same.steady.found.trans ours.found
  stuck := looked.stuck.trans ours.stuck
  replaced := looked.same.steady.replaced.trans ours.replaced
  other := by
    rw [looked.same.steady.reads]
    exact ours.other

theorem Lost.steady (lost : Lost start now) (steady : Steady now after) : Lost start after where
  stuck := steady.stays lost.stuck
  other := by
    rw [steady.reads]
    exact lost.other

theorem Returned.turn {text : Text} (quiet : Returned start now)
    (other : some (universal text) ≠ start.keys.map universal)
    (turned : Turned (some text) now after) : Ours start after where
  found := turned.found.trans quiet.found
  stuck := turned.stuck.trans quiet.stuck
  replaced := by simp [turned.replaced]
  other := by
    rw [Watched.reads, turned.keys]
    exact other

theorem Ours.back (ours : Ours start now)
    (turned : Turned (start.keys.map universal) now after) : Returned start after where
  found := turned.found.trans ours.found
  stuck := turned.stuck.trans ours.stuck
  keys := Or.inr ⟨turned.keys, by simp [turned.replaced, ours.replaced]⟩

theorem Ours.putBack (cfg : Config) (ours : Ours start now) :
    Leads (putBackKeys cfg (start.keys.map universal)) (fun outcome after =>
      Agree keysReach now.host after.host ∧ (outcome = .ok () ∧ Returned start after ∨
        (∃ failure, outcome = .error failure) ∧ Lost start after)) now := by
  refine (putBackKeys_leads cfg _ now).mono ?_
  intro outcome after _ ended
  cases outcome with
  | ok value =>
      rcases ended with ⟨reads, _⟩ | turned
      · exact absurd reads ours.other
      · exact ⟨turned.agrees, Or.inl ⟨rfl, ours.back turned⟩⟩
  | error failure =>
      refine ⟨ended.same.agrees, Or.inr ⟨⟨failure, rfl⟩, ended.stuck ?_, ?_⟩⟩
      · rw [ours.found]
        exact ours.other
      · rw [ended.same.steady.reads]
        exact ours.other

/-- Everything but the keys, the `-next` files and the new generation. -/
structure Kept (gen : Text) (start : Host) (now : Watched) : Prop where
  agrees : Agree (besideReach gen) start now.host
  build : start.entry (buildName gen) = none → now.host.entry (buildName gen) = none

theorem Kept.agree (kept : Kept gen start now)
    (agrees : Agree keysReach now.host after.host) : Kept gen start after where
  agrees := kept.agrees.trans (agrees.widen (fun _ inside => inside.elim)
    (fun _ inside => inside.elim) (fun _ => trivial) id)
  build free := (agrees.entry _ not_false).trans (kept.build free)

theorem Kept.undone (kept : Kept gen start now) (undone : Undone gen now after) :
    Kept gen start after where
  agrees := kept.agrees.trans (undone.agrees.widen (fun _ inside => inside)
    (fun _ inside => Or.inl inside) (fun inside => inside.elim) id)
  build free := (undone.agrees.entry _ (buildName_ne gen)).trans (kept.build free)

/-- A move that has been undone, but for the keys. -/
structure Clean (gen : Text) (start : Host) (now : Watched) : Prop where
  kept : Kept gen start now
  entry : now.host.entry gen = none
  rule : now.host.files .sudoersNext = none
  accept : now.host.files .acceptenvNext = none
  loaded : start.loaded = start.configured → now.host.loaded = now.host.configured

end Stages

/-! ### The parts of a move -/

section Parts

variable {gen : Text} {start : Host} {now after : Watched}

/-- A cleanup runs where the program it follows ended. -/
theorem tryFinally_leads {α : Type} {program : PathProg α} {cleanup : PathProg Unit}
    {first ends : Except Failure α → Watched → Prop} (body : Leads program first now)
    (cleaned : ∀ outcome after, first outcome after → Leads cleanup (fun cleaning last =>
      match cleaning with
      | .ok _ => ends outcome last
      | .error failure => ends (.error failure) last) after) :
    Leads (Prog.tryFinally program cleanup) ends now := by
  rw [Leads, Prog.tryFinally, Prog.always_andThen]
  refine body.mono ?_
  intro outcome after _ ended
  rw [Prog.always_andThen]
  refine (cleaned outcome after ended).mono ?_
  intro cleaning last _ lastEnds
  cases cleaning with
  | ok _ => exact ⟨trivial, lastEnds⟩
  | error failure => exact ⟨trivial, lastEnds⟩

theorem onFailure_leads {α : Type} {program : PathProg α} {cleanup : PathProg Unit}
    {first ends : Except Failure α → Watched → Prop} (body : Leads program first now)
    (onValue : ∀ value after, first (.ok value) after → ends (.ok value) after)
    (undone : ∀ failure after, first (.error failure) after →
      Leads cleanup (fun cleaning last => match cleaning with
        | .ok _ => ends (.error failure) last
        | .error later => ends (.error later) last) after) :
    Leads (onFailure program cleanup) ends now := by
  rw [Leads, onFailure, Prog.tryExcept, Prog.always_andThen]
  refine body.mono ?_
  intro outcome after _ ended
  cases outcome with
  | ok value => exact ⟨trivial, onValue value after ended⟩
  | error failure =>
      refine Prog.Always.bind (undone failure after ended) ?_ ?_
      · exact fun _ last _ lastEnds => ⟨trivial, lastEnds⟩
      · exact fun later last _ lastEnds => lastEnds

/-- BESIDE touches neither the keys nor what sshd has loaded. -/
structure Besides (gen : Text) (start : Host) (undoing : Bool) (now : Watched) : Prop where
  kept : Kept gen start now
  keys : now.host.keys = start.keys
  steady : Steady (start.watched undoing) now
  loaded : now.host.loaded = start.loaded

theorem returned_watched (start : Host) (undoing : Bool) :
    Returned start (start.watched undoing) :=
  ⟨rfl, rfl, Or.inl ⟨rfl, rfl⟩⟩

theorem Besides.quiet {undoing : Bool} (besides : Besides gen start undoing now) :
    Returned start now :=
  (returned_watched start undoing).steady besides.keys besides.steady

theorem beside_leads (path : Rendered) (start : Host) (undoing : Bool)
    (free : start.entry path.gen = none) :
    Leads (beside path) (fun _ after => Besides path.gen start undoing after)
      (start.watched undoing) := by
  have within : (beside path).Only (Within ⟨fun slot => slot = .sudoersNext ∨
      slot = .acceptenvNext, fun name => name = path.gen ∨ name = buildName path.gen,
      False, False⟩) :=
    only_beside (Or.inl rfl) (Or.inr rfl) (Or.inl rfl) (Or.inr rfl)
  have quiet : (beside path).Only NoReload := by
    refine Prog.Only.bind (installGeneration_noReload _ _ _) fun _ => ?_
    refine Prog.Only.bind (write_noReload _ _ _ (by decide)) fun _ => ?_
    exact Prog.Only.bind (placeSshd_noReload _ _) fun _ => trivial
  have built : Leads (beside path) (fun _ after =>
      start.entry (buildName path.gen) = none →
        after.host.entry (buildName path.gen) = none) (start.watched undoing) := by
    unfold beside
    refine Prog.Always.bind (installGeneration_leads path.entry path.dispatcher free) ?_ ?_
    · intro _ after _ gone
      have rules : (write .sudoersNext path.rule 0o440 visudo >>= fun _ =>
          placeSshd .acceptenvNext path.accept >>= fun _ =>
            (pure () : PathProg Unit)).Only (Within nextReach) := by
        refine Prog.Only.bind (only_write (Or.inl rfl) _ _ _) fun _ => ?_
        exact Prog.Only.bind (only_placeSshd (Or.inr rfl) _) fun _ => trivial
      refine (Only.leads rules not_false).mono ?_
      rintro _ last _ ⟨agrees, _⟩ none
      exact (agrees.entry _ not_false).trans (gone none)
    · exact fun _ after _ gone => gone
  refine ((Leads.and (Only.leads within not_false) (NoReload.leads quiet)).and built).mono ?_
  rintro outcome after _ ⟨⟨⟨agrees, steady⟩, loaded⟩, build⟩
  refine ⟨⟨agrees.widen (fun _ inside => inside) (fun _ inside => inside)
    (fun _ => trivial) id, build⟩, agrees.keys not_false, steady, loaded⟩

/-- `undo`, of what BESIDE left. -/
theorem undoBeside_leads {undoing : Bool} (besides : Besides gen start undoing now)
    (unloaded : start.files .acceptenvNext = none) :
    Leads (undo gen false) (fun outcome after => outcome = .ok () ∧ Clean gen start after ∧
      Returned start after) now := by
  refine (undo_leads gen false now).mono ?_
  rintro outcome after _ ⟨ok, undone, loaded⟩
  have kept := besides.kept.undone undone
  refine ⟨ok, ⟨kept, undone.entry, undone.rule, undone.accept, ?_⟩,
    besides.quiet.steady (undone.agrees.keys not_false) undone.steady⟩
  intro before
  rcases loaded with reloaded | ⟨_, same⟩
  · exact reloaded
  · rw [same, besides.loaded, before, Host.configured, Host.configured, undone.accept,
      unloaded, kept.agrees.files .acceptenv (by simp [besideReach])]

/-- `undo`, once sshd was asked to reload. -/
theorem undoReloaded_leads (kept : Kept gen start now) :
    Leads (undo gen true) (fun outcome after => outcome = .ok () ∧ Clean gen start after ∧
      (Returned start now → Returned start after) ∧ (Lost start now → Lost start after)) now := by
  refine (undo_leads gen true now).mono ?_
  rintro outcome after _ ⟨ok, undone, loaded⟩
  refine ⟨ok, ⟨kept.undone undone, undone.entry, undone.rule, undone.accept, ?_⟩, ?_, ?_⟩
  · rintro -
    rcases loaded with reloaded | ⟨impossible, _⟩
    · exact reloaded
    · cases impossible
  · exact fun quiet => quiet.steady (undone.agrees.keys not_false) undone.steady
  · exact fun lost => lost.steady undone.steady

end Parts

/-! ### PROOF -/

section Proof

variable {gen : Text} {start : Host} {now after : Watched} (py : Builtins)

/-- The proof's keys are more than the keys it was given. -/
theorem proofKeys_other (gen : Text) (keys : Option Text) (pub expires : Text) :
    some (universal (proofKeys gen (keys.map universal) pub expires)) ≠
      keys.map universal := by
  cases keys with
  | none => simp
  | some text =>
      intro same
      have clean : '\r' ∉ universal text := not_mem_universal text
      obtain ⟨before, ended⟩ := universal_newline (keyLine (entryPath gen) pub true expires)
      have longer := congrArg List.length (Option.some.inj same)
      simp only [proofKeys, Option.map_some, Option.getD_some] at longer
      split at longer
      · rw [universal_append clean, ended []] at longer
        simp at longer
      · rw [universal_append (by simp [clean]), ended []] at longer
        simp at longer

/-- Operations that neither touch the keys nor change what stands on the host. -/
def Untouched (op : Op) : Prop :=
  Within noReach op ∧ touchesKeys op = false

theorem Untouched.leads {α : Type} {program : PathProg α} (only : program.Only Untouched)
    (now : Watched) : Leads program (fun _ after => Looked now after) now := by
  have here : Looked now now := ⟨⟨Agree.refl _ _, rfl, Steady.refl _⟩, rfl⟩
  have kept : program.Always watch (Looked now) (fun _ _ => True) now := by
    refine only.always ?_ here
    rintro op ⟨within, untouched⟩ before choice looked
    have agrees := agree_perform within before.host (before.granted choice op)
    refine looked.trans ⟨⟨agrees.ofNoReach, agrees.keys not_false,
      steady_watch within not_false before choice⟩, ?_⟩
    simp [watch, Watched.sticks, untouched]
  exact (kept.mono fun _ _ looked _ => looked).weaken fun _ _ => trivial

theorem ask_untouched {op : Op} (untouched : Untouched op) : (ask op).Only Untouched :=
  ⟨untouched, fun _ => trivial⟩

theorem dispatch_untouched (argv : List Text) (more : Nat) :
    (dispatch argv more).Only Untouched := by
  induction more with
  | zero => exact ask_untouched ⟨trivial, rfl⟩
  | succ more ih =>
      refine Prog.Only.bind (ask_untouched ⟨trivial, rfl⟩) fun ran => ?_
      split
      · exact ih
      · trivial

theorem prove_untouched (cfg : Config) (key gen : Text) :
    (prove py cfg key gen).Only Untouched := by
  refine Prog.Only.bind (ask_untouched ⟨trivial, rfl⟩) fun nonce => ?_
  refine Prog.Only.bind (dispatch_untouched _ _) fun ran => ?_
  split
  · trivial
  · exact Prog.Only.bind (dispatch_untouched _ _) fun _ => trivial

/-- A stage of PROOF: the keys are the ones found, or the move's own. -/
structure Proving (gen : Text) (start : Host) (now : Watched) : Prop where
  kept : Kept gen start now
  keys : Returned start now ∨ Ours start now

theorem Proving.looked (proving : Proving gen start now) (looked : Looked now after) :
    Proving gen start after := by
  refine ⟨proving.kept.agree looked.same.agrees, ?_⟩
  rcases proving.keys with quiet | ours
  · exact Or.inl (quiet.same looked.same)
  · exact Or.inr (ours.looked looked)

/-- The keys are the ones found, unless putting them back failed. -/
structure Tried (gen : Text) (start : Host) (now : Watched) : Prop where
  kept : Kept gen start now
  keys : Returned start now ∨ Lost start now

theorem Tried.same (tried : Tried gen start now) (same : SameKeys now after) :
    Tried gen start after := by
  refine ⟨tried.kept.agree same.agrees, ?_⟩
  rcases tried.keys with quiet | lost
  · exact Or.inl (quiet.same same)
  · exact Or.inr (lost.steady same.steady)

/-- How PROOF ends: it returns with the keys put back. -/
def Proven {α : Type} (gen : Text) (start : Host) (outcome : Except Failure α)
    (now : Watched) : Prop :=
  Tried gen start now ∧ (∀ value, outcome = .ok value → Returned start now)

theorem quiet_leads {α : Type} {program : PathProg α} (only : program.Only (Within noReach))
    (kept : Kept gen start now) (quiet : Returned start now) :
    Leads program (fun _ after => Kept gen start after ∧ Returned start after) now :=
  (sameKeys_leads only now).mono fun _ _ _ same => ⟨kept.agree same.agrees, quiet.same same⟩

theorem proven_of_quiet {α : Type} {outcome : Except Failure α}
    (ended : Kept gen start now ∧ Returned start now) : Proven gen start outcome now :=
  ⟨⟨ended.1, Or.inl ended.2⟩, fun _ _ => ended.2⟩

theorem putBack_proven (cfg : Config) (proving : Proving gen start now) :
    Leads (putBackKeys cfg (start.keys.map universal))
      (fun outcome after => Proven gen start outcome after) now := by
  rcases proving.keys with quiet | ours
  · refine (putBackKeys_leads cfg _ now).mono ?_
    intro outcome after _ ended
    cases outcome with
    | ok value =>
        rcases ended with ⟨_, same⟩ | turned
        · exact proven_of_quiet ⟨proving.kept.agree same.agrees, quiet.same same⟩
        · exact absurd quiet.reads turned.other
    | error failure =>
        exact proven_of_quiet
          ⟨proving.kept.agree ended.same.agrees, quiet.same ended.same⟩
  · refine (ours.putBack cfg).mono ?_
    rintro outcome after _ ⟨agrees, ⟨rfl, quiet⟩ | ⟨⟨failure, rfl⟩, lost⟩⟩
    · exact proven_of_quiet ⟨proving.kept.agree agrees, quiet⟩
    · exact ⟨⟨proving.kept.agree agrees, Or.inr lost⟩, by simp⟩

theorem proveBeside_leads (cfg : Config) (kept : Kept gen start now)
    (quiet : Returned start now) :
    Leads (proveBeside py cfg gen (start.keys.map universal))
      (fun outcome after => Proven gen start outcome after) now := by
  have quietly {α : Type} {op : Op} (within : Within noReach op) {state : Watched}
      (stateKept : Kept gen start state) (stateQuiet : Returned start state)
      {next : Res op → PathProg α} (rest : ∀ value later, Kept gen start later →
        Returned start later → Leads (next value)
          (fun outcome after => Proven gen start outcome after) later) :
      Leads (ask op >>= next) (fun outcome after => Proven gen start outcome after)
        state := by
    refine Prog.Always.bind (quiet_leads (only_ask within) stateKept stateQuiet) ?_ ?_
    · exact fun value later _ ends => rest value later ends.1 ends.2
    · exact fun failure later _ ends => proven_of_quiet ends
  unfold proveBeside
  refine quietly (by trivial) kept quiet ?_
  intro dir made madeKept madeQuiet
  refine @tryFinally_leads _ _ _ _ (fun outcome after => Proven gen start outcome after) _
    ?_ ?_
  · refine quietly (by trivial) madeKept madeQuiet ?_
    intro ran minted mintedKept mintedQuiet
    split
    · exact ⟨trivial, proven_of_quiet ⟨mintedKept, mintedQuiet⟩⟩
    · refine quietly (by trivial) mintedKept mintedQuiet ?_
      intro pub read readKept readQuiet
      refine quietly (by trivial) readKept readQuiet ?_
      intro expires dated datedKept datedQuiet
      refine Prog.Always.bind (writeKeys_leads cfg _ dated) ?_ ?_
      · intro wrote written _ ended
        have proving : Proving gen start written := by
          rcases ended with ⟨_, same⟩ | turned
          · exact ⟨datedKept.agree same.agrees, Or.inl (datedQuiet.same same)⟩
          · exact ⟨datedKept.agree turned.agrees,
              Or.inr (datedQuiet.turn (proofKeys_other _ _ _ _) turned)⟩
        refine tryFinally_leads (Untouched.leads (prove_untouched py cfg _ gen) written) ?_
        intro outcome proved looked
        refine (putBack_proven cfg (proving.looked looked)).mono ?_
        intro cleaning last _ ended
        cases cleaning with
        | ok _ => exact ⟨ended.1, fun _ _ => ended.2 _ rfl⟩
        | error failure => exact ⟨ended.1, by simp⟩
      · exact fun failure written _ stayed =>
          proven_of_quiet ⟨datedKept.agree stayed.same.agrees, datedQuiet.same stayed.same⟩
  · intro outcome ended proven
    have removes : (ask (.removeProofDir dir)).Only (Within noReach) := only_ask (by trivial)
    refine (sameKeys_leads removes ended).mono ?_
    intro cleaning last _ same
    have tried := proven.1.same same
    cases cleaning with
    | ok _ => exact ⟨tried, fun value returned => (proven.2 value returned).same same⟩
    | error failure => exact ⟨tried, by simp⟩

theorem proof_leads (path : Rendered) (kept : Kept path.gen start now)
    (quiet : Returned start now) :
    Leads (proof py path (start.keys.map universal))
      (fun outcome after => Proven path.gen start outcome after) now := by
  unfold proof
  refine Prog.Always.bind (quiet_leads only_sshdReload kept quiet) ?_ ?_
  · rintro _ reloaded _ ⟨reloadedKept, reloadedQuiet⟩
    refine Prog.Always.bind (proveBeside_leads py path.cfg reloadedKept reloadedQuiet) ?_ ?_
    · intro reasons proved _ proven
      split
      · exact ⟨trivial, ⟨proven.1, by simp⟩⟩
      · exact ⟨trivial, ⟨proven.1, fun _ _ => proven.2 reasons rfl⟩⟩
    · exact fun failure proved _ proven => ⟨proven.1, by simp⟩
  · exact fun failure reloaded _ ends => proven_of_quiet ends

end Proof

/-! ### The move -/

section Move

variable {start : Host} {now after : Watched} (py : Builtins)

/-- What a move that raises leaves. -/
def Undid (gen : Text) (start : Host) (now : Watched) : Prop :=
  Clean gen start now ∧ Returned start now ∨ Lost start now

theorem undoProof_leads {gen : Text} (tried : Tried gen start now) :
    Leads (undo gen true) (fun cleaning last => match cleaning with
      | .ok _ => Undid gen start last
      | .error _ => Undid gen start last) now := by
  refine (undoReloaded_leads tried.kept).mono ?_
  rintro outcome last _ ⟨rfl, clean, quietStays, lostStays⟩
  rcases tried.keys with quiet | lost
  · exact Or.inl ⟨clean, quietStays quiet⟩
  · exact Or.inr (lostStays lost)

/-- The panel's line on the new generation, not yet proven. -/
structure Moved (gen : Text) (start : Host) (now : Watched) : Prop where
  kept : Kept gen start now
  ours : Ours start now

theorem switched_leads (path : Rendered) (moved : Moved path.gen start now) :
    Leads (onFailure (switched py path) do
      putBackKeys path.cfg (start.keys.map universal)
      undo path.gen true) (fun outcome after => ∀ failure, outcome = .error failure →
        Undid path.gen start after) now := by
  have proves : (switched py path).Only Untouched := by
    refine Prog.Only.bind (prove_untouched py _ _ _) fun reasons => ?_
    split <;> trivial
  refine onFailure_leads (Untouched.leads proves now) ?_ ?_
  · intro value after _ failure impossible
    cases impossible
  · intro failure failed looked
    refine Prog.Always.bind ((moved.ours.looked looked).putBack path.cfg) ?_ ?_
    · rintro _ back _ ⟨agrees, ⟨_, quiet⟩ | ⟨⟨_, impossible⟩, _⟩⟩
      · have kept := (moved.kept.agree looked.same.agrees).agree agrees
        refine (undoReloaded_leads kept).mono ?_
        rintro outcome last _ ⟨rfl, clean, quietStays, _⟩
        exact fun _ _ => Or.inl ⟨clean, quietStays quiet⟩
      · cases impossible
    · rintro failure back _ ⟨_, ⟨impossible, _⟩ | ⟨_, lost⟩⟩
      · cases impossible
      · exact fun _ _ => Or.inr lost

/-- A move that raises has been undone, unless a text of its own is still in
the runner's keys. -/
theorem move_leads (path : Rendered) (undoing : Bool) (free : start.entry path.gen = none)
    (unloaded : start.files .acceptenvNext = none)
    (other : some (universal path.panelKeys) ≠ start.keys.map universal)
    (clean : '\r' ∉ path.panelKeys) :
    Leads (move py path (start.keys.map universal))
      (fun outcome after => ∀ failure, outcome = .error failure →
        Undid path.gen start after) (start.watched undoing) := by
  unfold move
  have beginning : Leads (onFailure (beside path) (undo path.gen false))
      (fun outcome after => match outcome with
        | .ok _ => Besides path.gen start undoing after
        | .error _ => Undid path.gen start after) (start.watched undoing) := by
    refine onFailure_leads (beside_leads path start undoing free) ?_ ?_
    · exact fun value after besides => besides
    · intro failure failed besides
      refine (undoBeside_leads besides unloaded).mono ?_
      rintro outcome last _ ⟨rfl, ends⟩
      exact Or.inl ends
  refine Prog.Always.bind beginning ?_ fun failure failed _ undid _ _ => undid
  intro _ placed _ besides
  have proving : Leads (onFailure (proof py path (start.keys.map universal))
      (undo path.gen true)) (fun outcome after => match outcome with
        | .ok _ => Kept path.gen start after ∧ Returned start after
        | .error _ => Undid path.gen start after) placed := by
    refine onFailure_leads (proof_leads py path besides.kept besides.quiet) ?_ ?_
    · exact fun value after proven => ⟨proven.1.kept, proven.2 value rfl⟩
    · intro failure failed proven
      refine (undoProof_leads proven.1).mono ?_
      intro outcome last _ ended
      cases outcome <;> exact ended
  refine Prog.Always.bind proving ?_ fun failure failed _ undid _ _ => undid
  rintro _ proved _ ⟨kept, quiet⟩
  have moving : Leads (onFailure (writeKeys path.cfg path.panelKeys) (undo path.gen true))
      (fun outcome after => match outcome with
        | .ok _ => Moved path.gen start after
        | .error _ => Undid path.gen start after) proved := by
    refine onFailure_leads (writeKeys_leads path.cfg path.panelKeys proved) ?_ ?_
    · rintro value after (⟨same, _⟩ | turned)
      · rw [quiet.reads, ← universal_of_clean clean] at same
        exact absurd same.symm other
      · exact ⟨kept.agree turned.agrees, quiet.turn other turned⟩
    · intro failure failed stayed
      refine (undoProof_leads
        ⟨kept.agree stayed.same.agrees, Or.inl (quiet.same stayed.same)⟩).mono ?_
      intro outcome last _ ended
      cases outcome <;> exact ended
  refine Prog.Always.bind moving ?_ fun failure failed _ undid _ _ => undid
  exact fun _ moved _ ended => switched_leads py path ended

/-- The restored keys are the keys that were found when no carriage return was
read as a line end. -/
theorem map_universal_eq_iff (keys : Option Text) :
    keys.map universal = keys ↔ ∀ text, keys = some text → '\r' ∉ text := by
  cases keys with
  | none => simp
  | some text =>
      simp only [Option.map_some, Option.some.injEq, forall_eq']
      constructor
      · intro same
        rw [← same]
        exact not_mem_universal text
      · exact universal_of_clean

theorem owned_perform (host : Host) (choice : Choice) (op : Op) :
    (perform host choice op).1.runner = host.runner ∧
      (perform host choice op).1.keysOwned =
        if replaces op (perform host choice op).2 then host.runnersOwn else host.keysOwned := by
  unfold perform
  split
  · cases op with
    | removeTree name ignoreErrors =>
        simp only [fail, Host.thin]
        split <;> exact ⟨rfl, rfl⟩
    | _ => exact ⟨rfl, rfl⟩
  · cases op with
    | run argv =>
        simp only [act]
        split <;> exact ⟨rfl, rfl⟩
    | removeTree name ignoreErrors =>
        simp only [act, Host.removeTree]
        split <;> exact ⟨rfl, rfl⟩
    | renameDir source target =>
        simp only [act, Host.rename]
        split <;> exact ⟨rfl, rfl⟩
    | chmodDir name =>
        simp only [act, Host.inDirectory]
        split <;> exact ⟨rfl, rfl⟩
    | writeIn name file text =>
        simp only [act, Host.inDirectory]
        split <;> exact ⟨rfl, rfl⟩
    | chmodIn name file =>
        simp only [act, Host.inDirectory]
        split <;> exact ⟨rfl, rfl⟩
    | replaceKeys =>
        cases tmp : host.keysTmp with
        | none => simp [act, tmp, replaces]
        | some text => simp [act, tmp, replaces]
    | replaceFile slot =>
        simp only [act]
        split <;> exact ⟨rfl, rfl⟩
    | makeDir name =>
        simp only [act]
        split <;> exact ⟨rfl, rfl⟩
    | unlinkEntry name =>
        simp only [act]
        split <;> exact ⟨rfl, rfl⟩
    | replaceLink =>
        simp only [act]
        split <;> exact ⟨rfl, rfl⟩
    | _ => exact ⟨rfl, rfl⟩

/-- The keys are the runner's own once they were replaced. -/
structure OwnedBy (start : Host) (now : Watched) : Prop where
  runner : now.host.runner = start.runner
  owned : now.host.keysOwned = if now.replaced then start.runnersOwn else start.keysOwned

theorem OwnedBy.watch (owned : OwnedBy start now) (choice : Choice) (op : Op) :
    OwnedBy start (watch now choice op).1 := by
  obtain ⟨runner, keys⟩ := owned_perform now.host (now.granted choice op) op
  have own : now.host.runnersOwn = start.runnersOwn := by
    rw [Host.runnersOwn, owned.runner, Host.runnersOwn]
  refine ⟨runner.trans owned.runner, keys.trans ?_⟩
  rw [own, owned.owned]
  cases before : now.replaced <;>
    cases again : replaces op (perform now.host (now.granted choice op) op).2 <;>
      simp [Catena.Dispatch.watch, Watched.moved, before, again]

theorem ownedBy_run {α : Type} (program : PathProg α) (start : Host) (choices : List Choice) :
    OwnedBy start (program.run watch choices (start.watched false)).1 := by
  have always : program.Always watch (OwnedBy start) (fun _ _ => True) (start.watched false) := by
    have all : program.Only fun _ => True := by
      induction program with
      | done outcome => trivial
      | step op next ih => exact ⟨trivial, fun answer => ih answer⟩
    exact all.always (fun op _ before choice owned => owned.watch choice op) ⟨rfl, rfl⟩
  exact always.run choices

/-- What a move that raised leaves is what it found when no operation that put the keys
back failed, and putting them back, if they were replaced, was no change. -/
theorem Undid.restored_iff {gen : Text} (undid : Undid gen start now) (owned : OwnedBy start now)
    (rule : start.files .sudoersNext = none) (accept : start.files .acceptenvNext = none)
    (free : start.entry gen = none) :
    Restored gen start now.host ↔ now.stuck = false ∧ (now.replaced = false ∨
      ∀ text, start.keys = some text → '\r' ∉ text ∧ start.keysOwned = start.runnersOwn) := by
  rcases undid with ⟨clean, quiet⟩ | lost
  · have restored (keys : now.host.keys = start.keys)
        (same : start.keys.isSome = true → now.host.keysOwned = start.keysOwned) :
        Restored gen start now.host := by
      refine ⟨keys, same, ?_, clean.kept.agrees.link id, ?_, clean.loaded⟩
      · intro slot
        cases slot with
        | sudoersNext => rw [clean.rule, rule]
        | acceptenvNext => rw [clean.accept, accept]
        | _ => exact clean.kept.agrees.files _ (by simp [besideReach])
      · rintro name (elsewhere | absent)
        · by_cases same : name = gen
          · rw [same, clean.entry, free]
          · exact clean.kept.agrees.entry name (by simp [besideReach, same, elsewhere])
        · by_cases same : name = gen
          · rw [same, clean.entry, free]
          · by_cases built : name = buildName gen
            · subst built
              rw [clean.kept.build absent, absent]
            · exact clean.kept.agrees.entry name (by simp [besideReach, same, built])
    have owner := owned.owned
    constructor
    · intro back
      refine ⟨quiet.stuck, ?_⟩
      rcases quiet.keys with ⟨_, never⟩ | ⟨keys, often⟩
      · exact Or.inl never
      · right
        intro text found
        refine ⟨(map_universal_eq_iff _).mp (keys.symm.trans back.keys) text found, ?_⟩
        rw [often, if_pos rfl] at owner
        rw [← owner, back.owned (by rw [found]; rfl)]
    · rintro ⟨_, unchanged⟩
      rcases quiet.keys with ⟨keys, never⟩ | ⟨keys, often⟩
      · refine restored keys fun _ => ?_
        rw [owner, never, if_neg (by decide)]
      · have settled := unchanged.resolve_left (by rw [often]; decide)
        refine restored ?_ ?_
        · rw [keys]
          exact (map_universal_eq_iff _).mpr fun text found => (settled text found).1
        · intro stands
          obtain ⟨text, found⟩ := Option.isSome_iff_exists.mp stands
          rw [owner, often, if_pos rfl, (settled text found).2]
  · constructor
    · intro back
      exact absurd (congrArg (Option.map universal) back.keys) lost.other
    · rintro ⟨never, _⟩
      rw [lost.stuck] at never
      cases never

end Move

/-! ### Refused moves -/

/-- One operation of a run of a move: the state it finds, and the choice for it. -/
abbrev MoveStep := Watched × Op × Choice

/-- The operation fails while the keys are a text of the run's own: putting them back
fails. -/
def MoveStep.failsBack (step : MoveStep) : Bool :=
  step.1.sticks step.2.2 step.2.1

/-- The operation puts another text in place of the keys. -/
def MoveStep.replacesKeys (step : MoveStep) : Bool :=
  replaces step.2.1 (watch step.1 step.2.2 step.2.1).2

/-- A move that raises, on a host with no `-next` files and no directory for the new
generation, leaves the host as it found it exactly when no operation that puts the
runner's keys back fails, and either none replaces them or the file had neither line ends
that reading translates nor another owner or mode than a replacement has. -/
theorem refused_move_restores_iff {sha256 : Text → Text} (hex : HexDigest sha256)
    (py : Builtins) (cfg : Config) (start : Host)
    (isKey : isPanelKey start.panelKey = true) (blob : keyBlob start.panelKey ≠ [])
    (elsewhere : start.running ≠ .generation (generation sha256 cfg))
    (rule : start.files .sudoersNext = none) (accept : start.files .acceptenvNext = none)
    (free : start.entry (generation sha256 cfg) = none) (choices : List Choice)
    {stop : Watched} {failure : Failure}
    (raised : (move py (start.rendered sha256 cfg) (start.keys.map universal)).run watch
      choices (start.watched false) = (stop, some (.error failure))) :
    let steps := (move py (start.rendered sha256 cfg) (start.keys.map universal)).steps watch
      choices (start.watched false)
    Restored (generation sha256 cfg) start stop.host ↔
      (∀ step ∈ steps, MoveStep.failsBack step = false) ∧
        ((∀ step ∈ steps, MoveStep.replacesKeys step = false) ∨
          ∀ text, start.keys = some text → '\r' ∉ text ∧ start.keysOwned = start.runnersOwn) := by
  have renders : Renders (start.rendered sha256 cfg) start :=
    ⟨hex.isGeneration cfg, rfl, isKey, blob⟩
  have clean : '\r' ∉ (start.rendered sha256 cfg).panelKeys :=
    panelKeys_clean renders.named isKey
  have other : some (universal (start.rendered sha256 cfg).panelKeys) ≠
      start.keys.map universal := by
    intro same
    exact elsewhere (running_of_panelLine renders (renders.line rfl same.symm))
  have undid := (move_leads py (start.rendered sha256 cfg) false free accept other
    clean).outcome (congrArg Prod.snd raised) failure rfl
  have owned := ownedBy_run (move py (start.rendered sha256 cfg) (start.keys.map universal))
    start choices
  have stuck := Prog.run_raised watch Watched.stuck MoveStep.failsBack (fun _ _ _ => rfl)
    (move py (start.rendered sha256 cfg) (start.keys.map universal)) choices
    (start.watched false)
  have replaced := Prog.run_raised watch Watched.replaced MoveStep.replacesKeys
    (fun _ _ _ => rfl) (move py (start.rendered sha256 cfg) (start.keys.map universal)) choices
    (start.watched false)
  rw [raised] at undid owned stuck replaced
  intro steps
  have restored : Restored (generation sha256 cfg) start stop.host ↔ _ :=
    undid.restored_iff owned rule accept free
  rw [restored, stuck, replaced]
  simp only [Host.watched, Bool.false_or, List.any_eq_false, Bool.not_eq_true]
  rfl

/-- A host whose runner has another key alone. -/
def otherKeyHost (line : String) : Host :=
  { sampleHost with
    keys := some line.toList
    loaded := sampleHost.configured }

/-- Where the move to the second sample stops when no proof is answered. -/
def unansweredMove (line : String) : Watched × Option (Except Failure Unit) :=
  (move Builtins.unused ((otherKeyHost line).rendered sampleSha256 secondConfig)
    ((otherKeyHost line).keys.map universal)).run watch (List.replicate 60 .ok)
      ((otherKeyHost line).watched false)

/-- Whether the run raised. -/
def raises {α : Type} : Option (Except Failure α) → Bool
  | some (.error _) => true
  | _ => false

theorem raises_eq {World α : Type} {stopped : World × Option (Except Failure α)}
    (raised : raises stopped.2 = true) :
    ∃ failure, stopped = (stopped.1, some (.error failure)) := by
  match stopped, raised with
  | (world, some (.error failure)), _ => exact ⟨failure, rfl⟩

/-- The refused move has put another key's line back without its carriage
return. -/
theorem refused_move_drops_carriage_return :
    (otherKeyHost "ssh-ed25519 AAAA admin\r\n").files .sudoersNext = none ∧
      (otherKeyHost "ssh-ed25519 AAAA admin\r\n").files .acceptenvNext = none ∧
      (otherKeyHost "ssh-ed25519 AAAA admin\r\n").entry
        (generation sampleSha256 secondConfig) = none ∧
      raises (unansweredMove "ssh-ed25519 AAAA admin\r\n").2 = true ∧
      ¬ Restored (generation sampleSha256 secondConfig)
        (otherKeyHost "ssh-ed25519 AAAA admin\r\n")
        (unansweredMove "ssh-ed25519 AAAA admin\r\n").1.host := by
  refine ⟨rfl, rfl, by decide, by decide, ?_⟩
  intro restored
  have keys : (unansweredMove "ssh-ed25519 AAAA admin\r\n").1.host.keys =
      some "ssh-ed25519 AAAA admin\n".toList := by
    decide
  rw [restored.keys] at keys
  exact absurd keys (by decide)

/-- Without a carriage return the same move leaves the host as it was, though it has
replaced the keys. -/
theorem refused_move_restores :
    raises (unansweredMove "ssh-ed25519 AAAA admin\n").2 = true ∧
      (unansweredMove "ssh-ed25519 AAAA admin\n").1.replaced = true ∧
      Restored (generation sampleSha256 secondConfig)
        (otherKeyHost "ssh-ed25519 AAAA admin\n")
        (unansweredMove "ssh-ed25519 AAAA admin\n").1.host := by
  have raised : raises (unansweredMove "ssh-ed25519 AAAA admin\n").2 = true := by
    decide
  have replaced : (unansweredMove "ssh-ed25519 AAAA admin\n").1.replaced = true := by
    decide
  obtain ⟨failure, ended⟩ := raises_eq raised
  refine ⟨raised, replaced, ?_⟩
  refine (refused_move_restores_iff sampleSha256_hex Builtins.unused secondConfig
    (otherKeyHost "ssh-ed25519 AAAA admin\n") (by decide) (by decide)
    (by decide) rfl rfl (by decide) (List.replicate 60 .ok)
    ended).mpr ⟨?_, Or.inr ?_⟩
  · decide
  · intro text same
    cases same
    exact ⟨by decide, rfl⟩

end Catena.Dispatch

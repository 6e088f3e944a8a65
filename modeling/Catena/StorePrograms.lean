import Catena.Loader
import Catena.ResticHost

/-!
# The store's writers as programs

The settings write and the converge loader of `onbox_config`, operation by
operation, beside the restic password program.  Each of the three reads the
store once, works on what it read, and puts a document in its place; the first
two hold the store lock around it, the third holds none.
-/

namespace Catena.StoreWriters

open Catena.ResticKey (Op Res Quiet HostProg ask)

/-- `dump`. -/
def dumpStore (store : Store) : HostProg Unit := do
  let _ ← ask (.quiet .makeStoreDirectory)
  let file ← ask .readStore
  let document ← Prog.lift (Store.dump store file)
  let _ ← ask .openStoreTmp
  let _ ← Prog.tryFinally (ask (.writeStoreTmp document))
    (ask (.quiet .closeStoreTmp))
  let _ ← ask .replaceStore
  ask (.quiet .chmodStore)

/-- `with store_lock(): ...`, around one read and what is made of it. -/
def withStoreLock {α : Type} (body : HostProg α) : HostProg α := do
  let _ ← ask .lockStore
  Prog.tryFinally body (ask .unlockStore)

def readStore : HostProg Store := do
  let file ← ask .readStore
  Prog.lift (Store.load file)

/-- What a settings write makes of the store it read. -/
def writtenBy (py : Builtins) (fields : List (String × Json)) (store : Store) :
    Except PyError Store := do
  let (applied, _) ← Store.applyInputs py
    ((PyDict.get fields "secrets").getD .null)
    ((PyDict.get fields "config").getD .null) true store
  return applied

/-- What a run answers: `{"ok": true}` or exit code 0, or the reply of the password
program. -/
inductive Answer where
  | done
  | reply (reply : ResticKey.Reply)
  deriving DecidableEq

def Answer.accepted : Answer → Bool
  | .done => true
  | .reply answer => answer.accepted

/-- The `write` request of the settings API. -/
def settingsWrite (py : Builtins) (fields : List (String × Json)) :
    HostProg Answer :=
  withStoreLock do
    let store ← readStore
    let store ← Prog.lift (writtenBy py fields store)
    dumpStore store
    return .done

/-- What the converge loader makes of the store it read. -/
def loadedBy (py : Builtins) (draw : String → Store.Minter → String)
    (args : Store.LoaderArgs) (incoming : List (String × Json)) (store : Store) :
    Except PyError Store := do
  let adopted := (Store.adopt args.overwrite incoming store).1
  let secretsIn ← Store.parseKv py args.setSecret []
  let configIn ← Store.parseKv py args.setConfig []
  let (applied, _) ← Store.applyInputs py (.obj secretsIn) (.obj configIn)
    args.overwrite adopted
  Store.mint py draw args.mintMode (Store.settleTailnetProvider py applied).1

def convergeLoader (py : Builtins) (draw : String → Store.Minter → String)
    (args : Store.LoaderArgs) : HostProg Answer := do
  let incoming ← Prog.lift (Store.readAdopt args.adopt)
  withStoreLock do
    let store ← readStore
    let store ← Prog.lift (loadedBy py draw args incoming store)
    dumpStore store
    return .done

/-- A run of `catena-restic-key`. -/
def resticKey (py : Builtins) (request : Json) : HostProg Answer := do
  let reply ← ResticKey.main py request
  return .reply reply

/-- The new restic password, where the reply says that there is one: the one it brings, or
the one that was asked for. -/
def newPassword (py : Builtins) (fields : PyDict String Json) : ResticKey.Reply → Option String
  | .minted password => some password
  | .ok => some (Json.textOr py (PyDict.get fields "new_password"))
  | _ => none

/-- The two parts of the store the writers share. -/
inductive Part where
  | secrets
  | config
  deriving DecidableEq

def Part.of (part : Part) (store : Store) : PyDict String Json :=
  match part with
  | secrets => store.secrets
  | config => store.config

/-- The value of a key, in the store a file holds. -/
def valueIn (file : Option Json) (part : Part) (key : String) : Option Json :=
  match Store.load file with
  | .ok store => PyDict.get (part.of store) key
  | .error _ => none

def HoldsPassword (password : String) (document : Json) : Prop :=
  valueIn (some document) .secrets "backup_restic_password" = some (.str password)

theorem holdsPassword_of_dump {store : Store} (distinct : Store.DistinctKeys store)
    {password : String} {again : Option Json} {document : Json}
    (dumped : Store.dump (ResticKey.withPassword store password) again = .ok document) :
    HoldsPassword password document := by
  have setDistinct : Store.DistinctKeys (ResticKey.withPassword store password) :=
    ⟨PyDict.nodup_keys_set distinct.secrets _ _, distinct.config⟩
  simp only [HoldsPassword, valueIn, Store.load_dump setDistinct dumped, Part.of,
    ResticKey.withPassword, PyDict.get_set_same]

/-- Where a writer is: before its lock, before its read, with the file it
read, with a document beside the store, with that document in its place, or
out of it without one. -/
inductive Phase where
  | start
  | ready
  | seen (file : Option Json)
  | sibling (file : Option Json) (document : Json)
  | wrote (file : Option Json) (document : Json)
  | over
  | astray

/-- The operations that leave the store, its sibling and its lock alone. -/
def IsFree : Op → Bool
  | .lockStore => false
  | .unlockStore => false
  | .readStore => false
  | .openStoreTmp => false
  | .writeStoreTmp _ => false
  | .replaceStore => false
  | _ => true

/-- The phase after an operation and its answer.  A writer that does not keep
to the phases is astray. -/
def Phase.after (phase : Phase) : (op : Op) → Except PyError (Res op) → Phase
  | .lockStore, answer =>
      match phase, answer with
      | .start, .ok _ => .ready
      | .start, .error _ => .over
      | _, _ => .astray
  | .unlockStore, _ =>
      match phase with
      | .wrote file document => .wrote file document
      | .astray => .astray
      | _ => .over
  | .readStore, answer =>
      match phase, answer with
      | .ready, .ok file => .seen file
      | .ready, .error _ => .over
      | .seen file, _ => .seen file
      | _, _ => .astray
  | .openStoreTmp, _ =>
      match phase with
      | .seen file => .seen file
      | _ => .astray
  | .writeStoreTmp document, answer =>
      match phase, answer with
      | .seen file, .ok _ => .sibling file document
      | .seen file, .error _ => .seen file
      | _, _ => .astray
  | .replaceStore, answer =>
      match phase, answer with
      | .sibling file document, .ok _ => .wrote file document
      | .sibling _ _, .error _ => .over
      | _, _ => .astray
  | _, _ => phase

theorem Phase.after_of_isFree {op : Op} (isFree : IsFree op = true)
    (phase : Phase) (answer : Except PyError (Res op)) :
    phase.after op answer = phase := by
  cases op <;> first | rfl | simp [IsFree] at isFree

def followPhase (phase : Phase) (answers : (op : Op) → Except PyError (Res op))
    (op : Op) : Phase × Except PyError (Res op) :=
  (phase.after op (answers op), answers op)

/-- Not astray, and a document is one the writer makes of the file it read. -/
def OnTrack (drafts : Option Json → Json → Prop) : Phase → Prop
  | .sibling file document => drafts file document
  | .wrote file document => drafts file document
  | .astray => False
  | _ => True

section Keeps

variable (drafts : Option Json → Json → Prop) {α β : Type}

/-- A program keeps to the phases, whatever its operations answer, and ends
with the values `ends` allows. -/
def Keeps (ends : α → Phase → Prop) (program : HostProg α) (phase : Phase) :
    Prop :=
  program.Always followPhase (OnTrack drafts)
    (fun outcome after => ∀ value, outcome = .ok value → ends value after) phase

variable {drafts} {ends : α → Phase → Prop} {phase : Phase}

theorem Keeps.step {op : Op} {next : Except PyError (Res op) → HostProg α}
    (keeps : Keeps drafts ends (.step op next) phase)
    (answer : Except PyError (Res op)) :
    Keeps drafts ends (next answer) (phase.after op answer) := by
  classical
  have stepped := keeps.2 fun other =>
    if same : other = op then same ▸ answer else .error .osError
  unfold Keeps
  simpa [followPhase] using stepped

theorem Keeps.mono {weaker : α → Phase → Prop} {program : HostProg α}
    (keeps : Keeps drafts ends program phase)
    (implied : ∀ value after, ends value after → weaker value after) :
    Keeps drafts weaker program phase :=
  Prog.Always.mono keeps fun _ after _ ended value ok =>
    implied value after (ended value ok)

theorem Keeps.bind {last : β → Phase → Prop} {program : HostProg α}
    {next : α → HostProg β} (first : Keeps drafts ends program phase)
    (rest : ∀ value after, OnTrack drafts after → ends value after →
      Keeps drafts last (next value) after) :
    Keeps drafts last (program >>= next) phase := by
  apply Prog.Always.bind first
  · intro value after onTrack ended
    exact rest value after onTrack (ended value rfl)
  · intro failure after _ _ value ok
    cases ok

theorem Keeps.lift {value : Except PyError α} (onTrack : OnTrack drafts phase) :
    Keeps drafts (fun result after => after = phase ∧ value = .ok result)
      (Prog.lift value) phase :=
  ⟨onTrack, fun _ ok => ⟨rfl, ok⟩⟩

theorem Keeps.ask {op : Op} (onTrack : OnTrack drafts phase)
    (after : ∀ answer, OnTrack drafts (phase.after op answer)) :
    Keeps drafts (fun value last => last = phase.after op (.ok value))
      (ask op) phase := by
  refine ⟨onTrack, fun answers => ⟨after _, ?_⟩⟩
  intro value ok
  simp only [followPhase] at ok ⊢
  rw [ok]

/-- Free operations leave a writer in its phase. -/
theorem Keeps.free {program : HostProg α} (onTrack : OnTrack drafts phase)
    (only : program.Only fun op => IsFree op = true) :
    Keeps drafts (fun _ after => after = phase) program phase := by
  induction program with
  | done outcome => exact ⟨onTrack, fun _ _ => rfl⟩
  | step op next ih =>
      refine ⟨onTrack, fun answers => ?_⟩
      have stays := Phase.after_of_isFree only.1 phase (answers op)
      simp only [followPhase]
      rw [stays]
      exact ih _ (only.2 _)

theorem Keeps.tryFinally {program : HostProg α} {cleanup : HostProg Unit}
    {last : α → Phase → Prop} (first : Keeps drafts ends program phase)
    (cleaned : ∀ after, OnTrack drafts after →
      Keeps drafts (fun _ final => ∀ value, ends value after → last value final)
        cleanup after) :
    Keeps drafts last (Prog.tryFinally program cleanup) phase := by
  unfold Keeps Prog.tryFinally
  rw [Prog.always_andThen]
  refine Prog.Always.mono first ?_
  intro outcome after onTrack ended
  rw [Prog.always_andThen]
  refine Prog.Always.mono (cleaned after onTrack) ?_
  intro cleanedOutcome final finalOnTrack cleanedEnds
  cases cleanedOutcome with
  | ok cleanedUp =>
      refine ⟨finalOnTrack, ?_⟩
      intro value ok
      exact cleanedEnds cleanedUp rfl value (ended value ok)
  | error failure => exact ⟨finalOnTrack, fun value ok => by cases ok⟩

end Keeps

section Writers

variable {drafts : Option Json → Json → Prop} {file : Option Json}

theorem free_quiet (call : Quiet) :
    (ask (.quiet call)).Only fun op => IsFree op = true :=
  ⟨rfl, fun _ => trivial⟩

/-- From the sibling being written to the store being replaced. -/
theorem replace_keeps {document : Json} (drafted : drafts file document) :
    Keeps drafts (fun _ after => after = .wrote file document) (do
      let _ ← ask .openStoreTmp
      let _ ← Prog.tryFinally (ask (.writeStoreTmp document))
        (ask (.quiet .closeStoreTmp))
      let _ ← ask .replaceStore
      ask (.quiet .chmodStore)) (.seen file) := by
  have seen : OnTrack drafts (.seen file) := trivial
  refine (Keeps.ask seen fun _ => by trivial).bind ?_
  rintro _ _ - rfl
  have written : Keeps drafts (fun _ after => after = .sibling file document)
      (Prog.tryFinally (ask (.writeStoreTmp document))
        (ask (.quiet .closeStoreTmp))) (.seen file) := by
    have wrote : Keeps drafts (fun _ after => after = .sibling file document)
        (ask (.writeStoreTmp document)) (.seen file) := by
      refine (Keeps.ask seen ?_).mono fun _ _ same => same
      intro answer
      cases answer with
      | ok value => exact drafted
      | error failure => trivial
    refine wrote.tryFinally ?_
    intro after onTrack
    refine (Keeps.free onTrack (free_quiet _)).mono ?_
    rintro _ _ rfl _ same
    exact same
  refine written.bind ?_
  rintro _ _ onTrack rfl
  have replaced : Keeps drafts (fun _ after => after = .wrote file document)
      (ask .replaceStore) (.sibling file document) := by
    refine (Keeps.ask onTrack ?_).mono fun _ _ same => same
    intro answer
    cases answer with
    | ok value => exact drafted
    | error failure => trivial
  refine replaced.bind ?_
  rintro _ _ wroteOnTrack rfl
  exact Keeps.free wroteOnTrack (free_quiet _)

theorem dumpStore_keeps {store : Store}
    (drafted : ∀ again document, Store.dump store again = .ok document →
      drafts file document) :
    Keeps drafts (fun _ after => ∃ document, after = .wrote file document)
      (dumpStore store) (.seen file) := by
  have seen : OnTrack drafts (.seen file) := trivial
  unfold dumpStore
  refine (Keeps.free seen (free_quiet _)).bind ?_
  rintro _ _ - rfl
  refine (Keeps.ask seen fun _ => by trivial).bind ?_
  rintro again _ - rfl
  refine (Keeps.lift seen).bind ?_
  rintro document _ - ⟨rfl, dumped⟩
  exact (replace_keeps (drafted again document dumped)).mono
    fun _ _ same => ⟨document, same⟩

/-- A run that answers that it wrote has put its document in the store's place. -/
def Accepted (answer : Answer) (phase : Phase) : Prop :=
  answer.accepted = true → ∃ file document, phase = .wrote file document

/-- The lock goes around one read and what is made of it. -/
theorem withStoreLock_keeps {body : HostProg Answer}
    (inside : Keeps drafts Accepted body .ready) :
    Keeps drafts Accepted (withStoreLock body) .start := by
  have start : OnTrack drafts .start := trivial
  unfold withStoreLock
  refine (Keeps.ask start ?_).bind ?_
  · intro answer
    cases answer with
    | ok value => trivial
    | error failure => trivial
  · rintro _ _ - rfl
    refine inside.tryFinally ?_
    intro after onTrack
    have released : Keeps drafts
        (fun value last => last = after.after .unlockStore (.ok value))
        (ask .unlockStore) after := by
      refine Keeps.ask onTrack fun answer => ?_
      cases after with
      | wrote file document => exact onTrack
      | astray => exact onTrack
      | _ => trivial
    refine released.mono ?_
    rintro _ _ rfl accepted wrote ok
    obtain ⟨file, document, rfl⟩ := wrote ok
    exact ⟨file, document, rfl⟩

/-- Read the store, edit it, and write the result. -/
theorem edit_keeps {edit : Store → Except PyError Store}
    (drafted : ∀ file store edited again document,
      Store.load file = .ok store → edit store = .ok edited →
      Store.dump edited again = .ok document → drafts file document) :
    Keeps drafts Accepted (do
      let store ← readStore
      let store ← Prog.lift (edit store)
      dumpStore store
      return .done) .ready := by
  have ready : OnTrack drafts .ready := trivial
  have read : Keeps drafts (fun store after => ∃ file, after = .seen file ∧
      Store.load file = .ok store) readStore .ready := by
    refine (Keeps.ask ready ?_).bind ?_
    · intro answer
      cases answer with
      | ok value => trivial
      | error failure => trivial
    · rintro file _ onTrack rfl
      exact (Keeps.lift onTrack).mono fun _ _ ended => ⟨file, ended⟩
  refine read.bind ?_
  rintro store _ onTrack ⟨file, rfl, loaded⟩
  refine (Keeps.lift onTrack).bind ?_
  rintro edited _ - ⟨rfl, done⟩
  refine (dumpStore_keeps fun again document =>
    drafted file store edited again document loaded done).bind ?_
  rintro _ _ wroteOnTrack ⟨document, rfl⟩
  exact ⟨wroteOnTrack, fun _ _ _ => ⟨file, document, rfl⟩⟩

theorem isFree_of_private (op : Op) (isPrivate : ResticKey.IsPrivate op) :
    IsFree op = true := by
  cases op <;> first | rfl | exact isPrivate.elim

theorem saveStore_keeps {store : Store}
    (drafted : ∀ again document, Store.dump store again = .ok document →
      drafts file document) :
    Keeps drafts (fun _ after => ∃ document, after = .wrote file document ∧
      ∃ again, Store.dump store again = .ok document)
      (ResticKey.saveStore store) (.seen file) := by
  have seen : OnTrack drafts (.seen file) := trivial
  unfold ResticKey.saveStore
  refine (Keeps.ask seen fun _ => by trivial).bind ?_
  rintro again _ - rfl
  refine (Keeps.lift seen).bind ?_
  rintro document _ - ⟨rfl, saved⟩
  have dumped : Store.dump store again = .ok document := by
    unfold ResticKey.savedDocument at saved
    split at saved
    · rename_i written ok
      rw [ok, saved]
    · cases saved
  exact (replace_keeps (drafted again document dumped)).mono
    fun _ _ same => ⟨document, same, again, dumped⟩

theorem free_rekey (env : ResticKey.Env) (current : Json) (newPassword : String) :
    (ResticKey.rekey env current newPassword).Only fun op => IsFree op = true := by
  have secretFile (value : Json) :=
    (ResticKey.only_writeSecretFile value).mono isFree_of_private
  have removed (name : Nat) :=
    (ResticKey.only_unlink name).mono isFree_of_private
  refine (secretFile current).bind fun currentFile => ?_
  refine (secretFile (.str newPassword)).bind fun newFile => ?_
  refine Prog.Only.tryFinally (ResticKey.only_run rfl) ?_
  exact (removed currentFile).bind fun _ => removed newFile

theorem free_locationHoldsAnything (env : ResticKey.Env) :
    (ResticKey.locationHoldsAnything env).Only fun op => IsFree op = true := by
  have located : (Prog.lift (ResticKey.locationOf env.repository) :
      HostProg _).Only fun op => IsFree op = true := trivial
  refine located.bind fun place => ?_
  split
  · trivial
  · exact ResticKey.only_run rfl

theorem free_writePassFile (password : String) :
    (ResticKey.writePassFile password).Only fun op => IsFree op = true := by
  have asked {op : Op} (isFree : IsFree op = true) :
      (ask op).Only fun op => IsFree op = true :=
    ⟨isFree, fun _ => trivial⟩
  refine (asked rfl).bind fun _ => ?_
  exact (asked rfl).bind fun _ => asked rfl

/-- A command that answers that there is a new password has stored it. -/
def Replied (told : ResticKey.Reply → Option String) (reply : ResticKey.Reply)
    (phase : Phase) : Prop :=
  reply.accepted = true → ∃ file document password, phase = .wrote file document ∧
    told reply = some password ∧ HoldsPassword password document

section Commands

variable {store : Store} {told : ResticKey.Reply → Option String}
  (distinct : Store.DistinctKeys store)
  (drafted : ∀ password again document,
    Store.dump (ResticKey.withPassword store password) again = .ok document →
      drafts file document)

theorem refused_keeps {phase : Phase} (onTrack : OnTrack drafts phase)
    (error : String) :
    Keeps drafts (Replied told) (pure (.refused error)) phase :=
  ⟨onTrack, fun _ ok => by cases ok; exact fun accepted => by cases accepted⟩

include distinct drafted in
theorem setPassword_keeps (newPassword : String) :
    Keeps drafts (Replied fun reply => if reply = .ok then some newPassword else none)
      (ResticKey.setPassword store newPassword) (.seen file) := by
  have seen : OnTrack drafts (.seen file) := trivial
  unfold ResticKey.setPassword
  dsimp only
  split
  · exact refused_keeps seen _
  · split
    · exact refused_keeps seen _
    · refine (Keeps.free seen (free_rekey _ _ _)).bind ?_
      rintro ⟨code, stderr⟩ _ - rfl
      dsimp only
      split
      · exact refused_keeps seen _
      · refine (saveStore_keeps (drafted newPassword)).bind ?_
        rintro _ _ wrote ⟨document, rfl, again, dumped⟩
        refine (Keeps.free wrote (free_writePassFile newPassword)).bind ?_
        rintro _ _ - rfl
        refine ⟨wrote, fun _ ok _ => ?_⟩
        cases ok
        exact ⟨file, document, newPassword, rfl, if_pos rfl,
          holdsPassword_of_dump distinct dumped⟩

include distinct drafted in
theorem mintPassword_keeps (py : Builtins) (fields : PyDict String Json) (replace : Bool) :
    Keeps drafts (Replied (newPassword py fields)) (ResticKey.mintPassword store replace)
      (.seen file) := by
  have seen : OnTrack drafts (.seen file) := trivial
  unfold ResticKey.mintPassword
  have drawn : (ask .urandom).Only fun op => IsFree op = true :=
    ⟨rfl, fun _ => trivial⟩
  refine (Keeps.free seen drawn).bind ?_
  rintro password _ - rfl
  extract_lets env finished answered
  have answeredKeeps (code : Nat) :
      Keeps drafts (Replied (newPassword py fields)) (answered code) (.seen file) := by
    unfold answered
    split
    · exact refused_keeps seen _
    · split
      · exact refused_keeps seen _
      · refine (saveStore_keeps (drafted password)).bind ?_
        rintro _ _ wrote ⟨document, rfl, again, dumped⟩
        have minted : Keeps drafts (Replied (newPassword py fields))
            (pure (.minted password)) (.wrote file document) := by
          refine ⟨wrote, fun _ ok _ => ?_⟩
          cases ok
          exact ⟨file, document, password, rfl, rfl, holdsPassword_of_dump distinct dumped⟩
        split
        · refine (Keeps.free wrote (free_writePassFile password)).bind ?_
          rintro _ _ - rfl
          exact minted
        · exact minted
  split
  · refine (Keeps.free seen ((ResticKey.only_catConfig env (.str password)).mono
      isFree_of_private)).bind ?_
    rintro code _ - rfl
    exact answeredKeeps code
  · exact answeredKeeps ResticKey.noRepository

include distinct drafted in
theorem cmdGenerate_keeps (py : Builtins) (fields : PyDict String Json) (replace : Bool) :
    Keeps drafts (Replied (newPassword py fields)) (ResticKey.cmdGenerate py store replace)
      (.seen file) := by
  have seen : OnTrack drafts (.seen file) := trivial
  unfold ResticKey.cmdGenerate
  split
  · split
    · exact refused_keeps seen _
    · refine (Keeps.free seen (ResticKey.only_held.mono isFree_of_private)).bind ?_
      rintro hold _ - rfl
      split
      · exact refused_keeps seen _
      · refine (Keeps.lift seen).bind ?_
        rintro here _ - ⟨rfl, -⟩
        split
        · exact refused_keeps seen _
        · split
          · exact mintPassword_keeps distinct drafted py fields replace
          · split
            · exact refused_keeps seen _
            · have drawn : (ask .urandom).Only fun op => IsFree op = true :=
                ⟨rfl, fun _ => trivial⟩
              refine (Keeps.free seen drawn).bind ?_
              rintro password _ - rfl
              refine (setPassword_keeps distinct drafted password).bind ?_
              intro reply after onTrack replied
              split
              · refine ⟨onTrack, fun _ ok _ => ?_⟩
                cases ok
                obtain ⟨file, document, stored, wrote, told, holds⟩ := replied rfl
                obtain rfl : password = stored := by simpa using told
                exact ⟨file, document, password, wrote, rfl, holds⟩
              · rename_i noOk
                refine ⟨onTrack, fun _ ok accepted => ?_⟩
                cases ok
                obtain ⟨_, _, _, _, told, _⟩ := replied accepted
                dsimp only at told
                rw [if_neg noOk] at told
                cases told
  · exact mintPassword_keeps distinct drafted py fields replace

include distinct drafted in
theorem cmdRotate_keeps (py : Builtins) (request : PyDict String Json) :
    Keeps drafts (Replied (newPassword py request)) (ResticKey.cmdRotate py store request)
      (.seen file) := by
  have seen : OnTrack drafts (.seen file) := trivial
  unfold ResticKey.cmdRotate
  refine (Keeps.free seen (ResticKey.only_held.mono isFree_of_private)).bind ?_
  rintro hold _ - rfl
  split
  · exact refused_keeps seen _
  · dsimp only
    split
    · exact refused_keeps seen _
    · refine (setPassword_keeps distinct drafted _).mono fun reply after replied accepted => ?_
      obtain ⟨file, document, password, wrote, told, holds⟩ := replied accepted
      refine ⟨file, document, password, wrote, ?_, holds⟩
      dsimp only at told
      split at told
      · rename_i ok
        rw [ok, newPassword, told]
      · cases told

theorem cmdValidate_keeps (py : Builtins) (request : PyDict String Json) :
    Keeps drafts (Replied told) (ResticKey.cmdValidate py store request)
      (.seen file) := by
  have seen : OnTrack drafts (.seen file) := trivial
  unfold ResticKey.cmdValidate
  dsimp only
  split
  · exact refused_keeps seen _
  · split
    · exact refused_keeps seen _
    · refine (Keeps.free seen ((ResticKey.only_catConfig _ _).mono
        isFree_of_private)).bind ?_
      rintro code _ - rfl
      exact ⟨seen, fun _ ok => by cases ok; exact fun accepted => by cases accepted⟩

theorem cmdInit_keeps :
    Keeps drafts (Replied told) (ResticKey.cmdInit store) (.seen file) := by
  have seen : OnTrack drafts (.seen file) := trivial
  have answered (state : String) :
      Keeps drafts (Replied told) (pure (.repository state)) (.seen file) :=
    ⟨seen, fun _ ok => by cases ok; exact fun accepted => by cases accepted⟩
  unfold ResticKey.cmdInit
  extract_lets env password
  split
  · exact refused_keeps seen _
  · split
    · exact refused_keeps seen _
    · refine (Keeps.free seen ((ResticKey.only_catConfig env password).mono
        isFree_of_private)).bind ?_
      rintro code _ - rfl
      split
      · exact answered "exists"
      · split
        · exact refused_keeps seen _
        · split
          · exact refused_keeps seen _
          · refine (Keeps.free seen (free_locationHoldsAnything env)).bind ?_
            rintro holds _ - rfl
            split
            · exact refused_keeps seen _
            · exact refused_keeps seen _
            · refine (Keeps.free seen ((ResticKey.only_writeSecretFile
                password).mono isFree_of_private)).bind ?_
              rintro name _ - rfl
              have created : (Prog.tryFinally (env.run (.init env name))
                  (ResticKey.unlink name)).Only fun op => IsFree op = true :=
                Prog.Only.tryFinally (ResticKey.only_run rfl)
                  ((ResticKey.only_unlink name).mono isFree_of_private)
              refine (Keeps.free seen created).bind ?_
              rintro ⟨exitCode, stderr⟩ _ - rfl
              dsimp only
              split
              · exact refused_keeps seen _
              · exact answered "created"

end Commands

end Writers

/-- A run of one of the three programs. -/
inductive Run where
  | settings (fields : List (String × Json))
  | loader (draw : String → Store.Minter → String) (args : Store.LoaderArgs)
  | resticKey (request : Json)

namespace Run

variable (py : Builtins)

def program : Run → HostProg Answer
  | settings fields => settingsWrite py fields
  | loader draw args => convergeLoader py draw args
  | resticKey request => StoreWriters.resticKey py request

/-- Whether the program takes the store lock. -/
def locks : Run → Bool
  | settings _ => true
  | loader _ _ => true
  | resticKey _ => false

def begin (run : Run) : Phase :=
  if run.locks then .start else .ready

/-- The edits a run makes of a store it read. -/
def Edits : Run → Store → Store → Prop
  | settings fields, store, edited => writtenBy py fields store = .ok edited
  | loader draw args, store, edited => ∃ incoming,
      Store.readAdopt args.adopt = .ok incoming ∧
        loadedBy py draw args incoming store = .ok edited
  | resticKey _, store, edited => ∃ password,
      edited = ResticKey.withPassword store password

/-- The documents a run makes of a file it read: the other top-level keys are
those of the file it reads again. -/
def Drafts (run : Run) (file : Option Json) (document : Json) : Prop :=
  ∃ store edited again, Store.load file = .ok store ∧ run.Edits py store edited ∧
    Store.dump edited again = .ok document

variable {py}

theorem edits_distinctKeys {run : Run} {store edited : Store}
    (distinct : Store.DistinctKeys store) (edits : run.Edits py store edited) :
    Store.DistinctKeys edited := by
  cases run with
  | settings fields =>
      simp only [Edits, writtenBy, bind, Except.bind] at edits
      split at edits
      · cases edits
      · rename_i applied accepted
        cases edits
        exact Store.applyInputs_distinctKeys distinct accepted
  | loader draw args =>
      obtain ⟨incoming, -, minted⟩ := edits
      simp only [loadedBy, bind, Except.bind] at minted
      split at minted
      · cases minted
      · split at minted
        · cases minted
        · split at minted
          · cases minted
          · rename_i applied accepted
            have adopted := Store.adopt_distinctKeys args.overwrite incoming distinct
            exact Store.mint_distinctKeys
              (Store.settleTailnetProvider_distinctKeys py
                (Store.applyInputs_distinctKeys adopted accepted)) minted
  | resticKey request =>
      obtain ⟨password, rfl⟩ := edits
      exact ⟨PyDict.nodup_keys_set distinct.secrets _ _, distinct.config⟩

theorem settings_keeps (fields : List (String × Json)) :
    Keeps ((settings fields).Drafts py) Accepted (settingsWrite py fields)
      .start := by
  apply withStoreLock_keeps
  apply edit_keeps
  intro file store edited again document loaded done dumped
  exact ⟨store, edited, again, loaded, done, dumped⟩

theorem loader_keeps (draw : String → Store.Minter → String)
    (args : Store.LoaderArgs) :
    Keeps ((loader draw args).Drafts py) Accepted (convergeLoader py draw args)
      .start := by
  have start : OnTrack ((loader draw args).Drafts py) .start := trivial
  unfold convergeLoader
  refine (Keeps.lift start).bind ?_
  rintro incoming _ - ⟨rfl, adopted⟩
  apply withStoreLock_keeps
  apply edit_keeps
  intro file store edited again document loaded done dumped
  exact ⟨store, edited, again, loaded, ⟨incoming, adopted, done⟩, dumped⟩

/-- What a run answered says of the document it wrote. -/
def Reports (py : Builtins) : Run → Answer → Json → Prop
  | resticKey (.obj fields), .reply reply, document =>
      ∃ password, newPassword py fields reply = some password ∧ HoldsPassword password document
  | _, _, _ => True

def Answered (py : Builtins) (run : Run) (answer : Answer) (phase : Phase) : Prop :=
  answer.accepted = true →
    ∃ file document, phase = .wrote file document ∧ run.Reports py answer document

theorem resticKey_keeps (request : Json) :
    Keeps ((resticKey request).Drafts py) ((resticKey request).Answered py)
      (StoreWriters.resticKey py request) .ready := by
  have ready : OnTrack ((resticKey request).Drafts py) .ready := trivial
  unfold StoreWriters.resticKey ResticKey.main
  split
  · rename_i fields
    have read : Keeps ((resticKey (.obj fields)).Drafts py)
        (fun store after => ∃ file, after = .seen file ∧
          ResticKey.loadStore file = .ok store)
        (ask .readStore >>= fun file => Prog.lift (ResticKey.loadStore file))
        .ready := by
      refine (Keeps.ask ready ?_).bind ?_
      · intro answer
        cases answer with
        | ok value => trivial
        | error failure => trivial
      · rintro file _ onTrack rfl
        exact (Keeps.lift onTrack).mono fun _ _ ended => ⟨file, ended⟩
    have answered : Keeps ((resticKey (.obj fields)).Drafts py)
        (Replied (newPassword py fields)) (ResticKey.main py (.obj fields)) .ready := by
      unfold ResticKey.main
      refine read.bind ?_
      rintro store _ onTrack ⟨file, rfl, loaded⟩
      have loads := ResticKey.load_of_loadStore loaded
      have distinct := Store.load_distinctKeys loads
      have drafted (password : String) (again : Option Json) (document : Json)
          (dumped : Store.dump (ResticKey.withPassword store password) again =
            .ok document) :
          (resticKey (.obj fields)).Drafts py file document :=
        ⟨store, _, again, loads, ⟨password, rfl⟩, dumped⟩
      split
      · exact cmdGenerate_keeps distinct drafted py fields _
      · exact cmdValidate_keeps py fields
      · exact cmdRotate_keeps distinct drafted py fields
      · exact cmdInit_keeps
      · exact ⟨trivial, fun _ ok => by cases ok⟩
    refine answered.bind ?_
    intro reply after onTrack replied
    refine ⟨onTrack, fun _ ok accepted => ?_⟩
    cases ok
    obtain ⟨file, document, password, wrote, told, holds⟩ := replied accepted
    exact ⟨file, document, wrote, password, told, holds⟩
  · exact ⟨trivial, fun _ ok => by cases ok⟩

/-- Every run keeps to the phases of a writer, and writes what it answers. -/
theorem keeps (run : Run) :
    Keeps (run.Drafts py) (run.Answered py) (run.program py) run.begin := by
  cases run with
  | settings fields =>
      refine (settings_keeps fields).mono fun answer phase accepted wrote => ?_
      obtain ⟨file, document, same⟩ := accepted wrote
      exact ⟨file, document, same, trivial⟩
  | loader draw args =>
      refine (loader_keeps draw args).mono fun answer phase accepted wrote => ?_
      obtain ⟨file, document, same⟩ := accepted wrote
      exact ⟨file, document, same, trivial⟩
  | resticKey request => exact resticKey_keeps request

end Run

end Catena.StoreWriters

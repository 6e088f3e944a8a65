import Catena.ResticHost
import Catena.StoreStages

/-!
# The stages of a re-key

A re-key changes the repository first and the two files on the host after it.
At every point a run of `_set_password` can stop at, it is before the re-key,
between it and the replacement of the store, or behind both.
-/

namespace Catena.ResticKey

/-- A host, with the password the run on it has drawn, and whether it has
re-keyed the repository and put the new store in place. -/
structure Traced where
  host : Host
  drawn : String
  rekeyed : Bool
  replaced : Bool

section Run

variable (reading : String → String)

/-- The operation was a re-key, and it went through. -/
def isRekey : (op : Op) → Except PyError (Res op) → Bool
  | .keyPasswd _ _ _, .ok (code, _) => code == 0
  | _, _ => false

def isReplace : (op : Op) → Except PyError (Res op) → Bool
  | .replaceStore, .ok _ => true
  | _, _ => false

def drawnBy : (op : Op) → Except PyError (Res op) → Option String
  | .urandom, .ok text => some text
  | _, _ => none

def performTraced (traced : Traced) (choice : Choice) (op : Op) :
    Traced × Except PyError (Res op) :=
  let (host, answer) := perform reading traced.host choice op
  (⟨host, (drawnBy op answer).getD traced.drawn,
    traced.rekeyed || isRekey op answer,
    traced.replaced || isReplace op answer⟩, answer)

def Host.storePassword (host : Host) : Option Json :=
  match host.store with
  | some (some document) =>
      match Store.load (some document) with
      | .ok store => storedPassword store
      | .error _ => none
  | _ => none

def Host.storeKey (host : Host) : Option String :=
  match host.storePassword with
  | some (.str password) => some (reading (password ++ "\n"))
  | _ => none

def Host.passKey (host : Host) : Option String :=
  host.passFile.map reading

/-- The password in the store or the one in the pass file opens the
repository. -/
def Kept (host : Host) : Prop :=
  ∃ key, host.destination = .repository key ∧
    (host.storeKey reading = some key ∨ host.passKey reading = some key)

end Run

/-- Nothing the run works on has changed. -/
structure Before (start : Host) (traced : Traced) : Prop where
  rekeyed : traced.rekeyed = false
  replaced : traced.replaced = false
  destination : traced.host.destination = start.destination
  store : traced.host.store = start.store
  passFile : traced.host.passFile = start.passFile

/-- The repository has its new key, and the host does not know. -/
structure Between (reading : String → String) (start : Host) (new : String)
    (traced : Traced) : Prop where
  rekeyed : traced.rekeyed = true
  replaced : traced.replaced = false
  destination : traced.host.destination = .repository (reading (new ++ "\n"))
  store : traced.host.store = start.store
  passFile : traced.host.passFile = start.passFile

/-- The store holds the new password. -/
structure After (reading : String → String) (new : String)
    (traced : Traced) : Prop where
  replaced : traced.replaced = true
  destination : traced.host.destination = .repository (reading (new ++ "\n"))
  password : traced.host.storePassword = some (.str new)

/-- The operations that leave each stage as it is. -/
def Harmless : Op → Prop
  | .keyPasswd _ _ _ => False
  | .init _ _ => False
  | .urandom => False
  | .replaceStore => False
  | .openPass => False
  | .writePass _ => False
  | _ => True

section Keeps

variable {reading : String → String} {start : Host} {new : String}

theorem perform_harmless {op : Op} (harmless : Harmless op) (traced : Traced)
    (choice : Choice) :
    let after := (performTraced reading traced choice op).1
    after.rekeyed = traced.rekeyed ∧ after.replaced = traced.replaced ∧
      after.drawn = traced.drawn ∧
      after.host.destination = traced.host.destination ∧
      after.host.store = traced.host.store ∧
      after.host.passFile = traced.host.passFile := by
  unfold performTraced perform
  cases choice.fails with
  | true => cases op <;> simp [isRekey, isReplace, drawnBy]
  | false =>
      cases op <;>
        simp_all [Harmless, isRekey, isReplace, drawnBy, act]

/-- The stages a re-key with the password `new` goes through. -/
def Stage (reading : String → String) (start : Host) (new drawn : String)
    (traced : Traced) : Prop :=
  traced.drawn = drawn ∧ (Before start traced ∨
    Between reading start new traced ∨ After reading new traced)

theorem Before.harmless {op : Op} (harmless : Harmless op) {traced : Traced}
    (before : Before start traced) (choice : Choice) :
    Before start (performTraced reading traced choice op).1 := by
  obtain ⟨rekeyed, replaced, _, destination, store, passFile⟩ :=
    @perform_harmless reading op harmless traced choice
  exact ⟨rekeyed.trans before.rekeyed, replaced.trans before.replaced,
    destination.trans before.destination, store.trans before.store,
    passFile.trans before.passFile⟩

theorem Between.harmless {op : Op} (harmless : Harmless op) {traced : Traced}
    (between : Between reading start new traced) (choice : Choice) :
    Between reading start new (performTraced reading traced choice op).1 := by
  obtain ⟨rekeyed, replaced, _, destination, store, passFile⟩ :=
    @perform_harmless reading op harmless traced choice
  exact ⟨rekeyed.trans between.rekeyed, replaced.trans between.replaced,
    destination.trans between.destination, store.trans between.store,
    passFile.trans between.passFile⟩

theorem storePassword_congr {first second : Host}
    (same : first.store = second.store) :
    first.storePassword = second.storePassword := by
  unfold Host.storePassword
  rw [same]

theorem harmless_always {stage : Traced → Prop}
    (keeps : ∀ op, Harmless op → ∀ traced choice, stage traced →
      stage (performTraced reading traced choice op).1)
    {α : Type} {program : HostProg α} (only : program.Only Harmless)
    {traced : Traced} (here : stage traced) :
    program.Always (performTraced reading) stage (fun _ after => stage after)
      traced :=
  (only.always keeps here).mono fun _ _ holds _ => holds

theorem harmless_of_private (op : Op) (isPrivate : IsPrivate op) : Harmless op := by
  cases op <;> trivial

end Keeps

section Rekey

variable {reading : String → String} {start : Host} {new drawn : String}

/-- Before the re-key, with the password drawn by then. -/
def BeforeWith (start : Host) (drawn : String) (traced : Traced) : Prop :=
  traced.drawn = drawn ∧ Before start traced

theorem BeforeWith.keeps (op : Op) (harmless : Harmless op) (traced : Traced)
    (choice : Choice) (before : BeforeWith start drawn traced) :
    BeforeWith start drawn (performTraced reading traced choice op).1 :=
  ⟨(@perform_harmless reading op harmless traced choice).2.2.1.trans before.1,
    before.2.harmless harmless choice⟩

def BetweenWith (reading : String → String) (start : Host) (new drawn : String)
    (traced : Traced) : Prop :=
  traced.drawn = drawn ∧ Between reading start new traced

theorem BetweenWith.keeps (op : Op) (harmless : Harmless op) (traced : Traced)
    (choice : Choice) (between : BetweenWith reading start new drawn traced) :
    BetweenWith reading start new drawn
      (performTraced reading traced choice op).1 :=
  ⟨(@perform_harmless reading op harmless traced choice).2.2.1.trans between.1,
    between.2.harmless harmless choice⟩

/-- An operation that a stage does not mind, with what it does to the rest of
the host. -/
theorem ask_bind_always {stage holds : Traced → Prop}
    (keeps : ∀ op, Harmless op → ∀ traced choice, stage traced →
      stage (performTraced reading traced choice op).1)
    (staged : ∀ traced, stage traced → holds traced)
    {op : Op} (harmless : Harmless op) {α : Type} {next : Res op → HostProg α}
    {ends : Except PyError α → Traced → Prop} {traced : Traced}
    (here : stage traced)
    (onError : ∀ failure after, ends (.error failure) after)
    (onValue : ∀ value after,
      (∃ choice, (after.host, .ok value) = act reading traced.host choice op) →
        stage after →
          (next value).Always (performTraced reading) holds ends after) :
    (ask op >>= next).Always (performTraced reading) holds ends traced := by
  refine Prog.Always.call_bind (staged traced here) ?_ ?_
  · intro choice value answer
    refine onValue value _ ⟨choice, ?_⟩ (keeps op harmless traced choice here)
    unfold performTraced perform at answer ⊢
    cases fails : choice.fails with
    | true => simp [fails] at answer
    | false =>
        simp only [fails, Bool.false_eq_true, if_false] at answer ⊢
        rw [← answer]
  · intro choice failure _
    exact ⟨staged _ (keeps op harmless traced choice here), onError failure _⟩

theorem stage_of_before {traced : Traced}
    (before : BeforeWith start drawn traced) :
    Stage reading start new drawn traced :=
  ⟨before.1, Or.inl before.2⟩

theorem stage_of_between {traced : Traced}
    (between : BetweenWith reading start new drawn traced) :
    Stage reading start new drawn traced :=
  ⟨between.1, Or.inr (Or.inl between.2)⟩

/-- A secret file is written in full by the time its name is known. -/
theorem writeSecretFile_always (text : String) {traced : Traced}
    (before : BeforeWith start drawn traced) :
    (writeSecretFile (.str text)).Always (performTraced reading)
      (BeforeWith start drawn)
      (fun outcome after => ∀ name, outcome = .ok name →
        PyDict.get after.host.temps name = some (text ++ "\n")) traced := by
  unfold writeSecretFile
  refine ask_bind_always BeforeWith.keeps (fun _ => id) (by trivial) before (by simp) ?_
  intro name made _ madeBefore
  refine ask_bind_always BeforeWith.keeps (fun _ => id) (by trivial) madeBefore (by simp) ?_
  rintro _ written ⟨_, writes⟩ writtenBefore
  have content : PyDict.get written.host.temps name = some (text ++ "\n") := by
    simp only [act, Prod.mk.injEq] at writes
    simp [writes.1]
  refine ask_bind_always BeforeWith.keeps (fun _ => id) (by trivial) writtenBefore (by simp) ?_
  rintro _ closed ⟨_, closes⟩ closedBefore
  refine ask_bind_always BeforeWith.keeps (fun _ => id) (by trivial) closedBefore (by simp) ?_
  rintro _ chmodded ⟨_, chmods⟩ chmoddedBefore
  refine ⟨chmoddedBefore, ?_⟩
  intro other same
  simp only [Except.ok.injEq] at same
  simp only [act, Prod.mk.injEq] at closes chmods
  rw [← same, chmods.1, closes.1]
  exact content

theorem perform_keyPasswd (env : Env) (currentFile newFile : Nat) {host : Host}
    {newKey : String} (content : host.keyIn reading newFile = some newKey)
    (choice : Choice) :
    let performed := perform reading host choice
      (.keyPasswd env currentFile newFile)
    (∃ stderr, performed =
        ({ host with destination := .repository newKey }, .ok (0, stderr))) ∨
      (performed.1 = host ∧
        ∀ code stderr, performed.2 = .ok (code, stderr) → code ≠ 0) := by
  intro performed
  cases fails : choice.fails with
  | true => exact Or.inr (by simp [performed, perform, fails])
  | false =>
      by_cases code : choice.code = 0
      · cases destination : host.destination with
        | repository key =>
            by_cases opens : host.keyIn reading currentFile = some key
            · left
              exact ⟨choice.text, by
                simp [performed, perform, fails, act, code, Host.passwd,
                  destination, content, opens]⟩
            · right
              simp [performed, perform, fails, act, code, Host.passwd,
                destination, content, opens, wrongPassword]
        | nothing =>
            right
            simp [performed, perform, fails, act, code, Host.passwd, destination,
              noRepository]
        | foreign =>
            right
            simp [performed, perform, fails, act, code, Host.passwd, destination,
              noRepository]
      · right
        simp [performed, perform, fails, act, code]

/-- `restic key passwd` with the new password's file: it goes through, or it
exits with a code of its own and changes nothing. -/
theorem keyPasswd_traced (env : Env) (currentFile newFile : Nat)
    {traced : Traced} (before : BeforeWith start drawn traced)
    (content : PyDict.get traced.host.temps newFile = some (new ++ "\n"))
    (choice : Choice) :
    let performed := performTraced reading traced choice
      (.keyPasswd env currentFile newFile)
    (∃ stderr, performed.2 = .ok (0, stderr) ∧
        BetweenWith reading start new drawn performed.1) ∨
      (BeforeWith start drawn performed.1 ∧
        ∀ code stderr, performed.2 = .ok (code, stderr) → code ≠ 0) := by
  have newKey : traced.host.keyIn reading newFile =
      some (reading (new ++ "\n")) := by
    simp [Host.keyIn, content]
  obtain ⟨sameDrawn, rekeyed, replaced, destination, store, passFile⟩ := before
  rcases perform_keyPasswd env currentFile newFile newKey choice with
    ⟨stderr, goesThrough⟩ | ⟨sameHost, codes⟩
  · left
    refine ⟨stderr, ?_, ?_, ?_, ?_, ?_, ?_, ?_⟩
    all_goals simp [performTraced, goesThrough, isRekey, isReplace, drawnBy,
      sameDrawn, replaced, store, passFile]
  · right
    refine ⟨⟨?_, ?_, ?_, ?_, ?_, ?_⟩, ?_⟩
    · simp [performTraced, drawnBy, sameDrawn]
    · simp only [performTraced, rekeyed, Bool.false_or]
      cases answer : (perform reading traced.host choice
          (.keyPasswd env currentFile newFile)).2 with
      | error failure => rfl
      | ok value => simpa [isRekey] using codes value.1 value.2 answer
    · simp [performTraced, isReplace, replaced]
    · simp [performTraced, sameHost, destination]
    · simp [performTraced, sameHost, store]
    · simp [performTraced, sameHost, passFile]
    · simpa [performTraced] using codes

/-- Where a re-key leaves the run: with exit code 0 behind it, otherwise
before it. -/
def RekeyEnds (reading : String → String) (start : Host) (new drawn : String)
    (outcome : Except PyError (Nat × String)) (traced : Traced) : Prop :=
  ∀ code stderr, outcome = .ok (code, stderr) →
    if code = 0 then BetweenWith reading start new drawn traced
    else BeforeWith start drawn traced

/-- The files are removed in whatever stage the re-key left the run. -/
theorem cleanup_always {stage : Traced → Prop}
    (keeps : ∀ op, Harmless op → ∀ traced choice, stage traced →
      stage (performTraced reading traced choice op).1)
    (staged : ∀ traced, stage traced → Stage reading start new drawn traced)
    {outcome : Except PyError (Nat × String)}
    (ends : ∀ traced, stage traced →
      RekeyEnds reading start new drawn outcome traced)
    {cleanup : HostProg Unit} (only : cleanup.Only Harmless) {traced : Traced}
    (here : stage traced) :
    (cleanup.andThen (Prog.onOk fun _ => Prog.done outcome)).Always
      (performTraced reading) (Stage reading start new drawn)
      (RekeyEnds reading start new drawn) traced := by
  rw [Prog.always_andThen]
  refine ((harmless_always keeps only here).weaken staged).mono ?_
  intro cleaned after afterStaged afterStage
  cases cleaned with
  | ok _ => exact ⟨afterStaged, ends after afterStage⟩
  | error failure =>
      refine ⟨afterStaged, ?_⟩
      intro code stderr impossible
      simp at impossible

theorem passwd_always (env : Env) (currentFile newFile : Nat)
    {cleanup : HostProg Unit} (only : cleanup.Only Harmless) {traced : Traced}
    (before : BeforeWith start drawn traced)
    (content : PyDict.get traced.host.temps newFile = some (new ++ "\n")) :
    (Prog.tryFinally (env.run (.keyPasswd env currentFile newFile)) cleanup).Always
      (performTraced reading) (Stage reading start new drawn)
      (RekeyEnds reading start new drawn) traced := by
  unfold Prog.tryFinally
  rw [Prog.always_andThen]
  unfold Env.run
  split
  · refine ⟨stage_of_before before, fun choice => ?_⟩
    rcases keyPasswd_traced env currentFile newFile before content choice with
      ⟨stderr, answer, between⟩ | ⟨stays, codes⟩
    · refine ⟨stage_of_between between, ?_⟩
      rw [answer]
      refine cleanup_always BetweenWith.keeps (fun _ => stage_of_between) ?_ only
        between
      intro after afterBetween code otherStderr same
      simp only [Except.ok.injEq, Prod.mk.injEq] at same
      simpa [← same.1] using afterBetween
    · refine ⟨stage_of_before stays, ?_⟩
      refine cleanup_always BeforeWith.keeps (fun _ => stage_of_before) ?_ only
        stays
      intro after afterBefore code stderr same
      simpa [codes code stderr same] using afterBefore
  · refine ⟨stage_of_before before, ?_⟩
    refine cleanup_always BeforeWith.keeps (fun _ => stage_of_before) ?_ only
      before
    intro after _ code stderr impossible
    simp at impossible

theorem rekey_always (env : Env) (current : Json) {traced : Traced}
    (before : BeforeWith start drawn traced) :
    (rekey env current new).Always (performTraced reading)
      (Stage reading start new drawn) (RekeyEnds reading start new drawn)
      traced := by
  unfold rekey
  refine Prog.Always.bind ((harmless_always BeforeWith.keeps
    ((only_writeSecretFile current).mono harmless_of_private) before).weaken fun _ => stage_of_before) ?_ ?_
  · intro currentFile after _ afterBefore
    refine Prog.Always.bind (((writeSecretFile_always new afterBefore).mono
      fun outcome last lastBefore written => And.intro lastBefore written).weaken
      fun _ => stage_of_before) ?_ ?_
    · rintro newFile last _ ⟨lastBefore, written⟩
      exact passwd_always env currentFile newFile
        (((only_unlink currentFile).bind fun _ => only_unlink newFile).mono
          harmless_of_private) lastBefore (written newFile rfl)
    · intro failure last _ _ code stderr impossible
      simp at impossible
  · intro failure after _ _ code stderr impossible
    simp at impossible

/-- The store holds the new password, with the password drawn by then. -/
def AfterWith (reading : String → String) (new drawn : String)
    (traced : Traced) : Prop :=
  traced.drawn = drawn ∧ After reading new traced

theorem stage_of_after {traced : Traced}
    (after : AfterWith reading new drawn traced) :
    Stage reading start new drawn traced :=
  ⟨after.1, Or.inr (Or.inr after.2)⟩

/-- The operations that follow once the store is in place. -/
def Settling : Op → Prop
  | .openPass => True
  | .writePass _ => True
  | .quiet _ => True
  | _ => False

theorem AfterWith.keeps (op : Op) (settling : Settling op) (traced : Traced)
    (choice : Choice) (after : AfterWith reading new drawn traced) :
    AfterWith reading new drawn (performTraced reading traced choice op).1 := by
  have sameStore : (performTraced reading traced choice op).1.host.store =
      traced.host.store := by
    unfold performTraced perform
    cases choice.fails <;> cases op <;> simp_all [Settling, act]
  obtain ⟨sameDrawn, replaced, destination, password⟩ := after
  refine ⟨?_, ?_, ?_, (storePassword_congr sameStore).trans password⟩
  all_goals
    unfold performTraced perform
    cases choice.fails <;> cases op <;>
      simp_all [Settling, act, drawnBy, isReplace]

theorem settling_always {program : HostProg Unit} (only : program.Only Settling)
    {traced : Traced} (after : AfterWith reading new drawn traced) :
    program.Always (performTraced reading) (Stage reading start new drawn)
      (fun _ last => AfterWith reading new drawn last) traced :=
  ((only.always AfterWith.keeps after).mono fun _ _ here _ => here).weaken
    fun _ => stage_of_after

theorem settling_ask {op : Op} (settling : Settling op) :
    (ask op).Only Settling :=
  ⟨settling, fun _ => trivial⟩

theorem savedDocument_password {store : Store} {document written : Json}
    (loaded : Store.load (some document) = .ok store)
    (saved : savedDocument (withPassword store new) (some document) =
      .ok written) (host : Host) (inPlace : host.store = some (some written)) :
    host.storePassword = some (.str new) := by
  have dumped : Store.dump (withPassword store new) (some document) =
      .ok written := by
    unfold savedDocument at saved
    cases outcome : Store.dump (withPassword store new) (some document) with
    | ok produced => simpa [outcome] using saved
    | error failure => simp [outcome] at saved
  have distinct := Store.load_distinctKeys loaded
  have reread : Store.load (some written) = .ok (withPassword store new) :=
    Store.load_dump ⟨PyDict.nodup_keys_set distinct.secrets _ _, distinct.config⟩
      dumped
  simp [Host.storePassword, inPlace, reread, storedPassword, withPassword]

theorem replaceStore_traced {written : Json} {traced : Traced}
    (between : BetweenWith reading start new drawn traced)
    (sibling : traced.host.storeTmp = some (some written))
    (password : ∀ host : Host, host.store = some (some written) →
      host.storePassword = some (.str new)) (choice : Choice) :
    let performed := performTraced reading traced choice .replaceStore
    (performed.2 = .ok () ∧ AfterWith reading new drawn performed.1) ∨
      (∃ failure, performed.2 = .error failure) ∧
        BetweenWith reading start new drawn performed.1 := by
  obtain ⟨sameDrawn, rekeyed, replaced, destination, store, passFile⟩ := between
  cases fails : choice.fails with
  | true =>
      right
      refine ⟨⟨_, by simp [performTraced, perform, fails]; rfl⟩, ?_, ?_, ?_, ?_, ?_, ?_⟩
      all_goals simp [performTraced, perform, fails, drawnBy, isRekey, isReplace,
        sameDrawn, rekeyed, replaced, destination, store, passFile]
  | false =>
      left
      refine ⟨?_, ?_, ?_, ?_, password _ ?_⟩
      all_goals simp [performTraced, perform, fails, act, sibling, drawnBy,
        isReplace, sameDrawn, destination]

theorem writeSibling_always (written : Json) {traced : Traced}
    (between : BetweenWith reading start new drawn traced) :
    (Prog.tryFinally (ask (.writeStoreTmp written))
      (ask (.quiet .closeStoreTmp))).Always (performTraced reading)
      (BetweenWith reading start new drawn)
      (fun outcome after => outcome = .ok () →
        after.host.storeTmp = some (some written)) traced := by
  refine ⟨between, fun choice => ⟨BetweenWith.keeps _ (by trivial) _ _ between,
    fun close => ?_⟩⟩
  have wrote : (performTraced reading traced choice (.writeStoreTmp written)).2 =
      .ok () → (performTraced reading traced choice
        (.writeStoreTmp written)).1.host.storeTmp = some (some written) := by
    unfold performTraced perform
    cases choice.fails <;> simp [act]
  have closed := BetweenWith.keeps (.quiet .closeStoreTmp) (by trivial) _ close
    (BetweenWith.keeps (.writeStoreTmp written) (by trivial) traced choice between)
  have sameHost (before : Traced) : (performTraced reading before close
      (.quiet .closeStoreTmp)).1.host = before.host := by
    unfold performTraced perform
    cases close.fails <;> simp [act]
  cases answer : (performTraced reading (performTraced reading traced choice
      (.writeStoreTmp written)).1 close (.quiet .closeStoreTmp)).2 with
  | error failure => exact ⟨closed, by simp⟩
  | ok _ =>
      refine ⟨closed, fun same => ?_⟩
      rw [sameHost]
      exact wrote same

theorem saveStore_always {store : Store} {document : Json}
    (found : start.store = some (some document))
    (loaded : Store.load (some document) = .ok store) {traced : Traced}
    (between : BetweenWith reading start new drawn traced) :
    (saveStore (withPassword store new)).Always (performTraced reading)
      (Stage reading start new drawn)
      (fun outcome after => outcome = .ok () →
        AfterWith reading new drawn after) traced := by
  unfold saveStore
  refine ask_bind_always BetweenWith.keeps (fun _ => stage_of_between)
    (by trivial) between (by simp) ?_
  rintro file opened ⟨_, reads⟩ openedBetween
  have sameFile : file = some document := by
    simpa [act, between.2.store, found] using congrArg Prod.snd reads
  subst sameFile
  cases saved : savedDocument (withPassword store new) (some document) with
  | error failure => exact ⟨stage_of_between openedBetween, by simp⟩
  | ok written =>
      refine ask_bind_always BetweenWith.keeps (fun _ => stage_of_between)
        (by trivial) openedBetween (by simp) ?_
      rintro _ truncated _ truncatedBetween
      refine Prog.Always.bind (((writeSibling_always written
        truncatedBetween).mono fun _ _ here wrote => And.intro here wrote).weaken
          fun _ => stage_of_between) ?_ (by simp)
      rintro _ sibling _ ⟨siblingBetween, wrote⟩
      refine ⟨stage_of_between siblingBetween, fun choice => ?_⟩
      rcases replaceStore_traced siblingBetween (wrote rfl)
          (fun host => savedDocument_password loaded saved host) choice with
        ⟨answer, after⟩ | ⟨⟨failure, answer⟩, stays⟩
      · rw [answer]
        have chmod : (ask (.quiet .chmodStore)).Only Settling :=
          ⟨trivial, fun _ => trivial⟩
        exact (settling_always chmod after).mono fun _ _ _ last _ => last
      · rw [answer]
        exact ⟨stage_of_between stays, by simp⟩

theorem only_writePassFile (password : String) :
    (writePassFile password).Only Settling := by
  unfold writePassFile
  refine Prog.Only.bind (settling_ask (by trivial)) fun _ => ?_
  refine Prog.Only.bind (settling_ask (by trivial)) fun _ => ?_
  exact settling_ask (by trivial)

/-- `_set_password`, from a store whose password is in the file. -/
theorem setPassword_always {store : Store} {document : Json}
    (found : start.store = some (some document))
    (loaded : Store.load (some document) = .ok store) {traced : Traced}
    (before : BeforeWith start drawn traced) :
    (setPassword store new).Always (performTraced reading)
      (Stage reading start new drawn) (fun _ _ => True) traced := by
  unfold setPassword
  dsimp only
  split
  · exact ⟨stage_of_before before, trivial⟩
  · split
    · exact ⟨stage_of_before before, trivial⟩
    · refine Prog.Always.bind (rekey_always _ _ before) ?_ (by simp)
      rintro ⟨code, stderr⟩ after staged ended
      have ended := ended code stderr rfl
      by_cases zero : code = 0
      · simp only [zero, if_true] at ended
        simp only [zero, ne_eq, not_true_eq_false, if_false]
        refine Prog.Always.bind (saveStore_always found loaded ended) ?_ (by simp)
        intro _ last _ saved
        refine Prog.Always.bind (settling_always (only_writePassFile new)
          (saved rfl)) ?_ (by simp)
        intro _ final finalStage _
        exact ⟨finalStage, trivial⟩
      · simp only [zero, ne_eq, not_false_eq_true, if_true]
        exact ⟨staged, trivial⟩

end Rekey

end Catena.ResticKey

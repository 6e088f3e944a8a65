import Catena.DispatchListed
import Catena.DispatchSettled

/-!
# A second switch finds nothing to do

On a host a switch has settled, a run of the same request looks at the keys, the
rules, the link and the generations, and changes none of them.
-/

namespace Catena.Dispatch

open PyText

/-- The operations that look at the host, and the removal of a proof key's
directory that an earlier removal left. -/
def Looking : Op → Bool
  | .readPanelPub => true
  | .openKeys => true
  | .closeKeys => true
  | .readKeys => true
  | .readFile _ => true
  | .hasFile _ => true
  | .isIntact _ _ => true
  | .readLink => true
  | .listGenerations => true
  | .listProofDirs => true
  | .removeProofDir _ => true
  | .recorded => true
  | _ => false

theorem perform_looking {op : Op} (looking : Looking op = true) (host : Host)
    (choice : Choice) :
    ∃ dirs, (perform host choice op).1 = { host with proofDirs := dirs } := by
  unfold perform
  cases op with
  | removeProofDir dir =>
      split
      · exact ⟨host.proofDirs, rfl⟩
      · exact ⟨_, rfl⟩
  | _ => first
    | cases looking; done
    | exact ⟨host.proofDirs, by split <;> rfl⟩

/-- An operation that looks answers the same when it fails, or raises. -/
theorem fail_looking {op : Op} (looking : Looking op = true) (host : Host) (choice : Choice)
    (failure : Failure) :
    (fail host choice failure op).2 = (act host choice op).2 ∨
      (fail host choice failure op).2 = .error failure := by
  cases op <;> first | cases looking; done | exact Or.inl rfl | exact Or.inr rfl

section Again

variable (sha256 : Text → Text) (cfg : Config) (start : Host)

/-- A settled host on which a run has only looked around. -/
structure Quiet (now : Host × List (Op × Choice)) : Prop where
  settled : Settled sha256 cfg start.panelKey now.1
  panelPub : now.1.panelPub = start.panelPub
  wrote : now.1.wrote = []
  looked : ∀ step ∈ now.2, Looking step.1 = true

/-- An operation was chosen to fail. -/
def Raised (log : List (Op × Choice)) : Prop :=
  ∃ step ∈ log, step.2.raises ≠ none

/-- On a quiet host the program comes to such a value, unless an operation
raises. -/
def Sees {α : Type} (ends : α → Prop) (program : PathProg α) : Prop :=
  ∀ now, Quiet sha256 cfg start now →
    program.Always (Prog.logged perform) (Quiet sha256 cfg start)
      (fun outcome after => (∃ value, outcome = .ok value ∧ ends value) ∨
        (∃ failure, outcome = .error failure) ∧ Raised after.2) now

variable {sha256 cfg start}

theorem Quiet.step {now : Host × List (Op × Choice)} {op : Op} (looking : Looking op = true)
    (quiet : Quiet sha256 cfg start now) (choice : Choice) :
    Quiet sha256 cfg start (Prog.logged perform now choice op).1 := by
  obtain ⟨dirs, same⟩ := perform_looking looking now.1 choice
  unfold Prog.logged
  rw [same]
  constructor
  · obtain ⟨keys, sudoers, acceptenv, sudoersNext, acceptenvNext, link, intact, alone⟩ :=
      quiet.settled
    exact ⟨keys, sudoers, acceptenv, sudoersNext, acceptenvNext, link, intact, alone⟩
  · exact quiet.panelPub
  · exact quiet.wrote
  · intro step found
    rcases List.mem_append.mp found with earlier | last
    · exact quiet.looked step earlier
    · rw [List.mem_singleton.mp last]
      exact looking

theorem sees_pure {α : Type} {ends : α → Prop} {value : α} (ended : ends value) :
    Sees sha256 cfg start ends (pure value) :=
  fun _ quiet => ⟨quiet, Or.inl ⟨value, rfl, ended⟩⟩

theorem sees_ask (op : Op) {ends : Res op → Prop} (looking : Looking op = true)
    (answers : ∀ now choice, Quiet sha256 cfg start now →
      ∃ value, (act now.1 choice op).2 = .ok value ∧ ends value) :
    Sees sha256 cfg start ends (ask op) := by
  intro now quiet
  refine ⟨quiet, fun choice => ⟨quiet.step looking choice, ?_⟩⟩
  have answered := answers now choice quiet
  cases raises : choice.raises with
  | none =>
      left
      simpa [Prog.logged, perform, raises] using answered
  | some failure =>
      rcases fail_looking looking now.1 choice failure with same | raised
      · left
        rw [← same] at answered
        simpa [Prog.logged, perform, raises] using answered
      · right
        refine ⟨⟨failure, by simpa [Prog.logged, perform, raises] using raised⟩, ?_⟩
        exact ⟨(op, choice), List.mem_append_right _ (List.mem_singleton_self _), by
          simp [raises]⟩

theorem sees_bind {α β : Type} {ends : α → Prop} {last : β → Prop} {program : PathProg α}
    {next : α → PathProg β} (first : Sees sha256 cfg start ends program)
    (rest : ∀ value, ends value → Sees sha256 cfg start last (next value)) :
    Sees sha256 cfg start last (program >>= next) := by
  intro now quiet
  apply Prog.Always.bind (first now quiet)
  · intro value after here ended
    rcases ended with ⟨other, same, ends⟩ | ⟨⟨failure, isError⟩, _⟩
    · cases same
      exact rest value ends after here
    · cases isError
  · intro failure after here ended
    right
    rcases ended with ⟨other, same, ends⟩ | ⟨_, raised⟩
    · cases same
    · exact ⟨⟨failure, rfl⟩, raised⟩

theorem sees_isIntact : Sees sha256 cfg start (fun intact => intact = true)
    (ask (.isIntact (generation sha256 cfg) cfg.files)) := by
  apply sees_ask (.isIntact _ _) rfl
  intro now choice quiet
  exact ⟨_, rfl, quiet.settled.intact⟩

theorem sees_readKeys : Sees sha256 cfg start
    (fun keys => keys = some (panelKeys (generation sha256 cfg) start.panelKey))
    (ask .readKeys) := by
  apply sees_ask .readKeys rfl
  intro now choice quiet
  exact ⟨_, rfl, quiet.settled.keys⟩

theorem sees_readFile {slot : Slot} {content : Text}
    (held : ∀ now, Quiet sha256 cfg start now →
      (now.1.files slot).map universal = some content) :
    Sees sha256 cfg start (fun read => read = some content) (ask (.readFile slot)) := by
  apply sees_ask (.readFile slot) rfl
  intro now choice quiet
  exact ⟨_, rfl, held now quiet⟩

/-- A file that reads as it should is left alone. -/
theorem sees_write {slot : Slot} {content : Text} (mode : Nat) (check : List Text)
    (held : ∀ now, Quiet sha256 cfg start now →
      (now.1.files slot).map universal = some content) :
    Sees sha256 cfg start (fun changed => changed = false)
      (write slot content mode check) := by
  unfold write
  apply sees_bind (sees_readFile held)
  intro read same
  rw [if_pos same]
  exact sees_pure rfl

theorem sees_placeSshd {slot : Slot} {content : Text}
    (held : ∀ now, Quiet sha256 cfg start now →
      (now.1.files slot).map universal = some content) :
    Sees sha256 cfg start (fun changed => changed = false) (placeSshd slot content) := by
  unfold placeSshd
  apply sees_bind (sees_readFile held)
  intro read _
  apply sees_bind (sees_write _ _ held)
  intro changed unchanged
  rw [unchanged]
  exact sees_pure rfl

theorem sees_remove {slot : Slot}
    (absent : ∀ now, Quiet sha256 cfg start now → now.1.files slot = none) :
    Sees sha256 cfg start (fun removed => removed = false) (remove slot) := by
  unfold remove
  have asked : Sees sha256 cfg start (fun present => present = false)
      (ask (.hasFile slot)) := by
    apply sees_ask (.hasFile slot) rfl
    intro now choice quiet
    refine ⟨_, rfl, ?_⟩
    rw [absent now quiet]
    rfl
  apply sees_bind asked
  intro present isAbsent
  rw [isAbsent]
  exact sees_pure rfl

theorem sees_link : Sees sha256 cfg start (fun changed => changed = false)
    (link cfg.link (dispatcherPath (generation sha256 cfg))) := by
  unfold link
  have read : Sees sha256 cfg start
      (fun held => held = some (dispatcherPath (generation sha256 cfg))) (ask .readLink) := by
    apply sees_ask .readLink rfl
    intro now choice quiet
    refine ⟨_, rfl, ?_⟩
    rw [quiet.settled.link]
  apply sees_bind read
  intro held same
  rw [if_pos same]
  exact sees_pure rfl

theorem sees_removeOthers {gen : Text} {names : List Text} (alone : ∀ name ∈ names, name = gen) :
    Sees sha256 cfg start (fun _ => True) (removeOthers gen names) := by
  induction names with
  | nil => exact sees_pure trivial
  | cons name rest ih =>
      have same : ¬ name ≠ gen := not_not.mpr (alone name (List.mem_cons_self ..))
      rw [removeOthers, if_neg same]
      exact ih fun other found => alone other (List.mem_cons_of_mem _ found)

theorem sees_removeStale (dirs : List Nat) :
    Sees sha256 cfg start (fun _ => True) (removeStale dirs) := by
  induction dirs with
  | nil => exact sees_pure trivial
  | cons dir rest ih =>
      have removed : Sees sha256 cfg start (fun _ => True) (ask (.removeProofDir dir)) :=
        sees_ask (.removeProofDir dir) rfl fun _ _ _ => ⟨(), rfl, trivial⟩
      exact sees_bind removed fun _ _ => ih

theorem sees_tidy : Sees sha256 cfg start (fun _ => True)
    (tidy (start.rendered sha256 cfg)) := by
  have listed : Sees sha256 cfg start
      (fun names => ∀ name ∈ names, name = generation sha256 cfg) (ask .listGenerations) := by
    apply sees_ask .listGenerations rfl
    intro now choice quiet
    refine ⟨_, rfl, ?_⟩
    intro name found
    rw [List.mem_mergeSort] at found
    by_contra other
    exact (PyDict.get_eq_none_iff now.1.generations name).mp
      (quiet.settled.alone name other) found
  have stale : Sees sha256 cfg start (fun _ => True) (ask .listProofDirs) :=
    sees_ask .listProofDirs rfl fun _ _ _ => ⟨_, rfl, trivial⟩
  unfold tidy
  apply sees_bind sees_link
  intro _ _
  apply sees_bind listed
  intro names alone
  apply sees_bind (sees_removeOthers alone)
  intro _ _
  apply sees_bind stale
  intro dirs _
  exact sees_removeStale dirs

theorem sees_settleRules (py : Builtins) (path : Rendered) :
    Sees sha256 cfg start (fun _ => True) (settleRules py path false false) := by
  unfold settleRules
  apply sees_bind (sees_remove fun now quiet => quiet.settled.sudoersNext)
  intro unruled ruleAbsent
  apply sees_bind (sees_remove fun now quiet => quiet.settled.acceptenvNext)
  intro unaccepted acceptAbsent
  rw [ruleAbsent, acceptAbsent]
  exact sees_pure trivial

theorem sees_installGeneration : Sees sha256 cfg start (fun changed => changed = false)
    (installGeneration (generation sha256 cfg) (text cfg.entry) (text cfg.dispatcher)) := by
  unfold installGeneration
  apply sees_bind sees_isIntact
  intro intact isTrue
  rw [isTrue]
  exact sees_pure rfl

theorem sees_writeKeys : Sees sha256 cfg start (fun changed => changed = false)
    (writeKeys cfg (panelKeys (generation sha256 cfg) start.panelKey)) := by
  unfold writeKeys
  apply sees_bind sees_readKeys
  intro keys same
  rw [if_pos same]
  exact sees_pure rfl

theorem sees_retire (py : Builtins) : Sees sha256 cfg start (fun _ => True)
    (retire py (start.rendered sha256 cfg)) := by
  unfold retire
  apply sees_bind sees_installGeneration
  intro installed installedFalse
  apply sees_bind sees_writeKeys
  intro rekeyed rekeyedFalse
  apply sees_bind (sees_write 0o440 visudo fun now quiet => quiet.settled.sudoers)
  intro ruled ruledFalse
  apply sees_bind (sees_placeSshd fun now quiet => quiet.settled.acceptenv)
  intro placed placedFalse
  rw [installedFalse, rekeyedFalse, ruledFalse, placedFalse]
  apply sees_bind (sees_settleRules py _)
  intro _ _
  exact sees_tidy

/-- The run says that nothing changed, and that all is well unless an operation
raised. -/
def Unchanged (outcome : Except Failure Verdict) (log : List (Op × Choice)) : Prop :=
  (∀ answer, outcome = .ok answer → answer.changed = false) ∧
    ((∃ answer, outcome = .ok answer ∧ answer.ok = true) ∨ Raised log)

theorem Raised.append {log : List (Op × Choice)} (raised : Raised log)
    (more : List (Op × Choice)) : Raised (log ++ more) := by
  obtain ⟨step, found, raises⟩ := raised
  exact ⟨step, List.mem_append_left more found, raises⟩

theorem sees_recorded : Sees sha256 cfg start (fun wrote => wrote = []) (ask .recorded) := by
  apply sees_ask .recorded rfl
  intro now choice quiet
  exact ⟨_, rfl, quiet.wrote⟩

theorem sees_verdict (gen : Text) (ok : Bool) (summary : String) :
    Sees sha256 cfg start (fun answer => answer.ok = ok ∧ answer.changed = false)
      (verdict gen ok summary) := by
  unfold verdict
  apply sees_bind sees_recorded
  intro wrote empty
  rw [empty]
  exact sees_pure ⟨rfl, rfl⟩

/-- What is said of a run that comes after an operation that raised. -/
theorem Sees.raised {α : Type} {ends : α → Prop} {program : PathProg α}
    (sees : Sees sha256 cfg start ends program) {now : Host × List (Op × Choice)}
    (quiet : Quiet sha256 cfg start now) (raised : Raised now.2) :
    program.Always (Prog.logged perform) (Quiet sha256 cfg start)
      (fun outcome after => Raised after.2 ∧ ∀ value, outcome = .ok value → ends value) now := by
  have both := (sees now quiet).and (Prog.logged_always perform Raised
    (fun _ more raised => raised.append more) program raised)
  apply (both.weaken fun _ here => here.1).mono
  rintro outcome after _ ⟨ended, stillRaised⟩
  refine ⟨stillRaised, ?_⟩
  rintro value rfl
  rcases ended with ⟨other, same, ends⟩ | ⟨⟨failure, isError⟩, _⟩
  · cases same
    exact ends
  · cases isError

theorem unchanged_error {log : List (Op × Choice)} (raised : Raised log) (failure : Failure) :
    Unchanged (.error failure) log := by
  refine ⟨?_, Or.inr raised⟩
  intro answer isOk
  cases isOk

theorem unchanged_of_raised {program : PathProg Verdict}
    (sees : Sees sha256 cfg start (fun answer => answer.changed = false) program)
    {now : Host × List (Op × Choice)} (quiet : Quiet sha256 cfg start now)
    (raised : Raised now.2) :
    program.Always (Prog.logged perform) (Quiet sha256 cfg start)
      (fun outcome after => Unchanged outcome after.2) now := by
  apply (sees.raised quiet raised).mono
  intro outcome after _ ended
  exact ⟨ended.2, Or.inr ended.1⟩

theorem sees_refused (gen : Text) (summary : String) :
    Sees sha256 cfg start (fun answer => answer.changed = false)
      (verdict gen false summary) := by
  intro now quiet
  apply (sees_verdict gen false summary now quiet).mono
  rintro outcome after _ (⟨answer, same, ended⟩ | raised)
  · exact Or.inl ⟨answer, same, ended.2⟩
  · exact Or.inr raised

/-- Where a part comes to its value, or to what the handler of its refusal
makes of it. -/
theorem onRefused_sees {α : Type} {ends : α → Prop} {program : PathProg α}
    (sees : Sees sha256 cfg start ends program) (handler : String → α)
    {now : Host × List (Op × Choice)} (quiet : Quiet sha256 cfg start now) :
    (onRefused program fun message => return handler message).Always (Prog.logged perform)
      (Quiet sha256 cfg start) (fun outcome after => (∃ value, outcome = .ok value ∧ ends value) ∨
        Raised after.2 ∧ ((∃ message, outcome = .ok (handler message)) ∨
          ∃ failure, outcome = .error failure)) now := by
  unfold onRefused Prog.tryExcept
  rw [Prog.always_andThen]
  apply (sees now quiet).mono
  intro outcome after here ended
  cases outcome with
  | ok value =>
      rcases ended with found | ⟨⟨failure, isError⟩, _⟩
      · exact ⟨here, Or.inl found⟩
      · cases isError
  | error failure =>
      rcases ended with ⟨value, isOk, _⟩ | ⟨_, raised⟩
      · cases isOk
      · cases failure with
        | refused message => exact ⟨here, Or.inr ⟨raised, Or.inl ⟨message, rfl⟩⟩⟩
        | osError reason => exact ⟨here, Or.inr ⟨raised, Or.inr ⟨_, rfl⟩⟩⟩
        | other => exact ⟨here, Or.inr ⟨raised, Or.inr ⟨_, rfl⟩⟩⟩

theorem switchFrom_unchanged (py : Builtins) (kept : Option Text)
    {now : Host × List (Op × Choice)} (quiet : Quiet sha256 cfg start now) :
    (switchFrom py (start.rendered sha256 cfg) kept
      (.generation (generation sha256 cfg))).Always (Prog.logged perform)
      (Quiet sha256 cfg start) (fun outcome after => Unchanged outcome after.2) now := by
  have stays : moveTo py (start.rendered sha256 cfg) kept
      (.generation (generation sha256 cfg)) = pure () :=
    if_neg (not_not.mpr rfl)
  have retires : Sees sha256 cfg start
      (fun answer => answer.ok = true ∧ answer.changed = false) (do
        retire py (start.rendered sha256 cfg)
        let wrote ← ask .recorded
        verdict (start.rendered sha256 cfg).gen true (okSummary
          (.generation (generation sha256 cfg)) (start.rendered sha256 cfg).gen wrote)) := by
    apply sees_bind (sees_retire py)
    intro _ _
    apply sees_bind sees_recorded
    intro wrote _
    exact sees_verdict _ true _
  unfold switchFrom
  rw [stays]
  change (onRefused _ _).Always _ _ _ now
  unfold onRefused Prog.tryExcept
  rw [Prog.always_andThen]
  apply (retires now quiet).mono
  intro outcome after here ended
  cases outcome with
  | ok answer =>
      rcases ended with ⟨same, isOk, ended⟩ | ⟨⟨failure, isError⟩, _⟩
      · cases isOk
        refine ⟨here, ?_, Or.inl ⟨answer, rfl, ended.1⟩⟩
        intro other same
        cases same
        exact ended.2
      · cases isError
  | error failure =>
      rcases ended with ⟨value, isOk, _⟩ | ⟨_, raised⟩
      · cases isOk
      · cases failure with
        | refused message => exact unchanged_of_raised (sees_refused _ _) here raised
        | osError reason => exact ⟨here, unchanged_error raised _⟩
        | other => exact ⟨here, unchanged_error raised _⟩

theorem switchKeys_unchanged (py : Builtins) (renders : Renders (start.rendered sha256 cfg) start)
    {now : Host × List (Op × Choice)} (quiet : Quiet sha256 cfg start now) :
    (switchKeys py (start.rendered sha256 cfg) (keyBlob start.panelKey)).Always
      (Prog.logged perform) (Quiet sha256 cfg start)
      (fun outcome after => Unchanged outcome after.2) now := by
  have running : runningGeneration (lineFor (some (panelKeys (generation sha256 cfg)
      start.panelKey)) (keyBlob start.panelKey)) = .generation (generation sha256 cfg) := by
    have named : IsGeneration (generation sha256 cfg) := renders.named
    rw [lineFor_panelKeys named renders.isKey renders.blob]
    exact runningGeneration_keyLine named start.panelKey
  have reads : Sees sha256 cfg start (fun read => read = .ok (some
      (panelKeys (generation sha256 cfg) start.panelKey))) (do
        let keys ← ask .readKeys
        return (Except.ok keys : Except String (Option Text))) := by
    apply sees_bind sees_readKeys
    intro keys same
    rw [same]
    exact sees_pure rfl
  unfold switchKeys
  apply (onRefused_sees reads Except.error quiet).bind
  · intro read after here ended
    rcases ended with ⟨value, isOk, same⟩ | ⟨raised, ⟨message, isOk⟩ | ⟨failure, isError⟩⟩
    · cases isOk
      rw [same]
      dsimp only
      rw [running]
      exact switchFrom_unchanged py _ here
    · cases isOk
      exact unchanged_of_raised (sees_refused _ _) here raised
    · cases isError
  · intro failure after _ ended
    rcases ended with ⟨value, isOk, _⟩ | ⟨raised, _⟩
    · cases isOk
    · exact unchanged_error raised failure

/-- Closing the keys keeps what a run came to. -/
theorem closeKeys_unchanged {outcome : Except Failure Verdict}
    {now : Host × List (Op × Choice)} (quiet : Quiet sha256 cfg start now)
    (unchanged : Unchanged outcome now.2) :
    ((ask .closeKeys).andThen (Prog.onOk fun _ => Prog.done outcome)).Always
      (Prog.logged perform) (Quiet sha256 cfg start)
      (fun outcome after => Unchanged outcome after.2) now := by
  have closes : Sees sha256 cfg start (fun _ => True) (ask .closeKeys) :=
    sees_ask .closeKeys rfl fun _ _ _ => ⟨(), rfl, trivial⟩
  have grown := Prog.logged_always perform (Unchanged outcome)
    (fun _ more kept => ⟨kept.1, kept.2.imp_right fun raised => raised.append more⟩)
    (ask .closeKeys) unchanged
  rw [Prog.always_andThen]
  apply (((closes now quiet).and grown).weaken fun _ here => here.1).mono
  rintro closed after here ⟨ended, still⟩
  cases closed with
  | ok value => exact ⟨here, still⟩
  | error failure =>
      rcases ended with ⟨value, isOk, _⟩ | ⟨_, raised⟩
      · cases isOk
      · exact ⟨here, unchanged_error raised failure⟩

theorem switch_unchanged (py : Builtins) (valid : cfg.Valid py)
    (renders : Renders (start.rendered sha256 cfg) start)
    {now : Host × List (Op × Choice)} (quiet : Quiet sha256 cfg start now) :
    (switch py sha256 cfg).Always (Prog.logged perform) (Quiet sha256 cfg start)
      (fun outcome after => Unchanged outcome after.2) now := by
  have read : Sees sha256 cfg start (fun pub => pub = start.panelPub.map universal)
      (ask .readPanelPub) := by
    apply sees_ask .readPanelPub rfl
    intro other choice here
    refine ⟨_, rfl, ?_⟩
    rw [here.panelPub]
  have opens : Sees sha256 cfg start (fun opened => opened = none) (do
      let _ ← ask .openKeys
      return (none : Option String)) := by
    have asked : Sees sha256 cfg start (fun _ => True) (ask .openKeys) :=
      sees_ask .openKeys rfl fun _ _ _ => ⟨(), rfl, trivial⟩
    exact sees_bind asked fun _ _ => sees_pure rfl
  unfold switch
  rw [show passthroughProblem py cfg.passthrough = none from valid]
  apply (read now quiet).bind
  · intro pub after here ended
    rcases ended with ⟨value, isOk, same⟩ | ⟨⟨failure, isError⟩, _⟩
    · cases isOk
      subst same
      have blob : keyBlob (stripChars isSpace ((start.panelPub.map universal).getD [])) ≠ [] :=
        renders.blob
      have isKey : isPanelKey (stripChars isSpace ((start.panelPub.map universal).getD [])) =
          true :=
        renders.isKey
      dsimp only
      rw [if_neg blob, isKey, if_neg (by decide)]
      apply (onRefused_sees opens some here).bind
      · intro opened host hostQuiet opening
        rcases opening with ⟨value, isOk, isNone⟩ | ⟨raised, ⟨message, isOk⟩ | ⟨failure, isError⟩⟩
        · cases isOk
          rw [isNone]
          unfold Prog.tryFinally
          rw [Prog.always_andThen]
          apply (switchKeys_unchanged py renders hostQuiet).mono
          intro outcome switched switchedQuiet unchanged
          exact closeKeys_unchanged switchedQuiet unchanged
        · cases isOk
          exact unchanged_of_raised (sees_refused _ _) hostQuiet raised
        · cases isError
      · intro failure host _ opening
        rcases opening with ⟨value, isOk, _⟩ | ⟨raised, _⟩
        · cases isOk
        · exact unchanged_error raised failure
    · cases isError
  · intro failure after _ ended
    rcases ended with ⟨value, isOk, _⟩ | ⟨_, raised⟩
    · cases isOk
    · exact unchanged_error raised failure

/-- The run returned ok. -/
def answeredOk : Option (Except Failure Verdict) → Bool
  | some (.ok answer) => answer.ok
  | _ => false

/-- What a run of the same request does on the host: it looks, and says that
nothing changed. -/
structure Rests (sha256 : Text → Text) (py : Builtins) (cfg : Config) (host : Host)
    (choices : List Choice) : Prop where
  looks : ∀ step ∈ (switch py sha256 cfg).trace perform choices host, Looking step.1 = true
  unchanged : ∀ answer, ((switch py sha256 cfg).run perform choices host).2 =
    some (.ok answer) → answer.changed = false
  ok : ((switch py sha256 cfg).run perform choices host).2.isSome = true →
    (∀ choice ∈ choices, choice.raises = none) →
    answeredOk ((switch py sha256 cfg).run perform choices host).2 = true

theorem rests_of_settled (py : Builtins) (valid : cfg.Valid py)
    (renders : Renders (start.rendered sha256 cfg) start) {host : Host}
    (quiet : Quiet sha256 cfg start (host, [])) (choices : List Choice) :
    Rests sha256 py cfg host choices := by
  have always := switch_unchanged py valid renders quiet
  have logs := Prog.run_logged perform (switch py sha256 cfg) choices host []
  have looked := (always.run choices).looked
  rw [logs] at looked
  have ends (outcome : Except Failure Verdict)
      (ended : ((switch py sha256 cfg).run perform choices host).2 = some outcome) :
      Unchanged outcome ((switch py sha256 cfg).trace perform choices host) := by
    have unchanged := always.outcome (by rw [logs]; exact ended)
    rw [logs] at unchanged
    exact unchanged
  constructor
  · exact looked
  · intro answer ended
    exact (ends _ ended).1 answer rfl
  · intro isSome calm
    obtain ⟨outcome, ended⟩ := Option.isSome_iff_exists.mp isSome
    rcases (ends outcome ended).2 with ⟨answer, rfl, isOk⟩ | ⟨step, found, raises⟩
    · rw [ended]
      exact isOk
    · exact absurd (calm _ (Prog.mem_trace perform found)) raises

theorem settledBy_of_ok (hex : HexDigest sha256) {py : Builtins} (readsBack : cfg.ReadsBack)
    {choices : List Choice}
    (ok : answeredOk ((switch py sha256 cfg).run perform choices
      { start with wrote := [] }).2 = true) :
    SettledBy sha256 py cfg start (start.attempt sha256 py ⟨cfg, choices⟩) := by
  have settles := @switch_settles _ py _ hex readsBack { start with wrote := [] }
  cases ended : ((switch py sha256 cfg).run perform choices { start with wrote := [] }).2 with
  | none =>
      rw [ended] at ok
      cases ok
  | some outcome =>
      cases outcome with
      | error failure =>
          rw [ended] at ok
          cases ok
      | ok answer =>
          rw [ended] at ok
          obtain ⟨valid, renders, settled, inPlace, panelPub⟩ :=
            settles.outcome ended answer rfl ok
          exact ⟨valid, ⟨renders.named, renders.keys, renders.isKey, renders.blob⟩, settled,
            ⟨inPlace.entry, inPlace.keys, inPlace.rule, inPlace.accept⟩, panelPub⟩

/-- A second switch looks, changes nothing and comes to an end with ok, unless an
operation raises. -/
theorem SettledBy.rests {py : Builtins} {after : Host}
    (settled : SettledBy sha256 py cfg start after) :
    (∀ again, Rests sha256 py cfg { after with wrote := [] } again) ∧
      ∀ again : Nat → Choice, ∃ count, ((switch py sha256 cfg).run perform
        ((List.range count).map again) { after with wrote := [] }).2.isSome = true := by
  have quiet : Quiet sha256 cfg start ({ after with wrote := [] }, []) := by
    obtain ⟨keys, sudoers, acceptenv, sudoersNext, acceptenvNext, link, intact, alone⟩ :=
      settled.settled
    exact ⟨⟨keys, sudoers, acceptenv, sudoersNext, acceptenvNext, link, intact, alone⟩,
      settled.panelPub, rfl, fun _ found => absurd found List.not_mem_nil⟩
  constructor
  · intro again
    exact rests_of_settled py settled.valid settled.renders quiet again
  · intro again
    exact Prog.exists_outcome perform _ again _

end Again

/-! # What is left, byte for byte -/

/-- The two executables of a generation. -/
def Config.executables (cfg : Config) : PyDict Text Node :=
  [("entry".toList, .regular true (text cfg.entry)),
    ("dispatcher".toList, .regular true (text cfg.dispatcher))]

section Converged

variable (sha256 : Text → Text) (cfg : Config)

/-- The generation's directory holds exactly its two executables. -/
def HoldsGeneration (host : Host) : Prop :=
  ∃ files, host.entry (generation sha256 cfg) = some (.directory true files) ∧
    files.Perm cfg.executables

/-- The host holds this request's keys, rules, link and generation, and nothing of
another. -/
structure Converged (pub : Text) (host : Host) : Prop where
  keys : host.keys = some (panelKeys (generation sha256 cfg) pub)
  sudoers : host.files .sudoers = some (cfg.rule sha256)
  acceptenv : host.files .acceptenv = some (acceptenvRule cfg.runnerUser cfg.names)
  sudoersNext : host.files .sudoersNext = none
  acceptenvNext : host.files .acceptenvNext = none
  link : host.link = .symlink (dispatcherPath (generation sha256 cfg))
  directory : HoldsGeneration sha256 cfg host
  alone : ∀ name, name ≠ generation sha256 cfg → host.entry name = none

/-- What already reads as the request's own texts has their line ends. -/
structure LineEnds (pub : Text) (host : Host) : Prop where
  keys : host.keys.map universal = some (panelKeys (generation sha256 cfg) pub) →
    host.keys = some (panelKeys (generation sha256 cfg) pub)
  sudoers : (host.files .sudoers).map universal = some (cfg.rule sha256) →
    host.files .sudoers = some (cfg.rule sha256)
  acceptenv : (host.files .acceptenv).map universal =
    some (acceptenvRule cfg.runnerUser cfg.names) →
      host.files .acceptenv = some (acceptenvRule cfg.runnerUser cfg.names)
  directory : host.intact (generation sha256 cfg) cfg.files = true →
    HoldsGeneration sha256 cfg host

variable {sha256 cfg}

theorem holdsGeneration_iff {start after : Host} (entry : after.entry (generation sha256 cfg) =
      start.reinstalled (generation sha256 cfg) (text cfg.entry) (text cfg.dispatcher)) :
    HoldsGeneration sha256 cfg after ↔
      (start.intact (generation sha256 cfg) cfg.files = true →
        HoldsGeneration sha256 cfg start) := by
  unfold Host.reinstalled at entry
  split at entry
  · rename_i isIntact
    rw [HoldsGeneration, entry]
    exact ⟨fun holds _ => holds, fun holds => holds isIntact⟩
  · rename_i damaged
    refine ⟨fun _ isIntact => absurd isIntact damaged, fun _ => ?_⟩
    exact ⟨cfg.executables, entry, List.Perm.refl _⟩

/-- An ok switch has left alone what read as it should, and written the rest. -/
theorem converged_iff {py : Builtins} {start after : Host}
    (settled : SettledBy sha256 py cfg start after) :
    Converged sha256 cfg start.panelKey after ↔ LineEnds sha256 cfg start.panelKey start := by
  obtain ⟨entry, keys, rule, accept⟩ := settled.inPlace
  constructor
  · intro converged
    constructor
    · exact rewritten_eq_some_iff.mp (keys.symm.trans converged.keys)
    · exact rewritten_eq_some_iff.mp (rule.symm.trans converged.sudoers)
    · exact rewritten_eq_some_iff.mp (accept.symm.trans converged.acceptenv)
    · exact (holdsGeneration_iff entry).mp converged.directory
  · intro lineEnds
    constructor
    · exact keys.trans (rewritten_eq_some_iff.mpr lineEnds.keys)
    · exact rule.trans (rewritten_eq_some_iff.mpr lineEnds.sudoers)
    · exact accept.trans (rewritten_eq_some_iff.mpr lineEnds.acceptenv)
    · exact settled.settled.sudoersNext
    · exact settled.settled.acceptenvNext
    · exact settled.settled.link
    · exact (holdsGeneration_iff entry).mpr lineEnds.directory
    · exact settled.settled.alone

end Converged

/-- The places of a request outside the generations. -/
def Place.fixed : List Place :=
  [.panelPub, .keys, .keysTmp, .slot .sudoers, .slot .sudoersNext, .slot .acceptenv,
    .slot .acceptenvNext, .slotTmp .sudoers, .slotTmp .sudoersNext, .slotTmp .acceptenv,
    .slotTmp .acceptenvNext, .link, .linkTmp]

/-- The first path is the second, or a directory above it. -/
def atOrAbove (above path : Text) : Prop :=
  (above ++ ['/']) <+: (path ++ ['/'])

instance (above path : Text) : Decidable (atOrAbove above path) :=
  inferInstanceAs (Decidable (_ <+: _))

/-- The paths of a request lead to places of their own: none at, above or under another
or the directory of generations, and none by way of a parent directory. -/
structure Config.Apart (cfg : Config) : Prop where
  fixed : Place.fixed.Pairwise fun one other =>
    ¬ atOrAbove (one.path cfg) (other.path cfg) ∧ ¬ atOrAbove (other.path cfg) (one.path cfg)
  generations : ∀ place ∈ Place.fixed, ¬ atOrAbove generationsDir (place.path cfg) ∧
    ¬ atOrAbove (place.path cfg) generationsDir
  straight : ∀ place ∈ Place.fixed, "..".toList ∉ splitOn '/' (place.path cfg)

/-- A request whose texts read back as they are written, to places of their own. -/
structure Config.Settable (cfg : Config) : Prop where
  readsBack : cfg.ReadsBack
  apart : cfg.Apart

/-- The sample host, whose rules are the first sample's with other line ends. -/
def crlfHost : Host :=
  sampleHost.setFile .sudoers (some ((firstConfig.rule sampleSha256).flatMap fun character =>
    if character = '\n' then ['\r', '\n'] else [character]))

theorem firstConfig_settable : firstConfig.Settable where
  readsBack := ⟨by unfold Config.Clean; decide, by decide⟩
  apart := ⟨by decide +kernel, by decide +kernel, by decide +kernel⟩

/-- A host no switch has run on. -/
def newHost : Host :=
  { sampleHost with keys := none, files := fun _ => none, generations := [], link := .absent }

/-- Every command of its first switch goes through. -/
def provenSwitch : List Choice :=
  List.replicate 40 .ok ++ provenBy firstConfig ++ List.replicate 9 .ok ++
    provenBy firstConfig ++ List.replicate 23 .ok ++ provenBy firstConfig ++
    List.replicate 20 .ok

end Catena.Dispatch

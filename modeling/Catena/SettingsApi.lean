import Catena.StoreStages

/-!
# The settings API

`onbox_config.main --dispatch-stdin`, the requests the panel sends.  A write
changes nothing outside the client's own credentials and the config, and
nothing at all when it is rejected; and no sequence of requests tells the
panel anything about the part of the store it is not given.
-/

namespace Catena.Store

/-- A run over the store file: it may raise, and keeps what it wrote. -/
abbrev FileRun := ExceptT PyError (StateM (Option Json))

namespace FileRun

/-- A step that reads the file. -/
def reading {α : Type} (step : Option Json → Except PyError α) : FileRun α :=
  ExceptT.mk fun file => (step file, file)

/-- The `os.replace` of `dump`. -/
def writing (document : Json) : FileRun Unit :=
  ExceptT.mk fun _ => (.ok (), some document)

/-- The run on a file: its result and the file it leaves. -/
def exec {α : Type} (program : FileRun α) (file : Option Json) :
    Except PyError α × Option Json :=
  program.run file

@[simp]
theorem exec_pure {α : Type} (value : α) (file : Option Json) :
    exec (pure value) file = (.ok value, file) :=
  rfl

@[simp]
theorem exec_throw {α : Type} (failure : PyError) (file : Option Json) :
    exec (throw failure : FileRun α) file = (.error failure, file) :=
  rfl

theorem exec_reading_bind {α β : Type} (step : Option Json → Except PyError α)
    (next : α → FileRun β) (file : Option Json) :
    exec (reading step >>= next) file =
      match step file with
      | .ok value => exec (next value) file
      | .error failure => (.error failure, file) := by
  simp only [exec, reading, bind, ExceptT.bind, ExceptT.mk, ExceptT.run,
    StateT.bind, ExceptT.bindCont]
  cases step file <;> rfl

@[simp]
theorem exec_writing_bind {β : Type} (document : Json) (next : Unit → FileRun β)
    (file : Option Json) :
    exec (writing document >>= next) file = exec (next ()) (some document) :=
  rfl

end FileRun

/-- A request the panel sends, and whether another writer keeps the store
lock past the wait. -/
structure Call where
  request : Json
  lockHeld : Bool

/-- What a dispatch prints.  A JSON object is the members it has, in whatever
order. -/
inductive Response where
  | view (secrets config : String → Option Json)
  | accepted

def storeLock (held : Bool) : FileRun Unit :=
  FileRun.reading fun _ => if held then .error (.exitStatus 75) else .ok ()

/-- The `write` request. -/
def dispatchWrite (py : Builtins) (lockHeld : Bool)
    (fields : List (String × Json)) : FileRun Response := do
  storeLock lockHeld
  let store ← FileRun.reading load
  let (store, _) ← FileRun.reading fun _ =>
    applyInputs py ((PyDict.get fields "secrets").getD .null)
      ((PyDict.get fields "config").getD .null) true store
  let document ← FileRun.reading (dump store)
  FileRun.writing document
  return .accepted

/-- The `read` request. -/
def dispatchRead : FileRun Response := do
  let store ← FileRun.reading load
  let view := panelView store
  return .view (PyDict.get view.secrets) (PyDict.get view.config)

def dispatch (py : Builtins) (call : Call) : FileRun Response :=
  match call.request with
  | .obj fields =>
      match PyDict.get fields "op" with
      | some (.str "read") => dispatchRead
      | some (.str "write") => dispatchWrite py call.lockHeld fields
      | op => throw (.systemExit
          ("--dispatch-stdin: unknown op " ++ py.repr (op.getD .null)))
  | _ => throw (.systemExit "--dispatch-stdin: expected a JSON object")

/-- Requests handled one after another: what each printed or raised, and the
file they leave. -/
def serve (py : Builtins) :
    List Call → Option Json → List (Except PyError Response) × Option Json
  | [], file => ([], file)
  | call :: rest, file =>
      let (response, file) := FileRun.exec (dispatch py call) file
      let (responses, file) := serve py rest file
      (response :: responses, file)

/-- The document a `write` leaves, or what it raises. -/
def writtenFile (py : Builtins) (lockHeld : Bool)
    (fields : List (String × Json)) (file : Option Json) : Except PyError Json :=
  if lockHeld then .error (.exitStatus 75)
  else
    match load file with
    | .error failure => .error failure
    | .ok store =>
        match readInputs ((PyDict.get fields "secrets").getD .null)
            ((PyDict.get fields "config").getD .null) with
        | .error failure => .error failure
        | .ok inputs => dump (merge py inputs true store).1 file

theorem exec_dispatchWrite (py : Builtins) (lockHeld : Bool)
    (fields : List (String × Json)) (file : Option Json) :
    FileRun.exec (dispatchWrite py lockHeld fields) file =
      match writtenFile py lockHeld fields file with
      | .ok document => (.ok .accepted, some document)
      | .error failure => (.error failure, file) := by
  simp only [dispatchWrite, storeLock, FileRun.exec_reading_bind, writtenFile,
    applyInputs_eq]
  cases lockHeld with
  | true => rfl
  | false =>
      cases load file with
      | error failure => rfl
      | ok store =>
          cases readInputs ((PyDict.get fields "secrets").getD .null)
              ((PyDict.get fields "config").getD .null) with
          | error failure => rfl
          | ok inputs =>
              simp only [Except.map, if_false, Bool.false_eq_true]
              cases dump (merge py inputs true store).1 file <;> rfl

/-- Every request leaves the file alone or is an accepted write. -/
theorem exec_dispatch_cases (py : Builtins) (call : Call) (file : Option Json) :
    (FileRun.exec (dispatch py call) file).2 = file ∨
      ∃ store inputs document, load file = .ok store ∧
        dump (merge py inputs true store).1 file = .ok document ∧
        FileRun.exec (dispatch py call) file = (.ok .accepted, some document) := by
  unfold dispatch
  split
  · split
    · left
      simp only [dispatchRead, FileRun.exec_reading_bind]
      cases load file <;> rfl
    · rename_i fields _ _ _
      rw [exec_dispatchWrite]
      cases written : writtenFile py call.lockHeld fields file with
      | error failure => exact Or.inl rfl
      | ok document =>
          right
          unfold writtenFile at written
          split at written
          · simp at written
          · split at written
            · simp at written
            · split at written
              · simp at written
              · exact ⟨_, _, document, by assumption, written, rfl⟩
    · exact Or.inl rfl
  · exact Or.inl rfl

/-- The secrets a file is read as; none where it cannot be read. -/
def secretsOf (file : Option Json) : PyDict String Json :=
  match load file with
  | .ok store => store.secrets
  | .error _ => []

theorem secretsOf_of_load {file : Option Json} {store : Store}
    (read : load file = .ok store) : secretsOf file = store.secrets := by
  simp [secretsOf, read]

/-- What no settings request takes away: the blocks of other writers, the
secrets that are not the client's, and every secret that holds something. -/
structure Frame (before after : Option Json) : Prop where
  blocks : ∀ key, key ≠ "secrets" → key ≠ "config" →
    block after key = block before key
  foreign : ∀ key, key ∉ externalSecrets →
    PyDict.get (secretsOf after) key = PyDict.get (secretsOf before) key
  held : ∀ key value, PyDict.get (secretsOf before) key = some value →
    value.blank = false →
      ∃ kept, PyDict.get (secretsOf after) key = some kept ∧ kept.blank = false

theorem Frame.refl (file : Option Json) : Frame file file where
  blocks _ _ _ := rfl
  foreign _ _ := rfl
  held _ value found notBlank := ⟨value, found, notBlank⟩

theorem Frame.trans {first second third : Option Json}
    (before : Frame first second) (after : Frame second third) :
    Frame first third where
  blocks key notSecrets notConfig :=
    (after.blocks key notSecrets notConfig).trans
      (before.blocks key notSecrets notConfig)
  foreign key notExternal :=
    (after.foreign key notExternal).trans (before.foreign key notExternal)
  held key value found notBlank := by
    obtain ⟨middle, middleFound, middleNotBlank⟩ :=
      before.held key value found notBlank
    exact after.held key middle middleFound middleNotBlank

theorem merge_foreign (py : Builtins) (inputs : Inputs) (overwrite : Bool)
    (store : Store) {key : String} (notExternal : key ∉ externalSecrets) :
    PyDict.get (merge py inputs overwrite store).1.secrets key =
      PyDict.get store.secrets key := by
  have notTokens : key ≠ "cloudflare_api_tokens" := by
    rintro rfl
    exact notExternal (by decide)
  have notSupplied : ∀ item ∈ inputs.secretItems, item.1 ≠ key := by
    rintro item member rfl
    exact notExternal (inputs.external item member)
  rw [get_merge_secrets, Tally.resolve_of_not_mem _ _ _ notSupplied,
    get_keepOutgoing_of_ne py inputs.zone store notTokens]

theorem merge_held (py : Builtins) (inputs : Inputs) (overwrite : Bool)
    (store : Store) {key : String} {value : Json}
    (found : PyDict.get store.secrets key = some value)
    (notBlank : value.blank = false) :
    ∃ kept, PyDict.get (merge py inputs overwrite store).1.secrets key = some kept ∧
      kept.blank = false := by
  rw [get_merge_secrets]
  refine Tally.resolve_induction _ _
    (fun current => ∃ kept, current = some kept ∧ kept.blank = false) _ ?_ ?_
  · rcases (keepOutgoing_spec py inputs.zone store).2 with same | ⟨fields, written⟩
    · exact ⟨value, by rw [same, found], notBlank⟩
    · rw [written, PyDict.get_set]
      split
      · exact ⟨_, rfl, rfl⟩
      · exact ⟨value, found, notBlank⟩
  · intro item _ before assigned decided
    obtain ⟨rfl, suppliedNotBlank⟩ := secretDecision_some decided
    exact ⟨_, rfl, suppliedNotBlank⟩

theorem dispatch_frame (py : Builtins) (call : Call) (file : Option Json) :
    Frame file (FileRun.exec (dispatch py call) file).2 := by
  rcases exec_dispatch_cases py call file with
    unchanged | ⟨store, inputs, document, read, written, executed⟩
  · rw [unchanged]
    exact Frame.refl file
  · have reread := load_dump
      (merge_distinctKeys py inputs true (load_distinctKeys read)) written
    rw [executed]
    refine ⟨fun key => block_dump written, ?_, ?_⟩
    · intro key notExternal
      rw [secretsOf_of_load reread, secretsOf_of_load read]
      exact merge_foreign py inputs true store notExternal
    · intro key value found notBlank
      rw [secretsOf_of_load reread]
      rw [secretsOf_of_load read] at found
      exact merge_held py inputs true store found notBlank

theorem serve_frame (py : Builtins) (calls : List Call) (file : Option Json) :
    Frame file (serve py calls file).2 := by
  induction calls generalizing file with
  | nil => exact Frame.refl file
  | cons call rest ih => exact (dispatch_frame py call file).trans (ih _)

theorem minted_not_external :
    ∀ entry ∈ internalSecrets ++ userHeldSecrets, entry.1 ∉ externalSecrets := by
  decide

/-- After any requests, one more keeps the frame of the first file and of the
file it finds, sets, changes or clears no internal or user-held secret, and
leaves the file as it finds it when it is rejected. -/
theorem settings_requests_keep_frame (py : Builtins) (file : Option Json)
    (calls : List Call) (call : Call) :
    let before := (serve py calls file).2
    let outcome := FileRun.exec (dispatch py call) before
    Frame file outcome.2 ∧ Frame before outcome.2 ∧
      (∀ entry ∈ internalSecrets ++ userHeldSecrets,
        PyDict.get (secretsOf outcome.2) entry.1 =
          PyDict.get (secretsOf file) entry.1) ∧
      (∀ failure, outcome.1 = .error failure → outcome.2 = before) := by
  intro before outcome
  have whole : Frame file outcome.2 :=
    (serve_frame py calls file).trans (dispatch_frame py call before)
  refine ⟨whole, dispatch_frame py call before, ?_, ?_⟩
  · intro entry member
    exact whole.foreign entry.1 (minted_not_external entry member)
  · intro failure rejected
    rcases exec_dispatch_cases py call before with
      unchanged | ⟨store, inputs, document, _, _, executed⟩
    · exact unchanged
    · simp [outcome, executed] at rejected

/-- Two stores with the same config and the same panel secrets. -/
structure Agree (first second : Store) : Prop where
  config : ∀ key, PyDict.get first.config key = PyDict.get second.config key
  secrets : ∀ key ∈ panelSecrets,
    PyDict.get first.secrets key = PyDict.get second.secrets key

def FilesAgree (first second : Option Json) : Prop :=
  ∃ firstStore secondStore, load first = .ok firstStore ∧
    load second = .ok secondStore ∧ Agree firstStore secondStore

theorem merge_agree (py : Builtins) (inputs : Inputs) (overwrite : Bool)
    {first second : Store} (agree : Agree first second) :
    Agree (merge py inputs overwrite first).1
      (merge py inputs overwrite second).1 where
  config key := by rw [get_merge_config, get_merge_config, agree.config key]
  secrets key shown := by
    have notTokens : key ≠ "cloudflare_api_tokens" := by
      rintro rfl
      exact absurd shown (by decide)
    rw [get_merge_secrets, get_merge_secrets,
      get_keepOutgoing_of_ne py inputs.zone first notTokens,
      get_keepOutgoing_of_ne py inputs.zone second notTokens,
      agree.secrets key shown]

theorem panelView_agree {first second : Store} (agree : Agree first second) :
    PyDict.get (panelView first).secrets = PyDict.get (panelView second).secrets ∧
      PyDict.get (panelView first).config =
        PyDict.get (panelView second).config := by
  refine ⟨funext fun key => ?_, funext agree.config⟩
  simp only [panelView, PyDict.get_filter]
  split
  · rename_i shown
    exact agree.secrets key shown
  · rfl

/-- A write raises the same in both runs, or leaves files that agree. -/
theorem writtenFile_agree (py : Builtins) (lockHeld : Bool)
    (fields : List (String × Json)) {first second : Option Json}
    (agree : FilesAgree first second) :
    (∃ failure, writtenFile py lockHeld fields first = .error failure ∧
        writtenFile py lockHeld fields second = .error failure) ∨
      ∃ firstDocument secondDocument,
        writtenFile py lockHeld fields first = .ok firstDocument ∧
        writtenFile py lockHeld fields second = .ok secondDocument ∧
        FilesAgree (some firstDocument) (some secondDocument) := by
  obtain ⟨firstStore, secondStore, firstRead, secondRead, stores⟩ := agree
  simp only [writtenFile, firstRead, secondRead]
  cases lockHeld with
  | true => exact Or.inl ⟨_, rfl, rfl⟩
  | false =>
      cases readInputs ((PyDict.get fields "secrets").getD .null)
          ((PyDict.get fields "config").getD .null) with
      | error failure => exact Or.inl ⟨failure, rfl, rfl⟩
      | ok inputs =>
          obtain ⟨firstDocument, firstWritten⟩ :=
            dump_of_load firstRead (merge py inputs true firstStore).1
          obtain ⟨secondDocument, secondWritten⟩ :=
            dump_of_load secondRead (merge py inputs true secondStore).1
          refine Or.inr ⟨firstDocument, secondDocument, firstWritten,
            secondWritten, _, _, ?_, ?_, merge_agree py inputs true stores⟩
          · exact load_dump (merge_distinctKeys py inputs true
              (load_distinctKeys firstRead)) firstWritten
          · exact load_dump (merge_distinctKeys py inputs true
              (load_distinctKeys secondRead)) secondWritten

theorem dispatch_agree (py : Builtins) (call : Call)
    {first second : Option Json} (agree : FilesAgree first second) :
    (FileRun.exec (dispatch py call) first).1 =
        (FileRun.exec (dispatch py call) second).1 ∧
      FilesAgree (FileRun.exec (dispatch py call) first).2
        (FileRun.exec (dispatch py call) second).2 := by
  unfold dispatch
  split
  · split
    · obtain ⟨firstStore, secondStore, firstRead, secondRead, stores⟩ := agree
      obtain ⟨sameSecrets, sameConfig⟩ := panelView_agree stores
      simp only [dispatchRead, FileRun.exec_reading_bind, firstRead, secondRead,
        FileRun.exec_pure, sameSecrets, sameConfig, true_and]
      exact ⟨firstStore, secondStore, firstRead, secondRead, stores⟩
    · rename_i fields _ _ _
      rw [exec_dispatchWrite, exec_dispatchWrite]
      rcases writtenFile_agree py call.lockHeld fields agree with
        ⟨failure, firstRaised, secondRaised⟩ |
        ⟨firstDocument, secondDocument, firstWritten, secondWritten, files⟩
      · rw [firstRaised, secondRaised]
        exact ⟨rfl, agree⟩
      · rw [firstWritten, secondWritten]
        exact ⟨rfl, files⟩
    · exact ⟨rfl, agree⟩
  · exact ⟨rfl, agree⟩

/-- Two files that agree on the config and the panel's secrets answer every
sequence of requests alike, and still agree after it. -/
theorem panel_noninterference (py : Builtins) (calls : List Call)
    {first second : Option Json} (agree : FilesAgree first second) :
    (serve py calls first).1 = (serve py calls second).1 ∧
      FilesAgree (serve py calls first).2 (serve py calls second).2 := by
  induction calls generalizing first second with
  | nil => exact ⟨rfl, agree⟩
  | cons call rest ih =>
      obtain ⟨sameResponse, files⟩ := dispatch_agree py call agree
      obtain ⟨sameResponses, finalFiles⟩ := ih files
      exact ⟨List.cons_eq_cons.mpr ⟨sameResponse, sameResponses⟩, finalFiles⟩

/-- A file with a domain, its token and one internal secret. -/
def sampleFile (internal : String) : Option Json :=
  some (.obj
    [("secrets", .obj [("cloudflare_api_token", .str "old-token"),
      ("catena_postgres_password", .str internal)]),
    ("config", .obj [("CLOUDFLARE_ZONE", .str "old.example")])])

/-- A change of domain and token, then a read. -/
def sampleCalls : List Call :=
  [⟨.obj [("op", .str "write"),
      ("secrets", .obj [("cloudflare_api_token", .str "new-token")]),
      ("config", .obj [("CLOUDFLARE_ZONE", .str "new.example")])], false⟩,
    ⟨.obj [("op", .str "read")], false⟩]

theorem panel_noninterference_domain_change :
    (serve Builtins.unused sampleCalls (sampleFile "first")).1 =
        (serve Builtins.unused sampleCalls (sampleFile "second")).1 ∧
      FilesAgree (serve Builtins.unused sampleCalls (sampleFile "first")).2
        (serve Builtins.unused sampleCalls (sampleFile "second")).2 := by
  apply panel_noninterference
  refine ⟨_, _, rfl, rfl, fun _ => rfl, ?_⟩
  intro key shown
  have notInternal : "catena_postgres_password" ≠ key := by
    rintro rfl
    exact absurd shown (by decide)
  by_cases token : "cloudflare_api_token" = key
  · subst token
    rfl
  · simp [PyDict.ofPairs, PyDict.set, PyDict.get, token, notInternal]

end Catena.Store

import Catena.RekeyStages

/-!
# Stopping during a re-key

A request that stops between the re-key and the replacement of the store, cut
off or ended by a file operation that fails, leaves a repository that no
password on the host opens.  Nowhere else does it.
-/

namespace Catena.ResticKey

section Requests

variable {reading : String → String} {start : Host} {key : String}
  (repository : start.destination = .repository key)

/-- The password a request re-keys to. -/
def newPassword (py : Builtins) (request : Json) (drawn : String) : String :=
  match request with
  | .obj fields =>
      match PyDict.get fields "op" with
      | some (.str "rotate") => Json.textOr py (PyDict.get fields "new_password")
      | _ => drawn
  | _ => drawn

def RequestStage (reading : String → String) (start : Host) (py : Builtins)
    (request : Json) (traced : Traced) : Prop :=
  Stage reading start (newPassword py request traced.drawn) traced.drawn traced

theorem requestStage_of_stage {py : Builtins} {request : Json} {drawn : String}
    {traced : Traced}
    (stage : Stage reading start (newPassword py request drawn) drawn traced) :
    RequestStage reading start py request traced := by
  unfold RequestStage
  rw [stage.1]
  exact stage

theorem requestStage_of_before {py : Builtins} {request : Json} {drawn : String}
    {traced : Traced} (before : BeforeWith start drawn traced) :
    RequestStage reading start py request traced :=
  requestStage_of_stage (stage_of_before before)

theorem catConfig_answer (env : Env) (file : Nat) (choice : Choice)
    {traced : Traced} (present : traced.host.destination = .repository key) :
    (performTraced reading traced choice (.catConfig env file)).2 ≠
      .ok noRepository := by
  have codes : traced.host.catCode reading file ≠ noRepository := by
    unfold Host.catCode
    rw [present]
    dsimp only
    split <;> decide
  unfold performTraced perform
  cases choice.fails with
  | true => simp
  | false =>
      by_cases own : choice.code ∈ [0, noRepository, wrongPassword]
      · simpa [act, own] using codes
      · have other : choice.code ≠ noRepository := by
          rintro same
          exact own (by simp [same])
        simpa [act, own] using other

include repository in
/-- `restic cat config` finds the repository that is there. -/
theorem catConfig_always (env : Env) (password : Json) {drawn : String}
    {traced : Traced} (before : BeforeWith start drawn traced) :
    (catConfig env password).Always (performTraced reading)
      (BeforeWith start drawn)
      (fun outcome _ => outcome ≠ .ok noRepository) traced := by
  unfold catConfig
  refine Prog.Always.bind (harmless_always BeforeWith.keeps
    ((only_writeSecretFile password).mono harmless_of_private) before) ?_ (by simp)
  intro file after afterBefore _
  unfold Prog.tryFinally
  rw [Prog.always_andThen]
  have removed {outcome : Except PyError Nat} (found : outcome ≠ .ok noRepository)
      {last : Traced} (lastBefore : BeforeWith start drawn last) :
      ((unlink file).andThen (Prog.onOk fun _ => Prog.done outcome)).Always
        (performTraced reading) (BeforeWith start drawn)
        (fun outcome _ => outcome ≠ .ok noRepository) last := by
    rw [Prog.always_andThen]
    refine (harmless_always BeforeWith.keeps ((only_unlink file).mono harmless_of_private) lastBefore).mono ?_
    intro cleaned final finalBefore _
    cases cleaned with
    | ok _ => exact ⟨finalBefore, found⟩
    | error failure => exact ⟨finalBefore, by simp⟩
  unfold Env.run
  split
  · refine ⟨afterBefore, fun choice => ?_⟩
    have stays : BeforeWith start drawn
        (performTraced reading after choice (.catConfig env file)).1 :=
      BeforeWith.keeps _ (by trivial) _ _ afterBefore
    refine ⟨stays, removed ?_ stays⟩
    have present : after.host.destination = .repository key :=
      afterBefore.2.destination.trans repository
    exact catConfig_answer env file choice present
  · exact ⟨afterBefore, removed (by simp) afterBefore⟩

/-- Drawing a password. -/
theorem urandom_bind_always {holds : Traced → Prop}
    (staged : ∀ drawn traced, BeforeWith start drawn traced → holds traced)
    {next : String → HostProg Reply} {drawn : String} {traced : Traced}
    (before : BeforeWith start drawn traced)
    (onValue : ∀ text after, BeforeWith start text after →
      (next text).Always (performTraced reading) holds (fun _ _ => True) after) :
    (ask .urandom >>= next).Always (performTraced reading) holds
      (fun _ _ => True) traced := by
  obtain ⟨sameDrawn, rekeyed, replaced, destination, store, passFile⟩ := before
  refine Prog.Always.call_bind
    (staged drawn traced ⟨sameDrawn, rekeyed, replaced, destination, store, passFile⟩)
    ?_ ?_
  · intro choice text answer
    refine onValue text _ ⟨?_, ?_, ?_, ?_, ?_, ?_⟩
    · simp only [performTraced] at answer ⊢
      simp [drawnBy, answer]
    all_goals
      unfold performTraced perform
      cases choice.fails <;>
        simp [act, isRekey, isReplace, rekeyed, replaced, destination, store,
          passFile]
  · intro choice failure answer
    refine ⟨staged drawn _ ⟨?_, ?_, ?_, ?_, ?_, ?_⟩, trivial⟩
    · simp only [performTraced] at answer ⊢
      simp [drawnBy, answer, sameDrawn]
    all_goals
      unfold performTraced perform
      cases choice.fails <;>
        simp [act, isRekey, isReplace, rekeyed, replaced, destination, store,
          passFile]

include repository in
theorem mintPassword_always {py : Builtins} {request : Json} {store : Store}
    (configured : (resticEnv store).repository.truthy = true) (replace : Bool)
    {drawn : String} {traced : Traced} (before : BeforeWith start drawn traced) :
    (mintPassword store replace).Always (performTraced reading)
      (RequestStage reading start py request) (fun _ _ => True) traced := by
  unfold mintPassword
  refine urandom_bind_always (fun _ _ => requestStage_of_before) before ?_
  intro password after afterBefore
  dsimp only
  simp only [configured, if_true]
  refine Prog.Always.bind (((catConfig_always repository _ _ afterBefore).mono
    fun _ _ here found => And.intro here found).weaken
      fun _ => requestStage_of_before) ?_ (by simp)
  rintro code last staged ⟨_, found⟩
  have notAbsent : code ≠ noRepository := by
    rintro rfl
    exact found rfl
  split
  · exact ⟨staged, trivial⟩
  · exact ⟨staged, trivial⟩

include repository in
theorem cmdInit_always {py : Builtins} {request : Json} (store : Store)
    {drawn : String} {traced : Traced} (before : BeforeWith start drawn traced) :
    (cmdInit store).Always (performTraced reading)
      (RequestStage reading start py request) (fun _ _ => True) traced := by
  unfold cmdInit
  dsimp only
  split
  · exact ⟨requestStage_of_before before, trivial⟩
  · split
    · exact ⟨requestStage_of_before before, trivial⟩
    · refine Prog.Always.bind (((catConfig_always repository _ _ before).mono
        fun _ _ here found => And.intro here found).weaken
          fun _ => requestStage_of_before) ?_ (by simp)
      rintro code last staged ⟨_, found⟩
      have notAbsent : code ≠ noRepository := by
        rintro rfl
        exact found rfl
      split
      · exact ⟨staged, trivial⟩
      · split
        · exact ⟨staged, trivial⟩
        · exact ⟨staged, trivial⟩

theorem truthy_of_location {repository : Json}
    {here : List Char × List Char × List Char}
    (located : locationOf repository = .ok (some here)) :
    repository.truthy = true := by
  cases repository with
  | str text =>
      have nonempty : text ≠ "" := by
        rintro rfl
        simp [locationOf, location, PyText.afterStart] at located
      simpa [Json.truthy] using nonempty
  | _ => simp [locationOf] at located

section Loaded

variable {document : Json} {store : Store} {password : String}
  (found : start.store = some (some document))
  (loaded : Store.load (some document) = .ok store)

include found loaded in
theorem cmdRotate_always {py : Builtins} {fields : PyDict String Json}
    (rotates : PyDict.get fields "op" = some (.str "rotate")) {drawn : String}
    {traced : Traced} (before : BeforeWith start drawn traced) :
    (cmdRotate py store fields).Always (performTraced reading)
      (RequestStage reading start py (.obj fields)) (fun _ _ => True) traced := by
  have sameNew (drawn : String) : newPassword py (.obj fields) drawn =
      Json.textOr py (PyDict.get fields "new_password") := by
    simp [newPassword, rotates]
  unfold cmdRotate
  refine Prog.Always.bind ((harmless_always BeforeWith.keeps
    (only_held.mono harmless_of_private) before).weaken fun _ => requestStage_of_before) ?_ (by simp)
  intro hold after staged afterBefore
  cases hold with
  | some record => exact ⟨staged, trivial⟩
  | none =>
      dsimp only
      split
      · exact ⟨staged, trivial⟩
      · rw [← sameNew drawn]
        exact (setPassword_always found loaded afterBefore).weaken
          fun _ => requestStage_of_stage

include repository found loaded in
theorem cmdGenerate_always {py : Builtins} {fields : PyDict String Json}
    (stored : storedPassword store = some (.str password))
    (nonempty : password ≠ "")
    (notRotate : PyDict.get fields "op" ≠ some (.str "rotate")) (replace : Bool)
    {drawn : String} {traced : Traced} (before : BeforeWith start drawn traced) :
    (cmdGenerate py store replace).Always (performTraced reading)
      (RequestStage reading start py (.obj fields)) (fun _ _ => True) traced := by
  have sameNew (drawn : String) : newPassword py (.obj fields) drawn = drawn := by
    unfold newPassword
    dsimp only
    split
    · rename_i rotates
      exact absurd rotates notRotate
    · rfl
  have truthy : ((storedPassword store).getD .null).truthy = true := by
    simpa [stored, Json.truthy] using nonempty
  unfold cmdGenerate
  rw [if_pos truthy]
  split
  · exact ⟨requestStage_of_before before, trivial⟩
  · refine Prog.Always.bind ((harmless_always BeforeWith.keeps
      (only_held.mono harmless_of_private) before).weaken fun _ => requestStage_of_before) ?_ (by simp)
    intro hold after staged afterBefore
    cases hold with
    | none => exact ⟨staged, trivial⟩
    | some record =>
        dsimp only
        cases located : locationOf (resticEnv store).repository with
        | error failure => exact ⟨staged, trivial⟩
        | ok location =>
            cases location with
            | none => exact ⟨staged, trivial⟩
            | some here =>
                have configured := truthy_of_location located
                change Prog.Always _ _ _ (if _ then _ else _) _
                split
                · exact mintPassword_always repository configured replace
                    afterBefore
                · split
                  · exact ⟨staged, trivial⟩
                  · refine urandom_bind_always
                      (fun _ _ => requestStage_of_before) afterBefore ?_
                    intro text last lastBefore
                    have rekeyed : (setPassword store text).Always
                        (performTraced reading)
                        (RequestStage reading start py (.obj fields))
                        (fun _ _ => True) last := by
                      rw [← sameNew text]
                      exact (setPassword_always found loaded
                        lastBefore).weaken fun _ => requestStage_of_stage
                    refine Prog.Always.bind rekeyed ?_ (by simp)
                    intro reply final finalStage _
                    cases reply <;> exact ⟨finalStage, trivial⟩

end Loaded

/-- The request asks for a re-key with a password of its own. -/
def IsRotate (request : Json) : Prop :=
  ∃ fields, request = .obj fields ∧
    PyDict.get fields "op" = some (.str "rotate")

theorem stored_file {password : String}
    (stored : start.storePassword = some (.str password)) :
    ∃ document store, start.store = some (some document) ∧
      Store.load (some document) = .ok store ∧
      storedPassword store = some (.str password) := by
  unfold Host.storePassword at stored
  split at stored
  · rename_i document found
    split at stored
    · rename_i store loaded
      exact ⟨document, store, found, loaded, stored⟩
    · simp at stored
  · simp at stored

theorem readStore_always {document : Json} {store : Store}
    (found : start.store = some (some document))
    (loaded : Store.load (some document) = .ok store) {drawn : String}
    {traced : Traced} (before : BeforeWith start drawn traced) :
    (ask .readStore >>= fun file => Prog.lift (loadStore file)).Always
      (performTraced reading) (BeforeWith start drawn)
      (fun outcome after => BeforeWith start drawn after ∧
        ∀ read, outcome = .ok read → read = store) traced := by
  refine Prog.Always.call_bind before ?_ ?_
  · intro choice file answer
    have stays : BeforeWith start drawn
        (performTraced reading traced choice .readStore).1 :=
      BeforeWith.keeps _ (by trivial) _ _ before
    refine ⟨stays, stays, ?_⟩
    intro read same
    have sameFile : file = some document := by
      unfold performTraced perform at answer
      cases fails : choice.fails with
      | true => simp [fails] at answer
      | false =>
          simpa [fails, act, before.2.store, found, eq_comm] using answer
    subst sameFile
    have reread := load_of_loadStore same
    rw [loaded, Except.ok.injEq] at reread
    exact reread.symm
  · intro choice failure _
    have stays : BeforeWith start drawn
        (performTraced reading traced choice .readStore).1 :=
      BeforeWith.keeps _ (by trivial) _ _ before
    exact ⟨stays, stays, by simp⟩

include repository in
theorem main_always {py : Builtins} {request : Json} {password : String}
    (stored : start.storePassword = some (.str password))
    (rekeys : IsRotate request ∨ password ≠ "") {traced : Traced}
    (before : BeforeWith start traced.drawn traced) :
    (main py request).Always (performTraced reading)
      (RequestStage reading start py request) (fun _ _ => True) traced := by
  obtain ⟨document, store, found, loaded, storedIn⟩ := stored_file stored
  unfold main
  cases request with
  | obj fields =>
      refine Prog.Always.bind ((readStore_always found loaded before).weaken
        fun _ => requestStage_of_before) ?_ (by simp)
      rintro read after staged ⟨afterBefore, same⟩
      have sameStore := same read rfl
      subst sameStore
      split
      · rename_i generates
        have notRotate : PyDict.get fields "op" ≠ some (.str "rotate") := by
          simp [generates]
        have nonempty : password ≠ "" := by
          refine rekeys.resolve_left ?_
          rintro ⟨others, sameFields, rotates⟩
          simp only [Json.obj.injEq] at sameFields
          exact notRotate (sameFields ▸ rotates)
        exact cmdGenerate_always repository found loaded storedIn nonempty
          notRotate _ afterBefore
      · exact (((only_cmdValidate py read fields).mono
          harmless_of_private).always BeforeWith.keeps
          afterBefore).weaken fun _ => requestStage_of_before
      · rename_i rotates
        exact cmdRotate_always found loaded rotates afterBefore
      · exact cmdInit_always repository read afterBefore
      · exact ⟨staged, trivial⟩
  | _ => exact ⟨requestStage_of_before before, trivial⟩

/-- A re-key that is stopped, cut off or ended by an operation that fails,
leaves a password on the host that opens the repository exactly when it is not
stopped between the re-key and the replacement of the store, or the new
password opens what a password on the host already did. -/
theorem stopped_rekey_kept_iff (reading : String → String) (py : Builtins)
    {start : Host} {password : String}
    (stored : start.storePassword = some (.str password))
    (opens : start.destination = .repository (reading (password ++ "\n")))
    (request : Json) (rekeys : IsRotate request ∨ password ≠ "")
    (choices : List Choice) :
    let stop := ((main py request).run (performTraced reading) choices
      ⟨start, "", false, false⟩).1
    Kept reading stop.host ↔ (stop.rekeyed = true → stop.replaced = true ∨
      let newKey := reading (newPassword py request stop.drawn ++ "\n")
      start.storeKey reading = some newKey ∨ start.passKey reading = some newKey) := by
  intro stop
  have stage : RequestStage reading start py request stop :=
    (main_always opens stored rekeys
      ⟨rfl, rfl, rfl, rfl, rfl, rfl⟩).run choices
  have storeKey {host : Host} {text : String}
      (holds : host.storePassword = some (.str text)) :
      host.storeKey reading = some (reading (text ++ "\n")) := by
    simp [Host.storeKey, holds]
  rcases stage.2 with before | between | after
  · have kept : Kept reading stop.host :=
      ⟨_, before.destination.trans opens, Or.inl
        (storeKey ((storePassword_congr before.store).trans stored))⟩
    simp [kept, before.rekeyed]
  · have sameStoreKey : stop.host.storeKey reading = start.storeKey reading := by
      simp only [Host.storeKey, storePassword_congr between.store]
    have samePassKey : stop.host.passKey reading = start.passKey reading := by
      simp only [Host.passKey, between.passFile]
    simp [Kept, between.destination, between.rekeyed, between.replaced,
      sameStoreKey, samePassKey]
  · have kept : Kept reading stop.host :=
      ⟨_, after.destination, Or.inl (storeKey after.password)⟩
    simp [kept, after.replaced]

end Requests

/-- A server with a repository and its password in both files. -/
def sampleHost : Host where
  store := some (some (.obj
    [("secrets", .obj [("backup_restic_password", .str "old")]),
      ("config", .obj [("BACKUP_RESTIC_REPO", .str "s3:https://s3.example/b")])]))
  storeTmp := none
  passFile := some "old\n"
  heldFile := none
  temps := []
  nextTemp := 0
  destination := .repository "old"

def sampleRotate : Json :=
  .obj [("op", .str "rotate"), ("new_password", .str "new")]

/-- The state of a rotation in which the given number of operations have gone
through. -/
def rotatedFor (operations : Nat) : Traced :=
  ((main Builtins.unused sampleRotate).run (performTraced PyText.strip)
    (List.replicate operations .ok) ⟨sampleHost, "", false, false⟩).1

/-- Stopped once the temporary files are gone, the repository opens with the
new password alone, and neither file, nor a temporary one, holds it. -/
theorem stopped_rekey_loses_password :
    Kept PyText.strip sampleHost ∧ ¬ Kept PyText.strip (rotatedFor 13).host ∧
      (rotatedFor 13).host.destination = .repository "new" ∧
      (rotatedFor 13).host.storeKey PyText.strip = some "old" ∧
      (rotatedFor 13).host.passFile = some "old\n" ∧
      (rotatedFor 13).host.temps = [] ∧
      (rotatedFor 13).host.storeTmp.isNone = true := by
  have rekeyed : (rotatedFor 13).host.destination = .repository "new" := by
    decide +kernel
  have storeKey : (rotatedFor 13).host.storeKey PyText.strip = some "old" := by
    decide +kernel
  have passFile : (rotatedFor 13).host.passFile = some "old\n" := by
    decide +kernel
  refine ⟨⟨"old", rfl, Or.inl (by decide +kernel)⟩, ?_, rekeyed, storeKey,
    passFile, by decide +kernel, by decide +kernel⟩
  rintro ⟨key, found, inStore | inPass⟩
  · rw [rekeyed, Destination.repository.injEq] at found
    rw [storeKey, ← found] at inStore
    exact absurd inStore (by decide)
  · rw [rekeyed, Destination.repository.injEq] at found
    rw [Host.passKey, passFile, ← found] at inPass
    exact absurd inPass (by decide +kernel)

theorem complete_rekey_kept :
    (rotatedFor 22).replaced = true ∧ Kept PyText.strip (rotatedFor 22).host := by
  have replaced : (rotatedFor 22).replaced = true := by
    decide +kernel
  exact ⟨replaced, (stopped_rekey_kept_iff PyText.strip Builtins.unused rfl
    (by decide +kernel) sampleRotate (Or.inl ⟨_, rfl, rfl⟩)
    (List.replicate 22 .ok)).mpr fun _ => Or.inl replaced⟩

end Catena.ResticKey

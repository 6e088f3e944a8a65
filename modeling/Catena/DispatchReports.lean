import Catena.DispatchListed
import Mathlib.Data.List.Dedup

/-!
# The switch accounts for what it touches

Each part of the switch lists what it touches, in every run whose steps are
listable, and so does the whole of it.
-/

namespace Catena.Dispatch

open PyText

variable {directories : Bool} {cfg : Config} {gen : Text}

theorem covered_inside {wrote : List Text} {name : Text}
    (listed : generationPath name ∈ wrote) (file : Text) :
    Covered wrote (generationPath name ++ '/' :: file) :=
  ⟨_, listed, Or.inr ⟨List.append_ne_nil_of_right_ne_nil _ (List.cons_ne_nil _ _), file,
    by simp⟩⟩

/-- A name that was removed from the generations directory, and listed. -/
theorem accounted_drop (host : Host) (name : Text) :
    Accounted directories cfg host
      { host.dropEntry name with wrote := host.wrote ++ [generationPath name] } := by
  have listed : generationPath name ∈ host.wrote ++ [generationPath name] :=
    List.mem_append_right _ (List.mem_singleton_self _)
  have others (other : Text) (ne : name ≠ other) :
      ({ host.dropEntry name with wrote := host.wrote ++ [generationPath name] } :
        Host).entry other = host.entry other :=
    (entry_dropEntry host name other).trans (if_neg ne)
  apply accounted_of_entries (List.subset_append_left _ _) rfl
  · intro other
    by_cases same : name = other
    · subst same
      exact Or.inr (covered_self listed)
    · exact Or.inl (by rw [others other same])
  · intro other file
    by_cases same : name = other
    · subst same
      exact Or.inr (covered_inside listed file)
    · exact Or.inl (by rw [others other same])

theorem act_removeTree {host : Host} {name : Text} {plain : Bool} {files : PyDict Text Node}
    (held : host.entry name = some (.directory plain files)) (ignoreErrors : Bool)
    (choice : Choice) :
    act host choice (.removeTree name ignoreErrors) = (host.dropEntry name, .ok ()) := by
  simp only [act, Host.removeTree, held]

theorem act_unlinkEntry {host : Host} {name : Text}
    (held : host.entry name = some .symlink ∨ host.entry name = some .file)
    (choice : Choice) :
    act host choice (.unlinkEntry name) = (host.dropEntry name, .ok ()) := by
  rcases held with held | held <;> simp only [act, held]

theorem lists_removeGeneration (name : Text) :
    Lists directories cfg gen (removeGeneration name) := by
  intro host
  have noted : Prog.Where act (Listable directories cfg gen)
      (fun _ after => Accounted directories cfg host after) (do
        let _ ← ask (.record [generationPath name])
        return true : PathProg Bool) (host.dropEntry name) := by
    apply where_act (fun _ => rfl)
    intro _ _
    exact accounted_drop host name
  apply where_act (fun _ => rfl)
  intro _ _
  cases held : host.entry name with
  | none =>
      simp only [Host.kind, held]
      exact Accounted.refl host
  | some entry =>
      cases entry with
      | directory plain files =>
          simp only [Host.kind, held]
          exact where_act (act_removeTree held false) fun _ _ => noted
      | symlink =>
          simp only [Host.kind, held]
          exact where_act (act_unlinkEntry (Or.inl held)) fun _ _ => noted
      | file =>
          simp only [Host.kind, held]
          exact where_act (act_unlinkEntry (Or.inr held)) fun _ _ => noted

/-- The directory a generation is put together in holds `built`, and nothing else
has changed. -/
structure Assembling (gen : Text) (built : Option Entry) (start now : Host) : Prop where
  only : now = { start with generations := now.generations }
  built : now.entry (buildName gen) = built
  others : ∀ name, name ≠ buildName gen → now.entry name = start.entry name

theorem Assembling.setEntry {built : Option Entry} {start now : Host}
    (assembling : Assembling gen built start now) (entry : Entry) :
    Assembling gen (some entry) start (now.setEntry (buildName gen) entry) where
  only := by
    rw [assembling.only]
    rfl
  built := by rw [entry_setEntry, if_pos rfl]
  others name ne := by
    rw [entry_setEntry, if_neg ne.symm, assembling.others name ne]

theorem Assembling.inDirectory {plain : Bool} {files : PyDict Text Node} {start now : Host}
    (assembling : Assembling gen (some (.directory plain files)) start now)
    (change : Bool → PyDict Text Node → Entry) :
    now.inDirectory (buildName gen) change =
      (now.setEntry (buildName gen) (change plain files), .ok ()) := by
  rw [Host.inDirectory, assembling.built]

/-- One more executable in the directory. -/
theorem fillFile_where {files : PyDict Text Node} {start now : Host}
    (assembling : Assembling gen (some (.directory true files)) start now)
    (file content : Text) {next : PathProg Unit} {ends : Except Failure Unit → Host → Prop}
    (rest : ∀ after, Assembling gen (some (.directory true
        (PyDict.set files file (.regular true content)))) start after →
      Prog.Where act (Listable directories cfg gen) ends next after) :
    Prog.Where act (Listable directories cfg gen) ends (do
      let _ ← ask (.writeIn (buildName gen) file content)
      let _ ← ask (.chmodIn (buildName gen) file)
      next) now := by
  have writes (choice : Choice) : act now choice (.writeIn (buildName gen) file content) =
      (now.setEntry (buildName gen)
        (.directory true (PyDict.set files file (.regular false content))), .ok ()) :=
    assembling.inDirectory _
  have written := assembling.setEntry
    (.directory true (PyDict.set files file (.regular false content)))
  have marks (choice : Choice) : act (now.setEntry (buildName gen)
      (.directory true (PyDict.set files file (.regular false content)))) choice
        (.chmodIn (buildName gen) file) =
      ((now.setEntry (buildName gen)
        (.directory true (PyDict.set files file (.regular false content)))).setEntry
          (buildName gen)
          (.directory true (PyDict.set files file (.regular true content))), .ok ()) := by
    refine (written.inDirectory _).trans ?_
    simp only [PyDict.get_set_same, PyDict.set_set]
  apply where_act writes
  intro _ _
  apply where_act marks
  intro _ _
  exact rest _ (written.setEntry _)

theorem fillDirectory_where (entry dispatcher : Text) {start now : Host}
    (assembling : Assembling gen (some (.directory true [])) start now) :
    Prog.Where act (Listable directories cfg gen) (fun outcome after => outcome = .ok () ∧
        Assembling gen (some (installed entry dispatcher)) start after)
      (fillDirectory (buildName gen) (generationFiles entry dispatcher)) now := by
  apply fillFile_where assembling
  intro first firstAssembling
  apply fillFile_where firstAssembling
  intro second secondAssembling
  exact ⟨rfl, secondAssembling⟩

/-- Its place is empty, and its directory holds what goes there. -/
structure Vacated (gen : Text) (built : Entry) (start now : Host) : Prop where
  only : now = { start with generations := now.generations }
  built : now.entry (buildName gen) = some built
  place : now.entry gen = none
  others : ∀ name, name ≠ buildName gen → name ≠ gen → now.entry name = start.entry name

theorem Assembling.vacated {built : Entry} {start now : Host}
    (assembling : Assembling gen (some built) start now) :
    Vacated gen built start (now.dropEntry gen) where
  only := by
    rw [assembling.only]
    rfl
  built := by rw [entry_dropEntry, if_neg (buildName_ne gen).symm, assembling.built]
  place := by rw [entry_dropEntry, if_pos rfl]
  others name notBuild notGen := by
    rw [entry_dropEntry, if_neg notGen.symm, assembling.others name notBuild]

theorem clearGeneration_where {built : Entry} {start now : Host}
    (assembling : Assembling gen (some built) start now)
    (replaceable : Replaceable directories gen start) :
    Prog.Where act (Listable directories cfg gen) (fun outcome after => outcome = .ok () ∧
        Vacated gen built start after) (clearGeneration gen) now := by
  have sameEntry := assembling.others gen (buildName_ne gen).symm
  unfold Replaceable at replaceable
  rw [← sameEntry] at replaceable
  apply where_act (fun _ => rfl)
  intro _ _
  cases held : now.entry gen with
  | none =>
      simp only [Host.kind, held, reduceCtorEq, if_false]
      intro _ choice
      simp only [act, Host.removeTree, held, if_true]
      refine ⟨rfl, assembling.only, assembling.built, held, ?_⟩
      intro name notBuild _
      exact assembling.others name notBuild
  | some entry =>
      rw [held] at replaceable
      cases entry with
      | directory plain files =>
          simp only [Host.kind, held, reduceCtorEq, if_false]
          intro _ choice
          rw [act_removeTree held]
          exact ⟨rfl, assembling.vacated⟩
      | symlink => exact replaceable.elim
      | file => exact replaceable.elim

theorem Vacated.rename {built : Entry} {start now : Host} (vacated : Vacated gen built start now) :
    now.rename (buildName gen) gen =
      ((now.dropEntry (buildName gen)).setEntry gen built, .ok ()) := by
  rw [Host.rename, vacated.built, vacated.place]

/-- The paths of a generation's two executables. -/
def executables (gen entry dispatcher : Text) : List Text :=
  (generationFiles entry dispatcher).map fun file => generationPath gen ++ '/' :: file.1

/-- A generation moved to its place, with its executables listed. -/
theorem Vacated.accounted {entry dispatcher : Text} {start now : Host}
    (vacated : Vacated gen (installed entry dispatcher) start now)
    (replaceable : Replaceable directories gen start)
    (spot : start.entry (buildName gen) = none ∨ directories = false ∧
      ∃ plain, start.entry (buildName gen) = some (.directory plain [])) :
    Accounted directories cfg start { (now.dropEntry (buildName gen)).setEntry gen
        (installed entry dispatcher) with
      wrote := start.wrote ++ executables gen entry dispatcher } := by
  let after : Host := { (now.dropEntry (buildName gen)).setEntry gen
      (installed entry dispatcher) with
    wrote := start.wrote ++ executables gen entry dispatcher }
  have placed : after.entry gen = some (installed entry dispatcher) :=
    (entry_setEntry _ gen gen _).trans (if_pos rfl)
  have unbuilt : after.entry (buildName gen) = none :=
    ((entry_setEntry _ gen _ _).trans (if_neg (buildName_ne gen).symm)).trans
      ((entry_dropEntry now _ _).trans (if_pos rfl))
  have others (name : Text) (notBuild : name ≠ buildName gen) (notGen : name ≠ gen) :
      after.entry name = start.entry name :=
    ((entry_setEntry _ gen name _).trans (if_neg notGen.symm)).trans
      (((entry_dropEntry now _ name).trans (if_neg notBuild.symm)).trans
        (vacated.others name notBuild notGen))
  have only : after = { start with generations := after.generations, wrote := after.wrote } := by
    change ({ (now.dropEntry (buildName gen)).setEntry gen (installed entry dispatcher) with
      wrote := start.wrote ++ executables gen entry dispatcher } : Host) = _
    rw [vacated.only]
    rfl
  refine accounted_of_entries (List.subset_append_left _ _) only ?_ ?_
  · intro name
    left
    by_cases isBuild : name = buildName gen
    · subst isBuild
      rw [unbuilt]
      rcases spot with free | ⟨uncounted, plain, empty⟩
      · rw [free]
      · rw [empty, uncounted]
        rfl
    · by_cases isGen : name = gen
      · subst isGen
        rw [placed]
        unfold Replaceable at replaceable
        cases held : start.entry name with
        | none =>
            rw [held] at replaceable
            rw [replaceable]
            rfl
        | some present =>
            rw [held] at replaceable
            cases present with
            | directory plain files => rfl
            | symlink => exact replaceable.elim
            | file => exact replaceable.elim
      · rw [others name isBuild isGen]
  · intro name file
    by_cases isBuild : name = buildName gen
    · subst isBuild
      left
      rw [unbuilt]
      rcases spot with free | ⟨_, plain, empty⟩
      · rw [free]
      · rw [empty]
        rfl
    · by_cases isGen : name = gen
      · subst isGen
        rw [placed]
        by_cases isExecutable : file = "entry".toList ∨ file = "dispatcher".toList
        · right
          apply covered_self
          apply List.mem_append_right
          rcases isExecutable with rfl | rfl
          · exact List.mem_cons_self ..
          · exact List.mem_cons_of_mem _ (List.mem_cons_self ..)
        · left
          have absent : PyDict.get [("entry".toList, Node.regular true entry),
              ("dispatcher".toList, Node.regular true dispatcher)] file = none := by
            rw [not_or] at isExecutable
            rw [PyDict.get_cons, if_neg fun same => isExecutable.1 same.symm,
              PyDict.get_cons, if_neg fun same => isExecutable.2 same.symm]
            rfl
          unfold Replaceable at replaceable
          cases held : start.entry name with
          | none =>
              simp only [installed, Option.bind_some, Option.bind_none, Entry.inside, absent,
                Option.map_none]
          | some present =>
              rw [held] at replaceable
              cases present with
              | directory plain files =>
                  have unheld : PyDict.get files file = none := by
                    rw [PyDict.get_eq_none_iff]
                    intro found
                    obtain ⟨item, member, rfl⟩ := List.mem_map.mp found
                    exact isExecutable (replaceable item member)
                  simp only [installed, Option.bind_some, Entry.inside, absent, unheld]
              | symlink => exact replaceable.elim
              | file => exact replaceable.elim
      · left
        rw [others name isBuild isGen]

/-- The directory is made, filled and moved to its place. -/
theorem assemble_where {start now : Host} (entry dispatcher : Text)
    (assembling : Assembling gen none start now)
    (replaceable : Replaceable directories gen start)
    (spot : start.entry (buildName gen) = none ∨ directories = false ∧
      ∃ plain, start.entry (buildName gen) = some (.directory plain [])) :
    Prog.Where act (Listable directories cfg gen)
      (fun _ after => Accounted directories cfg start after) (do
        let _ ← ask (.makeDir (buildName gen))
        let _ ← ask (.chmodDir (buildName gen))
        fillDirectory (buildName gen) (generationFiles entry dispatcher)
        clearGeneration gen
        let _ ← ask (.renameDir (buildName gen) gen)
        ask (.record (executables gen entry dispatcher))) now := by
  have makes (choice : Choice) : act now choice (.makeDir (buildName gen)) =
      (now.setEntry (buildName gen) (.directory false []), .ok ()) := by
    simp only [act, assembling.built]
  have made := assembling.setEntry (.directory false [])
  have marks (choice : Choice) : act (now.setEntry (buildName gen) (.directory false [])) choice
        (.chmodDir (buildName gen)) =
      ((now.setEntry (buildName gen) (.directory false [])).setEntry (buildName gen)
        (.directory true []), .ok ()) :=
    made.inDirectory _
  apply where_act makes
  intro _ _
  apply where_act marks
  intro _ _
  apply (fillDirectory_where entry dispatcher (made.setEntry (.directory true []))).bind
  · rintro _ filled ⟨_, isFilled⟩
    apply (clearGeneration_where isFilled replaceable).bind
    · rintro _ free ⟨_, vacated⟩
      have moves (choice : Choice) : act free choice (.renameDir (buildName gen) gen) =
          ((free.dropEntry (buildName gen)).setEntry gen (installed entry dispatcher),
            .ok ()) :=
        vacated.rename
      apply where_act moves
      intro _ _ _ _
      have wrote : free.wrote = start.wrote := by rw [vacated.only]
      have accounted : Accounted directories cfg start _ := vacated.accounted replaceable spot
      rw [← wrote] at accounted
      exact accounted
    · rintro _ _ ⟨failed, _⟩
      cases failed
  · rintro _ _ ⟨failed, _⟩
    cases failed

theorem lists_buildGeneration (entry dispatcher : Text) :
    Lists directories cfg gen
      (buildGeneration gen (generationFiles entry dispatcher)) := by
  intro host
  unfold buildGeneration
  apply where_act (fun _ => rfl)
  intro buildable _
  have buildable : Buildable directories gen host := buildable
  unfold Buildable at buildable
  cases held : host.entry (buildName gen) with
  | none =>
      rw [held] at buildable
      have removes (choice : Choice) :
          act host choice (.removeTree (buildName gen) true) = (host, .ok ()) := by
        simp only [act, Host.removeTree, held, if_true]
      apply where_act removes
      intro _ _
      exact assemble_where entry dispatcher ⟨rfl, held, fun _ _ => rfl⟩ buildable
        (Or.inl held)
  | some present =>
      rw [held] at buildable
      cases present with
      | directory plain files =>
          obtain ⟨uncounted, rfl, replaceable⟩ := buildable
          apply where_act (act_removeTree held true)
          intro _ _
          refine assemble_where entry dispatcher ⟨rfl, ?_, ?_⟩ replaceable
            (Or.inr ⟨uncounted, plain, held⟩)
          · rw [entry_dropEntry, if_pos rfl]
          · intro name ne
            rw [entry_dropEntry, if_neg ne.symm]
      | symlink =>
          intro _ _
          simp only [act, Host.removeTree, held, if_true, Prog.andThen, Prog.onOk]
          intro _ _
          simp only [act, held]
          exact Accounted.refl host
      | file =>
          intro _ _
          simp only [act, Host.removeTree, held, if_true, Prog.andThen, Prog.onOk]
          intro _ _
          simp only [act, held]
          exact Accounted.refl host

theorem lists_installGeneration (entry dispatcher : Text) :
    Lists directories cfg gen (installGeneration gen entry dispatcher) := by
  apply (lists_ask fun _ _ => ⟨rfl, rfl, rfl⟩).bind
  intro intact
  split
  · exact lists_pure _
  · exact (lists_buildGeneration entry dispatcher).bind fun _ => lists_pure _

theorem lists_onFailure {α : Type} {program : PathProg α} {cleanup : PathProg Unit}
    (first : Lists directories cfg gen program) (undone : Lists directories cfg gen cleanup) :
    Lists directories cfg gen (onFailure program cleanup) := by
  apply first.tryExcept
  intro failure
  exact undone.bind fun _ => Prog.relates_done _

theorem lists_dispatch (argv : List Text) (more : Nat) :
    Lists directories cfg gen (dispatch argv more) := by
  induction more with
  | zero => exact lists_ask (idle_run argv)
  | succ more ih =>
      apply (lists_ask (idle_run argv)).bind
      intro ran
      split
      · exact ih
      · exact lists_pure _

section Parts

variable (py : Builtins) (path : Rendered)

theorem lists_prove (proven : Config) (key name : Text) :
    Lists directories cfg gen (prove py proven key name) := by
  apply (lists_ask fun _ _ => ⟨rfl, rfl, rfl⟩).bind
  intro nonce
  apply (lists_dispatch _ _).bind
  intro ran
  split
  · exact lists_pure _
  · exact (lists_dispatch _ _).bind fun _ => lists_pure _

theorem lists_proveBeside (keysBefore : Option Text) :
    Lists directories cfg gen (proveBeside py cfg gen keysBefore) := by
  apply (lists_ask fun _ _ => ⟨rfl, rfl, rfl⟩).bind
  intro dir
  apply Prog.Relates.tryFinally
  · apply (lists_ask (idle_run _)).bind
    intro ran
    split
    · exact lists_pure _
    · apply (lists_ask fun _ _ => ⟨rfl, rfl, rfl⟩).bind
      intro pub
      apply (lists_ask fun _ _ => ⟨rfl, rfl, rfl⟩).bind
      intro expires
      apply (lists_writeKeys _).bind
      intro _
      exact (lists_prove py _ _ _).tryFinally (lists_putBackKeys _)
  · exact lists_ask fun _ _ => ⟨rfl, rfl, rfl⟩

theorem lists_undo (reloaded : Bool) : Lists directories cfg gen (undo gen reloaded) := by
  apply (lists_removeGeneration gen).bind
  intro _
  apply (lists_remove .sudoersNext).bind
  intro _
  apply (lists_remove .acceptenvNext).bind
  intro removed
  split
  · exact lists_sshdReload
  · exact lists_pure _

theorem lists_beside : Lists directories path.cfg path.gen (beside path) := by
  apply (lists_installGeneration _ _).bind
  intro _
  apply (lists_write _ _ _ _).bind
  intro _
  exact (lists_placeSshd _ _).bind fun _ => lists_pure _

theorem lists_proof (keysBefore : Option Text) :
    Lists directories path.cfg path.gen (proof py path keysBefore) := by
  apply lists_sshdReload.bind
  intro _
  apply (lists_proveBeside py keysBefore).bind
  intro reasons
  split
  · exact lists_refuse _
  · exact lists_pure _

theorem lists_switched : Lists directories path.cfg path.gen (switched py path) := by
  apply (lists_prove py _ _ _).bind
  intro reasons
  split
  · exact lists_refuse _
  · exact lists_pure _

theorem lists_move (keysBefore : Option Text) :
    Lists directories path.cfg path.gen (move py path keysBefore) := by
  apply (lists_onFailure (lists_beside path) (lists_undo false)).bind
  intro _
  apply (lists_onFailure (lists_proof py path keysBefore) (lists_undo true)).bind
  intro _
  apply (lists_onFailure (lists_writeKeys _) (lists_undo true)).bind
  intro _
  apply lists_onFailure (lists_switched py path)
  exact (lists_putBackKeys keysBefore).bind fun _ => lists_undo true

theorem lists_restoreNext : Lists directories path.cfg path.gen (restoreNext path) := by
  apply (lists_write _ _ _ _).bind
  intro _
  apply (lists_placeSshd _ _).bind
  intro placed
  split
  · exact lists_sshdReload
  · exact lists_pure _

theorem lists_proveRetired : Lists directories path.cfg path.gen (proveRetired py path) := by
  apply (lists_prove py _ _ _).bind
  intro reasons
  split
  · exact (lists_restoreNext path).bind fun _ => lists_refuse _
  · exact lists_pure _

theorem lists_settleRules (touched placed : Bool) :
    Lists directories path.cfg path.gen (settleRules py path touched placed) := by
  have proved (again : Bool) : Lists directories path.cfg path.gen
      (if again then proveRetired py path else pure ()) := by
    split
    · exact lists_proveRetired py path
    · exact lists_pure _
  apply (lists_remove .sudoersNext).bind
  intro unruled
  apply (lists_remove .acceptenvNext).bind
  intro unaccepted
  extract_lets rest
  split
  · exact lists_sshdReload.bind fun _ => proved _
  · exact proved _

theorem lists_removeOthers (names : List Text) :
    Lists directories cfg gen (removeOthers gen names) := by
  induction names with
  | nil => exact lists_pure _
  | cons other rest ih =>
      rw [removeOthers]
      split
      · exact (lists_removeGeneration other).bind fun _ => ih
      · exact ih

theorem lists_removeStale (dirs : List Nat) :
    Lists directories cfg gen (removeStale dirs) := by
  induction dirs with
  | nil => exact lists_pure _
  | cons dir rest ih => exact (lists_ask fun _ _ => ⟨rfl, rfl, rfl⟩).bind fun _ => ih

theorem lists_tidy : Lists directories path.cfg path.gen (tidy path) := by
  apply (lists_link _).bind
  intro _
  apply (lists_ask fun _ _ => ⟨rfl, rfl, rfl⟩).bind
  intro names
  apply (lists_removeOthers names).bind
  intro _
  apply (lists_ask fun _ _ => ⟨rfl, rfl, rfl⟩).bind
  intro dirs
  exact lists_removeStale dirs

theorem lists_retire : Lists directories path.cfg path.gen (retire py path) := by
  apply (lists_installGeneration _ _).bind
  intro installed
  apply (lists_writeKeys _).bind
  intro rekeyed
  apply (lists_write _ _ _ _).bind
  intro ruled
  apply (lists_placeSshd _ _).bind
  intro placed
  apply (lists_settleRules py path _ _).bind
  intro _
  exact lists_tidy path

theorem lists_moveTo (keysBefore : Option Text) (running : Running) :
    Lists directories path.cfg path.gen (moveTo py path keysBefore running) := by
  unfold moveTo
  split
  · exact lists_move py path keysBefore
  · exact lists_pure _

end Parts

/-- A run related to its start, whose verdict lists what was recorded. -/
def Reports (related : Host → Host → Prop) (start : Host)
    (outcome : Except Failure Verdict) (after : Host) : Prop :=
  related start after ∧ ∀ verdict, outcome = .ok verdict →
    ∀ path, path ∈ verdict.wrote ↔ path ∈ after.wrote

section Report

variable {meets : Host → Op → Prop} {related : Host → Host → Prop} {start host : Host}

theorem reports_error {failure : Failure} {after : Host} (here : related start after) :
    Reports related start (.error failure) after :=
  ⟨here, fun _ answered => by cases answered⟩

theorem verdict_reports (here : related start host) (name : Text) (ok : Bool)
    (summary : String) :
    Prog.Where act meets (Reports related start) (verdict name ok summary) host := by
  intro _ _
  refine ⟨here, ?_⟩
  rintro verdict answered path
  cases answered
  simp [act]

theorem onRefused_where {α : Type} {program : PathProg α} {handler : String → PathProg α}
    {ends : Except Failure α → Host → Prop}
    (first : Prog.Where act meets (fun outcome after => related start after ∧
      ∀ value, outcome = .ok value → ends (.ok value) after) program host)
    (handled : ∀ message after, related start after →
      Prog.Where act meets ends (handler message) after)
    (fails : ∀ failure after, related start after → ends (.error failure) after) :
    Prog.Where act meets ends (onRefused program handler) host := by
  unfold onRefused Prog.tryExcept
  rw [Prog.where_andThen]
  apply first.mono
  rintro outcome after ⟨here, ended⟩
  cases outcome with
  | ok value => exact ended value rfl
  | error failure =>
      cases failure with
      | refused message => exact handled message after here
      | osError reason => exact fails _ after here
      | other => exact fails _ after here

variable [IsPreorder Host related] {py : Builtins} {path : Rendered}

/-- A move that was refused has a verdict, which lists what was recorded. -/
theorem moved_where (keysBefore : Option Text) (running : Running)
    (moves : Prog.Relates act meets related (moveTo py path keysBefore running))
    (here : related start host) :
    Prog.Where act meets (fun outcome after => related start after ∧
      ∀ answer, outcome = .ok (some answer) → Reports related start (.ok answer) after)
      (onRefused (do
        moveTo py path keysBefore running
        return none) fun message => do
          return some (← refusal running path.gen message)) host := by
  apply onRefused_where
  · have unanswered : Prog.Where act meets (fun outcome after => related start after ∧
          ∀ answer, outcome ≠ .ok (some answer)) (do
            moveTo py path keysBefore running
            return none : PathProg (Option Verdict)) host := by
      apply (moves.onward here).bind
      · intro _ after moved
        exact ⟨moved, fun _ answered => by cases answered⟩
      · intro failure after moved
        exact ⟨moved, fun _ answered => by cases answered⟩
    apply unanswered.mono
    rintro outcome after ⟨moved, none⟩
    refine ⟨moved, ?_⟩
    rintro value rfl
    exact ⟨moved, fun answer answered => absurd answered (none answer)⟩
  · intro message after moved
    apply (verdict_reports moved _ _ _).bind
    · intro answer refused reported
      refine ⟨reported.1, ?_⟩
      intro given answered
      cases answered
      exact reported
    · intro failure refused reported
      exact ⟨reported.1, fun _ answered => by cases answered⟩
  · intro failure after moved
    exact ⟨moved, fun _ answered => by cases answered⟩

theorem retired_where (running : Running)
    (retires : Prog.Relates act meets related (retire py path)) (here : related start host) :
    Prog.Where act meets (Reports related start)
      (onRefused (do
        retire py path
        let wrote ← ask .recorded
        verdict path.gen true (okSummary running path.gen wrote)) fun message =>
          refusal (.generation path.gen) path.gen message) host := by
  apply onRefused_where
  · apply (retires.onward here).bind
    · intro _ after retired
      apply where_act (fun _ => rfl)
      intro _ _
      apply (verdict_reports retired _ _ _).mono
      intro outcome final reported
      refine ⟨reported.1, ?_⟩
      rintro value rfl
      exact reported
    · intro failure after retired
      exact ⟨retired, fun _ answered => by cases answered⟩
  · intro message after retired
    exact verdict_reports retired _ _ _
  · intro failure after retired
    exact reports_error retired

theorem switchFrom_reports (keysBefore : Option Text) (running : Running)
    (moves : Prog.Relates act meets related (moveTo py path keysBefore running))
    (retires : Prog.Relates act meets related (retire py path)) (here : related start host) :
    Prog.Where act meets (Reports related start)
      (switchFrom py path keysBefore running) host := by
  apply (moved_where keysBefore running moves here).bind
  · intro moved after ended
    cases moved with
    | some answer => exact ended.2 answer rfl
    | none => exact retired_where running retires ended.1
  · intro failure after ended
    exact reports_error ended.1

theorem switchKeys_reports (blob : Text)
    (moves : ∀ keysBefore running,
      Prog.Relates act meets related (moveTo py path keysBefore running))
    (retires : Prog.Relates act meets related (retire py path)) (here : related start host) :
    Prog.Where act meets (Reports related start) (switchKeys py path blob) host := by
  have read : Prog.Where act meets (fun _ after => related start after)
      (onRefused (do
        let keys ← ask .readKeys
        return (Except.ok keys : Except String (Option Text))) fun message =>
          return .error message) host := by
    intro _ _
    exact here
  apply read.bind
  · intro answered after here
    cases answered with
    | error message => exact verdict_reports here _ _ _
    | ok keysBefore => exact switchFrom_reports _ _ (moves _ _) retires here
  · intro failure after here
    exact reports_error here

/-- A switch answers before it touches anything, or with what it recorded. -/
theorem switch_where (sha256 : Text → Text) {cfg : Config}
    (moves : ∀ panelKey panelPub keysBefore running, Prog.Relates act meets related
      (moveTo py (render cfg (generation sha256 cfg) panelKey panelPub) keysBefore running))
    (retires : ∀ panelKey panelPub, Prog.Relates act meets related
      (retire py (render cfg (generation sha256 cfg) panelKey panelPub))) :
    Prog.Where act meets (fun outcome after => Reports related host outcome after ∨
        after = host ∧ ∀ verdict, outcome = .ok verdict → verdict.wrote = [])
      (switch py sha256 cfg) host := by
  have here : related host host := refl_of related host
  unfold switch
  split
  · refine Or.inr ⟨rfl, ?_⟩
    rintro verdict answered
    cases answered
    rfl
  · apply where_act (fun _ => rfl)
    intro _ _
    dsimp only
    split
    · exact (verdict_reports here _ _ _).mono fun _ _ => Or.inl
    · split
      · exact (verdict_reports here _ _ _).mono fun _ _ => Or.inl
      · have opened : Prog.Where act meets (fun _ after => after = host)
            (onRefused (do
              let _ ← ask .openKeys
              return (none : Option String)) fun message => return some message) host := by
          intro _ _
          rfl
        apply opened.bind
        · rintro answered _ rfl
          cases answered with
          | some message => exact (verdict_reports here _ _ _).mono fun _ _ => Or.inl
          | none =>
              unfold Prog.tryFinally
              rw [Prog.where_andThen]
              apply (switchKeys_reports _ (moves _ _) (retires _ _) here).mono
              intro outcome after reported _ _
              exact Or.inl reported
        · rintro failure _ rfl
          exact Or.inl (reports_error here)

end Report

theorem Covered.of_mem_iff {wrote listed : List Text} {path : Text}
    (covered : Covered wrote path) (same : ∀ path, path ∈ listed ↔ path ∈ wrote) :
    Covered listed path :=
  covered.mono fun _ found => (same _).mpr found

/-- In a run whose steps are listable, whatever a switch touched is covered by
what its verdict lists. -/
theorem switch_reports (sha256 : Text → Text) (py : Builtins) (directories : Bool)
    (cfg : Config) (host : Host) :
    Prog.Where act (Listable directories cfg (generation sha256 cfg))
      (fun outcome after => ∀ verdict, outcome = .ok verdict → ∀ place : Place,
        after.standing directories place ≠ host.standing directories place →
          Covered verdict.wrote (place.path cfg)) (switch py sha256 cfg) host := by
  apply (@switch_where (Listable directories cfg (generation sha256 cfg))
    (Accounted directories cfg) host _ py sha256 cfg ?_ ?_).mono
  · rintro outcome after (⟨accounted, reported⟩ | ⟨rfl, _⟩) verdict answered place changed
    · exact ((accounted.listed place).resolve_left changed).of_mem_iff
        (reported verdict answered)
    · exact absurd rfl changed
  · intro panelKey panelPub keysBefore running
    exact lists_moveTo py (render cfg (generation sha256 cfg) panelKey panelPub) _ _
  · intro panelKey panelPub
    exact lists_retire py (render cfg (generation sha256 cfg) panelKey panelPub)

/-- A verdict lists nothing that was not recorded. -/
theorem verdict_recorded (sha256 : Text → Text) (py : Builtins) (cfg : Config) (host : Host) :
    Prog.Where act (fun _ _ => True) (fun outcome after => ∀ verdict, outcome = .ok verdict →
      verdict.wrote ⊆ after.wrote) (switch py sha256 cfg) host := by
  have anyhow {α : Type} (program : PathProg α) :
      Prog.Relates act (fun _ _ => True) (fun _ _ => True) program :=
    Prog.relates_true program
  have everything : IsPreorder Host fun _ _ => True :=
    { refl := fun _ => trivial, trans := fun _ _ _ _ _ => trivial }
  apply (@switch_where (fun _ _ => True) (fun _ _ => True) host everything py sha256 cfg
    (fun _ _ _ _ => anyhow _) fun _ _ => anyhow _).mono
  rintro outcome after (⟨_, reported⟩ | ⟨_, silent⟩) verdict answered
  · exact fun path => (reported verdict answered path).mp
  · rw [silent verdict answered]
    exact List.nil_subset _

end Catena.Dispatch

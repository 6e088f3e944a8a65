import Catena.DispatchAgain
import Catena.DispatchReports

/-!
# The drift of the bootstrap-owned files

`filter_plugins/bootstrap_drift.py`: the digests a converge reads of the files
it may not write, and what moved among them since the last time, less what the
switch of the dispatch path wrote.
-/

namespace Catena.Dispatch

open PyText

/-- `_digest_map`, of the paths and checksums `find` and `stat` returned. -/
def digestMap (entries : List (Text × Option Text)) : PyDict Text Text :=
  PyDict.ofPairs ((entries.filter fun entry => entry.1 ≠ []).map fun entry =>
    (entry.1, entry.2.getD []))

def bootstrapDigests (finds stats : List (Text × Option Text)) : PyDict Text Text :=
  let merged := (digestMap stats).foldl (fun built item => PyDict.set built item.1 item.2)
    (digestMap finds)
  PyDict.ofPairs (merged.mergeSort fun first second =>
    decide (String.ofList first.1 ≤ String.ofList second.1))

def switchedBy (path : Text) (switched : List Text) : Bool :=
  (switched.filter fun listed => listed ≠ []).any fun listed =>
    path == listed || (rstrip '/' listed ++ ['/']).isPrefixOf path

/-- What moved between two pictures. -/
structure Drift where
  added : List Text
  removed : List Text
  changed : List Text

/-- `sorted(p for p in paths if not _switched_by(p, switched))`. -/
def keep (switched paths : List Text) : List Text :=
  (paths.filter fun path => !switchedBy path switched).mergeSort fun first second =>
    decide (String.ofList first ≤ String.ofList second)

/-- Both pictures hold a digest, and not the same. -/
def differs (previous current : PyDict Text Text) (path : Text) : Bool :=
  match PyDict.get previous path, PyDict.get current path with
  | some before, some after => !before.isEmpty && !after.isEmpty && before != after
  | _, _ => false

def bootstrapDrift (previous current : PyDict Text Text) (switched : List Text) : Drift where
  added := keep switched ((PyDict.keys current).filter (· ∉ PyDict.keys previous))
  removed := keep switched ((PyDict.keys previous).filter (· ∉ PyDict.keys current))
  changed := keep switched ((PyDict.keys previous).filter (differs previous current))

theorem rstrip_append (character : Char) (text : Text) :
    ∃ stripped : Text, rstrip character text ++ stripped = text ∧
      ∀ last ∈ stripped, last = character := by
  refine ⟨(text.reverse.takeWhile (· == character)).reverse, ?_, ?_⟩
  · rw [rstrip, ← List.reverse_append, List.takeWhile_append_dropWhile, List.reverse_reverse]
  · intro last found
    have taken := List.mem_takeWhile_imp (List.mem_reverse.mp found)
    simpa using taken

theorem switchedBy_of_covered {path : Text} {wrote : List Text} (named : path ≠ [])
    (covered : Covered wrote path) : switchedBy path wrote = true := by
  obtain ⟨listed, found, under⟩ := covered
  have kept (some : listed ≠ []) : listed ∈ wrote.filter fun listed => listed ≠ [] :=
    List.mem_filter.mpr ⟨found, by simpa using some⟩
  rw [switchedBy, List.any_eq_true]
  rcases under with rfl | ⟨some, under⟩
  · exact ⟨path, kept named, by simp⟩
  · refine ⟨listed, kept some, ?_⟩
    rw [Bool.or_eq_true, List.isPrefixOf_iff_prefix]
    right
    apply List.IsPrefix.trans ?_ under
    obtain ⟨stripped, whole, slashes⟩ := rstrip_append '/' listed
    have shown : listed ++ ['/'] = rstrip '/' listed ++ (stripped ++ ['/']) := by
      rw [← List.append_assoc, whole]
    rw [shown, List.prefix_append_right_inj]
    cases stripped with
    | nil => exact List.prefix_rfl
    | cons first rest =>
        rw [slashes first (List.mem_cons_self ..)]
        exact ⟨rest ++ ['/'], rfl⟩

theorem keep_nil {switched paths : List Text}
    (excused : ∀ path ∈ paths, switchedBy path switched = true) :
    keep switched paths = [] := by
  have none : paths.filter (fun path => !switchedBy path switched) = [] := by
    rw [List.filter_eq_nil_iff]
    intro path found
    rw [excused path found]
    decide
  rw [keep, none]
  exact List.mergeSort_nil

theorem mem_keep {switched paths : List Text} {path : Text} :
    path ∈ keep switched paths ↔ path ∈ paths ∧ switchedBy path switched = false := by
  rw [keep, List.mem_mergeSort, List.mem_filter, Bool.not_eq_true']

theorem mem_removed {previous current : PyDict Text Text} {switched : List Text}
    {path : Text} : path ∈ (bootstrapDrift previous current switched).removed ↔
      (path ∈ PyDict.keys previous ∧ path ∉ PyDict.keys current) ∧
        switchedBy path switched = false := by
  rw [bootstrapDrift, mem_keep, List.mem_filter, decide_eq_true_iff]

/-- Pictures that agree on all that is not excused show no drift. -/
theorem bootstrapDrift_nothing {previous current : PyDict Text Text} {switched : List Text}
    (same : ∀ path, switchedBy path switched = false →
      PyDict.get previous path = PyDict.get current path) :
    bootstrapDrift previous current switched = ⟨[], [], []⟩ := by
  have known (path : Text) (moved : PyDict.get previous path ≠ PyDict.get current path) :
      switchedBy path switched = true := by
    by_contra unexcused
    exact moved (same path (Bool.not_eq_true _ ▸ unexcused))
  have missing {items other : PyDict Text Text} {path : Text}
      (held : path ∈ PyDict.keys items) (gone : path ∉ PyDict.keys other) :
      PyDict.get items path ≠ PyDict.get other path := by
    obtain ⟨value, looked⟩ := PyDict.get_of_mem_keys held
    rw [looked, (PyDict.get_eq_none_iff other path).mpr gone]
    exact Option.some_ne_none value
  rw [bootstrapDrift, Drift.mk.injEq]
  refine ⟨keep_nil ?_, keep_nil ?_, keep_nil ?_⟩
  · intro path found
    obtain ⟨held, gone⟩ := List.mem_filter.mp found
    exact known path (missing held (of_decide_eq_true gone)).symm
  · intro path found
    obtain ⟨held, gone⟩ := List.mem_filter.mp found
    exact known path (missing held (of_decide_eq_true gone))
  · intro path found
    obtain ⟨_, differ⟩ := List.mem_filter.mp found
    apply known path
    intro equal
    rw [differs, equal] at differ
    split at differ
    · rename_i first second
      rw [first] at second
      cases second
      simp at differ
    · cases differ

/-- What a converge reads: the checksum of what it meets, the switched places
among what it finds and names, and everything else it reads. -/
structure Watch where
  digest : Thing → Option (Option Text)
  found : List Place
  named : List Place
  foundElsewhere : List (Text × Option Text)
  namedElsewhere : List (Text × Option Text)

/-- What is read at these places. -/
def seen (watch : Watch) (directories : Bool) (cfg : Config) (places : List Place)
    (host : Host) : List (Text × Option Text) :=
  places.filterMap fun place => ((host.standing directories place).bind watch.digest).map
    fun checksum => (place.path cfg, checksum)

/-- The digests a converge records. -/
def Watch.picture (watch : Watch) (directories : Bool) (cfg : Config) (host : Host) :
    PyDict Text Text :=
  bootstrapDigests (watch.foundElsewhere ++ seen watch directories cfg watch.found host)
    (watch.namedElsewhere ++ seen watch directories cfg watch.named host)

theorem get_digestMap_congr {first second : List (Text × Option Text)} {path : Text}
    (same : (first.filter fun entry => entry.1 = path) =
      second.filter fun entry => entry.1 = path) :
    PyDict.get (digestMap first) path = PyDict.get (digestMap second) path := by
  have narrowed (entries : List (Text × Option Text)) :
      PyDict.get (digestMap entries) path = PyDict.get
        ((((entries.filter fun entry => entry.1 = path).filter fun entry =>
          entry.1 ≠ []).map fun entry => (entry.1, entry.2.getD [])).reverse) path := by
    rw [digestMap, PyDict.get_ofPairs]
    have kept := PyDict.get_filter ((((entries.filter fun entry => entry.1 ≠ []).map
      fun entry => (entry.1, entry.2.getD [])).reverse : PyDict Text Text)) (· = path) path
    rw [if_pos rfl] at kept
    rw [← kept, List.filter_reverse, List.filter_map, List.filter_filter,
      List.filter_filter]
    congr 4
    funext entry
    exact Bool.and_comm _ _
  rw [narrowed, narrowed, same]

theorem nodup_digestMap (entries : List (Text × Option Text)) :
    (PyDict.keys (digestMap entries)).Nodup :=
  PyDict.nodup_keys_ofPairs _

/-- What was named counts before what was found. -/
theorem get_bootstrapDigests (finds stats : List (Text × Option Text)) (path : Text) :
    PyDict.get (bootstrapDigests finds stats) path =
      (PyDict.get (digestMap stats) path).or (PyDict.get (digestMap finds) path) := by
  have merged := PyDict.nodup_keys_foldl_set (digestMap stats) (nodup_digestMap finds)
  have sorted := List.mergeSort_perm ((digestMap stats).foldl
    (fun built item => PyDict.set built item.1 item.2) (digestMap finds)) fun first second =>
      decide (String.ofList first.1 ≤ String.ofList second.1)
  have reversed := (List.reverse_perm _).trans sorted
  rw [bootstrapDigests, PyDict.get_ofPairs,
    ← PyDict.get_perm merged reversed.symm, PyDict.get_foldl_set,
    ← PyDict.get_perm (nodup_digestMap stats) (List.reverse_perm _).symm]

/-- A place that stands as it did is read as it was. -/
theorem seen_filter (watch : Watch) {directories : Bool} {cfg : Config} {before after : Host}
    {path : Text} (places : List Place) (same : ∀ place : Place, place.path cfg = path →
      after.standing directories place = before.standing directories place) :
    ((seen watch directories cfg places after).filter fun entry => entry.1 = path) =
      (seen watch directories cfg places before).filter fun entry => entry.1 = path := by
  induction places with
  | nil => rfl
  | cons place rest ih =>
      by_cases here : place.path cfg = path
      · simp only [seen, List.filterMap_cons, same place here]
        cases (before.standing directories place).bind watch.digest with
        | none => exact ih
        | some checksum =>
            simp only [Option.map_some, List.filter_cons, here, decide_true, if_true,
              List.cons.injEq, true_and]
            exact ih
      · have dropped (host : Host) :
            ((seen watch directories cfg (place :: rest) host).filter fun entry =>
              entry.1 = path) =
              (seen watch directories cfg rest host).filter fun entry => entry.1 = path := by
          simp only [seen, List.filterMap_cons]
          cases (host.standing directories place).bind watch.digest with
          | none => rfl
          | some checksum => simp [here]
        rw [dropped, dropped, ih]

theorem get_picture (watch : Watch) {directories : Bool} {cfg : Config} {before after : Host}
    {path : Text} (same : ∀ place : Place, place.path cfg = path →
      after.standing directories place = before.standing directories place) :
    PyDict.get (watch.picture directories cfg before) path =
      PyDict.get (watch.picture directories cfg after) path := by
  have read (elsewhere : List (Text × Option Text)) (places : List Place) :
      PyDict.get (digestMap (elsewhere ++ seen watch directories cfg places before)) path =
        PyDict.get (digestMap (elsewhere ++ seen watch directories cfg places after)) path := by
    apply get_digestMap_congr
    rw [List.filter_append, List.filter_append, seen_filter watch places same]
  rw [Watch.picture, Watch.picture, get_bootstrapDigests, get_bootstrapDigests, read, read]

theorem get_picture_nil (watch : Watch) (directories : Bool) (cfg : Config) (host : Host) :
    PyDict.get (watch.picture directories cfg host) [] = none := by
  have absent (entries : List (Text × Option Text)) :
      PyDict.get (digestMap entries) [] = none := by
    rw [digestMap, PyDict.get_ofPairs_eq_none_iff, PyDict.keys, List.map_map, List.mem_map]
    rintro ⟨entry, found, empty⟩
    exact of_decide_eq_true (List.mem_filter.mp found).2 empty
  rw [Watch.picture, get_bootstrapDigests, absent, absent]
  rfl

/-- Whatever differs and is covered by the list of a switch is no drift. -/
theorem picture_nothing (watch : Watch) {directories : Bool} {cfg : Config}
    {before after : Host} {wrote : List Text} (listed : ∀ place : Place,
      after.standing directories place ≠ before.standing directories place →
        Covered wrote (place.path cfg)) :
    bootstrapDrift (watch.picture directories cfg before)
      (watch.picture directories cfg after) wrote = ⟨[], [], []⟩ := by
  apply bootstrapDrift_nothing
  intro path unexcused
  by_cases named : path = []
  · rw [named, get_picture_nil, get_picture_nil]
  · apply get_picture
    rintro place rfl
    by_contra changed
    rw [switchedBy_of_covered named (listed place changed)] at unexcused
    cases unexcused

/-- In every run whose steps meet the condition, a switch that answers lists what
it touched, and the drift report has nothing to say of it. -/
theorem listable_switch_reports (py : Builtins) (sha256 : Text → Text) (directories : Bool)
    (cfg : Config) (host : Host) (choices : Nat → Choice) (watch : Watch) {verdict : Verdict}
    (answered : ((switch py sha256 cfg).finish act choices host).2 = .ok verdict)
    (listable : (switch py sha256 cfg).Meets act
      (Listable directories cfg (generation sha256 cfg)) choices host) :
    let after := ((switch py sha256 cfg).finish act choices host).1
    (∀ place : Place,
        after.standing directories place ≠ host.standing directories place →
          Covered verdict.wrote (place.path cfg)) ∧
      bootstrapDrift (watch.picture directories cfg host)
        (watch.picture directories cfg after) verdict.wrote = ⟨[], [], []⟩ := by
  have listed := (switch_reports sha256 py directories cfg host).finish listable verdict answered
  exact ⟨listed, picture_nothing watch listed⟩

/-- The first sample's generation, with these files in its directory. -/
def holdingHost (files : PyDict Text Node) : Host :=
  { sampleHost with
    generations := [(generation sampleSha256 firstConfig, .directory true files)] }

/-- The dispatcher was altered. -/
def alteredHost : Host :=
  holdingHost [("entry".toList, .regular true (text firstConfig.entry)),
    ("dispatcher".toList, .regular true "#!/bin/sh\nexit 0\n".toList)]

/-- A file was put beside the executables. -/
def crowdedHost : Host :=
  holdingHost [("entry".toList, .regular true (text firstConfig.entry)),
    ("dispatcher".toList, .regular true (text firstConfig.dispatcher)),
    ("extra".toList, .regular true "x".toList)]

/-- The proof of the repaired generation goes through. -/
def repairs (index : Nat) : Choice :=
  ((List.replicate 23 .ok ++ provenBy firstConfig)[index]?).getD .ok

def repaired (host : Host) : Host × Except Failure Verdict :=
  (switch Builtins.unused sampleSha256 firstConfig).finish act repairs host

def extraPlace : Place :=
  .inside (generation sampleSha256 firstConfig) "extra".toList

/-- What is read of the place of the extra file. -/
def extraWatch : Watch where
  digest
    | .regular content => some content
    | _ => none
  found := [extraPlace]
  named := []
  foundElsewhere := []
  namedElsewhere := []

theorem repaired_answers (host : Host) (ok : answeredOk (some (repaired host).2) = true) :
    ∃ verdict, (repaired host).2 = .ok verdict ∧ verdict.ok = true := by
  cases outcome : (repaired host).2 with
  | ok verdict =>
      rw [outcome] at ok
      exact ⟨verdict, rfl, ok⟩
  | error failure =>
      rw [outcome] at ok
      cases ok

theorem alteredHost_run :
    answeredOk (some (repaired alteredHost).2) = true ∧
      (switch Builtins.unused sampleSha256 firstConfig).Meets act
        (Listable true firstConfig (generation sampleSha256 firstConfig)) repairs alteredHost := by
  decide +kernel

theorem repaired_recorded {host : Host} {verdict : Verdict}
    (answered : (repaired host).2 = .ok verdict) :
    verdict.wrote ⊆ (repaired host).1.wrote := by
  have met : (switch Builtins.unused sampleSha256 firstConfig).Meets act
      (fun _ _ => True) repairs host :=
    Prog.meets_true _ _ _
  exact (verdict_recorded sampleSha256 Builtins.unused firstConfig host).finish met verdict
    answered

/-- A repaired dispatcher is listed, its directory counted. -/
theorem alteredHost_reports : ∃ verdict : Verdict, (repaired alteredHost).2 = .ok verdict ∧
    (∀ place : Place,
        (repaired alteredHost).1.standing true place ≠ alteredHost.standing true place →
          Covered verdict.wrote (place.path firstConfig)) ∧
      bootstrapDrift (extraWatch.picture true firstConfig alteredHost)
        (extraWatch.picture true firstConfig (repaired alteredHost).1) verdict.wrote =
          ⟨[], [], []⟩ := by
  obtain ⟨answers, listable⟩ := alteredHost_run
  obtain ⟨verdict, answered, _⟩ := repaired_answers alteredHost answers
  exact ⟨verdict, answered, listable_switch_reports Builtins.unused sampleSha256 true
    firstConfig alteredHost repairs extraWatch answered listable⟩

theorem switchedBy_mono {path : Text} {wrote more : List Text} (kept : wrote ⊆ more)
    (unexcused : switchedBy path more = false) : switchedBy path wrote = false := by
  rw [switchedBy, List.any_eq_false] at unexcused ⊢
  intro listed found
  obtain ⟨member, some⟩ := List.mem_filter.mp found
  exact unexcused listed (List.mem_filter.mpr ⟨kept member, some⟩)

theorem crowdedHost_run :
    let after := (repaired crowdedHost).1
    answeredOk (some (repaired crowdedHost).2) = true ∧
      after.standing false extraPlace ≠ crowdedHost.standing false extraPlace ∧
      ¬ Covered after.wrote (extraPlace.path firstConfig) ∧
      switchedBy (extraPlace.path firstConfig) after.wrote = false ∧
      extraPlace.path firstConfig ∈
        PyDict.keys (extraWatch.picture false firstConfig crowdedHost) ∧
      extraPlace.path firstConfig ∉
        PyDict.keys (extraWatch.picture false firstConfig after) := by
  decide +kernel

/-- The extra file is removed with the directory it was in, and not listed: the
drift report takes it for a removal nobody made. -/
theorem crowdedHost_unlisted : ∃ verdict : Verdict, (repaired crowdedHost).2 = .ok verdict ∧
    verdict.ok = true ∧
    (repaired crowdedHost).1.standing false extraPlace ≠
      crowdedHost.standing false extraPlace ∧
    ¬ Covered verdict.wrote (extraPlace.path firstConfig) ∧
    extraPlace.path firstConfig ∈ (bootstrapDrift
      (extraWatch.picture false firstConfig crowdedHost)
      (extraWatch.picture false firstConfig (repaired crowdedHost).1) verdict.wrote).removed := by
  obtain ⟨answers, changed, uncovered, unexcused, before, gone⟩ := crowdedHost_run
  obtain ⟨verdict, answered, ok⟩ := repaired_answers crowdedHost answers
  have recorded := repaired_recorded answered
  have unlisted : ¬ Covered verdict.wrote (extraPlace.path firstConfig) :=
    fun covered => uncovered (covered.mono recorded)
  exact ⟨verdict, answered, ok, changed, unlisted,
    mem_removed.mpr ⟨⟨before, gone⟩, switchedBy_mono recorded unexcused⟩⟩

end Catena.Dispatch

import Catena.ConvergeManifest
import Catena.PyTextForms

/-!
# What the prune removes

Ownership is reconstructed from the digests a converge records.  The record
takes in whatever sits at a declared path, so a file another program put there
is taken for the converge's own.  Where that does not happen, and nobody
writes the manifest or a file between its check and its removal, every file
the prune removes is one an earlier converge wrote.
-/

namespace Catena

namespace Converge

open Runs

section Filters

variable {py : Builtins}

theorem mem_pathsFrom {kept : List String} {declared : List Json} {result : List String}
    (done : pathsFrom py kept declared = .ok result) :
    (∀ path ∈ kept, path ∈ result) ∧
      ∀ raw, .str raw ∈ declared → PyText.strip raw = "" ∨ PyText.strip raw ∈ result := by
  induction declared generalizing kept with
  | nil =>
    cases done
    exact ⟨fun _ member => member, by simp⟩
  | cons raw rest ih =>
    cases raw with
    | str text =>
      simp only [pathsFrom] at done
      split at done
      case isTrue skipped =>
        obtain ⟨old, new⟩ := ih done
        refine ⟨old, ?_⟩
        intro wanted member
        simp only [List.mem_cons, Json.str.injEq] at member
        cases member with
        | inl same =>
          subst same
          cases skipped with
          | inl blank => exact .inl blank
          | inr inside => exact .inr (old _ inside)
        | inr later => exact new wanted later
      case isFalse =>
        split at done
        case isTrue =>
          obtain ⟨old, new⟩ := ih done
          refine ⟨fun path member => old path (by simp [member]), ?_⟩
          intro wanted member
          simp only [List.mem_cons, Json.str.injEq] at member
          cases member with
          | inl same =>
            subst same
            exact .inr (old _ (by simp))
          | inr later => exact new wanted later
        case isFalse => cases done
    | null => cases done
    | bool => cases done
    | int => cases done
    | float => cases done
    | arr => cases done
    | obj => cases done

/-- A digest of `by_path` is that of a present result of the same path. -/
theorem byPath_found {stats : List (Json × Stat)} {path sha256 : String}
    (found : PyDict.get (byPath py stats) path = some sha256) :
    ∃ result ∈ stats, itemPath py result.1 = path ∧ path ≠ "" ∧
      sha256 = result.2.checksum.getD "" := by
  have general : ∀ (stats : List (Json × Stat)) (start : PyDict String String),
      PyDict.get (stats.foldl (fun found result =>
        let path := itemPath py result.1
        if path = "" ∨ result.2.present = false then found
        else found.set path (result.2.checksum.getD "")) start) path = some sha256 →
      PyDict.get start path = some sha256 ∨
        ∃ result ∈ stats, itemPath py result.1 = path ∧ path ≠ "" ∧
          sha256 = result.2.checksum.getD "" := by
    intro stats
    induction stats with
    | nil =>
      intro start there
      exact .inl there
    | cons result rest ih =>
      intro start there
      cases ih _ there with
      | inr later =>
        obtain ⟨other, member, facts⟩ := later
        exact .inr ⟨other, by simp [member], facts⟩
      | inl here =>
        simp only at here
        split at here
        case isTrue => exact .inl here
        case isFalse present =>
          rw [PyDict.get_set] at here
          split at here
          case isFalse => exact .inl here
          case isTrue same =>
            simp only [not_or] at present
            refine .inr ⟨result, by simp, same, ?_, (Option.some.inj here).symm⟩
            rw [← same]
            exact present.1
  cases general stats [] found with
  | inl start => cases start
  | inr there => exact there

/-- A withdrawn entry is a recorded one whose path is not kept. -/
theorem mem_withdrawnFrom {keep : List String} {found : List Entry} {items : List Json}
    {entry : Entry} (member : entry ∈ withdrawnFrom py keep found items) :
    entry ∈ found ∨ ∃ fields, .obj fields ∈ items ∧ entry.path ∉ keep ∧ entry.path ≠ "" ∧
      entry.path = PyText.strip (Json.textOr py (PyDict.get fields "path")) ∧
      entry.sha256 = Json.textOr py (PyDict.get fields "sha256") := by
  induction items generalizing found with
  | nil => exact .inl member
  | cons item rest ih =>
    have later (found : List Entry) (inside : entry ∈ withdrawnFrom py keep found rest) :
        entry ∈ found ∨ ∃ fields, .obj fields ∈ item :: rest ∧ entry.path ∉ keep ∧
          entry.path ≠ "" ∧
          entry.path = PyText.strip (Json.textOr py (PyDict.get fields "path")) ∧
          entry.sha256 = Json.textOr py (PyDict.get fields "sha256") := by
      cases ih inside with
      | inl old => exact .inl old
      | inr new =>
        obtain ⟨fields, listed, facts⟩ := new
        exact .inr ⟨fields, by simp [listed], facts⟩
    cases item with
    | obj fields =>
      simp only [withdrawnFrom] at member
      split at member
      case isTrue => exact later found member
      case isFalse fresh =>
        simp only [not_or] at fresh
        cases later _ member with
        | inr new => exact .inr new
        | inl inside =>
          cases List.mem_append.mp inside with
          | inl old => exact .inl old
          | inr last =>
            rw [List.mem_singleton] at last
            subst last
            exact .inr ⟨fields, by simp, fresh.2.1, fresh.1, rfl, rfl⟩
    | null => exact later found member
    | bool => exact later found member
    | int => exact later found member
    | float => exact later found member
    | str => exact later found member
    | arr => exact later found member

end Filters

/-- A bind that ends well did so in both parts. -/
theorem bind_ok {α β : Type} {first : Except PyError α} {next : α → Except PyError β}
    {result : β} (done : first >>= next = .ok result) :
    ∃ value, first = .ok value ∧ next value = .ok result := by
  cases first with
  | error error => cases done
  | ok value => exact ⟨value, rfl, done⟩

variable {tools : Tools} {host : Host}

/-- What the payload manifest on the host claims. -/
def claimedNow (tools : Tools) (files : PyDict String Node) :
    Except PyError (List String) := do
  claimed tools.py (← readManifest tools files payloadManifestPath)

/-- What the removal of a path by a converge with the given declaration rests
on: undeclared, unclaimed, and holding what an earlier converge wrote there. -/
structure Rightful (tools : Tools) (host : Host) (declared : List Json)
    (path : String) : Prop where
  undeclared : ∀ raw, .str raw ∈ declared →
    tools.place (PyText.strip raw) ≠ tools.place path
  unclaimed : ∀ taken, claimedNow tools host.files = .ok taken →
    ∀ claim ∈ taken, tools.place claim ≠ tools.place path
  own : ∀ node, host.files.get (tools.place path) = some node →
    ∃ content count, node = .file content ∧ count < host.converges ∧
      (count, tools.place path, content) ∈ host.written

/-- The path of an entry of the manifest. -/
def recordedPath (tools : Tools) : Json → Option String
  | .obj fields => some (PyText.strip (Json.textOr tools.py (PyDict.get fields "path")))
  | _ => none

/-- The paths the manifest on the host records. -/
def recordedNow (tools : Tools) (files : PyDict String Node) :
    Except PyError (List String) := do
  let previous ← readManifest tools files convergeManifestPath
  let installed ← entries (field previous "installed")
  return installed.filterMap (recordedPath tools)

/-- The condition on a step, in the state before it.  Only converges write the
manifest.  When the candidates are checked, a file that the manifest and the
declaration or the payload manifest both name is named by one path.  Between a
check and the removals it leads to, nobody else writes the checked files or
the payload manifest.  When a converge records, each file at a path it
declares is one a converge wrote there. -/
def Careful (tools : Tools) (host : Host) : Step → Prop
  | .ship path _ => tools.place path ≠ tools.place convergeManifestPath
  | .check declared => ∀ recorded, recordedNow tools host.files = .ok recorded →
      ∀ path ∈ recorded,
        (∀ raw, .str raw ∈ declared →
          tools.place (PyText.strip raw) = tools.place path → PyText.strip raw = path) ∧
        ∀ taken, claimedNow tools host.files = .ok taken → ∀ claim ∈ taken,
          tools.place claim = tools.place path → claim = path
  | .record => ∀ declared, host.phase = .pruning declared [] →
      ∀ raw content, .str raw ∈ declared →
        host.files.get (tools.place raw) = some (.file content) →
        ∃ count, (count, tools.place (PyText.strip raw), content) ∈ host.written
  | .foreign path (some _) => tools.place path ≠ tools.place convergeManifestPath ∧
      ∀ declared ours, host.phase = .pruning declared ours →
        tools.place path ≠ tools.place payloadManifestPath ∧
          ∀ entry ∈ ours, tools.place entry.path ≠ tools.place path
  | _ => True

/-- A recorded manifest is read back with the values it was written with,
its keys in whatever order the printer sorted them. -/
def ReadsBack (tools : Tools) (recorded : List Json) : Prop :=
  ∀ value ∈ recorded,
    let raw := PyText.stripChars PyText.isSpace (tools.toNiceJson value ++ "\n").toList
    raw.head? = some '{' ∧ raw.getLast? = some '}' ∧
      ∃ fields, tools.py.loads (String.ofList raw) = some (.obj fields) ∧
        ∀ key, PyDict.get fields key = field value key

/-- The invariant: the digests of the manifest are of what converges wrote,
and all that is left to remove may be removed. -/
structure Kept (tools : Tools) (host : Host) : Prop where
  counts : ∀ made ∈ host.written, made.1 ≤ host.converges
  manifest : ∀ node, host.files.get (tools.place convergeManifestPath) = some node →
    ∃ declared installed, manifest tools declared installed ∈ host.recorded ∧
      node = .file (tools.toNiceJson (manifest tools declared installed) ++ "\n") ∧
      ∀ entry ∈ installed, entry.sha256 ≠ "" → ∃ count content,
        count < host.converges ∧
          (count, tools.place (PyText.strip entry.path), content) ∈ host.written ∧
          entry.sha256 = tools.sha256 content
  pending : ∀ declared ours, host.phase = .pruning declared ours →
    ∀ entry ∈ ours, Rightful tools host declared entry.path

/-- A host no converge has run on. -/
structure Host.Untouched (tools : Tools) (host : Host) : Prop where
  phase : host.phase = .idle
  written : host.written = []
  manifest : host.files.get (tools.place convergeManifestPath) = none

theorem Host.Untouched.kept (untouched : host.Untouched tools) : Kept tools host where
  counts := by simp [untouched.written]
  manifest := by simp [untouched.manifest]
  pending := by simp [untouched.phase]

/-- What reading the host's manifest gives: what was last recorded, or nothing. -/
theorem Kept.reads (kept : Kept tools host) (readsBack : ReadsBack tools host.recorded)
    {previous : Json}
    (done : readManifest tools host.files convergeManifestPath = .ok previous) :
    previous = .obj [] ∨ ∃ declared installed,
      (∀ key, field previous key = field (Converge.manifest tools declared installed) key) ∧
        ∀ entry ∈ installed, entry.sha256 ≠ "" → ∃ count content,
          count < host.converges ∧
            (count, tools.place (PyText.strip entry.path), content) ∈ host.written ∧
            entry.sha256 = tools.sha256 content := by
  cases there : host.files.get (tools.place convergeManifestPath) with
  | none =>
    simp only [readManifest, slurp, there] at done
    rw [if_neg (by simp)] at done
    cases done
    exact .inl rfl
  | some node =>
    obtain ⟨declared, installed, recorded, same, owned⟩ := kept.manifest node there
    subst same
    obtain ⟨opened, closed, fields, loaded, reads⟩ := readsBack _ recorded
    simp only [readManifest, slurp, there] at done
    rw [if_pos ⟨opened, closed⟩, loaded] at done
    cases done
    exact .inr ⟨declared, installed, reads, owned⟩

/-- The entries found in the manifest are those of what was last recorded. -/
theorem Kept.installed (kept : Kept tools host)
    (readsBack : ReadsBack tools host.recorded) {previous : Json} {items : List Json}
    (read : readManifest tools host.files convergeManifestPath = .ok previous)
    (listed : entries (field previous "installed") = .ok items)
    {fields : List (String × Json)} (member : .obj fields ∈ items) :
    ∃ entry : Entry,
      fields = [("path", .str entry.path), ("sha256", .str entry.sha256)] ∧
      (entry.sha256 ≠ "" → ∃ count content, count < host.converges ∧
        (count, tools.place (PyText.strip entry.path), content) ∈ host.written ∧
        entry.sha256 = tools.sha256 content) := by
  cases kept.reads readsBack read with
  | inl nothing =>
    subst nothing
    cases listed
    cases member
  | inr something =>
    obtain ⟨declared, installed, reads, owned⟩ := something
    have found : field previous "installed" =
        some (.arr (installed.map fun entry =>
          .obj [("path", .str entry.path), ("sha256", .str entry.sha256)])) :=
      reads "installed"
    have same : items = installed.map fun entry =>
        .obj [("path", .str entry.path), ("sha256", .str entry.sha256)] := by
      rw [found] at listed
      cases installed with
      | nil =>
        cases listed
        rfl
      | cons first rest =>
        cases listed
        rfl
    rw [same, List.mem_map] at member
    obtain ⟨entry, inside, shape⟩ := member
    cases shape
    exact ⟨entry, rfl, owned entry inside⟩

/-- Every candidate comes from the manifest and is rightful. -/
theorem Kept.check (kept : Kept tools host) (readsBack : ReadsBack tools host.recorded)
    (collisionFree : Function.Injective tools.sha256) {declared : List Json}
    (careful : Careful tools host (.check declared))
    {ours : List Entry} (done : check tools host.files declared = .ok ours) :
    ∀ entry ∈ ours, Rightful tools host declared entry.path := by
  obtain ⟨previous, read, done⟩ := bind_ok done
  obtain ⟨withdrawn, dropped, done⟩ := bind_ok done
  obtain ⟨payload, readPayload, done⟩ := bind_ok done
  obtain ⟨unclaimed, free, done⟩ := bind_ok done
  obtain ⟨keep, normal, dropped⟩ := bind_ok dropped
  obtain ⟨items, listed, dropped⟩ := bind_ok dropped
  obtain ⟨taken, claims, free⟩ := bind_ok free
  cases done
  cases dropped
  cases free
  intro entry member
  simp only [convergePrunable, List.mem_map, List.mem_filter] at member
  obtain ⟨_, ⟨⟨candidate, ⟨sorted, free⟩, rfl⟩, stillOurs⟩, rfl⟩ := member
  have inWithdrawn := (List.mem_insertionSort _).mp sorted
  cases mem_withdrawnFrom inWithdrawn with
  | inl found => cases found
  | inr found =>
    obtain ⟨fields, inItems, notKept, notBlank, path, sha256⟩ := found
    have inRecorded : ∃ recorded, recordedNow tools host.files = .ok recorded ∧
        candidate.path ∈ recorded := by
      refine ⟨items.filterMap (recordedPath tools), ?_, ?_⟩
      · simp only [recordedNow, read, listed, bind, Except.bind]
        rfl
      · exact List.mem_filterMap.mpr ⟨.obj fields, inItems, congrArg some path.symm⟩
    obtain ⟨recorded, nowRecorded, inside⟩ := inRecorded
    obtain ⟨declaredOnce, claimedOnce⟩ := careful recorded nowRecorded candidate.path inside
    have both : claimedNow tools host.files = .ok taken := by
      unfold claimedNow
      rw [readPayload]
      exact claims
    constructor
    · intro raw inDeclared samePlace
      have same := declaredOnce raw inDeclared samePlace
      cases (mem_pathsFrom normal).2 raw inDeclared with
      | inl blank => exact notBlank (same.symm.trans blank)
      | inr kept => exact notKept (same ▸ kept)
    · intro others now claim inTaken samePlace
      rw [both] at now
      cases now
      have same := claimedOnce taken both claim inTaken samePlace
      subst same
      simp [inTaken] at free
    · intro node there
      obtain ⟨entry, rfl, owned⟩ := kept.installed readsBack read listed inItems
      have samePath : candidate.path = PyText.strip entry.path := by
        rw [path]
        exact congrArg PyText.strip (Json.textOr_str tools.py entry.path)
      have sameSha : candidate.sha256 = entry.sha256 := by
        rw [sha256]
        exact Json.textOr_str tools.py entry.sha256
      simp only [isOurs, stat, there, sameSha, Bool.and_eq_true, beq_iff_eq,
        decide_eq_true_eq] at stillOurs
      obtain ⟨⟨-, recorded⟩, digest⟩ := stillOurs
      obtain ⟨count, content, earlier, wrote, written⟩ := owned recorded
      cases node with
      | special => exact absurd digest recorded
      | file now =>
        have same : now = content := by
          apply collisionFree
          rw [← written, digest]
          rfl
        subst same
        rw [samePath]
        exact ⟨now, count, rfl, earlier, wrote⟩

theorem claimedNow_congr {files others : PyDict String Node}
    (same : files.get (tools.place payloadManifestPath) =
      others.get (tools.place payloadManifestPath)) :
    claimedNow tools files = claimedNow tools others := by
  have sameText : slurp tools files payloadManifestPath =
      slurp tools others payloadManifestPath := by
    simp only [slurp, same]
  unfold claimedNow readManifest
  rw [sameText]

/-- A removed file keeps the others removable. -/
theorem Rightful.erase {declared : List Json} {path : String}
    (rightful : Rightful tools host declared path) (gone : String) (phase : Phase) :
    Rightful tools { host with files := host.files.erase gone, phase := phase }
      declared path where
  undeclared := rightful.undeclared
  unclaimed := by
    intro taken now
    by_cases payload : gone = tools.place payloadManifestPath
    · have absent : (host.files.erase gone).get (tools.place payloadManifestPath) =
          none := by
        rw [PyDict.get_erase, if_pos payload]
      have nothing : claimedNow tools (host.files.erase gone) = .ok [] := by
        simp only [claimedNow, readManifest, slurp, absent]
        rfl
      rw [nothing] at now
      cases now
      simp
    · apply rightful.unclaimed taken
      rw [← now]
      apply claimedNow_congr
      rw [PyDict.get_erase, if_neg payload]
  own := by
    intro node there
    rw [PyDict.get_erase] at there
    split at there
    · cases there
    · exact rightful.own node there

theorem Rightful.foreign {declared : List Json} {path : String}
    (rightful : Rightful tools host declared path) {written : String} (node : Node)
    (notPayload : written ≠ tools.place payloadManifestPath)
    (notPath : tools.place path ≠ written) :
    Rightful tools { host with files := host.files.set written node } declared path where
  undeclared := rightful.undeclared
  unclaimed := by
    intro taken now
    apply rightful.unclaimed taken
    rw [← now]
    apply claimedNow_congr
    rw [PyDict.get_set_ne _ _ notPayload]
  own := by
    intro there found
    rw [PyDict.get_set_ne _ _ notPath.symm] at found
    exact rightful.own there found

/-- Erasing files keeps the invariant, whatever is left to remove of what was. -/
theorem Kept.erase (kept : Kept tools host) (gone : String) (phase : Phase)
    (less : ∀ declared ours, phase = .pruning declared ours →
      ∃ more, host.phase = .pruning declared more ∧ ∀ entry ∈ ours, entry ∈ more) :
    Kept tools { host with files := host.files.erase gone, phase := phase } where
  counts := kept.counts
  manifest := by
    intro node there
    rw [PyDict.get_erase] at there
    split at there
    · cases there
    · exact kept.manifest node there
  pending := by
    intro declared ours now entry member
    obtain ⟨more, before, inside⟩ := less declared ours now
    exact (kept.pending declared more before entry (inside entry member)).erase gone phase

theorem itemPath_str (py : Builtins) (raw : String) :
    itemPath py (.str raw) = PyText.strip raw := by
  by_cases empty : raw = ""
  · subst empty
    rfl
  · simp [itemPath, Json.truthy, Json.toText, empty]

theorem paths_texts {py : Builtins} {kept : List String} {declared : List Json}
    {result : List String} (done : pathsFrom py kept declared = .ok result) :
    ∀ raw ∈ declared, ∃ text, raw = .str text := by
  induction declared generalizing kept with
  | nil => simp
  | cons raw rest ih =>
    cases raw with
    | str text =>
      intro wanted member
      cases List.mem_cons.mp member with
      | inl same => exact ⟨text, same⟩
      | inr later =>
        simp only [pathsFrom] at done
        split at done
        · exact ih done wanted later
        · split at done
          · exact ih done wanted later
          · cases done
    | null => cases done
    | bool => cases done
    | int => cases done
    | float => cases done
    | arr => cases done
    | obj => cases done

theorem recorded_owned {declared : List Json} {installed : List Entry}
    (done : convergeInstalled tools.py declared
      (declared.map (statItem tools host.files)) = .ok installed)
    (careful : ∀ raw content, .str raw ∈ declared →
      host.files.get (tools.place raw) = some (.file content) →
      ∃ count, (count, tools.place (PyText.strip raw), content) ∈ host.written) :
    ∀ entry ∈ installed, entry.sha256 ≠ "" → ∃ count content,
      (count, tools.place (PyText.strip entry.path), content) ∈ host.written ∧
        entry.sha256 = tools.sha256 content := by
  obtain ⟨normal, shaped, done⟩ := bind_ok done
  cases done
  intro entry member recorded
  simp only [List.mem_filterMap, Option.map_eq_some_iff] at member
  obtain ⟨path, -, sha256, found, rfl⟩ := member
  obtain ⟨result, inStats, itsPath, -, digest⟩ := byPath_found found
  obtain ⟨raw, inDeclared, rfl⟩ := List.mem_map.mp inStats
  obtain ⟨text, rfl⟩ := paths_texts shaped raw inDeclared
  simp only [statItem, itemPath_str, Json.toText] at itsPath digest recorded
  simp only [stat] at digest
  cases there : host.files.get (tools.place text) with
  | none =>
    simp only [there] at digest
    exact absurd digest recorded
  | some node =>
    cases node with
    | special =>
      simp only [there] at digest
      exact absurd digest recorded
    | file content =>
      simp only [there] at digest
      obtain ⟨count, wrote⟩ := careful text content inDeclared there
      refine ⟨count, content, ?_, digest⟩
      rw [← itsPath, PyText.strip_strip]
      exact wrote

/-- Every careful step keeps the invariant. -/
theorem Kept.step (kept : Kept tools host) (step : Step) (careful : Careful tools host step)
    (readsBack : ReadsBack tools host.recorded)
    (collisionFree : Function.Injective tools.sha256) :
    Kept tools (host.step tools step) := by
  cases step with
  | ship path content =>
    cases phase : host.phase with
    | pruning declared ours => simpa only [Host.step, phase] using kept
    | idle =>
      simp only [Host.step, phase]
      constructor
      · intro made member
        cases List.mem_append.mp member with
        | inl old => exact kept.counts made old
        | inr new =>
          rw [List.mem_singleton] at new
          subst new
          exact le_refl _
      · intro node there
        change (host.files.set (tools.place path) (.file content)).get
          (tools.place convergeManifestPath) = some node at there
        rw [PyDict.get_set_ne _ _ careful] at there
        obtain ⟨declared, installed, recorded, same, owned⟩ := kept.manifest node there
        refine ⟨declared, installed, recorded, same, ?_⟩
        intro entry member digest
        obtain ⟨count, wrote, earlier, there, sha256⟩ := owned entry member digest
        exact ⟨count, wrote, earlier, List.mem_append_left _ there, sha256⟩
      · intro declared ours now
        cases now
  | check declared =>
    cases phase : host.phase with
    | pruning declared ours => simpa only [Host.step, phase] using kept
    | idle =>
      cases done : Converge.check tools host.files declared with
      | error error => simpa only [Host.step, phase, done] using kept
      | ok ours =>
        simp only [Host.step, phase, done]
        have rightful := kept.check readsBack collisionFree careful done
        refine ⟨kept.counts, kept.manifest, ?_⟩
        intro others more now entry member
        cases now
        have own := rightful entry member
        exact ⟨own.undeclared, own.unclaimed, own.own⟩
  | remove =>
    cases phase : host.phase with
    | idle => simpa only [Host.step, phase] using kept
    | pruning declared ours =>
      cases ours with
      | nil => simpa only [Host.step, phase] using kept
      | cons entry rest =>
        simp only [Host.step, phase]
        apply kept.erase
        intro others more now
        cases now
        exact ⟨entry :: rest, phase, fun other inside => List.mem_cons_of_mem _ inside⟩
  | record =>
    cases phase : host.phase with
    | idle => simpa only [Host.step, phase] using kept
    | pruning declared ours =>
      cases ours with
      | cons entry rest => simpa only [Host.step, phase] using kept
      | nil =>
        cases done : convergeInstalled tools.py declared
            (declared.map (statItem tools host.files)) with
        | error error =>
          simp only [Host.step, phase, done]
          refine ⟨kept.counts, kept.manifest, ?_⟩
          intro others more now
          cases now
        | ok installed =>
          simp only [Host.step, phase, done]
          have owned := recorded_owned done (careful declared phase)
          constructor
          · intro made member
            cases List.mem_append.mp member with
            | inl old => exact le_trans (kept.counts made old) (Nat.le_succ _)
            | inr new =>
              rw [List.mem_singleton] at new
              subst new
              exact Nat.le_succ _
          · intro node there
            simp only [PyDict.get_set_same, Option.some.injEq] at there
            refine ⟨declared, installed, by simp, there.symm, ?_⟩
            intro entry member digest
            obtain ⟨count, content, wrote, sha256⟩ := owned entry member digest
            exact ⟨count, content, Nat.lt_succ_of_le (kept.counts _ wrote),
              List.mem_append_left _ wrote, sha256⟩
          · intro others more now
            cases now
  | stop =>
    simp only [Host.step]
    refine ⟨kept.counts, kept.manifest, ?_⟩
    intro others more now
    cases now
  | foreign path node =>
    cases node with
    | none =>
      simp only [Host.step]
      apply kept.erase (tools.place path) host.phase
      intro declared ours now
      exact ⟨ours, now, fun _ inside => inside⟩
    | some node =>
      simp only [Host.step]
      refine ⟨kept.counts, ?_, ?_⟩
      · intro there found
        change (host.files.set (tools.place path) node).get
          (tools.place convergeManifestPath) = some there at found
        rw [PyDict.get_set_ne _ _ careful.1] at found
        exact kept.manifest there found
      · intro declared ours now entry member
        obtain ⟨notPayload, others⟩ := careful.2 declared ours now
        exact (kept.pending declared ours now entry member).foreign node notPayload
          (others entry member)

theorem recorded_step (host : Host) (step : Step) :
    ∀ value ∈ host.recorded, value ∈ (host.step tools step).recorded := by
  intro value member
  cases step with
  | ship => simp only [Host.step]; split <;> exact member
  | check =>
    simp only [Host.step]
    split
    · split <;> exact member
    · exact member
  | remove => simp only [Host.step]; split <;> exact member
  | record =>
    simp only [Host.step]
    split
    · split
      · exact List.mem_append_left _ member
      · exact member
    · exact member
  | stop => exact member
  | foreign path node => cases node <;> exact member

theorem Kept.run (kept : Kept tools host) (steps : List Step)
    (careful : Throughout (Host.step tools) (Careful tools) host steps)
    (readsBack : ReadsBack tools (host.run tools steps).recorded)
    (collisionFree : Function.Injective tools.sha256) :
    Kept tools (host.run tools steps) := by
  have earlier (host : Host) (step : Step)
      (readsBack : ReadsBack tools (host.step tools step).recorded) :
      ReadsBack tools host.recorded := by
    intro value member
    exact readsBack value (recorded_step host step value member)
  apply @invariant_ahead _ _ (Host.step tools) (Careful tools) host steps (Kept tools)
    fun host => ReadsBack tools host.recorded
  · intro before step kept careful readsBack
    exact kept.step step careful (earlier before step readsBack) collisionFree
  · exact earlier
  · exact kept
  · exact careful
  · exact readsBack

/-- The next step of the host is the removal of a file that is there. -/
def Removes (tools : Tools) (host : Host) (declared : List Json) (path : String) (node : Node) : Prop :=
  ∃ entry rest, host.phase = .pruning declared (entry :: rest) ∧ entry.path = path ∧
    host.files.get (tools.place path) = some node

/-- In a run of careful steps, every file a prune removes is undeclared by its
converge, unclaimed by the payload manifest, and holds what an earlier
converge wrote there. -/
theorem removes_own (untouched : host.Untouched tools) (steps : List Step)
    (careful : Throughout (Host.step tools) (Careful tools) host steps)
    (readsBack : ReadsBack tools (host.run tools steps).recorded)
    (collisionFree : Function.Injective tools.sha256)
    {declared : List Json} {path : String} {node : Node}
    (removes : Removes tools (host.run tools steps) declared path node) :
    (∀ raw, .str raw ∈ declared → tools.place (PyText.strip raw) ≠ tools.place path) ∧
      (∀ taken, claimedNow tools (host.run tools steps).files = .ok taken →
        ∀ claim ∈ taken, tools.place claim ≠ tools.place path) ∧
      ∃ content count, node = .file content ∧
        count < (host.run tools steps).converges ∧
        (count, tools.place path, content) ∈ (host.run tools steps).written := by
  have kept : Kept tools (host.run tools steps) :=
    untouched.kept.run steps careful readsBack collisionFree
  obtain ⟨entry, rest, phase, rfl, there⟩ := removes
  have rightful := kept.pending declared (entry :: rest) phase entry (by simp)
  exact ⟨rightful.undeclared, rightful.unclaimed, rightful.own node there⟩

section Samples

def sampleDigest : String :=
  "2d711642b726b04401627ca9fbac32f5c8530fb1903cc4db02258717921a4881"

/-- The manifest of a converge that declares `/p` and finds `x` there. -/
def sampleManifest : Json :=
  .obj [("schema", .int 1), ("converged_by", .str "c"), ("declared", .arr [.str "/p"]),
    ("installed", .arr [.obj [("path", .str "/p"), ("sha256", .str sampleDigest)]])]

/-- That manifest as it is printed between its braces, with its keys sorted. -/
def sampleBody : String :=
  "\n    \"converged_by\": \"c\",\n    \"declared\": [\n        \"/p\"\n    ]," ++
    "\n    \"installed\": [\n        \x7b\n            \"path\": \"/p\"," ++
    "\n            \"sha256\": \"" ++ sampleDigest ++ "\"\n        \x7d\n    ]," ++
    "\n    \"schema\": 1\n"

def sampleText : String :=
  "\x7b" ++ sampleBody ++ "\x7d"

/-- That manifest as it is read back. -/
def sampleRead : List (String × Json) :=
  [("converged_by", .str "c"), ("declared", .arr [.str "/p"]),
    ("installed", .arr [.obj [("path", .str "/p"), ("sha256", .str sampleDigest)]]),
    ("schema", .int 1)]

/-- Tools for the runs below, where only the manifest above is printed and
read, only the content `x` is digested, and no directory is a link. -/
def sampleTools : Tools where
  py := ⟨fun _ => "", fun text => if text = sampleText then some (.obj sampleRead) else none,
    fun _ => false⟩
  toNiceJson value := if value = sampleManifest then sampleText else ""
  convergePath := "c"
  sha256 content := if content = "x" then sampleDigest else "." ++ content
  place path := path

theorem sampleTools_collisionFree : Function.Injective sampleTools.sha256 := by
  intro first second same
  have tabled (content : String) : "." ++ content ≠ sampleDigest := by
    intro equal
    have texts := congrArg String.toList equal
    simp [sampleDigest] at texts
  simp only [sampleTools] at same
  split at same
  case isTrue isX =>
    split at same
    case isTrue alsoX => rw [isX, alsoX]
    case isFalse => exact absurd same.symm (tabled second)
  case isFalse =>
    split at same
    case isTrue => exact absurd same (tabled first)
    case isFalse =>
      have texts := congrArg String.toList same
      apply String.toList_injective
      simpa using texts

def emptyHost : Host :=
  ⟨[], .idle, 0, [], []⟩

theorem emptyHost_untouched : emptyHost.Untouched sampleTools :=
  ⟨rfl, rfl, rfl⟩

/-- A converge ships `/p`, declares and records it; the next one declares
nothing. -/
def shippedSteps : List Step :=
  [.ship "/p" "x", .check [.str "/p"], .record, .check []]

/-- Another program writes `/p`; a converge that declares it without shipping
it records it; the next one declares nothing. -/
def foundSteps : List Step :=
  [.foreign "/p" (some (.file "x")), .check [.str "/p"], .record, .check []]

theorem sampleText_opens : sampleText.toList.head? = some '{' := by
  rw [sampleText, String.toList_append, String.toList_append, List.append_assoc,
    List.head?_append]
  rfl

theorem sampleText_closes : sampleText.toList.getLast? = some '}' := by
  rw [sampleText, String.toList_append, List.getLast?_append]
  rfl

theorem sampleText_strip :
    PyText.stripChars PyText.isSpace (sampleText ++ "\n").toList = sampleText.toList := by
  have lineEnd : ∀ character ∈ ("\n" : String).toList, PyText.isSpace character = true := by
    simp [PyText.isSpace]
  rw [String.toList_append, PyText.stripChars_append_dropped lineEnd]
  apply PyText.stripChars_of_ends
  · intro character first
    rw [sampleText_opens] at first
    cases first
    decide
  · intro character last
    rw [sampleText_closes] at last
    cases last
    decide

theorem sampleTools_prints : sampleTools.toNiceJson sampleManifest = sampleText := by
  simp only [sampleTools, if_true]

theorem sampleTools_reads : sampleTools.py.loads sampleText = some (.obj sampleRead) := by
  simp only [sampleTools, if_true]

theorem sampleTools_readsBack : ReadsBack sampleTools [sampleManifest] := by
  intro value member
  rw [List.mem_singleton] at member
  subst member
  simp only [sampleTools_prints, sampleText_strip, String.ofList_toList]
  refine ⟨sampleText_opens, sampleText_closes, sampleRead, sampleTools_reads, ?_⟩
  intro key
  simp only [sampleRead, sampleManifest, field, PyDict.get_cons, PyDict.get_nil]
  by_cases schema : "schema" = key
  · subst schema
    decide
  · split_ifs <;> rfl

/-- The host before the record of either run, with `/p` declared and there. -/
def declaredHost (written : List (Nat × String × String)) : Host :=
  ⟨[("/p", .file "x")], .pruning [.str "/p"] [], 0, written, []⟩

def recordedFiles : PyDict String Node :=
  [("/p", .file "x"), (convergeManifestPath, .file (sampleText ++ "\n"))]

def recordedHost (written : List (Nat × String × String)) : Host :=
  ⟨recordedFiles, .idle, 1,
    written ++ [(0, convergeManifestPath, sampleText ++ "\n")], [sampleManifest]⟩

/-- The host after either run: `/p` is checked and about to be removed. -/
def checkedHost (written : List (Nat × String × String)) : Host :=
  { recordedHost written with phase := .pruning [] [⟨"/p", sampleDigest⟩] }

theorem declaredHost_record (written : List (Nat × String × String)) :
    (declaredHost written).step sampleTools .record = recordedHost written := by
  have installed : convergeInstalled sampleTools.py [.str "/p"]
      ([.str "/p"].map (statItem sampleTools [("/p", .file "x")])) =
      .ok [⟨"/p", sampleDigest⟩] := by
    decide +kernel
  have same : manifest sampleTools [.str "/p"] [⟨"/p", sampleDigest⟩] = sampleManifest := rfl
  simp only [Host.step, declaredHost, installed, same, sampleTools_prints]
  rfl

theorem Host.step_check (host : Host) {declared : List Json} {ours : List Entry}
    (idle : host.phase = .idle) (done : check tools host.files declared = .ok ours) :
    host.step tools (.check declared) = { host with phase := .pruning declared ours } := by
  simp only [Host.step, idle, done]

theorem recordedHost_check (written : List (Nat × String × String)) :
    (recordedHost written).step sampleTools (.check []) = checkedHost written := by
  have slurped : slurp sampleTools recordedFiles convergeManifestPath = sampleText.toList :=
    sampleText_strip
  have read : readManifest sampleTools recordedFiles convergeManifestPath =
      .ok (.obj sampleRead) := by
    simp only [readManifest, slurped, String.ofList_toList, sampleTools_reads,
      if_pos (And.intro sampleText_opens sampleText_closes)]
  have checked : check sampleTools recordedFiles [] =
      .ok [⟨"/p", sampleDigest⟩] := by
    unfold check
    rw [read]
    decide +kernel
  exact (recordedHost written).step_check rfl checked

theorem Host.run_cons (host : Host) (step : Step) (steps : List Step) :
    host.run tools (step :: steps) = (host.step tools step).run tools steps :=
  rfl

theorem Host.run_nil (host : Host) : host.run tools [] = host :=
  rfl

theorem shippedSteps_run :
    emptyHost.run sampleTools shippedSteps = checkedHost [(0, "/p", "x")] := by
  have before : (emptyHost.step sampleTools (.ship "/p" "x")).step sampleTools
      (.check [.str "/p"]) = declaredHost [(0, "/p", "x")] := by
    decide +kernel
  rw [shippedSteps, Host.run_cons, Host.run_cons, before, Host.run_cons,
    declaredHost_record, Host.run_cons, recordedHost_check, Host.run_nil]

theorem foundSteps_run : emptyHost.run sampleTools foundSteps = checkedHost [] := by
  have before : (emptyHost.step sampleTools (.foreign "/p" (some (.file "x")))).step
      sampleTools (.check [.str "/p"]) = declaredHost [] := by
    decide +kernel
  rw [foundSteps, Host.run_cons, Host.run_cons, before, Host.run_cons,
    declaredHost_record, Host.run_cons, recordedHost_check, Host.run_nil]

theorem checkedHost_removes (written : List (Nat × String × String)) :
    Removes sampleTools (checkedHost written) [] "/p" (.file "x") :=
  ⟨⟨"/p", sampleDigest⟩, [], rfl, rfl, rfl⟩

theorem shippedSteps_careful :
    Throughout (Host.step sampleTools) (Careful sampleTools) emptyHost shippedSteps := by
  have notManifest : sampleTools.place "/p" ≠ sampleTools.place convergeManifestPath := by
    decide
  have oneName (host : Host) (declared : List Json) :
      Careful sampleTools host (.check declared) :=
    fun _ _ _ _ => ⟨fun _ _ same => same, fun _ _ _ _ same => same⟩
  refine ⟨notManifest, oneName _ _, ?_, oneName _ _, trivial⟩
  have state : (emptyHost.step sampleTools (.ship "/p" "x")).step sampleTools
      (.check [.str "/p"]) = declaredHost [(0, "/p", "x")] := by
    decide
  rw [state]
  intro declared now raw content inDeclared there
  cases now
  simp only [List.mem_singleton, Json.str.injEq] at inDeclared
  subst inDeclared
  cases there
  exact ⟨0, by decide⟩

/-- The file a converge shipped and recorded is removed as its own. -/
theorem shipped_removed_own :
    ∃ content count, Node.file "x" = .file content ∧
      count < (emptyHost.run sampleTools shippedSteps).converges ∧
      (count, "/p", content) ∈ (emptyHost.run sampleTools shippedSteps).written := by
  have readsBack : ReadsBack sampleTools
      (emptyHost.run sampleTools shippedSteps).recorded := by
    rw [shippedSteps_run]
    exact sampleTools_readsBack
  have removes : Removes sampleTools (emptyHost.run sampleTools shippedSteps) [] "/p" (.file "x") := by
    rw [shippedSteps_run]
    exact checkedHost_removes _
  exact (removes_own emptyHost_untouched shippedSteps shippedSteps_careful readsBack
    sampleTools_collisionFree removes).2.2

/-- A file another program put at a declared path is recorded as the
converge's own, and removed when the path is withdrawn. -/
theorem found_removed_foreign :
    ¬ ∀ (tools : Tools) (host : Host) (steps : List Step) (declared : List Json)
        (path : String) (node : Node), host.Untouched tools →
        ReadsBack tools (host.run tools steps).recorded →
        Function.Injective tools.sha256 →
        Removes tools (host.run tools steps) declared path node →
        (∀ raw, .str raw ∈ declared →
            tools.place (PyText.strip raw) ≠ tools.place path) ∧
          (∀ taken, claimedNow tools (host.run tools steps).files = .ok taken →
            ∀ claim ∈ taken, tools.place claim ≠ tools.place path) ∧
          ∃ content count, node = .file content ∧
            count < (host.run tools steps).converges ∧
            (count, tools.place path, content) ∈ (host.run tools steps).written := by
  intro claimed
  have atEnd := claimed sampleTools emptyHost foundSteps [] "/p" (.file "x")
    emptyHost_untouched
  rw [foundSteps_run] at atEnd
  obtain ⟨-, -, content, count, -, -, wrote⟩ :=
    atEnd sampleTools_readsBack sampleTools_collisionFree (checkedHost_removes [])
  have other : ("/p" : String) = convergeManifestPath := by
    simp only [checkedHost, recordedHost, List.nil_append, List.mem_singleton, Prod.mk.injEq] at wrote
    exact wrote.2.1
  exact absurd other (by decide)

end Samples

end Converge

end Catena

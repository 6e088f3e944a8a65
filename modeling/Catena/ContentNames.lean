import Catena.ByteLines
import Catena.DispatchText
import Catena.PyTextForms

/-!
# Names by content

A generation of the dispatch path and a shipped tree are named by the digest of
one byte string each.  Both strings put texts of any length one behind another,
and each is read back to one content only: a script ends at its zero byte, a
rendered name list at the end of its line, a path at its zero byte and a file's
digest at its newline.
-/

namespace Catena.Dispatch

open PyText

/-- The byte string `generation` hashes. -/
def Config.hashedBytes (cfg : Config) : ByteLines.Bytes :=
  ByteLines.utf8 cfg.hashed

theorem zero_notMem_text {script : Text} (whole : Char.ofNat 0 ∉ script) :
    Char.ofNat 0 ∉ text script := by
  intro found
  rcases List.mem_append.mp found with inside | last
  · rw [rstrip, List.mem_reverse] at inside
    exact whole (List.mem_reverse.mp ((List.dropWhile_sublist _).subset inside))
  · exact absurd (List.mem_singleton.mp last) (by decide)

theorem text_inj {first second : Text} (same : text first = text second) :
    rstrip '\n' first = rstrip '\n' second :=
  List.append_cancel_right same

theorem passthrough_eq_names {py : Builtins} {cfg : Config}
    (valid : passthroughProblem py cfg.passthrough = Option.none) :
    cfg.passthrough = .arr (cfg.names.map fun name => .str (String.ofList name)) := by
  unfold Config.names
  cases given : cfg.passthrough with
  | arr items =>
      rw [given, passthroughProblem, Option.map_eq_none_iff, List.find?_eq_none] at valid
      congr 1
      clear given
      induction items with
      | nil => rfl
      | cons item rest ih =>
          have later := ih fun other found => valid other (List.mem_cons_of_mem _ found)
          have accepted := valid item (List.mem_cons_self ..)
          cases item with
          | str written => simpa using later
          | _ => simp [refusedName] at accepted
  | _ =>
      rw [given] at valid
      cases valid

/-- A rendered list of names ends with its line. -/
theorem newline_notMem_names {names : List Text}
    (solid : ∀ name ∈ names, name ≠ [] ∧ ∀ character ∈ name, isSpace character = false) :
    '\n' ∉ join [' '] names ++ ['"'] := by
  intro found
  rcases List.mem_append.mp found with inNames | quote
  · rcases mem_join inNames with space | ⟨name, inList, inName⟩
    · exact absurd (List.mem_singleton.mp space) (by decide)
    · exact absurd ((solid name inList).2 '\n' inName) (by decide)
  · exact absurd (List.mem_singleton.mp quote) (by decide)

theorem sudoRule_shape (user dispatcher : Text) (names : List Text) (after : Text) :
    sudoRule user dispatcher names ++ after =
      header ++ ("# The runner account may run this generation's dispatcher as root, with no\n" ++
        "# password and no tty, keeping the dispatch variables sshd accepted for it.\n" ++
        "Defaults:").toList ++
      (user ++ ' ' :: ("!requiretty\n".toList ++ "Defaults:".toList ++ user ++
        " env_keep += \"".toList ++ ((join [' '] names ++ ['"']) ++ '\n' ::
          (user ++ " ALL=(root) NOPASSWD: ".toList ++ dispatcher ++ '\n' :: after)))) := by
  have option : " !requiretty\n".toList = ' ' :: "!requiretty\n".toList := rfl
  have closing : "\"\n".toList = ['"', '\n'] := rfl
  simp only [sudoRule, option, closing, List.append_assoc, List.cons_append, List.nil_append]

/-- A sudo rule and what follows it tell the account and the names. -/
theorem sudoRule_inj {firstUser secondUser dispatcher : Text} {first second : List Text}
    {rest others : Text} (firstSpaceless : ' ' ∉ firstUser) (secondSpaceless : ' ' ∉ secondUser)
    (firstSolid : ∀ name ∈ first, name ≠ [] ∧ ∀ character ∈ name, isSpace character = false)
    (secondSolid : ∀ name ∈ second, name ≠ [] ∧ ∀ character ∈ name, isSpace character = false)
    (same : sudoRule firstUser dispatcher first ++ rest =
      sudoRule secondUser dispatcher second ++ others) :
    firstUser = secondUser ∧ first = second := by
  rw [sudoRule_shape, sudoRule_shape] at same
  obtain ⟨users, after⟩ := ended_inj firstSpaceless secondSpaceless
    (List.append_cancel_left same)
  rw [users] at after
  have lists := (ended_inj (newline_notMem_names firstSolid) (newline_notMem_names secondSolid)
    (List.append_cancel_left after)).1
  have names : first = second := by
    rw [← words_join firstSolid, List.append_cancel_right lists, words_join secondSolid]
  exact ⟨users, names⟩

/-- A generation's byte string tells its scripts up to trailing newlines, the
account and the passthrough names. -/
theorem hashedBytes_inj {py : Builtins} {first second : Config}
    (firstValid : passthroughProblem py first.passthrough = Option.none)
    (secondValid : passthroughProblem py second.passthrough = Option.none)
    (firstWhole : Char.ofNat 0 ∉ first.entry ∧ Char.ofNat 0 ∉ first.dispatcher)
    (secondWhole : Char.ofNat 0 ∉ second.entry ∧ Char.ofNat 0 ∉ second.dispatcher)
    (firstSpaceless : ' ' ∉ first.runnerUser) (secondSpaceless : ' ' ∉ second.runnerUser)
    (same : first.hashedBytes = second.hashedBytes) :
    rstrip '\n' first.entry = rstrip '\n' second.entry ∧
      rstrip '\n' first.dispatcher = rstrip '\n' second.dispatcher ∧
      first.runnerUser = second.runnerUser ∧ first.passthrough = second.passthrough := by
  have hashed : first.hashed = second.hashed := ByteLines.utf8_injective same
  simp only [Config.hashed, List.flatMap_cons, List.append_assoc, List.singleton_append]
    at hashed
  obtain ⟨entries, afterEntry⟩ := ended_inj (zero_notMem_text firstWhole.1)
    (zero_notMem_text secondWhole.1) hashed
  obtain ⟨dispatchers, afterScripts⟩ := ended_inj (zero_notMem_text firstWhole.2)
    (zero_notMem_text secondWhole.2) afterEntry
  obtain ⟨users, names⟩ := sudoRule_inj firstSpaceless secondSpaceless
    (names_solid firstValid) (names_solid secondValid) afterScripts
  refine ⟨text_inj entries, text_inj dispatchers, users, ?_⟩
  rw [passthrough_eq_names firstValid, passthrough_eq_names secondValid, names]

end Catena.Dispatch

namespace Catena.TreeHash

open ByteLines (Bytes utf8)

def sortedPaths (paths : List String) : List String :=
  paths.mergeSort fun first second => decide (first ≤ second)

/-- `shipped_files`, of what `git ls-files -z` printed and of whether a path is
there. -/
def shippedFiles (listed : List Char) (present : String → Bool) : List String :=
  sortedPaths (((PyText.splitOn (Char.ofNat 0) listed).map String.ofList).filter fun path =>
    path ≠ "" && !("ansible/tests/".toList.isPrefixOf path.toList) && present path)

section Hash

variable (sha256 : Bytes → List Char)

def fileLine (path : String) (content : Bytes) : List Char :=
  path.toList ++ Char.ofNat 0 :: (sha256 content ++ ['\n'])

/-- The byte string `content_hash` hashes. -/
def hashedBytes (read : String → Except PyError Bytes) (paths : List String) :
    Except PyError Bytes :=
  ((sortedPaths paths).mapM fun path =>
    (read path).map fun content => utf8 (fileLine sha256 path content)).map List.flatten

def contentHash (read : String → Except PyError Bytes) (paths : List String) :
    Except PyError (List Char) :=
  (hashedBytes sha256 read paths).map sha256

/-- The files of a map, read by path. -/
def readFrom (files : PyDict String Bytes) (path : String) : Except PyError Bytes :=
  match PyDict.get files path with
  | some content => .ok content
  | none => .error .osError

/-- A map whose paths hold no zero byte and come once each. -/
structure IsTree (files : PyDict String Bytes) : Prop where
  nodup : (PyDict.keys files).Nodup
  whole : ∀ path ∈ PyDict.keys files, Char.ofNat 0 ∉ path.toList

variable {sha256} {files others : PyDict String Bytes} {paths : List String}

theorem sortedPaths_perm (paths : List String) : (sortedPaths paths).Perm paths :=
  List.mergeSort_perm _ _

/-- Sorting forgets the order the paths were given in. -/
theorem sortedPaths_eq_of_perm {first second : List String} (perm : first.Perm second) :
    sortedPaths first = sortedPaths second := by
  have sorted (paths : List String) : (sortedPaths paths).Pairwise (· ≤ ·) :=
    List.pairwise_mergeSort' (· ≤ ·) paths
  have joined := (sortedPaths_perm first).trans (perm.trans (sortedPaths_perm second).symm)
  exact joined.eq_of_pairwise' (sorted first) (sorted second)

theorem hashedBytes_readFrom (given : paths.Perm (PyDict.keys files)) :
    hashedBytes sha256 (readFrom files) paths = .ok (utf8 ((sortedPaths paths).flatMap
      fun path => fileLine sha256 path ((PyDict.get files path).getD []))) := by
  have inside : ∀ path ∈ sortedPaths paths, path ∈ PyDict.keys files := fun path found =>
    given.subset ((sortedPaths_perm paths).subset found)
  have lines (listed : List String) (known : ∀ path ∈ listed, path ∈ PyDict.keys files) :
      (listed.mapM fun path => (readFrom files path).map fun content =>
        utf8 (fileLine sha256 path content)) = .ok (listed.map fun path =>
          utf8 (fileLine sha256 path ((PyDict.get files path).getD []))) := by
    induction listed with
    | nil => rfl
    | cons path rest ih =>
        obtain ⟨content, found⟩ := PyDict.get_of_mem_keys (known path (List.mem_cons_self ..))
        have later := ih fun other member => known other (List.mem_cons_of_mem _ member)
        have read : readFrom files path = .ok content := by
          rw [readFrom, found]
        rw [List.mapM_cons, read, later, List.map_cons, found]
        rfl
  rw [hashedBytes, lines _ inside, Except.map, utf8, List.flatMap_assoc, List.flatMap_def]
  rfl

/-- Lines read one after another tell their paths and digests. -/
theorem lines_inj {first second : List String} {contents held : String → Bytes}
    (digestsWhole : ∀ content, '\n' ∉ sha256 content)
    (firstWhole : ∀ path ∈ first, Char.ofNat 0 ∉ path.toList)
    (secondWhole : ∀ path ∈ second, Char.ofNat 0 ∉ path.toList)
    (same : (first.flatMap fun path => fileLine sha256 path (contents path)) =
      second.flatMap fun path => fileLine sha256 path (held path)) :
    first = second ∧ ∀ path ∈ first, sha256 (contents path) = sha256 (held path) := by
  induction first generalizing second with
  | nil =>
      cases second with
      | nil => simp
      | cons path rest => simp [fileLine] at same
  | cons path rest ih =>
      cases second with
      | nil => simp [fileLine] at same
      | cons other more =>
          simp only [List.flatMap_cons, fileLine, List.append_assoc, List.cons_append,
            List.nil_append] at same
          obtain ⟨paths, afterPath⟩ := PyText.ended_inj (firstWhole path (List.mem_cons_self ..))
            (secondWhole other (List.mem_cons_self ..)) same
          obtain ⟨digests, afterLine⟩ := PyText.ended_inj (digestsWhole _) (digestsWhole _)
            afterPath
          obtain ⟨later, held⟩ := ih
            (fun path found => firstWhole path (List.mem_cons_of_mem _ found))
            (fun path found => secondWhole path (List.mem_cons_of_mem _ found)) afterLine
          obtain rfl := String.toList_inj.mp paths
          refine ⟨by rw [later], ?_⟩
          intro wanted found
          rcases List.mem_cons.mp found with rfl | inRest
          · exact digests
          · exact held wanted inRest

theorem keys_perm_of_get_eq (tree : IsTree files) (otherTree : IsTree others)
    (same : ∀ path, PyDict.get files path = PyDict.get others path) :
    (PyDict.keys files).Perm (PyDict.keys others) := by
  rw [List.perm_ext_iff_of_nodup tree.nodup otherTree.nodup]
  intro path
  rw [← not_iff_not, ← PyDict.get_eq_none_iff, ← PyDict.get_eq_none_iff, same]

/-- Two trees are hashed from one byte string exactly where they hold the same
files, in whatever order their paths are given. -/
theorem hashedBytes_eq_iff {otherPaths : List String}
    (digestsWhole : ∀ content, '\n' ∉ sha256 content)
    (tree : IsTree files) (otherTree : IsTree others)
    (apart : ∀ path content other, PyDict.get files path = some content →
      PyDict.get others path = some other → sha256 content = sha256 other → content = other)
    (given : paths.Perm (PyDict.keys files)) (otherGiven : otherPaths.Perm (PyDict.keys others)) :
    hashedBytes sha256 (readFrom files) paths = hashedBytes sha256 (readFrom others) otherPaths ↔
      ∀ path, PyDict.get files path = PyDict.get others path := by
  rw [hashedBytes_readFrom given, hashedBytes_readFrom otherGiven]
  have whole {files : PyDict String Bytes} {paths : List String} (tree : IsTree files)
      (given : paths.Perm (PyDict.keys files)) :
      ∀ path ∈ sortedPaths paths, Char.ofNat 0 ∉ path.toList := fun path found =>
    tree.whole path (given.subset ((sortedPaths_perm paths).subset found))
  constructor
  · intro hashed path
    obtain ⟨paths_eq, digests⟩ := lines_inj digestsWhole (whole tree given)
      (whole otherTree otherGiven) (ByteLines.utf8_injective (Except.ok.inj hashed))
    have keys : path ∈ PyDict.keys files ↔ path ∈ PyDict.keys others := by
      rw [← given.mem_iff, ← (sortedPaths_perm paths).mem_iff, paths_eq,
        (sortedPaths_perm otherPaths).mem_iff, otherGiven.mem_iff]
    by_cases inside : path ∈ PyDict.keys files
    · obtain ⟨content, found⟩ := PyDict.get_of_mem_keys inside
      obtain ⟨other, otherFound⟩ := PyDict.get_of_mem_keys (keys.mp inside)
      have digest := digests path
        ((sortedPaths_perm paths).mem_iff.mpr (given.mem_iff.mpr inside))
      rw [found, otherFound] at digest
      rw [found, otherFound, apart path content other found otherFound digest]
    · rw [(PyDict.get_eq_none_iff files path).mpr inside,
        (PyDict.get_eq_none_iff others path).mpr fun found => inside (keys.mpr found)]
  · intro same
    have paths_eq : sortedPaths paths = sortedPaths otherPaths :=
      sortedPaths_eq_of_perm (given.trans
        ((keys_perm_of_get_eq tree otherTree same).trans otherGiven.symm))
    rw [paths_eq]
    simp only [same]

end Hash

end Catena.TreeHash

namespace Catena

/-- A generation's byte string is that of one pair of scripts, up to trailing
newlines, and one passthrough list; a tree's byte string is that of one map of
paths to contents, in whatever order the paths are given. -/
theorem names_by_content_are_of_one_content :
    (∀ (py : Builtins) (first second : Dispatch.Config),
      Dispatch.passthroughProblem py first.passthrough = none →
      Dispatch.passthroughProblem py second.passthrough = none →
      Char.ofNat 0 ∉ first.entry ∧ Char.ofNat 0 ∉ first.dispatcher →
      Char.ofNat 0 ∉ second.entry ∧ Char.ofNat 0 ∉ second.dispatcher →
      ' ' ∉ first.runnerUser → ' ' ∉ second.runnerUser →
      first.hashedBytes = second.hashedBytes →
        PyText.rstrip '\n' first.entry = PyText.rstrip '\n' second.entry ∧
        PyText.rstrip '\n' first.dispatcher = PyText.rstrip '\n' second.dispatcher ∧
        first.runnerUser = second.runnerUser ∧ first.passthrough = second.passthrough) ∧
    (∀ (sha256 : ByteLines.Bytes → List Char) (files others : PyDict String ByteLines.Bytes)
        (paths otherPaths : List String),
      (∀ content, '\n' ∉ sha256 content) →
      TreeHash.IsTree files → TreeHash.IsTree others →
      (∀ path content other, PyDict.get files path = some content →
        PyDict.get others path = some other → sha256 content = sha256 other →
          content = other) →
      paths.Perm (PyDict.keys files) → otherPaths.Perm (PyDict.keys others) →
        (∃ bytes, TreeHash.hashedBytes sha256 (TreeHash.readFrom files) paths = .ok bytes) ∧
        (TreeHash.hashedBytes sha256 (TreeHash.readFrom files) paths =
            TreeHash.hashedBytes sha256 (TreeHash.readFrom others) otherPaths ↔
          ∀ path, PyDict.get files path = PyDict.get others path)) := by
  constructor
  · intro py first second firstValid secondValid firstWhole secondWhole firstSpaceless
      secondSpaceless same
    exact Dispatch.hashedBytes_inj firstValid secondValid firstWhole secondWhole firstSpaceless
      secondSpaceless same
  · intro sha256 files others paths otherPaths digestsWhole tree otherTree apart given otherGiven
    constructor
    · exact ⟨_, TreeHash.hashedBytes_readFrom given⟩
    · exact TreeHash.hashedBytes_eq_iff digestsWhole tree otherTree apart given otherGiven

/-- A request whose scripts end in so many newlines. -/
def sampleRequest (newlines : Nat) : Dispatch.Config where
  runnerUser := "catena-admin-runner".toList
  runnerHome := "/home/catena-admin-runner".toList
  panelKeyDir := "/etc/catena/panel".toList
  link := "/usr/local/bin/catena-dispatch".toList
  passthrough := .arr [.str "X_FORWARDED_EMAIL", .str "CATENA_OPERATION"]
  entry := "exec sudo\nexit".toList ++ List.replicate newlines '\n'
  dispatcher := "exit".toList ++ List.replicate newlines '\n'

/-- The digests of an empty file and of one that holds the letter a. -/
def sampleDigest (content : ByteLines.Bytes) : List Char :=
  if content = [] then
    "e3b0c44298fc1c149afbf4c8996fb92427ae41e4649b934ca495991b7852b855".toList
  else if content = [97] then
    "ca978112ca1bbdcafac231b39a23dc4da786eff8147c4e72b9807785afee48bb".toList
  else []

def sampleTree : PyDict String ByteLines.Bytes :=
  [("ansible/seed.py", [97]), ("ansible/empty.yml", [])]

def sampleSame : PyDict String ByteLines.Bytes :=
  [("ansible/empty.yml", []), ("ansible/seed.py", [97])]

theorem sample_names_by_content :
    PyText.rstrip '\n' (sampleRequest 2).entry = PyText.rstrip '\n' (sampleRequest 1).entry ∧
      (TreeHash.hashedBytes sampleDigest (TreeHash.readFrom sampleTree)
          ["ansible/seed.py", "ansible/empty.yml"] =
          TreeHash.hashedBytes sampleDigest (TreeHash.readFrom sampleSame)
            ["ansible/seed.py", "ansible/empty.yml"] ↔
        ∀ path, PyDict.get sampleTree path = PyDict.get sampleSame path) := by
  have whole : ∀ content, '\n' ∉ sampleDigest content := by
    intro content
    unfold sampleDigest
    split
    · decide
    · split
      · decide
      · exact List.not_mem_nil
  have tree : TreeHash.IsTree sampleTree := by
    constructor <;> decide
  have same : TreeHash.IsTree sampleSame := by
    constructor <;> decide
  have hashed : (sampleRequest 2).hashedBytes = (sampleRequest 1).hashedBytes := by
    have entries : Dispatch.text (sampleRequest 2).entry =
        Dispatch.text (sampleRequest 1).entry := by decide
    have dispatchers : Dispatch.text (sampleRequest 2).dispatcher =
        Dispatch.text (sampleRequest 1).dispatcher := by decide
    rw [Dispatch.Config.hashedBytes, Dispatch.Config.hashedBytes, Dispatch.Config.hashed,
      Dispatch.Config.hashed, entries, dispatchers]
    rfl
  constructor
  · exact (names_by_content_are_of_one_content.1 Builtins.unused (sampleRequest 2)
      (sampleRequest 1) (by decide) (by decide) (by decide) (by decide) (by decide) (by decide)
      hashed).1
  · apply (names_by_content_are_of_one_content.2 sampleDigest sampleTree sampleSame _ _ whole
      tree same _ (List.Perm.refl _) (by decide)).2
    intro path content other found otherFound _
    have inside := PyDict.mem_of_get found
    simp only [sampleTree, List.mem_cons, Prod.mk.injEq, List.not_mem_nil, or_false] at inside
    rcases inside with ⟨rfl, rfl⟩ | ⟨rfl, rfl⟩
    · have held : PyDict.get sampleSame "ansible/seed.py" = some [97] := by decide
      exact Option.some.inj (held.symm.trans otherFound)
    · have held : PyDict.get sampleSame "ansible/empty.yml" = some [] := by decide
      exact Option.some.inj (held.symm.trans otherFound)

end Catena

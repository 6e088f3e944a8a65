import Catena.FetchOutcome

/-!
# How `fetch` can end

Either nothing has changed; or the trees of the image stand at the requested paths
and `IMAGE` names it; or a link in `dest` lies in the way of a requested path, and
the paths before that one have been replaced.
-/

namespace Catena.Fetch

open PyText Posix ByteLines

theorem nodup_eraseDups {α : Type} [BEq α] [LawfulBEq α] (items : List α) :
    items.eraseDups.Nodup := by
  induction size : items.length using Nat.strong_induction_on generalizing items with
  | _ bound ih =>
      cases items with
      | nil => exact List.nodup_nil
      | cons first rest =>
          rw [List.eraseDups_cons, List.nodup_cons]
          have shorter := List.length_filter_le (fun item => !item == first) rest
          constructor
          · rw [List.mem_eraseDups]
            simp
          · apply ih _ _ _ rfl
            rw [List.length_cons] at size
            omega

theorem requested_ok {py : Builtins} {paths : List Name} {out : List Path}
    (read : requested py paths = .ok out) :
    ∀ path ∈ out, path ≠ [] ∧ ∀ name ∈ path, Proper name := by
  induction paths generalizing out with
  | nil =>
      cases read
      simp
  | cons raw rest ih =>
      rw [requested] at read
      split at read
      · cases read
      · rename_i allowed
        obtain ⟨nonempty, notUpper⟩ := not_or.mp allowed
        cases further : requested py rest with
        | error failure =>
            rw [further] at read
            cases read
        | ok later =>
            rw [further] at read
            cases read
            intro path listed
            rcases List.mem_cons.mp listed with rfl | found
            · refine ⟨nonempty, ?_⟩
              intro name inside
              obtain ⟨_, kept⟩ := List.mem_filter.mp inside
              have named : name ≠ [] ∧ name ≠ current := by simpa using kept
              refine ⟨named.1, named.2, ?_⟩
              rintro rfl
              exact notUpper inside
            · exact ih further path found

/-- `_prefixes` leaves paths of which none is in another. -/
theorem requests_of_prefixes {py : Builtins} {paths : List Name} {starts : List Path}
    {staging : Name} (read : prefixes py paths = .ok starts) (named : Proper staging)
    (apart : ∀ start ∈ starts, ¬ [staging] <+: start) : Requests staging starts := by
  unfold prefixes at read
  cases listed : requested py paths with
  | error failure =>
      rw [listed] at read
      cases read
  | ok out =>
      rw [listed] at read
      cases read
      have found := requested_ok listed
      refine ⟨named, ?_, ?_, apart, ?_⟩
      · intro start kept
        exact (found start (List.mem_eraseDups.mp (List.mem_of_mem_filter kept))).1
      · intro start kept
        exact (found start (List.mem_eraseDups.mp (List.mem_of_mem_filter kept))).2
      · have distinct := (nodup_eraseDups out).filter fun path =>
          decide (¬ ∃ other ∈ out, other ≠ path ∧ other <+: path)
        refine List.Pairwise.imp_of_mem ?_ distinct
        intro first second firstKept secondKept differ
        obtain ⟨firstListed, firstFree⟩ := List.mem_filter.mp firstKept
        obtain ⟨secondListed, secondFree⟩ := List.mem_filter.mp secondKept
        simp only [decide_eq_true_eq] at firstFree secondFree
        constructor
        · exact fun under => secondFree ⟨first, List.mem_eraseDups.mp firstListed, differ, under⟩
        · exact fun under =>
            firstFree ⟨second, List.mem_eraseDups.mp secondListed, differ.symm, under⟩

section Join

variable {dest sub : Path} {fs tree after inner : Fs}

theorem Based.retree (based : Based dest fs tree) {next : Fs}
    (same : ∀ path, PyDict.get next path = PyDict.get tree path) : Based dest fs next :=
  ⟨based.real, based.nonempty, fun rel => (based.same rel).trans (same rel).symm,
    based.wellFormed.congr same⟩

/-- The whole tree, after what is inside it has changed. -/
theorem Based.join (based : Based dest fs tree) (holds : Holds tree sub)
    (within : Based (dest ++ sub) after inner) (outside : Outside (dest ++ sub) fs after) :
    ∃ next, Based dest after next ∧ (∀ rel, PyDict.get next (sub ++ rel) = PyDict.get inner rel) ∧
      ∀ path, ¬ sub <+: path → PyDict.get next path = PyDict.get tree path := by
  have below (rel : Path) : PyDict.get (subtree after dest) (sub ++ rel) = PyDict.get inner rel := by
    rw [get_subtree, ← List.append_assoc, within.same]
  have beside (path : Path) (apart : ¬ sub <+: path) :
      PyDict.get (subtree after dest) path = PyDict.get tree path := by
    rw [get_subtree, outside, based.same]
    exact fun under => apart ((List.prefix_append_right_inj dest).mp under)
  have real : Real after dest := by
    refine ⟨based.real.proper, ?_⟩
    intro parent under other
    rw [isDir_congr (outside parent _)]
    · exact based.real.parents parent under other
    · intro above
      have bound := (above.trans under).length_le
      rw [List.length_append] at bound
      exact holds.nonempty (List.length_eq_zero_iff.mp (by omega))
  refine ⟨subtree after dest, ⟨real, based.nonempty, fun rel => (get_subtree ..).symm, ?_⟩,
    below, beside⟩
  refine ⟨?_, ?_, ?_⟩
  · intro path present name listed
    by_cases under : sub <+: path
    · obtain ⟨rel, rfl⟩ := under
      rw [below] at present
      rcases List.mem_append.mp listed with inSub | inRel
      · exact holds.proper name inSub
      · exact within.wellFormed.proper rel present name inRel
    · rw [beside path under] at present
      exact based.wellFormed.proper path present name listed
  · intro path name present
    by_cases under : sub <+: path
    · obtain ⟨rel, rfl⟩ := under
      rw [List.append_assoc, below] at present
      rw [isDir_congr (below rel)]
      exact within.wellFormed.closed rel name present
    · by_cases atSub : path ++ [name] = sub
      · rw [isDir_congr (beside path under)]
        have parent := holds.parent
        rw [← atSub, List.dropLast_concat] at parent
        exact parent
      · have apart : ¬ sub <+: path ++ [name] := by
          intro above
          rcases List.prefix_concat_iff.mp above with whole | inside
          · exact atSub whole.symm
          · exact under inside
        rw [beside _ apart] at present
        rw [isDir_congr (beside path under)]
        exact based.wellFormed.closed path name present
  · intro node held
    rw [beside [] (by simpa using holds.nonempty)] at held
    exact based.wellFormed.root node held

end Join

/-- A file is taken away. -/
theorem WellFormed.erase {tree : Fs} (wellFormed : WellFormed tree) {path : Path}
    (notDir : isDir tree path = false) : WellFormed (PyDict.erase tree path) where
  proper other present := by
    rw [PyDict.get_erase] at present
    split at present
    · exact absurd rfl present
    · exact wellFormed.proper other present
  closed other name present := by
    rw [PyDict.get_erase] at present
    split at present
    · exact absurd rfl present
    · have directory := wellFormed.closed other name present
      have differs : path ≠ other := by
        rintro rfl
        rw [directory] at notDir
        cases notDir
      rw [isDir, PyDict.get_erase, if_neg differs]
      exact directory
  root node held := by
    rw [PyDict.get_erase] at held
    split at held
    · cases held
    · exact wellFormed.root node held

theorem Based.erase_entry {dest : Path} {fs tree : Fs} (based : Based dest fs tree) {path : Path}
    (notDir : isDir tree path = false) : Outside dest fs (PyDict.erase fs (dest ++ path)) ∧
    Based dest (PyDict.erase fs (dest ++ path)) (PyDict.erase tree path) := by
  have outside : Outside dest fs (PyDict.erase fs (dest ++ path)) := by
    intro other apart
    rw [PyDict.get_erase, if_neg]
    rintro rfl
    exact apart (List.prefix_append ..)
  refine ⟨outside, based.inside outside ?_ (based.wellFormed.erase notDir)⟩
  intro rel
  rw [PyDict.get_erase, PyDict.get_erase, based.same]
  simp only [List.append_cancel_left_eq]

/-- What writing `IMAGE` leaves: it is there, or a directory is in its place. -/
structure Records (dest : Path) (fs tree : Fs) (staging : Name) (text : Bytes)
    (outcome : Except Failure Unit × World) (after : Fs) : Prop where
  outside : Outside dest fs outcome.2.fs
  based : Based dest outcome.2.fs after
  root : isDir after [] = true
  present : isDir after [staging] = true
  elsewhere : ∀ path, ¬ [staging] <+: path → path ≠ [imageName] →
    PyDict.get after path = PyDict.get tree path
  ends : outcome.1 = .ok () ∧ isDir tree [imageName] = false ∧
      (∃ mode, PyDict.get after [imageName] = some (.file text mode)) ∨
    outcome.1 = .error (.os .isDirectory) ∧ isDir tree [imageName] = true ∧
      PyDict.get after [imageName] = PyDict.get tree [imageName]

theorem proper_imageName : Proper imageName := by
  decide

theorem Based.record_run [Process] {dest : Path} {world : World} {tree : Fs}
    (based : Based dest world.fs tree) {staging : Name} (named : Proper staging)
    (differ : staging ≠ imageName) (root : isDir tree [] = true)
    (present : isDir tree [staging] = true)
    (absent : PyDict.get tree [staging, imageName] = none) (text : Bytes) :
    ∃ after, Records dest world.fs tree staging text ((do
      Online.onDisk (alter fun fs => writeFile fs (dest ++ [staging] ++ [imageName]) text)
      Online.onDisk (alter fun fs => replace fs (dest ++ [staging] ++ [imageName])
        (dest ++ [imageName]))) world) after := by
  have whole : dest ++ [staging] ++ [imageName] = dest ++ ([staging] ++ [imageName]) :=
    List.append_assoc ..
  have properSource : ∀ name ∈ [staging] ++ [imageName], Proper name := by
    intro name found
    rcases List.mem_append.mp found with first | last
    · rw [List.mem_singleton.mp first]
      exact named
    · rw [List.mem_singleton.mp last]
      exact proper_imageName
  have reached : reaches tree [] [staging] = true :=
    @WellFormed.reaches_of_isDir tree based.wellFormed [] [staging] present
  have sourceReal := based.real_entry root reached properSource
  have absentFs : PyDict.get world.fs (dest ++ ([staging] ++ [imageName])) = none := by
    rw [based.same]
    exact absent
  have notDir : isDir tree ([staging] ++ [imageName]) = false := by
    have isAbsent : PyDict.get tree ([staging] ++ [imageName]) = none := absent
    rw [isDir, isAbsent]
  have written := writeFile_none sourceReal (by simp) absentFs text
  obtain ⟨outsideFirst, basedFirst⟩ := @Based.set_entry dest world.fs tree based [staging]
    imageName (.file text (masked 0o666)) present properSource (Or.inr notDir)
  have heldFirst : PyDict.get (PyDict.set world.fs (dest ++ ([staging] ++ [imageName]))
      (.file text (masked 0o666))) (dest ++ ([staging] ++ [imageName])) = some (.file text (masked 0o666)) :=
    PyDict.get_set_same ..
  have keptFirst {path : Path} (other : [staging] ++ [imageName] ≠ path) :
      PyDict.get (PyDict.set tree ([staging] ++ [imageName]) (.file text (masked 0o666))) path =
        PyDict.get tree path := PyDict.get_set_ne tree _ other
  have rootFirst : isDir (PyDict.set tree ([staging] ++ [imageName]) (.file text (masked 0o666))) [] =
      true := by
    rw [isDir_congr (keptFirst (by simp))]
    exact root
  have presentFirst : isDir (PyDict.set tree ([staging] ++ [imageName]) (.file text (masked 0o666)))
      [staging] = true := by
    rw [isDir_congr (keptFirst (by simp))]
    exact present
  have imageApart : [staging] ++ [imageName] ≠ [imageName] := by simp
  have placed : PyDict.get (PyDict.set tree ([staging] ++ [imageName]) (.file text (masked 0o666)))
      ([staging] ++ [imageName]) ≠ none := by
    rw [PyDict.get_set_same]
    exact Option.some_ne_none _
  have sourceNext := basedFirst.real_present rootFirst placed
  have targetNext : Real (PyDict.set world.fs (dest ++ ([staging] ++ [imageName]))
      (.file text (masked 0o666))) (dest ++ ([] ++ [imageName])) :=
    basedFirst.real_entry rootFirst rfl (by
      intro name found
      rw [List.mem_singleton.mp found]
      exact proper_imageName)
  rw [List.nil_append] at targetNext
  have replaced := replace_real sourceNext targetNext heldFirst
  have sameDir : isDir (PyDict.set world.fs (dest ++ ([staging] ++ [imageName]))
      (.file text (masked 0o666))) (dest ++ [imageName]) = isDir tree [imageName] := by
    rw [isDir_congr (basedFirst.same [imageName]), isDir_congr (keptFirst imageApart)]
  rw [sameDir] at replaced
  rw [whole, Online.bind_apply, onDisk_alter written]
  dsimp only
  cases directory : isDir tree [imageName] with
  | true =>
      rw [directory, if_pos rfl] at replaced
      have failed : Online.onDisk (alter fun fs => replace fs (dest ++ ([staging] ++ [imageName]))
          (dest ++ [imageName])) ⟨world.asks, PyDict.set world.fs
            (dest ++ ([staging] ++ [imageName])) (.file text (masked 0o666))⟩ =
          (.error (.os .isDirectory), ⟨world.asks, PyDict.set world.fs
            (dest ++ ([staging] ++ [imageName])) (.file text (masked 0o666))⟩) := by
        simp only [Online.onDisk, alter, replaced]
      rw [failed]
      refine ⟨_, outsideFirst, basedFirst, rootFirst, presentFirst, ?_,
        Or.inr ⟨rfl, directory, keptFirst imageApart⟩⟩
      intro path apart _
      apply keptFirst
      rintro rfl
      exact apart (List.prefix_append ..)
  | false =>
      rw [directory, if_neg (by simp)] at replaced
      have notDirFirst : isDir (PyDict.set tree ([staging] ++ [imageName]) (.file text (masked 0o666)))
          ([staging] ++ [imageName]) = false := by
        rw [isDir, PyDict.get_set_same]
        rfl
      obtain ⟨outsideErased, basedErased⟩ := basedFirst.erase_entry notDirFirst
      have keptErased {path : Path} (other : [staging] ++ [imageName] ≠ path) :
          PyDict.get (PyDict.erase (PyDict.set tree ([staging] ++ [imageName])
            (.file text (masked 0o666))) ([staging] ++ [imageName])) path = PyDict.get tree path := by
        rw [PyDict.get_erase, if_neg other]
        exact keptFirst other
      have rootErased : isDir (PyDict.erase (PyDict.set tree ([staging] ++ [imageName])
          (.file text (masked 0o666))) ([staging] ++ [imageName])) [] = true := by
        rw [isDir_congr (keptErased (by simp))]
        exact root
      have notDirImage : isDir (PyDict.erase (PyDict.set tree ([staging] ++ [imageName])
          (.file text (masked 0o666))) ([staging] ++ [imageName])) ([] ++ [imageName]) = false := by
        rw [List.nil_append, isDir_congr (keptErased imageApart)]
        exact directory
      obtain ⟨outsideLast, basedLast⟩ := @Based.set_entry dest _ _ basedErased [] imageName
        (.file text (masked 0o666)) rootErased (by
          intro name found
          rw [List.mem_singleton.mp found]
          exact proper_imageName) (Or.inr notDirImage)
      rw [List.nil_append] at outsideLast basedLast
      rw [onDisk_alter replaced]
      refine ⟨_, outsideFirst.trans (outsideErased.trans outsideLast), basedLast, ?_, ?_, ?_,
        Or.inl ⟨rfl, directory, _, PyDict.get_set_same ..⟩⟩
      · rw [isDir_congr (PyDict.get_set_ne _ _ (by simp))]
        exact rootErased
      · have other : [imageName] ≠ [staging] := by
          intro same
          exact differ (List.cons.inj same).1.symm
        rw [isDir_congr (PyDict.get_set_ne _ _ other), isDir_congr (keptErased (by simp))]
        exact present
      · intro path apart notImage
        rw [PyDict.get_set_ne _ _ (Ne.symm notImage)]
        apply keptErased
        rintro rfl
        exact apart (List.prefix_append ..)

/-- The directory an image is unpacked in, made in one that is made in `dest`. -/
def treeRoot [Process] (home : Option Node) : Node :=
  made (some (made home 0o700)) 0o777

theorem treeRoot_congr [Process] {home other : Option Node}
    (alike : inherited home = inherited other) : treeRoot home = treeRoot other := by
  simp only [treeRoot, made, alike]

theorem plain_treeRoot [Process] (home : Option Node) : Node.Plain home (treeRoot home) := by
  apply plain_made
  right
  rw [inherited_made]

/-- The tree an image has at the requested paths, and the modes of its directories:
made of bodies that hash to the digests of its layers, with links that stay inside. -/
structure ImageTree [Process] (tools : Tools) (network : Network) (home : Option Node)
    (starts : List Path) (layers : List LayerRef) (image : Fs) (modes : PyDict Path Nat) :
    Prop where
  made : ∃ bodies, Bodies tools network layers bodies ∧
    layersTree tools.py starts (archives tools layers bodies) ([([], treeRoot home)], []) =
      some (image, modes)
  directories : ∀ start ∈ starts, isDir image start = true
  checked : ∃ base fs, Based base fs image ∧ Checked base fs image

/-- What stands in `dest` outside the staging directory, once the trees of some of
the requested paths have been replaced. -/
structure Replaced (fresh : Name) (starts moved kept : List Path) (image : Fs)
    (modes : PyDict Path Nat) (tree after : Fs) : Prop where
  split : starts = moved ++ kept
  free : ∀ start ∈ moved, ¬ Blocked tree start.dropLast
  inPlace : ∀ start ∈ moved, ∀ more, PyDict.get after (start ++ more) =
    chmodded modes (start ++ more) (PyDict.get image (start ++ more))
  asBefore : ∀ start ∈ kept, ∀ more, PyDict.get after (start ++ more) =
    PyDict.get tree (start ++ more)
  beside : ∀ path, (∀ start ∈ moved, ¬ start <+: path) → ¬ [fresh] <+: path →
    path ≠ [imageName] →
    Stepped (∃ start ∈ moved ++ kept.take 1, path <+: start.dropLast) tree after path

/-- How a run ends, by what stands in `dest` before and after. -/
inductive Ends [Process] (tools : Tools) (network : Network) (fresh : Name) (starts : List Path)
    (layers : List LayerRef) (text : Bytes) (tree after : Fs) : Except Failure Unit → Prop where
  | refused (failure : Failure)
      (same : ∀ path, ¬ [fresh] <+: path → PyDict.get after path = PyDict.get tree path) :
      Ends tools network fresh starts layers text tree after (.error failure)
  | blocked (message : String) (image : Fs) (modes : PyDict Path Nat) (moved : List Path)
      (first : Path) (rest : List Path) (pulled : ImageTree tools network (PyDict.get tree []) starts layers image modes)
      (replaced : Replaced fresh starts moved (first :: rest) image modes tree after)
      (inTheWay : Blocked tree first.dropLast)
      (record : PyDict.get after [imageName] = PyDict.get tree [imageName]) :
      Ends tools network fresh starts layers text tree after (.error (.fetch message))
  | unrecorded (image : Fs) (modes : PyDict Path Nat)
      (pulled : ImageTree tools network (PyDict.get tree []) starts layers image modes)
      (replaced : Replaced fresh starts starts [] image modes tree after)
      (inTheWay : isDir tree [imageName] = true)
      (record : PyDict.get after [imageName] = PyDict.get tree [imageName]) :
      Ends tools network fresh starts layers text tree after (.error (.os .isDirectory))
  | recorded (image : Fs) (modes : PyDict Path Nat) (mode : Nat)
      (pulled : ImageTree tools network (PyDict.get tree []) starts layers image modes)
      (replaced : Replaced fresh starts starts [] image modes tree after)
      (record : PyDict.get after [imageName] = some (.file text mode))
      (links : Otherwise fresh tree → SameLinks image after) :
      Ends tools network fresh starts layers text tree after (.ok ())

/-- A run that fails: nothing has changed, or something in `dest` was in the way. -/
theorem Ends.failed [Process] {tools : Tools} {network : Network} {fresh : Name} {starts : List Path}
    {layers : List LayerRef} {text : Bytes} {tree after : Fs} {failure : Failure}
    (ends : Ends tools network fresh starts layers text tree after (.error failure)) :
    (∀ path, ¬ [fresh] <+: path → PyDict.get after path = PyDict.get tree path) ∨
    ∃ image modes moved kept, ImageTree tools network (PyDict.get tree []) starts layers image modes ∧
      Replaced fresh starts moved kept image modes tree after ∧
      PyDict.get after [imageName] = PyDict.get tree [imageName] ∧
      ((∃ first rest, kept = first :: rest ∧ Blocked tree first.dropLast) ∨
        kept = [] ∧ isDir tree [imageName] = true) := by
  cases ends with
  | refused _ same => exact Or.inl same
  | blocked message image modes moved first rest pulled replaced inTheWay record =>
      exact Or.inr ⟨image, modes, moved, first :: rest, pulled, replaced, record,
        Or.inl ⟨first, rest, rfl, inTheWay⟩⟩
  | unrecorded image modes pulled replaced inTheWay record =>
      exact Or.inr ⟨image, modes, starts, [], pulled, replaced, record, Or.inr ⟨rfl, inTheWay⟩⟩

/-- `dest` is a real directory, with nothing at the name of the staging directory. -/
structure Home (dest : Path) (fs tree : Fs) (fresh : Name) : Prop where
  based : Based dest fs tree
  root : isDir tree [] = true
  named : Proper fresh
  free : PyDict.get tree [fresh] = none
  notImage : fresh ≠ imageName

/-- What a part leaves: its staging directory, and once that is gone an end. -/
structure Finishes (dest : Path) (fs : Fs) (fresh : Name) (outcome : Except Failure Unit × World)
    (ends : Fs → Except Failure Unit → Prop) : Prop where
  outside : Outside dest fs outcome.2.fs
  real : Real outcome.2.fs (dest ++ [fresh])
  directory : isDir outcome.2.fs (dest ++ [fresh]) = true
  after : ∃ after, Based dest (prune outcome.2.fs (dest ++ [fresh])) after ∧
    (∀ path, [fresh] <+: path → PyDict.get after path = none) ∧ ends after outcome.1

/-- The staging directory is gone. -/
theorem Based.prune_staging {dest : Path} {fs tree : Fs} (based : Based dest fs tree)
    (fresh : Name) : Based dest (prune fs (dest ++ [fresh])) (prune tree [fresh]) := by
  have outside : Outside dest fs (prune fs (dest ++ [fresh])) := by
    intro path apart
    rw [get_prune, if_neg fun under => apart ((List.prefix_append ..).trans under)]
  apply based.inside outside _ (based.wellFormed.prune [fresh])
  intro rel
  rw [get_prune, get_prune, based.same]
  simp only [List.prefix_append_right_inj]

/-- What has changed in the staging directory alone goes with it. -/
theorem Based.prune_outside {dest : Path} {fs after tree : Fs} (based : Based dest fs tree)
    {fresh : Name} (outside : Outside (dest ++ [fresh]) fs after) :
    Based dest (prune after (dest ++ [fresh])) (prune tree [fresh]) := by
  have gone := based.prune_staging fresh
  refine ⟨?_, gone.nonempty, ?_, gone.wellFormed⟩
  · refine ⟨based.real.proper, ?_⟩
    intro parent under other
    have apart : ¬ dest ++ [fresh] <+: parent := by
      intro above
      have bound := (above.trans under).length_le
      rw [List.length_append, List.length_singleton] at bound
      omega
    rw [isDir, get_prune, if_neg apart, outside parent apart]
    exact based.real.parents parent under other
  · intro rel
    rw [← gone.same, get_prune, get_prune]
    split
    · rfl
    · rename_i apart
      exact outside _ apart

/-- `dest`, with the tree of an image in its staging directory. -/
structure Ready (dest : Path) (fs tree before image : Fs) (fresh : Name) (starts : List Path) :
    Prop where
  based : Based dest fs tree
  requests : Requests fresh starts
  root : isDir tree [] = true
  present : isDir tree [fresh] = true
  nothing : ∀ name more, name ≠ treeName → PyDict.get tree (fresh :: name :: more) = none
  same : ∀ path, ¬ [fresh] <+: path → PyDict.get tree path = PyDict.get before path
  notImage : fresh ≠ imageName
  imageFree : ∀ start ∈ starts, ¬ [imageName] <+: start
  inner : Based (dest ++ [fresh, treeName]) fs image
  below : ∀ rel, PyDict.get tree (builtAt fresh rel) = PyDict.get image rel

namespace Ready

variable {dest : Path} {fs tree before image : Fs} {fresh : Name} {starts : List Path}
  (ready : Ready dest fs tree before image fresh starts)

include ready

theorem image_apart {start : Path} (listed : start ∈ starts) : Apart start [imageName] := by
  refine ⟨?_, ready.imageFree start listed⟩
  intro under
  rcases List.prefix_cons_iff.mp under with nothing | ⟨rest, whole, _⟩
  · exact ready.requests.nonempty start listed nothing
  · exact ready.imageFree start listed (whole ▸ ⟨rest, rfl⟩)

theorem not_image {start : Path} (listed : start ∈ starts) (more : Path) :
    start ++ more ≠ [imageName] :=
  fun same => (ready.image_apart listed).1 (same ▸ List.prefix_append start more)

theorem image_not_staging : ¬ [fresh] <+: [imageName] := by
  intro under
  exact ready.notImage (List.cons_prefix_cons.mp under).1

theorem prepared {modes : PyDict Path Nat} (keptModes : KeptModes starts modes) :
    Prepared dest fs tree fresh starts modes where
  based := ready.based
  requests := ready.requests
  keptModes := keptModes
  root := ready.root
  present := ready.present
  building node held := ready.inner.wellFormed.root node ((ready.below []).symm.trans held)
  fresh count := ready.nothing _ [] (previous_ne_treeName count)

theorem blocked_iff {start : Path} (listed : start ∈ starts) :
    Blocked tree start.dropLast ↔ Blocked before start.dropLast := by
  have kept {more : Path} (under : more <+: start.dropLast) :
      PyDict.get tree more = PyDict.get before more := by
    apply ready.same
    intro inStaging
    exact ready.requests.apart start listed
      (inStaging.trans (under.trans (List.dropLast_prefix start)))
  constructor
  · rintro ⟨more, under, isLink⟩
    exact ⟨more, under, kept under ▸ isLink⟩
  · rintro ⟨more, under, isLink⟩
    exact ⟨more, under, (kept under).symm ▸ isLink⟩

/-- What has been moved, once the staging directory is gone and `IMAGE` written. -/
theorem replaced {modes : PyDict Path Nat} {result : Except Failure Unit}
    {after final : Fs} {moved kept : List Path}
    (partly : Partly fresh starts
      (fun path => chmodded modes path (PyDict.get tree (builtAt fresh path)))
      tree after result moved kept)
    (ends : ∀ path, ¬ [fresh] <+: path → path ≠ [imageName] →
      PyDict.get final path = PyDict.get after path) :
    Replaced fresh starts moved kept image modes before final := by
  have inStarts {start : Path} (listed : start ∈ moved ++ kept) : start ∈ starts :=
    partly.split ▸ listed
  have last {start : Path} (listed : start ∈ starts) (more : Path) :
      PyDict.get final (start ++ more) = PyDict.get after (start ++ more) :=
    ends _ (ready.requests.not_staging listed more) (ready.not_image listed more)
  refine ⟨partly.split, ?_, ?_, ?_, ?_⟩
  · intro start listed
    rw [← ready.blocked_iff (inStarts (List.mem_append_left _ listed))]
    exact partly.free start listed
  · intro start listed more
    rw [last (inStarts (List.mem_append_left _ listed)), partly.inPlace start listed,
      ready.below]
  · intro start listed more
    have found := inStarts (List.mem_append_right _ listed)
    rw [last found, partly.asBefore start listed,
      ready.same _ (ready.requests.not_staging found more)]
  · intro path beside outside notImage
    exact (partly.beside path beside outside).congr (ready.same path outside).symm
      (ends path outside notImage)

theorem record_same {modes : PyDict Path Nat} {outcome : Except Failure Unit × Fs} {after : Fs}
    (installs : Installs dest fs tree fresh starts modes outcome after) :
    PyDict.get after [imageName] = PyDict.get before [imageName] := by
  rw [installs.elsewhere _ ready.image_not_staging fun start listed => ready.image_apart listed,
    ready.same _ ready.image_not_staging]

/-- The links of the image are those that stand in `dest`, where it was empty. -/
theorem sameLinks {modes : PyDict Path Nat} {outcome : Except Failure Unit × Fs}
    {after final : Fs} {text : Bytes} {mode : Nat} {home : Option Node} (kept : Kept home starts image)
    (installs : Installs dest fs tree fresh starts modes outcome after)
    (isOk : outcome.1 = .ok ())
    (ends : ∀ path, ¬ [fresh] <+: path → path ≠ [imageName] →
      PyDict.get final path = PyDict.get after path)
    (gone : ∀ path, [fresh] <+: path → PyDict.get final path = none)
    (record : PyDict.get final [imageName] = some (.file text mode))
    (empty : Otherwise fresh before) : SameLinks image final := by
  have lookups (rel : Path) : PyDict.get (subtree tree [fresh, treeName]) rel =
      PyDict.get image rel := (get_subtree ..).trans (ready.below rel)
  have keptSub : Kept home starts (subtree tree [fresh, treeName]) := by
    intro path node held
    rw [lookups] at held
    exact kept path node held
  have emptyTree : Otherwise fresh tree := by
    intro path held
    by_cases inStaging : [fresh] <+: path
    · exact Or.inr inStaging
    · rw [ready.same path inStaging] at held
      exact empty path held
  have links : ∀ path, ¬ [fresh] <+: path →
      linkOf (PyDict.get final path) = linkOf (PyDict.get after path) := by
    intro path outside
    by_cases atImage : path = [imageName]
    · have absent : PyDict.get before [imageName] = none := by
        by_contra held
        rcases empty _ held with atRoot | inStaging
        · cases atRoot
        · exact ready.image_not_staging inStaging
      rw [atImage, record, ready.record_same installs, absent]
      rfl
    · rw [ends path outside atImage]
  have same := installs.sameLinks ready.requests keptSub ready.root isOk emptyTree links gone
  intro path
  rw [← same path, lookups]

end Ready

section Staged

variable (tools : Tools) (network : Network)

/-- Once the layers are in, their tree is moved into place. -/
theorem Ready.finishes [Process] {dest : Path} {world : World} {tree before image : Fs} {fresh : Name}
    {starts : List Path} (ready : Ready dest world.fs tree before image fresh starts)
    {modes : PyDict Path Nat} {layers : List LayerRef}
    (unpacked : ∃ bodies, Bodies tools network layers bodies ∧
      layersTree tools.py starts (archives tools layers bodies) ([([], treeRoot (PyDict.get before []))], []) =
        some (image, modes)) (text : Bytes) :
    Finishes dest world.fs fresh ((do
      Online.onDisk (install (dest ++ [fresh, treeName]) dest (dest ++ [fresh]) starts modes)
      Online.onDisk (alter fun fs => writeFile fs (dest ++ [fresh] ++ [imageName]) text)
      Online.onDisk (alter fun fs => replace fs (dest ++ [fresh] ++ [imageName])
        (dest ++ [imageName]))) world)
      (Ends tools network fresh starts layers text before) := by
  obtain ⟨kept, keptModes⟩ : Kept (PyDict.get before []) starts image ∧ KeptModes starts modes := by
    obtain ⟨bodies, _, made⟩ := unpacked
    exact @kept_layersTree _ _ _ _ _ ([([], treeRoot _)], []) _
      (kept_root starts rfl (plain_treeRoot _)) (keptModes_nil starts) made
  obtain ⟨after, installs⟩ := (ready.prepared keptModes).installs
  rw [Online.bind_apply]
  cases came : install (dest ++ [fresh, treeName]) dest (dest ++ [fresh]) starts modes world.fs with
  | mk outcome middle =>
      rw [came] at installs
      have installing : Online.onDisk (install (dest ++ [fresh, treeName]) dest
          (dest ++ [fresh]) starts modes) world = (outcome, ⟨world.asks, middle⟩) := by
        simp only [Online.onDisk, came]
      rw [installing]
      have aside : PyDict.get after [fresh, imageName] = none := by
        rw [installs.aside [fresh, imageName], ready.nothing imageName [] (by decide)]
        refine ⟨⟨[imageName], rfl⟩, ?_, ?_⟩
        · intro under
          exact absurd (List.cons_prefix_cons.mp (List.cons_prefix_cons.mp under).2).1 (by decide)
        · intro count under
          obtain ⟨rest, starting⟩ := previous_cons count
          have named := (List.cons_prefix_cons.mp (List.cons_prefix_cons.mp under).2).1
          rw [starting] at named
          exact absurd (List.cons.inj named).1 (by decide)
      have pulled (passes : Passes dest world.fs tree fresh starts) :
          ImageTree tools network (PyDict.get before []) starts layers image modes := by
        have directories : ∀ start ∈ starts, isDir image start = true := by
          intro start listed
          rw [← isDir_congr (ready.below start)]
          exact passes.directories start listed
        exact ⟨unpacked, directories, _, _, ready.inner,
          ready.inner.checked (kept.linksBelow directories) passes.links⟩
      -- The staging directory goes; what is outside it stays.
      have stopped {failure : Failure} {ends : Fs → Except Failure Unit → Prop}
          (ended : ∀ final, (∀ path, ¬ [fresh] <+: path →
            PyDict.get final path = PyDict.get after path) → ends final (.error failure)) :
          Finishes dest world.fs fresh (.error failure, ⟨world.asks, middle⟩) ends := by
        have present := installs.based.real_present installs.root
          (get_ne_none_of_isDir installs.present)
        have directory : isDir middle (dest ++ [fresh]) = true := by
          rw [isDir_congr (installs.based.same [fresh])]
          exact installs.present
        refine ⟨installs.outside, present, directory, prune after [fresh],
          installs.based.prune_staging fresh, ?_, ended _ ?_⟩
        · intro path inStaging
          rw [get_prune, if_pos inStaging]
        · intro path outside
          rw [get_prune, if_neg outside]
      rcases installs.ends with ⟨_, _, same, message, failed⟩ | ⟨passes, moved, rest, partly⟩
      · cases failed
        apply stopped
        intro final ended
        apply Ends.refused
        intro path outside
        rw [ended path outside, same, ready.same path outside]
      · rcases partly.ends with ⟨nothing, isOk⟩ | ⟨first, head, inTheWay, message, failed⟩
        · have whole : moved = starts := by
            have split := partly.split
            rw [nothing, List.append_nil] at split
            exact split.symm
          have isOk : outcome = .ok () := isOk
          subst whole nothing isOk
          have recording := @Based.record_run _ dest ⟨world.asks, middle⟩ after installs.based fresh
            ready.requests.named ready.notImage installs.root installs.present aside text
          obtain ⟨recorded, records⟩ := recording
          have ended (path : Path) (outside : ¬ [fresh] <+: path) (notImage : path ≠ [imageName]) :
              PyDict.get (prune recorded [fresh]) path = PyDict.get after path := by
            rw [get_prune, if_neg outside]
            exact records.elsewhere path outside notImage
          have gone (path : Path) (inStaging : [fresh] <+: path) :
              PyDict.get (prune recorded [fresh]) path = none := by
            rw [get_prune, if_pos inStaging]
          have record : PyDict.get (prune recorded [fresh]) [imageName] =
              PyDict.get recorded [imageName] := by
            rw [get_prune, if_neg ready.image_not_staging]
          have present := records.based.real_present records.root
            (get_ne_none_of_isDir records.present)
          refine ⟨installs.outside.trans records.outside, present, ?_, prune recorded [fresh],
            records.based.prune_staging fresh, gone, ?_⟩
          · rw [isDir_congr (records.based.same [fresh])]
            exact records.present
          · have replaced := ready.replaced partly ended
            rcases records.ends with ⟨finished, _, mode, held⟩ | ⟨failed, inTheWay, held⟩
            · have held := record.trans held
              rw [finished]
              exact Ends.recorded image modes mode (pulled passes) replaced held
                fun empty => ready.sameLinks kept installs rfl ended gone held empty
            · rw [failed]
              refine Ends.unrecorded image modes (pulled passes) replaced ?_ ?_
              · rw [← isDir_congr (ready.record_same installs)]
                exact inTheWay
              · rw [record, held, ready.record_same installs]
        · cases failed
          apply stopped
          intro final ended
          obtain ⟨others, whole⟩ : ∃ others, rest = first :: others := by
            cases rest with
            | nil => cases head
            | cons found others =>
                cases head
                exact ⟨others, rfl⟩
          rw [whole] at partly
          have blocked : Blocked before first.dropLast := by
            rw [← ready.blocked_iff (partly.split ▸ List.mem_append_right _
              (List.mem_cons_self ..))]
            exact inTheWay
          refine Ends.blocked message image modes moved first others (pulled passes)
            (ready.replaced partly fun path outside _ => ended path outside) blocked ?_
          rw [ended _ ready.image_not_staging, ready.record_same installs]

end Staged

end Catena.Fetch

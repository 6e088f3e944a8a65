import Catena.InstallTrees

/-!
# What `_install` leaves

Nothing where the image is refused; otherwise the image's trees, with the modes of
its directories, at the paths before the first one with a link in the way.  In a
`dest` that held nothing else, no path leads out of it afterwards.
-/

namespace Catena.Fetch

open PyText Posix

/-- What stands below a path. -/
def subtree (tree : Fs) (path : Path) : Fs :=
  tree.filterMap fun item =>
    if path <+: item.1 then some (item.1.drop path.length, item.2) else none

theorem get_subtree (tree : Fs) (path rel : Path) :
    PyDict.get (subtree tree path) rel = PyDict.get tree (path ++ rel) := by
  induction tree with
  | nil => rfl
  | cons item rest ih =>
      obtain ⟨place, node⟩ := item
      rw [subtree, List.filterMap_cons]
      by_cases under : path <+: place
      · obtain ⟨more, rfl⟩ := under
        simp only [List.prefix_append, if_true, List.drop_left]
        rw [PyDict.get_cons, PyDict.get_cons]
        simp only [List.append_cancel_left_eq]
        split
        · rfl
        · exact ih
      · rw [if_neg under, PyDict.get_cons, if_neg]
        · exact ih
        · rintro rfl
          exact under (List.prefix_append ..)

/-- A place for a tree: in a directory, and with nothing but a directory there. -/
structure Holds (tree : Fs) (path : Path) : Prop where
  nonempty : path ≠ []
  proper : ∀ name ∈ path, Proper name
  parent : isDir tree path.dropLast = true
  solid : ∀ node, PyDict.get tree path = some node → node.isDir = true

/-- The file system holds a tree inside the tree, too. -/
theorem Based.sub {dest : Path} {fs tree : Fs} (based : Based dest fs tree) {path : Path}
    (root : isDir tree [] = true) (holds : Holds tree path) :
    Based (dest ++ path) fs (subtree tree path) where
  real := by
    have whole := dropLast_leafOf holds.nonempty
    have proper := holds.proper
    rw [← whole] at proper ⊢
    exact based.real_entry root
      (@WellFormed.reaches_of_isDir tree based.wellFormed [] path.dropLast holds.parent) proper
  nonempty := List.append_ne_nil_of_left_ne_nil based.nonempty _
  same rel := by rw [get_subtree, List.append_assoc, based.same]
  wellFormed := by
    refine ⟨?_, ?_, ?_⟩
    · intro rel present name found
      rw [get_subtree] at present
      exact based.wellFormed.proper _ present name (List.mem_append_right _ found)
    · intro rel name present
      rw [get_subtree, ← List.append_assoc] at present
      rw [isDir_congr (get_subtree tree path rel)]
      exact based.wellFormed.closed _ name present
    · intro node held
      rw [get_subtree, List.append_nil] at held
      exact holds.solid node held

/-- A node, with the mode a member gave its directory. -/
def chmodded (modes : PyDict Path Nat) (path : Path) : Option Node → Option Node
  | some (.dir mode) => some (.dir ((PyDict.get modes path).getD mode))
  | node => node

theorem chmodded_nil (path : Path) (node : Option Node) : chmodded [] path node = node := by
  cases node with
  | none => rfl
  | some node => cases node <;> rfl

theorem linkOf_chmodded (modes : PyDict Path Nat) (path : Path) (node : Option Node) :
    linkOf (chmodded modes path node) = linkOf node := by
  cases node with
  | none => rfl
  | some node => cases node <;> rfl

/-- What giving the directories below a path their modes leaves. -/
structure Chmods (dest : Path) (fs tree : Fs) (path : Path) (modes : PyDict Path Nat)
    (outcome : Except Failure Unit × Fs) (after : Fs) : Prop where
  isOk : outcome.1 = .ok ()
  outside : Outside dest fs outcome.2
  based : Based dest outcome.2 after
  elsewhere : ∀ other, ¬ path <+: other → PyDict.get after other = PyDict.get tree other
  below : ∀ more, PyDict.get after (path ++ more) =
    chmodded modes more (PyDict.get tree (path ++ more))

theorem Based.chmods_run [Process] {dest : Path} {fs tree : Fs} (based : Based dest fs tree) {path : Path}
    (root : isDir tree [] = true) (holds : Holds tree path)
    {modes : PyDict Path Nat} (nodup : (PyDict.keys modes).Nodup)
    (proper : ∀ more ∈ PyDict.keys modes, ∀ name ∈ more, Proper name)
    (below : [] ∉ PyDict.keys modes) :
    ∃ after, Chmods dest fs tree path modes (chmods (dest ++ path) modes fs) after := by
  induction modes generalizing fs tree with
  | nil =>
      refine ⟨tree, rfl, Outside.refl dest fs, based, fun _ _ => rfl, ?_⟩
      intro more
      rw [chmodded_nil]
  | cons item rest ih =>
      obtain ⟨more, mode⟩ := item
      obtain ⟨fresh, nodupRest⟩ := List.nodup_cons.mp nodup
      have properRest : ∀ other ∈ PyDict.keys rest, ∀ name ∈ other, Proper name :=
        fun other found => proper other (List.mem_cons_of_mem _ found)
      have belowRest : [] ∉ PyDict.keys rest := fun found => below (List.mem_cons_of_mem _ found)
      have moreNonempty : more ≠ [] := by
        rintro rfl
        exact below (List.mem_cons_self ..)
      have inner := based.sub root holds
      have found := inner.realDir_found (proper more (List.mem_cons_self ..))
      have absent : PyDict.get rest more = none := (PyDict.get_eq_none_iff rest more).mpr fresh
      rw [chmods, bind_apply, found]
      by_cases reached : reaches (subtree tree path) [] more = true
      · have isDirectory : isDir tree (path ++ more) = true := by
          rw [← isDir_congr (get_subtree tree path more)]
          exact isDir_of_reaches reached moreNonempty
        obtain ⟨old, held⟩ := isDir_eq_true.mp isDirectory
        have whole : (path ++ more).dropLast ++ [leafOf (path ++ more)] = path ++ more :=
          dropLast_leafOf (List.append_ne_nil_of_left_ne_nil holds.nonempty _)
        have present := get_ne_none_of_isDir isDirectory
        have parent : isDir tree (path ++ more).dropLast = true := by
          rw [← whole] at present
          exact based.wellFormed.closed _ _ present
        have changed := chmod_real (based.real_present root present)
          (by rw [isDir_congr (based.same _)]; exact isDirectory) mode
        have setting := @Based.set_entry dest fs tree based (path ++ more).dropLast
          (leafOf (path ++ more)) (.dir mode) parent
        rw [whole] at setting
        obtain ⟨outside, next⟩ := setting (based.wellFormed.proper _ present) (Or.inl rfl)
        rw [← List.append_assoc] at changed outside next
        have kept {other : Path} (isDir' : isDir tree other = true) :
            isDir (PyDict.set tree (path ++ more) (.dir mode)) other = true := by
          by_cases same : path ++ more = other
          · rw [isDir, PyDict.get_set, if_pos same]
            rfl
          · rw [isDir_congr (PyDict.get_set_ne tree _ same)]
            exact isDir'
        have holdsNext : Holds (PyDict.set tree (path ++ more) (.dir mode)) path := by
          refine ⟨holds.nonempty, holds.proper, kept holds.parent, ?_⟩
          intro node found
          rw [PyDict.get_set_ne _ _ (by simpa using moreNonempty)] at found
          exact holds.solid node found
        obtain ⟨after, done⟩ := ih next (kept root) holdsNext nodupRest properRest belowRest
        simp only [reached, if_true]
        rw [alter_bind changed]
        refine ⟨after, done.isOk, outside.trans done.outside, done.based, ?_, ?_⟩
        · intro other apart
          rw [done.elsewhere other apart, PyDict.get_set_ne]
          rintro rfl
          exact apart (List.prefix_append ..)
        · intro other
          rw [done.below, PyDict.get_set]
          by_cases same : more = other
          · subst same
            rw [if_pos rfl, held, chmodded, chmodded, absent, PyDict.get_cons, if_pos rfl]
            rfl
          · rw [if_neg (by simpa using same)]
            cases PyDict.get tree (path ++ other) with
            | none => rfl
            | some node => cases node <;> simp [chmodded, PyDict.get_cons, same]
      · obtain ⟨after, done⟩ := ih based root holds nodupRest properRest belowRest
        simp only [reached, if_false, Bool.false_eq_true]
        refine ⟨after, done.isOk, done.outside, done.based, done.elsewhere, ?_⟩
        intro other
        rw [done.below]
        by_cases same : more = other
        · subst same
          have notDir : isDir tree (path ++ more) = false := by
            by_contra isDirectory
            rw [Bool.not_eq_false, ← isDir_congr (get_subtree tree path more)] at isDirectory
            exact reached
              (@WellFormed.reaches_of_isDir _ inner.wellFormed [] more isDirectory)
          cases held : PyDict.get tree (path ++ more) with
          | none => rfl
          | some node =>
              cases node with
              | dir mode =>
                  rw [isDir_of_get held] at notDir
                  cases notDir
              | file data mode => rfl
              | link target => rfl
        · cases PyDict.get tree (path ++ other) with
          | none => rfl
          | some node => cases node <;> simp [chmodded, PyDict.get_cons, same]

/-- Before `_install`: the file system holds `dest`, with the tree in its staging
directory. -/
structure Prepared (dest : Path) (fs tree : Fs) (staging : Name) (starts : List Path)
    (modes : PyDict Path Nat) : Prop where
  based : Based dest fs tree
  requests : Requests staging starts
  keptModes : KeptModes starts modes
  root : isDir tree [] = true
  present : isDir tree [staging] = true
  building : ∀ node, PyDict.get tree [staging, treeName] = some node → node.isDir = true
  fresh : ∀ count, PyDict.get tree [staging, previous count] = none

theorem Prepared.holds {dest : Path} {fs tree : Fs} {staging : Name} {starts : List Path}
    {modes : PyDict Path Nat} (prepared : Prepared dest fs tree staging starts modes) :
    Holds tree [staging, treeName] where
  nonempty := List.cons_ne_nil _ _
  proper := by
    intro name found
    rcases List.mem_cons.mp found with rfl | last
    · exact prepared.requests.named
    · rw [List.mem_singleton.mp last]
      decide
  parent := prepared.present
  solid := prepared.building

/-- The checks pass: the requested paths are directories of the image, and no link
below them leads outside. -/
structure Passes (dest : Path) (fs tree : Fs) (staging : Name) (starts : List Path) : Prop where
  directories : ∀ start ∈ starts, isDir tree (builtAt staging start) = true
  links : (checkAllLinks (dest ++ [staging, treeName]) starts fs).1 = .ok ()

/-- What `_install` leaves. -/
structure Installs (dest : Path) (fs tree : Fs) (staging : Name) (starts : List Path)
    (modes : PyDict Path Nat) (outcome : Except Failure Unit × Fs) (after : Fs) : Prop where
  outside : Outside dest fs outcome.2
  based : Based dest outcome.2 after
  root : isDir after [] = true
  present : isDir after [staging] = true
  ends : ¬ Passes dest fs tree staging starts ∧ outcome.2 = fs ∧ after = tree ∧
      (∃ message, outcome.1 = .error (.fetch message)) ∨
    Passes dest fs tree staging starts ∧ ∃ moved kept, Partly staging starts
      (fun path => chmodded modes path (PyDict.get tree (builtAt staging path)))
      tree after outcome.1 moved kept
  links : ∀ path, ¬ [staging] <+: path → (∀ start ∈ starts, ¬ start <+: path) →
    linkOf (PyDict.get after path) = linkOf (PyDict.get tree path)
  elsewhere : ∀ path, ¬ [staging] <+: path → (∀ start ∈ starts, Apart start path) →
    PyDict.get after path = PyDict.get tree path
  aside : ∀ path, Spare staging path → PyDict.get after path = PyDict.get tree path

theorem Based.checkDirs_run [Process] {base : Path} {fs tree : Fs} (based : Based base fs tree)
    {starts : List Path} (nonempty : ∀ start ∈ starts, start ≠ [])
    (proper : ∀ start ∈ starts, ∀ name ∈ start, Proper name) :
    checkDirs base starts fs = (.ok (), fs) ∧ (∀ start ∈ starts, isDir tree start = true) ∨
      (∃ message, checkDirs base starts fs = (.error (.fetch message), fs)) ∧
        ¬ ∀ start ∈ starts, isDir tree start = true := by
  induction starts with
  | nil => exact Or.inl ⟨rfl, by simp⟩
  | cons start rest ih =>
      have onward := ih (fun other later => nonempty other (List.mem_cons_of_mem _ later))
        (fun other later => proper other (List.mem_cons_of_mem _ later))
      have found := based.realDir_found (proper start (List.mem_cons_self ..))
      rw [checkDirs, bind_apply, found]
      by_cases directory : isDir tree start = true
      · have reached := @WellFormed.reaches_of_isDir tree based.wellFormed [] start directory
        simp only [reached, if_true, Option.isNone_some, Bool.false_eq_true, if_false,
          List.forall_mem_cons, directory, true_and]
        exact onward
      · have unreached : ¬ reaches tree [] start = true := fun reached =>
          directory (isDir_of_reaches reached (nonempty start (List.mem_cons_self ..)))
        simp only [unreached, if_false, Option.isNone_none, if_true, Bool.false_eq_true,
          List.forall_mem_cons, directory, false_and, not_false_eq_true, and_true, and_false,
          false_or]
        exact ⟨_, rfl⟩

theorem checkAll_error {base : Path} {fs : Fs} (rels : List Path) :
    (checkAll base rels fs).1 = .ok () ∨
      ∃ message, (checkAll base rels fs).1 = .error (.fetch message) := by
  induction rels with
  | nil => exact Or.inl rfl
  | cons first rest ih =>
      cases inside : resolvesInside fs base first with
      | true =>
          rw [checkAll_inside rest inside]
          exact ih
      | false =>
          obtain ⟨message, failed⟩ := checkAll_outside rest inside
          exact Or.inr ⟨message, by rw [failed]⟩

theorem checkAllLinks_error {base : Path} {fs : Fs} (starts : List Path) :
    (checkAllLinks base starts fs).1 = .ok () ∨
      ∃ message, (checkAllLinks base starts fs).1 = .error (.fetch message) := by
  induction starts with
  | nil => exact Or.inl rfl
  | cons start rest ih =>
      have state := @checkAll_state base fs (below fs base start)
      have first := @checkAll_error base fs (below fs base start)
      rw [checkAllLinks, bind_apply, checkLinks]
      cases came : checkAll base (below fs base start) fs with
      | mk outcome after =>
          rw [came] at state first
          cases state
          rcases first with isOk | ⟨message, isError⟩
          · cases isOk
            exact ih
          · cases isError
            exact Or.inr ⟨message, rfl⟩

theorem isDir_chmodded {modes : PyDict Path Nat} {first second : Fs} {path place rel : Path}
    (same : PyDict.get second path = chmodded modes rel (PyDict.get first place))
    (directory : isDir first place = true) : isDir second path = true := by
  obtain ⟨mode, held⟩ := isDir_eq_true.mp directory
  rw [held] at same
  exact isDir_of_get same

theorem keys_sortedModes (modes : PyDict Path Nat) :
    (PyDict.keys (sortedModes modes)).Perm (PyDict.keys modes) :=
  (List.mergeSort_perm modes _).map Prod.fst

theorem chmodded_sortedModes {modes : PyDict Path Nat} (nodup : (PyDict.keys modes).Nodup)
    (path : Path) (node : Option Node) :
    chmodded (sortedModes modes) path node = chmodded modes path node := by
  have perm : modes.Perm (sortedModes modes) := (List.mergeSort_perm modes _).symm
  have same := PyDict.get_perm nodup perm path
  cases node with
  | none => rfl
  | some node =>
      cases node with
      | dir mode => rw [chmodded, chmodded, same]
      | file data mode => rfl
      | link target => rfl

/-- The moves, once the checks have passed. -/
theorem Prepared.installs_passed [Process] {dest : Path} {fs tree : Fs} {staging : Name}
    {starts : List Path} {modes : PyDict Path Nat}
    (prepared : Prepared dest fs tree staging starts modes)
    (passes : Passes dest fs tree staging starts) :
    ∃ after, Installs dest fs tree staging starts modes ((do
      chmods (dest ++ [staging, treeName]) (sortedModes modes)
      moveAll (dest ++ [staging, treeName]) dest (dest ++ [staging]) 0 starts) fs) after := by
  have requests := prepared.requests
  have keptModes := prepared.keptModes
  have keys := keys_sortedModes modes
  have below : [] ∉ PyDict.keys (sortedModes modes) := by
    intro listed
    obtain ⟨mode, held⟩ := PyDict.get_of_mem_keys (keys.mem_iff.mp listed)
    obtain ⟨start, found, under⟩ := wanted_iff.mp (keptModes.plain [] mode held).2
    exact requests.nonempty start found (List.prefix_nil.mp under)
  obtain ⟨ready, chmoding⟩ := prepared.based.chmods_run prepared.root prepared.holds
    (keys.nodup_iff.mpr keptModes.nodup)
    (fun path listed => keptModes.proper path (keys.mem_iff.mp listed)) below
  have built (path : Path) : PyDict.get ready (builtAt staging path) =
      chmodded modes path (PyDict.get tree (builtAt staging path)) :=
    (chmoding.below path).trans (chmodded_sortedModes keptModes.nodup path _)
  -- Only what is in the tree has changed.
  have outside {path : Path} (apart : ¬ [staging] <+: path) :
      PyDict.get ready path = PyDict.get tree path := by
    apply chmoding.elsewhere
    exact fun under => apart (List.IsPrefix.trans ⟨[treeName], rfl⟩ under)
  have staged : Staged staging 0 starts ready := by
    refine ⟨?_, ?_, ?_, ?_⟩
    · rw [isDir_congr (outside (by simp))]
      exact prepared.root
    · rw [isDir_congr (chmoding.elsewhere [staging] (by simp))]
      exact prepared.present
    · intro count _
      rw [chmoding.elsewhere]
      · exact prepared.fresh count
      · intro under
        have named := (List.cons_prefix_cons.mp (List.cons_prefix_cons.mp under).2).1
        exact previous_ne_treeName count named.symm
    · intro start listed
      exact isDir_chmodded (built start) (passes.directories start listed)
  obtain ⟨after, moves⟩ := chmoding.based.moveAll_moves requests staged
  have blocked_same {start : Path} (listed : start ∈ starts) :
      Blocked ready start.dropLast ↔ Blocked tree start.dropLast := by
    have same {more : Path} (under : more <+: start.dropLast) :
        PyDict.get ready more = PyDict.get tree more := by
      apply outside
      intro inStaging
      exact requests.apart start listed
        (inStaging.trans (under.trans (List.dropLast_prefix start)))
    constructor
    · rintro ⟨more, under, isLink⟩
      exact ⟨more, under, same under ▸ isLink⟩
    · rintro ⟨more, under, isLink⟩
      exact ⟨more, under, (same under).symm ▸ isLink⟩
  rw [bind_apply]
  cases came : chmods (dest ++ [staging, treeName]) (sortedModes modes) fs with
  | mk outcome middle =>
      rw [came] at chmoding moves
      have isOk := chmoding.isOk
      cases isOk
      obtain ⟨moved, kept, partly⟩ := moves.partly
      have inStarts {start : Path} (listed : start ∈ moved ++ kept) : start ∈ starts :=
        partly.split ▸ listed
      refine ⟨after, chmoding.outside.trans moves.outside, moves.based, moves.root, moves.present,
        Or.inr ⟨passes, moved, kept, ?_⟩, ?_, ?_, ?_⟩
      · refine ⟨partly.split, ?_, ?_, ?_, ?_, ?_⟩
        · intro start listed
          rw [← blocked_same (inStarts (List.mem_append_left _ listed))]
          exact partly.free start listed
        · intro start listed more
          rw [partly.inPlace start listed]
          exact built _
        · intro start listed more
          rw [partly.asBefore start listed]
          exact outside (requests.not_staging (inStarts (List.mem_append_right _ listed)) more)
        · intro path beside apart
          exact (partly.beside path beside apart).congr (outside apart).symm rfl
        · rcases partly.ends with finished | ⟨first, head, isBlocked, failed⟩
          · exact Or.inl finished
          · refine Or.inr ⟨first, head, ?_, failed⟩
            rw [← blocked_same (inStarts (List.mem_append_right _ (List.mem_of_head? head)))]
            exact isBlocked
      · intro path apart beside
        rw [partly.links apart beside, outside apart]
      · intro path apart beside
        rw [partly.elsewhere apart beside, outside apart]
      · intro path spare
        rw [moves.aside path spare, chmoding.elsewhere path spare.notBuilt]

/-- `_install`, in any case. -/
theorem Prepared.installs [Process] {dest : Path} {fs tree : Fs} {staging : Name} {starts : List Path}
    {modes : PyDict Path Nat} (prepared : Prepared dest fs tree staging starts modes) :
    ∃ after, Installs dest fs tree staging starts modes
      (install (dest ++ [staging, treeName]) dest (dest ++ [staging]) starts modes fs) after := by
  have requests := prepared.requests
  have based := prepared.based
  have inner := based.sub prepared.root prepared.holds
  have innerDir (start : Path) : isDir (subtree tree [staging, treeName]) start =
      isDir tree (builtAt staging start) := isDir_congr (get_subtree tree _ start)
  have refused {message : String} (failing : ¬ Passes dest fs tree staging starts) :
      ∃ after, Installs dest fs tree staging starts modes (.error (.fetch message), fs) after :=
    ⟨tree, Outside.refl dest fs, based, prepared.root, prepared.present,
      Or.inl ⟨failing, rfl, rfl, message, rfl⟩, fun _ _ _ => rfl, fun _ _ _ => rfl,
      fun _ _ => rfl⟩
  unfold install
  rw [bind_apply]
  rcases inner.checkDirs_run requests.nonempty requests.proper with
    ⟨passed, directories⟩ | ⟨⟨message, failed⟩, missing⟩
  · rw [passed]
    simp only [innerDir] at directories
    dsimp only
    rw [bind_apply]
    have state := @checkAllLinks_state (dest ++ [staging, treeName]) fs starts
    have failures := @checkAllLinks_error (dest ++ [staging, treeName]) fs starts
    cases checked : checkAllLinks (dest ++ [staging, treeName]) starts fs with
    | mk outcome middle =>
        rw [checked] at state failures
        have unchanged : fs = middle := state.symm
        subst unchanged
        rcases failures with isOk | ⟨message, isError⟩
        · cases isOk
          have passes : Passes dest fs tree staging starts := ⟨directories, by rw [checked]⟩
          exact prepared.installs_passed passes
        · cases isError
          apply refused
          intro passes
          have links := passes.links
          rw [checked] at links
          cases links
  · rw [failed]
    simp only [innerDir] at missing
    exact refused fun passes => missing passes.directories

/-- `dest` held nothing but its staging directory. -/
def Otherwise (staging : Name) (tree : Fs) : Prop :=
  ∀ path, PyDict.get tree path ≠ none → path = [] ∨ [staging] <+: path

theorem Installs.sameLinks {home : Option Node} {dest : Path} {fs tree after final : Fs} {staging : Name}
    {starts : List Path} {modes : PyDict Path Nat} {outcome : Except Failure Unit × Fs}
    (requests : Requests staging starts)
    (kept : Kept home starts (subtree tree [staging, treeName]))
    (installs : Installs dest fs tree staging starts modes outcome after)
    (root : isDir tree [] = true) (isOk : outcome.1 = .ok ()) (empty : Otherwise staging tree)
    (links : ∀ path, ¬ [staging] <+: path →
      linkOf (PyDict.get final path) = linkOf (PyDict.get after path))
    (gone : ∀ path, [staging] <+: path → PyDict.get final path = none) :
    SameLinks (subtree tree [staging, treeName]) final := by
  intro path
  -- Beside the requested paths the image has directories only.
  have beside (outside : ∀ start ∈ starts, ¬ start <+: path) :
      linkOf (PyDict.get (subtree tree [staging, treeName]) path) = none := by
    cases held : PyDict.get (subtree tree [staging, treeName]) path with
    | none => rfl
    | some node =>
        rcases (kept path node held).1 with isWanted | ⟨directory, _⟩
        · obtain ⟨start, listed, under⟩ := wanted_iff.mp isWanted
          exact absurd under (outside start listed)
        · cases node with
          | dir mode => rfl
          | file data mode => cases directory
          | link target => cases directory
  by_cases inStaging : [staging] <+: path
  · rw [beside fun start listed => requests.beside listed inStaging, gone path inStaging]
    rfl
  · rw [links path inStaging]
    by_cases under : ∃ start ∈ starts, start <+: path
    · obtain ⟨start, listed, more, rfl⟩ := under
      rcases installs.ends with ⟨_, _, _, message, failed⟩ | ⟨_, moved, rest, partly⟩
      · rw [failed] at isOk
        cases isOk
      · have isMoved : start ∈ moved := by
          rcases partly.ends with ⟨nothing, _⟩ | ⟨_, _, _, message, failed⟩
          · rw [partly.split, nothing, List.append_nil] at listed
            exact listed
          · rw [failed] at isOk
            cases isOk
        rw [partly.inPlace start isMoved, linkOf_chmodded, get_subtree]
        rfl
    · have outside : ∀ start ∈ starts, ¬ start <+: path :=
        fun start listed within => under ⟨start, listed, within⟩
      rw [beside outside, installs.links path inStaging outside]
      by_cases present : PyDict.get tree path = none
      · rw [present]
        rfl
      · rcases empty path present with atRoot | inside
        · rw [atRoot]
          exact (linkOf_of_isDir root).symm
        · exact absurd inside inStaging

end Catena.Fetch

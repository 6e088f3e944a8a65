import Catena.UnpackTree

/-!
# Unpacking stays in its tree

Layer after layer, whatever their members are, the program changes nothing
outside the staging tree and does to the tree what `layersTree` does, unless its
first pass comes to a whiteout that names the parent of the tree.
-/

namespace Catena.Fetch

open PyText Posix

/-- What leads to a directory stays when one of its entries goes. -/
theorem reaches_prune (tree : Fs) (done : Path) (leaf : Name) :
    reaches (prune tree (done ++ [leaf])) [] done = reaches tree [] done := by
  apply reaches_congr
  intro more under _
  rw [List.nil_append, isDir, isDir, get_prune, if_neg]
  intro above
  exact absurd (above.trans under).length_le (by simp)

section Marks

variable {base : Path} {fs tree : Fs} (based : Based base fs tree)

include based

/-- The parent of a directory inside the tree cannot be removed; trying to empties
it. -/
theorem Based.clear_upper {parent : Path} (nonempty : parent ≠ [])
    (reached : reaches tree [] parent = true) (proper : ∀ name ∈ parent, Proper name) :
    Follows base fs (clear (base ++ parent ++ [upper]) fs) (fun _ _ => False) := by
  obtain ⟨before, last, whole⟩ := List.eq_nil_or_concat parent |>.resolve_left nonempty
  rw [List.concat_eq_append] at whole
  subst whole
  have directory : isDir tree (before ++ [last]) = true := isDir_of_reaches reached nonempty
  have above : isDir tree before = true :=
    based.wellFormed.closed before last (get_ne_none_of_isDir directory)
  have root : isDir tree [] = true := by
    by_cases atRoot : before = []
    · rw [← atRoot]
      exact above
    · exact based.wellFormed.isDir_of_below (List.nil_prefix ..) (Ne.symm atRoot)
        (get_ne_none_of_isDir above)
  have real := based.real_entry root (reaches_front (List.prefix_append ..) reached) proper
  have located : locate fs (base ++ (before ++ [last]) ++ [upper]) = .ok (base ++ before) := by
    rw [locate_upper real (by rw [isDir_congr (based.same _)]; exact directory),
      ← List.append_assoc, List.dropLast_concat]
  obtain ⟨mode, held⟩ := isDir_eq_true.mp above
  have looked : lstat fs (base ++ (before ++ [last]) ++ [upper]) = .ok (some (.dir mode)) := by
    rw [lstat, located, ← held, ← based.same]
  have emptied : ∃ errno, rmtree (base ++ (before ++ [last]) ++ [upper]) fs =
      (.error (.os errno), pruneBelow fs (base ++ before)) := by
    have isDirectory : isDir fs (base ++ before) = true := by
      rw [isDir_congr (based.same before)]
      exact above
    rw [rmtree, Posix.rmtree, located]
    simp [isDirectory]
  obtain ⟨errno, cleared⟩ := emptied
  unfold clear
  rw [look_bind looked]
  dsimp only
  rw [cleared]
  refine ⟨?_, fun _ isOk => by cases isOk⟩
  intro path apart
  rw [get_pruneBelow, if_neg]
  rintro ⟨under, _⟩
  exact apart ((List.prefix_append ..).trans under)

theorem Based.remove_upper [Process] {parent : Path} (proper : ∀ name ∈ parent, Proper name)
    (inside : parent ≠ [] ∨ isDir tree [] = false) :
    Follows base fs (remove base parent upper fs) (fun _ after =>
      (reaches tree [] parent = true → isDir tree parent = false) ∧ after = tree) := by
  have named : child (base ++ parent) upper = base ++ parent ++ [upper] := by
    rw [child, if_neg (by decide)]
  unfold remove
  rw [bind_apply, based.realDir_found proper]
  by_cases reached : reaches tree [] parent = true
  · simp only [reached, if_true, named]
    by_cases atRoot : parent = []
    · have gone : isDir tree [] = false := inside.resolve_left (not_not.mpr atRoot)
      have looked : lstat fs (base ++ parent ++ [upper]) = .ok none := by
        rw [List.append_assoc, lstat, based.locate_gone gone]
      unfold clear
      rw [look_bind looked]
      refine follows_pure based ⟨fun _ => ?_, rfl⟩
      rw [atRoot]
      exact gone
    · exact (based.clear_upper atRoot reached proper).mono fun _ _ never => never.elim
  · simp only [reached, if_false, Bool.false_eq_true]
    exact follows_pure based ⟨fun isReached => isReached.elim, rfl⟩

theorem Based.clearAll_entries {rel : Path} {names : List Name}
    (reached : reaches tree [] rel = true) (proper : ∀ name ∈ rel, Proper name)
    (entries : ∀ name ∈ names, Proper name) :
    Follows base fs (clearAll (base ++ rel) names fs) (fun _ after => ∀ path,
      PyDict.get after path =
        if ∃ name ∈ names, rel ++ [name] <+: path then none else PyDict.get tree path) := by
  induction names generalizing fs tree with
  | nil =>
      refine follows_pure based ?_
      intro path
      simp
  | cons name rest ih =>
      rw [clearAll, List.append_assoc]
      have properEntry : ∀ part ∈ rel ++ [name], Proper part := by
        intro part found
        rcases List.mem_append.mp found with inside | last
        · exact proper part inside
        · rw [List.mem_singleton.mp last]
          exact entries name (List.mem_cons_self ..)
      apply (based.clear_entry reached properEntry).bind
      rintro _ after _ nextBased rfl
      have stillReached : reaches (prune tree (rel ++ [name])) [] rel = true := by
        rw [reaches_prune]
        exact reached
      apply (ih nextBased stillReached fun part found =>
        entries part (List.mem_cons_of_mem _ found)).mono
      intro _ last same path
      rw [same, get_prune]
      by_cases later : ∃ part ∈ rest, rel ++ [part] <+: path
      · rw [if_pos later, if_pos]
        obtain ⟨part, found, under⟩ := later
        exact ⟨part, List.mem_cons_of_mem _ found, under⟩
      · rw [if_neg later]
        simp only [List.mem_cons, exists_eq_or_imp, later, or_false]

theorem mem_children {rel : Path} {name : Name}
    (found : name ∈ fs.filterMap fun item => childName (base ++ rel) item.1) :
    PyDict.get tree (rel ++ [name]) ≠ none := by
  obtain ⟨item, present, named⟩ := List.mem_filterMap.mp found
  unfold childName at named
  split at named
  · split at named
    · rename_i whole
      cases named
      rw [← based.same, ← List.append_assoc, ← whole]
      rw [Ne, PyDict.get_eq_none_iff, not_not]
      exact List.mem_map_of_mem present
    · cases named
  · cases named

theorem children_mem {rel : Path} {name : Name}
    (present : PyDict.get tree (rel ++ [name]) ≠ none) :
    name ∈ fs.filterMap fun item => childName (base ++ rel) item.1 := by
  rw [← based.same, Ne, PyDict.get_eq_none_iff, not_not] at present
  obtain ⟨item, found, named⟩ := List.mem_map.mp present
  refine List.mem_filterMap.mpr ⟨item, found, ?_⟩
  have last : (base ++ (rel ++ [name])).getLast? = some name := by simp
  rw [named, childName, last]
  simp

/-- The entries of a directory hold all that is below it. -/
theorem get_cleared {rel path : Path} :
    (if ∃ name ∈ fs.filterMap fun item => childName (base ++ rel) item.1, rel ++ [name] <+: path
      then none else PyDict.get tree path) = PyDict.get (pruneBelow tree rel) path := by
  rw [get_pruneBelow]
  by_cases below : rel <+: path ∧ path ≠ rel
  · rw [if_pos below]
    split
    · rfl
    · rename_i noEntry
      by_contra present
      obtain ⟨⟨more, rfl⟩, other⟩ := below
      cases more with
      | nil => exact other (List.append_nil rel)
      | cons name rest =>
          have under : rel ++ [name] <+: rel ++ name :: rest :=
            ⟨rest, by simp⟩
          have entry : PyDict.get tree (rel ++ [name]) ≠ none := by
            by_cases whole : rel ++ [name] = rel ++ name :: rest
            · rw [whole]
              exact present
            · exact get_ne_none_of_isDir
                (based.wellFormed.isDir_of_below under whole present)
          exact noEntry ⟨name, children_mem based entry, under⟩
  · rw [if_neg below, if_neg]
    rintro ⟨name, _, under⟩
    refine below ⟨(List.prefix_append ..).trans under, ?_⟩
    rintro rfl
    exact absurd under.length_le (by simp)

/-- `_empty`. -/
theorem Based.empty_directory [Process] {rel : Path} (proper : ∀ name ∈ rel, Proper name) :
    Follows base fs (empty base rel fs) (fun _ after =>
      after = if reaches tree [] rel then pruneBelow tree rel else tree) := by
  unfold empty
  rw [bind_apply, based.realDir_found proper]
  by_cases reached : reaches tree [] rel = true
  · simp only [reached, if_true]
    cases root : isDir tree [] with
    | false =>
        have atRoot : rel = [] := by
          by_contra nonempty
          have directory := isDir_of_reaches reached nonempty
          rw [based.wellFormed.isDir_of_below (List.nil_prefix ..) (Ne.symm nonempty)
            (get_ne_none_of_isDir directory)] at root
          cases root
        have failed : listdir fs (base ++ rel) = .error .noEntry := by
          rw [listdir, based.walk_gone root]
        rw [bind_apply, look, failed]
        exact follows_raise
    | true =>
        have directory : isDir fs (base ++ rel) = true := by
          rw [isDir_congr (based.same rel)]
          exact isDir_done root reached
        have real : Real fs (base ++ rel) := by
          by_cases atRoot : rel = []
          · rw [atRoot, List.append_nil]
            exact based.real
          · obtain ⟨before, last, whole⟩ := List.eq_nil_or_concat rel |>.resolve_left atRoot
            rw [List.concat_eq_append] at whole
            subst whole
            exact based.real_entry root (reaches_front (List.prefix_append ..) reached) proper
        rw [look_bind (listdir_real real directory)]
        apply (based.clearAll_entries reached proper fun name found =>
          based.wellFormed.proper _ (mem_children based found) name (by simp)).retree
        intro _ after _ same
        refine ⟨pruneBelow tree rel, ?_, rfl⟩
        intro path
        rw [same, get_cleared based]
  · simp only [reached, if_false, Bool.false_eq_true]
    exact follows_pure based rfl

end Marks

/-- The whiteout that names the parent of the tree. -/
def parentMark : Path :=
  [whiteout ++ upper]

theorem proper_of_memberPath {py : Builtins} {name : Name} {path : Path}
    (read : memberPath py name = .ok path) : ∀ part ∈ path, Proper part := by
  unfold memberPath at read
  split at read
  · cases read
  · split at read
    · cases read
    · rename_i notUpper
      cases read
      intro part found
      obtain ⟨_, kept⟩ := List.mem_filter.mp found
      have named : part ≠ [] ∧ part ≠ current := by simpa using kept
      refine ⟨named.1, named.2, ?_⟩
      rintro rfl
      exact notUpper found

/-- A path is the directory it is in and its last name. -/
theorem dropLast_leafOf {path : Path} (nonempty : path ≠ []) :
    path.dropLast ++ [leafOf path] = path := by
  obtain ⟨before, leaf, rfl⟩ := List.eq_nil_or_concat path |>.resolve_left nonempty
  simp [leafOf]

theorem leafOf_mem {path : Path} (nonempty : path ≠ []) : leafOf path ∈ path := by
  obtain ⟨before, leaf, rfl⟩ := List.eq_nil_or_concat path |>.resolve_left nonempty
  simp [leafOf]

theorem whiteout_split {leaf : Name} (marked : isWhiteout leaf = true) :
    whiteout ++ leaf.drop whiteout.length = leaf ∧ leaf.drop whiteout.length ≠ [] := by
  simp only [isWhiteout, Bool.and_eq_true, decide_eq_true_eq] at marked
  obtain ⟨⟨starts, _⟩, longer⟩ := marked
  constructor
  · obtain ⟨rest, rfl⟩ := List.isPrefixOf_iff_prefix.mp starts
    simp
  · intro nothing
    have short := List.drop_eq_nil_iff.mp nothing
    omega

/-- A whiteout, on a tree whose parent it does not name. -/
theorem Based.mark_tree [Process] {py : Builtins} {base : Path} {fs tree : Fs}
    (based : Based base fs tree) {member : Member}
    (apart : memberPath py member.name ≠ .ok parentMark) :
    Follows base fs (mark py base member fs) (fun _ after =>
      ∃ path, memberPath py member.name = .ok path ∧ markTree tree path = some after) := by
  unfold mark
  cases read : memberPath py member.name with
  | error failure => exact ⟨Outside.refl base fs, fun _ isOk => by cases isOk⟩
  | ok path =>
      rw [read] at apart
      have proper := proper_of_memberPath read
      have properParent : ∀ name ∈ path.dropLast, Proper name := fun name found =>
        proper name (List.mem_of_mem_dropLast found)
      change Follows base fs ((if leafOf path = opaqueMarker then empty base path.dropLast
        else if isWhiteout (leafOf path) then
          remove base path.dropLast ((leafOf path).drop whiteout.length)
        else return ()) fs) _
      by_cases isOpaque : leafOf path = opaqueMarker
      · rw [if_pos isOpaque]
        apply (based.empty_directory properParent).mono
        rintro _ after rfl
        refine ⟨path, rfl, ?_⟩
        rw [markTree, if_pos isOpaque, apply_ite some]
      · rw [if_neg isOpaque]
        by_cases marked : isWhiteout (leafOf path) = true
        · rw [if_pos marked]
          obtain ⟨whole, nonempty⟩ := whiteout_split marked
          by_cases isUpper : (leafOf path).drop whiteout.length = upper
          · have inside : path.dropLast ≠ [] := by
              intro atRoot
              apply apart
              have present : path ≠ [] := by
                rintro rfl
                exact absurd marked (by decide)
              rw [← dropLast_leafOf present, atRoot, ← whole, isUpper]
              rfl
            rw [isUpper]
            apply (based.remove_upper properParent (Or.inl inside)).mono
            rintro _ after ⟨notDir, rfl⟩
            refine ⟨path, rfl, ?_⟩
            rw [markTree, if_neg isOpaque, if_pos marked]
            simp only [isUpper, if_true]
            cases reached : reaches after [] path.dropLast with
            | false => rfl
            | true => simp [notDir reached]
          · have leafProper : (leafOf path).drop whiteout.length = current ∨
                Proper ((leafOf path).drop whiteout.length) := by
              by_cases isCurrent : (leafOf path).drop whiteout.length = current
              · exact Or.inl isCurrent
              · exact Or.inr ⟨nonempty, isCurrent, isUpper⟩
            apply (based.remove_leaf properParent leafProper).mono
            rintro _ after rfl
            refine ⟨path, rfl, ?_⟩
            rw [markTree, if_neg isOpaque, if_pos marked]
            simp only [isUpper, if_false]
            cases reached : reaches tree [] path.dropLast <;> simp
        · rw [if_neg marked]
          refine follows_pure based ⟨path, rfl, ?_⟩
          rw [markTree, if_neg isOpaque, if_neg marked]

theorem Based.marks_tree [Process] {py : Builtins} {base : Path} {fs tree : Fs}
    (based : Based base fs tree) {members : List Member}
    (apart : ∀ member ∈ members, memberPath py member.name ≠ .ok parentMark) :
    Follows base fs (marks py base members fs)
      (fun _ after => marksTree py tree members = some after) := by
  induction members generalizing fs tree with
  | nil => exact follows_pure based rfl
  | cons member rest ih =>
      rw [marks]
      apply (based.mark_tree (apart member (List.mem_cons_self ..))).bind
      rintro _ after next nextBased ⟨path, read, marked⟩
      apply (ih nextBased fun other found => apart other (List.mem_cons_of_mem _ found)).mono
      intro _ last ended
      rw [marksTree, read]
      simp only [marked, ended]

theorem linked_eq_some {py : Builtins} {tree : Fs} {prefixes : List Path} {linkname : Name}
    {source : Path} {node : Node} (read : memberPath py linkname = .ok source)
    (isWanted : wanted prefixes source = true) (reached : reaches tree [] source.dropLast = true)
    (held : PyDict.get tree source = some node) (notDir : node.isDir = false) :
    linked py tree prefixes linkname = some node := by
  rw [linked, read]
  simp only [isWanted, reached, Bool.and_self, if_true, held]
  cases node with
  | dir mode => cases notDir
  | file data mode => rfl
  | link target => rfl

theorem get_prune_parent (tree : Fs) (done : Path) (leaf : Name) :
    PyDict.get (prune tree (done ++ [leaf])) done = PyDict.get tree done := by
  rw [get_prune, if_neg]
  intro under
  simpa using under.length_le

section Writes

variable [Process] {py : Builtins} {base : Path} {fs tree : Fs} (based : Based base fs tree)
  {done : Path} {leaf : Name} (proper : ∀ name ∈ done ++ [leaf], Proper name)

include based proper

/-- Where a member goes: the directories on the way are there now. -/
theorem Based.target_entry : Follows base fs (targetOf base (done ++ [leaf]) fs)
    (fun target after => target = base ++ (done ++ [leaf]) ∧
      makeDirs tree [] done = some after ∧ reaches after [] done = true) := by
  have properDone : ∀ name ∈ done, Proper name := fun name found =>
    proper name (List.mem_append_left _ found)
  have leafProper := proper leaf (by simp)
  unfold targetOf
  rw [List.dropLast_concat]
  apply (based.realDir_make done rfl properDone).bind
  rintro found after next nextBased ⟨rfl, made, reached⟩
  refine follows_pure nextBased ⟨?_, made, reached⟩
  have last : leafOf (done ++ [leaf]) = leaf := by simp [leafOf]
  rw [last, child, if_neg (not_or.mpr ⟨leafProper.1, leafProper.2.1⟩)]
  simp

omit [Process] in
/-- A node in place of what stood there. -/
theorem Based.put_entry {β : Type} {next : Disk β} {ends : β → Fs → Prop}
    {put : Fs → Except Errno Fs} (node : Node) (reached : reaches tree [] done = true)
    (puts : ∀ after, Based base after (prune tree (done ++ [leaf])) →
      put after = create after (base ++ (done ++ [leaf])) node)
    (rest : ∀ after, Based base after (putNode tree (done ++ [leaf]) node) →
      Follows base after (next after) ends) :
    Follows base fs ((do
      clear (base ++ (done ++ [leaf]))
      alter put
      next) fs) ends := by
  apply (based.clear_entry reached proper).bind
  rintro _ after _ cleared rfl
  rw [bind_apply, @alter_congr put (fun fs => create fs _ node) after (puts after cleared),
    ← bind_apply]
  have stillReached : reaches (prune tree (done ++ [leaf])) [] done = true := by
    rw [reaches_prune]
    exact reached
  have absent : PyDict.get (prune tree (done ++ [leaf])) (done ++ [leaf]) = none := by
    rw [get_prune, if_pos List.prefix_rfl]
  apply (cleared.create_entry node stillReached proper absent).bind
  rintro _ last _ put ⟨_, rfl⟩
  exact rest last put

/-- The hard link of a member, where nothing stands. -/
theorem Based.link_entry {prefixes : List Path} {linkname : Name}
    (reached : reaches tree [] done = true)
    (absent : PyDict.get tree (done ++ [leaf]) = none) :
    Follows base fs (writeLink py base prefixes (done ++ [leaf]) (base ++ (done ++ [leaf]))
        linkname fs)
      (fun _ after => ∃ node, linked py tree prefixes linkname = some node ∧
        after = PyDict.set tree (done ++ [leaf]) node) := by
  unfold writeLink
  cases read : memberPath py linkname with
  | error failure => exact ⟨Outside.refl base fs, fun _ isOk => by cases isOk⟩
  | ok source =>
      have sourceProper := proper_of_memberPath read
      rw [bind_apply, lift]
      dsimp only
      by_cases isWanted : wanted prefixes source = true
      · rw [if_neg (by simp [isWanted])]
        rw [bind_apply, based.realDir_found fun name found =>
          sourceProper name (List.mem_of_mem_dropLast found)]
        by_cases sourceReached : reaches tree [] source.dropLast = true
        · simp only [sourceReached, if_true]
          -- What the link is made to, by what stands there.
          have linkTo {place : Path} (real : Real fs place)
              (same : PyDict.get fs place = PyDict.get tree source) :
              Follows base fs (alter (fun fs => Posix.link fs place (base ++ (done ++ [leaf]))) fs)
                (fun _ after => ∃ node, linked py tree prefixes linkname = some node ∧
                  after = PyDict.set tree (done ++ [leaf]) node) := by
            have linking := @link_real fs place (base ++ (done ++ [leaf])) real
            rw [same] at linking
            have linkNode {node : Node} (held : PyDict.get tree source = some node)
                (notDir : node.isDir = false)
                (made : Posix.link fs place (base ++ (done ++ [leaf])) =
                  create fs (base ++ (done ++ [leaf])) node) :
                Follows base fs
                  (alter (fun fs => Posix.link fs place (base ++ (done ++ [leaf]))) fs)
                  (fun _ after => ∃ node, linked py tree prefixes linkname = some node ∧
                    after = PyDict.set tree (done ++ [leaf]) node) := by
              rw [@alter_congr _ (fun fs => create fs (base ++ (done ++ [leaf])) node) fs made]
              apply (based.create_entry node reached proper absent).mono
              rintro _ after ⟨_, ended⟩
              exact ⟨node, linked_eq_some read isWanted sourceReached held notDir, ended⟩
            cases held : PyDict.get tree source with
            | none =>
                rw [held] at linking
                exact follows_alter_error linking
            | some node =>
                rw [held] at linking
                cases node with
                | dir mode => exact follows_alter_error linking
                | file data mode => exact linkNode held rfl linking
                | link target => exact linkNode held rfl linking
          by_cases atRoot : source = []
          · rw [atRoot]
            have named : child (base ++ List.dropLast []) (leafOf []) = base := by
              simp [child, leafOf]
            rw [atRoot] at linkTo
            rw [named]
            apply linkTo based.real
            rw [← based.same [], List.append_nil]
          · have named : child (base ++ source.dropLast) (leafOf source) = base ++ source := by
              have last := dropLast_leafOf atRoot
              have lastProper := sourceProper (leafOf source) (leafOf_mem atRoot)
              rw [child, if_neg (not_or.mpr ⟨lastProper.1, lastProper.2.1⟩), List.append_assoc,
                last]
            rw [named, ← dropLast_leafOf atRoot]
            rw [← dropLast_leafOf atRoot] at linkTo sourceProper
            cases root : isDir tree [] with
            | true => exact linkTo (based.real_entry root sourceReached sourceProper) (based.same _)
            | false =>
                apply follows_alter_error
                rw [Posix.link, based.locate_gone root]
        · simp only [sourceReached, if_false, Bool.false_eq_true]
          exact follows_raise
      · rw [if_pos (by simp [isWanted])]
        exact follows_raise

theorem Based.write_entry {prefixes : List Path} {member : Member} {modes : PyDict Path Nat} :
    Follows base fs (write py base prefixes member (done ++ [leaf]) modes fs)
      (fun value after => writeTree py prefixes member (done ++ [leaf]) tree = some after ∧
        value = writeModes member (done ++ [leaf]) modes) := by
  unfold write writeTree writeModes
  rw [List.dropLast_concat]
  cases kind : member.kind with
  | other => exact follows_pure based ⟨rfl, rfl⟩
  | directory =>
      apply (based.target_entry proper).bind
      rintro _ after next nextBased ⟨rfl, made, reached⟩
      rw [bind_apply, nextBased.realDir_found proper]
      simp only [made, Option.map_some]
      by_cases present : reaches next [] (done ++ [leaf]) = true
      · simp only [present, if_true, Option.isNone_some, Bool.false_eq_true, if_false]
        exact follows_pure nextBased ⟨rfl, rfl⟩
      · simp only [present, if_false, Option.isNone_none, Bool.false_eq_true, if_true]
        apply nextBased.put_entry proper (Posix.made (PyDict.get next done) 0o755) reached
        · intro last cleared
          rw [cleared.mkdir_create 0o755 _ proper, get_prune_parent]
          rw [reaches_prune]
          exact reached
        · intro last put
          exact follows_pure put ⟨rfl, rfl⟩
  | regular data =>
      apply (based.target_entry proper).bind
      rintro _ after next nextBased ⟨rfl, made, reached⟩
      simp only [made, Option.map_some]
      apply nextBased.put_entry proper (.file data member.kept) reached fun _ _ => rfl
      intro last put
      exact follows_pure put ⟨rfl, rfl⟩
  | symlink =>
      apply (based.target_entry proper).bind
      rintro _ after next nextBased ⟨rfl, made, reached⟩
      simp only [made, Option.map_some]
      by_cases empty : member.linkname = []
      · apply (nextBased.clear_entry reached proper).bind
        rintro _ last _ cleared rfl
        have failed : Posix.symlink last member.linkname (base ++ (done ++ [leaf])) =
            .error .noEntry := by
          rw [Posix.symlink, if_pos empty]
        rw [bind_apply, alter, failed]
        exact follows_raise
      · apply nextBased.put_entry proper (.link member.linkname) reached
        · intro last _
          rw [Posix.symlink, if_neg empty]
        · intro last put
          exact follows_pure put ⟨rfl, rfl⟩
  | hardlink =>
      apply (based.target_entry proper).bind
      rintro _ after next nextBased ⟨rfl, made, reached⟩
      simp only [made, Option.bind_some]
      apply (nextBased.clear_entry reached proper).bind
      rintro _ last _ cleared rfl
      have stillReached : reaches (prune next (done ++ [leaf])) [] done = true := by
        rw [reaches_prune]
        exact reached
      have absent : PyDict.get (prune next (done ++ [leaf])) (done ++ [leaf]) = none := by
        rw [get_prune, if_pos List.prefix_rfl]
      apply (cleared.link_entry proper stillReached absent).bind
      rintro _ final _ put ⟨node, isLinked, rfl⟩
      refine follows_pure put ⟨?_, rfl⟩
      rw [isLinked]
      rfl

end Writes

theorem Based.writes_tree [Process] {py : Builtins} {base : Path} {fs tree : Fs}
    (based : Based base fs tree) {prefixes : List Path} {members : List Member}
    {modes : PyDict Path Nat} :
    Follows base fs (writes py base prefixes members modes fs) (fun value after =>
      writesTree py prefixes members (tree, modes) = some (after, value)) := by
  induction members generalizing fs tree modes with
  | nil => exact follows_pure based rfl
  | cons member rest ih =>
      unfold writes writesTree
      cases read : memberPath py member.name with
      | error failure => exact ⟨Outside.refl base fs, fun _ isOk => by cases isOk⟩
      | ok path =>
          rw [bind_apply, lift]
          dsimp only
          by_cases isWritten : written prefixes path = true
          · rw [if_pos isWritten, if_pos isWritten]
            have nonempty : path ≠ [] := by
              rintro rfl
              simp [written] at isWritten
            have proper := proper_of_memberPath read
            rw [← dropLast_leafOf nonempty] at proper ⊢
            apply (based.write_entry proper).bind
            rintro value after next nextBased ⟨put, rfl⟩
            simp only [put]
            exact ih nextBased
          · rw [if_neg isWritten, if_neg isWritten]
            exact ih based

/-- No member of the layer is a whiteout that names the parent of the tree. -/
def Layer.KeepsParent (py : Builtins) (layer : Layer) : Prop :=
  ∀ member ∈ layer.members, memberPath py member.name ≠ .ok parentMark

theorem Based.layer_tree [Process] {py : Builtins} {base : Path} {fs tree : Fs}
    (based : Based base fs tree) {prefixes : List Path} {layer : Layer}
    {modes : PyDict Path Nat} (keeps : layer.KeepsParent py) :
    Follows base fs (applyLayer py base prefixes layer modes fs) (fun value after =>
      layerTree py prefixes layer (tree, modes) = some (after, value)) := by
  unfold applyLayer layerTree
  apply (based.marks_tree keeps).bind
  intro _ after next nextBased marked
  simp only [marked]
  by_cases broken : layer.broken = true
  · rw [if_pos broken, if_pos broken]
    exact follows_raise
  · rw [if_neg broken, if_neg broken]
    exact nextBased.writes_tree

/-- A directory with nothing in it. -/
theorem based_empty {base : Path} {fs : Fs} {mode : Nat} (real : Real fs base)
    (nonempty : base ≠ []) (held : PyDict.get fs base = some (.dir mode))
    (nothing : ∀ name more, PyDict.get fs (base ++ name :: more) = none) :
    Based base fs [([], .dir mode)] := by
  have atRoot {path : Path} (present : PyDict.get [([], Node.dir mode)] path ≠ none) :
      path = [] := by
    rw [PyDict.get_cons] at present
    split at present
    · rename_i same
      exact same.symm
    · exact absurd rfl present
  refine ⟨real, nonempty, ?_, ?_, ?_, ?_⟩
  · intro rel
    cases rel with
    | nil =>
        rw [List.append_nil, held]
        rfl
    | cons name more => exact nothing name more
  · intro path present name found
    rw [atRoot present] at found
    cases found
  · intro path name present
    exact absurd (atRoot present) (by simp)
  · intro node found
    cases found
    rfl

/-- `/tree`, with nothing in it. -/
def emptyTree : Fs :=
  [([], .dir 0o755), (["tree".toList], .dir 0o755)]

theorem based_emptyTree : Based ["tree".toList] emptyTree [([], .dir 0o755)] := by
  have proper : ∀ name ∈ ["tree".toList], Proper name := by decide
  refine based_empty ⟨proper, ?_⟩ (by decide) (by decide) ?_
  · intro parent under other
    rcases List.prefix_cons_iff.mp under with rfl | ⟨rest, rfl, inside⟩
    · decide
    · rw [List.prefix_nil.mp inside] at other
      exact absurd rfl other
  · intro name more
    simp [emptyTree, PyDict.get_cons]

/-- The umask that most processes run with. -/
abbrev usual : Process :=
  ⟨0o022⟩

/-- A layer that puts a file in place, and one that takes it away through a whiteout. -/
def emptyLayers : List Layer :=
  [⟨[⟨"app/bin".toList, .regular [104, 105], 0o755, []⟩], false⟩,
    ⟨[⟨"app/.wh.bin".toList, .regular [], 0o644, []⟩], false⟩]

/-- Layer after layer, nothing outside the tree changes, and the tree is the one
that the layers make. -/
theorem Based.layers_tree [Process] {py : Builtins} {base : Path} {fs tree : Fs}
    (based : Based base fs tree) {prefixes : List Path} {layers : List Layer}
    {modes : PyDict Path Nat} (keep : ∀ layer ∈ layers, layer.KeepsParent py) :
    Follows base fs (applyLayers py base prefixes layers modes fs) (fun value after =>
      layersTree py prefixes layers (tree, modes) = some (after, value)) := by
  induction layers generalizing fs tree modes with
  | nil => exact follows_pure based rfl
  | cons layer rest ih =>
      unfold applyLayers layersTree
      apply (based.layer_tree (keep layer (List.mem_cons_self ..))).bind
      intro value after next nextBased layered
      simp only [layered]
      exact ih nextBased fun other found => keep other (List.mem_cons_of_mem _ found)

theorem sample_layers_tree : Follows ["tree".toList] emptyTree
    (@applyLayers usual Builtins.unused ["tree".toList] [["app".toList]] emptyLayers [] emptyTree)
    (fun value after => @layersTree usual Builtins.unused [["app".toList]] emptyLayers
      ([([], .dir 0o755)], []) = some (after, value)) :=
  @Based.layers_tree usual _ _ _ _ based_emptyTree _ _ _
    (by unfold Layer.KeepsParent; decide +kernel)

/-- A part leaves what is outside the directory of its tree alone, and all that is
outside the tree when it returns. -/
structure Stays {α : Type} (base : Path) (fs : Fs) (outcome : Except Failure α × Fs)
    (ends : α → Fs → Prop) : Prop where
  outside : Outside base.dropLast fs outcome.2
  above : PyDict.get outcome.2 base.dropLast = PyDict.get fs base.dropLast
  ends : ∀ value, outcome.1 = .ok value → Outside base fs outcome.2 ∧
    ∃ tree, Based base outcome.2 tree ∧ ends value tree

theorem Outside.widen {base : Path} {before after : Fs} (outside : Outside base before after) :
    Outside base.dropLast before after :=
  fun path apart => outside path fun under => apart ((List.dropLast_prefix base).trans under)

theorem not_prefix_dropLast {path : Path} (nonempty : path ≠ []) : ¬ path <+: path.dropLast := by
  intro under
  have bound := under.length_le
  rw [List.length_dropLast] at bound
  have positive := List.length_pos_iff.mpr nonempty
  omega

theorem Follows.stays {α : Type} {base : Path} {fs : Fs} {outcome : Except Failure α × Fs}
    {ends : α → Fs → Prop} (nonempty : base ≠ []) (follows : Follows base fs outcome ends) :
    Stays base fs outcome ends :=
  ⟨follows.outside.widen, follows.outside _ (not_prefix_dropLast nonempty),
    fun value isOk => ⟨follows.outside, follows.ends value isOk⟩⟩

theorem Stays.bind {α β : Type} {base : Path} {fs : Fs} {part : Disk α}
    {next : α → Disk β} {middle : α → Fs → Prop} {ends : β → Fs → Prop}
    (first : Stays base fs (part fs) middle)
    (rest : ∀ value after tree, Based base after tree → middle value tree →
      Stays base after (next value after) ends) :
    Stays base fs ((part >>= next) fs) ends := by
  cases came : part fs with
  | mk outcome after =>
      rw [came] at first
      cases outcome with
      | error failure =>
          rw [bind_apply, came]
          exact ⟨first.outside, first.above, fun value isOk => by cases isOk⟩
      | ok value =>
          rw [bind_apply, came]
          obtain ⟨outside, tree, based, ended⟩ := first.ends value rfl
          have onward := rest value after tree based ended
          refine ⟨first.outside.trans onward.outside, onward.above.trans first.above, ?_⟩
          intro other isOk
          obtain ⟨outsideNext, further⟩ := onward.ends other isOk
          exact ⟨outside.trans outsideNext, further⟩

/-- The whiteout that names the parent of the tree empties it, and raises. -/
theorem Based.mark_parent [Process] {py : Builtins} {base : Path} {fs tree : Fs}
    (based : Based base fs tree) {member : Member}
    (read : memberPath py member.name = .ok parentMark) :
    Stays base fs (mark py base member fs) (fun _ after =>
      ∃ path, memberPath py member.name = .ok path ∧ markTree tree path = some after) := by
  have marking : mark py base member fs = remove base [] upper fs := by
    unfold mark
    rw [read]
    rfl
  have named : child (base ++ []) upper = base ++ [] ++ [upper] := by
    rw [child, if_neg (by decide)]
  cases root : isDir tree [] with
  | false =>
      rw [marking]
      apply ((based.remove_upper (by simp) (Or.inr root)).mono _).stays based.nonempty
      rintro _ after ⟨_, rfl⟩
      refine ⟨parentMark, read, ?_⟩
      have marked : markTree after parentMark =
          if isDir after [] then none else some after := rfl
      rw [marked, root]
      rfl
  | true =>
      have directory : isDir fs base = true := by
        rw [based.isDir_base]
        exact root
      have located := locate_upper based.real directory
      have above : isDir fs base.dropLast = true := by
        apply based.real.parents _ (List.dropLast_prefix base)
        intro same
        apply not_prefix_dropLast based.nonempty
        rw [same]
      obtain ⟨mode, held⟩ := isDir_eq_true.mp above
      have looked : lstat fs (base ++ [] ++ [upper]) = .ok (some (.dir mode)) := by
        rw [List.append_nil, lstat, located, ← held]
      have emptied : ∃ errno, rmtree (base ++ [] ++ [upper]) fs =
          (.error (.os errno), pruneBelow fs base.dropLast) := by
        rw [List.append_nil, rmtree, Posix.rmtree, located]
        simp [above]
      obtain ⟨errno, cleared⟩ := emptied
      have raised : mark py base member fs =
          (.error (.os errno), pruneBelow fs base.dropLast) := by
        rw [marking, remove, bind_apply, based.realDir_found (by simp)]
        simp only [reaches, if_true, named]
        unfold clear
        rw [look_bind looked]
        exact cleared
      rw [raised]
      refine ⟨?_, ?_, fun _ isOk => by cases isOk⟩
      · intro path apart
        rw [get_pruneBelow, if_neg fun under => apart under.1]
      · rw [get_pruneBelow, if_neg fun under => under.2 rfl]

theorem Based.marks_stay [Process] {py : Builtins} {base : Path} {fs tree : Fs}
    (based : Based base fs tree) (members : List Member) :
    Stays base fs (marks py base members fs)
      (fun _ after => marksTree py tree members = some after) := by
  induction members generalizing fs tree with
  | nil =>
      apply Follows.stays based.nonempty
      exact follows_pure based rfl
  | cons member rest ih =>
      have marking : Stays base fs (mark py base member fs) (fun _ after =>
          ∃ path, memberPath py member.name = .ok path ∧ markTree tree path = some after) := by
        by_cases isParent : memberPath py member.name = .ok parentMark
        · exact based.mark_parent isParent
        · exact (based.mark_tree isParent).stays based.nonempty
      rw [marks]
      apply marking.bind
      rintro _ after next nextBased ⟨path, read, marked⟩
      rw [marksTree, read]
      simp only [marked]
      exact ih nextBased

theorem Based.layer_stays [Process] {py : Builtins} {base : Path} {fs tree : Fs}
    (based : Based base fs tree) {prefixes : List Path} {layer : Layer}
    {modes : PyDict Path Nat} :
    Stays base fs (applyLayer py base prefixes layer modes fs) (fun value after =>
      layerTree py prefixes layer (tree, modes) = some (after, value)) := by
  unfold applyLayer layerTree
  apply (based.marks_stay layer.members).bind
  intro _ after next nextBased marked
  simp only [marked]
  by_cases broken : layer.broken = true
  · rw [if_pos broken, if_pos broken]
    exact follows_raise.stays nextBased.nonempty
  · rw [if_neg broken, if_neg broken]
    exact nextBased.writes_tree.stays nextBased.nonempty

theorem Based.layers_stay [Process] {py : Builtins} {base : Path} {fs tree : Fs}
    (based : Based base fs tree) {prefixes : List Path} {layers : List Layer}
    {modes : PyDict Path Nat} :
    Stays base fs (applyLayers py base prefixes layers modes fs) (fun value after =>
      layersTree py prefixes layers (tree, modes) = some (after, value)) := by
  induction layers generalizing fs tree modes with
  | nil =>
      apply Follows.stays based.nonempty
      exact follows_pure based rfl
  | cons layer rest ih =>
      unfold applyLayers layersTree
      apply based.layer_stays.bind
      intro value after next nextBased layered
      simp only [layered]
      exact ih nextBased

theorem sample_layers_stay : Stays ["tree".toList] emptyTree
    (@applyLayers usual Builtins.unused ["tree".toList] [["app".toList]] emptyLayers [] emptyTree)
    (fun value after => @layersTree usual Builtins.unused [["app".toList]] emptyLayers
      ([([], .dir 0o755)], []) = some (after, value)) :=
  @Based.layers_stay usual _ _ _ _ based_emptyTree _ _ _

end Catena.Fetch

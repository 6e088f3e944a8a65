import Mathlib.Data.List.Induction
import Catena.FetchRelease

/-!
# The staging tree on its own

What unpacking does to the staging tree, by the paths inside it and without a
walk: `none` where it raises.  The program, run on a whole file system, changes
nothing outside its tree and does inside it what is done here, unless a whiteout
names the parent of the tree.
-/

namespace Catena.Fetch

open PyText Posix

/-- The components after `done` lead through directories. -/
def reaches (tree : Fs) (done : Path) : List Name → Bool
  | [] => true
  | part :: rest => isDir tree (done ++ [part]) && reaches tree (done ++ [part]) rest

/-- The directories a member needs. -/
def makeDirs [Process] (tree : Fs) (done : Path) : List Name → Option Fs
  | [] => some tree
  | part :: rest =>
      match PyDict.get tree (done ++ [part]) with
      | some (.dir _) => makeDirs tree (done ++ [part]) rest
      | some (.link _) => none
      | some (.file _ _) =>
          makeDirs (PyDict.set tree (done ++ [part]) (made (PyDict.get tree done) 0o755))
            (done ++ [part]) rest
      | none =>
          if isDir tree done then
            makeDirs (PyDict.set tree (done ++ [part]) (made (PyDict.get tree done) 0o755))
            (done ++ [part]) rest
          else none

/-- A node in place of what stands at a path. -/
def putNode (tree : Fs) (path : Path) (node : Node) : Fs :=
  PyDict.set (prune tree path) path node

def markTree (tree : Fs) (path : Path) : Option Fs :=
  if leafOf path = opaqueMarker then
    if reaches tree [] path.dropLast then some (pruneBelow tree path.dropLast) else some tree
  else if isWhiteout (leafOf path) then
    let leaf := (leafOf path).drop whiteout.length
    if !reaches tree [] path.dropLast then some tree
    else if leaf = upper then
      if isDir tree path.dropLast then none else some tree
    else some (prune tree (child path.dropLast leaf))
  else some tree

section Members

variable [Process] (py : Builtins)

def marksTree (tree : Fs) : List Member → Option Fs
  | [] => some tree
  | member :: rest =>
      match memberPath py member.name with
      | .error _ => none
      | .ok path =>
          match markTree tree path with
          | none => none
          | some next => marksTree next rest

/-- The node a hard link gives a second name to. -/
def linked (tree : Fs) (prefixes : List Path) (linkname : Name) : Option Node :=
  match memberPath py linkname with
  | .error _ => none
  | .ok source =>
      if wanted prefixes source && reaches tree [] source.dropLast then
        match PyDict.get tree source with
        | some (.dir _) => none
        | node => node
      else none

/-- A member, put in its place. -/
def writeTree (prefixes : List Path) (member : Member) (path : Path) (tree : Fs) : Option Fs :=
  match member.kind with
  | .other => some tree
  | .directory => (makeDirs tree [] path.dropLast).map fun tree =>
      if reaches tree [] path then tree else putNode tree path (made (PyDict.get tree path.dropLast) 0o755)
  | .regular data => (makeDirs tree [] path.dropLast).map fun tree =>
      putNode tree path (.file data member.kept)
  | .symlink => (makeDirs tree [] path.dropLast).map fun tree =>
      putNode tree path (.link member.linkname)
  | .hardlink => (makeDirs tree [] path.dropLast).bind fun tree =>
      (linked py (prune tree path) prefixes member.linkname).map (putNode tree path)

/-- The modes after a member. -/
def writeModes (member : Member) (path : Path) (modes : PyDict Path Nat) : PyDict Path Nat :=
  match member.kind with
  | .directory => PyDict.set modes path member.kept
  | _ => modes

def writesTree (prefixes : List Path) :
    List Member → Fs × PyDict Path Nat → Option (Fs × PyDict Path Nat)
  | [], state => some state
  | member :: rest, state =>
      match memberPath py member.name with
      | .error _ => none
      | .ok path =>
          if written prefixes path then
            match writeTree py prefixes member path state.1 with
            | none => none
            | some tree => writesTree prefixes rest (tree, writeModes member path state.2)
          else writesTree prefixes rest state

def layerTree (prefixes : List Path) (layer : Layer) (state : Fs × PyDict Path Nat) :
    Option (Fs × PyDict Path Nat) :=
  match marksTree py state.1 layer.members with
  | none => none
  | some tree =>
      if layer.broken then none else writesTree py prefixes layer.members (tree, state.2)

def layersTree (prefixes : List Path) :
    List Layer → Fs × PyDict Path Nat → Option (Fs × PyDict Path Nat)
  | [], state => some state
  | layer :: rest, state =>
      match layerTree py prefixes layer state with
      | none => none
      | some next => layersTree prefixes rest next

end Members

/-- What a tree of files is: its names are names of entries, a parent is a
directory, and so is the root. -/
structure WellFormed (tree : Fs) : Prop where
  proper : ∀ path, PyDict.get tree path ≠ none → ∀ name ∈ path, Proper name
  closed : ∀ path name, PyDict.get tree (path ++ [name]) ≠ none → isDir tree path = true
  root : ∀ node, PyDict.get tree [] = some node → node.isDir = true

theorem isDir_of_get {tree : Fs} {path : Path} {mode : Nat}
    (held : PyDict.get tree path = some (.dir mode)) : isDir tree path = true :=
  isDir_eq_true.mpr ⟨mode, held⟩

theorem get_ne_none_of_isDir {tree : Fs} {path : Path} (directory : isDir tree path = true) :
    PyDict.get tree path ≠ none := by
  obtain ⟨mode, held⟩ := isDir_eq_true.mp directory
  rw [held]
  exact Option.some_ne_none _

theorem isDir_congr {first second : Fs} {path other : Path}
    (same : PyDict.get first path = PyDict.get second other) :
    isDir first path = isDir second other := by
  rw [isDir, isDir, same]

theorem reaches_append (tree : Fs) (done first second : Path) :
    reaches tree done (first ++ second) =
      (reaches tree done first && reaches tree (done ++ first) second) := by
  induction first generalizing done with
  | nil => simp [reaches]
  | cons part rest ih =>
      rw [List.cons_append, reaches, reaches, ih, Bool.and_assoc, List.append_assoc,
        List.singleton_append]

theorem reaches_congr {first second : Fs} {done todo : Path}
    (same : ∀ more, more <+: todo → more ≠ [] →
      isDir first (done ++ more) = isDir second (done ++ more)) :
    reaches first done todo = reaches second done todo := by
  induction todo generalizing done with
  | nil => rfl
  | cons part rest ih =>
      have here := same [part] (List.prefix_append [part] rest) (List.cons_ne_nil _ _)
      rw [reaches, reaches, here, ih]
      intro more under _
      rw [List.append_assoc]
      exact same (part :: more) (List.cons_prefix_cons.mpr ⟨rfl, under⟩) (List.cons_ne_nil _ _)

/-- What leads to a directory does not depend on its entries. -/
theorem reaches_set (tree : Fs) (done : Path) (leaf : Name) (node : Node) :
    reaches (PyDict.set tree (done ++ [leaf]) node) [] done = reaches tree [] done := by
  apply reaches_congr
  intro more under _
  rw [List.nil_append, isDir, isDir, PyDict.get_set_ne]
  rintro rfl
  exact absurd under.length_le (by simp)

/-- What leads through directories is one, but for the root itself. -/
theorem isDir_of_reaches {tree : Fs} {path : Path} (reached : reaches tree [] path = true)
    (nonempty : path ≠ []) : isDir tree path = true := by
  obtain ⟨before, leaf, rfl⟩ := List.eq_nil_or_concat path |>.resolve_left nonempty
  rw [List.concat_eq_append, reaches_append, Bool.and_eq_true] at reached
  have last := reached.2
  rw [reaches, Bool.and_eq_true] at last
  rw [List.concat_eq_append]
  exact last.1

theorem isDir_done {tree : Fs} {done : Path} (root : isDir tree [] = true)
    (reached : reaches tree [] done = true) : isDir tree done = true := by
  by_cases atRoot : done = []
  · rw [atRoot]
    exact root
  · exact isDir_of_reaches reached atRoot

theorem reaches_front {tree : Fs} {path before : Path} (under : before <+: path)
    (reached : reaches tree [] path = true) : reaches tree [] before = true := by
  obtain ⟨more, rfl⟩ := under
  rw [reaches_append, Bool.and_eq_true] at reached
  exact reached.1

namespace WellFormed

variable {tree : Fs} (wellFormed : WellFormed tree)

include wellFormed

/-- What is below something is below a directory. -/
theorem isDir_of_below {path below : Path} (under : path <+: below) (other : path ≠ below)
    (present : PyDict.get tree below ≠ none) : isDir tree path = true := by
  obtain ⟨more, rfl⟩ := under
  induction more using List.reverseRecOn with
  | nil => exact absurd (List.append_nil path).symm other
  | append_singleton more name ih =>
      rw [← List.append_assoc] at present
      have parent := wellFormed.closed (path ++ more) name present
      by_cases whole : more = []
      · rw [whole, List.append_nil] at parent
        exact parent
      · apply ih
        · exact fun same => whole (List.self_eq_append_right.mp same)
        · exact get_ne_none_of_isDir parent

/-- Where nothing stands, nothing stands below; nor where no directory does. -/
theorem none_below {path below : Path} (notDir : isDir tree path = false)
    (under : path <+: below) (other : path ≠ below) : PyDict.get tree below = none := by
  by_contra present
  rw [wellFormed.isDir_of_below under other present] at notDir
  cases notDir

theorem reaches_of_isDir {done todo : Path} (directory : isDir tree (done ++ todo) = true) :
    reaches tree done todo = true := by
  induction todo generalizing done with
  | nil => rfl
  | cons part rest ih =>
      have split : done ++ part :: rest = done ++ [part] ++ rest := by simp
      rw [split] at directory
      rw [reaches, ih directory, Bool.and_true]
      by_cases whole : rest = []
      · rw [whole, List.append_nil] at directory
        exact directory
      · apply wellFormed.isDir_of_below (List.prefix_append _ rest)
        · exact fun same => whole (List.self_eq_append_right.mp same)
        · exact get_ne_none_of_isDir directory

theorem congr {other : Fs} (same : ∀ path, PyDict.get other path = PyDict.get tree path) :
    WellFormed other where
  proper path present := wellFormed.proper path (same path ▸ present)
  closed path name present := by
    rw [isDir_congr (same path)]
    exact wellFormed.closed path name (same _ ▸ present)
  root node held := wellFormed.root node (same [] ▸ held)

theorem set {done : Path} {leaf : Name} {node : Node} (parent : isDir tree done = true)
    (proper : ∀ name ∈ done ++ [leaf], Proper name)
    (childless : node.isDir = true ∨ isDir tree (done ++ [leaf]) = false) :
    WellFormed (PyDict.set tree (done ++ [leaf]) node) where
  proper path present := by
    rw [PyDict.get_set] at present
    split at present
    · rename_i same
      rw [← same]
      exact proper
    · exact wellFormed.proper path present
  closed path name present := by
    rw [PyDict.get_set] at present
    have atParent : path = done ∨ isDir tree path = true := by
      split at present
      · rename_i same
        exact Or.inl (List.append_inj_left' same rfl).symm
      · exact Or.inr (wellFormed.closed path name present)
    have isParent : isDir tree path = true := by
      rcases atParent with rfl | isDirectory
      · exact parent
      · exact isDirectory
    by_cases atLeaf : done ++ [leaf] = path
    · rw [isDir, PyDict.get_set, if_pos atLeaf]
      rcases childless with isDirectory | notDirectory
      · exact isDirectory
      · rw [atLeaf, isParent] at notDirectory
        cases notDirectory
    · rw [isDir, PyDict.get_set, if_neg atLeaf]
      exact isParent
  root node held := by
    rw [PyDict.get_set, if_neg (by simp)] at held
    exact wellFormed.root node held

theorem prune (path : Path) : WellFormed (prune tree path) where
  proper other present := by
    rw [get_prune] at present
    split at present
    · exact absurd rfl present
    · exact wellFormed.proper other present
  closed other name present := by
    rw [get_prune] at present
    split at present
    · exact absurd rfl present
    · rename_i outside
      rw [isDir, get_prune, if_neg fun under => outside (under.trans (List.prefix_append ..))]
      exact wellFormed.closed other name present
  root node held := by
    rw [get_prune] at held
    split at held
    · cases held
    · exact wellFormed.root node held

end WellFormed

/-- The file system holds the tree at `base`, which real directories lead to. -/
structure Based (base : Path) (fs tree : Fs) : Prop where
  real : Real fs base
  nonempty : base ≠ []
  same : ∀ rel, PyDict.get fs (base ++ rel) = PyDict.get tree rel
  wellFormed : WellFormed tree

/-- Everything outside the tree is as it was. -/
def Outside (base : Path) (before after : Fs) : Prop :=
  ∀ path, ¬ base <+: path → PyDict.get after path = PyDict.get before path

theorem Outside.refl (base : Path) (fs : Fs) : Outside base fs fs :=
  fun _ _ => rfl

theorem Outside.trans {base : Path} {first second third : Fs}
    (before : Outside base first second) (after : Outside base second third) :
    Outside base first third :=
  fun path outside => (after path outside).trans (before path outside)

/-- Where the tree stands does not change. -/
theorem Outside.real {base : Path} {before after : Fs} (outside : Outside base before after)
    (real : Real before base) : Real after base where
  proper := real.proper
  parents parent under other := by
    rw [isDir_congr (outside parent fun above => other (under.eq_of_length_le above.length_le))]
    exact real.parents parent under other

/-- A part leaves what is outside alone, and what it returns when it does holds
of the tree it leaves. -/
structure Follows {α : Type} (base : Path) (fs : Fs) (outcome : Except Failure α × Fs)
    (ends : α → Fs → Prop) : Prop where
  outside : Outside base fs outcome.2
  ends : ∀ value, outcome.1 = .ok value →
    ∃ tree, Based base outcome.2 tree ∧ ends value tree

theorem Follows.bind {α β : Type} {base : Path} {fs : Fs} {part : Disk α}
    {next : α → Disk β} {middle : α → Fs → Prop} {ends : β → Fs → Prop}
    (first : Follows base fs (part fs) middle)
    (rest : ∀ value after tree, Based base after tree → middle value tree →
      Follows base after (next value after) ends) :
    Follows base fs ((part >>= next) fs) ends := by
  cases came : part fs with
  | mk outcome after =>
      rw [came] at first
      cases outcome with
      | error failure =>
          rw [bind_apply, came]
          exact ⟨first.outside, fun value isOk => by cases isOk⟩
      | ok value =>
          rw [bind_apply, came]
          obtain ⟨tree, based, ended⟩ := first.ends value rfl
          have onward := rest value after tree based ended
          exact ⟨first.outside.trans onward.outside, onward.ends⟩

theorem follows_pure {α : Type} {base : Path} {fs tree : Fs} {value : α}
    {ends : α → Fs → Prop} (based : Based base fs tree) (ended : ends value tree) :
    Follows base fs ((pure value : Disk α) fs) ends := by
  refine ⟨Outside.refl base fs, ?_⟩
  intro other isOk
  cases isOk
  exact ⟨tree, based, ended⟩

theorem follows_raise {α : Type} {base : Path} {fs : Fs} {failure : Failure}
    {ends : α → Fs → Prop} : Follows base fs ((raise failure : Disk α) fs) ends :=
  ⟨Outside.refl base fs, fun _ isOk => by cases isOk⟩

theorem follows_alter {base : Path} {fs after tree : Fs} {operation : Fs → Except Errno Fs}
    {ends : Unit → Fs → Prop} (altered : operation fs = .ok after)
    (outside : Outside base fs after) (based : Based base after tree) (ended : ends () tree) :
    Follows base fs (alter operation fs) ends := by
  unfold alter
  rw [altered]
  exact ⟨outside, fun _ _ => ⟨tree, based, ended⟩⟩

theorem follows_alter_error {base : Path} {fs : Fs} {operation : Fs → Except Errno Fs}
    {errno : Errno} {ends : Unit → Fs → Prop} (failed : operation fs = .error errno) :
    Follows base fs (alter operation fs) ends := by
  unfold alter
  rw [failed]
  exact follows_raise

theorem alter_congr {first second : Fs → Except Errno Fs} {fs : Fs}
    (same : first fs = second fs) : alter first fs = alter second fs := by
  rw [alter, alter, same]

theorem Follows.mono {α : Type} {base : Path} {fs : Fs} {outcome : Except Failure α × Fs}
    {ends weaker : α → Fs → Prop} (follows : Follows base fs outcome ends)
    (implied : ∀ value tree, ends value tree → weaker value tree) :
    Follows base fs outcome weaker := by
  refine ⟨follows.outside, ?_⟩
  intro value isOk
  obtain ⟨tree, based, ended⟩ := follows.ends value isOk
  exact ⟨tree, based, implied value tree ended⟩

/-- The tree matters by what stands in it. -/
theorem Follows.retree {α : Type} {base : Path} {fs : Fs} {outcome : Except Failure α × Fs}
    {ends other : α → Fs → Prop} (follows : Follows base fs outcome ends)
    (implied : ∀ value tree, WellFormed tree → ends value tree →
      ∃ next, (∀ path, PyDict.get next path = PyDict.get tree path) ∧ other value next) :
    Follows base fs outcome other := by
  refine ⟨follows.outside, ?_⟩
  intro value isOk
  obtain ⟨tree, based, ended⟩ := follows.ends value isOk
  obtain ⟨next, same, holds⟩ := implied value tree based.wellFormed ended
  refine ⟨next, ⟨based.real, based.nonempty, ?_, based.wellFormed.congr same⟩, holds⟩
  intro rel
  rw [based.same, same]

theorem prefix_split {base rel path : Path} (under : path <+: base ++ rel) :
    path <+: base ∧ path ≠ base ∨ ∃ more, path = base ++ more ∧ more <+: rel := by
  by_cases above : base <+: path
  · obtain ⟨more, rfl⟩ := above
    exact Or.inr ⟨more, rfl, (List.prefix_append_right_inj base).mp under⟩
  · left
    constructor
    · exact (List.prefix_or_prefix_of_prefix under (List.prefix_append base rel)).resolve_right
        above
    · rintro rfl
      exact above List.prefix_rfl

section Operations

variable {base : Path} {fs tree : Fs} (based : Based base fs tree)

include based

theorem Based.isDir_base : isDir fs base = isDir tree [] := by
  apply isDir_congr
  rw [← based.same [], List.append_nil]

theorem Based.real_entry {done : Path} {leaf : Name} (root : isDir tree [] = true)
    (reached : reaches tree [] done = true) (proper : ∀ name ∈ done ++ [leaf], Proper name) :
    Real fs (base ++ (done ++ [leaf])) where
  proper name found := (List.mem_append.mp found).elim (based.real.proper name) (proper name)
  parents parent under other := by
    rcases prefix_split under with ⟨inBase, notBase⟩ | ⟨more, rfl, inside⟩
    · exact based.real.parents parent inBase notBase
    · have within : more <+: done := by
        rcases List.prefix_concat_iff.mp inside with whole | within
        · rw [whole] at other
          exact absurd rfl other
        · exact within
      rw [isDir_congr (based.same more)]
      by_cases atRoot : more = []
      · rw [atRoot]
        exact root
      · exact isDir_of_reaches (reaches_front within reached) atRoot

/-- Below a tree that is gone, nothing is found. -/
theorem Based.walk_gone (root : isDir tree [] = false) (more : Path) (hops : Nat) :
    (walk fs hops [] (base ++ more)).2 = .error .noEntry := by
  apply walk_missing based.real based.nonempty
  rw [← List.append_nil base, based.same]
  cases held : PyDict.get tree [] with
  | none => rfl
  | some node =>
      have isRoot := based.wellFormed.root node held
      simp only [isDir, held, isRoot] at root
      cases root

theorem Based.locate_gone (root : isDir tree [] = false) (done : Path) (leaf : Name) :
    locate fs (base ++ (done ++ [leaf])) = .error .noEntry := by
  have last : (base ++ (done ++ [leaf])).getLast? = some leaf := by simp
  have before : (base ++ (done ++ [leaf])).dropLast = base ++ done := by
    rw [← List.append_assoc, List.dropLast_concat]
  rw [locate, last, before, based.walk_gone root]

theorem Based.lstat_entry {done : Path} {leaf : Name} (reached : reaches tree [] done = true)
    (proper : ∀ name ∈ done ++ [leaf], Proper name) :
    lstat fs (base ++ (done ++ [leaf])) = .ok (PyDict.get tree (done ++ [leaf])) := by
  cases root : isDir tree [] with
  | true =>
      rw [lstat_real (based.real_entry root reached proper), based.same]
  | false =>
      have gone : PyDict.get tree (done ++ [leaf]) = none :=
        based.wellFormed.none_below root (List.nil_prefix ..) (by simp)
      rw [lstat, based.locate_gone root, gone]

/-- `_real_dir` without `create` looks, and finds what leads through directories. -/
theorem Based.realDir_look [Process] {rel done todo : Path} (reached : reaches tree [] done = true)
    (proper : ∀ name ∈ done ++ todo, Proper name) :
    realDirFrom base rel false done todo fs =
      (.ok (if reaches tree done todo then some (base ++ (done ++ todo)) else none), fs) := by
  induction todo generalizing done with
  | nil =>
      rw [List.append_nil]
      rfl
  | cons part rest ih =>
      have split : done ++ part :: rest = done ++ [part] ++ rest := by simp
      have found := @Based.lstat_entry base fs tree based done part reached fun name found =>
        proper name (by rw [split]; exact List.mem_append_left _ found)
      rw [realDirFrom]
      refine (look_bind found).trans ?_
      cases held : PyDict.get tree (done ++ [part]) with
      | none => simp [reaches, isDir, held, pure]
      | some node =>
          cases node with
          | dir mode =>
              have entered : isDir tree (done ++ [part]) = true := isDir_of_get held
              have onward := @ih (done ++ [part]) (by
                rw [reaches_append, reached, Bool.true_and, List.nil_append, reaches, entered]
                rfl) (by rw [← split]; exact proper)
              rw [reaches, entered, Bool.true_and, split]
              exact onward
          | file data mode => simp [reaches, isDir, held, Node.isDir, pure]
          | link target => simp [reaches, isDir, held, Node.isDir, pure]

/-- The tree has changed inside, and nothing outside has. -/
theorem Based.inside {after next : Fs} (outside : Outside base fs after)
    (same : ∀ rel, PyDict.get after (base ++ rel) = PyDict.get next rel)
    (wellFormed : WellFormed next) : Based base after next :=
  ⟨outside.real based.real, based.nonempty, same, wellFormed⟩

theorem Based.set_entry {done : Path} {leaf : Name} {node : Node}
    (parent : isDir tree done = true) (proper : ∀ name ∈ done ++ [leaf], Proper name)
    (childless : node.isDir = true ∨ isDir tree (done ++ [leaf]) = false) :
    Outside base fs (PyDict.set fs (base ++ (done ++ [leaf])) node) ∧
      Based base (PyDict.set fs (base ++ (done ++ [leaf])) node)
        (PyDict.set tree (done ++ [leaf]) node) := by
  have outside : Outside base fs (PyDict.set fs (base ++ (done ++ [leaf])) node) := by
    intro path apart
    apply PyDict.get_set_ne
    rintro rfl
    exact apart (List.prefix_append ..)
  refine ⟨outside, based.inside outside ?_ (based.wellFormed.set parent proper childless)⟩
  intro rel
  rw [PyDict.get_set, PyDict.get_set, based.same]
  simp only [List.append_cancel_left_eq]

theorem Based.get_parent (done : Path) (leaf : Name) :
    PyDict.get fs (base ++ (done ++ [leaf])).dropLast = PyDict.get tree done := by
  rw [← List.append_assoc, List.dropLast_concat, based.same]

/-- A node goes where nothing stands. -/
theorem Based.create_run {done : Path} {leaf : Name} (node : Node)
    (root : isDir tree [] = true) (reached : reaches tree [] done = true)
    (proper : ∀ name ∈ done ++ [leaf], Proper name)
    (absent : PyDict.get tree (done ++ [leaf]) = none) :
    ∃ after, create fs (base ++ (done ++ [leaf])) node = .ok after ∧ Outside base fs after ∧
      Based base after (PyDict.set tree (done ++ [leaf]) node) := by
  have notDir : isDir tree (done ++ [leaf]) = false := by
    rw [isDir, absent]
  obtain ⟨outside, next⟩ := @Based.set_entry base fs tree based done leaf node
    (isDir_done root reached) proper (Or.inr notDir)
  have created := create_real (based.real_entry root reached proper) node
  rw [based.same, absent] at created
  exact ⟨_, created, outside, next⟩

theorem Based.create_entry {done : Path} {leaf : Name} (node : Node)
    (reached : reaches tree [] done = true) (proper : ∀ name ∈ done ++ [leaf], Proper name)
    (absent : PyDict.get tree (done ++ [leaf]) = none) :
    Follows base fs (alter (fun fs => create fs (base ++ (done ++ [leaf])) node) fs)
      (fun _ after => isDir tree done = true ∧
        after = PyDict.set tree (done ++ [leaf]) node) := by
  cases root : isDir tree [] with
  | true =>
      obtain ⟨after, created, outside, next⟩ := based.create_run node root reached proper absent
      exact follows_alter created outside next ⟨isDir_done root reached, rfl⟩
  | false =>
      apply follows_alter_error
      rw [create, based.locate_gone root]

/-- A directory is made where nothing stands, and with nothing else. -/
theorem Based.mkdir_create [Process] {done : Path} {leaf : Name} (mode : Nat)
    (reached : reaches tree [] done = true) (proper : ∀ name ∈ done ++ [leaf], Proper name) :
    mkdir fs (base ++ (done ++ [leaf])) mode =
      create fs (base ++ (done ++ [leaf])) (made (PyDict.get tree done) mode) := by
  cases root : isDir tree [] with
  | true => rw [mkdir_real (based.real_entry root reached proper), based.get_parent]
  | false => rw [mkdir, create, based.locate_gone root]

/-- A directory in place of a file. -/
theorem Based.replace_run [Process] {done : Path} {leaf : Name} (reached : reaches tree [] done = true)
    (proper : ∀ name ∈ done ++ [leaf], Proper name) {data : List UInt8} {mode : Nat}
    (held : PyDict.get tree (done ++ [leaf]) = some (.file data mode)) :
    ∃ removed after, unlink fs (base ++ (done ++ [leaf])) = .ok removed ∧
      mkdir removed (base ++ (done ++ [leaf])) 0o755 = .ok after ∧ Outside base fs after ∧
      Based base after (PyDict.set tree (done ++ [leaf]) (made (PyDict.get tree done) 0o755)) := by
  have present : PyDict.get tree (done ++ [leaf]) ≠ none := by
    rw [held]
    exact Option.some_ne_none _
  have root : isDir tree [] = true :=
    based.wellFormed.isDir_of_below (List.nil_prefix ..) (by simp) present
  have real := based.real_entry root reached proper
  have unlinked := unlink_real real
  rw [based.same, held] at unlinked
  have erasedReal : Real (PyDict.erase fs (base ++ (done ++ [leaf]))) (base ++ (done ++ [leaf])) := by
    refine ⟨real.proper, ?_⟩
    intro parent under other
    have kept : PyDict.get (PyDict.erase fs (base ++ (done ++ [leaf]))) parent =
        PyDict.get fs parent := by
      rw [PyDict.get_erase, if_neg fun same => other same.symm]
    rw [isDir_congr kept]
    exact real.parents parent under other
  have sameParent : PyDict.get (PyDict.erase fs (base ++ (done ++ [leaf])))
      (base ++ (done ++ [leaf])).dropLast = PyDict.get tree done := by
    rw [← based.get_parent done leaf, PyDict.get_erase, if_neg]
    intro same
    simpa using congrArg List.length same
  have created := create_real erasedReal (made (PyDict.get tree done) 0o755)
  rw [PyDict.get_erase, if_pos rfl] at created
  have making := mkdir_real erasedReal 0o755
  rw [sameParent, created] at making
  have lookups (path : Path) : PyDict.get (PyDict.set (PyDict.erase fs (base ++ (done ++ [leaf])))
      (base ++ (done ++ [leaf])) (made (PyDict.get tree done) 0o755)) path =
      PyDict.get (PyDict.set fs (base ++ (done ++ [leaf]))
        (made (PyDict.get tree done) 0o755)) path := by
    rw [PyDict.get_set, PyDict.get_set]
    split
    · rfl
    · rename_i other
      rw [PyDict.get_erase, if_neg other]
  obtain ⟨outside, after⟩ := @Based.set_entry base fs tree based done leaf
    (made (PyDict.get tree done) 0o755)
    (isDir_done root reached) proper (Or.inl rfl)
  have replaced : Outside base fs (PyDict.set (PyDict.erase fs (base ++ (done ++ [leaf])))
      (base ++ (done ++ [leaf])) (made (PyDict.get tree done) 0o755)) :=
    fun path apart => (lookups path).trans (outside path apart)
  exact ⟨_, _, unlinked, making, replaced, based.inside replaced
    (fun rel => (lookups _).trans (after.same rel)) after.wellFormed⟩

theorem Based.replace_entry [Process] {β : Type} {done : Path} {leaf : Name} {next : Disk β}
    {ends : β → Fs → Prop} (reached : reaches tree [] done = true)
    (proper : ∀ name ∈ done ++ [leaf], Proper name) {data : List UInt8} {mode : Nat}
    (held : PyDict.get tree (done ++ [leaf]) = some (.file data mode))
    (rest : ∀ after,
      Based base after (PyDict.set tree (done ++ [leaf]) (made (PyDict.get tree done) 0o755)) →
      Follows base after (next after) ends) :
    Follows base fs ((do
      alter fun fs => unlink fs (base ++ (done ++ [leaf]))
      alter fun fs => mkdir fs (base ++ (done ++ [leaf])) 0o755
      next) fs) ends := by
  obtain ⟨removed, after, unlinked, made, outside, nextBased⟩ :=
    based.replace_run reached proper held
  have onward := rest after nextBased
  rw [alter_bind unlinked, alter_bind made]
  exact ⟨outside.trans onward.outside, onward.ends⟩

/-- `_real_dir` with `create` makes the directories, through no link. -/
theorem Based.realDir_make [Process] (rel : Path) {done todo : Path} (reached : reaches tree [] done = true)
    (proper : ∀ name ∈ done ++ todo, Proper name) :
    Follows base fs (realDirFrom base rel true done todo fs) (fun found after =>
      found = some (base ++ (done ++ todo)) ∧ makeDirs tree done todo = some after ∧
        reaches after [] (done ++ todo) = true) := by
  induction todo generalizing fs tree done with
  | nil =>
      refine follows_pure based ⟨?_, rfl, ?_⟩
      · rw [List.append_nil]
      · rw [List.append_nil]
        exact reached
  | cons part rest ih =>
      have split : done ++ part :: rest = done ++ [part] ++ rest := by simp
      have properHere : ∀ name ∈ done ++ [part], Proper name := fun name found =>
        proper name (by rw [split]; exact List.mem_append_left _ found)
      have properNext : ∀ name ∈ done ++ [part] ++ rest, Proper name := by
        rw [← split]
        exact proper
      -- Once the component is a directory, the rest goes on from it.
      have onward {after next : Fs} (nextBased : Based base after next)
          (kept : reaches next [] done = true) (entered : isDir next (done ++ [part]) = true)
          (made : makeDirs next (done ++ [part]) rest = makeDirs tree done (part :: rest)) :
          Follows base after (realDirFrom base rel true (done ++ [part]) rest after)
            (fun found after => found = some (base ++ (done ++ part :: rest)) ∧
              makeDirs tree done (part :: rest) = some after ∧
              reaches after [] (done ++ part :: rest) = true) := by
        rw [split, ← made]
        apply ih nextBased _ properNext
        rw [reaches_append, kept, Bool.true_and, List.nil_append, reaches, entered]
        rfl
      rw [realDirFrom]
      rw [look_bind (based.lstat_entry reached properHere)]
      cases held : PyDict.get tree (done ++ [part]) with
      | none =>
          dsimp only
          rw [if_pos rfl]
          have making := based.mkdir_create 0o755 reached properHere
          rw [bind_apply, @alter_congr _ (fun fs => create fs _ _) fs making, ← bind_apply]
          apply (based.create_entry _ reached properHere held).bind
          rintro _ after next nextBased ⟨parent, rfl⟩
          apply onward nextBased
          · rw [reaches_set]
            exact reached
          · rw [isDir, PyDict.get_set_same]
            rfl
          · rw [makeDirs, held]
            simp only [parent, if_true]
      | some node =>
          cases node with
          | dir mode =>
              apply onward based reached (isDir_of_get held)
              rw [makeDirs, held]
          | link target =>
              dsimp only
              rw [if_pos rfl]
              exact follows_raise
          | file data mode =>
              dsimp only
              rw [if_pos rfl]
              apply based.replace_entry reached properHere held
              intro after nextBased
              apply onward nextBased
              · rw [reaches_set]
                exact reached
              · rw [isDir, PyDict.get_set_same]
                rfl
              · rw [makeDirs, held]

/-- Everything at a path of the tree and below it is gone. -/
theorem Based.prune_entry {rel : Path} (after : Fs) (outside : Outside base fs after)
    (same : ∀ more, PyDict.get after (base ++ more) =
      if rel <+: more then none else PyDict.get tree more) :
    Based base after (prune tree rel) := by
  apply based.inside outside _ (based.wellFormed.prune rel)
  intro more
  rw [same, get_prune]

/-- `_clear`, of an entry of the tree. -/
theorem Based.clear_entry {done : Path} {leaf : Name} (reached : reaches tree [] done = true)
    (proper : ∀ name ∈ done ++ [leaf], Proper name) :
    Follows base fs (clear (base ++ (done ++ [leaf])) fs)
      (fun _ after => after = prune tree (done ++ [leaf])) := by
  unfold clear
  rw [look_bind (based.lstat_entry reached proper)]
  cases held : PyDict.get tree (done ++ [leaf]) with
  | none =>
      have notDir : isDir tree (done ++ [leaf]) = false := by
        rw [isDir, held]
      refine follows_pure (based.prune_entry fs (Outside.refl base fs) ?_) rfl
      intro more
      rw [based.same]
      split
      · rename_i under
        by_cases whole : done ++ [leaf] = more
        · rw [← whole, held]
        · exact based.wellFormed.none_below notDir under whole
      · rfl
  | some node =>
      have present : PyDict.get tree (done ++ [leaf]) ≠ none := by
        rw [held]
        exact Option.some_ne_none _
      have root : isDir tree [] = true :=
        based.wellFormed.isDir_of_below (List.nil_prefix ..) (by simp) present
      have real := based.real_entry root reached proper
      by_cases directory : isDir tree (done ++ [leaf]) = true
      · have cleared : rmtree (base ++ (done ++ [leaf])) fs =
            (.ok (), prune fs (base ++ (done ++ [leaf]))) := by
          rw [rmtree, rmtree_real real]
          rw [isDir_congr (based.same _)]
          exact directory
        have outside : Outside base fs (prune fs (base ++ (done ++ [leaf]))) := by
          intro path apart
          rw [get_prune, if_neg]
          intro under
          exact apart ((List.prefix_append ..).trans under)
        have next : Based base (prune fs (base ++ (done ++ [leaf])))
            (prune tree (done ++ [leaf])) := by
          apply based.prune_entry _ outside
          intro more
          rw [get_prune, based.same]
          simp only [List.prefix_append_right_inj]
        obtain ⟨mode, isDirectory⟩ := isDir_eq_true.mp directory
        rw [held] at isDirectory
        cases isDirectory
        dsimp only
        rw [cleared]
        exact ⟨outside, fun _ _ => ⟨_, next, rfl⟩⟩
      · have notDir : isDir tree (done ++ [leaf]) = false := by
          simpa using directory
        have removed : unlink fs (base ++ (done ++ [leaf])) =
            .ok (PyDict.erase fs (base ++ (done ++ [leaf]))) := by
          rw [unlink_real real, based.same, held]
          cases node with
          | dir mode => exact absurd (isDir_of_get held) directory
          | file data mode => rfl
          | link target => rfl
        have outside : Outside base fs (PyDict.erase fs (base ++ (done ++ [leaf]))) := by
          intro path apart
          rw [PyDict.get_erase, if_neg]
          rintro rfl
          exact apart (List.prefix_append ..)
        have next : Based base (PyDict.erase fs (base ++ (done ++ [leaf])))
            (prune tree (done ++ [leaf])) := by
          apply based.prune_entry _ outside
          intro more
          rw [PyDict.get_erase, based.same]
          simp only [List.append_cancel_left_eq]
          split
          · rename_i same
            rw [if_pos (same ▸ List.prefix_rfl)]
          · rename_i other
            split
            · rename_i under
              exact based.wellFormed.none_below notDir under other
            · rfl
        have altered : Follows base fs (alter (fun fs => unlink fs (base ++ (done ++ [leaf]))) fs)
            (fun _ after => after = prune tree (done ++ [leaf])) :=
          follows_alter removed outside next rfl
        cases node with
        | dir mode => exact absurd (isDir_of_get held) directory
        | file data mode => exact altered
        | link target => exact altered

/-- `_clear`, of the tree itself. -/
theorem Based.clear_base : Follows base fs (clear base fs)
    (fun _ after => after = prune tree []) := by
  have found : PyDict.get fs base = PyDict.get tree [] := by
    rw [← based.same [], List.append_nil]
  unfold clear
  rw [look_bind (lstat_real based.real), found]
  cases held : PyDict.get tree [] with
  | none =>
      have notDir : isDir tree [] = false := by
        rw [isDir, held]
      refine follows_pure (based.prune_entry fs (Outside.refl base fs) ?_) rfl
      intro more
      rw [based.same, if_pos (List.nil_prefix ..)]
      by_cases whole : [] = more
      · rw [← whole, held]
      · exact based.wellFormed.none_below notDir (List.nil_prefix ..) whole
  | some node =>
      have directory := based.wellFormed.root node held
      cases node with
      | dir mode =>
          have isDirectory : isDir fs base = true := by
            rw [based.isDir_base]
            exact isDir_of_get held
          have cleared : rmtree base fs = (.ok (), prune fs base) := by
            rw [rmtree, rmtree_real based.real isDirectory]
          have outside : Outside base fs (prune fs base) := by
            intro path apart
            rw [get_prune, if_neg apart]
          dsimp only
          rw [cleared]
          refine ⟨outside, fun _ _ => ⟨_, based.prune_entry _ outside ?_, rfl⟩⟩
          intro more
          rw [get_prune, if_pos (List.prefix_append ..), if_pos (List.nil_prefix ..)]
      | file data mode => cases directory
      | link target => cases directory

/-- The directory a whiteout is in, looked for. -/
theorem Based.realDir_found [Process] {rel : Path} (proper : ∀ name ∈ rel, Proper name) :
    realDir base rel false fs =
      (.ok (if reaches tree [] rel then some (base ++ rel) else none), fs) :=
  based.realDir_look rfl proper

/-- `_clear`, of a leaf of a directory of the tree. -/
theorem Based.clear_child {parent : Path} {leaf : Name} (reached : reaches tree [] parent = true)
    (proper : ∀ name ∈ parent, Proper name) (leafProper : leaf = current ∨ Proper leaf) :
    Follows base fs (clear (child (base ++ parent) leaf) fs)
      (fun _ after => after = prune tree (child parent leaf)) := by
  rcases leafProper with isCurrent | leafProper
  · rw [child, child, if_pos (Or.inr isCurrent), if_pos (Or.inr isCurrent)]
    by_cases atRoot : parent = []
    · rw [atRoot, List.append_nil]
      exact based.clear_base
    · obtain ⟨before, last, whole⟩ := List.eq_nil_or_concat parent |>.resolve_left atRoot
      rw [List.concat_eq_append] at whole
      subst whole
      exact based.clear_entry (reaches_front (List.prefix_append ..) reached) proper
  · have named : ¬ (leaf = [] ∨ leaf = current) := not_or.mpr ⟨leafProper.1, leafProper.2.1⟩
    rw [child, child, if_neg named, if_neg named, List.append_assoc]
    apply based.clear_entry reached
    intro name found
    rcases List.mem_append.mp found with inside | last
    · exact proper name inside
    · rw [List.mem_singleton.mp last]
      exact leafProper

theorem Based.remove_leaf [Process] {parent : Path} {leaf : Name} (proper : ∀ name ∈ parent, Proper name)
    (leafProper : leaf = current ∨ Proper leaf) :
    Follows base fs (remove base parent leaf fs) (fun _ after =>
      after = if reaches tree [] parent then prune tree (child parent leaf) else tree) := by
  unfold remove
  rw [bind_apply, based.realDir_found proper]
  by_cases reached : reaches tree [] parent = true
  · simp only [reached, if_true]
    exact based.clear_child reached proper leafProper
  · simp only [reached, if_false, Bool.false_eq_true]
    exact follows_pure based rfl

end Operations

end Catena.Fetch

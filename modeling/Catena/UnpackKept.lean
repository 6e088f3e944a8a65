import Catena.LinkWalks

/-!
# What unpacking leaves in the tree

Whatever the layers hold, what they leave is under the requested paths, but for
the directories that lead there, and neither a file nor a directory gets a setuid
or a setgid bit.
-/

namespace Catena.Fetch

open PyText Posix

/-- Neither setuid nor setgid. -/
def Plain (mode : Nat) : Prop :=
  mode &&& 0o6000 = 0

theorem Member.plain_kept (member : Member) : Plain member.kept := by
  rw [Plain, Member.kept, Nat.and_assoc]
  simp

/-- A node stands under a requested path, or is a directory that leads to one. -/
def Placed (prefixes : List Path) (path : Path) (node : Node) : Prop :=
  wanted prefixes path = true ∨
    node.isDir = true ∧ (path = [] ∨ ∃ start ∈ prefixes, path <+: start)

/-- The mode of a file or a directory has neither bit, but for the setgid that a
directory takes from the one all is made in. -/
def Node.Plain (home : Option Node) : Node → Prop
  | .dir mode => Fetch.Plain mode ∨ mode &&& 0o6000 = inherited home
  | .file _ mode => Fetch.Plain mode
  | .link _ => True

theorem masked_and [Process] (mode : Nat) : masked mode &&& 0o6000 = 0 := by
  rw [masked, Nat.and_assoc, Nat.and_xor_distrib_right, Nat.and_assoc]
  simp

theorem inherited_and (node : Option Node) : inherited node &&& 0o6000 = inherited node := by
  unfold inherited
  split
  · simp [Nat.and_assoc]
  · rw [Nat.zero_and]

/-- Of the two bits, a mode gives on the setgid. -/
theorem inherited_dir (mode : Nat) :
    inherited (some (.dir mode)) = mode &&& 0o6000 &&& 0o2000 := by
  simp [inherited, Nat.and_assoc]

theorem inherited_again (node : Option Node) : inherited node &&& 0o2000 = inherited node := by
  unfold inherited
  split
  · simp
  · rw [Nat.zero_and]

/-- What is made has the setgid of what it is made in, and no setuid. -/
theorem made_and [Process] (parent : Option Node) (mode : Nat) :
    (masked mode ||| inherited parent) &&& 0o6000 = inherited parent := by
  rw [Nat.and_or_distrib_right, masked_and, inherited_and, Nat.zero_or]

theorem inherited_made [Process] (parent : Option Node) (mode : Nat) :
    inherited (some (made parent mode)) = inherited parent := by
  rw [made, inherited_dir, made_and, inherited_again]

theorem plain_made [Process] {home parent : Option Node} (mode : Nat)
    (taken : inherited parent = 0 ∨ inherited parent = inherited home) :
    Node.Plain home (made parent mode) := by
  rw [made, Node.Plain, Plain, made_and]
  exact taken

/-- What a directory gives on, it has from the one all is made in. -/
theorem inherited_plain {home : Option Node} {parent : Option Node}
    (plain : ∀ node, parent = some node → Node.Plain home node) :
    inherited parent = 0 ∨ inherited parent = inherited home := by
  cases held : parent with
  | none => exact Or.inl rfl
  | some node =>
      cases node with
      | dir mode =>
          rw [inherited_dir]
          rcases plain _ held with neither | taken
          · left
            rw [neither, Nat.zero_and]
          · right
            rw [taken, inherited_again]
      | file data mode => exact Or.inl rfl
      | link target => exact Or.inl rfl

/-- What unpacking leaves in the tree. -/
def Kept (home : Option Node) (prefixes : List Path) (tree : Fs) : Prop :=
  ∀ path node, PyDict.get tree path = some node →
    Placed prefixes path node ∧ Node.Plain home node

/-- The modes for the directories of requested paths, by distinct paths. -/
structure KeptModes (prefixes : List Path) (modes : PyDict Path Nat) : Prop where
  nodup : (PyDict.keys modes).Nodup
  proper : ∀ path ∈ PyDict.keys modes, ∀ name ∈ path, Proper name
  plain : ∀ path mode, PyDict.get modes path = some mode →
    Plain mode ∧ wanted prefixes path = true

theorem wanted_iff {prefixes : List Path} {path : Path} :
    wanted prefixes path = true ↔ ∃ start ∈ prefixes, start <+: path := by
  simp [wanted]

/-- A directory on the way to a requested path, or under one. -/
theorem placed_dir {prefixes : List Path} {path below : Path} {mode : Nat}
    (isWanted : wanted prefixes below = true) (under : path <+: below) :
    Placed prefixes path (.dir mode) := by
  obtain ⟨start, listed, above⟩ := wanted_iff.mp isWanted
  rcases List.prefix_or_prefix_of_prefix under above with short | long
  · exact Or.inr ⟨rfl, Or.inr ⟨start, listed, short⟩⟩
  · exact Or.inl (wanted_iff.mpr ⟨start, listed, long⟩)

namespace Kept

variable {home : Option Node} {prefixes : List Path} {tree : Fs} (kept : Kept home prefixes tree)

include kept

theorem set {path : Path} {node : Node} (placed : Placed prefixes path node)
    (plain : Node.Plain home node) : Kept home prefixes (PyDict.set tree path node) := by
  intro other held found
  rw [PyDict.get_set] at found
  split at found
  · rename_i same
    cases found
    rw [← same]
    exact ⟨placed, plain⟩
  · exact kept other held found

theorem prune (path : Path) : Kept home prefixes (prune tree path) := by
  intro other held found
  rw [get_prune] at found
  split at found
  · cases found
  · exact kept other held found

theorem pruneBelow (path : Path) : Kept home prefixes (pruneBelow tree path) := by
  intro other held found
  rw [get_pruneBelow] at found
  split at found
  · cases found
  · exact kept other held found

theorem putNode {path : Path} {node : Node} (placed : Placed prefixes path node)
    (plain : Node.Plain home node) : Kept home prefixes (putNode tree path node) :=
  (kept.prune path).set placed plain

/-- A whiteout takes away. -/
theorem markTree {path : Path} {after : Fs} (marked : markTree tree path = some after) :
    Kept home prefixes after := by
  unfold Fetch.markTree at marked
  split at marked
  · split at marked <;> cases marked
    · exact kept.pruneBelow _
    · exact kept
  · split at marked
    · dsimp only at marked
      split at marked
      · cases marked
        exact kept
      · split at marked
        · split at marked <;> cases marked
          exact kept
        · cases marked
          exact kept.prune _
    · cases marked
      exact kept

theorem makeDirs [Process] {done todo below : Path} {after : Fs}
    (isWanted : wanted prefixes below = true)
    (under : done ++ todo <+: below) (making : makeDirs tree done todo = some after) :
    Kept home prefixes after := by
  induction todo generalizing tree done with
  | nil =>
      cases making
      exact kept
  | cons part rest ih =>
      have split : done ++ part :: rest = done ++ [part] ++ rest := by simp
      rw [split] at under
      have placed : Placed prefixes (done ++ [part]) (made (PyDict.get tree done) 0o755) :=
        placed_dir isWanted ((List.prefix_append ..).trans under)
      have plain : Node.Plain home (made (PyDict.get tree done) 0o755) := by
        exact plain_made 0o755 (inherited_plain fun node held => (kept done node held).2)
      rw [Fetch.makeDirs] at making
      cases held : PyDict.get tree (done ++ [part]) with
      | none =>
          rw [held] at making
          dsimp only at making
          split at making
          · exact ih (kept.set placed plain) under making
          · cases making
      | some node =>
          rw [held] at making
          cases node with
          | dir mode => exact ih kept under making
          | link target => cases making
          | file data mode => exact ih (kept.set placed plain) under making

theorem linked {py : Builtins} {linkname : Name} {node : Node}
    (isLinked : linked py tree prefixes linkname = some node) : Node.Plain home node := by
  unfold Fetch.linked at isLinked
  split at isLinked
  · cases isLinked
  · rename_i source read
    split at isLinked
    · cases held : PyDict.get tree source with
      | none =>
          rw [held] at isLinked
          cases isLinked
      | some found =>
          have plain := (kept source found held).2
          rw [held] at isLinked
          cases found with
          | dir mode => cases isLinked
          | file data mode =>
              cases isLinked
              exact plain
          | link target =>
              cases isLinked
              exact plain
    · cases isLinked

theorem writeTree [Process] {py : Builtins} {member : Member} {path : Path} {after : Fs}
    (isWanted : wanted prefixes path = true)
    (put : writeTree py prefixes member path tree = some after) : Kept home prefixes after := by
  have made {next : Fs} (making : Fetch.makeDirs tree [] path.dropLast = some next) :
      Kept home prefixes next :=
    kept.makeDirs isWanted (List.dropLast_prefix path) making
  unfold Fetch.writeTree at put
  cases kind : member.kind with
  | other =>
      rw [kind] at put
      cases put
      exact kept
  | directory =>
      rw [kind] at put
      obtain ⟨next, making, ended⟩ := Option.map_eq_some_iff.mp put
      rw [← ended]
      split
      · exact made making
      · apply (made making).putNode (Or.inl isWanted)
        exact plain_made 0o755 (inherited_plain fun node held => (made making _ node held).2)
  | regular data =>
      rw [kind] at put
      obtain ⟨next, making, ended⟩ := Option.map_eq_some_iff.mp put
      rw [← ended]
      exact (made making).putNode (Or.inl isWanted) member.plain_kept
  | symlink =>
      rw [kind] at put
      obtain ⟨next, making, ended⟩ := Option.map_eq_some_iff.mp put
      rw [← ended]
      exact (made making).putNode (Or.inl isWanted) trivial
  | hardlink =>
      rw [kind] at put
      obtain ⟨next, making, putting⟩ := Option.bind_eq_some_iff.mp put
      obtain ⟨node, isLinked, ended⟩ := Option.map_eq_some_iff.mp putting
      rw [← ended]
      exact (made making).putNode (Or.inl isWanted) (((made making).prune path).linked isLinked)

end Kept

theorem KeptModes.writeModes {prefixes : List Path} {modes : PyDict Path Nat}
    (kept : KeptModes prefixes modes) {member : Member} {path : Path}
    (proper : ∀ name ∈ path, Proper name) (isWanted : wanted prefixes path = true) :
    KeptModes prefixes (writeModes member path modes) := by
  unfold Fetch.writeModes
  split
  · refine ⟨PyDict.nodup_keys_set kept.nodup path _, ?_, ?_⟩
    · intro other listed
      rcases (PyDict.mem_keys_set modes path other _).mp listed with new | old
      · rw [new]
        exact proper
      · exact kept.proper other old
    · intro other mode found
      rw [PyDict.get_set] at found
      split at found
      · rename_i same
        cases found
        rw [← same]
        exact ⟨member.plain_kept, isWanted⟩
      · exact kept.plain other mode found
  · exact kept

theorem kept_marksTree {py : Builtins} {home : Option Node} {prefixes : List Path} {tree after : Fs}
    {members : List Member} (kept : Kept home prefixes tree)
    (marked : marksTree py tree members = some after) : Kept home prefixes after := by
  induction members generalizing tree with
  | nil =>
      cases marked
      exact kept
  | cons member rest ih =>
      rw [marksTree] at marked
      cases read : memberPath py member.name with
      | error failure =>
          rw [read] at marked
          cases marked
      | ok path =>
          rw [read] at marked
          dsimp only at marked
          cases first : markTree tree path with
          | none =>
              rw [first] at marked
              cases marked
          | some next =>
              rw [first] at marked
              exact ih (kept.markTree first) marked

theorem kept_writesTree [Process] {py : Builtins} {home : Option Node} {prefixes : List Path}
    {members : List Member}
    {state after : Fs × PyDict Path Nat} (kept : Kept home prefixes state.1)
    (keptModes : KeptModes prefixes state.2)
    (put : writesTree py prefixes members state = some after) :
    Kept home prefixes after.1 ∧ KeptModes prefixes after.2 := by
  induction members generalizing state with
  | nil =>
      cases put
      exact ⟨kept, keptModes⟩
  | cons member rest ih =>
      rw [writesTree] at put
      cases read : memberPath py member.name with
      | error failure =>
          rw [read] at put
          cases put
      | ok path =>
          rw [read] at put
          dsimp only at put
          split at put
          · rename_i isWritten
            have isWanted : wanted prefixes path = true := by
              simp only [written, Bool.and_eq_true] at isWritten
              exact isWritten.2
            cases first : writeTree py prefixes member path state.1 with
            | none =>
                rw [first] at put
                cases put
            | some next =>
                rw [first] at put
                exact ih (kept.writeTree isWanted first) (keptModes.writeModes (proper_of_memberPath read) isWanted) put
          · exact ih kept keptModes put

theorem kept_layersTree [Process] {py : Builtins} {home : Option Node} {prefixes : List Path}
    {layers : List Layer}
    {state after : Fs × PyDict Path Nat} (kept : Kept home prefixes state.1)
    (keptModes : KeptModes prefixes state.2)
    (put : layersTree py prefixes layers state = some after) :
    Kept home prefixes after.1 ∧ KeptModes prefixes after.2 := by
  induction layers generalizing state with
  | nil =>
      cases put
      exact ⟨kept, keptModes⟩
  | cons layer rest ih =>
      rw [layersTree, layerTree] at put
      cases marked : marksTree py state.1 layer.members with
      | none =>
          rw [marked] at put
          cases put
      | some tree =>
          rw [marked] at put
          dsimp only at put
          by_cases broken : layer.broken = true
          · rw [if_pos broken] at put
            cases put
          · rw [if_neg broken] at put
            cases first : writesTree py prefixes layer.members (tree, state.2) with
            | none =>
                rw [first] at put
                cases put
            | some next =>
                rw [first] at put
                obtain ⟨keptNext, keptModesNext⟩ :=
                  @kept_writesTree _ py home prefixes layer.members (tree, state.2) next
                    (kept_marksTree kept marked) keptModes first
                exact ih keptNext keptModesNext put

/-- The tree an unpacking starts with. -/
theorem kept_root {home : Option Node} {root : Node} (prefixes : List Path)
    (directory : root.isDir = true) (plain : Node.Plain home root) :
    Kept home prefixes [([], root)] := by
  intro path node found
  rw [PyDict.get_cons] at found
  split at found
  · rename_i same
    cases found
    exact ⟨Or.inr ⟨directory, Or.inl same.symm⟩, plain⟩
  · cases found

theorem keptModes_nil (prefixes : List Path) : KeptModes prefixes [] where
  nodup := List.nodup_nil
  proper _ listed := by cases listed
  plain _ _ found := by cases found

theorem Kept.linksBelow {home : Option Node} {prefixes : List Path} {tree : Fs} (kept : Kept home prefixes tree)
    (directories : ∀ start ∈ prefixes, isDir tree start = true) : LinksBelow prefixes tree := by
  intro path target held
  rcases (kept path _ held).1 with isWanted | ⟨directory, _⟩
  · obtain ⟨start, listed, under⟩ := wanted_iff.mp isWanted
    refine ⟨start, listed, under, ?_⟩
    rintro rfl
    have isDirectory := directories path listed
    rw [isDir, held] at isDirectory
    cases isDirectory
  · cases directory

end Catena.Fetch

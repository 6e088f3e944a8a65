import Catena.UnpackKept

/-!
# Moving the finished trees into place

`_install` moves one requested path after another, and asks of each whether a
link is in the way only when its turn comes.  What it leaves is said here for
every run: the paths before the first one with a link in the way are the image's,
the others are what they were.
-/

namespace Catena.Fetch

open PyText Posix

/-- Where nothing stands, nothing stands below. -/
theorem WellFormed.free {tree : Fs} (wellFormed : WellFormed tree) {path : Path}
    (absent : PyDict.get tree path = none) :
    ∀ below, path <+: below → PyDict.get tree below = none := by
  intro below under
  have notDir : isDir tree path = false := by
    rw [isDir, absent]
  by_cases same : path = below
  · rw [← same]
    exact absent
  · exact wellFormed.none_below notDir under same

section Moved

variable {tree : Fs} (wellFormed : WellFormed tree) {source done : Path} {leaf : Name}

include wellFormed

theorem WellFormed.moved (parent : isDir tree done = true)
    (proper : ∀ name ∈ done ++ [leaf], Proper name)
    (absent : PyDict.get tree (done ++ [leaf]) = none) (nonempty : source ≠ [])
    (apart : ¬ source <+: done ++ [leaf]) :
    WellFormed (moved tree source (done ++ [leaf])) := by
  have lookups := @get_moved tree source (done ++ [leaf]) (wellFormed.free absent)
  have shorter {path : Path} (under : done ++ [leaf] <+: path) : done.length < path.length := by
    have bound := under.length_le
    rw [List.length_append, List.length_singleton] at bound
    omega
  have notAbove : ¬ source <+: done := fun under => apart (under.trans (List.prefix_append ..))
  refine ⟨?_, ?_, ?_⟩
  · intro path present
    rw [lookups] at present
    split at present
    · rename_i under
      obtain ⟨more, rfl⟩ := under
      rw [List.drop_left] at present
      intro name listed
      rcases List.mem_append.mp listed with inTarget | inMore
      · exact proper name inTarget
      · exact wellFormed.proper _ present name (List.mem_append_right _ inMore)
    · split at present
      · exact absurd rfl present
      · exact wellFormed.proper path present
  · intro path name present
    rw [lookups] at present
    rw [isDir, lookups]
    split at present
    · rename_i under
      by_cases atTarget : path = done
      · rw [atTarget, if_neg (fun above => absurd (shorter above) (by omega)), if_neg notAbove]
        exact parent
      · have inside : done ++ [leaf] <+: path := by
          rcases List.prefix_concat_iff.mp under with whole | inside
          · exact absurd (List.append_inj_left' whole rfl).symm atTarget
          · exact inside
        rw [if_pos inside]
        obtain ⟨more, rfl⟩ := inside
        rw [List.append_assoc, List.drop_left, ← List.append_assoc] at present
        rw [List.drop_left]
        exact wellFormed.closed _ name present
    · rename_i outside
      split at present
      · exact absurd rfl present
      · rename_i beside
        rw [if_neg (fun above => outside (above.trans (List.prefix_append ..))),
          if_neg (fun above => beside (above.trans (List.prefix_append ..)))]
        exact wellFormed.closed path name present
  · intro node held
    rw [lookups, if_neg (by simp), if_neg (by simpa using nonempty)] at held
    exact wellFormed.root node held

end Moved

section Renames

variable {base : Path} {fs tree : Fs} (based : Based base fs tree) (root : isDir tree [] = true)

include based root

/-- Real directories lead to what is in the tree. -/
theorem Based.real_present {path : Path} (present : PyDict.get tree path ≠ none) :
    Real fs (base ++ path) := by
  by_cases atRoot : path = []
  · rw [atRoot, List.append_nil]
    exact based.real
  · have whole := dropLast_leafOf atRoot
    rw [← whole] at present ⊢
    have directory := based.wellFormed.closed _ _ present
    exact based.real_entry root
      (@WellFormed.reaches_of_isDir tree based.wellFormed [] path.dropLast directory)
      (based.wellFormed.proper _ present)

/-- `os.rename`, inside the tree. -/
theorem Based.rename_run {source done : Path} {leaf : Name} (nonempty : source ≠ [])
    (present : PyDict.get tree source ≠ none) (parent : isDir tree done = true)
    (proper : ∀ name ∈ done ++ [leaf], Proper name)
    (absent : PyDict.get tree (done ++ [leaf]) = none)
    (apart : ¬ source <+: done ++ [leaf]) :
    ∃ after, rename fs (base ++ source) (base ++ (done ++ [leaf])) = .ok after ∧
      Outside base fs after ∧ Based base after (moved tree source (done ++ [leaf])) := by
  have freeTree := based.wellFormed.free absent
  have freeFs : ∀ path, base ++ (done ++ [leaf]) <+: path → PyDict.get fs path = none := by
    rintro path ⟨more, rfl⟩
    rw [List.append_assoc, based.same]
    exact freeTree _ (List.prefix_append ..)
  have reached := @WellFormed.reaches_of_isDir tree based.wellFormed [] done parent
  have renamed := rename_real (based.real_present root present)
    (based.real_entry root reached proper)
    (by rw [based.same]; exact Option.isSome_iff_ne_none.mpr present)
    (by rw [based.same]; exact absent)
    (fun under => apart ((List.prefix_append_right_inj base).mp under))
  have outside : Outside base fs (moved fs (base ++ source) (base ++ (done ++ [leaf]))) := by
    intro path beside
    rw [get_moved freeFs, if_neg (fun under => beside ((List.prefix_append ..).trans under)),
      if_neg (fun under => beside ((List.prefix_append ..).trans under))]
  refine ⟨_, renamed, outside, based.inside outside ?_
    (based.wellFormed.moved parent proper absent nonempty apart)⟩
  intro rel
  rw [get_moved freeFs, get_moved freeTree]
  simp only [List.prefix_append_right_inj, based.same]
  split
  · rename_i under
    obtain ⟨more, rfl⟩ := under
    have dropped : (base ++ (done ++ [leaf] ++ more)).drop (base ++ (done ++ [leaf])).length =
        more := by
      rw [← List.append_assoc base (done ++ [leaf]) more, List.drop_left]
    rw [dropped, List.drop_left, List.append_assoc, based.same]
  · rfl

end Renames

/-- A link is in the way to a directory. -/
def Blocked (tree : Fs) (path : Path) : Prop :=
  ∃ more, more <+: path ∧ linkOf (PyDict.get tree more) ≠ none

/-- A directory has been made where nothing stood, or in place of a file. -/
def Entered (tree after : Fs) (path : Path) : Prop :=
  (PyDict.get tree path = none ∨ ∃ data mode, PyDict.get tree path = some (.file data mode)) ∧
    isDir after path = true

/-- What stands at a path is what stood there, or it is on the way to something, and
has been entered. -/
def Stepped (way : Prop) (tree after : Fs) (path : Path) : Prop :=
  PyDict.get after path = PyDict.get tree path ∨ way ∧ Entered tree after path

namespace Stepped

variable {way other : Prop} {tree middle after : Fs} {path : Path}

theorem same (stepped : Stepped way tree after path) (apart : ¬ way) :
    PyDict.get after path = PyDict.get tree path :=
  stepped.resolve_right fun entered => apart entered.1

theorem mono (stepped : Stepped way tree after path) (implied : way → other) :
    Stepped other tree after path :=
  stepped.imp_right fun entered => ⟨implied entered.1, entered.2⟩

theorem congr {first last : Fs} (stepped : Stepped way tree after path)
    (before : PyDict.get first path = PyDict.get tree path)
    (ends : PyDict.get last path = PyDict.get after path) : Stepped way first last path := by
  rw [Stepped, Entered, isDir_congr ends, ends, before]
  exact stepped

/-- Nothing is entered twice. -/
theorem trans (first : Stepped way tree middle path) (second : Stepped other middle after path) :
    Stepped (way ∨ other) tree after path := by
  rcases first with kept | ⟨onWay, stood, entered⟩
  · exact (second.mono Or.inr).congr kept.symm rfl
  · rcases second with kept | ⟨_, notDir, _⟩
    · exact Or.inr ⟨Or.inl onWay, stood, (isDir_congr kept).trans entered⟩
    · obtain ⟨mode, held⟩ := isDir_eq_true.mp entered
      rw [held] at notDir
      rcases notDir with absent | ⟨data, old, isFile⟩
      · cases absent
      · cases isFile

theorem link (stepped : Stepped way tree after path) :
    linkOf (PyDict.get after path) = linkOf (PyDict.get tree path) := by
  rcases stepped with kept | ⟨_, stood, entered⟩
  · rw [kept]
  · rw [linkOf_of_isDir entered]
    rcases stood with absent | ⟨data, mode, isFile⟩
    · rw [absent]
      rfl
    · rw [isFile]
      rfl

theorem dir {mode : Nat} (stepped : Stepped way tree after path)
    (held : PyDict.get tree path = some (.dir mode)) :
    PyDict.get after path = some (.dir mode) := by
  rcases stepped with kept | ⟨_, stood, _⟩
  · rw [kept, held]
  · rw [held] at stood
    rcases stood with absent | ⟨data, old, isFile⟩
    · cases absent
    · cases isFile

end Stepped

/-- What making the directories of a path changes in the tree. -/
def Made (tree after : Fs) (path : Path) : Prop :=
  ∀ other, Stepped (other <+: path) tree after other

theorem Made.refl (tree : Fs) (path : Path) : Made tree tree path :=
  fun _ => Or.inl rfl

theorem Made.trans {first second third : Fs} {path : Path} (before : Made first second path)
    (after : Made second third path) : Made first third path :=
  fun other => ((before other).trans (after other)).mono fun way => way.elim id id

theorem Made.elsewhere {tree after : Fs} {path : Path} (made : Made tree after path)
    (other : Path) (apart : ¬ other <+: path) :
    PyDict.get after other = PyDict.get tree other :=
  (made other).same apart

theorem Made.links {tree after : Fs} {path : Path} (made : Made tree after path) :
    SameLinks tree after :=
  fun other => (made other).link.symm

theorem Made.isDir {tree after : Fs} {path other : Path} (made : Made tree after path)
    (directory : isDir tree other = true) : Posix.isDir after other = true := by
  obtain ⟨mode, held⟩ := isDir_eq_true.mp directory
  exact isDir_of_get ((made other).dir held)

/-- A directory where nothing stands, or in place of a file. -/
theorem made_set {tree : Fs} {path place : Path} (under : place <+: path)
    (notLink : linkOf (PyDict.get tree place) = none) (notDir : isDir tree place = false)
    (mode : Nat) : Made tree (PyDict.set tree place (.dir mode)) path := by
  intro other
  by_cases same : place = other
  · subst same
    refine Or.inr ⟨under, ?_, ?_⟩
    · cases held : PyDict.get tree place with
      | none => exact Or.inl rfl
      | some node =>
          cases node with
          | dir mode =>
              rw [isDir_of_get held] at notDir
              cases notDir
          | file data mode => exact Or.inr ⟨data, mode, rfl⟩
          | link target =>
              rw [held] at notLink
              cases notLink
    · rw [Posix.isDir, PyDict.get_set_same]
      rfl
  · exact Or.inl (PyDict.get_set_ne tree _ same)

theorem Blocked.congr {first second : Fs} {path : Path} (same : SameLinks first second) :
    Blocked first path ↔ Blocked second path := by
  simp only [Blocked, same _]

/-- What leads through directories has no link in the way. -/
theorem not_blocked {tree : Fs} {path : Path} (root : isDir tree [] = true)
    (reached : reaches tree [] path = true) : ¬ Blocked tree path := by
  rintro ⟨more, under, isLink⟩
  exact isLink (linkOf_of_isDir (isDir_done root (reaches_front under reached)))

/-- What `_real_dir` with `create` leaves, in any case. -/
structure Makes (base : Path) (fs tree : Fs) (path : Path)
    (outcome : Except Failure (Option Path) × Fs) (after : Fs) : Prop where
  outside : Outside base fs outcome.2
  based : Based base outcome.2 after
  made : Made tree after path
  ends : outcome.1 = .ok (some (base ++ path)) ∧ reaches after [] path = true ∨
    (∃ message, outcome.1 = .error (.fetch message)) ∧ Blocked tree path

theorem Based.realDir_makes [Process] {base : Path} {fs tree : Fs} (based : Based base fs tree)
    (root : isDir tree [] = true) (rel : Path) {done todo : Path}
    (reached : reaches tree [] done = true) (proper : ∀ name ∈ done ++ todo, Proper name) :
    ∃ after, Makes base fs tree (done ++ todo) (realDirFrom base rel true done todo fs) after := by
  induction todo generalizing fs tree done with
  | nil =>
      rw [List.append_nil]
      exact ⟨tree, Outside.refl base fs, based, Made.refl tree done, Or.inl ⟨rfl, reached⟩⟩
  | cons part rest ih =>
      have split : done ++ part :: rest = done ++ [part] ++ rest := by simp
      have properNext : ∀ name ∈ done ++ [part] ++ rest, Proper name := by
        rw [← split]
        exact proper
      have properHere : ∀ name ∈ done ++ [part], Proper name := fun name found =>
        properNext name (List.mem_append_left _ found)
      have under : done ++ [part] <+: done ++ part :: rest := by
        rw [split]
        exact List.prefix_append ..
      -- Once the component is a directory, the rest goes on from it.
      have onward {middle next : Fs} (outside : Outside base fs middle)
          (nextBased : Based base middle next) (made : Made tree next (done ++ part :: rest))
          (entered : isDir next (done ++ [part]) = true) :
          ∃ after, Makes base fs tree (done ++ part :: rest)
            (realDirFrom base rel true (done ++ [part]) rest middle) after := by
        have reachedNext : reaches next [] (done ++ [part]) = true :=
          @WellFormed.reaches_of_isDir next nextBased.wellFormed [] _ entered
        obtain ⟨after, makes⟩ := ih nextBased (made.isDir root) reachedNext properNext
        rw [← split] at makes
        refine ⟨after, outside.trans makes.outside, makes.based, made.trans makes.made, ?_⟩
        rw [Blocked.congr made.links]
        exact makes.ends
      rw [realDirFrom, look_bind (based.lstat_entry reached properHere)]
      cases held : PyDict.get tree (done ++ [part]) with
      | none =>
          dsimp only
          rw [if_pos rfl]
          obtain ⟨middle, created, outside, nextBased⟩ :=
            based.create_run (Posix.made (PyDict.get tree done) 0o755) root reached properHere held
          rw [← based.mkdir_create 0o755 reached properHere] at created
          rw [alter_bind created]
          apply onward outside nextBased
          · apply made_set under
            · rw [held]
              rfl
            · rw [isDir, held]
          · rw [isDir, PyDict.get_set_same]
            rfl
      | some node =>
          cases node with
          | dir mode =>
              exact onward (Outside.refl base fs) based (Made.refl tree _) (isDir_of_get held)
          | link target =>
              dsimp only
              rw [if_pos rfl]
              refine ⟨tree, Outside.refl base fs, based, Made.refl tree _, Or.inr ⟨⟨_, rfl⟩, ?_⟩⟩
              exact ⟨done ++ [part], under, by rw [held]; exact Option.some_ne_none _⟩
          | file data mode =>
              dsimp only
              rw [if_pos rfl]
              obtain ⟨removed, middle, unlinked, made, outside, nextBased⟩ :=
                based.replace_run reached properHere held
              rw [alter_bind unlinked, alter_bind made]
              apply onward outside nextBased
              · apply made_set under
                · rw [held]
                  rfl
                · rw [isDir, held]
                  rfl
              · rw [isDir, PyDict.get_set_same]
                rfl

def treeName : Name :=
  "tree".toList

/-- Where a requested path stands in the staging directory. -/
def builtAt (staging : Name) (path : Path) : Path :=
  staging :: treeName :: path

/-- The requested paths, and the staging directory they are not in. -/
structure Requests (staging : Name) (starts : List Path) : Prop where
  named : Proper staging
  nonempty : ∀ start ∈ starts, start ≠ []
  proper : ∀ start ∈ starts, ∀ name ∈ start, Proper name
  apart : ∀ start ∈ starts, ¬ [staging] <+: start
  antichain : starts.Pairwise fun first second => ¬ first <+: second ∧ ¬ second <+: first

/-- What is in `dest` before the paths from here on are moved. -/
structure Staged (staging : Name) (count : Nat) (starts : List Path) (tree : Fs) : Prop where
  root : isDir tree [] = true
  present : isDir tree [staging] = true
  fresh : ∀ later, count ≤ later → PyDict.get tree [staging, previous later] = none
  built : ∀ start ∈ starts, isDir tree (builtAt staging start) = true

/-- What is in the staging directory, but neither in the tree nor in what has been
moved aside. -/
structure Spare (staging : Name) (path : Path) : Prop where
  inStaging : [staging] <+: path
  notBuilt : ¬ [staging, treeName] <+: path
  notPrevious : ∀ count, ¬ [staging, previous count] <+: path

/-- What moving one path into place changes. -/
structure MovedIn (staging : Name) (start : Path) (tree after : Fs) : Prop where
  inPlace : ∀ more, PyDict.get after (start ++ more) =
    PyDict.get tree (builtAt staging (start ++ more))
  building : ∀ path, ¬ start <+: path →
    PyDict.get after (builtAt staging path) = PyDict.get tree (builtAt staging path)
  beside : ∀ path, ¬ start <+: path → ¬ [staging] <+: path →
    Stepped (path <+: start.dropLast) tree after path
  aside : ∀ path, Spare staging path → PyDict.get after path = PyDict.get tree path

theorem MovedIn.elsewhere {staging : Name} {start : Path} {tree after : Fs}
    (movedIn : MovedIn staging start tree after) {path : Path} (apart : ¬ start <+: path)
    (notAbove : ¬ path <+: start) (outside : ¬ [staging] <+: path) :
    PyDict.get after path = PyDict.get tree path :=
  (movedIn.beside path apart outside).same fun under =>
    notAbove (under.trans (List.dropLast_prefix start))

theorem previous_eq (count : Nat) :
    previous count = "previous-".toList ++ Nat.toDigits 10 count := by
  simp [previous, Nat.repr_eq_ofList_toDigits]

theorem previous_injective {first second : Nat} (same : previous first = previous second) :
    first = second := by
  rw [previous_eq, previous_eq, List.append_cancel_left_eq] at same
  have read := congrArg (fun digits => Nat.ofDigitChars 10 digits 0) same
  simpa using read

theorem previous_cons (count : Nat) : ∃ rest, previous count = 'p' :: 'r' :: rest := by
  rw [previous_eq]
  exact ⟨_, rfl⟩

theorem proper_previous (count : Nat) : Proper (previous count) := by
  obtain ⟨rest, starts⟩ := previous_cons count
  rw [starts, Proper, current, upper]
  simp

theorem previous_ne_treeName (count : Nat) : previous count ≠ treeName := by
  obtain ⟨rest, starts⟩ := previous_cons count
  rw [starts]
  simp [treeName]

theorem Requests.beside {staging : Name} {starts : List Path} (requests : Requests staging starts)
    {start path : Path} (listed : start ∈ starts) (inStaging : [staging] <+: path) :
    ¬ start <+: path := by
  intro under
  rcases List.prefix_or_prefix_of_prefix inStaging under with above | within
  · exact requests.apart start listed above
  · rcases List.prefix_cons_iff.mp within with nothing | ⟨rest, whole, _⟩
    · exact requests.nonempty start listed nothing
    · exact requests.apart start listed (whole ▸ ⟨rest, rfl⟩)

theorem builtAt_inStaging (staging : Name) (path : Path) : [staging] <+: builtAt staging path :=
  ⟨treeName :: path, rfl⟩

theorem previous_inStaging (staging : Name) (count : Nat) :
    [staging] <+: [staging, previous count] :=
  ⟨[previous count], rfl⟩

/-- Nothing stands at the path, and what was there is in the staging directory. -/
structure Cleared (staging : Name) (count : Nat) (start : Path) (tree after : Fs) : Prop where
  absent : PyDict.get after start = none
  kept : ∀ path, ¬ start <+: path → ¬ [staging, previous count] <+: path →
    PyDict.get after path = PyDict.get tree path

section Move

variable {staging : Name} {count : Nat} {start : Path} {rest : List Path}
  (requests : Requests staging (start :: rest))

include requests

/-- The moves, once nothing stands at the path. -/
theorem movedIn_of_cleared {tree made cleared : Fs} (staged : Staged staging count (start :: rest) tree)
    (making : Made tree made start.dropLast) (clearing : Cleared staging count start made cleared)
    (wellFormed : WellFormed cleared) :
    MovedIn staging start tree (moved cleared (builtAt staging start) start) ∧
      Staged staging (count + 1) rest (moved cleared (builtAt staging start) start) := by
  have listed : start ∈ start :: rest := List.mem_cons_self ..
  have lookups := @get_moved cleared (builtAt staging start) start
    (wellFormed.free clearing.absent)
  -- What is in the staging directory, but for what was there, stays.
  have staged_same {path : Path} (inStaging : [staging] <+: path)
      (notPrevious : ¬ [staging, previous count] <+: path)
      (notBuilt : ¬ builtAt staging start <+: path) :
      PyDict.get (moved cleared (builtAt staging start) start) path = PyDict.get tree path := by
    have beside := requests.beside listed inStaging
    rw [lookups, if_neg beside, if_neg notBuilt, clearing.kept path beside notPrevious]
    apply making.elsewhere
    intro under
    exact requests.apart start listed
      (inStaging.trans (under.trans (List.dropLast_prefix start)))
  -- And so does what is beside it.
  have beside_same {path : Path} (outside : ¬ start <+: path) (notStaging : ¬ [staging] <+: path) :
      PyDict.get (moved cleared (builtAt staging start) start) path = PyDict.get made path := by
    rw [lookups, if_neg outside,
      if_neg (fun under => notStaging ((builtAt_inStaging staging start).trans under)),
      clearing.kept path outside
        (fun under => notStaging ((previous_inStaging staging count).trans under))]
  have building : ∀ path, ¬ start <+: path →
      PyDict.get (moved cleared (builtAt staging start) start) (builtAt staging path) =
        PyDict.get tree (builtAt staging path) := by
    intro path outside
    apply staged_same (builtAt_inStaging staging path)
    · intro under
      have named := (List.cons_prefix_cons.mp (List.cons_prefix_cons.mp under).2).1
      exact previous_ne_treeName count named
    · intro under
      exact outside (List.cons_prefix_cons.mp (List.cons_prefix_cons.mp under).2).2
  have rootBeside : ¬ start <+: [] := by
    simpa using requests.nonempty start listed
  constructor
  · refine ⟨?_, building, ?_, ?_⟩
    · intro more
      have inStaging : [staging] <+: builtAt staging (start ++ more) := builtAt_inStaging _ _
      rw [lookups, if_pos (List.prefix_append ..), List.drop_left]
      have kept := clearing.kept (builtAt staging (start ++ more))
        (requests.beside listed inStaging) (by
          intro under
          have named := (List.cons_prefix_cons.mp (List.cons_prefix_cons.mp under).2).1
          exact previous_ne_treeName count named)
      refine Eq.trans kept (making.elsewhere _ ?_)
      intro under
      exact requests.apart start listed
        (inStaging.trans (under.trans (List.dropLast_prefix start)))
    · intro path outside notStaging
      exact (making path).congr rfl (beside_same outside notStaging)
    · intro path spare
      apply staged_same spare.inStaging (spare.notPrevious count)
      exact fun under => spare.notBuilt (List.IsPrefix.trans ⟨start, rfl⟩ under)
  · refine ⟨?_, ?_, ?_, ?_⟩
    · rw [isDir_congr (beside_same rootBeside (by simp))]
      exact making.isDir staged.root
    · rw [isDir_congr (staged_same List.prefix_rfl (by simp) (by simp [builtAt]))]
      exact staged.present
    · intro later passed
      have notSame : ¬ [staging, previous count] <+: [staging, previous later] := by
        intro under
        have named := (List.cons_prefix_cons.mp (List.cons_prefix_cons.mp under).2).1
        have same := previous_injective named
        omega
      have notBuilt : ¬ builtAt staging start <+: [staging, previous later] := by
        intro under
        have named := (List.cons_prefix_cons.mp (List.cons_prefix_cons.mp under).2).1
        exact previous_ne_treeName later named.symm
      rw [staged_same (previous_inStaging staging later) notSame notBuilt]
      exact staged.fresh later (by omega)
    · intro other later
      have apart := (List.pairwise_cons.mp requests.antichain).1 other later
      rw [isDir_congr (building other apart.1)]
      exact staged.built other (List.mem_cons_of_mem _ later)

/-- One path is moved into place, or a link is in the way. -/
structure MovesIn (dest : Path) (fs : Fs) (staging : Name) (count : Nat) (start : Path)
    (rest : List Path) (tree : Fs) (outcome : Except Failure Unit × Fs) (after : Fs) : Prop where
  outside : Outside dest fs outcome.2
  based : Based dest outcome.2 after
  ends : outcome.1 = .ok () ∧ ¬ Blocked tree start.dropLast ∧
      MovedIn staging start tree after ∧ Staged staging (count + 1) rest after ∨
    (∃ message, outcome.1 = .error (.fetch message)) ∧ Blocked tree start.dropLast ∧
      Made tree after start.dropLast

/-- The tree goes where nothing stands any more. -/
theorem Based.rename_built {dest : Path} {fs tree made cleared : Fs}
    (based : Based dest fs cleared) (staged : Staged staging count (start :: rest) tree)
    (making : Made tree made start.dropLast) (reached : reaches made [] start.dropLast = true)
    (clearing : Cleared staging count start made cleared) :
    ∃ after, rename fs (dest ++ builtAt staging start) (dest ++ start) = .ok after ∧
      Outside dest fs after ∧ Based dest after (moved cleared (builtAt staging start) start) := by
  have listed : start ∈ start :: rest := List.mem_cons_self ..
  have nonempty := requests.nonempty start listed
  have whole := dropLast_leafOf nonempty
  have inStaging := builtAt_inStaging staging start
  have rootMade : isDir made [] = true := making.isDir staged.root
  have root : isDir cleared [] = true := by
    rw [isDir_congr (clearing.kept [] (by simpa using nonempty) (by simp))]
    exact rootMade
  have parent : isDir cleared start.dropLast = true := by
    rw [isDir_congr (clearing.kept start.dropLast _ _)]
    · exact isDir_done rootMade reached
    · intro under
      have bound := under.length_le
      rw [List.length_dropLast] at bound
      have positive := List.length_pos_iff.mpr nonempty
      omega
    · intro under
      exact requests.apart start listed ((previous_inStaging staging count).trans
        (under.trans (List.dropLast_prefix start)))
  have present : PyDict.get cleared (builtAt staging start) ≠ none := by
    rw [clearing.kept _ (requests.beside listed inStaging)]
    · rw [making.elsewhere]
      · exact get_ne_none_of_isDir (staged.built start listed)
      · intro under
        exact requests.apart start listed
          (inStaging.trans (under.trans (List.dropLast_prefix start)))
    · intro under
      have named := (List.cons_prefix_cons.mp (List.cons_prefix_cons.mp under).2).1
      exact previous_ne_treeName count named
  have renamed := @Based.rename_run dest fs cleared based root (builtAt staging start)
    start.dropLast (leafOf start) (List.cons_ne_nil _ _) present parent
  rw [whole] at renamed
  apply renamed (requests.proper start listed) clearing.absent
  intro under
  exact requests.apart start listed (inStaging.trans under)

/-- What stands at the path goes into the staging directory. -/
theorem Based.rename_aside {dest : Path} {fs tree made : Fs}
    (based : Based dest fs made) (staged : Staged staging count (start :: rest) tree)
    (making : Made tree made start.dropLast) (present : PyDict.get made start ≠ none) :
    ∃ after cleared, rename fs (dest ++ start) (dest ++ [staging] ++ [previous count]) = .ok after ∧
      Outside dest fs after ∧ Based dest after cleared ∧
      Cleared staging count start made cleared := by
  have listed : start ∈ start :: rest := List.mem_cons_self ..
  have inStaging := previous_inStaging staging count
  have apart : ¬ start <+: [staging] ++ [previous count] := requests.beside listed inStaging
  have kept {path : Path} (under : [staging] <+: path) :
      PyDict.get made path = PyDict.get tree path := by
    apply making.elsewhere
    intro above
    exact requests.apart start listed (under.trans (above.trans (List.dropLast_prefix start)))
  have absent : PyDict.get made ([staging] ++ [previous count]) = none :=
    (kept inStaging).trans (staged.fresh count (Nat.le_refl _))
  have proper : ∀ name ∈ [staging] ++ [previous count], Proper name := by
    intro name found
    rcases List.mem_append.mp found with first | last
    · rw [List.mem_singleton.mp first]
      exact requests.named
    · rw [List.mem_singleton.mp last]
      exact proper_previous count
  have parent : isDir made [staging] = true := by
    rw [isDir_congr (kept List.prefix_rfl)]
    exact staged.present
  obtain ⟨after, renamed, outside, next⟩ := based.rename_run (making.isDir staged.root)
    (requests.nonempty start listed) present parent proper absent apart
  rw [← List.append_assoc] at renamed
  refine ⟨after, _, renamed, outside, next, ?_, ?_⟩
  · rw [get_moved (based.wellFormed.free absent), if_neg, if_pos List.prefix_rfl]
    exact fun under => requests.apart start listed (inStaging.trans under)
  · intro path beside notPrevious
    rw [get_moved (based.wellFormed.free absent)]
    exact (if_neg notPrevious).trans (if_neg beside)

theorem Based.moveIn_moves [Process] {dest : Path} {fs tree : Fs} (based : Based dest fs tree)
    (staged : Staged staging count (start :: rest) tree) :
    ∃ after, MovesIn dest fs staging count start rest tree
      (moveIn (dest ++ [staging, treeName]) dest (dest ++ [staging]) count start fs) after := by
  have listed : start ∈ start :: rest := List.mem_cons_self ..
  have nonempty := requests.nonempty start listed
  have proper := requests.proper start listed
  have whole := dropLast_leafOf nonempty
  have leafProper := proper (leafOf start) (leafOf_mem nonempty)
  have properStart : ∀ name ∈ start.dropLast ++ [leafOf start], Proper name := by
    rw [whole]
    exact proper
  obtain ⟨made, makes⟩ := based.realDir_makes staged.root start.dropLast
    (show reaches tree [] [] = true from rfl)
    (fun name found => proper name (List.mem_of_mem_dropLast found))
  rw [List.nil_append] at makes
  have making := makes.made
  cases came : realDirFrom dest start.dropLast true [] start.dropLast fs with
  | mk outcome middle =>
      rw [came] at makes
      rcases makes.ends with ⟨isOk, reached⟩ | ⟨⟨message, isError⟩, blocked⟩
      · cases isOk
        have named : child (dest ++ start.dropLast) (leafOf start) = dest ++ start := by
          rw [child, if_neg (not_or.mpr ⟨leafProper.1, leafProper.2.1⟩), List.append_assoc, whole]
        have targeted : targetOf dest start fs = (.ok (dest ++ start), middle) := by
          unfold targetOf realDir
          simp only [bind_apply, came, named]
          rfl
        have looked := makes.based.lstat_entry reached properStart
        rw [whole] at looked
        have source : dest ++ [staging, treeName] ++ start = dest ++ builtAt staging start := by
          simp [builtAt]
        have notBlocked : ¬ Blocked tree start.dropLast := by
          rw [Blocked.congr making.links]
          exact not_blocked (making.isDir staged.root) reached
        -- Once nothing stands at the path, the tree is moved there.
        have finish {between cleared : Fs} (outside : Outside dest fs between)
            (clearedBased : Based dest between cleared)
            (clearing : Cleared staging count start made cleared) :
            ∃ after, MovesIn dest fs staging count start rest tree
              (alter (fun fs => rename fs (dest ++ builtAt staging start) (dest ++ start)) between)
              after := by
          obtain ⟨after, renamed, moving, next⟩ :=
            clearedBased.rename_built requests staged making reached clearing
          have ended := movedIn_of_cleared requests staged making clearing clearedBased.wellFormed
          refine ⟨_, ?_, ?_, Or.inl ⟨?_, notBlocked, ended⟩⟩
          · rw [alter, renamed]
            exact outside.trans moving
          · rw [alter, renamed]
            exact next
          · rw [alter, renamed]
        unfold moveIn
        rw [bind_apply, targeted, source]
        dsimp only
        rw [look_bind looked]
        cases held : PyDict.get made start with
        | none =>
            rw [if_neg (by simp)]
            exact finish makes.outside makes.based ⟨held, fun _ _ _ => rfl⟩
        | some node =>
            rw [if_pos Option.isSome_some]
            obtain ⟨between, cleared, renamed, aside, clearedBased, clearing⟩ :=
              makes.based.rename_aside requests staged making
                (by rw [held]; exact Option.some_ne_none _)
            rw [alter_bind renamed]
            exact finish (makes.outside.trans aside) clearedBased clearing
      · cases isError
        have moving : moveIn (dest ++ [staging, treeName]) dest (dest ++ [staging]) count start fs =
            (.error (.fetch message), middle) := by
          unfold moveIn targetOf realDir
          simp only [bind_apply, came]
        rw [moving]
        exact ⟨made, makes.outside, makes.based, Or.inr ⟨⟨message, rfl⟩, blocked, making⟩⟩

end Move

/-- Neither path is in the other. -/
def Apart (first second : Path) : Prop :=
  ¬ first <+: second ∧ ¬ second <+: first

theorem Apart.below {first second : Path} (apart : Apart first second) (more : Path) :
    Apart first (second ++ more) := by
  constructor
  · intro under
    rcases List.prefix_or_prefix_of_prefix under (List.prefix_append second more) with above | within
    · exact apart.1 above
    · exact apart.2 within
  · exact fun under => apart.2 ((List.prefix_append second more).trans under)

theorem Requests.tail {staging : Name} {start : Path} {rest : List Path}
    (requests : Requests staging (start :: rest)) : Requests staging rest where
  named := requests.named
  nonempty other later := requests.nonempty other (List.mem_cons_of_mem _ later)
  proper other later := requests.proper other (List.mem_cons_of_mem _ later)
  apart other later := requests.apart other (List.mem_cons_of_mem _ later)
  antichain := (List.pairwise_cons.mp requests.antichain).2

theorem Requests.head {staging : Name} {start : Path} {rest : List Path}
    (requests : Requests staging (start :: rest)) : ∀ other ∈ rest, Apart start other :=
  (List.pairwise_cons.mp requests.antichain).1

theorem Requests.not_staging {staging : Name} {starts : List Path}
    (requests : Requests staging starts) {start : Path} (listed : start ∈ starts) (more : Path) :
    ¬ [staging] <+: start ++ more :=
  fun under => requests.beside listed under (List.prefix_append start more)

/-- What has been moved, and what has not: the first path that has not has a link
in the way. -/
structure Partly (staging : Name) (starts : List Path) (built : Path → Option Node)
    (tree after : Fs) (result : Except Failure Unit) (moved kept : List Path) : Prop where
  split : starts = moved ++ kept
  free : ∀ start ∈ moved, ¬ Blocked tree start.dropLast
  inPlace : ∀ start ∈ moved, ∀ more, PyDict.get after (start ++ more) = built (start ++ more)
  asBefore : ∀ start ∈ kept, ∀ more, PyDict.get after (start ++ more) =
    PyDict.get tree (start ++ more)
  beside : ∀ path, (∀ start ∈ moved, ¬ start <+: path) → ¬ [staging] <+: path →
    Stepped (∃ start ∈ moved ++ kept.take 1, path <+: start.dropLast) tree after path
  ends : kept = [] ∧ result = .ok () ∨ ∃ first, kept.head? = some first ∧
    Blocked tree first.dropLast ∧ ∃ message, result = .error (.fetch message)

namespace Partly

variable {staging : Name} {starts moved kept : List Path} {built : Path → Option Node}
  {tree after : Fs} {result : Except Failure Unit}
  (partly : Partly staging starts built tree after result moved kept)

include partly

theorem links {path : Path} (outside : ¬ [staging] <+: path)
    (beside : ∀ start ∈ starts, ¬ start <+: path) :
    linkOf (PyDict.get after path) = linkOf (PyDict.get tree path) :=
  (partly.beside path (fun start found =>
    beside start (partly.split ▸ List.mem_append_left _ found)) outside).link

theorem elsewhere {path : Path} (outside : ¬ [staging] <+: path)
    (apart : ∀ start ∈ starts, Apart start path) :
    PyDict.get after path = PyDict.get tree path := by
  have inStarts {start : Path} (found : start ∈ moved ++ kept.take 1) : start ∈ starts := by
    rw [partly.split]
    rcases List.mem_append.mp found with first | last
    · exact List.mem_append_left _ first
    · exact List.mem_append_right _ (List.mem_of_mem_take last)
  refine (partly.beside path (fun start found =>
    (apart start (inStarts (List.mem_append_left _ found))).1) outside).same ?_
  rintro ⟨start, found, under⟩
  exact (apart start (inStarts found)).2 (under.trans (List.dropLast_prefix start))

end Partly

/-- What moving the paths into place leaves. -/
structure MovesAll (dest : Path) (fs : Fs) (staging : Name) (starts : List Path) (tree : Fs)
    (outcome : Except Failure Unit × Fs) (after : Fs) : Prop where
  outside : Outside dest fs outcome.2
  based : Based dest outcome.2 after
  root : isDir after [] = true
  present : isDir after [staging] = true
  partly : ∃ moved kept, Partly staging starts (fun path => PyDict.get tree (builtAt staging path))
    tree after outcome.1 moved kept
  aside : ∀ path, Spare staging path → PyDict.get after path = PyDict.get tree path

theorem Based.moveAll_moves [Process] {dest : Path} {fs tree : Fs} (based : Based dest fs tree)
    {staging : Name} {count : Nat} {starts : List Path} (requests : Requests staging starts)
    (staged : Staged staging count starts tree) :
    ∃ after, MovesAll dest fs staging starts tree
      (moveAll (dest ++ [staging, treeName]) dest (dest ++ [staging]) count starts fs) after := by
  induction starts generalizing fs tree count with
  | nil =>
      have partly : Partly staging [] (fun path => PyDict.get tree (builtAt staging path)) tree tree
          (.ok ()) [] [] :=
        ⟨rfl, by simp, by simp, by simp, fun _ _ _ => Or.inl rfl, Or.inl ⟨rfl, rfl⟩⟩
      exact ⟨tree, Outside.refl dest fs, based, staged.root, staged.present, ⟨[], [], partly⟩,
        fun _ _ => rfl⟩
  | cons start rest ih =>
      have listed : start ∈ start :: rest := List.mem_cons_self ..
      obtain ⟨after, moves⟩ := based.moveIn_moves requests staged
      rw [moveAll, bind_apply]
      cases came : moveIn (dest ++ [staging, treeName]) dest (dest ++ [staging]) count start fs with
      | mk outcome middle =>
          rw [came] at moves
          rcases moves.ends with ⟨isOk, notBlocked, movedIn, stagedNext⟩ |
            ⟨⟨message, isError⟩, blocked, made⟩
          · cases isOk
            obtain ⟨last, onward⟩ := ih moves.based requests.tail stagedNext
            obtain ⟨moved, kept, partly⟩ := onward.partly
            -- A later path is apart from this one, and so is what is below it.
            have later {other : Path} (found : other ∈ rest) (more : Path) :
                Apart start (other ++ more) := (requests.head other found).below more
            have notStaging {other : Path} (found : other ∈ start :: rest) (more : Path) :
                ¬ [staging] <+: other ++ more := requests.not_staging found more
            have blocked_same {other : Path} (found : other ∈ rest) :
                Blocked after other.dropLast ↔ Blocked tree other.dropLast := by
              have linkSame {more : Path} (under : more <+: other.dropLast) :
                  linkOf (PyDict.get after more) = linkOf (PyDict.get tree more) := by
                have within := under.trans (List.dropLast_prefix other)
                apply (movedIn.beside more _ _).link
                · exact fun above => (requests.head other found).1 (above.trans within)
                · exact fun above =>
                    requests.tail.apart other found (above.trans within)
              constructor
              · rintro ⟨more, under, isLink⟩
                exact ⟨more, under, linkSame under ▸ isLink⟩
              · rintro ⟨more, under, isLink⟩
                exact ⟨more, under, (linkSame under).symm ▸ isLink⟩
            have inMoved {other : Path} (found : other ∈ moved) : other ∈ rest :=
              partly.split ▸ List.mem_append_left _ found
            have inKept {other : Path} (found : other ∈ kept) : other ∈ rest :=
              partly.split ▸ List.mem_append_right _ found
            refine ⟨last, moves.outside.trans onward.outside, onward.based, onward.root,
              onward.present, ⟨start :: moved, kept, ?_⟩, ?_⟩
            · refine ⟨by rw [partly.split]; rfl, ?_, ?_, ?_, ?_, ?_⟩
              · intro other found
                rcases List.mem_cons.mp found with rfl | further
                · exact notBlocked
                · rw [← blocked_same (inMoved further)]
                  exact partly.free other further
              · intro other found more
                rcases List.mem_cons.mp found with rfl | further
                · rw [partly.elsewhere (notStaging listed more) fun next found =>
                    (Apart.below ⟨(requests.head next found).2, (requests.head next found).1⟩ more)]
                  exact movedIn.inPlace more
                · rw [partly.inPlace other further]
                  exact movedIn.building _ (later (inMoved further) more).1
              · intro other found more
                rw [partly.asBefore other found]
                exact movedIn.elsewhere (later (inKept found) more).1 (later (inKept found) more).2
                  (notStaging (List.mem_cons_of_mem _ (inKept found)) more)
              · intro path apart outside
                have first := movedIn.beside path (apart start (List.mem_cons_self ..)) outside
                have second := partly.beside path
                  (fun other found => apart other (List.mem_cons_of_mem _ found)) outside
                apply (first.trans second).mono
                rintro (under | ⟨other, found, under⟩)
                · exact ⟨start, List.mem_cons_self .., under⟩
                · exact ⟨other, List.mem_cons_of_mem _ found, under⟩
              · rcases partly.ends with finished | ⟨first, head, isBlocked, failed⟩
                · exact Or.inl finished
                · refine Or.inr ⟨first, head, ?_, failed⟩
                  rw [← blocked_same (inKept (List.mem_of_head? head))]
                  exact isBlocked
            · intro path spare
              rw [onward.aside path spare, movedIn.aside path spare]
          · cases isError
            have above {path : Path} (notWithin : ¬ path <+: start) :
                PyDict.get after path = PyDict.get tree path := by
              apply made.elsewhere
              exact fun under => notWithin (under.trans (List.dropLast_prefix start))
            refine ⟨after, moves.outside, moves.based, made.isDir staged.root,
              made.isDir staged.present, ⟨[], start :: rest, ?_⟩, ?_⟩
            · refine ⟨rfl, by simp, by simp, ?_, ?_, Or.inr ⟨start, rfl, blocked, message, rfl⟩⟩
              · intro other found more
                rcases List.mem_cons.mp found with rfl | further
                · apply made.elsewhere
                  intro under
                  have bound := ((List.prefix_append other more).trans under).length_le
                  rw [List.length_dropLast] at bound
                  have positive := List.length_pos_iff.mpr (requests.nonempty other listed)
                  omega
                · apply above
                  intro under
                  exact (requests.head other further).2 ((List.prefix_append other more).trans under)
              · intro path _ _
                exact (made path).mono fun under => ⟨start, List.mem_cons_self .., under⟩
            · intro path spare
              exact above fun within =>
                requests.apart start listed (spare.inStaging.trans within)

end Catena.Fetch

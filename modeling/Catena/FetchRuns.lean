import Catena.FetchEnds

/-!
# A whole pull

`fetch`, from the reference to the end of its run: the layers are those the digest of
the reference vouches for, the staging directory is gone in any case, and `dest` has
come to one of the ends of a run.
-/

namespace Catena.Fetch

open PyText Posix ByteLines

/-- `dest`, with an empty staging directory in it. -/
structure Opened [Process] (dest : Path) (fs tree before : Fs) (fresh : Name) : Prop where
  based : Based dest fs tree
  root : isDir tree [] = true
  named : Proper fresh
  notImage : fresh ≠ imageName
  made : PyDict.get tree [fresh] = some (made (PyDict.get before []) 0o700)
  empty : ∀ name more, PyDict.get tree (fresh :: name :: more) = none
  same : ∀ path, ¬ [fresh] <+: path → PyDict.get tree path = PyDict.get before path

/-- The tree of an image is begun in the staging directory. -/
structure Begun [Process] (dest : Path) (fs after tree next : Fs) (fresh : Name)
    (home : Option Node) : Prop where
  made : mkdir fs (dest ++ [fresh] ++ [treeName]) 0o777 = .ok after
  outside : Outside dest fs after
  based : Based dest after next
  holds : Holds next [fresh, treeName]
  root : isDir next [] = true
  present : isDir next [fresh] = true
  same : ∀ path, ¬ [fresh, treeName] <+: path → PyDict.get next path = PyDict.get tree path
  unpacking : Unpacking (dest ++ [fresh]) after [([], treeRoot home)]

theorem Opened.present [Process] {dest : Path} {fs tree before : Fs} {fresh : Name}
    (opened : Opened dest fs tree before fresh) : isDir tree [fresh] = true :=
  isDir_of_get opened.made

theorem Opened.begun [Process] {dest : Path} {fs tree before : Fs} {fresh : Name}
    (opened : Opened dest fs tree before fresh) :
    ∃ after next, Begun dest fs after tree next fresh (PyDict.get before []) := by
  have proper : ∀ name ∈ [fresh] ++ [treeName], Proper name := by
    intro name found
    rcases List.mem_append.mp found with first | last
    · rw [List.mem_singleton.mp first]
      exact opened.named
    · rw [List.mem_singleton.mp last]
      decide
  have reached : reaches tree [] [fresh] = true :=
    @WellFormed.reaches_of_isDir tree opened.based.wellFormed [] [fresh] opened.present
  obtain ⟨after, created, outside, next⟩ := opened.based.create_run
    (treeRoot (PyDict.get before [])) opened.root reached proper (opened.empty treeName [])
  have making := opened.based.mkdir_create 0o777 reached proper
  rw [opened.made] at making
  rw [← treeRoot, created] at making
  have same (path : Path) (apart : ¬ [fresh, treeName] <+: path) :
      PyDict.get (PyDict.set tree ([fresh] ++ [treeName]) (treeRoot (PyDict.get before []))) path =
        PyDict.get tree path := by
    apply PyDict.get_set_ne
    rintro rfl
    exact apart (List.prefix_refl _)
  have root : isDir (PyDict.set tree ([fresh] ++ [treeName]) (treeRoot (PyDict.get before []))) [] = true := by
    rw [isDir_congr (same [] (by simp))]
    exact opened.root
  have present : isDir (PyDict.set tree ([fresh] ++ [treeName]) (treeRoot (PyDict.get before []))) [fresh] =
      true := by
    rw [isDir_congr (same [fresh] (by simp))]
    exact opened.present
  have holds : Holds (PyDict.set tree ([fresh] ++ [treeName]) (treeRoot (PyDict.get before []))) [fresh, treeName] := by
    refine ⟨List.cons_ne_nil _ _, proper, present, ?_⟩
    intro node held
    have placed := PyDict.get_set_same tree ([fresh] ++ [treeName]) (treeRoot (PyDict.get before []))
    cases placed.symm.trans held
    rfl
  have below (path : Path) : PyDict.get [([], treeRoot (PyDict.get before []))] path =
      PyDict.get (subtree (PyDict.set tree ([fresh] ++ [treeName]) (treeRoot (PyDict.get before [])))
        [fresh, treeName]) path := by
    rw [get_subtree]
    cases path with
    | nil => exact (PyDict.get_set_same tree ([fresh] ++ [treeName]) (treeRoot (PyDict.get before []))).symm
    | cons name more =>
        rw [PyDict.get_set_ne _ _ (by simp)]
        exact (opened.empty treeName (name :: more)).symm
  have inner := (next.sub root holds).retree below
  refine ⟨after, _, ?_, outside, next, holds, root, present, same, ?_, ?_, ?_⟩
  · rw [List.append_assoc]
    exact making
  · exact next.real_present root (get_ne_none_of_isDir present)
  · rw [isDir_congr (next.same [fresh])]
    exact present
  · rw [List.append_assoc]
    exact inner

section Staged

variable (tools : Tools) (network : Network)

/-- What is done in the staging directory. -/
theorem Opened.finishes [Process] {dest : Path} {world : World} {tree before : Fs} {fresh : Name}
    (opened : Opened dest world.fs tree before fresh) {starts : List Path}
    (requests : Requests fresh starts) (imageFree : ∀ start ∈ starts, ¬ [imageName] <+: start)
    (repoPath name : Name) (layers : List LayerRef) :
    Finishes dest world.fs fresh
      (staged tools network repoPath name dest (dest ++ [fresh]) starts layers world)
      (Ends tools network fresh starts layers (utf8 (name ++ ['\n'])) before) := by
  obtain ⟨first, next, begun⟩ := opened.begun
  have clean : PyDict.get first (dest ++ [fresh] ++ [blobName]) = none := by
    rw [List.append_assoc, begun.based.same, List.singleton_append, begun.same]
    · exact opened.empty blobName []
    · intro under
      exact absurd (List.cons_prefix_cons.mp (List.cons_prefix_cons.mp under).2).1 (by decide)
  have unpacking := @unpackLayers_unpacks tools network _ (dest ++ [fresh])
    { world with fs := first } _ begun.unpacking clean repoPath starts layers []
  unfold staged
  rw [Online.bind_apply, onDisk_alter begun.made]
  dsimp only
  rw [Online.bind_apply]
  cases came : unpackLayers tools network repoPath (dest ++ [fresh]) starts layers []
      { world with fs := first } with
  | mk outcome second =>
      rw [came] at unpacking
      have real : Real second.fs (dest ++ [fresh]) :=
        unpacking.outside.real begun.unpacking.real
      have directory : isDir second.fs (dest ++ [fresh]) = true := by
        rw [isDir_congr unpacking.above]
        exact begun.unpacking.directory
      have widened : Outside dest world.fs second.fs := by
        apply begun.outside.trans
        intro path apart
        exact unpacking.outside path fun under => apart ((List.prefix_append ..).trans under)
      cases outcome with
      | error failure =>
          refine ⟨widened, real, directory, prune next [fresh],
            begun.based.prune_outside unpacking.outside, ?_, Ends.refused failure ?_⟩
          · intro path inStaging
            rw [get_prune, if_pos inStaging]
          · intro path outside
            have notBuilt : ¬ [fresh, treeName] <+: path := fun under =>
              outside (List.IsPrefix.trans ⟨[treeName], rfl⟩ under)
            rw [get_prune, if_neg outside, begun.same path notBuilt, opened.same path outside]
      | ok modes =>
          obtain ⟨besideTree, image, within, bodies, hold, made⟩ := unpacking.ends modes rfl
          have inner := within.based
          rw [List.append_assoc] at inner besideTree
          obtain ⟨last, based, below, beside⟩ := begun.based.join begun.holds inner besideTree
          have root : isDir last [] = true := by
            rw [isDir_congr (beside [] (by simp))]
            exact begun.root
          have present : isDir last [fresh] = true := by
            rw [isDir_congr (beside [fresh] (by simp))]
            exact begun.present
          have ready : Ready dest second.fs last before image fresh starts := by
            refine ⟨based, requests, root, present, ?_, ?_, opened.notImage, imageFree, inner,
              below⟩
            · intro other more differs
              have notBuilt : ¬ [fresh, treeName] <+: fresh :: other :: more := fun under =>
                differs (List.cons_prefix_cons.mp (List.cons_prefix_cons.mp under).2).1.symm
              rw [beside _ notBuilt, begun.same _ notBuilt, opened.empty]
            · intro path outside
              have notBuilt : ¬ [fresh, treeName] <+: path := fun under =>
                outside (List.IsPrefix.trans ⟨[treeName], rfl⟩ under)
              rw [beside _ notBuilt, begun.same _ notBuilt, opened.same _ outside]
          have finishes := ready.finishes tools network ⟨bodies, hold, made⟩
            (utf8 (name ++ ['\n']))
          dsimp only
          rw [List.append_assoc dest [fresh] [treeName]]
          exact ⟨widened.trans finishes.outside, finishes.real, finishes.directory,
            finishes.after⟩

end Staged

/-- A part that leaves the disk alone, and what it has learnt. -/
structure Learns {α : Type} (part : Online α) (ends : α → Prop) : Prop where
  disk : ∀ world, (part world).2.fs = world.fs
  ends : ∀ world value, (part world).1 = .ok value → ends value

namespace Learns

theorem bind {α β : Type} {part : Online α} {next : α → Online β} {first : α → Prop}
    {last : β → Prop} (begins : Learns part first)
    (onward : ∀ value, first value → Learns (next value) last) : Learns (part >>= next) last := by
  constructor
  · intro world
    have kept := begins.disk world
    have learnt := begins.ends world
    rw [Online.bind_apply]
    cases came : part world with
    | mk outcome after =>
        rw [came] at kept learnt
        cases outcome with
        | error failure => exact kept
        | ok value => exact ((onward value (learnt value rfl)).disk after).trans kept
  · intro world found
    have learnt := begins.ends world
    rw [Online.bind_apply]
    cases came : part world with
    | mk outcome after =>
        rw [came] at learnt
        cases outcome with
        | error failure => exact fun isOk => by cases isOk
        | ok value => exact (onward value (learnt value rfl)).ends after found

theorem pure {α : Type} {ends : α → Prop} {value : α} (holds : ends value) :
    Learns (Pure.pure value : Online α) ends where
  disk _ := rfl
  ends _ _ isOk := by
    cases isOk
    exact holds

theorem raise {α : Type} {ends : α → Prop} (failure : Failure) :
    Learns (Online.raise failure : Online α) ends where
  disk _ := rfl
  ends _ _ isOk := by cases isOk

theorem lift {α : Type} (value : Except Failure α) :
    Learns (Online.lift value) fun found => value = .ok found where
  disk _ := rfl
  ends _ _ isOk := isOk

theorem say (network : Network) : Learns (say network) fun _ => True := by
  constructor
  · intro world
    rcases say_cases network world with said | ⟨_, _, said⟩ <;> rw [said]
  · exact fun _ _ _ => trivial

theorem retry (network : Network) {α : Type} {once : Online α} {ends : α → Prop}
    (learns : Learns once ends) (left : Nat) : Learns (retry network once left) ends := by
  induction left with
  | zero => exact learns
  | succ left ih =>
      have again := (Learns.say network).bind fun _ _ => ih
      constructor
      · intro world
        have kept := learns.disk world
        cases came : once world with
        | mk outcome after =>
            rw [came] at kept
            cases outcome with
            | ok value =>
                rw [retry_ok network came]
                exact kept
            | error failure =>
                rw [retry_error network came]
                split
                · exact (again.disk after).trans kept
                · exact kept
      · intro world found
        have learnt := learns.ends world found
        cases came : once world with
        | mk outcome after =>
            rw [came] at learnt
            cases outcome with
            | ok value =>
                rw [retry_ok network came]
                exact learnt
            | error failure =>
                rw [retry_error network came]
                split
                · exact again.ends after found
                · exact fun isOk => by cases isOk

end Learns

section Registry

variable (tools : Tools) (network : Network)

theorem learns_ask (path : List Char) : Learns (ask network path) fun answer =>
    Gives network answer.1 := by
  constructor
  · intro world
    cases came : network (world.asks ++ [.path path]) with
    | failed failure => rw [ask_failed network came]
    | body data ends => rw [ask_body network came]
  · intro world answer isOk
    cases came : network (world.asks ++ [.path path]) with
    | failed failure =>
        rw [ask_failed network came] at isOk
        cases isOk
    | body data ends =>
        rw [ask_body network came] at isOk
        cases isOk
        exact ⟨_, _, _, came⟩

theorem learns_get (path : List Char) : Learns (get network path) (Gives network) := by
  apply Learns.retry
  apply (learns_ask network path).bind
  intro answer given
  split
  · exact Learns.pure given
  · exact Learns.raise _

/-- The registry gives this document, under its digest. -/
def Vouched (digest : Name) (doc : PyDict String Json) : Prop :=
  ∃ body, Gives network body ∧ tools.sha256 body = digest ∧ tools.loads body = some (.obj doc)

theorem learns_manifest (repoPath digest : Name) (what : String) :
    Learns (manifest tools network repoPath digest what) (Vouched tools network digest) := by
  apply (learns_get network _).bind
  intro body given
  split
  · exact Learns.raise _
  · rename_i hashed
    split
    · exact Learns.raise _
    · rename_i doc loaded
      exact Learns.pure ⟨body, given, not_not.mp hashed, loaded⟩
    · exact Learns.raise _

/-- The layers the digest vouches for, directly or through an index. -/
def Lists (digest platform : Name) (layers : List LayerRef) : Prop :=
  ∃ doc, Vouched tools network digest doc ∧
    (PyDict.get doc "manifests" = none ∧ layersOf tools digest doc = .ok layers ∨
      ∃ entries entry inner, PyDict.get doc "manifests" = some entries ∧
        platformEntry tools entries platform = .ok entry ∧
        Vouched tools network (fieldText tools entry "digest").toList inner ∧
        layersOf tools digest inner = .ok layers)

theorem learns_imageLayers (repoPath digest platform : Name) :
    Learns (imageLayers tools network repoPath digest platform)
      (Lists tools network digest platform) := by
  apply (learns_manifest tools network repoPath digest "image").bind
  intro doc vouched
  split
  · rename_i plain
    constructor
    · exact (Learns.lift _).disk
    · intro world layers isOk
      exact ⟨doc, vouched, Or.inl ⟨plain, isOk⟩⟩
  · rename_i entries index
    apply (Learns.lift _).bind
    intro entry chosen
    apply (learns_manifest tools network repoPath _ _).bind
    intro inner vouchedInner
    constructor
    · exact (Learns.lift _).disk
    · intro world layers isOk
      exact ⟨doc, vouched, Or.inr ⟨entries, entry, inner, index, chosen, vouchedInner, isOk⟩⟩

end Registry

/-- What a part leaves, once nothing is at the name of the staging directory. -/
structure Pulled (dest : Path) (fs : Fs) (fresh : Name) (outcome : Except Failure Unit × World)
    (ends : Fs → Except Failure Unit → Prop) : Prop where
  outside : Outside dest fs outcome.2.fs
  after : ∃ after, Based dest outcome.2.fs after ∧
    (∀ path, [fresh] <+: path → PyDict.get after path = none) ∧ ends after outcome.1

theorem mkdirParents_present [Process] {fs : Fs} {path : Path} (real : Real fs path)
    (directory : isDir fs path = true) (mode : Nat) :
    mkdirParents path.reverse mode fs = (.ok (), fs) := by
  obtain ⟨old, held⟩ := isDir_eq_true.mp directory
  have refused : mkdir fs path mode = .error .fileExists := by
    rw [mkdir_real real, create_real real, held]
  have found : isDirectory fs path = true := by
    rw [isDirectory, walk_directory real directory]
    exact directory
  have once : mkdirOnce path mode fs = (.ok (), fs) := by
    simp only [mkdirOnce, refused, found, if_true]
  cases reversed : path.reverse with
  | nil =>
      rw [List.reverse_eq_nil_iff.mp reversed] at once
      exact once
  | cons name above =>
      rw [mkdirParents, ← reversed, List.reverse_reverse]
      simp only [once]

theorem Home.opened [Process] {dest : Path} {fs tree : Fs} {fresh : Name}
    (home : Home dest fs tree fresh) :
    ∃ after next, mkdir fs (dest ++ [fresh]) 0o700 = .ok after ∧ Outside dest fs after ∧
      Opened dest after next tree fresh := by
  have proper : ∀ name ∈ [] ++ [fresh], Proper name := by
    intro name found
    rw [List.mem_singleton.mp found]
    exact home.named
  obtain ⟨after, created, outside, based⟩ := home.based.create_run
    (made (PyDict.get tree []) 0o700) home.root rfl proper home.free
  have making := @Based.mkdir_create dest fs tree home.based _ [] fresh 0o700 rfl proper
  rw [created] at making
  have notDir : isDir tree [fresh] = false := by
    rw [isDir, home.free]
  have kept (path : Path) (apart : [fresh] ≠ path) :
      PyDict.get (PyDict.set tree ([] ++ [fresh]) (made (PyDict.get tree []) 0o700)) path = PyDict.get tree path :=
    PyDict.get_set_ne tree _ apart
  refine ⟨after, _, making, outside, based, ?_, home.named, home.notImage, ?_, ?_, ?_⟩
  · rw [isDir_congr (kept [] (by simp))]
    exact home.root
  · rw [List.nil_append, PyDict.get_set_same]
  · intro name more
    rw [kept _ (by simp)]
    exact home.based.wellFormed.none_below notDir ⟨name :: more, rfl⟩ (by simp)
  · intro path outside
    apply kept
    rintro rfl
    exact outside (List.prefix_refl _)

section Fetch

variable (tools : Tools) (network : Network)

/-- The part of `fetch` that changes the disk. -/
theorem Home.pulled [Process] {dest : Path} {world : World} {tree : Fs} {fresh : Name}
    (home : Home dest world.fs tree fresh) {starts : List Path}
    (requests : Requests fresh starts) (imageFree : ∀ start ∈ starts, ¬ [imageName] <+: start)
    (repoPath name : Name) (layers : List LayerRef) :
    Pulled dest world.fs fresh (pull tools network repoPath name dest fresh starts layers world)
      (Ends tools network fresh starts layers (utf8 (name ++ ['\n'])) tree) := by
  have directory : isDir world.fs dest = true := by
    rw [home.based.isDir_base]
    exact home.root
  have standing := mkdirParents_present home.based.real directory 0o700
  obtain ⟨after, next, made, outside, opened⟩ := home.opened
  have finishes := @Opened.finishes tools network _ dest { world with fs := after } next tree fresh
    opened starts requests imageFree repoPath name layers
  have stays : Online.onDisk (mkdirParents dest.reverse 0o700) world = (.ok (), world) := by
    simp only [Online.onDisk, standing]
  rw [pull, Online.bind_apply, stays]
  dsimp only
  rw [Online.bind_apply, onDisk_alter made]
  dsimp only
  cases came : staged tools network repoPath name dest (dest ++ [fresh]) starts layers
      { world with fs := after } with
  | mk outcome last =>
      rw [came] at finishes
      have removed := rmtree_real finishes.real finishes.directory
      simp only [withStaging, came, removed]
      refine ⟨?_, finishes.after⟩
      intro path apart
      rw [get_prune, if_neg fun under => apart ((List.prefix_append ..).trans under),
        finishes.outside path apart, outside path apart]

def platformFor (machine platform : Name) : Except Failure Name :=
  if platform = [] then hostPlatform machine else .ok platform

/-- The result is that a line could not be written. -/
def Untold (result : Except Failure Unit) : Prop :=
  ∃ asks failure, network (asks ++ [.line]) = .failed failure ∧ result = .error failure

/-- A part has come to its end, and a last line has been written or not. -/
def Told (ends : Fs → Except Failure Unit → Prop) (after : Fs) (result : Except Failure Unit) :
    Prop :=
  ends after result ∨ ends after (.ok ()) ∧ Untold network result

theorem Pulled.told {part : Online Unit} {dest : Path} {fs : Fs} {world : World} {fresh : Name}
    {ends : Fs → Except Failure Unit → Prop}
    (pulled : Pulled dest fs fresh (part world) ends) :
    Pulled dest fs fresh ((part >>= fun _ => say network) world) (Told network ends) := by
  obtain ⟨outside, after, based, gone, ended⟩ := pulled
  rw [Online.bind_apply]
  cases came : part world with
  | mk outcome last =>
      rw [came] at outside based ended
      cases outcome with
      | error failure => exact ⟨outside, after, based, gone, Or.inl ended⟩
      | ok value =>
          dsimp only
          rcases say_cases network last with said | ⟨failure, refused, said⟩
          · rw [said]
            exact ⟨outside, after, based, gone, Or.inl ended⟩
          · rw [said]
            exact ⟨outside, after, based, gone, Or.inr ⟨ended, _, failure, refused, rfl⟩⟩

/-- How `fetch` ends: nothing has changed, or the layers that the digest of the
reference vouches for have been pulled. -/
def Concludes [Process] (machine fresh : Name) (ref : String) (paths : List Name) (platform : Name)
    (tree after : Fs) (result : Except Failure Unit) : Prop :=
  (∃ failure, result = .error failure ∧
      ∀ path, PyDict.get after path = PyDict.get tree path) ∨
    ∃ image starts named layers, refOf ref = .ok image ∧
      prefixes tools.py paths = .ok starts ∧ platformFor machine platform = .ok named ∧
      Lists tools network image.digest named layers ∧
      Told network (Ends tools network fresh starts layers (utf8 (image.name ++ ['\n'])) tree)
        after result

/-- A part that leaves the disk alone, and what follows it. -/
theorem Learns.before {α : Type} {part : Online α} {next : α → Online Unit} {first : α → Prop}
    {dest : Path} {asks : List Ask} {fs : Fs} {fresh : Name}
    {ends : Fs → Except Failure Unit → Prop} (learns : Learns part first)
    (stopped : ∀ failure asks, Pulled dest fs fresh (.error failure, ⟨asks, fs⟩) ends)
    (onward : ∀ value asks, first value → Pulled dest fs fresh (next value ⟨asks, fs⟩) ends) :
    Pulled dest fs fresh ((part >>= next) ⟨asks, fs⟩) ends := by
  have kept := learns.disk ⟨asks, fs⟩
  have learnt := learns.ends ⟨asks, fs⟩
  rw [Online.bind_apply]
  cases came : part ⟨asks, fs⟩ with
  | mk outcome after =>
      rw [came] at kept learnt
      obtain ⟨asks, left⟩ := after
      have same : left = fs := kept
      subst same
      cases outcome with
      | error failure => exact stopped failure asks
      | ok value => exact onward value asks (learnt value rfl)

/-- `fetch`, into a directory with nothing at the name of the staging directory. -/
theorem fetch_concludes [Process] {dest : Path} {world : World} {tree : Fs} {fresh : Name}
    (home : Home dest world.fs tree fresh) (machine : Name) (ref : String) (paths : List Name)
    (platform : Name)
    (beside : ∀ starts, prefixes tools.py paths = .ok starts →
      ∀ start ∈ starts, ¬ [fresh] <+: start ∧ ¬ [imageName] <+: start) :
    Pulled dest world.fs fresh
      (fetch tools network machine fresh ref dest paths platform world)
      (Concludes tools network machine fresh ref paths platform tree) := by
  obtain ⟨asked, fs⟩ := world
  have stopped (failure : Failure) (asks : List Ask) :
      Pulled dest fs fresh (.error failure, ⟨asks, fs⟩)
        (Concludes tools network machine fresh ref paths platform tree) := by
    have notDir : isDir tree [fresh] = false := by
      rw [isDir, home.free]
    refine ⟨Outside.refl dest fs, tree, home.based, ?_,
      Or.inl ⟨failure, rfl, fun _ => rfl⟩⟩
    intro path under
    by_cases whole : [fresh] = path
    · rw [← whole]
      exact home.free
    · exact home.based.wellFormed.none_below notDir under whole
  unfold fetch
  apply (Learns.lift _).before stopped
  intro image _ parsed
  apply (Learns.lift _).before stopped
  intro starts _ read
  apply (Learns.lift _).before stopped
  intro named _ chosen
  apply (Learns.say network).before stopped
  intro _ _ _
  apply (learns_imageLayers tools network _ _ _).before stopped
  intro layers asks lists
  have requests := requests_of_prefixes read home.named fun start listed =>
    (beside starts read start listed).1
  have pulled := @Home.pulled tools network _ dest ⟨asks, fs⟩ tree fresh home starts requests
    (fun start listed => (beside starts read start listed).2) image.path image.name layers
  obtain ⟨outside, after, based, gone, ends⟩ := pulled.told network
  exact ⟨outside, after, based, gone,
    Or.inr ⟨image, starts, named, layers, parsed, read, chosen, lists, ends⟩⟩

end Fetch

end Catena.Fetch

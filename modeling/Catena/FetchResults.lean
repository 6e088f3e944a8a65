import Catena.FetchRuns

/-!
# What a pull guarantees

Where no link and no directory lies in the way, a pull that fails leaves everything as
it was.  Two pulls of one reference that succeed leave the same trees, whatever their
registries answered, unless two bodies with one digest have been given; and in a
directory of its own the image they leave has no way out.
-/

namespace Catena.Fetch

open PyText Posix ByteLines

section Digests

variable (tools : Tools) (first second : Network)

/-- Two bodies with one digest. -/
def Collides : Prop :=
  ∃ one other, Gives first one ∧ Gives second other ∧ tools.sha256 one = tools.sha256 other ∧
    one ≠ other

variable (apart : ¬ Collides tools first second)

include apart

theorem same_body {digest : Name} {one other : List UInt8} (given : Gives first one)
    (hashed : tools.sha256 one = digest) (givenOther : Gives second other)
    (hashedOther : tools.sha256 other = digest) : one = other := by
  by_contra differ
  exact apart ⟨one, other, given, givenOther, hashed.trans hashedOther.symm, differ⟩

theorem same_doc {digest : Name} {doc other : PyDict String Json}
    (vouched : Vouched tools first digest doc) (vouchedOther : Vouched tools second digest other) :
    doc = other := by
  obtain ⟨body, given, hashed, loaded⟩ := vouched
  obtain ⟨bodyOther, givenOther, hashedOther, loadedOther⟩ := vouchedOther
  have same := same_body tools first second apart given hashed givenOther hashedOther
  rw [same, loadedOther] at loaded
  cases loaded
  rfl

theorem same_layers {digest platform : Name} {layers others : List LayerRef}
    (lists : Lists tools first digest platform layers)
    (listsOther : Lists tools second digest platform others) : layers = others := by
  obtain ⟨doc, vouched, ways⟩ := lists
  obtain ⟨docOther, vouchedOther, waysOther⟩ := listsOther
  have sameDoc := same_doc tools first second apart vouched vouchedOther
  subst sameDoc
  rcases ways with ⟨plain, read⟩ | ⟨entries, entry, inner, index, chosen, vouchedInner, read⟩
  · rcases waysOther with ⟨_, readOther⟩ | ⟨_, _, _, index, _⟩
    · rw [read] at readOther
      cases readOther
      rfl
    · rw [plain] at index
      cases index
  · rcases waysOther with ⟨plain, _⟩ |
      ⟨entriesOther, entryOther, innerOther, indexOther, chosenOther, vouchedOther, readOther⟩
    · rw [plain] at index
      cases index
    · rw [index] at indexOther
      cases indexOther
      rw [chosen] at chosenOther
      cases chosenOther
      have sameInner := same_doc tools first second apart vouchedInner vouchedOther
      rw [← sameInner, read] at readOther
      cases readOther
      rfl

theorem same_bodies {layers : List LayerRef} {bodies others : List (List UInt8)}
    (holds : Bodies tools first layers bodies) (holdsOther : Bodies tools second layers others) :
    bodies = others := by
  induction holds generalizing others with
  | nil =>
      cases holdsOther
      rfl
  | @cons layer body rest bodies here _ ih =>
      cases holdsOther with
      | @cons _ other _ others hereOther laterOther =>
          rw [ih laterOther,
            same_body tools first second apart here.1 here.2 hereOther.1 hereOther.2]

theorem same_image [Process] {home homeOther : Option Node}
    (alike : inherited home = inherited homeOther)
    {starts : List Path} {layers : List LayerRef} {image other : Fs}
    {modes modesOther : PyDict Path Nat}
    (pulled : ImageTree tools first home starts layers image modes)
    (pulledOther : ImageTree tools second homeOther starts layers other modesOther) :
    image = other ∧ modes = modesOther := by
  obtain ⟨bodies, hold, made⟩ := pulled.made
  obtain ⟨bodiesOther, holdOther, madeOther⟩ := pulledOther.made
  rw [same_bodies tools first second apart hold holdOther, treeRoot_congr alike, madeOther] at made
  cases made
  exact ⟨rfl, rfl⟩

end Digests

/-- What stands in `dest` then. -/
structure Succeeds [Process] (tools : Tools) (network : Network) (machine fresh : Name) (ref : String)
    (paths : List Name) (platform : Name) (dest : Path) (tree fs : Fs) (found : ImageRef.Ref)
    (starts : List Path) (named : Name) (layers : List LayerRef) (image : Fs)
    (modes : PyDict Path Nat) (after : Fs) : Prop where
  parsed : refOf ref = .ok found
  read : prefixes tools.py paths = .ok starts
  chosen : platformFor machine platform = .ok named
  lists : Lists tools network found.digest named layers
  based : Based dest fs after
  pulled : ImageTree tools network (PyDict.get tree []) starts layers image modes
  replaced : Replaced fresh starts starts [] image modes tree after
  record : ∃ mode, PyDict.get after [imageName] =
    some (.file (utf8 (found.name ++ ['\n'])) mode)
  links : Otherwise fresh tree → SameLinks image after

theorem Home.get_dest {dest : Path} {fs tree : Fs} {fresh : Name}
    (home : Home dest fs tree fresh) : PyDict.get fs dest = PyDict.get tree [] := by
  rw [← home.based.same [], List.append_nil]

section Succeeds

variable (tools : Tools) (network : Network) (machine : Name) (ref : String) (paths : List Name)
  (platform : Name)

theorem succeeds_of_ends [Process] {dest : Path} {fs tree after : Fs} {fresh : Name}
    {found : ImageRef.Ref} {starts : List Path} {named : Name} {layers : List LayerRef}
    (parsed : refOf ref = .ok found) (read : prefixes tools.py paths = .ok starts)
    (chosen : platformFor machine platform = .ok named)
    (lists : Lists tools network found.digest named layers) (based : Based dest fs after)
    (ends : Ends tools network fresh starts layers (utf8 (found.name ++ ['\n'])) tree after
      (.ok ())) :
    ∃ found starts named layers image modes after,
      Succeeds tools network machine fresh ref paths platform dest tree fs found starts named
        layers image modes after := by
  cases ends with
  | recorded image modes mode pulled replaced record links =>
      exact ⟨found, starts, named, layers, image, modes, after, parsed, read, chosen, lists,
        based, pulled, replaced, ⟨mode, record⟩, links⟩

theorem fetch_succeeds [Process] {dest : Path} {world : World} {tree : Fs} {fresh : Name}
    (home : Home dest world.fs tree fresh)
    (beside : ∀ starts, prefixes tools.py paths = .ok starts →
      ∀ start ∈ starts, ¬ [fresh] <+: start ∧ ¬ [imageName] <+: start)
    (isOk : (fetch tools network machine fresh ref dest paths platform world).1 = .ok ()) :
    ∃ found starts named layers image modes after,
      Succeeds tools network machine fresh ref paths platform dest tree
        (fetch tools network machine fresh ref dest paths platform world).2.fs
        found starts named layers image modes after := by
  obtain ⟨_, after, based, _, concludes⟩ :=
    fetch_concludes tools network home machine ref paths platform beside
  rw [isOk] at concludes
  rcases concludes with ⟨failure, failed, _⟩ |
    ⟨found, starts, named, layers, parsed, read, chosen, lists, ends | ⟨_, untold⟩⟩
  · cases failed
  · exact succeeds_of_ends tools network machine ref paths platform parsed read chosen lists based
      ends
  · obtain ⟨_, _, _, failed⟩ := untold
    cases failed

namespace Succeeds

variable {tools network machine ref paths platform} {dest : Path} {tree fs : Fs} {fresh : Name}
  {found : ImageRef.Ref} {starts : List Path} {named : Name} {layers : List LayerRef} {image : Fs}
  {modes : PyDict Path Nat} {after : Fs}

/-- What stands at a requested path is what the image has there. -/
theorem get [Process] (succeeds : Succeeds tools network machine fresh ref paths platform dest tree fs found
    starts named layers image modes after) {start : Path} (listed : start ∈ starts)
    (more : Path) : PyDict.get fs (dest ++ (start ++ more)) =
      chmodded modes (start ++ more) (PyDict.get image (start ++ more)) := by
  rw [succeeds.based.same]
  exact succeeds.replaced.inPlace start listed more

theorem kept [Process] (succeeds : Succeeds tools network machine fresh ref paths platform dest tree fs found
    starts named layers image modes after) :
    Kept (PyDict.get tree []) starts image ∧ KeptModes starts modes := by
  obtain ⟨bodies, _, made⟩ := succeeds.pulled.made
  exact @kept_layersTree _ _ _ _ _ ([([], treeRoot _)], []) _
    (kept_root starts rfl (plain_treeRoot _)) (keptModes_nil starts) made

end Succeeds

def sampleDigest (letter : Char) : Name :=
  "sha256:".toList ++ List.replicate 64 letter

/-- An image of one layer: a directory, a file in it, and a link to the file. -/
def sampleTools : Tools where
  py := Builtins.unused
  sha256 data := sampleDigest (if data = [1] then 'a' else 'b')
  loads _ := some (.obj [("layers", .arr [.obj [
    ("digest", .str (String.ofList (sampleDigest 'b'))),
    ("mediaType", .str "application/vnd.oci.image.layer.v1.tar")]])])
  members _ _ := ⟨[⟨"app/".toList, .directory, 0o4755, []⟩,
    ⟨"app/bin".toList, .regular [104, 105], 0o755, []⟩,
    ⟨"app/run".toList, .symlink, 0o777, "bin".toList⟩], false⟩

/-- The manifest, and then the layer. -/
def sampleNetwork : Network := fun asks =>
  .body (if asks.length = 2 then [1] else [2]) none

/-- The same, after a failure that is worth another attempt. -/
def lossyNetwork : Network := fun asks =>
  if asks.length = 2 then .failed (.web true)
  else .body (if asks.length = 4 then [1] else [2]) none

def sampleRef : String :=
  "ghcr.io/catena/admin@" ++ String.ofList (sampleDigest 'a')

def sampleFresh : Name :=
  ".catena-1".toList

/-- An empty `/opt`. -/
def sampleWorld : World :=
  ⟨[], [([], .dir 0o755), (["opt".toList], .dir 0o755)]⟩

/-- The pull of the sample into `/opt`. -/
def sampleRun (network : Network) : Except Failure Unit × World :=
  @fetch usual sampleTools network "x86_64".toList sampleFresh sampleRef ["opt".toList]
    ["app".toList] [] sampleWorld

theorem sampleHome : Home ["opt".toList] sampleWorld.fs [([], .dir 0o755)] sampleFresh := by
  have proper : ∀ name ∈ ["opt".toList], Proper name := by decide
  have real : Real sampleWorld.fs ["opt".toList] := by
    refine ⟨proper, ?_⟩
    intro parent under other
    rcases List.prefix_cons_iff.mp under with rfl | ⟨rest, rfl, inside⟩
    · decide
    · rw [List.prefix_nil.mp inside] at other
      exact absurd rfl other
  have nothing (name : Name) (more : Path) :
      PyDict.get sampleWorld.fs (["opt".toList] ++ name :: more) = none := by
    simp [sampleWorld, PyDict.get_cons]
  exact ⟨based_empty real (by decide) (by decide) nothing, by decide, by decide, by decide,
    by decide⟩

theorem sampleBeside (starts : List Path)
    (read : prefixes sampleTools.py ["app".toList] = .ok starts) :
    ∀ start ∈ starts, ¬ [sampleFresh] <+: start ∧ ¬ [sampleFresh] <+: start ∧
      ¬ [imageName] <+: start := by
  have listed : prefixes sampleTools.py ["app".toList] = .ok [["app".toList]] := by decide +kernel
  cases listed.symm.trans read
  decide

theorem sampleFree (starts : List Path)
    (read : prefixes sampleTools.py ["app".toList] = .ok starts) :
    ∀ start ∈ starts, ¬ Blocked [([], .dir 0o755)] start.dropLast := by
  have listed : prefixes sampleTools.py ["app".toList] = .ok [["app".toList]] := by decide +kernel
  cases listed.symm.trans read
  intro start found
  rw [List.mem_singleton.mp found]
  rintro ⟨more, under, isLink⟩
  rw [List.prefix_nil.mp under] at isLink
  exact absurd isLink (by decide)

theorem sampleRun_ok : (sampleRun sampleNetwork).1 = .ok () := by
  decide +kernel

theorem lossyRun_ok : (sampleRun lossyNetwork).1 = .ok () := by
  decide +kernel

/-- What stands in `dest` after a run is what stood there. -/
theorem same_everywhere {dest : Path} {fs fsAfter tree after : Fs} {fresh : Name}
    (home : Home dest fs tree fresh) (outside : Outside dest fs fsAfter)
    (based : Based dest fsAfter after)
    (gone : ∀ path, [fresh] <+: path → PyDict.get after path = none)
    (same : ∀ path, ¬ [fresh] <+: path → PyDict.get after path = PyDict.get tree path)
    (path : Path) : PyDict.get fsAfter path = PyDict.get fs path := by
  by_cases inside : dest <+: path
  · obtain ⟨rel, rfl⟩ := inside
    rw [based.same, home.based.same]
    by_cases inStaging : [fresh] <+: rel
    · rw [gone rel inStaging]
      by_cases whole : [fresh] = rel
      · rw [← whole, home.free]
      · have notDir : isDir tree [fresh] = false := by
          rw [isDir, home.free]
        rw [home.based.wellFormed.none_below notDir inStaging whole]
    · exact same rel inStaging
  · exact outside path inside

/-- Where no link is above a requested path and `IMAGE` is no directory, a pull that
fails before its last line leaves everything as it was; one that comes to it has
replaced every requested path. -/
theorem fetch_all_or_nothing [Process] {dest : Path} {world : World} {tree : Fs} {fresh : Name}
    (home : Home dest world.fs tree fresh)
    (beside : ∀ starts, prefixes tools.py paths = .ok starts →
      ∀ start ∈ starts, ¬ [fresh] <+: start ∧ ¬ [imageName] <+: start)
    (free : ∀ starts, prefixes tools.py paths = .ok starts →
      ∀ start ∈ starts, ¬ Blocked tree start.dropLast)
    (record : isDir tree [imageName] = false) :
    (∃ failure, (fetch tools network machine fresh ref dest paths platform world).1 =
        .error failure ∧
      ∀ path, PyDict.get (fetch tools network machine fresh ref dest paths platform world).2.fs
        path = PyDict.get world.fs path) ∨
    ((fetch tools network machine fresh ref dest paths platform world).1 = .ok () ∨
        Untold network (fetch tools network machine fresh ref dest paths platform world).1) ∧
      ∃ found starts named layers image modes after,
        Succeeds tools network machine fresh ref paths platform dest tree
          (fetch tools network machine fresh ref dest paths platform world).2.fs
          found starts named layers image modes after := by
  obtain ⟨outside, after, based, gone, concludes⟩ :=
    fetch_concludes tools network home machine ref paths platform beside
  have unchanged := same_everywhere home outside based gone
  cases came : (fetch tools network machine fresh ref dest paths platform world).1 with
  | ok value => exact Or.inr ⟨Or.inl rfl,
      fetch_succeeds tools network machine ref paths platform home beside came⟩
  | error failure =>
      rw [came] at concludes
      rcases concludes with ⟨_, _, same⟩ |
        ⟨_, starts, _, _, parsed, read, chosen, lists, ends | ⟨ends, untold⟩⟩
      · exact Or.inl ⟨failure, rfl, unchanged fun path _ => same path⟩
      · refine Or.inl ⟨failure, rfl, unchanged ?_⟩
        rcases ends.failed with same | ⟨_, _, moved, kept, _, replaced, _, inTheWay⟩
        · exact same
        · rcases inTheWay with ⟨first, rest, whole, blocked⟩ | ⟨_, directory⟩
          · have listed : first ∈ starts := by
              rw [replaced.split, whole]
              exact List.mem_append_right _ (List.mem_cons_self ..)
            exact absurd blocked (free starts read first listed)
          · rw [record] at directory
            cases directory
      · exact Or.inr ⟨Or.inr untold, succeeds_of_ends tools network machine ref paths platform
          parsed read chosen lists based ends⟩

theorem sample_all_or_nothing :
    (∃ failure, (sampleRun sampleNetwork).1 = .error failure ∧
      ∀ path, PyDict.get (sampleRun sampleNetwork).2.fs path = PyDict.get sampleWorld.fs path) ∨
    ((sampleRun sampleNetwork).1 = .ok () ∨ Untold sampleNetwork (sampleRun sampleNetwork).1) ∧
      ∃ found starts named layers image modes after,
        @Succeeds usual sampleTools sampleNetwork "x86_64".toList sampleFresh sampleRef ["app".toList] []
          ["opt".toList] [([], .dir 0o755)] (sampleRun sampleNetwork).2.fs
          found starts named layers image modes after := by
  unfold sampleRun
  exact @fetch_all_or_nothing sampleTools sampleNetwork "x86_64".toList sampleRef ["app".toList] []
    usual ["opt".toList] sampleWorld _ sampleFresh sampleHome (fun starts read start listed => (sampleBeside starts read start listed).2)
    sampleFree (by decide)

/-- An image of two files, each in a directory of its own. -/
def twoTools : Tools :=
  { sampleTools with
    members := fun _ _ => ⟨[⟨"a/app/bin".toList, .regular [104, 105], 0o755, []⟩,
      ⟨"x/y/bin".toList, .regular [104, 105], 0o755, []⟩], false⟩ }

/-- `/opt`, with a file above one of them and a link above the other. -/
def linkedWorld : World :=
  ⟨[], PyDict.set (PyDict.set sampleWorld.fs ["opt".toList, "a".toList] (.file [] 0o644))
    ["opt".toList, "x".toList] (.link "a".toList)⟩

def linkedTree : Fs :=
  PyDict.set (PyDict.set [([], .dir 0o755)] ["a".toList] (.file [] 0o644)) ["x".toList]
    (.link "a".toList)

theorem linkedHome : Home ["opt".toList] linkedWorld.fs linkedTree sampleFresh := by
  have first := (@Based.set_entry ["opt".toList] sampleWorld.fs _ sampleHome.based [] "a".toList
    (.file [] 0o644) (by decide) (by decide) (Or.inr (by decide))).2
  have second := (@Based.set_entry ["opt".toList] _ _ first [] "x".toList (.link "a".toList)
    (by decide) (by decide) (Or.inr (by decide))).2
  exact ⟨second, by decide, by decide, by decide, by decide⟩

theorem linkedBeside (starts : List Path)
    (read : prefixes twoTools.py ["a/app".toList, "x/y".toList] = .ok starts) :
    ∀ start ∈ starts, ¬ [sampleFresh] <+: start ∧ ¬ [imageName] <+: start := by
  have listed : prefixes twoTools.py ["a/app".toList, "x/y".toList] =
      .ok [["a".toList, "app".toList], ["x".toList, "y".toList]] := by decide +kernel
  cases listed.symm.trans read
  decide

/-- The pull of the two directories into it. -/
def linkedRun : Except Failure Unit × World :=
  @fetch usual twoTools sampleNetwork "x86_64".toList sampleFresh sampleRef ["opt".toList]
    ["a/app".toList, "x/y".toList] [] linkedWorld

theorem linkedRun_failed : linkedRun.1.isOk = false ∧
    isDir linkedRun.2.fs ["opt".toList, "a".toList, "app".toList] = true := by
  decide +kernel

theorem failure_of_isOk {α : Type} {result : Except Failure α} (failed : result.isOk = false) :
    ∃ failure, result = .error failure := by
  cases result with
  | ok value => cases failed
  | error failure => exact ⟨failure, rfl⟩

end Succeeds

end Catena.Fetch

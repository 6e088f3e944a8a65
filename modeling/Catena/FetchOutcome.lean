import Catena.FetchImage

/-!
# What `fetch` leaves

The parts of `fetch` up to `_install` change nothing outside the staging directory,
whatever the registry answers, and the tree they leave is made of bytes that hash to
the digests of the manifest.
-/

namespace Catena.Fetch

open PyText Posix ByteLines

/-- A body that the registry gives in some run. -/
def Gives (network : Network) (data : List UInt8) : Prop :=
  ∃ asks path ends, network (asks ++ [.path path]) = .body data ends

/-- Only what stands at the path has changed. -/
def OnlyAt (blob : Path) (before after : Fs) : Prop :=
  ∀ path, path ≠ blob → PyDict.get after path = PyDict.get before path

/-- Nothing stands at the path, or a file. -/
def FileOrNone (fs : Fs) (blob : Path) : Prop :=
  PyDict.get fs blob = none ∨ ∃ data mode, PyDict.get fs blob = some (.file data mode)

theorem OnlyAt.trans {blob : Path} {first second third : Fs} (before : OnlyAt blob first second)
    (after : OnlyAt blob second third) : OnlyAt blob first third :=
  fun path other => (after path other).trans (before path other)

theorem OnlyAt.real {blob : Path} {before after : Fs} (only : OnlyAt blob before after)
    (real : Real before blob) : Real after blob where
  proper := real.proper
  parents parent under other := by
    rw [isDir_congr (only parent other)]
    exact real.parents parent under other

theorem writeFile_run [Process] {fs : Fs} {blob : Path} (real : Real fs blob) (nonempty : blob ≠ [])
    (plain : FileOrNone fs blob) (data : List UInt8) :
    ∃ after mode, writeFile fs blob data = .ok after ∧ OnlyAt blob fs after ∧
      PyDict.get after blob = some (.file data mode) := by
  have setting (mode : Nat) : OnlyAt blob fs (PyDict.set fs blob (.file data mode)) := by
    intro path other
    exact PyDict.get_set_ne fs _ other.symm
  rcases plain with absent | ⟨old, mode, held⟩
  · exact ⟨_, _, writeFile_none real nonempty absent data, setting _, PyDict.get_set_same ..⟩
  · exact ⟨_, _, writeFile_file real nonempty held data, setting _, PyDict.get_set_same ..⟩

section Download

variable (tools : Tools) (network : Network)

/-- What a part that writes the blob leaves, and what it returns then. -/
structure Writes {α : Type} (blob : Path) (world : World) (outcome : Except Failure α × World)
    (ends : α → World → Prop) : Prop where
  only : OnlyAt blob world.fs outcome.2.fs
  plain : FileOrNone outcome.2.fs blob
  ends : ∀ value, outcome.1 = .ok value → ends value outcome.2

/-- The blob holds a body the registry gave, with this digest. -/
def Holding (blob : Path) (digest : Name) (world : World) : Prop :=
  ∃ data mode, PyDict.get world.fs blob = some (.file data mode) ∧ Gives network data ∧
    tools.sha256 data = digest

theorem ask_failed {path : List Char} {world : World} {failure : Failure}
    (came : network (world.asks ++ [.path path]) = .failed failure) :
    ask network path world =
      (.error failure, { world with asks := world.asks ++ [.path path] }) := by
  simp only [ask, came]

theorem ask_body {path : List Char} {world : World} {data : List UInt8} {ends : Option Failure}
    (came : network (world.asks ++ [.path path]) = .body data ends) :
    ask network path world =
      (.ok (data, ends), { world with asks := world.asks ++ [.path path] }) := by
  simp only [ask, came]

/-- A line is taken or not; the disk stays as it is. -/
theorem say_cases (world : World) :
    say network world = (.ok (), { world with asks := world.asks ++ [.line] }) ∨
      ∃ failure, network (world.asks ++ [.line]) = .failed failure ∧
        say network world = (.error failure, { world with asks := world.asks ++ [.line] }) := by
  cases came : network (world.asks ++ [.line]) with
  | failed failure => exact Or.inr ⟨failure, rfl, by simp only [say, came]⟩
  | body data ends => exact Or.inl (by simp only [say, came])

theorem onDisk_alter {operation : Fs → Except Errno Fs} {world : World} {after : Fs}
    (altered : operation world.fs = .ok after) :
    Online.onDisk (alter operation) world = (.ok (), { world with fs := after }) := by
  simp only [Online.onDisk, alter, altered]

theorem downloadOnce_writes [Process] {blob : Path} {world : World} (real : Real world.fs blob)
    (nonempty : blob ≠ []) (plain : FileOrNone world.fs blob) (path : List Char) (size : Option Json) :
    Writes blob world (downloadOnce tools network path size blob world)
      (fun actual after => Holding tools network blob actual after) := by
  unfold downloadOnce
  rw [Online.bind_apply]
  cases came : network (world.asks ++ [.path path]) with
  | failed failure =>
      rw [ask_failed network came]
      exact ⟨fun _ _ => rfl, plain, fun _ isOk => by cases isOk⟩
  | body data ends =>
      obtain ⟨after, mode, written, only, held⟩ := writeFile_run real nonempty plain data
      rw [ask_body network came]
      dsimp only
      rw [Online.bind_apply, onDisk_alter written]
      dsimp only
      have plainAfter : FileOrNone after blob := Or.inr ⟨data, mode, held⟩
      cases ends with
      | some failure => exact ⟨only, plainAfter, fun _ isOk => by cases isOk⟩
      | none =>
          dsimp only
          by_cases short : cutShort size data = true
          · rw [if_pos short]
            exact ⟨only, plainAfter, fun _ isOk => by cases isOk⟩
          · rw [if_neg short]
            refine ⟨only, plainAfter, ?_⟩
            intro actual isOk
            cases isOk
            exact ⟨data, mode, held, ⟨_, _, _, came⟩, rfl⟩

theorem retry_ok {α : Type} {once : Online α} {left : Nat} {world after : World} {value : α}
    (came : once world = (.ok value, after)) :
    retry network once (left + 1) world = (.ok value, after) := by
  simp only [retry, came]

theorem retry_error {α : Type} {once : Online α} {left : Nat} {world after : World}
    {failure : Failure} (came : once world = (.error failure, after)) :
    retry network once (left + 1) world =
      if transient failure then (say network >>= fun _ => retry network once left) after
      else (.error failure, after) := by
  simp only [retry, came]

/-- An attempt after another. -/
theorem retry_writes {α : Type} {once : Online α} {blob : Path} {ends : α → World → Prop}
    (step : ∀ world : World, Real world.fs blob → FileOrNone world.fs blob →
      Writes blob world (once world) ends) (left : Nat) {world : World}
    (real : Real world.fs blob) (plain : FileOrNone world.fs blob) :
    Writes blob world (retry network once left world) ends := by
  induction left generalizing world with
  | zero => exact step world real plain
  | succ left ih =>
      have first := step world real plain
      cases came : once world with
      | mk outcome after =>
          rw [came] at first
          cases outcome with
          | ok value =>
              rw [retry_ok network came]
              exact first
          | error failure =>
              rw [retry_error network came]
              split
              · rw [Online.bind_apply]
                rcases say_cases network after with said | ⟨refusal, _, said⟩
                · rw [said]
                  have onward := @ih ⟨after.asks ++ [.line], after.fs⟩ (first.only.real real)
                    first.plain
                  exact ⟨first.only.trans onward.only, onward.plain, onward.ends⟩
                · rw [said]
                  exact ⟨first.only, first.plain, fun _ isOk => by cases isOk⟩
              · exact first

theorem download_writes [Process] {blob : Path} {world : World} (real : Real world.fs blob)
    (nonempty : blob ≠ []) (plain : FileOrNone world.fs blob) (repoPath digest : Name)
    (size : Option Json) :
    Writes blob world (download tools network repoPath digest size blob world)
      (fun _ after => Holding tools network blob digest after) := by
  have reading := @retry_writes network _ (downloadOnce tools network
    ("/v2/".toList ++ repoPath ++ "/blobs/".toList ++ digest) size blob) blob
    (fun actual after => Holding tools network blob actual after)
    (fun world real plain => downloadOnce_writes tools network real nonempty plain _ size)
    (attempts - 1) world real plain
  unfold download
  rw [Online.bind_apply]
  cases came : retry network (downloadOnce tools network
      ("/v2/".toList ++ repoPath ++ "/blobs/".toList ++ digest) size blob) (attempts - 1) world with
  | mk outcome after =>
      rw [came] at reading
      cases outcome with
      | error failure => exact ⟨reading.only, reading.plain, fun _ isOk => by cases isOk⟩
      | ok actual =>
          dsimp only
          have holding := reading.ends actual rfl
          split
          · rename_i same
            rw [← same]
            exact ⟨reading.only, reading.plain, fun _ _ => holding⟩
          · exact ⟨reading.only, reading.plain, fun _ isOk => by cases isOk⟩

end Download

/-- The tree is in its staging directory. -/
structure Unpacking (staging : Path) (fs tree : Fs) : Prop where
  real : Real fs staging
  directory : isDir fs staging = true
  based : Based (staging ++ [treeName]) fs tree

theorem blob_not_built {staging rel : Path} : staging ++ [treeName] ++ rel ≠ staging ++ [blobName] := by
  rw [List.append_assoc]
  intro same
  have heads := List.append_cancel_left same
  exact absurd (List.cons.inj heads).1 (by decide)

namespace Unpacking

variable {staging : Path} {fs tree : Fs} (unpacking : Unpacking staging fs tree)

include unpacking

theorem blobReal : Real fs (staging ++ [blobName]) :=
  unpacking.real.child unpacking.directory (by decide)

/-- The tree stays where it is when the blob is written. -/
theorem onlyAt {after : Fs} (only : OnlyAt (staging ++ [blobName]) fs after) :
    Unpacking staging after tree := by
  have directory : isDir after staging = true := by
    rw [isDir_congr (only staging (by simp))]
    exact unpacking.directory
  have real : Real after staging := by
    refine ⟨unpacking.real.proper, ?_⟩
    intro parent under other
    rw [isDir_congr (only parent _)]
    · exact unpacking.real.parents parent under other
    · rintro rfl
      exact absurd under.length_le (by simp)
  refine ⟨real, directory, real.child directory (by decide), unpacking.based.nonempty, ?_,
    unpacking.based.wellFormed⟩
  intro rel
  rw [only _ blob_not_built, unpacking.based.same]

end Unpacking

/-- What unpacking leaves beside the tree, and what it returns. -/
structure Unpacks {α : Type} (staging : Path) (world : World) (outcome : Except Failure α × World)
    (ends : α → Fs → Prop) : Prop where
  outside : Outside staging world.fs outcome.2.fs
  above : PyDict.get outcome.2.fs staging = PyDict.get world.fs staging
  ends : ∀ value, outcome.1 = .ok value →
    Outside (staging ++ [treeName]) world.fs outcome.2.fs ∧
      ∃ tree, Unpacking staging outcome.2.fs tree ∧ ends value tree

section Layers

variable (tools : Tools) (network : Network)

/-- The bodies the layers are unpacked from. -/
def Bodies : List LayerRef → List (List UInt8) → Prop :=
  List.Forall₂ fun layer data => Gives network data ∧ tools.sha256 data = layer.digest

def archives (layers : List LayerRef) (bodies : List (List UInt8)) : List Layer :=
  List.zipWith (fun layer data => tools.members layer.mode data) layers bodies

theorem unpackLayer_unpacks [Process] {staging : Path} {world : World} {tree : Fs}
    (unpacking : Unpacking staging world.fs tree)
    (clean : PyDict.get world.fs (staging ++ [blobName]) = none) (repoPath : Name)
    (starts : List Path) (layer : LayerRef) (modes : PyDict Path Nat) :
    Unpacks staging world (unpackLayer tools network repoPath staging starts layer modes world)
      (fun value after => ∃ data, Gives network data ∧ tools.sha256 data = layer.digest ∧
        layerTree tools.py starts (tools.members layer.mode data) (tree, modes) =
          some (after, value)) := by
  have nonempty : staging ++ [blobName] ≠ [] := by simp
  have downloading := download_writes tools network unpacking.blobReal nonempty (Or.inl clean)
    repoPath layer.digest layer.size
  have blobInside : staging <+: staging ++ [blobName] := List.prefix_append ..
  unfold unpackLayer
  rw [Online.bind_apply]
  cases came : download tools network repoPath layer.digest layer.size (staging ++ [blobName])
      world with
  | mk outcome first =>
      rw [came] at downloading
      have outsideFirst : Outside staging world.fs first.fs := by
        intro path apart
        apply downloading.only
        rintro rfl
        exact apart blobInside
      have aboveFirst : PyDict.get first.fs staging = PyDict.get world.fs staging :=
        downloading.only staging (by simp)
      cases outcome with
      | error failure => exact ⟨outsideFirst, aboveFirst, fun _ isOk => by cases isOk⟩
      | ok value =>
          obtain ⟨data, mode, held, given, hashed⟩ := downloading.ends value rfl
          have unpackingFirst := unpacking.onlyAt downloading.only
          have readBlob : Online.onDisk (look fun fs => readFile fs (staging ++ [blobName])) first =
              (.ok data, first) := by
            have answered := readFile_file unpackingFirst.blobReal nonempty held
            simp only [Online.onDisk, look, answered]
          dsimp only
          rw [Online.bind_apply, readBlob]
          have applying := @Based.layer_stays _ tools.py _ _ _ unpackingFirst.based starts
            (tools.members layer.mode data) modes
          dsimp only
          rw [Online.bind_apply]
          cases applied : applyLayer tools.py (staging ++ [treeName]) starts
              (tools.members layer.mode data) modes first.fs with
          | mk outcome second =>
              rw [applied] at applying
              have applyOnline : Online.onDisk (applyLayer tools.py (staging ++ [treeName]) starts
                  (tools.members layer.mode data) modes) first =
                  (outcome, { first with fs := second }) := by
                simp only [Online.onDisk, applied]
              have outsideSecond := applying.outside
              have aboveSecond := applying.above
              rw [List.dropLast_concat] at outsideSecond aboveSecond
              rw [applyOnline]
              cases outcome with
              | error failure =>
                  exact ⟨outsideFirst.trans outsideSecond, aboveSecond.trans aboveFirst,
                    fun _ isOk => by cases isOk⟩
              | ok value =>
                  obtain ⟨besideTree, next, nextBased, layered⟩ := applying.ends value rfl
                  have notBuilt : ¬ staging ++ [treeName] <+: staging ++ [blobName] := by
                    rintro ⟨rel, same⟩
                    exact blob_not_built same
                  have directory : isDir second staging = true := by
                    rw [isDir_congr aboveSecond]
                    exact unpackingFirst.directory
                  have real : Real second staging := outsideSecond.real unpackingFirst.real
                  have heldSecond : PyDict.get second (staging ++ [blobName]) =
                      some (.file data mode) := (besideTree _ notBuilt).trans held
                  have removed := unlink_real (real.child directory
                    (show Proper blobName by decide))
                  rw [heldSecond] at removed
                  have only : OnlyAt (staging ++ [blobName]) second
                      (PyDict.erase second (staging ++ [blobName])) := by
                    intro path other
                    rw [PyDict.get_erase, if_neg other.symm]
                  have unpackingLast := Unpacking.onlyAt ⟨real, directory, nextBased⟩ only
                  dsimp only
                  rw [Online.bind_apply, onDisk_alter removed]
                  change Unpacks staging world (.ok value,
                    { first with fs := PyDict.erase second (staging ++ [blobName]) }) _
                  refine ⟨?_, ?_, ?_⟩
                  · intro path apart
                    rw [only path (fun same => apart (same ▸ blobInside)), outsideSecond path apart,
                      outsideFirst path apart]
                  · rw [only staging (by simp), aboveSecond, aboveFirst]
                  · intro last isOk
                    cases isOk
                    refine ⟨?_, next, unpackingLast, data, given, hashed, layered⟩
                    intro path apart
                    by_cases atBlob : path = staging ++ [blobName]
                    · rw [atBlob, PyDict.get_erase, if_pos rfl, clean]
                    · rw [only path atBlob, besideTree path apart, downloading.only path atBlob]

theorem unpackLayers_unpacks [Process] {staging : Path} {world : World} {tree : Fs}
    (unpacking : Unpacking staging world.fs tree)
    (clean : PyDict.get world.fs (staging ++ [blobName]) = none) (repoPath : Name)
    (starts : List Path) (layers : List LayerRef) (modes : PyDict Path Nat) :
    Unpacks staging world (unpackLayers tools network repoPath staging starts layers modes world)
      (fun value after => ∃ bodies, Bodies tools network layers bodies ∧
        layersTree tools.py starts (archives tools layers bodies) (tree, modes) =
          some (after, value)) := by
  induction layers generalizing world tree modes with
  | nil =>
      refine ⟨Outside.refl staging world.fs, rfl, ?_⟩
      intro value isOk
      cases isOk
      exact ⟨Outside.refl _ _, tree, unpacking, [], List.Forall₂.nil, rfl⟩
  | cons layer rest ih =>
      have first := unpackLayer_unpacks tools network unpacking clean repoPath starts layer modes
      unfold unpackLayers
      rw [Online.bind_apply]
      cases came : unpackLayer tools network repoPath staging starts layer modes world with
      | mk outcome middle =>
          rw [came] at first
          cases outcome with
          | error failure => exact ⟨first.outside, first.above, fun _ isOk => by cases isOk⟩
          | ok value =>
              obtain ⟨besideFirst, next, unpackingNext, data, given, hashed, layered⟩ :=
                first.ends value rfl
              have cleanNext : PyDict.get middle.fs (staging ++ [blobName]) = none := by
                rw [besideFirst _ (fun under => under.elim fun rel same => blob_not_built same),
                  clean]
              dsimp only
              rw [Online.bind_apply]
              rcases say_cases network middle with said | ⟨refusal, _, said⟩
              case inr =>
                rw [said]
                exact ⟨first.outside, first.above, fun _ isOk => by cases isOk⟩
              rw [said]
              have onward := @ih ⟨middle.asks ++ [.line], middle.fs⟩ _ unpackingNext cleanNext value
              refine ⟨first.outside.trans onward.outside, onward.above.trans first.above, ?_⟩
              intro last isOk
              obtain ⟨besideRest, final, unpackingFinal, bodies, hold, unpacked⟩ :=
                onward.ends last isOk
              refine ⟨besideFirst.trans besideRest, final, unpackingFinal, data :: bodies,
                List.Forall₂.cons ⟨given, hashed⟩ hold, ?_⟩
              rw [archives, List.zipWith_cons_cons, layersTree, layered]
              exact unpacked

end Layers

end Catena.Fetch

import Catena.PyDict
import Catena.PyText

/-!
# A file system, and how the kernel walks a path

Directories, files and symbolic links by their real paths.  Every operation on a
path first walks to the directory that holds its last component, and expands the
links it meets where they sit, forty of them at most.  Where the directories on
the way are real ones, an operation acts on the path as it is written.
-/

namespace Posix

open PyText

abbrev Name := List Char

abbrev Path := List Name

inductive Node where
  | dir (mode : Nat)
  | file (data : List UInt8) (mode : Nat)
  | link (target : Name)
  deriving DecidableEq

def Node.isDir : Node → Bool
  | .dir _ => true
  | _ => false

/-- What stands at each real path; the root is the empty one. -/
abbrev Fs := PyDict Path Node

inductive Errno where
  | noEntry
  | notDirectory
  | isDirectory
  | loop
  | fileExists
  | notEmpty
  | notPermitted
  | invalid
  deriving DecidableEq

def current : Name := ['.']

def upper : Name := ['.', '.']

/-- The components of the text of a path. -/
def components (text : Name) : List Name :=
  splitOn '/' text

def isAbsolute (text : Name) : Bool :=
  text.head? == some '/'

/-- Where a walk stops: at the end of the path, at a link, or at an error. -/
inductive Stop where
  | arrived (place : Path)
  | met (place : Path) (target : Name) (rest : List Name)
  | failed (errno : Errno)

/-- Walk to the next link, with the places passed. -/
def stride (fs : Fs) (place : Path) : List Name → List Path × Stop
  | [] => ([place], .arrived place)
  | part :: rest =>
      if part = [] ∨ part = current then stride fs place rest
      else if part = upper then
        (place :: (stride fs place.dropLast rest).1, (stride fs place.dropLast rest).2)
      else
        match PyDict.get fs (place ++ [part]) with
        | none => ([place], .failed .noEntry)
        | some (.link target) => ([place], .met place target rest)
        | some (.dir _) => (place :: (stride fs (place ++ [part]) rest).1,
            (stride fs (place ++ [part]) rest).2)
        | some (.file _ _) => ([place, place ++ [part]],
            if rest = [] then .arrived (place ++ [part]) else .failed .notDirectory)

/-- Walk to the end, with this many links left to expand. -/
def walk (fs : Fs) : Nat → Path → List Name → List Path × Except Errno Path
  | 0, place, todo =>
      match stride fs place todo with
      | (seen, .arrived there) => (seen, .ok there)
      | (seen, .failed errno) => (seen, .error errno)
      | (seen, .met _ _ _) => (seen, .error .loop)
  | hops + 1, place, todo =>
      match stride fs place todo with
      | (seen, .arrived there) => (seen, .ok there)
      | (seen, .failed errno) => (seen, .error errno)
      | (seen, .met directory target rest) =>
          let next := walk fs hops (if isAbsolute target then [] else directory)
            (components target ++ rest)
          (seen ++ next.1, next.2)

/-- The kernel's limit on links in one walk. -/
def maxLinks : Nat := 40

def isDir (fs : Fs) (path : Path) : Bool :=
  match PyDict.get fs path with
  | some node => node.isDir
  | none => false

/-- The real path of the entry a path names; a link there is not followed. -/
def locate (fs : Fs) (path : Path) : Except Errno Path :=
  match path.getLast? with
  | none => .ok []
  | some leaf =>
      match (walk fs maxLinks [] path.dropLast).2 with
      | .error errno => .error errno
      | .ok directory =>
          if !isDir fs directory then .error .notDirectory
          else .ok (if leaf = upper then directory.dropLast else directory ++ [leaf])

/-- `os.lstat`; none is `FileNotFoundError`. -/
def lstat (fs : Fs) (path : Path) : Except Errno (Option Node) :=
  match locate fs path with
  | .error .noEntry => .ok none
  | .error errno => .error errno
  | .ok place => .ok (PyDict.get fs place)

/-- Put a node where nothing stands. -/
def create (fs : Fs) (path : Path) (node : Node) : Except Errno Fs :=
  match locate fs path with
  | .error errno => .error errno
  | .ok place =>
      match PyDict.get fs place with
      | some _ => .error .fileExists
      | none => .ok (PyDict.set fs place node)

/-- The process the operations are run by: the permissions it takes from what it
makes. -/
class Process where
  umask : Nat

/-- The mode of what is made, of the one that is asked for. -/
def masked [Process] (mode : Nat) : Nat :=
  mode &&& (0o1777 ^^^ (Process.umask &&& 0o777))

/-- The set-group-ID bit, which a new directory takes from the one it is in. -/
def inherited : Option Node → Nat
  | some (.dir mode) => mode &&& 0o2000
  | _ => 0

/-- The directory that is made in a directory. -/
def made [Process] (parent : Option Node) (mode : Nat) : Node :=
  .dir (masked mode ||| inherited parent)

def mkdir [Process] (fs : Fs) (path : Path) (mode : Nat) : Except Errno Fs :=
  match locate fs path with
  | .error errno => .error errno
  | .ok place =>
      match PyDict.get fs place with
      | some _ => .error .fileExists
      | none => .ok (PyDict.set fs place (made (PyDict.get fs place.dropLast) mode))

def symlink (fs : Fs) (target : Name) (path : Path) : Except Errno Fs :=
  if target = [] then .error .noEntry else create fs path (.link target)

/-- `os.link`, of the entry itself.  A file's text and mode do not change once it
has two names. -/
def link (fs : Fs) (source path : Path) : Except Errno Fs :=
  match locate fs source with
  | .error errno => .error errno
  | .ok place =>
      match PyDict.get fs place with
      | none => .error .noEntry
      | some (.dir _) => .error .notPermitted
      | some node => create fs path node

def unlink (fs : Fs) (path : Path) : Except Errno Fs :=
  match locate fs path with
  | .error errno => .error errno
  | .ok place =>
      match PyDict.get fs place with
      | none => .error .noEntry
      | some (.dir _) => .error .isDirectory
      | some _ => .ok (PyDict.erase fs place)

/-- Everything at a path and below it is gone. -/
def prune (fs : Fs) (path : Path) : Fs :=
  fs.filter fun item => ¬ path <+: item.1

/-- Everything below a path is gone. -/
def pruneBelow (fs : Fs) (path : Path) : Fs :=
  fs.filter fun item => ¬ (path <+: item.1 ∧ item.1 ≠ path)

/-- `os.rmdir` of the parent of a directory, by that name: it never succeeds. -/
def rmdirUpper (fs : Fs) (path : Path) : Errno :=
  match locate fs path with
  | .error errno => errno
  | .ok _ => .notEmpty

/-- `shutil.rmtree`: the contents, and then the directory. -/
def rmtree (fs : Fs) (path : Path) : Fs × Except Errno Unit :=
  match locate fs path with
  | .error errno => (fs, .error errno)
  | .ok place =>
      if !isDir fs place then (fs, .error .notDirectory)
      else if path.getLast? = some upper then
        (pruneBelow fs place, .error (rmdirUpper (pruneBelow fs place) path))
      else (prune fs place, .ok ())

/-- The name of an entry of a directory. -/
def childName (directory path : Path) : Option Name :=
  match path.getLast? with
  | some leaf => if path = directory ++ [leaf] then some leaf else none
  | none => none

def listdir (fs : Fs) (path : Path) : Except Errno (List Name) :=
  match (walk fs maxLinks [] path).2 with
  | .error errno => .error errno
  | .ok place =>
      if !isDir fs place then .error .notDirectory
      else .ok (fs.filterMap fun item => childName place item.1)

/-- `os.chmod`, of a directory. -/
def chmod (fs : Fs) (path : Path) (mode : Nat) : Except Errno Fs :=
  match (walk fs maxLinks [] path).2 with
  | .error errno => .error errno
  | .ok place =>
      match PyDict.get fs place with
      | some (.dir _) => .ok (PyDict.set fs place (.dir mode))
      | some (.file data _) => .ok (PyDict.set fs place (.file data mode))
      | _ => .error .noEntry

/-- A file opened for writing, and all of it written; a link is followed to what
stands there. -/
def writeFile [Process] (fs : Fs) (path : Path) (data : List UInt8) : Except Errno Fs :=
  match (walk fs maxLinks [] path).2 with
  | .error .noEntry => create fs path (.file data (masked 0o666))
  | .error errno => .error errno
  | .ok place =>
      match PyDict.get fs place with
      | some (.file _ mode) => .ok (PyDict.set fs place (.file data mode))
      | _ => .error .isDirectory

def readFile (fs : Fs) (path : Path) : Except Errno (List UInt8) :=
  match (walk fs maxLinks [] path).2 with
  | .error errno => .error errno
  | .ok place =>
      match PyDict.get fs place with
      | some (.file data _) => .ok data
      | _ => .error .isDirectory

/-- `os.path.isdir`. -/
def isDirectory (fs : Fs) (path : Path) : Bool :=
  match (walk fs maxLinks [] path).2 with
  | .error _ => false
  | .ok place => isDir fs place

/-- The subtree at `source`, at `target` instead. -/
def moved (fs : Fs) (source target : Path) : Fs :=
  fs.map fun item =>
    if source <+: item.1 then (target ++ item.1.drop source.length, item.2) else item

/-- `os.rename`, to a path where nothing stands. -/
def rename (fs : Fs) (source target : Path) : Except Errno Fs :=
  match locate fs source, locate fs target with
  | .error errno, _ => .error errno
  | .ok _, .error errno => .error errno
  | .ok here, .ok there =>
      match PyDict.get fs here, PyDict.get fs there with
      | none, _ => .error .noEntry
      | some _, some _ => .error .fileExists
      | some _, none =>
          if here <+: there then .error .invalid else .ok (moved fs here there)

/-- `os.replace`, of a file. -/
def replace (fs : Fs) (source target : Path) : Except Errno Fs :=
  match locate fs source, locate fs target with
  | .error errno, _ => .error errno
  | .ok _, .error errno => .error errno
  | .ok here, .ok there =>
      match PyDict.get fs here with
      | some (.file data mode) =>
          if isDir fs there then .error .isDirectory
          else .ok (PyDict.set (PyDict.erase fs here) there (.file data mode))
      | _ => .error .noEntry

/-- The name of an entry. -/
def Proper (name : Name) : Prop :=
  name ≠ [] ∧ name ≠ current ∧ name ≠ upper

instance (name : Name) : Decidable (Proper name) :=
  inferInstanceAs (Decidable (_ ∧ _ ∧ _))

/-- The path leads through real directories only. -/
structure Real (fs : Fs) (path : Path) : Prop where
  proper : ∀ name ∈ path, Proper name
  parents : ∀ parent, parent <+: path → parent ≠ path → isDir fs parent = true

theorem isDir_eq_true {fs : Fs} {path : Path} :
    isDir fs path = true ↔ ∃ mode, PyDict.get fs path = some (.dir mode) := by
  unfold isDir
  cases PyDict.get fs path with
  | none => simp
  | some node => cases node <;> simp [Node.isDir]

theorem stride_real {fs : Fs} {place : Path} {todo : List Name}
    (proper : ∀ name ∈ todo, Proper name)
    (dirs : ∀ more, more <+: todo → more ≠ [] → isDir fs (place ++ more) = true) :
    (stride fs place todo).2 = .arrived (place ++ todo) := by
  induction todo generalizing place with
  | nil => simp [stride]
  | cons part rest ih =>
      obtain ⟨nonempty, notCurrent, notUpper⟩ := proper part (List.mem_cons_self ..)
      have entered : isDir fs (place ++ [part]) = true :=
        dirs [part] (List.prefix_append [part] rest) (List.cons_ne_nil _ _)
      obtain ⟨mode, held⟩ := isDir_eq_true.mp entered
      have onward : (stride fs (place ++ [part]) rest).2 =
          .arrived (place ++ [part] ++ rest) := by
        apply ih fun name found => proper name (List.mem_cons_of_mem _ found)
        intro more further _
        rw [List.append_assoc]
        exact dirs (part :: more) (List.cons_prefix_cons.mpr ⟨rfl, further⟩)
          (List.cons_ne_nil _ _)
      rw [stride, if_neg (by simp [nonempty, notCurrent]), if_neg notUpper, held]
      simpa using onward

theorem stride_missing {fs : Fs} {place before : Path} {name : Name} (rest : List Name)
    (proper : ∀ part ∈ before ++ [name], Proper part)
    (dirs : ∀ more, more <+: before → more ≠ [] → isDir fs (place ++ more) = true)
    (missing : PyDict.get fs (place ++ (before ++ [name])) = none) :
    (stride fs place (before ++ name :: rest)).2 = .failed .noEntry := by
  induction before generalizing place with
  | nil =>
      obtain ⟨nonempty, notCurrent, notUpper⟩ := proper name (by simp)
      rw [List.nil_append] at missing
      rw [List.nil_append, stride, if_neg (by simp [nonempty, notCurrent]), if_neg notUpper,
        missing]
  | cons part more ih =>
      obtain ⟨nonempty, notCurrent, notUpper⟩ := proper part (by simp)
      have entered : isDir fs (place ++ [part]) = true :=
        dirs [part] (List.prefix_append [part] more) (List.cons_ne_nil _ _)
      obtain ⟨mode, held⟩ := isDir_eq_true.mp entered
      have onward : (stride fs (place ++ [part]) (more ++ name :: rest)).2 =
          .failed .noEntry := by
        apply ih
        · intro other found
          exact proper other (List.mem_cons_of_mem _ found)
        · intro further under _
          rw [List.append_assoc]
          exact dirs (part :: further) (List.cons_prefix_cons.mpr ⟨rfl, under⟩)
            (List.cons_ne_nil _ _)
        · rw [List.append_assoc]
          exact missing
      rw [List.cons_append, stride, if_neg (by simp [nonempty, notCurrent]), if_neg notUpper,
        held]
      exact onward

/-- The walk to what is missing fails, whatever comes after it. -/
theorem walk_missing {fs : Fs} {path : Path} (real : Real fs path) (nonempty : path ≠ [])
    (missing : PyDict.get fs path = none) (hops : Nat) (rest : List Name) :
    (walk fs hops [] (path ++ rest)).2 = .error .noEntry := by
  obtain ⟨before, name, whole⟩ := List.eq_nil_or_concat path |>.resolve_left nonempty
  rw [List.concat_eq_append] at whole
  subst whole
  have fails : (stride fs [] (before ++ name :: rest)).2 = .failed .noEntry := by
    apply stride_missing rest real.proper
    · intro more under _
      rw [List.nil_append]
      apply real.parents more (under.trans (List.prefix_append before [name]))
      rintro rfl
      exact absurd under.length_le (by simp)
    · rw [List.nil_append]
      exact missing
  rw [List.append_assoc, List.singleton_append]
  cases stepped : stride fs [] (before ++ name :: rest) with
  | mk seen stop =>
      rw [stepped] at fails
      cases fails
      cases hops <;> simp [walk, stepped]

theorem walk_real {fs : Fs} {todo : Path} (hops : Nat) (proper : ∀ name ∈ todo, Proper name)
    (dirs : ∀ more, more <+: todo → more ≠ [] → isDir fs more = true) :
    (walk fs hops [] todo).2 = .ok todo := by
  have arrives := @stride_real fs [] todo proper dirs
  rw [List.nil_append] at arrives
  cases stepped : stride fs [] todo with
  | mk seen stop =>
      rw [stepped] at arrives
      cases arrives
      cases hops <;> simp [walk, stepped]

theorem locate_real {fs : Fs} {path : Path} (real : Real fs path) :
    locate fs path = .ok path := by
  unfold locate
  cases last : path.getLast? with
  | none =>
      rw [List.getLast?_eq_none_iff] at last
      rw [last]
  | some leaf =>
      obtain ⟨before, rfl⟩ := List.getLast?_eq_some_iff.mp last
      have proper : ∀ name ∈ before, Proper name := fun name found =>
        real.proper name (List.mem_append_left _ found)
      have dirs : ∀ more, more <+: before → isDir fs more = true := by
        intro more further
        apply real.parents more (further.trans (List.prefix_append before [leaf]))
        rintro rfl
        exact absurd further.length_le (by simp)
      have leafProper := real.proper leaf (by simp)
      have walked := @walk_real fs before maxLinks proper fun more further _ => dirs more further
      simp only [List.dropLast_concat, walked, dirs before List.prefix_rfl, Bool.not_true,
        Bool.false_eq_true, if_false, leafProper.2.2]

theorem lstat_real {fs : Fs} {path : Path} (real : Real fs path) :
    lstat fs path = .ok (PyDict.get fs path) := by
  rw [lstat, locate_real real]

theorem create_real {fs : Fs} {path : Path} (real : Real fs path) (node : Node) :
    create fs path node = match PyDict.get fs path with
      | some _ => .error .fileExists
      | none => .ok (PyDict.set fs path node) := by
  rw [create, locate_real real]

theorem mkdir_real [Process] {fs : Fs} {path : Path} (real : Real fs path) (mode : Nat) :
    mkdir fs path mode = create fs path (made (PyDict.get fs path.dropLast) mode) := by
  rw [mkdir, create, locate_real real]

theorem unlink_real {fs : Fs} {path : Path} (real : Real fs path) :
    unlink fs path = match PyDict.get fs path with
      | none => .error .noEntry
      | some (.dir _) => .error .isDirectory
      | some _ => .ok (PyDict.erase fs path) := by
  rw [unlink, locate_real real]

theorem link_real {fs : Fs} {source path : Path} (real : Real fs source) :
    link fs source path = match PyDict.get fs source with
      | none => .error .noEntry
      | some (.dir _) => .error .notPermitted
      | some node => create fs path node := by
  rw [link, locate_real real]

theorem getLast?_proper {fs : Fs} {path : Path} (real : Real fs path) :
    path.getLast? ≠ some upper := by
  intro last
  exact (real.proper upper (List.mem_of_getLast? last)).2.2 rfl

theorem rmtree_real {fs : Fs} {path : Path} (real : Real fs path)
    (directory : isDir fs path = true) : rmtree fs path = (prune fs path, .ok ()) := by
  rw [rmtree, locate_real real]
  simp only [directory, Bool.not_true, Bool.false_eq_true, if_false, getLast?_proper real]

theorem walk_directory {fs : Fs} {path : Path} (real : Real fs path)
    (directory : isDir fs path = true) (hops : Nat) :
    (walk fs hops [] path).2 = .ok path := by
  apply walk_real hops real.proper
  intro more further _
  by_cases whole : more = path
  · rw [whole]
    exact directory
  · exact real.parents more further whole

/-- The name of a directory's parent leads to it. -/
theorem locate_upper {fs : Fs} {path : Path} (real : Real fs path)
    (directory : isDir fs path = true) :
    locate fs (path ++ [upper]) = .ok path.dropLast := by
  have last : (path ++ [upper]).getLast? = some upper := by simp
  rw [locate, last, List.dropLast_concat, walk_directory real directory]
  simp only [directory, Bool.not_true, Bool.false_eq_true, if_false, if_true]

theorem listdir_real {fs : Fs} {path : Path} (real : Real fs path)
    (directory : isDir fs path = true) :
    listdir fs path = .ok (fs.filterMap fun item => childName path item.1) := by
  rw [listdir, walk_directory real directory]
  simp only [directory, Bool.not_true, Bool.false_eq_true, if_false]

theorem chmod_real {fs : Fs} {path : Path} (real : Real fs path)
    (directory : isDir fs path = true) (mode : Nat) :
    chmod fs path mode = .ok (PyDict.set fs path (.dir mode)) := by
  obtain ⟨old, held⟩ := isDir_eq_true.mp directory
  rw [chmod, walk_directory real directory]
  simp only [held]

theorem rename_real {fs : Fs} {source target : Path} (sourceReal : Real fs source)
    (targetReal : Real fs target) (present : (PyDict.get fs source).isSome = true)
    (absent : PyDict.get fs target = none) (apart : ¬ source <+: target) :
    rename fs source target = .ok (moved fs source target) := by
  obtain ⟨node, held⟩ := Option.isSome_iff_exists.mp present
  rw [rename, locate_real sourceReal, locate_real targetReal]
  simp only [held, absent, if_neg apart]

theorem stride_file {fs : Fs} {place before : Path} {name : Name} {data : List UInt8}
    {mode : Nat} (proper : ∀ part ∈ before ++ [name], Proper part)
    (dirs : ∀ more, more <+: before → more ≠ [] → isDir fs (place ++ more) = true)
    (held : PyDict.get fs (place ++ (before ++ [name])) = some (.file data mode)) :
    (stride fs place (before ++ [name])).2 = .arrived (place ++ (before ++ [name])) := by
  induction before generalizing place with
  | nil =>
      obtain ⟨nonempty, notCurrent, notUpper⟩ := proper name (by simp)
      rw [List.nil_append] at held ⊢
      rw [stride, if_neg (by simp [nonempty, notCurrent]), if_neg notUpper, held]
      simp
  | cons part more ih =>
      obtain ⟨nonempty, notCurrent, notUpper⟩ := proper part (by simp)
      have entered : isDir fs (place ++ [part]) = true :=
        dirs [part] (List.prefix_append [part] more) (List.cons_ne_nil _ _)
      obtain ⟨old, isDirectory⟩ := isDir_eq_true.mp entered
      have split : place ++ (part :: more ++ [name]) = place ++ [part] ++ (more ++ [name]) := by
        simp
      have onward : (stride fs (place ++ [part]) (more ++ [name])).2 =
          .arrived (place ++ [part] ++ (more ++ [name])) := by
        apply ih
        · intro other found
          exact proper other (List.mem_cons_of_mem _ found)
        · intro further under _
          rw [List.append_assoc]
          exact dirs (part :: further) (List.cons_prefix_cons.mpr ⟨rfl, under⟩)
            (List.cons_ne_nil _ _)
        · rw [← split]
          exact held
      rw [split, List.cons_append, stride, if_neg (by simp [nonempty, notCurrent]),
        if_neg notUpper, isDirectory]
      exact onward

theorem walk_file {fs : Fs} {path : Path} {data : List UInt8} {mode : Nat} (real : Real fs path)
    (nonempty : path ≠ []) (held : PyDict.get fs path = some (.file data mode)) (hops : Nat) :
    (walk fs hops [] path).2 = .ok path := by
  obtain ⟨before, name, whole⟩ := List.eq_nil_or_concat path |>.resolve_left nonempty
  rw [List.concat_eq_append] at whole
  subst whole
  have arrives : (stride fs [] (before ++ [name])).2 = .arrived ([] ++ (before ++ [name])) := by
    apply stride_file real.proper _ held
    intro more under _
    apply real.parents more (under.trans (List.prefix_append before [name]))
    rintro rfl
    exact absurd under.length_le (by simp)
  cases stepped : stride fs [] (before ++ [name]) with
  | mk seen stop =>
      rw [stepped] at arrives
      cases arrives
      cases hops <;> simp [walk, stepped]

theorem writeFile_none [Process] {fs : Fs} {path : Path} (real : Real fs path) (nonempty : path ≠ [])
    (absent : PyDict.get fs path = none) (data : List UInt8) :
    writeFile fs path data = .ok (PyDict.set fs path (.file data (masked 0o666))) := by
  have missing := walk_missing real nonempty absent maxLinks []
  rw [List.append_nil] at missing
  rw [writeFile, missing]
  simp only [create_real real, absent]

theorem writeFile_file [Process] {fs : Fs} {path : Path} {old : List UInt8} {mode : Nat}
    (real : Real fs path) (nonempty : path ≠ [])
    (held : PyDict.get fs path = some (.file old mode)) (data : List UInt8) :
    writeFile fs path data = .ok (PyDict.set fs path (.file data mode)) := by
  rw [writeFile, walk_file real nonempty held]
  simp only [held]

theorem readFile_file {fs : Fs} {path : Path} {data : List UInt8} {mode : Nat}
    (real : Real fs path) (nonempty : path ≠ [])
    (held : PyDict.get fs path = some (.file data mode)) : readFile fs path = .ok data := by
  rw [readFile, walk_file real nonempty held]
  simp only [held]

theorem replace_real {fs : Fs} {source target : Path} {data : List UInt8} {mode : Nat}
    (sourceReal : Real fs source) (targetReal : Real fs target)
    (held : PyDict.get fs source = some (.file data mode)) :
    replace fs source target = if isDir fs target then .error .isDirectory
      else .ok (PyDict.set (PyDict.erase fs source) target (.file data mode)) := by
  rw [replace, locate_real sourceReal, locate_real targetReal]
  simp only [held]

theorem Real.child {fs : Fs} {path : Path} {name : Name} (real : Real fs path)
    (directory : isDir fs path = true) (proper : Proper name) : Real fs (path ++ [name]) where
  proper part found := by
    rcases List.mem_append.mp found with inside | last
    · exact real.proper part inside
    · rw [List.mem_singleton.mp last]
      exact proper
  parents parent under other := by
    rcases List.prefix_concat_iff.mp under with whole | inside
    · exact absurd whole other
    · by_cases same : parent = path
      · rw [same]
        exact directory
      · exact real.parents parent inside same

theorem get_prune (fs : Fs) (path wanted : Path) :
    PyDict.get (prune fs path) wanted =
      if path <+: wanted then none else PyDict.get fs wanted := by
  rw [prune, PyDict.get_filter fs (fun found => ¬ path <+: found)]
  split <;> rename_i under <;> simp [under]

theorem get_pruneBelow (fs : Fs) (path wanted : Path) :
    PyDict.get (pruneBelow fs path) wanted =
      if path <+: wanted ∧ wanted ≠ path then none else PyDict.get fs wanted := by
  rw [pruneBelow, PyDict.get_filter fs (fun found => ¬ (path <+: found ∧ found ≠ path))]
  split <;> rename_i under <;> simp [under]

/-- Below the target stands what stood below the source, which is empty now. -/
theorem get_moved {fs : Fs} {source target : Path}
    (free : ∀ path, target <+: path → PyDict.get fs path = none) (wanted : Path) :
    PyDict.get (moved fs source target) wanted =
      if target <+: wanted then PyDict.get fs (source ++ wanted.drop target.length)
      else if source <+: wanted then none else PyDict.get fs wanted := by
  induction fs with
  | nil => simp [moved]
  | cons item rest ih =>
      obtain ⟨path, node⟩ := item
      have restFree : ∀ path, target <+: path → PyDict.get rest path = none := by
        intro other under
        have absent := free other under
        rw [PyDict.get_cons] at absent
        split at absent
        · cases absent
        · exact absent
      have notHere : ¬ target <+: path := by
        intro under
        have absent := free path under
        rw [PyDict.get_cons, if_pos rfl] at absent
        cases absent
      have step := ih restFree
      by_cases under : source <+: path
      · obtain ⟨tail, rfl⟩ := under
        have head : moved ((source ++ tail, node) :: rest) source target =
            (target ++ tail, node) :: moved rest source target := by
          simp [moved]
        rw [head, PyDict.get_cons, PyDict.get_cons, PyDict.get_cons, step]
        by_cases inTarget : target <+: wanted
        · obtain ⟨more, rfl⟩ := inTarget
          simp
        · have other : target ++ tail ≠ wanted := by
            rintro rfl
            exact inTarget (List.prefix_append ..)
          rw [if_neg other, if_neg inTarget, if_neg inTarget]
          split
          · rfl
          · rename_i outside
            rw [if_neg]
            rintro rfl
            exact outside (List.prefix_append ..)
      · have head : moved ((path, node) :: rest) source target =
            (path, node) :: moved rest source target := by
          simp [moved, under]
        rw [head, PyDict.get_cons, PyDict.get_cons, PyDict.get_cons, step]
        by_cases inTarget : target <+: wanted
        · have other : path ≠ wanted := by
            rintro rfl
            exact notHere inTarget
          have elsewhere : path ≠ source ++ wanted.drop target.length := by
            rintro rfl
            exact under (List.prefix_append ..)
          rw [if_neg other, if_pos inTarget, if_neg elsewhere]
          simp [inTarget]
        · rw [if_neg inTarget, if_neg inTarget]
          by_cases same : path = wanted
          · subst same
            rw [if_pos rfl, if_neg under, if_pos rfl]
          · rw [if_neg same, if_neg same]

end Posix

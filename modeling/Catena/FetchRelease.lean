import Catena.PosixTree
import Catena.PyJson
import Catena.PyLines

/-!
# Unpacking a release image

The unpacking half of `helpers/fetch_release.py`: the layers of an image applied
to a staging tree, the check of its links, and the move of the finished trees
into place.  A part keeps what it changed when it raises.
-/

namespace Catena.Fetch

open PyText Posix

/-- What a part raises: `FetchError`, `ResolveError`, an `OSError`, what reading an
archive raises, what a registry's answer raises, with whether that is worth another
attempt, or what Python raises. -/
inductive Failure where
  | fetch (message : String)
  | resolve (message : String)
  | os (errno : Errno)
  | archive
  | web (transient : Bool)
  | python (error : PyError)
  deriving DecidableEq

/-- A part of the program, run on a file system. -/
def Disk (α : Type) : Type :=
  Fs → Except Failure α × Fs

instance : Monad Disk where
  pure value fs := (.ok value, fs)
  bind part next fs :=
    match part fs with
    | (.ok value, after) => next value after
    | (.error failure, after) => (.error failure, after)

def raise {α : Type} (failure : Failure) : Disk α :=
  fun fs => (.error failure, fs)

/-- Look at the file system. -/
def look {α : Type} (operation : Fs → Except Errno α) : Disk α :=
  fun fs =>
    match operation fs with
    | .ok value => (.ok value, fs)
    | .error errno => (.error (.os errno), fs)

/-- Change the file system, or leave it as it is. -/
def alter (operation : Fs → Except Errno Fs) : Disk Unit :=
  fun fs =>
    match operation fs with
    | .ok after => (.ok (), after)
    | .error errno => (.error (.os errno), fs)

theorem bind_apply {α β : Type} (part : Disk α) (next : α → Disk β) (fs : Fs) :
    (part >>= next) fs =
      match part fs with
      | (.ok value, after) => next value after
      | (.error failure, after) => (.error failure, after) :=
  rfl

theorem look_bind {α β : Type} {operation : Fs → Except Errno α} {next : α → Disk β}
    {fs : Fs} {value : α} (answered : operation fs = .ok value) :
    (look operation >>= next) fs = next value fs := by
  simp only [bind_apply, look, answered]

theorem alter_bind {β : Type} {operation : Fs → Except Errno Fs} {next : Unit → Disk β}
    {fs after : Fs} (altered : operation fs = .ok after) :
    (alter operation >>= next) fs = next () after := by
  simp only [bind_apply, alter, altered]

def rmtree (path : Path) : Disk Unit :=
  fun fs =>
    match Posix.rmtree fs path with
    | (after, .ok _) => (.ok (), after)
    | (after, .error errno) => (.error (.os errno), after)

def lift {α : Type} (value : Except Failure α) : Disk α :=
  fun fs => (value, fs)

def whiteout : Name := ".wh.".toList

def opaqueMarker : Name := ".wh..wh..opq".toList

/-- The type of an archive member; `other` is a device or a fifo. -/
inductive Kind where
  | directory
  | regular (data : List UInt8)
  | symlink
  | hardlink
  | other
  deriving DecidableEq

structure Member where
  name : Name
  kind : Kind
  mode : Nat
  linkname : Name
  deriving DecidableEq

/-- An archive as it is read: its members, and whether reading on from the last
one raises. -/
structure Layer where
  members : List Member
  broken : Bool

/-- The text of a path. -/
def shown (path : Path) : String :=
  String.ofList (join ['/'] path)

/-- The components of a path that are names. -/
def parts (text : Name) : Path :=
  (components text).filter fun part => part ≠ [] ∧ part ≠ current

section Unpack

variable [Process] (py : Builtins)

def memberPath (name : Name) : Except Failure Path :=
  if isAbsolute name then
    .error (.fetch ("layer member " ++ py.repr (.str (String.ofList name)) ++
      " is an absolute path; refusing the image"))
  else if upper ∈ parts name then
    .error (.fetch ("layer member " ++ py.repr (.str (String.ofList name)) ++
      " climbs with '..'; refusing the image"))
  else .ok (parts name)

/-- `_prefixes`, before a path inside another one is left out. -/
def requested : List Name → Except Failure (List Path)
  | [] => .ok []
  | raw :: rest =>
      if parts raw = [] ∨ upper ∈ parts raw then
        .error (.fetch ("--path " ++ py.repr (.str (String.ofList raw)) ++
          " names no directory inside the image"))
      else (requested rest).map (parts raw :: ·)

def prefixes (paths : List Name) : Except Failure (List Path) :=
  (requested py paths).map fun out =>
    out.eraseDups.filter fun path => ¬ ∃ other ∈ out, other ≠ path ∧ other <+: path

/-- `any(_under(path, p) for p in prefixes)`. -/
def wanted (prefixes : List Path) (path : Path) : Bool :=
  prefixes.any fun start => decide (start <+: path)

/-- `directory / leaf`. -/
def child (directory : Path) (leaf : Name) : Path :=
  if leaf = [] ∨ leaf = current then directory else directory ++ [leaf]

def leafOf (path : Path) : Name :=
  path.getLast?.getD []

/-- `_real_dir`, with the components before `rest` behind it. -/
def realDirFrom (root rel : Path) (make : Bool) (done : Path) : List Name → Disk (Option Path)
  | [] => return some (root ++ done)
  | part :: rest => do
      let here := root ++ (done ++ [part])
      match ← look fun fs => lstat fs here with
      | none =>
          if make then do
            alter fun fs => mkdir fs here 0o755
            realDirFrom root rel make (done ++ [part]) rest
          else return none
      | some (.dir _) => realDirFrom root rel make (done ++ [part]) rest
      | some (.link _) =>
          if make then
            raise (.fetch (shown rel ++ " goes through " ++ shown (done ++ [part]) ++
              ", a symlink a layer placed; refusing to write through it"))
          else return none
      | some (.file _ _) =>
          if make then do
            alter fun fs => unlink fs here
            alter fun fs => mkdir fs here 0o755
            realDirFrom root rel make (done ++ [part]) rest
          else return none

def realDir (root rel : Path) (make : Bool) : Disk (Option Path) :=
  realDirFrom root rel make [] rel

def clear (target : Path) : Disk Unit := do
  match ← look fun fs => lstat fs target with
  | none => return ()
  | some (.dir _) => rmtree target
  | some _ => alter fun fs => unlink fs target

/-- `_remove`, of a leaf of a directory. -/
def remove (tree parent : Path) (leaf : Name) : Disk Unit := do
  match ← realDir tree parent false with
  | none => return ()
  | some directory => clear (child directory leaf)

/-- The entries of a directory, cleared one by one. -/
def clearAll (directory : Path) : List Name → Disk Unit
  | [] => return ()
  | name :: rest => do
      clear (directory ++ [name])
      clearAll directory rest

def empty (tree rel : Path) : Disk Unit := do
  match ← realDir tree rel false with
  | none => return ()
  | some directory => do
      let names ← look fun fs => listdir fs directory
      clearAll directory names

/-- The directory a member goes into, and where. -/
def targetOf (tree path : Path) : Disk Path := do
  match ← realDir tree path.dropLast true with
  | none => raise .archive
  | some directory => return child directory (leafOf path)

/-- The mode of a member, without its setuid and setgid bits. -/
def Member.kept (member : Member) : Nat :=
  member.mode &&& 0o1777

/-- The hard link branch of `_write`. -/
def writeLink (tree : Path) (prefixes : List Path) (path target : Path) (linkname : Name) :
    Disk Unit := do
  let source ← lift (memberPath py linkname)
  if !wanted prefixes source then
    raise (.fetch (shown path ++ " is a hard link to " ++ shown source ++
      ", outside the requested paths"))
  else do
    match ← realDir tree source.dropLast false with
    | none => raise (.fetch (shown path ++ " is a hard link to " ++ shown source ++
        ", which is not there"))
    | some directory => alter fun fs => Posix.link fs (child directory (leafOf source)) target

/-- `_write`; it returns the modes of the directories. -/
def write (tree : Path) (prefixes : List Path) (member : Member) (path : Path)
    (modes : PyDict Path Nat) : Disk (PyDict Path Nat) := do
  match member.kind with
  | .other => return modes
  | .directory => do
      let target ← targetOf tree path
      if (← realDir tree path false).isNone then do
        clear target
        alter fun fs => mkdir fs target 0o755
        return PyDict.set modes path member.kept
      else return PyDict.set modes path member.kept
  | .regular data => do
      let target ← targetOf tree path
      clear target
      alter fun fs => create fs target (.file data member.kept)
      return modes
  | .symlink => do
      let target ← targetOf tree path
      clear target
      alter fun fs => Posix.symlink fs member.linkname target
      return modes
  | .hardlink => do
      let target ← targetOf tree path
      clear target
      writeLink py tree prefixes path target member.linkname
      return modes

def isWhiteout (leaf : Name) : Bool :=
  whiteout.isPrefixOf leaf && !(whiteout ++ whiteout).isPrefixOf leaf &&
    decide (whiteout.length < leaf.length)

/-- The first pass over a member: a whiteout or an opaque marker. -/
def mark (tree : Path) (member : Member) : Disk Unit := do
  let path ← lift (memberPath py member.name)
  if leafOf path = opaqueMarker then empty tree path.dropLast
  else if isWhiteout (leafOf path) then
    remove tree path.dropLast ((leafOf path).drop whiteout.length)
  else return ()

def marks (tree : Path) : List Member → Disk Unit
  | [] => return ()
  | member :: rest => do
      mark py tree member
      marks tree rest

/-- Whether the second pass writes what stands at a path. -/
def written (prefixes : List Path) (path : Path) : Bool :=
  decide (path ≠ []) && !whiteout.isPrefixOf (leafOf path) && wanted prefixes path

/-- The second pass. -/
def writes (tree : Path) (prefixes : List Path) :
    List Member → PyDict Path Nat → Disk (PyDict Path Nat)
  | [], modes => return modes
  | member :: rest, modes => do
      let path ← lift (memberPath py member.name)
      if written prefixes path then do
        let modes ← write py tree prefixes member path modes
        writes tree prefixes rest modes
      else writes tree prefixes rest modes

def applyLayer (tree : Path) (prefixes : List Path) (layer : Layer)
    (modes : PyDict Path Nat) : Disk (PyDict Path Nat) := do
  marks py tree layer.members
  if layer.broken then raise .archive
  else writes py tree prefixes layer.members modes

def applyLayers (tree : Path) (prefixes : List Path) :
    List Layer → PyDict Path Nat → Disk (PyDict Path Nat)
  | [], modes => return modes
  | layer :: rest, modes => do
      let modes ← applyLayer py tree prefixes layer modes
      applyLayers tree prefixes rest modes

end Unpack

/-- The target of the link at a path. -/
def linkAt (fs : Fs) (path : Path) : Option Name :=
  match lstat fs path with
  | .ok (some (.link target)) => some target
  | _ => none

/-- How a stretch of `_resolves_inside` ends. -/
inductive Passed where
  | outside
  | finished
  | met (place : Path) (target : Name) (rest : List Name)

/-- The components up to the next link. -/
def pass (fs : Fs) (tree place : Path) : List Name → Passed
  | [] => .finished
  | part :: rest =>
      if part = [] ∨ part = current then pass fs tree place rest
      else if part = upper then
        if place = [] then .outside else pass fs tree place.dropLast rest
      else
        match linkAt fs (tree ++ (place ++ [part])) with
        | some target => .met place target rest
        | none => pass fs tree (place ++ [part]) rest

/-- The loop of `_resolves_inside`, with this many links left to expand. -/
def resolves (fs : Fs) (tree : Path) : Nat → Path → Name → List Name → Bool
  | 0, _, _, _ => true
  | hops + 1, place, target, todo =>
      if isAbsolute target then false
      else
        match pass fs tree place (components target ++ todo) with
        | .outside => false
        | .finished => true
        | .met next further rest => resolves fs tree hops next further rest

def resolvesInside (fs : Fs) (tree rel : Path) : Bool :=
  match linkAt fs (tree ++ rel) with
  | some target => resolves fs tree maxLinks rel.dropLast target []
  | none => true

/-- The paths below a directory of the tree, from the tree's root. -/
def below (fs : Fs) (tree start : Path) : List Path :=
  fs.filterMap fun item =>
    if tree ++ start <+: item.1 ∧ item.1 ≠ tree ++ start then some (item.1.drop tree.length)
    else none

/-- The links below a directory, one by one. -/
def checkAll (tree : Path) : List Path → Disk Unit
  | [] => return ()
  | rel :: rest => fun fs =>
      match linkAt fs (tree ++ rel) with
      | none => checkAll tree rest fs
      | some target =>
          if resolvesInside fs tree rel then checkAll tree rest fs
          else (.error (.fetch (shown rel ++ " links to " ++ String.ofList target ++
            ", outside the image; refusing it")), fs)

def checkLinks (tree start : Path) : Disk Unit :=
  fun fs => checkAll tree (below fs tree start) fs

variable [Process]

def checkDirs (tree : Path) : List Path → Disk Unit
  | [] => return ()
  | start :: rest => do
      if (← realDir tree start false).isNone then
        raise (.fetch ("the image has no directory " ++ shown start))
      else checkDirs tree rest

def checkAllLinks (tree : Path) : List Path → Disk Unit
  | [] => return ()
  | start :: rest => do
      checkLinks tree start
      checkAllLinks tree rest

/-- The modes of the directories that are still there. -/
def chmods (tree : Path) : List (Path × Nat) → Disk Unit
  | [] => return ()
  | (path, mode) :: rest => do
      match ← realDir tree path false with
      | none => chmods tree rest
      | some directory => do
          alter fun fs => chmod fs directory mode
          chmods tree rest

def previous (count : Nat) : Name :=
  ("previous-" ++ toString count).toList

/-- One finished tree, moved into place. -/
def moveIn (tree dest staging : Path) (count : Nat) (start : Path) : Disk Unit := do
  let target ← targetOf dest start
  if (← look fun fs => lstat fs target).isSome then do
    alter fun fs => rename fs target (staging ++ [previous count])
    alter fun fs => rename fs (tree ++ start) target
  else alter fun fs => rename fs (tree ++ start) target

def moveAll (tree dest staging : Path) : Nat → List Path → Disk Unit
  | _, [] => return ()
  | count, start :: rest => do
      moveIn tree dest staging count start
      moveAll tree dest staging (count + 1) rest

/-- `sorted(dir_modes, reverse=True)`, with the modes. -/
def sortedModes (modes : PyDict Path Nat) : List (Path × Nat) :=
  modes.mergeSort fun first second => decide (shown second.1 ≤ shown first.1)

def install (tree dest staging : Path) (prefixes : List Path) (modes : PyDict Path Nat) :
    Disk Unit := do
  checkDirs tree prefixes
  checkAllLinks tree prefixes
  chmods tree (sortedModes modes)
  moveAll tree dest staging 0 prefixes

end Catena.Fetch

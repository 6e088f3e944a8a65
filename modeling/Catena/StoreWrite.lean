import Catena.ResticKey

/-!
# Writing the store file, byte by byte

`dump` of `helpers/onbox_config.py` and `_save_store` of
`scripts/catena-restic-key.py`.  Both fill a temporary sibling with one
`os.write` and rename it over the store, and neither looks at the number of
bytes that the call answers.  What Python's `json` reads and prints is left
open as a `JsonBytes` value, and what the operating system does with the calls
of one run is a `Calls` value.
-/

namespace Catena.StoreWrite

abbrev Bytes := List UInt8

/-- `json.loads(p.read_text())`, and `json.dumps(doc, indent=2,
sort_keys=True).encode()`. -/
structure JsonBytes where
  loads : Bytes → Except PyError Json
  dumps : Json → Except PyError Bytes

/-- The store file and its temporary sibling, where they are. -/
structure Disk where
  store : Option Bytes
  temp : Option Bytes

/-- Whether each call of a run goes through.  A write raises, or takes some
of the bytes it is given and answers their number. -/
structure Calls where
  makesDirectory : Bool
  reads : Bool
  opens : Bool
  writes : Option Nat
  closes : Bool
  replaces : Bool
  chmods : Bool

abbrev DiskRun := ExceptT PyError (StateM Disk)

/-- The run on a disk: how it ends and the disk it leaves. -/
def exec {α : Type} (program : DiskRun α) (disk : Disk) : Except PyError α × Disk :=
  program.run disk

/-- A value computed without a call. -/
def lift {α : Type} (value : Except PyError α) : DiskRun α :=
  ExceptT.mk (pure value)

/-- A call that does what it is asked for, or raises and does nothing. -/
def call (goes : Bool) (effect : Disk → Disk) : DiskRun Unit :=
  if goes then modify effect else throw .osError

/-- `os.open` with `O_CREAT | O_TRUNC`. -/
def openTemp (calls : Calls) : DiskRun Unit :=
  call calls.opens fun disk => { disk with temp := some [] }

/-- `os.write`, which answers the number of bytes it took. -/
def write (calls : Calls) (payload : Bytes) : DiskRun Nat :=
  match calls.writes with
  | none => throw .osError
  | some count => do
      modify fun disk =>
        { disk with temp := disk.temp.map (· ++ payload.take count) }
      return min count payload.length

def closeTemp (calls : Calls) : DiskRun Unit :=
  call calls.closes id

/-- `os.replace` of the temporary file over the store. -/
def replaceStore (calls : Calls) : DiskRun Unit :=
  call calls.replaces fun disk => ⟨disk.temp, none⟩

def chmodStore (calls : Calls) : DiskRun Unit :=
  call calls.chmods id

/-- The bytes of the store file, if it exists. -/
def readStore (calls : Calls) : DiskRun (Option Bytes) := do
  call calls.reads id
  return (← get).store

/-- The document a file holds. -/
def parsed (json : JsonBytes) (file : Option Bytes) :
    Except PyError (Option Json) :=
  file.mapM json.loads

/-- The end of both writers, from the opening of the temporary file on. -/
def writeOver (calls : Calls) (payload : Except PyError Bytes) : DiskRun Unit := do
  openTemp calls
  try
    let bytes ← lift payload
    let _ ← write calls bytes
  finally
    closeTemp calls
  replaceStore calls
  chmodStore calls

/-- `onbox_config.dump`, which prints the document before it opens the
temporary file. -/
def dump (json : JsonBytes) (calls : Calls) (store : Store) : DiskRun Unit := do
  call calls.makesDirectory id
  let bytes ← readStore calls
  let file ← lift (parsed json bytes)
  let document ← lift (Store.dump store file)
  let payload ← lift (json.dumps document)
  writeOver calls (.ok payload)

/-- `_save_store`, which prints the document into the call of `os.write`. -/
def saveStore (json : JsonBytes) (calls : Calls) (store : Store) : DiskRun Unit := do
  let bytes ← readStore calls
  let file ← lift (parsed json bytes)
  let document ← lift (ResticKey.savedDocument store file)
  writeOver calls (json.dumps document)

/-- The new document of `dump`, in full. -/
def dumpedBytes (json : JsonBytes) (store : Store) (file : Option Bytes) :
    Except PyError Bytes := do
  let document ← Store.dump store (← parsed json file)
  json.dumps document

/-- The new document of `_save_store`, in full. -/
def savedBytes (json : JsonBytes) (store : Store) (file : Option Bytes) :
    Except PyError Bytes := do
  let document ← ResticKey.savedDocument store (← parsed json file)
  json.dumps document

/-- The store file holds what it held before, or the new document in full. -/
def Whole (document : Except PyError Bytes) (before after : Option Bytes) : Prop :=
  after = before ∨ ∃ bytes, document = .ok bytes ∧ after = some bytes

/-- The write takes only a part of the document, every later call up to the
rename goes through, and the part is not what the file held anyway. -/
def Calls.CutsShort (calls : Calls) (before : Option Bytes) (bytes : Bytes) : Prop :=
  calls.opens ∧ calls.closes ∧ calls.replaces ∧
    ∃ count, calls.writes = some count ∧ count < bytes.length ∧
      before ≠ some (bytes.take count)

section Runs

variable {α β : Type} (disk : Disk)

theorem exec_call_bind (goes : Bool) (effect : Disk → Disk) (next : Unit → DiskRun β) :
    exec (call goes effect >>= next) disk =
      if goes then exec (next ()) (effect disk) else (.error .osError, disk) := by
  cases goes <;> rfl

theorem exec_lift_bind (value : Except PyError α) (next : α → DiskRun β) :
    exec (lift value >>= next) disk =
      match value with
      | .ok result => exec (next result) disk
      | .error failure => (.error failure, disk) := by
  cases value <;> rfl

theorem exec_readStore_bind (calls : Calls) (next : Option Bytes → DiskRun β) :
    exec (readStore calls >>= next) disk =
      if calls.reads then exec (next disk.store) disk else (.error .osError, disk) := by
  unfold readStore call
  cases calls.reads <;> rfl

end Runs

variable (json : JsonBytes) (calls : Calls) (store : Store) (disk : Disk)

/-- The store file after `writeOver`. -/
theorem writeOver_store (payload : Except PyError Bytes) :
    (exec (writeOver calls payload) disk).2.store =
      if calls.opens ∧ calls.closes ∧ calls.replaces then
        match payload, calls.writes with
        | .ok bytes, some count => some (bytes.take count)
        | _, _ => disk.store
      else disk.store := by
  obtain ⟨makes, reads, opens, writes, closes, replaces, chmods⟩ := calls
  cases opens <;> cases closes <;> cases replaces <;> cases chmods <;>
    cases payload <;> cases writes <;> rfl

theorem writeOver_error_store (failure : PyError) :
    (exec (writeOver calls (.error failure)) disk).2.store = disk.store := by
  rw [writeOver_store]
  exact ite_self _

/-- `dump` leaves the store where the run fails before the temporary file. -/
theorem dump_store :
    (exec (dump json calls store) disk).2.store =
      if calls.makesDirectory ∧ calls.reads then
        (exec (writeOver calls (dumpedBytes json store disk.store)) disk).2.store
      else disk.store := by
  unfold dump dumpedBytes
  rw [exec_call_bind]
  cases makes : calls.makesDirectory with
  | false => simp
  | true =>
      cases reads : calls.reads with
      | false => simp [exec_readStore_bind, reads]
      | true =>
          simp only [if_true, id, exec_readStore_bind, reads, exec_lift_bind, and_self]
          cases read : parsed json disk.store with
          | error failure => exact (writeOver_error_store calls disk failure).symm
          | ok file =>
              simp only [bind, Except.bind]
              cases made : Store.dump store file with
              | error failure => exact (writeOver_error_store calls disk failure).symm
              | ok document =>
                  dsimp only
                  cases printed : json.dumps document with
                  | error failure =>
                      exact (writeOver_error_store calls disk failure).symm
                  | ok payload => rfl

theorem saveStore_store :
    (exec (saveStore json calls store) disk).2.store =
      if calls.reads then
        (exec (writeOver calls (savedBytes json store disk.store)) disk).2.store
      else disk.store := by
  unfold saveStore savedBytes
  rw [exec_readStore_bind]
  cases reads : calls.reads with
  | false => rfl
  | true =>
      simp only [if_true, exec_lift_bind]
      cases read : parsed json disk.store with
      | error failure => exact (writeOver_error_store calls disk failure).symm
      | ok file =>
          simp only [bind, Except.bind]
          cases made : ResticKey.savedDocument store file with
          | error failure => exact (writeOver_error_store calls disk failure).symm
          | ok document => rfl

/-- The rename puts a whole document in place unless the write was cut
short. -/
theorem writeOver_whole_iff (payload : Except PyError Bytes) :
    Whole payload disk.store (exec (writeOver calls payload) disk).2.store ↔
      ¬∃ bytes, payload = .ok bytes ∧ calls.CutsShort disk.store bytes := by
  rw [writeOver_store]
  by_cases goes : calls.opens ∧ calls.closes ∧ calls.replaces
  · rw [if_pos goes]
    cases payload with
    | error failure => simp [Whole]
    | ok bytes =>
        cases writes : calls.writes with
        | none => simp [Whole, Calls.CutsShort, writes]
        | some count =>
            have whole : bytes.take count = bytes ↔ ¬count < bytes.length := by
              constructor
              · intro same
                have lengths := congrArg List.length same
                rw [List.length_take] at lengths
                omega
              · intro taken
                exact List.take_of_length_le (Nat.le_of_not_lt taken)
            simp only [Whole, Except.ok.injEq, Option.some.injEq, exists_eq_left',
              whole, Calls.CutsShort, goes, writes, true_and]
            rw [not_and, not_not, or_iff_not_imp_right, not_not,
              eq_comm (a := disk.store)]
  · rw [if_neg goes]
    constructor
    · rintro - ⟨bytes, -, cut⟩
      exact goes ⟨cut.1, cut.2.1, cut.2.2.1⟩
    · intro _
      exact .inl rfl

/-- After either writer the store file holds its previous bytes or the new
document in full, unless the one write was cut short and renamed all the
same. -/
theorem store_write_whole_iff :
    (Whole (dumpedBytes json store disk.store) disk.store
        (exec (dump json calls store) disk).2.store ↔
      ¬(calls.makesDirectory ∧ calls.reads ∧
        ∃ bytes, dumpedBytes json store disk.store = .ok bytes ∧
          calls.CutsShort disk.store bytes)) ∧
    (Whole (savedBytes json store disk.store) disk.store
        (exec (saveStore json calls store) disk).2.store ↔
      ¬(calls.reads ∧ ∃ bytes, savedBytes json store disk.store = .ok bytes ∧
        calls.CutsShort disk.store bytes)) := by
  constructor
  · rw [dump_store, ← and_assoc]
    by_cases reached : calls.makesDirectory ∧ calls.reads
    · rw [if_pos reached, writeOver_whole_iff]
      simp only [reached, true_and, and_self]
    · rw [if_neg reached]
      simp only [reached, Whole, true_or, false_and, not_false_eq_true]
  · rw [saveStore_store]
    by_cases reached : calls.reads
    · rw [if_pos reached, writeOver_whole_iff]
      simp only [reached, true_and]
    · rw [if_neg reached]
      simp [reached, Whole]

/-- Where every call does all it is asked for, `dump` leaves a file that reads
back as the document of `Store.dump`. -/
theorem dump_reads_back {file : Option Json} {document : Json} {bytes : Bytes}
    {count : Nat} (read : parsed json disk.store = .ok file)
    (made : Store.dump store file = .ok document)
    (printed : json.dumps document = .ok bytes)
    (readable : json.loads bytes = .ok document)
    (reached : calls.makesDirectory ∧ calls.reads)
    (renamed : calls.opens ∧ calls.closes ∧ calls.replaces)
    (taken : calls.writes = some count) (full : bytes.length ≤ count) :
    parsed json (exec (dump json calls store) disk).2.store = .ok (some document) := by
  have dumped : dumpedBytes json store disk.store = .ok bytes := by
    simp only [dumpedBytes, read, bind, Except.bind, made, printed]
  rw [dump_store, if_pos reached, writeOver_store, if_pos renamed, dumped, taken]
  simp only [List.take_of_length_le full]
  simp only [parsed, Option.mapM_some, readable]
  rfl

/-- The document with one secret, as `json` prints it. -/
def oneSecret (value : String) : Bytes :=
  ("\x7b\n  \"config\": \x7b\x7d,\n  \"secrets\": \x7b\n" ++
    "    \"smtp_password\": \"" ++ value ++ "\"\n  \x7d\n\x7d").toUTF8.toList

/-- `json` on documents with that one secret. -/
def oneSecretJson : JsonBytes where
  loads bytes :=
    if bytes = oneSecret "a" then
      .ok (.obj [("config", .obj []), ("secrets", .obj [("smtp_password", .str "a")])])
    else .error (.valueError "not JSON")
  dumps
    | .obj [("config", .obj []), ("secrets", .obj [("smtp_password", .str value)])] =>
        .ok (oneSecret value)
    | _ => .error .typeError

/-- The disk has room for 20 bytes more. -/
def fullDisk : Calls where
  makesDirectory := true
  reads := true
  opens := true
  writes := some 20
  closes := true
  replaces := true
  chmods := true

theorem full_disk_truncates_store :
    let before := some (oneSecret "a")
    let store : Store := ⟨[("smtp_password", .str "b")], []⟩
    let dumped := exec (dump oneSecretJson fullDisk store) ⟨before, none⟩
    let saved := exec (saveStore oneSecretJson fullDisk store) ⟨before, none⟩
    dumped.1 = .ok () ∧ dumped.2.store = some ((oneSecret "b").take 20) ∧
      ¬Whole (dumpedBytes oneSecretJson store before) before dumped.2.store ∧
      saved.1 = .ok () ∧ saved.2.store = some ((oneSecret "b").take 20) ∧
      ¬Whole (savedBytes oneSecretJson store before) before saved.2.store := by
  intro before store dumped saved
  have read : parsed oneSecretJson before = .ok (some (.obj
      [("config", .obj []), ("secrets", .obj [("smtp_password", .str "a")])])) := by
    simp [parsed, before, oneSecretJson]
  have dumpedRun : dumped = (.ok (), ⟨some ((oneSecret "b").take 20), none⟩) := by
    simp only [dumped, dump, exec_call_bind, exec_readStore_bind, exec_lift_bind,
      fullDisk, read, if_true, id]
    rfl
  have savedRun : saved = (.ok (), ⟨some ((oneSecret "b").take 20), none⟩) := by
    simp only [saved, saveStore, exec_readStore_bind, exec_lift_bind, fullDisk, read,
      if_true]
    rfl
  have dumpedDocument :
      dumpedBytes oneSecretJson store before = .ok (oneSecret "b") := by
    unfold dumpedBytes
    rw [read]
    rfl
  have savedDocument :
      savedBytes oneSecretJson store before = .ok (oneSecret "b") := by
    unfold savedBytes
    rw [read]
    rfl
  have torn : ¬Whole (.ok (oneSecret "b")) before (some ((oneSecret "b").take 20)) := by
    rintro (kept | ⟨bytes, document, full⟩)
    · exact absurd kept (by decide +kernel)
    · cases document
      exact absurd full (by decide +kernel)
  rw [dumpedRun, savedRun, dumpedDocument, savedDocument]
  exact ⟨rfl, rfl, torn, rfl, rfl, torn⟩

end Catena.StoreWrite

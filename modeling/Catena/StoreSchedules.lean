import Catena.StorePrograms

/-!
# Schedules of the store's writers

Any number of runs of the settings API, the converge loader and the restic
password program, interleaved operation by operation on one host.  The store
lock is a `flock`: at most one run holds it, a run that finds it taken waits or
gives up, and a run that ends lets go of it.

A key that one run set keeps the value it set as long as no run reads the store
between the read and the write of another, unless both take the lock.
-/

namespace Catena.StoreWriters

open Catena.ResticKey (Op Res HostProg Host Choice JsonFile perform)

variable {ι : Type} [DecidableEq ι]

structure Writer where
  phase : Phase
  program : HostProg Answer

def Writer.answer (writer : Writer) : Option Answer :=
  match writer.program with
  | .done (.ok answer) => some answer
  | _ => none

structure System (ι : Type) where
  host : Host
  holder : Option ι
  writers : ι → Writer

/-- A run that ends has written its document or has none to write. -/
def Phase.leave : Phase → Phase
  | .wrote file document => .wrote file document
  | .astray => .astray
  | _ => .over

/-- The lock, given up if the run holds it. -/
def release (i : ι) (holder : Option ι) : Option ι :=
  if holder = some i then none else holder

namespace System

/-- Who holds the lock after an operation, where it does not have to wait. -/
def holderAfter (system : System ι) (i : ι) (choice : Choice) : Op → Option (Option ι)
  | .lockStore =>
      if choice.fails then some system.holder
      else if system.holder = none then some (some i) else none
  | .unlockStore =>
      if choice.fails then some system.holder
      else some (release i system.holder)
  | _ => some system.holder

/-- A run performs its next operation. -/
def attempt (reading : String → String) (system : System ι) (i : ι)
    (choice : Choice) : System ι :=
  match (system.writers i).program with
  | .done _ => system
  | .step op next =>
      match system.holderAfter i choice op with
      | none => system
      | some holder =>
          let (host, answer) := perform reading system.host choice op
          ⟨host, holder, Function.update system.writers i
            ⟨(system.writers i).phase.after op answer, next answer⟩⟩

/-- A run that is at its end exits. -/
def settle (system : System ι) (i : ι) : System ι :=
  match (system.writers i).program with
  | .done outcome =>
      ⟨system.host, release i system.holder, Function.update system.writers i
        ⟨(system.writers i).phase.leave, .done outcome⟩⟩
  | .step _ _ => system

def step (reading : String → String) (system : System ι) (turn : ι × Choice) :
    System ι :=
  (system.attempt reading turn.1 turn.2).settle turn.1

/-- The system after a schedule. -/
def follow (reading : String → String) (system : System ι)
    (schedule : List (ι × Choice)) : System ι :=
  schedule.foldl (step reading) system

def phases (system : System ι) (i : ι) : Phase :=
  (system.writers i).phase

/-- The runs before their first operation. -/
def begin (py : Builtins) (runs : ι → Run) (host : Host) : System ι where
  host := host
  holder := none
  writers i := ⟨(runs i).begin, (runs i).program py⟩

end System

/-! ### What one operation does to the store -/

/-- What an operation does to the store and its sibling, and to the phase of
the run that performs it. -/
inductive Moves (before after : Host) : Phase → Phase → Prop
  | stay {phase : Phase} (store : after.store = before.store)
      (sibling : after.storeTmp = before.storeTmp) : Moves before after phase phase
  | lock (store : after.store = before.store)
      (sibling : after.storeTmp = before.storeTmp) : Moves before after .start .ready
  | leave {phase : Phase} (store : after.store = before.store)
      (sibling : after.storeTmp = before.storeTmp) :
      Moves before after phase phase.leave
  | read (store : after.store = before.store)
      (sibling : after.storeTmp = before.storeTmp) :
      Moves before after .ready (.seen before.store.join)
  | redraft {file : Option Json} (store : after.store = before.store) :
      Moves before after (.seen file) (.seen file)
  | draft {file : Option Json} {document : Json}
      (store : after.store = before.store)
      (sibling : after.storeTmp = some (some document)) :
      Moves before after (.seen file) (.sibling file document)
  | replace {file : Option Json} {document : Json}
      (store : after.store = before.storeTmp) :
      Moves before after (.sibling file document) (.wrote file document)

theorem passwd_store (reading : String → String) (host : Host)
    (name newName : Nat) :
    (host.passwd reading name newName).1.store = host.store ∧
      (host.passwd reading name newName).1.storeTmp = host.storeTmp := by
  unfold Host.passwd
  split
  · split <;> exact ⟨rfl, rfl⟩
  · exact ⟨rfl, rfl⟩

theorem perform_of_isFree {reading : String → String} {host : Host}
    {choice : Choice} {op : Op} (isFree : IsFree op = true) :
    (perform reading host choice op).1.store = host.store ∧
      (perform reading host choice op).1.storeTmp = host.storeTmp := by
  unfold perform
  split
  · exact ⟨rfl, rfl⟩
  · cases op with
    | keyPasswd env name newName =>
        simp only [ResticKey.act]
        split
        · exact passwd_store reading host name newName
        · exact ⟨rfl, rfl⟩
    | init env name =>
        simp only [ResticKey.act]
        split
        · exact ⟨rfl, rfl⟩
        · split <;> exact ⟨rfl, rfl⟩
    | openStoreTmp => cases isFree
    | writeStoreTmp document => cases isFree
    | replaceStore => cases isFree
    | _ => exact ⟨rfl, rfl⟩

theorem readStore_ok {reading : String → String} {host : Host} {choice : Choice}
    {file : Option Json}
    (read : (perform reading host choice .readStore).2 = .ok file) :
    file = host.store.join := by
  unfold perform at read
  split at read
  · cases read
  · simp only [ResticKey.act] at read
    cases stored : host.store with
    | none =>
        rw [stored] at read
        cases read
        rfl
    | some content =>
        rw [stored] at read
        cases content with
        | none => cases read
        | some document =>
            cases read
            rfl

/-- A run that keeps to the phases makes one of the moves. -/
theorem perform_moves {drafts : Option Json → Json → Prop}
    (reading : String → String) (host : Host) (choice : Choice) {phase : Phase}
    {op : Op}
    (onTrack : OnTrack drafts
      (phase.after op (perform reading host choice op).2)) :
    Moves host (perform reading host choice op).1 phase
      (phase.after op (perform reading host choice op).2) := by
  by_cases isFree : IsFree op = true
  · rw [Phase.after_of_isFree isFree]
    have same := @perform_of_isFree reading host choice op isFree
    exact .stay same.1 same.2
  · cases op with
    | lockStore =>
        have same : (perform reading host choice .lockStore).1 = host := by
          unfold perform
          split <;> rfl
        rw [same]
        cases phase with
        | start =>
            cases (perform reading host choice .lockStore).2 with
            | ok value => exact .lock rfl rfl
            | error failure => exact .leave rfl rfl
        | _ => exact onTrack.elim
    | unlockStore =>
        have same : (perform reading host choice .unlockStore).1 = host := by
          unfold perform
          split <;> rfl
        rw [same]
        cases phase <;> exact .leave rfl rfl
    | readStore =>
        have same : (perform reading host choice .readStore).1 = host := by
          unfold perform
          split <;> rfl
        rw [same]
        cases phase with
        | ready =>
            cases read : (perform reading host choice .readStore).2 with
            | ok file =>
                have found := readStore_ok read
                subst found
                exact .read rfl rfl
            | error failure => exact .leave rfl rfl
        | seen file => exact .stay rfl rfl
        | _ => exact onTrack.elim
    | openStoreTmp =>
        have same : (perform reading host choice .openStoreTmp).1.store =
            host.store := by
          unfold perform
          split <;> rfl
        cases phase with
        | seen file => exact .redraft same
        | _ => exact onTrack.elim
    | writeStoreTmp document =>
        cases phase with
        | seen file =>
            unfold perform
            split
            · exact .redraft rfl
            · exact .draft rfl rfl
        | _ => exact onTrack.elim
    | replaceStore =>
        cases phase with
        | sibling file document =>
            unfold perform
            split
            · exact .leave rfl rfl
            · simp only [ResticKey.act]
              cases tmp : host.storeTmp with
              | none => exact .leave rfl rfl
              | some content => exact .replace (by rw [tmp])
        | _ => exact onTrack.elim
    | _ => exact absurd rfl isFree

/-! ### The store between the writers -/

theorem valueIn_draft {py : Builtins} {run : Run} {file : Option Json}
    {document : Json} (drafted : run.Drafts py file document) :
    ∃ store edited, Store.load file = .ok store ∧ run.Edits py store edited ∧
      ∀ part key, valueIn (some document) part key =
        PyDict.get (Part.of part edited) key := by
  obtain ⟨store, edited, again, loaded, edits, dumped⟩ := drafted
  refine ⟨store, edited, loaded, edits, ?_⟩
  intro part key
  have distinct := Run.edits_distinctKeys (Store.load_distinctKeys loaded) edits
  simp only [valueIn, Store.load_dump distinct dumped]

/-- The run has read the file, and has not written yet. -/
def Between (phase : Phase) (file : Option Json) : Prop :=
  match phase with
  | .seen seen => seen = file
  | .sibling seen _ => seen = file
  | _ => False

/-- The run wrote another value of the key than it read. -/
def Changed (phase : Phase) (part : Part) (key : String) : Prop :=
  match phase with
  | .wrote file document => valueIn (some document) part key ≠ valueIn file part key
  | _ => False

/-- One run at most is between its read and its write; the store is the one it
read, and the sibling the one it wrote. -/
structure Aligned (host : Host) (phases : ι → Phase) : Prop where
  seen : ∀ i file, Between (phases i) file → host.store.join = file
  alone : ∀ i j file other, Between (phases i) file → Between (phases j) other →
    i = j
  sibling : ∀ i file document, phases i = .sibling file document →
    host.storeTmp = some (some document)

/-- A key no run changed has its first value, and a key no other run changed has
the value of a run that wrote. -/
structure Current (start : Option Json) (host : Host) (phases : ι → Phase) :
    Prop where
  unset : ∀ part key, (∀ j, ¬ Changed (phases j) part key) →
    valueIn host.store.join part key = valueIn start part key
  set : ∀ i file document part key, phases i = .wrote file document →
    (∀ j, j ≠ i → ¬ Changed (phases j) part key) →
      valueIn host.store.join part key = valueIn (some document) part key

section Moves

variable {start : Option Json} {before after : Host} {phases : ι → Phase}
  {i : ι} {phase : Phase}

theorem between_of_sibling {phase : Phase} {file : Option Json} {document : Json}
    (drafted : phase = .sibling file document) : Between phase file := by
  rw [drafted]
  rfl

/-- A move that leaves the store alone and brings no run between its read and
its write. -/
theorem Aligned.keep (aligned : Aligned before phases)
    (store : after.store = before.store)
    (tmp : after.storeTmp = before.storeTmp)
    (between : ∀ file, Between phase file → phase = phases i) :
    Aligned after (Function.update phases i phase) := by
  have was (j : ι) (file : Option Json)
      (inside : Between (Function.update phases i phase j) file) :
      Function.update phases i phase j = phases j := by
    by_cases same : j = i
    · subst same
      rw [Function.update_self] at inside ⊢
      exact between file inside
    · exact Function.update_of_ne same phase phases
  constructor
  · intro j file inside
    rw [was j file inside] at inside
    rw [store]
    exact aligned.seen j file inside
  · intro j k file other inside otherInside
    rw [was j file inside] at inside
    rw [was k other otherInside] at otherInside
    exact aligned.alone j k file other inside otherInside
  · intro j file document drafted
    rw [was j file (between_of_sibling drafted)] at drafted
    rw [tmp]
    exact aligned.sibling j file document drafted

/-- A move while no other run is between its read and its write. -/
theorem aligned_of_alone
    (alone : ∀ j, j ≠ i → ∀ file, ¬ Between (phases j) file)
    (seen : ∀ file, Between phase file → after.store.join = file)
    (sibling : ∀ file document, phase = .sibling file document →
      after.storeTmp = some (some document)) :
    Aligned after (Function.update phases i phase) := by
  have only (j : ι) (file : Option Json)
      (inside : Between (Function.update phases i phase j) file) : j = i := by
    by_contra ne
    rw [Function.update_of_ne ne] at inside
    exact alone j ne file inside
  constructor
  · intro j file inside
    have same := only j file inside
    subst same
    rw [Function.update_self] at inside
    exact seen file inside
  · intro j k file other inside otherInside
    rw [only j file inside, only k other otherInside]
  · intro j file document drafted
    have same := only j file (between_of_sibling drafted)
    subst same
    rw [Function.update_self] at drafted
    exact sibling file document drafted

theorem Current.keep (current : Current start before phases)
    (store : after.store = before.store)
    (wrote : ∀ file document,
      phase = .wrote file document ↔ phases i = .wrote file document) :
    Current start after (Function.update phases i phase) := by
  have was (j : ι) (file : Option Json) (document : Json) :
      Function.update phases i phase j = .wrote file document ↔
        phases j = .wrote file document := by
    by_cases same : j = i
    · subst same
      rw [Function.update_self]
      exact wrote file document
    · rw [Function.update_of_ne same]
  have changes (j : ι) (part : Part) (key : String)
      (changed : Changed (phases j) part key) :
      Changed (Function.update phases i phase j) part key := by
    cases written : phases j with
    | wrote file document =>
        rw [(was j file document).mpr written]
        rwa [written] at changed
    | _ =>
        rw [written] at changed
        exact changed.elim
  constructor
  · intro part key unchanged
    rw [store]
    apply current.unset part key
    intro j changed
    exact unchanged j (changes j part key changed)
  · intro j file document part key written unchanged
    rw [store]
    apply current.set j file document part key ((was j file document).mp written)
    intro other ne changed
    exact unchanged other ne (changes other part key changed)

theorem Current.replace {file : Option Json} {document : Json}
    (current : Current start before phases) (read : before.store.join = file)
    (drafted : phases i = .sibling file document)
    (store : after.store = some (some document)) :
    Current start after (Function.update phases i (.wrote file document)) := by
  have unchangedBefore (part : Part) (key : String) : ¬ Changed (phases i) part key := by
    rw [drafted]
    exact not_false
  have others (j : ι) (ne : j ≠ i) :
      Function.update phases i (.wrote file document) j = phases j :=
    Function.update_of_ne ne _ phases
  have replaced : after.store.join = some document := by
    rw [store]
    rfl
  -- Where the document has the value of the file it replaces, the run may as
  -- well not have written.
  have sameValue (part : Part) (key : String)
      (unchanged : ¬ Changed (Function.update phases i (.wrote file document) i)
        part key) :
      valueIn after.store.join part key = valueIn before.store.join part key := by
    rw [Function.update_self] at unchanged
    rw [replaced, read]
    exact not_not.mp unchanged
  constructor
  · intro part key unchanged
    rw [sameValue part key (unchanged i)]
    apply current.unset part key
    intro j
    by_cases same : j = i
    · rw [same]
      exact unchangedBefore part key
    · rw [← others j same]
      exact unchanged j
  · intro j otherFile otherDocument part key written unchanged
    by_cases same : j = i
    · subst same
      rw [Function.update_self] at written
      cases written
      rw [replaced]
    · rw [others j same] at written
      rw [sameValue part key (unchanged i (Ne.symm same))]
      apply current.set j otherFile otherDocument part key written
      intro k ne
      by_cases last : k = i
      · rw [last]
        exact unchangedBefore part key
      · rw [← others k last]
        exact unchanged k ne

theorem Phase.leave_not_between (phase : Phase) (file : Option Json) :
    ¬ Between phase.leave file := by
  cases phase <;> exact not_false

theorem Phase.leave_eq_wrote (phase : Phase) (file : Option Json)
    (document : Json) :
    phase.leave = .wrote file document ↔ phase = .wrote file document := by
  cases phase <;> simp [Phase.leave]

/-- The moves keep the store current, if a run reads only while no other is
between its read and its write. -/
theorem Moves.keep (moves : Moves before after (phases i) phase)
    (aligned : Aligned before phases) (current : Current start before phases)
    (orderly : phases i = .ready → ∀ file, phase = .seen file →
      ∀ j, j ≠ i → ∀ other, ¬ Between (phases j) other) :
    Aligned after (Function.update phases i phase) ∧
      Current start after (Function.update phases i phase) := by
  have othersOut {file : Option Json} (inside : Between (phases i) file) :
      ∀ j, j ≠ i → ∀ other, ¬ Between (phases j) other := by
    intro j ne other otherInside
    exact ne (aligned.alone j i other file otherInside inside)
  generalize was : phases i = last at moves
  cases moves with
  | stay store tmp =>
      refine ⟨aligned.keep store tmp ?_, current.keep store ?_⟩
      · intro file _
        exact was.symm
      · intro file document
        rw [was]
  | lock store tmp =>
      refine ⟨aligned.keep store tmp ?_, current.keep store ?_⟩
      · intro file inside
        exact inside.elim
      · intro file document
        simp [was]
  | leave store tmp =>
      refine ⟨aligned.keep store tmp ?_, current.keep store ?_⟩
      · intro file inside
        exact absurd inside (Phase.leave_not_between last file)
      · intro file document
        rw [was]
        exact Phase.leave_eq_wrote last file document
  | read store tmp =>
      refine ⟨aligned_of_alone (orderly was _ rfl) ?_ ?_, current.keep store ?_⟩
      · intro file inside
        rw [store]
        exact inside
      · intro file document drafted
        cases drafted
      · intro file document
        simp [was]
  | redraft store =>
      rename_i file
      have inside : Between (phases i) file := by
        rw [was]
        rfl
      refine ⟨aligned_of_alone (othersOut inside) ?_ ?_, current.keep store ?_⟩
      · rintro _ rfl
        rw [store]
        exact aligned.seen i file inside
      · intro _ document drafted
        cases drafted
      · intro _ document
        simp [was]
  | draft store tmp =>
      rename_i file document
      have inside : Between (phases i) file := by
        rw [was]
        rfl
      refine ⟨aligned_of_alone (othersOut inside) ?_ ?_, current.keep store ?_⟩
      · rintro _ rfl
        rw [store]
        exact aligned.seen i file inside
      · intro _ _ drafted
        cases drafted
        exact tmp
      · intro _ _
        simp [was]
  | replace store =>
      rename_i file document
      have inside : Between (phases i) file := between_of_sibling was
      refine ⟨aligned_of_alone (othersOut inside) ?_ ?_,
        current.replace (aligned.seen i file inside) was ?_⟩
      · intro _ outside
        exact outside.elim
      · intro _ _ drafted
        cases drafted
      · rw [store]
        exact aligned.sibling i file document was

end Moves

/-! ### Every schedule -/

/-- The run holds the lock, if it takes it at all. -/
def InLock : Phase → Prop
  | .ready => True
  | .seen _ => True
  | .sibling _ _ => True
  | _ => False

theorem inLock_of_between {phase : Phase} {file : Option Json}
    (inside : Between phase file) : InLock phase := by
  cases phase <;> trivial

theorem not_inLock_leave (phase : Phase) : ¬ InLock phase.leave := by
  cases phase <;> exact not_false

theorem release_other {i j : ι} {holder : Option ι} (ne : j ≠ i)
    (held : holder = some j) : release i holder = some j := by
  have other : holder ≠ some i := by
    rw [held]
    exact fun same => ne (Option.some.inj same)
  rw [release, if_neg other, held]

/-- The lock is entered by taking it. -/
theorem inLock_after {phase : Phase} {op : Op} {answer : Except PyError (Res op)}
    (inside : InLock (phase.after op answer)) :
    InLock phase ∨ op = .lockStore := by
  by_cases isFree : IsFree op = true
  · rw [Phase.after_of_isFree isFree] at inside
    exact Or.inl inside
  · cases op with
    | lockStore => exact Or.inr rfl
    | unlockStore => cases phase <;> exact inside.elim
    | readStore =>
        cases phase with
        | ready => exact Or.inl trivial
        | seen file => exact Or.inl trivial
        | _ => exact inside.elim
    | openStoreTmp =>
        cases phase with
        | seen file => exact Or.inl trivial
        | _ => exact inside.elim
    | writeStoreTmp document =>
        cases phase with
        | seen file => exact Or.inl trivial
        | _ => exact inside.elim
    | replaceStore =>
        cases phase with
        | sibling file document => exact Or.inl trivial
        | _ => exact inside.elim
    | _ => exact absurd rfl isFree

section Schedules

variable (py : Builtins) (runs : ι → Run)

/-- What holds of the runs, the lock and the store between any two steps. -/
structure Invariant (start : Option Json) (system : System ι) : Prop where
  keeps : ∀ i, Keeps ((runs i).Drafts py) ((runs i).Answered py) (system.writers i).program
    (system.phases i)
  locked : ∀ i, (runs i).locks = true → InLock (system.phases i) →
    system.holder = some i
  aligned : Aligned system.host system.phases
  current : Current start system.host system.phases

/-- A run does not read the store between the read and the write of another,
unless both take the lock. -/
def Orderly (system : System ι) (i : ι) : Prop :=
  system.phases i = .ready → ∀ j, j ≠ i → ∀ file,
    Between (system.phases j) file →
      (runs i).locks = true ∧ (runs j).locks = true

variable {py runs} {start : Option Json} {system : System ι} {i : ι}

theorem phases_update (host : Host) (holder : Option ι) (writers : ι → Writer)
    (i : ι) (writer : Writer) :
    System.phases ⟨host, holder, Function.update writers i writer⟩ =
      Function.update (fun j => (writers j).phase) i writer.phase := by
  ext j
  by_cases same : j = i
  · subst same
    simp [System.phases]
  · simp [System.phases, same]

omit [DecidableEq ι] in
theorem Invariant.alone (invariant : Invariant py runs start system)
    (orderly : Orderly runs system i) (ready : system.phases i = .ready) :
    ∀ j, j ≠ i → ∀ file, ¬ Between (system.phases j) file := by
  intro j ne file inside
  obtain ⟨locks, otherLocks⟩ := orderly ready j ne file inside
  have own : system.holder = some i := by
    apply invariant.locked i locks
    rw [ready]
    trivial
  have other : system.holder = some j :=
    invariant.locked j otherLocks (inLock_of_between inside)
  rw [own] at other
  exact ne (Option.some.inj other).symm

/-- One run moves, and the others stay where they are. -/
theorem Invariant.update {host : Host} {holder : Option ι} {writer : Writer}
    (invariant : Invariant py runs start system)
    (keeps : Keeps ((runs i).Drafts py) ((runs i).Answered py) writer.program writer.phase)
    (locked : (runs i).locks = true → InLock writer.phase → holder = some i)
    (others : ∀ j, j ≠ i → system.holder = some j → holder = some j)
    (moves : Moves system.host host (system.phases i) writer.phase)
    (orderly : system.phases i = .ready → ∀ file, writer.phase = .seen file →
      ∀ j, j ≠ i → ∀ other, ¬ Between (system.phases j) other) :
    Invariant py runs start
      ⟨host, holder, Function.update system.writers i writer⟩ := by
  obtain ⟨aligned, current⟩ := moves.keep invariant.aligned invariant.current orderly
  have moved := phases_update host holder system.writers i writer
  constructor
  · intro j
    by_cases same : j = i
    · subst same
      simpa [System.phases] using keeps
    · simpa [System.phases, same] using invariant.keeps j
  · intro j locks inside
    by_cases same : j = i
    · subst same
      rw [moved, Function.update_self] at inside
      exact locked locks inside
    · rw [moved, Function.update_of_ne same] at inside
      exact others j same (invariant.locked j locks inside)
  · rw [moved]
    exact aligned
  · rw [moved]
    exact current

theorem others_hold {choice : Choice} {op : Op} {holder : Option ι}
    (granted : system.holderAfter i choice op = some holder) {j : ι} (ne : j ≠ i)
    (held : system.holder = some j) : holder = some j := by
  unfold System.holderAfter at granted
  split at granted
  · split at granted
    · rw [← Option.some.inj granted, held]
    · rw [held] at granted
      cases granted
  · split at granted
    · rw [← Option.some.inj granted, held]
    · rw [← Option.some.inj granted]
      exact release_other ne held
  · rw [← Option.some.inj granted, held]

/-- A run that is in the lock after a step held it before, or has taken it. -/
theorem Invariant.locked_after {reading : String → String}
    (invariant : Invariant py runs start system) {choice : Choice} {op : Op}
    {holder : Option ι} (granted : system.holderAfter i choice op = some holder)
    (locks : (runs i).locks = true)
    (inside : InLock ((system.phases i).after op
      (perform reading system.host choice op).2)) :
    holder = some i := by
  cases op with
  | lockStore =>
      simp only [System.holderAfter] at granted
      by_cases fails : choice.fails = true
      · have raised : (perform reading system.host choice .lockStore).2 =
            .error (ResticKey.failure .lockStore) := by
          simp only [perform, if_pos fails]
        rw [raised] at inside
        cases phase : system.phases i with
        | _ => rw [phase] at inside; exact inside.elim
      · rw [if_neg fails] at granted
        split at granted
        · exact (Option.some.inj granted).symm
        · cases granted
  | unlockStore =>
      cases phase : system.phases i with
      | _ => rw [phase] at inside; exact inside.elim
  | _ =>
      have before := (inLock_after inside).resolve_right (by simp)
      have held := invariant.locked i locks before
      rw [← Option.some.inj granted, held]

theorem Invariant.attempt (reading : String → String)
    (invariant : Invariant py runs start system)
    (orderly : Orderly runs system i) (choice : Choice) :
    Invariant py runs start (system.attempt reading i choice) := by
  unfold System.attempt
  split
  · exact invariant
  · rename_i op next program
    have kept := invariant.keeps i
    rw [program] at kept
    split
    · exact invariant
    · rename_i holder granted
      have stepped := kept.step (perform reading system.host choice op).2
      apply invariant.update stepped
      · exact invariant.locked_after granted
      · intro j ne held
        exact others_hold granted ne held
      · exact perform_moves reading system.host choice (Prog.Always.here stepped)
      · intro ready _ _
        exact invariant.alone orderly ready

theorem Invariant.settle (invariant : Invariant py runs start system) (i : ι) :
    Invariant py runs start (system.settle i) := by
  unfold System.settle
  split
  · rename_i outcome program
    have kept := invariant.keeps i
    rw [program] at kept
    have left : Keeps ((runs i).Drafts py) ((runs i).Answered py) (.done outcome)
        (system.phases i).leave := by
      cases phase : system.phases i with
      | wrote file document =>
          rw [phase] at kept
          exact kept
      | astray =>
          rw [phase] at kept
          exact kept
      | _ =>
          rw [phase] at kept
          refine ⟨trivial, fun value ended accepted => ?_⟩
          obtain ⟨file, document, wrote, -⟩ := kept.2 value ended accepted
          cases wrote
    apply invariant.update left
    · intro _ inside
      exact absurd inside (not_inLock_leave _)
    · intro j ne held
      exact release_other ne held
    · exact .leave rfl rfl
    · intro ready file
      rw [System.phases] at ready
      rw [ready]
      intro seen
      cases seen
  · exact invariant

theorem Invariant.step (reading : String → String)
    (invariant : Invariant py runs start system) {turn : ι × Choice}
    (orderly : Orderly runs system turn.1) :
    Invariant py runs start (system.step reading turn) :=
  (invariant.attempt reading orderly turn.2).settle turn.1

omit [DecidableEq ι] in
theorem Invariant.begin (host : Host) :
    Invariant py runs host.store.join (System.begin py runs host) := by
  have beginning (i : ι) : (System.begin py runs host).phases i = .start ∨
      (System.begin py runs host).phases i = .ready := by
    simp only [System.phases, System.begin, Run.begin]
    split
    · exact Or.inl rfl
    · exact Or.inr rfl
  have outside (i : ι) (file : Option Json) :
      ¬ Between ((System.begin py runs host).phases i) file := by
    rcases beginning i with first | first
    · rw [first]
      exact not_false
    · rw [first]
      exact not_false
  constructor
  · intro i
    exact (runs i).keeps
  · intro i locks inside
    simp only [System.phases, System.begin, Run.begin, locks, if_true] at inside
    exact inside.elim
  · constructor
    · intro i file inside
      exact absurd inside (outside i file)
    · intro i j file other inside
      exact absurd inside (outside i file)
    · intro i file document drafted
      exact absurd (between_of_sibling drafted) (outside i file)
  · constructor
    · intro part key _
      rfl
    · intro i file document part key wrote
      rcases beginning i with first | first
      · rw [first] at wrote
        cases wrote
      · rw [first] at wrote
        cases wrote

/-- Every step of the schedule is orderly in the state it starts from. -/
def AllOrderly (reading : String → String) (runs : ι → Run) :
    System ι → List (ι × Choice) → Prop
  | _, [] => True
  | system, turn :: rest =>
      Orderly runs system turn.1 ∧ AllOrderly reading runs (system.step reading turn) rest

theorem Invariant.follow (reading : String → String)
    (schedule : List (ι × Choice)) (invariant : Invariant py runs start system)
    (orderly : AllOrderly reading runs system schedule) :
    Invariant py runs start (system.follow reading schedule) := by
  induction schedule generalizing system with
  | nil => exact invariant
  | cons turn rest ih => exact ih (invariant.step reading orderly.1) orderly.2

/-- What the runs have set is in the store.  A run that answered that it wrote has written;
a run that wrote has made its edit of the store it read, and a key no other run changed
holds the value of that edit; and the new restic password that a reply tells of is there. -/
structure UpdatesKept (py : Builtins) (runs : ι → Run) (system : System ι) : Prop where
  wrote : ∀ i answer, (system.writers i).answer = some answer → answer.accepted = true →
    ∃ file document, system.phases i = .wrote file document
  edits : ∀ i file document, system.phases i = .wrote file document →
    ∃ store edited, Store.load file = .ok store ∧ (runs i).Edits py store edited ∧
      ∀ part key, (∀ j, j ≠ i → ¬ Changed (system.phases j) part key) →
        valueIn system.host.store.join part key = PyDict.get (Part.of part edited) key
  password : ∀ i fields reply password, runs i = .resticKey (.obj fields) →
    (system.writers i).answer = some (.reply reply) →
    newPassword py fields reply = some password →
    (∀ j, j ≠ i → ¬ Changed (system.phases j) .secrets "backup_restic_password") →
      valueIn system.host.store.join .secrets "backup_restic_password" = some (.str password)

omit [DecidableEq ι] in
theorem accepted_of_newPassword {fields : PyDict String Json} {reply : ResticKey.Reply}
    {password : String} (told : newPassword py fields reply = some password) :
    reply.accepted = true := by
  cases reply with
  | ok => rfl
  | minted _ => rfl
  | _ => cases told

omit [DecidableEq ι] in
theorem Invariant.answered (invariant : Invariant py runs start system) {i : ι}
    {answer : Answer} (ended : (system.writers i).answer = some answer)
    (accepted : answer.accepted = true) :
    ∃ file document, system.phases i = .wrote file document ∧
      (runs i).Reports py answer document := by
  have kept := invariant.keeps i
  unfold Writer.answer at ended
  split at ended
  · rename_i other program
    rw [program] at kept
    rw [← Option.some.inj ended] at accepted ⊢
    exact kept.2 other rfl accepted
  · cases ended

/-- No update of the store is lost in a schedule whose steps are orderly. -/
theorem orderly_keeps_updates (reading : String → String) (host : Host)
    (schedule : List (ι × Choice))
    (orderly : AllOrderly reading runs (System.begin py runs host) schedule) :
    UpdatesKept py runs ((System.begin py runs host).follow reading schedule) := by
  have invariant : Invariant py runs host.store.join
      ((System.begin py runs host).follow reading schedule) :=
    (Invariant.begin host).follow reading schedule orderly
  constructor
  · intro i answer ended accepted
    obtain ⟨file, document, wrote, -⟩ := invariant.answered ended accepted
    exact ⟨file, document, wrote⟩
  · intro i file document wrote
    have onTrack := Prog.Always.here (invariant.keeps i)
    rw [wrote] at onTrack
    obtain ⟨store, edited, loaded, edits, values⟩ := valueIn_draft onTrack
    refine ⟨store, edited, loaded, edits, ?_⟩
    intro part key unchanged
    rw [← values part key]
    exact invariant.current.set i file document part key wrote unchanged
  · intro i fields reply password isRestic ended told unchanged
    obtain ⟨file, document, wrote, reports⟩ :=
      invariant.answered ended (accepted_of_newPassword told)
    rw [isRestic] at reports
    obtain ⟨stored, toldAgain, holds⟩ := reports
    rw [told] at toldAgain
    rw [Option.some.inj toldAgain]
    rw [invariant.current.set i file document _ _ wrote unchanged]
    exact holds

end Schedules

/-! ### A run that takes no lock -/

/-- A password is generated while a setting is written. -/
def sampleRuns : Bool → Run
  | true => .settings [("op", .str "write"),
      ("config", .obj [("BASE_DOMAIN", .str "example.org")])]
  | false => .resticKey (.obj [("op", .str "generate")])

/-- A server without a store. -/
def emptyHost : Host where
  store := none
  storeTmp := none
  passFile := none
  heldFile := none
  temps := []
  nextTemp := 0
  destination := .nothing

def turns (i : Bool) (count : Nat) : List (Bool × Choice) :=
  List.replicate count (i, .ok)

/-- The password program reads the store, the setting is written, and the
password program goes on. -/
def overlapped : System Bool :=
  (System.begin Builtins.unused sampleRuns emptyHost).follow PyText.strip
    (turns false 1 ++ turns true 10 ++ turns false 7)

def wroteSetting (phase : Phase) : Bool :=
  match phase with
  | .wrote _ document =>
      match valueIn (some document) .config "BASE_DOMAIN" with
      | some (.str text) => text == "example.org"
      | _ => false
  | _ => false

/-- The run wrote, and neither found the setting nor left it. -/
def wroteWithout (phase : Phase) : Bool :=
  match phase with
  | .wrote file document =>
      (valueIn (some document) .config "BASE_DOMAIN").isNone &&
        (valueIn file .config "BASE_DOMAIN").isNone
  | _ => false

/-- Both runs answer that they wrote; only the settings write changed the
setting, and the setting is gone. -/
theorem overlapped_write_lost :
    (∀ i, (overlapped.writers i).answer.any Answer.accepted = true) ∧
      (∃ file document, overlapped.phases true = .wrote file document ∧
        valueIn (some document) .config "BASE_DOMAIN" =
          some (.str "example.org")) ∧
      ¬ Changed (overlapped.phases false) .config "BASE_DOMAIN" ∧
      valueIn overlapped.host.store.join .config "BASE_DOMAIN" = none := by
  have accepted (i : Bool) : (overlapped.writers i).answer.any Answer.accepted = true := by
    cases i <;> decide +kernel
  have settingWrote : wroteSetting (overlapped.phases true) = true := by
    decide +kernel
  have passwordWrote : wroteWithout (overlapped.phases false) = true := by
    decide +kernel
  have lost : (valueIn overlapped.host.store.join .config "BASE_DOMAIN").isNone =
      true := by
    decide +kernel
  refine ⟨accepted, ?_, ?_, Option.isNone_iff_eq_none.mp lost⟩
  · unfold wroteSetting at settingWrote
    split at settingWrote
    · rename_i file document wrote
      refine ⟨file, document, wrote, ?_⟩
      split at settingWrote
      · rename_i text found
        rw [found, beq_iff_eq.mp settingWrote]
      · cases settingWrote
    · cases settingWrote
  · unfold wroteWithout at passwordWrote
    split at passwordWrote
    · rename_i file document wrote
      rw [Bool.and_eq_true, Option.isNone_iff_eq_none,
        Option.isNone_iff_eq_none] at passwordWrote
      rw [wrote]
      intro changed
      exact changed (passwordWrote.1.trans passwordWrote.2.symm)
    · cases passwordWrote

theorem step_phases_of_ne {ι : Type} [DecidableEq ι] {reading : String → String}
    {system : System ι} {turn : ι × Choice} {j : ι} (ne : j ≠ turn.1) :
    (system.step reading turn).phases j = system.phases j := by
  have attempted : (system.attempt reading turn.1 turn.2).phases j =
      system.phases j := by
    unfold System.attempt
    split
    · rfl
    · split
      · rfl
      · simp [System.phases, ne]
  rw [← attempted]
  unfold System.step System.settle
  split
  · simp [System.phases, ne]
  · rfl

/-- A run that goes on while the others wait is orderly. -/
theorem allOrderly_alone {ι : Type} [DecidableEq ι] {reading : String → String}
    {runs : ι → Run} {system : System ι} {i : ι}
    (others : ∀ j, j ≠ i → ∀ file, ¬ Between (system.phases j) file)
    (choices : List Choice) :
    AllOrderly reading runs system (choices.map fun choice => (i, choice)) := by
  induction choices generalizing system with
  | nil => trivial
  | cons choice rest ih =>
      constructor
      · intro _ j ne file inside
        exact absurd inside (others j ne file)
      · apply ih
        intro j ne file
        rw [step_phases_of_ne ne]
        exact others j ne file

theorem allOrderly_append {reading : String → String}
    {runs : ι → Run} {system : System ι} {first second : List (ι × Choice)}
    (firstOrderly : AllOrderly reading runs system first)
    (secondOrderly : AllOrderly reading runs (system.follow reading first) second) :
    AllOrderly reading runs system (first ++ second) := by
  induction first generalizing system with
  | nil => exact secondOrderly
  | cons turn rest ih => exact ⟨firstOrderly.1, ih firstOrderly.2 secondOrderly⟩

/-- A password is generated while a setting is written and a converge runs. -/
def threeRuns : Fin 3 → Run
  | 0 => sampleRuns false
  | 1 => sampleRuns true
  | 2 => .loader (fun _ _ => "drawn") ⟨none, [], ["TIMEZONE=UTC"], false, .none⟩

/-- `count` turns of a run, with `text` to read. -/
def inTurn (i : Fin 3) (count : Nat) (text : String) : List (Fin 3 × Choice) :=
  (List.replicate count ⟨false, 0, text⟩).map fun choice => (i, choice)

/-- The settings write takes the lock, the password program runs, the converge waits for the
lock, and then the two go on. -/
def threeTurns : List (Fin 3 × Choice) :=
  inTurn 1 1 "" ++ (inTurn 0 12 "generated" ++ (inTurn 2 3 "" ++
    (inTurn 1 12 "" ++ inTurn 2 14 "")))

def afterThree : System (Fin 3) :=
  (System.begin Builtins.unused threeRuns emptyHost).follow PyText.strip threeTurns

/-- Whether the phase is not between a read and a write. -/
def Phase.outside : Phase → Bool
  | .seen _ => false
  | .sibling _ _ => false
  | _ => true

theorem not_between_of_outside {phase : Phase} (outside : phase.outside = true)
    (file : Option Json) : ¬ Between phase file := by
  cases phase <;> first | exact not_false | cases outside

theorem allOrderly_inTurn {runs : Fin 3 → Run} {system : System (Fin 3)} (i : Fin 3)
    (count : Nat) (text : String)
    (others : ∀ j, j ≠ i → (system.phases j).outside = true) :
    AllOrderly PyText.strip runs system (inTurn i count text) :=
  allOrderly_alone (fun j ne => not_between_of_outside (others j ne)) _

instance (phase : Phase) (part : Part) (key : String) : Decidable (Changed phase part key) :=
  match phase with
  | .wrote file document =>
      inferInstanceAs (Decidable (valueIn (some document) part key ≠ valueIn file part key))
  | .start => inferInstanceAs (Decidable False)
  | .ready => inferInstanceAs (Decidable False)
  | .seen _ => inferInstanceAs (Decidable False)
  | .sibling _ _ => inferInstanceAs (Decidable False)
  | .over => inferInstanceAs (Decidable False)
  | .astray => inferInstanceAs (Decidable False)

theorem threeTurns_kept :
    AllOrderly PyText.strip threeRuns (System.begin Builtins.unused threeRuns emptyHost)
        threeTurns ∧
      (∀ i, (afterThree.writers i).answer.any Answer.accepted = true) ∧
      UpdatesKept Builtins.unused threeRuns afterThree ∧
      valueIn afterThree.host.store.join .secrets "backup_restic_password" =
        some (.str "generated") := by
  have orderly : AllOrderly PyText.strip threeRuns
      (System.begin Builtins.unused threeRuns emptyHost) threeTurns := by
    apply allOrderly_append (allOrderly_inTurn 1 _ _ (by decide +kernel))
    apply allOrderly_append (allOrderly_inTurn 0 _ _ (by decide +kernel))
    apply allOrderly_append (allOrderly_inTurn 2 _ _ (by decide +kernel))
    exact allOrderly_append (allOrderly_inTurn 1 _ _ (by decide +kernel))
      (allOrderly_inTurn 2 _ _ (by decide +kernel))
  have kept : UpdatesKept Builtins.unused threeRuns afterThree :=
    orderly_keeps_updates PyText.strip emptyHost threeTurns orderly
  refine ⟨orderly, by decide +kernel, kept, ?_⟩
  exact kept.password 0 [("op", .str "generate")] (.minted "generated") "generated" rfl
    (by decide +kernel) rfl (by decide +kernel)

end Catena.StoreWriters

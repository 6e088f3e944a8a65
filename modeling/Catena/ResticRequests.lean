import Catena.RekeyStages
import Catena.Runs

/-!
# Complete restic password requests

A complete request is not cut off, and the host's own files do what they are
asked.  restic and rclone answer as the destination is, or fail for a passing
reason and change nothing.  At every moment of such a request the store and the
destination are as they were, or the repository has the new key, or the new
password is stored, or `init` has made a repository where nothing was.
-/

namespace Catena.ResticKey

/-! ### What restic and rclone answer -/

/-- The exit code of a restic that failed for a passing reason. -/
def Choice.passing (choice : Choice) : Nat :=
  if choice.code ∈ [0, noRepository, wrongPassword] then 1 else choice.code

section Respond

variable (reading : String → String)

/-- What `restic init` leaves, and its exit code: it refuses where a repository
is, and asks no more of the place. -/
def Host.create (host : Host) (name : Nat) : Host × Nat :=
  match host.destination, host.keyIn reading name with
  | .repository _, _ => (host, 1)
  | _, some key => ({ host with destination := .repository key }, 0)
  | _, none => (host, 1)

/-- Perform one operation of a complete request. -/
def respond (host : Host) (choice : Choice) : (op : Op) → Host × Except PyError (Res op)
  | .catConfig _ name =>
      (host, .ok (if choice.fails then choice.passing else host.catCode reading name))
  | .keyPasswd _ name newName =>
      if choice.fails then (host, .ok (choice.passing, choice.text))
      else
        let (after, code) := host.passwd reading name newName
        (after, .ok (code, choice.text))
  | .init _ name =>
      if choice.fails then (host, .ok (choice.passing, choice.text))
      else
        let (after, code) := host.create reading name
        (after, .ok (code, choice.text))
  | .listDestination _ =>
      (host, .ok (if choice.fails then none else some (host.destination ≠ .nothing)))
  | op => act reading host choice op

end Respond

/-- A request as it comes in: its text, the hold's record at the time, and what
is not up to the program. -/
structure Call where
  request : Json
  held : Option Held
  choices : Nat → Choice

def Host.receive (host : Host) (call : Call) : Host :=
  { host with heldFile := call.held }

section Complete

variable (reading : String → String) (py : Builtins)

/-- Where a request leaves the host, and what it is answered. -/
def complete (host : Host) (call : Call) : Host × Except PyError Reply :=
  (main py call.request).finish (respond reading) call.choices (host.receive call)

/-- The host at every moment of a request. -/
def during (host : Host) (call : Call) : List Host :=
  (main py call.request).moments (respond reading) call.choices (host.receive call)

def afterRequest (host : Host) (call : Call) : Host :=
  (complete reading py host call).1

end Complete

/-! ### What the store names -/

/-- The store a request reads. -/
def Host.loaded (host : Host) : Option Store :=
  match host.store with
  | none => (loadStore none).toOption
  | some (some document) => (loadStore (some document)).toOption
  | some none => none

/-- What the destination the store names holds; `none` where it names none. -/
def Host.storedDestination (host : Host) : Option Destination :=
  host.loaded.bind fun store =>
    if (resticEnv store).repository.truthy then some host.destination else none

/-- The stored password opens the repository at the stored destination. -/
def Opens (reading : String → String) (host : Host) : Prop :=
  ∃ key, host.storedDestination = some (.repository key) ∧
    host.storeKey reading = some key

def IsInit (request : Json) : Prop :=
  ∃ fields, request = .obj fields ∧ PyDict.get fields "op" = some (.str "init")

/-- What a complete request owes the key. -/
structure KeepsKey (reading : String → String) (py : Builtins) (host : Host)
    (call : Call) : Prop where
  opens : Opens reading host → Opens reading (afterRequest reading py host call)
  stores : ∀ moment ∈ during reading py host call,
    moment.storePassword ≠ host.storePassword →
      ∀ key, moment.storedDestination = some (.repository key) →
        moment.storeKey reading = some key
  creates : ∀ moment ∈ during reading py host call,
    ∀ key, moment.destination = .repository key →
      (∃ old, host.destination = .repository old) ∨
        IsInit call.request ∧ host.destination = .nothing ∧
          host.storeKey reading = some key
  returns : ∀ password, (complete reading py host call).2 = .ok (.minted password) →
    (afterRequest reading py host call).storePassword = some (.str password)

/-! ### The stages of a complete request -/

/-- The operations that touch neither the store nor the destination. -/
def Resting : Op → Prop
  | .keyPasswd _ _ _ => False
  | .init _ _ => False
  | .replaceStore => False
  | _ => True

theorem resting_of_private (op : Op) (isPrivate : IsPrivate op) : Resting op := by
  cases op <;> trivial

/-- The store and the destination are the same. -/
structure Untouched (start host : Host) : Prop where
  store : host.store = start.store
  destination : host.destination = start.destination

/-- The repository has its new key, and the store does not know. -/
structure Rekeyed (reading : String → String) (start : Host) (new : String)
    (host : Host) : Prop where
  store : host.store = start.store
  repository : ∃ old, start.destination = .repository old
  destination : host.destination = .repository (reading (new ++ "\n"))

/-- The store holds the new password, for a repository that was re-keyed to it
or for a destination that holds none. -/
structure Stored (reading : String → String) (start : Host) (new : String)
    (host : Host) : Prop where
  loaded : ∃ store, start.loaded = some store ∧
    host.loaded = some (withPassword store new)
  fits : (∃ old, start.destination = .repository old) ∧
      host.destination = .repository (reading (new ++ "\n")) ∨
    host.destination = start.destination ∧
      ∀ key, start.storedDestination ≠ some (.repository key)

/-- A repository was made where nothing was. -/
structure Created (reading : String → String) (start host : Host) : Prop where
  store : host.store = start.store
  nothing : start.destination = .nothing
  destination : ∃ key, host.destination = .repository key ∧
    start.storeKey reading = some key

section Stages

variable {reading : String → String} {start host other : Host} {new : String}

theorem Untouched.refl (host : Host) : Untouched host host :=
  ⟨rfl, rfl⟩

theorem respond_resting {op : Op} (resting : Resting op) (host : Host) (choice : Choice) :
    Untouched host (respond reading host choice op).1 := by
  cases op <;> first | exact resting.elim | exact ⟨rfl, rfl⟩

theorem loaded_congr (same : host.store = other.store) : host.loaded = other.loaded := by
  unfold Host.loaded
  rw [same]

theorem storedDestination_congr (same : host.loaded = other.loaded)
    (destination : host.destination = other.destination) :
    host.storedDestination = other.storedDestination := by
  unfold Host.storedDestination
  rw [same, destination]

theorem Untouched.trans (first : Untouched start host) (second : Untouched host other) :
    Untouched start other :=
  ⟨second.store.trans first.store, second.destination.trans first.destination⟩

theorem Rekeyed.stays (rekeyed : Rekeyed reading start new host)
    (same : Untouched host other) : Rekeyed reading start new other :=
  ⟨same.store.trans rekeyed.store, rekeyed.repository,
    same.destination.trans rekeyed.destination⟩

theorem Stored.stays (stored : Stored reading start new host)
    (same : Untouched host other) : Stored reading start new other := by
  obtain ⟨store, before, after⟩ := stored.loaded
  refine ⟨⟨store, before, (loaded_congr same.store).trans after⟩, ?_⟩
  rw [same.destination]
  exact stored.fits

theorem Created.stays (created : Created reading start host)
    (same : Untouched host other) : Created reading start other := by
  obtain ⟨key, destination, stored⟩ := created.destination
  exact ⟨same.store.trans created.store, created.nothing, key,
    same.destination.trans destination, stored⟩

/-- A stage is kept by operations that touch nothing. -/
theorem resting_always {stage : Host → Prop}
    (stays : ∀ before after, Untouched before after → stage before → stage after)
    {α : Type} {program : HostProg α} (only : program.Only Resting) (here : stage host) :
    program.Always (respond reading) stage (fun _ after => stage after) host := by
  refine (only.always ?_ here).mono fun _ _ holds _ => holds
  intro op resting before choice holds
  exact stays _ _ (respond_resting resting before choice) holds

theorem untouched_always {α : Type} {program : HostProg α} (only : program.Only Resting)
    (here : Untouched start host) :
    program.Always (respond reading) (Untouched start)
      (fun _ after => Untouched start after) host :=
  resting_always (fun _ _ same before => before.trans same) only here

/-- What holds of a request that has come to its end. -/
def Settled (reading : String → String) (request : Json) (start host : Host) : Prop :=
  Untouched start host ∨ (∃ new, Stored reading start new host) ∨
    IsInit request ∧ Created reading start host

/-- What holds at every moment of a request. -/
def Moment (reading : String → String) (request : Json) (start host : Host) : Prop :=
  Settled reading request start host ∨ ∃ new, Rekeyed reading start new host

/-- How a request ends: settled, and a password it returns is the stored one. -/
def RequestEnds (reading : String → String) (request : Json) (start : Host)
    (outcome : Except PyError Reply) (host : Host) : Prop :=
  Settled reading request start host ∧
    ∀ password, outcome = .ok (.minted password) → Stored reading start password host

end Stages

/-! ### What the stages mean -/

section Meaning

variable {reading : String → String} {py : Builtins} {start host : Host} {new : String}

/-- The password a host's store holds is the one a request reads from it. -/
theorem storePassword_eq (host : Host) :
    host.storePassword = host.loaded.bind storedPassword := by
  unfold Host.storePassword Host.loaded
  split
  · rename_i document found
    rw [found]
    cases document with
    | obj raw =>
        simp only [loadStore]
        cases Store.load (some (.obj raw)) <;> rfl
    | _ => rfl
  · rename_i absent
    split
    · rfl
    · rename_i document found
      exact absurd found (absent document)
    · rfl

theorem storedPassword_withPassword (store : Store) (new : String) :
    storedPassword (withPassword store new) = some (.str new) := by
  simp [storedPassword, withPassword]

theorem Stored.password (stored : Stored reading start new host) :
    host.storePassword = some (.str new) := by
  obtain ⟨store, _, after⟩ := stored.loaded
  rw [storePassword_eq, after]
  exact storedPassword_withPassword store new

theorem Stored.storeKey (stored : Stored reading start new host) :
    host.storeKey reading = some (reading (new ++ "\n")) := by
  unfold Host.storeKey
  rw [stored.password]

/-- The names of the destination stay. -/
theorem resticEnv_withPassword (store : Store) (new : String) :
    (resticEnv (withPassword store new)).repository = (resticEnv store).repository :=
  rfl

theorem storedDestination_eq_some {destination : Destination} :
    host.storedDestination = some destination ↔
      ∃ store, host.loaded = some store ∧
        (resticEnv store).repository.truthy = true ∧ host.destination = destination := by
  unfold Host.storedDestination
  cases host.loaded with
  | none => simp
  | some store =>
      by_cases named : (resticEnv store).repository.truthy = true <;> simp [named]

theorem Stored.named (stored : Stored reading start new host) {destination : Destination}
    (found : host.storedDestination = some destination) :
    start.storedDestination = some start.destination ∧ host.destination = destination := by
  obtain ⟨store, before, after⟩ := stored.loaded
  obtain ⟨read, loaded, named, same⟩ := storedDestination_eq_some.mp found
  rw [after, Option.some.injEq] at loaded
  subst loaded
  rw [resticEnv_withPassword] at named
  exact ⟨storedDestination_eq_some.mpr ⟨store, before, named, rfl⟩, same⟩

theorem Stored.opens_named (stored : Stored reading start new host) {key : String}
    (found : host.storedDestination = some (.repository key)) :
    host.storeKey reading = some key := by
  obtain ⟨before, same⟩ := stored.named found
  rw [stored.storeKey]
  rcases stored.fits with ⟨_, rekeyed⟩ | ⟨kept, free⟩
  · rw [rekeyed, Destination.repository.injEq] at same
    rw [same]
  · rw [before, ← kept, same] at free
    exact absurd rfl (free key)

theorem untouched_opens (untouched : Untouched start host) (opens : Opens reading start) :
    Opens reading host := by
  obtain ⟨key, found, stored⟩ := opens
  refine ⟨key, ?_, ?_⟩
  · rw [storedDestination_congr (loaded_congr untouched.store) untouched.destination]
    exact found
  · unfold Host.storeKey at stored ⊢
    rw [storePassword_congr untouched.store]
    exact stored

theorem Stored.opens (stored : Stored reading start new host)
    (opens : Opens reading start) : Opens reading host := by
  obtain ⟨key, found, _⟩ := opens
  obtain ⟨read, before, named, _⟩ := storedDestination_eq_some.mp found
  obtain ⟨store, loaded, after⟩ := stored.loaded
  rw [before, Option.some.injEq] at loaded
  subst loaded
  rcases stored.fits with ⟨_, rekeyed⟩ | ⟨_, free⟩
  · exact ⟨_, storedDestination_eq_some.mpr ⟨_, after, named, rekeyed⟩, stored.storeKey⟩
  · exact absurd found (free key)

theorem Settled.opens {request : Json} (settled : Settled reading request start host)
    (opens : Opens reading start) : Opens reading host := by
  rcases settled with untouched | ⟨new, stored⟩ | ⟨_, created⟩
  · exact untouched_opens untouched opens
  · exact stored.opens opens
  · obtain ⟨key, found, _⟩ := opens
    obtain ⟨_, _, _, same⟩ := storedDestination_eq_some.mp found
    rw [created.nothing] at same
    cases same

theorem Moment.stores {request : Json} (moment : Moment reading request start host)
    (changed : host.storePassword ≠ start.storePassword) {key : String}
    (found : host.storedDestination = some (.repository key)) :
    host.storeKey reading = some key := by
  rcases moment with (untouched | ⟨new, stored⟩ | ⟨_, created⟩) | ⟨new, rekeyed⟩
  · exact absurd (storePassword_congr untouched.store) changed
  · exact stored.opens_named found
  · exact absurd (storePassword_congr created.store) changed
  · exact absurd (storePassword_congr rekeyed.store) changed

theorem Moment.creates {request : Json} (moment : Moment reading request start host)
    {key : String} (found : host.destination = .repository key) :
    (∃ old, start.destination = .repository old) ∨
      IsInit request ∧ start.destination = .nothing ∧ start.storeKey reading = some key := by
  rcases moment with (untouched | ⟨new, stored⟩ | ⟨asked, created⟩) | ⟨new, rekeyed⟩
  · exact Or.inl ⟨key, untouched.destination.symm.trans found⟩
  · rcases stored.fits with ⟨repository, _⟩ | ⟨kept, _⟩
    · exact Or.inl repository
    · exact Or.inl ⟨key, kept.symm.trans found⟩
  · obtain ⟨made, destination, stored⟩ := created.destination
    rw [destination, Destination.repository.injEq] at found
    exact Or.inr ⟨asked, created.nothing, found ▸ stored⟩
  · exact Or.inl rekeyed.repository

end Meaning

/-! ### The helpers -/

section Helpers

variable {reading : String → String} {start host : Host} {new : String}

theorem always_ask_bind {holds : Host → Prop} {op : Op} {α : Type}
    {next : Res op → HostProg α} {ends : Except PyError α → Host → Prop}
    (here : holds host) {answer : Choice → Res op}
    (answers : ∀ choice, (respond reading host choice op).2 = .ok (answer choice))
    (rest : ∀ choice, (next (answer choice)).Always (respond reading) holds ends
      (respond reading host choice op).1) :
    (ask op >>= next).Always (respond reading) holds ends host := by
  refine ⟨here, fun choice => ?_⟩
  rw [answers choice]
  exact rest choice

/-- A secret file is written in full by the time its name is known. -/
theorem writeSecretFile_complete (value : Json) (here : Untouched start host) :
    (writeSecretFile value).Always (respond reading) (Untouched start)
      (fun outcome after => ∀ name, outcome = .ok name → ∃ text, value = .str text ∧
        after.keyIn reading name = some (reading (text ++ "\n"))) host := by
  unfold writeSecretFile
  refine always_ask_bind here (fun _ => rfl) fun _ => ?_
  cases value with
  | str text =>
      refine ⟨⟨here.store, here.destination⟩, fun _ => ?_⟩
      refine ⟨⟨here.store, here.destination⟩, fun _ => ?_⟩
      refine ⟨⟨here.store, here.destination⟩, fun _ => ?_⟩
      refine ⟨⟨here.store, here.destination⟩, ?_⟩
      intro name same
      cases same
      refine ⟨text, rfl, ?_⟩
      simp [respond, act, Host.keyIn]
  | _ =>
      refine ⟨⟨here.store, here.destination⟩, ?_⟩
      intro name same
      cases same

/-- The files are removed, and the outcome is what it was. -/
theorem unlinked_always {α : Type} {holds : Host → Prop}
    {ends : Except PyError α → Host → Prop} {outcome : Except PyError α} {name : Nat}
    (here : holds host)
    (after : holds (respond reading host .ok (.unlinkTemp name)).1)
    (ended : ends outcome (respond reading host .ok (.unlinkTemp name)).1) :
    ((unlink name).andThen (Prog.onOk fun _ => Prog.done outcome)).Always
      (respond reading) holds ends host :=
  ⟨here, fun _ => ⟨after, ended⟩⟩

/-- A passing failure says nothing about the repository. -/
theorem passing_notMem (choice : Choice) :
    choice.passing ∉ [0, noRepository, wrongPassword] := by
  unfold Choice.passing
  split
  · decide
  · assumption

/-- `restic cat config` says that there is no repository where there is none. -/
theorem catConfig_complete (env : Env) (password : Json) (here : Untouched start host) :
    (catConfig env password).Always (respond reading) (Untouched start)
      (fun outcome after => Untouched start after ∧
        (outcome = .ok noRepository → ∀ key, start.destination ≠ .repository key)) host := by
  unfold catConfig
  refine Prog.Always.bind (writeSecretFile_complete password here) ?_ ?_
  · intro file after untouched _
    unfold Prog.tryFinally
    rw [Prog.always_andThen]
    unfold Env.run
    split
    · refine ⟨untouched, fun choice => ⟨untouched, ?_⟩⟩
      refine unlinked_always untouched ⟨untouched.store, untouched.destination⟩
        ⟨⟨untouched.store, untouched.destination⟩, ?_⟩
      intro answer key repository
      have there : after.destination = .repository key :=
        untouched.destination.trans repository
      simp only [respond, Host.catCode, there, Except.ok.injEq] at answer
      split at answer
      · exact passing_notMem choice (by simp [answer])
      · split at answer <;> cases answer
    · refine ⟨untouched, unlinked_always untouched ⟨untouched.store, untouched.destination⟩
        ⟨⟨untouched.store, untouched.destination⟩, ?_⟩⟩
      intro answer
      cases answer
  · intro failure after untouched _
    refine ⟨untouched, ?_⟩
    intro answer
    cases answer

/-- Before a re-key and behind it. -/
def Turned (reading : String → String) (start : Host) (new : String) (host : Host) : Prop :=
  Untouched start host ∨ Rekeyed reading start new host

/-- A re-key goes through with exit code 0, and otherwise it changes nothing. -/
def TurnEnds (reading : String → String) (start : Host) (new : String)
    (outcome : Except PyError (Nat × String)) (host : Host) : Prop :=
  Untouched start host ∧ (∀ stderr, outcome ≠ .ok (0, stderr)) ∨
    Rekeyed reading start new host ∧ ∃ stderr, outcome = .ok (0, stderr)

theorem Turned.stays {other : Host} (turned : Turned reading start new host)
    (same : Untouched host other) : Turned reading start new other := by
  rcases turned with untouched | rekeyed
  · exact Or.inl (untouched.trans same)
  · exact Or.inr (rekeyed.stays same)

theorem TurnEnds.stays {other : Host} {outcome : Except PyError (Nat × String)}
    (ended : TurnEnds reading start new outcome host) (same : Untouched host other) :
    TurnEnds reading start new outcome other := by
  rcases ended with ⟨untouched, failed⟩ | ⟨rekeyed, wentThrough⟩
  · exact Or.inl ⟨untouched.trans same, failed⟩
  · exact Or.inr ⟨rekeyed.stays same, wentThrough⟩

theorem TurnEnds.turned {outcome : Except PyError (Nat × String)}
    (ended : TurnEnds reading start new outcome host) : Turned reading start new host := by
  rcases ended with ⟨untouched, _⟩ | ⟨rekeyed, _⟩
  · exact Or.inl untouched
  · exact Or.inr rekeyed

/-- `restic key passwd` with the new password's file. -/
theorem keyPasswd_complete (env : Env) (currentFile newFile : Nat) (choice : Choice)
    (here : Untouched start host)
    (content : host.keyIn reading newFile = some (reading (new ++ "\n"))) :
    TurnEnds reading start new
      (respond reading host choice (.keyPasswd env currentFile newFile)).2
      (respond reading host choice (.keyPasswd env currentFile newFile)).1 := by
  unfold respond
  cases fails : choice.fails with
  | true =>
      refine Or.inl ⟨here, ?_⟩
      intro stderr same
      simp only [if_true, Except.ok.injEq, Prod.mk.injEq] at same
      exact passing_notMem choice (by simp [same.1])
  | false =>
      simp only [Bool.false_eq_true, if_false]
      unfold Host.passwd
      rw [content]
      split
      · rename_i key newKey found same
        split
        · cases same
          exact Or.inr ⟨⟨here.store, ⟨key, here.destination.symm.trans found⟩, rfl⟩, _, rfl⟩
        · refine Or.inl ⟨here, ?_⟩
          intro stderr impossible
          simp [wrongPassword] at impossible
      · refine Or.inl ⟨here, ?_⟩
        intro stderr impossible
        simp [noRepository] at impossible

theorem rekey_complete (env : Env) (current : Json) (here : Untouched start host) :
    (rekey env current new).Always (respond reading) (Turned reading start new)
      (TurnEnds reading start new) host := by
  have unlinked {first second : Nat} {outcome : Except PyError (Nat × String)}
      {middle : Host} (ended : TurnEnds reading start new outcome middle) :
      ((unlink first >>= fun _ => unlink second).andThen
        (Prog.onOk fun _ => Prog.done outcome)).Always (respond reading)
          (Turned reading start new) (TurnEnds reading start new) middle :=
    ⟨ended.turned, fun _ => ⟨ended.turned.stays ⟨rfl, rfl⟩, fun _ =>
      ⟨ended.turned.stays ⟨rfl, rfl⟩, ended.stays ⟨rfl, rfl⟩⟩⟩⟩
  have failed {middle : Host} {failure : PyError} (untouched : Untouched start middle) :
      TurnEnds reading start new (.error failure) middle :=
    Or.inl ⟨untouched, fun _ impossible => by cases impossible⟩
  unfold rekey
  refine Prog.Always.bind ((untouched_always ((only_writeSecretFile current).mono
    resting_of_private) here).weaken fun _ => Or.inl) ?_ fun _ _ _ => failed
  intro currentFile after _ untouched
  have written := @writeSecretFile_complete reading start after (.str new) untouched
  refine Prog.Always.bind ((written.mono fun outcome last lastUntouched content =>
    And.intro lastUntouched content).weaken fun _ => Or.inl) ?_ fun _ _ _ ended => failed ended.1
  rintro newFile last _ ⟨lastUntouched, content⟩
  obtain ⟨text, same, key⟩ := content newFile rfl
  cases same
  unfold Prog.tryFinally
  rw [Prog.always_andThen]
  unfold Env.run
  split
  · refine ⟨Or.inl lastUntouched, fun choice => ?_⟩
    have ended := keyPasswd_complete env currentFile newFile choice lastUntouched key
    exact ⟨ended.turned, unlinked ended⟩
  · exact ⟨Or.inl lastUntouched, unlinked (failed lastUntouched)⟩

end Helpers

/-! ### Storing a password -/

section Storing

variable {reading : String → String} {start host : Host} {store : Store} {new : String}

theorem loaded_reads (loaded : start.loaded = some store) (same : host.store = start.store) :
    ∃ file, loadStore file = .ok store ∧
      ∀ choice, (respond reading host choice .readStore).2 = .ok file := by
  unfold Host.loaded at loaded
  simp only [respond, act, same]
  cases kept : start.store with
  | none =>
      simp only [kept] at loaded
      cases read : loadStore none with
      | ok value =>
          simp only [read, Except.toOption, Option.some.injEq] at loaded
          exact ⟨none, loaded ▸ read, fun _ => rfl⟩
      | error failure => simp [read, Except.toOption] at loaded
  | some content =>
      cases content with
      | none => simp [kept] at loaded
      | some document =>
          simp only [kept] at loaded
          cases read : loadStore (some document) with
          | ok value =>
              simp only [read, Except.toOption, Option.some.injEq] at loaded
              exact ⟨some document, loaded ▸ read, fun _ => rfl⟩
          | error failure => simp [read, Except.toOption] at loaded

theorem savedDocument_loads {file : Option Json} (read : loadStore file = .ok store) :
    ∃ written, savedDocument (withPassword store new) file = .ok written ∧
      loadStore (some written) = .ok (withPassword store new) := by
  have distinct := Store.load_distinctKeys (load_of_loadStore read)
  have distinctNew : Store.DistinctKeys (withPassword store new) :=
    ⟨PyDict.nodup_keys_set distinct.secrets _ _, distinct.config⟩
  unfold savedDocument
  match file, read with
  | none, _ =>
      refine ⟨_, rfl, ?_⟩
      exact @Store.load_dump none _ _ distinctNew rfl
  | some (.obj raw), _ =>
      refine ⟨_, rfl, ?_⟩
      exact @Store.load_dump (some (.obj raw)) _ _ distinctNew rfl

/-- `_save_store` of a complete request comes to its end, and the store then
holds the new password. -/
theorem saveStore_complete (loaded : start.loaded = some store)
    (same : host.store = start.store)
    (stored : ∀ after, after.destination = host.destination →
      after.loaded = some (withPassword store new) → Stored reading start new after) :
    (saveStore (withPassword store new)).Always (respond reading)
      (fun after => Untouched host after ∨ Stored reading start new after)
      (fun outcome after => outcome = .ok () ∧ Stored reading start new after) host := by
  obtain ⟨file, read, answers⟩ := @loaded_reads reading start host store loaded same
  obtain ⟨written, saved, reread⟩ := @savedDocument_loads store new file read
  have still : Untouched host host := Untouched.refl host
  have replaced (after : Host) (destination : after.destination = host.destination)
      (inPlace : after.store = some (some written)) : Stored reading start new after := by
    refine stored after destination ?_
    unfold Host.loaded
    rw [inPlace]
    simp [reread, Except.toOption]
  unfold saveStore
  refine always_ask_bind (Or.inl still) answers fun _ => ?_
  rw [saved]
  refine ⟨Or.inl still, fun _ => ⟨Or.inl ⟨rfl, rfl⟩, fun _ => ⟨Or.inl ⟨rfl, rfl⟩, fun _ =>
    ⟨Or.inl ⟨rfl, rfl⟩, fun _ => ?_⟩⟩⟩⟩
  have final := replaced
    (respond reading (respond reading (respond reading host .ok .openStoreTmp).1 .ok
      (.writeStoreTmp written)).1 .ok .replaceStore).1 rfl rfl
  exact ⟨Or.inr final, fun _ => ⟨Or.inr final, rfl, final⟩⟩

theorem writePassFile_complete (stored : Stored reading start new host) (password : String) :
    (writePassFile password).Always (respond reading) (Stored reading start new)
      (fun outcome after => outcome = .ok () ∧ Stored reading start new after) host :=
  ⟨stored, fun _ => ⟨stored.stays ⟨rfl, rfl⟩, fun _ => ⟨stored.stays ⟨rfl, rfl⟩, fun _ =>
    ⟨stored.stays ⟨rfl, rfl⟩, rfl, stored.stays ⟨rfl, rfl⟩⟩⟩⟩⟩

variable {request : Json}

theorem requestEnds_untouched {outcome : Except PyError Reply}
    (untouched : Untouched start host)
    (silent : ∀ password, outcome ≠ .ok (.minted password)) :
    RequestEnds reading request start outcome host :=
  ⟨Or.inl untouched, fun password minted => absurd minted (silent password)⟩

/-- `_set_password` re-keys the repository and then stores the password, or
changes nothing. -/
theorem setPassword_complete (loaded : start.loaded = some store)
    (here : Untouched start host) :
    (setPassword store new).Always (respond reading) (Moment reading request start)
      (fun outcome after =>
        Untouched start after ∧ outcome ≠ .ok .ok ∧
            (∀ password, outcome ≠ .ok (.minted password)) ∨
          Stored reading start new after ∧ outcome = .ok .ok) host := by
  have before {after : Host} (untouched : Untouched start after) :
      Moment reading request start after := Or.inl (Or.inl untouched)
  have behind {after : Host} (stored : Stored reading start new after) :
      Moment reading request start after := Or.inl (Or.inr (Or.inl ⟨new, stored⟩))
  unfold setPassword
  dsimp only
  split
  · exact ⟨before here, Or.inl ⟨here, by simp, by simp⟩⟩
  · split
    · exact ⟨before here, Or.inl ⟨here, by simp, by simp⟩⟩
    · refine Prog.Always.bind ((rekey_complete _ _ here).weaken ?_) ?_ ?_
      · rintro after (untouched | rekeyed)
        · exact before untouched
        · exact Or.inr ⟨new, rekeyed⟩
      · rintro ⟨code, stderr⟩ after moment ended
        rcases ended with ⟨untouched, failed⟩ | ⟨rekeyed, _, wentThrough⟩
        · have nonzero : code ≠ 0 := by
            rintro rfl
            exact failed stderr rfl
          rw [if_pos nonzero]
          exact ⟨moment, Or.inl ⟨untouched, by simp, by simp⟩⟩
        · have zero : ¬ code ≠ 0 := by
            simp only [Except.ok.injEq, Prod.mk.injEq] at wentThrough
            simp [wentThrough.1]
          rw [if_neg zero]
          have stored (last : Host) (destination : last.destination = after.destination)
              (holds : last.loaded = some (withPassword store new)) :
              Stored reading start new last :=
            ⟨⟨store, loaded, holds⟩,
              Or.inl ⟨rekeyed.repository, destination.trans rekeyed.destination⟩⟩
          refine Prog.Always.bind ((saveStore_complete loaded rekeyed.store stored).weaken
            ?_) ?_ ?_
          · rintro last (same | kept)
            · exact Or.inr ⟨new, rekeyed.stays same⟩
            · exact behind kept
          · rintro _ last _ ⟨_, kept⟩
            refine Prog.Always.bind ((writePassFile_complete kept new).weaken
              fun _ => behind) ?_ ?_
            · rintro _ final settled ⟨_, stays⟩
              exact ⟨settled, Or.inr ⟨stays, rfl⟩⟩
            · rintro failure final _ ⟨impossible, _⟩
              cases impossible
          · rintro failure last _ ⟨impossible, _⟩
            cases impossible
      · intro failure after _ ended
        rcases ended with ⟨untouched, _⟩ | ⟨_, _, impossible⟩
        · exact Or.inl ⟨untouched, by simp, by simp⟩
        · cases impossible

end Storing

/-! ### The requests -/

section Requests

variable {reading : String → String} {py : Builtins} {start host : Host} {store : Store}
  {request : Json}

theorem moment_untouched (untouched : Untouched start host) :
    Moment reading request start host :=
  Or.inl (Or.inl untouched)

theorem storeMinted_complete (loaded : start.loaded = some store) (replace : Bool)
    (password : String) (here : Untouched start host)
    (free : ∀ key, start.storedDestination ≠ some (.repository key)) :
    (saveStore (withPassword store password) >>= fun _ =>
        if replace then writePassFile password >>= fun _ => pure (.minted password)
        else pure (Reply.minted password)).Always
      (respond reading) (Moment reading request start) (RequestEnds reading request start)
      host := by
  have stored (last : Host) (destination : last.destination = host.destination)
      (holds : last.loaded = some (withPassword store password)) :
      Stored reading start password last :=
    ⟨⟨store, loaded, holds⟩, Or.inr ⟨destination.trans here.destination, free⟩⟩
  have behind (last : Host) (kept : Stored reading start password last) :
      Moment reading request start last :=
    Or.inl (Or.inr (Or.inl ⟨password, kept⟩))
  have ends (last : Host) (kept : Stored reading start password last) :
      RequestEnds reading request start (.ok (.minted password)) last := by
    refine ⟨Or.inr (Or.inl ⟨password, kept⟩), ?_⟩
    intro returned same
    cases same
    exact kept
  refine Prog.Always.bind ((saveStore_complete loaded here.store stored).weaken ?_) ?_ ?_
  · rintro last (same | kept)
    · exact moment_untouched (here.trans same)
    · exact behind last kept
  · rintro _ last _ ⟨_, kept⟩
    cases replace with
    | true =>
        refine Prog.Always.bind ((writePassFile_complete kept password).weaken behind) ?_ ?_
        · rintro _ final settled ⟨_, stays⟩
          exact ⟨settled, ends final stays⟩
        · rintro failure final _ ⟨impossible, _⟩
          cases impossible
    | false => exact ⟨behind last kept, ends last kept⟩
  · rintro failure last _ ⟨impossible, _⟩
    cases impossible

/-- A password is minted for a destination that holds no repository. -/
theorem mintPassword_complete (loaded : start.loaded = some store) (replace : Bool)
    (here : Untouched start host) :
    (mintPassword store replace).Always (respond reading) (Moment reading request start)
      (RequestEnds reading request start) host := by
  unfold mintPassword
  refine always_ask_bind (moment_untouched here) (fun _ => rfl) fun drawing => ?_
  have drawn : Untouched start (respond reading host drawing .urandom).1 :=
    here.trans (respond_resting (by trivial) host drawing)
  dsimp only
  generalize drawing.text = password
  split
  · refine Prog.Always.bind ((catConfig_complete _ _ drawn).weaken fun _ => moment_untouched)
      ?_ ?_
    · rintro code after moment ⟨untouched, absent⟩
      split
      · exact ⟨moment, requestEnds_untouched untouched (by simp)⟩
      · split
        · exact ⟨moment, requestEnds_untouched untouched (by simp)⟩
        · rename_i answered
          refine storeMinted_complete loaded replace password untouched ?_
          intro key found
          obtain ⟨_, _, _, repository⟩ := storedDestination_eq_some.mp found
          exact absent (congrArg Except.ok (not_not.mp answered)) key repository
    · rintro failure after moment ⟨untouched, _⟩
      exact requestEnds_untouched untouched (by simp)
  · rename_i unnamed
    have skipped : (pure noRepository : HostProg Nat).Always (respond reading)
        (Moment reading request start)
        (fun outcome after => outcome = .ok noRepository ∧ Untouched start after)
        (respond reading host drawing .urandom).1 :=
      ⟨moment_untouched drawn, rfl, drawn⟩
    refine Prog.Always.bind skipped ?_ ?_
    · rintro code after moment ⟨answer, untouched⟩
      cases answer
      rw [if_neg (by decide), if_neg (by simp)]
      refine storeMinted_complete loaded replace password untouched ?_
      intro key found
      obtain ⟨read, same, named, _⟩ := storedDestination_eq_some.mp found
      rw [loaded, Option.some.injEq] at same
      exact unnamed (same ▸ named)
    · rintro failure after _ ⟨impossible, _⟩
      cases impossible

theorem held_complete (here : Untouched start host) :
    held.Always (respond reading) (Moment reading request start)
      (fun _ after => Untouched start after) host :=
  (untouched_always (only_held.mono resting_of_private) here).weaken fun _ => moment_untouched

theorem cmdRotate_complete (loaded : start.loaded = some store)
    (fields : PyDict String Json) (here : Untouched start host) :
    (cmdRotate py store fields).Always (respond reading) (Moment reading request start)
      (RequestEnds reading request start) host := by
  unfold cmdRotate
  refine Prog.Always.bind (held_complete here) ?_ ?_
  · intro hold after moment untouched
    cases hold with
    | some record => exact ⟨moment, requestEnds_untouched untouched (by simp)⟩
    | none =>
        dsimp only
        split
        · exact ⟨moment, requestEnds_untouched untouched (by simp)⟩
        · refine (setPassword_complete loaded untouched).mono ?_
          rintro outcome last _ (⟨stays, _, silent⟩ | ⟨stored, answered⟩)
          · exact requestEnds_untouched stays silent
          · refine ⟨Or.inr (Or.inl ⟨_, stored⟩), ?_⟩
            intro password minted
            rw [answered] at minted
            cases minted
  · intro failure after _ untouched
    exact requestEnds_untouched untouched (by simp)

theorem rekeyAdopted_complete (loaded : start.loaded = some store)
    (here : Untouched start host) (password : String) :
    (setPassword store password >>= fun reply => match reply with
      | .ok => pure (.minted password)
      | reply => pure reply).Always (respond reading) (Moment reading request start)
      (RequestEnds reading request start) host := by
  refine Prog.Always.bind (setPassword_complete loaded here) ?_ ?_
  · rintro reply last moment (⟨stays, other, silent⟩ | ⟨stored, answered⟩)
    · have quiet : RequestEnds reading request start (.ok reply) last :=
        requestEnds_untouched stays silent
      cases reply with
      | ok => exact absurd rfl other
      | _ => exact ⟨moment, quiet⟩
    · cases answered
      refine ⟨moment, Or.inr (Or.inl ⟨password, stored⟩), ?_⟩
      intro returned same
      cases same
      exact stored
  · rintro failure last _ (⟨stays, _, silent⟩ | ⟨_, impossible⟩)
    · exact requestEnds_untouched stays silent
    · cases impossible

theorem cmdGenerate_complete (loaded : start.loaded = some store) (replace : Bool)
    (here : Untouched start host) :
    (cmdGenerate py store replace).Always (respond reading) (Moment reading request start)
      (RequestEnds reading request start) host := by
  unfold cmdGenerate
  split
  · split
    · exact ⟨moment_untouched here, requestEnds_untouched here (by simp)⟩
    · refine Prog.Always.bind (held_complete here) ?_ ?_
      · intro hold after moment untouched
        cases hold with
        | none => exact ⟨moment, requestEnds_untouched untouched (by simp)⟩
        | some record =>
            dsimp only
            cases located : locationOf (resticEnv store).repository with
            | error failure => exact ⟨moment, requestEnds_untouched untouched (by simp)⟩
            | ok location =>
                cases location with
                | none => exact ⟨moment, requestEnds_untouched untouched (by simp)⟩
                | some there =>
                    change Prog.Always _ _ _ (if _ then _ else _) _
                    split
                    · exact mintPassword_complete loaded replace untouched
                    · split
                      · exact ⟨moment, requestEnds_untouched untouched (by simp)⟩
                      · refine always_ask_bind moment (fun _ => rfl) fun drawing => ?_
                        exact rekeyAdopted_complete loaded (untouched.trans
                          (respond_resting (by trivial) after drawing)) drawing.text
      · intro failure after _ untouched
        exact requestEnds_untouched untouched (by simp)
  · exact mintPassword_complete loaded replace here

theorem cmdValidate_complete (fields : PyDict String Json) (here : Untouched start host) :
    (cmdValidate py store fields).Always (respond reading) (Moment reading request start)
      (RequestEnds reading request start) host := by
  unfold cmdValidate
  dsimp only
  split
  · exact ⟨moment_untouched here, requestEnds_untouched here (by simp)⟩
  · split
    · exact ⟨moment_untouched here, requestEnds_untouched here (by simp)⟩
    · refine Prog.Always.bind ((catConfig_complete _ _ here).weaken
        fun _ => moment_untouched) ?_ ?_
      · rintro code after moment ⟨untouched, _⟩
        exact ⟨moment, requestEnds_untouched untouched (by simp)⟩
      · rintro failure after moment ⟨untouched, _⟩
        exact requestEnds_untouched untouched (by simp)

/-- The listing says that nothing is there only where nothing is. -/
theorem locationHoldsAnything_complete (env : Env) (here : Untouched start host) :
    (locationHoldsAnything env).Always (respond reading) (Untouched start)
      (fun outcome after => Untouched start after ∧
        (outcome = .ok (some false) → start.destination = .nothing)) host := by
  unfold locationHoldsAnything
  cases locationOf env.repository with
  | error failure => exact ⟨here, here, by simp⟩
  | ok located =>
      cases located with
      | none => exact ⟨here, here, by simp⟩
      | some there =>
          change (env.run (.listDestination env)).Always _ _ _ _
          unfold Env.run
          split
          · refine ⟨here, fun choice => ⟨here, here, ?_⟩⟩
            intro answer
            simp only [respond, Except.ok.injEq] at answer
            split at answer
            · cases answer
            · rw [← here.destination]
              simpa using answer
          · exact ⟨here, here, by simp⟩

theorem storeKey_of_stored {text : String}
    (loaded : start.loaded = some store)
    (same : (storedPassword store).getD (.str "") = .str text) (truthy : text ≠ "") :
    start.storeKey reading = some (reading (text ++ "\n")) := by
  have stored : storedPassword store = some (.str text) := by
    cases found : storedPassword store with
    | none =>
        rw [found] at same
        cases same
        exact absurd rfl truthy
    | some value =>
        rw [found] at same
        exact congrArg some same
  unfold Host.storeKey
  rw [storePassword_eq, loaded]
  simp [stored]

/-- What `restic init` leaves where nothing was. -/
theorem init_respond (env : Env) (file : Nat) (choice : Choice) (here : Untouched start host)
    (asked : IsInit request) (nothing : start.destination = .nothing) {key : String}
    (content : host.keyIn reading file = some key)
    (stored : start.storeKey reading = some key) :
    Settled reading request start (respond reading host choice (.init env file)).1 := by
  unfold respond
  cases choice.fails with
  | true => exact Or.inl here
  | false =>
      have there : host.destination = .nothing := here.destination.trans nothing
      simp only [Bool.false_eq_true, if_false, Host.create, there, content]
      exact Or.inr (Or.inr ⟨asked, here.store, nothing, key, rfl, stored⟩)

theorem Settled.stays {other : Host} (settled : Settled reading request start host)
    (same : Untouched host other) : Settled reading request start other := by
  rcases settled with untouched | ⟨new, stored⟩ | ⟨asked, created⟩
  · exact Or.inl (untouched.trans same)
  · exact Or.inr (Or.inl ⟨new, stored.stays same⟩)
  · exact Or.inr (Or.inr ⟨asked, created.stays same⟩)

theorem create_complete (env : Env) (file : Nat) (here : Untouched start host)
    (asked : IsInit request) (nothing : start.destination = .nothing) {key : String}
    (content : host.keyIn reading file = some key)
    (stored : start.storeKey reading = some key) :
    (Prog.tryFinally (env.run (.init env file)) (unlink file)).Always (respond reading)
      (Moment reading request start) (fun _ after => Settled reading request start after)
      host := by
  unfold Prog.tryFinally
  rw [Prog.always_andThen]
  unfold Env.run
  split
  · refine ⟨moment_untouched here, fun choice => ?_⟩
    have settled := init_respond env file choice here asked nothing content stored
    have unlinked : Settled reading request start
        (respond reading (respond reading host choice (.init env file)).1 .ok
          (.unlinkTemp file)).1 :=
      settled.stays (respond_resting (by trivial) _ _)
    exact ⟨Or.inl settled, unlinked_always (Or.inl settled) (Or.inl unlinked) unlinked⟩
  · have unlinked : Untouched start (respond reading host .ok (.unlinkTemp file)).1 :=
      here.trans (respond_resting (by trivial) _ _)
    exact ⟨moment_untouched here, unlinked_always (moment_untouched here)
      (moment_untouched unlinked) (Or.inl unlinked)⟩

/-- The stored password in a file of its own, with the key it opens. -/
theorem storedFile_complete (loaded : start.loaded = some store)
    (truthy : ((storedPassword store).getD (.str "")).truthy = true)
    (here : Untouched start host) :
    (writeSecretFile ((storedPassword store).getD (.str ""))).Always (respond reading)
      (Moment reading request start)
      (fun outcome after => Untouched start after ∧ ∀ file, outcome = .ok file →
        ∃ key, after.keyIn reading file = some key ∧ start.storeKey reading = some key)
      host := by
  have written := @writeSecretFile_complete reading start host
    ((storedPassword store).getD (.str "")) here
  refine (written.mono ?_).weaken fun _ => moment_untouched
  intro outcome after untouched content
  refine ⟨untouched, ?_⟩
  intro file same
  obtain ⟨text, password, key⟩ := content file same
  have nonempty : text ≠ "" := by
    rw [password] at truthy
    simpa [Json.truthy] using truthy
  exact ⟨_, key, storeKey_of_stored loaded password nonempty⟩

theorem cmdInit_complete (loaded : start.loaded = some store) (asked : IsInit request)
    (here : Untouched start host) :
    (cmdInit store).Always (respond reading) (Moment reading request start)
      (RequestEnds reading request start) host := by
  have refused {after : Host} {text : String} (untouched : Untouched start after) :
      RequestEnds reading request start (.ok (.refused text)) after :=
    requestEnds_untouched untouched (by simp)
  unfold cmdInit
  dsimp only
  split
  · exact ⟨moment_untouched here, refused here⟩
  · split
    · exact ⟨moment_untouched here, refused here⟩
    · rename_i truthy
      refine Prog.Always.bind ((catConfig_complete _ _ here).weaken
        fun _ => moment_untouched) ?_ ?_
      · rintro code after moment ⟨untouched, _⟩
        split
        · exact ⟨moment, requestEnds_untouched untouched (by simp)⟩
        · split
          · exact ⟨moment, refused untouched⟩
          · split
            · exact ⟨moment, refused untouched⟩
            · refine Prog.Always.bind ((locationHoldsAnything_complete _ untouched).weaken
                fun _ => moment_untouched) ?_ ?_
              · rintro listed last lastMoment ⟨lastUntouched, empty⟩
                cases listed with
                | none => exact ⟨lastMoment, refused lastUntouched⟩
                | some anything =>
                    cases anything with
                    | true => exact ⟨lastMoment, refused lastUntouched⟩
                    | false =>
                        refine Prog.Always.bind (storedFile_complete loaded
                          (by simpa using truthy) lastUntouched) ?_ ?_
                        · rintro file final _ ⟨finalUntouched, content⟩
                          obtain ⟨key, opens, stored⟩ := content file rfl
                          refine Prog.Always.bind (create_complete _ file finalUntouched
                            asked (empty rfl) opens stored) ?_ ?_
                          · rintro ⟨code, stderr⟩ ended settledMoment settled
                            dsimp only
                            split
                            · exact ⟨settledMoment, settled, by simp⟩
                            · exact ⟨settledMoment, settled, by simp⟩
                          · exact fun failure ended _ settled => ⟨settled, by simp⟩
                        · rintro failure final _ ⟨finalUntouched, _⟩
                          exact requestEnds_untouched finalUntouched (by simp)
              · rintro failure last _ ⟨lastUntouched, _⟩
                exact requestEnds_untouched lastUntouched (by simp)
      · rintro failure after moment ⟨untouched, _⟩
        exact requestEnds_untouched untouched (by simp)

theorem readStore_complete (here : Untouched start host) :
    (ask .readStore >>= fun file => Prog.lift (loadStore file)).Always (respond reading)
      (Moment reading request start)
      (fun outcome after => Untouched start after ∧
        ∀ store, outcome = .ok store → start.loaded = some store) host := by
  refine ⟨moment_untouched here, fun choice => ?_⟩
  have untouched : Untouched start (respond reading host choice .readStore).1 :=
    here.trans (respond_resting (by trivial) host choice)
  have moment : Moment reading request start (respond reading host choice .readStore).1 :=
    moment_untouched untouched
  cases answer : (respond reading host choice .readStore).2 with
  | error failure => exact ⟨moment, untouched, by simp⟩
  | ok file =>
      refine ⟨moment, untouched, ?_⟩
      intro store read
      simp only [respond, act, here.store] at answer
      unfold Host.loaded
      cases found : start.store with
      | none =>
          simp only [found] at answer
          cases answer
          simp only [read, Except.toOption]
      | some bytes =>
          cases bytes with
          | none =>
              simp only [found] at answer
              cases answer
          | some document =>
              simp only [found] at answer
              cases answer
              simp only [read, Except.toOption]

theorem main_complete (host : Host) (request : Json) :
    (main py request).Always (respond reading) (Moment reading request host)
      (RequestEnds reading request host) host := by
  have here := Untouched.refl host
  unfold main
  cases request with
  | obj fields =>
      refine Prog.Always.bind (readStore_complete here) ?_ ?_
      · rintro store after moment ⟨untouched, loaded⟩
        have loaded := loaded store rfl
        split
        · exact cmdGenerate_complete loaded _ untouched
        · exact cmdValidate_complete fields untouched
        · exact cmdRotate_complete loaded fields untouched
        · rename_i asked
          exact cmdInit_complete loaded ⟨fields, rfl, asked⟩ untouched
        · exact ⟨moment, requestEnds_untouched untouched (by simp)⟩
      · rintro failure after _ ⟨untouched, _⟩
        exact requestEnds_untouched untouched (by simp)
  | _ => exact ⟨moment_untouched here, requestEnds_untouched here (by simp)⟩

end Requests

/-! ### Every request of a run -/

theorem keepsKey (reading : String → String) (py : Builtins) (host : Host) (call : Call) :
    KeepsKey reading py host call := by
  have always := @main_complete reading py (host.receive call) call.request
  have ended := always.finish call.choices
  have moments := always.moments call.choices
  refine ⟨?_, ?_, ?_, ?_⟩
  · intro opens
    exact ended.1.opens opens
  · intro moment found changed key named
    exact (moments moment found).stores changed named
  · intro moment found key repository
    exact (moments moment found).creates repository
  · intro password minted
    exact (ended.2 password minted).password

/-- Complete requests, any number of them and under any hold records, keep the
key: each of them owes it what `KeepsKey` says, and a stored password that
opened the repository before the first of them opens it after the last. -/
theorem complete_requests_keep_key (reading : String → String) (py : Builtins)
    (start : Host) (calls : List Call) :
    Runs.Throughout (afterRequest reading py) (KeepsKey reading py) start calls ∧
      (Opens reading start → Opens reading (Runs.run (afterRequest reading py) start calls)) := by
  refine ⟨Runs.throughout_of_always (keepsKey reading py), ?_⟩
  exact Runs.persists fun host call => (keepsKey reading py host call).opens

/-- A server with a destination and no password yet: one is generated, the
repository is made, and the password is rotated. -/
example :
    let server : Host :=
      { store := some (some (.obj
          [("secrets", .obj [("backup_s3_access_key", .str "a"),
              ("backup_s3_secret_key", .str "s")]),
            ("config", .obj [("BACKUP_RESTIC_REPO", .str "s3:https://s3.example/b")])]))
        storeTmp := none
        passFile := none
        heldFile := none
        temps := []
        nextTemp := 0
        destination := .nothing }
    let calls := [[("op", Json.str "generate")], [("op", .str "init")],
        [("op", .str "rotate"), ("new_password", .str "second")]].map
      fun fields => Call.mk (.obj fields) none fun _ => ⟨false, 0, "first"⟩
    let visited := (List.range 4).map fun count =>
      Runs.run (afterRequest PyText.strip Builtins.unused) server (calls.take count)
    visited.map Host.destination =
        [.nothing, .nothing, .repository "first", .repository "second"] ∧
      visited.map (Host.storeKey PyText.strip) =
        [none, some "first", some "first", some "second"] := by
  decide +kernel

end Catena.ResticKey

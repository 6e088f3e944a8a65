import Catena.Store

/-!
# What the stages of a store run do

Every loop of the store helper assigns key by key, so its effect on a section
is a function of each key's own value.  The lemmas here give that function
once; the results about whole runs read it.
-/

namespace Catena.Store

namespace Tally

theorem get_update (tally : Tally) (key wanted : String)
    (decision : Option Json → Option Json) :
    PyDict.get (tally.update key decision).section_ wanted =
      if key = wanted then
        (decision (PyDict.get tally.section_ wanted)).or
          (PyDict.get tally.section_ wanted)
      else PyDict.get tally.section_ wanted := by
  unfold update
  by_cases same : key = wanted
  · subst same
    cases decided : decision (PyDict.get tally.section_ key) <;> simp
  · cases decided : decision (PyDict.get tally.section_ key) <;>
      simp [same, PyDict.get_set]

theorem nodup_update {tally : Tally}
    (nodup : (PyDict.keys tally.section_).Nodup) (key : String)
    (decision : Option Json → Option Json) :
    (PyDict.keys (tally.update key decision).section_).Nodup := by
  unfold update
  cases decision (PyDict.get tally.section_ key) with
  | none => exact nodup
  | some value => exact PyDict.nodup_keys_set nodup key value

theorem keys_update_of_mem {tally : Tally} {key : String}
    (present : key ∈ PyDict.keys tally.section_)
    (decision : Option Json → Option Json) :
    PyDict.keys (tally.update key decision).section_ =
      PyDict.keys tally.section_ := by
  unfold update
  cases decision (PyDict.get tally.section_ key) with
  | none => rfl
  | some value => exact PyDict.keys_set_of_mem present value

/-- What a loop makes of the value of one key. -/
def resolve {ι : Type*} (keyOf : ι → String)
    (decide : ι → Option Json → Option Json) (items : List ι)
    (wanted : String) (current : Option Json) : Option Json :=
  items.foldl (fun value item =>
    if keyOf item = wanted then (decide item value).or value else value) current

section Loop

variable {ι : Type*} (keyOf : ι → String)
  (decide : ι → Option Json → Option Json)

theorem get_foldl_update (items : List ι) (tally : Tally) (wanted : String) :
    PyDict.get (items.foldl (fun built item =>
        built.update (keyOf item) (decide item)) tally).section_ wanted =
      resolve keyOf decide items wanted (PyDict.get tally.section_ wanted) := by
  induction items generalizing tally with
  | nil => rfl
  | cons item rest ih =>
      rw [List.foldl_cons, ih, get_update]
      rfl

theorem nodup_foldl_update (items : List ι) {tally : Tally}
    (nodup : (PyDict.keys tally.section_).Nodup) :
    (PyDict.keys (items.foldl (fun built item =>
      built.update (keyOf item) (decide item)) tally).section_).Nodup := by
  induction items generalizing tally with
  | nil => exact nodup
  | cons item rest ih => exact ih (nodup_update nodup _ _)

theorem keys_foldl_update_of_mem (items : List ι) {tally : Tally}
    (present : ∀ item ∈ items, (decide item = fun _ => none) ∨
      keyOf item ∈ PyDict.keys tally.section_) :
    PyDict.keys (items.foldl (fun built item =>
      built.update (keyOf item) (decide item)) tally).section_ =
      PyDict.keys tally.section_ := by
  induction items generalizing tally with
  | nil => rfl
  | cons item rest ih =>
      have sameKeys : PyDict.keys (tally.update (keyOf item)
          (decide item)).section_ = PyDict.keys tally.section_ := by
        rcases present item (by simp) with idle | member
        · simp [update, idle]
        · exact keys_update_of_mem member _
      rw [List.foldl_cons, ih, sameKeys]
      intro later laterMem
      rw [sameKeys]
      exact present later (by simp [laterMem])

/-- The keys reported so far play no part in what is assigned. -/
theorem section_foldl_update (items : List ι) {first second : Tally}
    (same : first.section_ = second.section_) :
    (items.foldl (fun built item =>
        built.update (keyOf item) (decide item)) first).section_ =
      (items.foldl (fun built item =>
        built.update (keyOf item) (decide item)) second).section_ := by
  induction items generalizing first second with
  | nil => exact same
  | cons item rest ih =>
      apply ih
      simp only [update, same]
      cases decide item (PyDict.get second.section_ (keyOf item)) with
      | none => exact same
      | some value => rfl

theorem resolve_of_not_mem (items : List ι) {wanted : String}
    (absent : ∀ item ∈ items, keyOf item ≠ wanted) (current : Option Json) :
    resolve keyOf decide items wanted current = current := by
  induction items with
  | nil => rfl
  | cons item rest ih =>
      simp only [resolve, List.foldl_cons, absent item (by simp), if_false]
      exact ih fun later laterMem => absent later (by simp [laterMem])

/-- A property every decision establishes and no decision takes away holds of
the value a loop leaves. -/
theorem resolve_induction (holds : Option Json → Prop) (items : List ι)
    {wanted : String} {current : Option Json} (start : holds current)
    (step : ∀ item ∈ items, ∀ before value,
      decide item before = some value → holds (some value)) :
    holds (resolve keyOf decide items wanted current) := by
  induction items generalizing current with
  | nil => exact start
  | cons item rest ih =>
      refine ih ?_ fun later laterMem => step later (by simp [laterMem])
      by_cases same : keyOf item = wanted
      · cases decided : decide item current with
        | none => simpa [same, decided] using start
        | some value =>
            simpa [same, decided] using step item (by simp) _ _ decided
      · simpa [same] using start

/-- A loop over distinct keys decides about each of them once. -/
theorem resolve_of_mem {items : List ι} (nodup : (items.map keyOf).Nodup)
    {item : ι} (member : item ∈ items) (current : Option Json) :
    resolve keyOf decide items (keyOf item) current =
      (decide item current).or current := by
  induction items generalizing current with
  | nil => simp at member
  | cons first rest ih =>
      simp only [List.map_cons, List.nodup_cons] at nodup
      rcases List.mem_cons.mp member with rfl | later
      · have absent : ∀ other ∈ rest, keyOf other ≠ keyOf item := by
          intro other otherMem same
          exact nodup.1 (same ▸ List.mem_map_of_mem otherMem)
        simpa [resolve] using resolve_of_not_mem keyOf decide rest absent _
      · have different : keyOf first ≠ keyOf item := by
          intro same
          exact nodup.1 (same ▸ List.mem_map_of_mem later)
        simpa [resolve, different] using ih nodup.2 later current

end Loop

/-- A loop over the items of a dictionary decides by the value it gives the
key, if any. -/
theorem resolve_items (decide : Json → Option Json → Option Json)
    {items : PyDict String Json} (nodup : (PyDict.keys items).Nodup)
    (wanted : String) (current : Option Json) :
    resolve Prod.fst (fun item => decide item.2) items wanted current =
      match PyDict.get items wanted with
      | none => current
      | some value => (decide value current).or current := by
  cases found : PyDict.get items wanted with
  | none =>
      refine resolve_of_not_mem _ _ _ ?_ current
      rintro item member rfl
      exact (PyDict.get_eq_none_iff items _).mp found
        (List.mem_map_of_mem member)
  | some value =>
      exact resolve_of_mem Prod.fst (fun item => decide item.2) nodup
        (PyDict.mem_of_get found) current

end Tally

theorem secretDecision_some {overwrite : Bool} {value assigned : Json}
    {current : Option Json}
    (decided : secretDecision overwrite value current = some assigned) :
    assigned = value ∧ value.blank = false := by
  unfold secretDecision at decided
  split at decided
  · simp at decided
  · split at decided
    · simp at decided
    · split at decided
      · simp at decided
      · rename_i notBlank _ _
        exact ⟨by simpa using decided.symm, by simpa using notBlank⟩

theorem configDecision_some {overwrite : Bool} {value assigned : Json}
    {current : Option Json}
    (decided : configDecision overwrite value current = some assigned) :
    assigned = value := by
  unfold configDecision at decided
  split at decided
  · simp at decided
  · split at decided
    · simp at decided
    · simpa using decided.symm

theorem get_foldl_captureSecret (overwrite : Bool) (items : List (String × Json))
    (tally : Tally) (wanted : String) :
    PyDict.get (items.foldl (captureSecret overwrite) tally).section_ wanted =
      Tally.resolve Prod.fst (fun item => secretDecision overwrite item.2)
        items wanted (PyDict.get tally.section_ wanted) :=
  Tally.get_foldl_update Prod.fst
    (fun item => secretDecision overwrite item.2) items tally wanted

theorem get_foldl_captureConfig (overwrite : Bool) (items : List (String × Json))
    (tally : Tally) (wanted : String) :
    PyDict.get (items.foldl (captureConfig overwrite) tally).section_ wanted =
      Tally.resolve Prod.fst (fun item => configDecision overwrite item.2)
        items wanted (PyDict.get tally.section_ wanted) :=
  Tally.get_foldl_update Prod.fst
    (fun item => configDecision overwrite item.2) items tally wanted

/-- Every key is one `apply_inputs` accepts into the secrets. -/
def AllExternal (items : List (String × Json)) : Prop :=
  ∀ item ∈ items, item.1 ∈ externalSecrets

instance (items : List (String × Json)) : Decidable (AllExternal items) :=
  inferInstanceAs (Decidable (∀ item ∈ items, item.1 ∈ externalSecrets))

theorem allExternal_cons (item : String × Json) (rest : List (String × Json)) :
    AllExternal (item :: rest) ↔
      item.1 ∈ externalSecrets ∧ AllExternal rest :=
  List.forall_mem_cons

/-- The inputs of an `apply_inputs` call that raises nothing. -/
structure Inputs where
  zone : Option Json
  secretItems : List (String × Json)
  configItems : List (String × Json)
  external : AllExternal secretItems

/-- The first key `apply_inputs` refuses. -/
def firstRefused (items : List (String × Json)) : String :=
  ((items.find? fun item => item.1 ∉ externalSecrets).map Prod.fst).getD ""

/-- Reading the inputs decides on its own whether `apply_inputs` raises. -/
def readInputs (secretsIn configIn : Json) : Except PyError Inputs := do
  let zone ← requestedZone configIn
  let secretItems ← itemsOf secretsIn
  if external : AllExternal secretItems then
    let configItems ← itemsOf configIn
    return ⟨zone, secretItems, configItems, external⟩
  else throw (notExternal (firstRefused secretItems))

/-- The token step of `apply_inputs`. -/
def keepOutgoing (py : Builtins) (zone : Option Json) (store : Store) :
    Store × Option String :=
  match zone with
  | none => (store, none)
  | some zone => preserveToken py store zone

/-- The merge `apply_inputs` makes of inputs it accepts. -/
def merge (py : Builtins) (inputs : Inputs) (overwrite : Bool) (store : Store) :
    Store × List String :=
  let (store, preserved) := keepOutgoing py inputs.zone store
  let changed := if preserved.isSome then ["cloudflare_api_tokens"] else []
  let secrets := inputs.secretItems.foldl (captureSecret overwrite)
    ⟨store.secrets, changed⟩
  let config := inputs.configItems.foldl (captureConfig overwrite)
    ⟨store.config, secrets.changed⟩
  (⟨secrets.section_, config.section_⟩, config.changed)

theorem applySecrets_eq (overwrite : Bool) (items : List (String × Json))
    (tally : Tally) :
    applySecrets overwrite items tally =
      if AllExternal items then
        .ok (items.foldl (captureSecret overwrite) tally)
      else .error (notExternal (firstRefused items)) := by
  induction items generalizing tally with
  | nil => simp [applySecrets, AllExternal]
  | cons item rest ih =>
      by_cases external : item.1 ∈ externalSecrets
      · simp [applySecrets, allExternal_cons, external, ih, firstRefused]
      · simp [applySecrets, allExternal_cons, external, firstRefused]

/-- `apply_inputs` raises for its inputs alone, and otherwise merges them. -/
theorem applyInputs_eq (py : Builtins) (secretsIn configIn : Json)
    (overwrite : Bool) (store : Store) :
    applyInputs py secretsIn configIn overwrite store =
      (readInputs secretsIn configIn).map fun inputs =>
        merge py inputs overwrite store := by
  unfold applyInputs readInputs preserveOutgoingZoneToken
  cases requestedZone configIn with
  | error failure => rfl
  | ok zone =>
      cases itemsOf secretsIn with
      | error failure => cases zone <;> rfl
      | ok secretItems =>
          by_cases external : AllExternal secretItems
          · cases zone <;> cases itemsOf configIn <;>
              simp only [bind, Except.bind, applySecrets_eq, external,
                if_true, dite_true] <;> rfl
          · cases zone <;>
              simp only [bind, Except.bind, applySecrets_eq, external,
                if_false, dite_false] <;> rfl

@[simp]
theorem itemsOf_obj (fields : List (String × Json)) :
    itemsOf (.obj fields) = .ok fields := by
  cases fields <;> rfl

@[simp]
theorem requestedZone_obj (fields : List (String × Json)) :
    requestedZone (.obj fields) = .ok (PyDict.get fields "CLOUDFLARE_ZONE") := by
  cases fields <;> rfl

/-- Inputs given as dictionaries are refused for a key alone. -/
theorem readInputs_obj (secretsIn configIn : List (String × Json)) :
    readInputs (.obj secretsIn) (.obj configIn) =
      if external : AllExternal secretsIn then
        .ok ⟨PyDict.get configIn "CLOUDFLARE_ZONE", secretsIn, configIn, external⟩
      else .error (notExternal (firstRefused secretsIn)) := by
  simp only [readInputs, requestedZone_obj, itemsOf_obj]
  rfl

/-- The token step leaves the config alone, and changes at most the per-zone
token map, which it leaves an object. -/
theorem keepOutgoing_spec (py : Builtins) (zone : Option Json) (store : Store) :
    (keepOutgoing py zone store).1.config = store.config ∧
      ((keepOutgoing py zone store).1.secrets = store.secrets ∨
        ∃ fields, (keepOutgoing py zone store).1.secrets =
          PyDict.set store.secrets "cloudflare_api_tokens" (.obj fields)) := by
  cases zone with
  | none => exact ⟨rfl, Or.inl rfl⟩
  | some zone =>
      simp only [keepOutgoing, preserveToken]
      split
      · exact ⟨rfl, Or.inl rfl⟩
      · split
        · exact ⟨rfl, Or.inl rfl⟩
        · exact ⟨rfl, Or.inr ⟨_, rfl⟩⟩

theorem get_keepOutgoing_of_ne (py : Builtins) (zone : Option Json)
    (store : Store) {key : String} (different : key ≠ "cloudflare_api_tokens") :
    PyDict.get (keepOutgoing py zone store).1.secrets key =
      PyDict.get store.secrets key := by
  rcases (keepOutgoing_spec py zone store).2 with same | ⟨fields, written⟩
  · rw [same]
  · rw [written, PyDict.get_set_ne _ _ (Ne.symm different)]

theorem get_merge_secrets (py : Builtins) (inputs : Inputs) (overwrite : Bool)
    (store : Store) (key : String) :
    PyDict.get (merge py inputs overwrite store).1.secrets key =
      Tally.resolve Prod.fst (fun item => secretDecision overwrite item.2)
        inputs.secretItems key
        (PyDict.get (keepOutgoing py inputs.zone store).1.secrets key) :=
  get_foldl_captureSecret overwrite inputs.secretItems _ key

theorem get_merge_config (py : Builtins) (inputs : Inputs) (overwrite : Bool)
    (store : Store) (key : String) :
    PyDict.get (merge py inputs overwrite store).1.config key =
      Tally.resolve Prod.fst (fun item => configDecision overwrite item.2)
        inputs.configItems key (PyDict.get store.config key) := by
  rw [← (keepOutgoing_spec py inputs.zone store).1]
  exact get_foldl_captureConfig overwrite inputs.configItems _ key

/-- No section repeats a key, as in every dictionary Python reads. -/
structure DistinctKeys (store : Store) : Prop where
  secrets : (PyDict.keys store.secrets).Nodup
  config : (PyDict.keys store.config).Nodup

theorem nodup_dictOf {value : Option Json} {items : PyDict String Json}
    (read : dictOf value = .ok items) : (PyDict.keys items).Nodup := by
  unfold dictOf at read
  split at read
  · simp only [Except.ok.injEq] at read
    simp [← read, PyDict.keys]
  · simp only [Except.ok.injEq] at read
    rw [← read]
    exact PyDict.nodup_keys_ofPairs _
  · split at read
    · simp at read
    · simp only [Except.ok.injEq] at read
      simp [← read, PyDict.keys]

theorem load_distinctKeys {file : Option Json} {store : Store}
    (read : load file = .ok store) : DistinctKeys store := by
  match file, read with
  | none, read =>
      simp only [load, Except.ok.injEq] at read
      subst read
      exact ⟨by simp [PyDict.keys], by simp [PyDict.keys]⟩
  | some (.obj raw), read =>
      simp only [load, bind, Except.bind, pure, Except.pure] at read
      cases secretsRead : dictOf (PyDict.get raw "secrets") with
      | error failure => simp [secretsRead] at read
      | ok secrets =>
          cases configRead : dictOf (PyDict.get raw "config") with
          | error failure => simp [secretsRead, configRead] at read
          | ok config =>
              simp only [secretsRead, configRead, Except.ok.injEq] at read
              subst read
              exact ⟨nodup_dictOf secretsRead, nodup_dictOf configRead⟩

theorem merge_distinctKeys (py : Builtins) (inputs : Inputs) (overwrite : Bool)
    {store : Store} (distinct : DistinctKeys store) :
    DistinctKeys (merge py inputs overwrite store).1 := by
  obtain ⟨sameConfig, secretsCases⟩ := keepOutgoing_spec py inputs.zone store
  have priorSecrets :
      (PyDict.keys (keepOutgoing py inputs.zone store).1.secrets).Nodup := by
    rcases secretsCases with same | ⟨fields, written⟩
    · rw [same]
      exact distinct.secrets
    · rw [written]
      exact PyDict.nodup_keys_set distinct.secrets _ _
  have priorConfig :
      (PyDict.keys (keepOutgoing py inputs.zone store).1.config).Nodup := by
    rw [sameConfig]
    exact distinct.config
  exact ⟨Tally.nodup_foldl_update Prod.fst
      (fun item => secretDecision overwrite item.2) _ priorSecrets,
    Tally.nodup_foldl_update Prod.fst
      (fun item => configDecision overwrite item.2) _ priorConfig⟩

theorem applyInputs_distinctKeys {py : Builtins} {secretsIn configIn : Json}
    {overwrite : Bool} {store applied : Store} {changed : List String}
    (distinct : DistinctKeys store)
    (accepted : applyInputs py secretsIn configIn overwrite store =
      .ok (applied, changed)) : DistinctKeys applied := by
  rw [applyInputs_eq] at accepted
  cases read : readInputs secretsIn configIn with
  | error failure => simp [read, Except.map] at accepted
  | ok inputs =>
      simp only [read, Except.map, Except.ok.injEq] at accepted
      have merged := merge_distinctKeys py inputs overwrite distinct
      rwa [accepted] at merged

/-- A top-level block of the file. -/
def block (file : Option Json) (key : String) : Option Json :=
  match file with
  | some (.obj raw) => PyDict.get raw key
  | _ => none

theorem dump_of_load {file : Option Json} {store : Store}
    (read : load file = .ok store) (written : Store) :
    ∃ document, dump written file = .ok document := by
  match file, read with
  | none, _ => exact ⟨_, rfl⟩
  | some (.obj raw), _ => exact ⟨_, rfl⟩

/-- The next read finds what was written. -/
theorem load_dump {file : Option Json} {store : Store} {document : Json}
    (distinct : DistinctKeys store) (written : dump store file = .ok document) :
    load (some document) = .ok store := by
  match file, written with
  | none, written =>
      simp only [dump, Except.ok.injEq] at written
      subst written
      simp [load, PyDict.get, dictOf, bind, Except.bind, pure, Except.pure,
        PyDict.ofPairs_of_nodup distinct.secrets,
        PyDict.ofPairs_of_nodup distinct.config]
  | some (.obj raw), written =>
      simp only [dump, Except.ok.injEq] at written
      subst written
      simp [load, PyDict.get_set, dictOf, bind, Except.bind, pure, Except.pure,
        PyDict.ofPairs_of_nodup distinct.secrets,
        PyDict.ofPairs_of_nodup distinct.config]

theorem block_dump {file : Option Json} {store : Store} {document : Json}
    (written : dump store file = .ok document) {key : String}
    (notSecrets : key ≠ "secrets") (notConfig : key ≠ "config") :
    block (some document) key = block file key := by
  match file, written with
  | none, written =>
      simp only [dump, Except.ok.injEq] at written
      subst written
      simp [block, PyDict.get, Ne.symm notSecrets, Ne.symm notConfig]
  | some (.obj raw), written =>
      simp only [dump, Except.ok.injEq] at written
      subst written
      simp [block, PyDict.get_set, Ne.symm notSecrets, Ne.symm notConfig]

end Catena.Store

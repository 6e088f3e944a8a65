import Catena.SettingsApi

/-!
# The converge loader

`onbox_config.main` as a converge runs it: read the store, adopt and apply
what the run was given, settle the tailnet provider, mint what is missing and
write the store back.  A run completes exactly when its own arguments are
well formed and the stored list of zones can be gone through.
-/

namespace Catena.Store

/-- Which secrets a run mints: all of them, `--mint-user-held` or
`--no-mint`. -/
inductive MintMode where
  | full
  | userHeld
  | none
  deriving DecidableEq

/-- The arguments of a loader run. -/
structure LoaderArgs where
  adopt : Option Json
  setSecret : List String
  setConfig : List String
  overwrite : Bool
  mintMode : MintMode

/-- `_parse_kv`, with the values as JSON strings. -/
def parseKv (py : Builtins) :
    List String → PyDict String Json → Except PyError (PyDict String Json)
  | [], parsed => .ok parsed
  | pair :: rest, parsed =>
      match PyText.partition '=' pair.toList with
      | none => .error (.systemExit
          ("expected KEY=VALUE, got " ++ py.repr (.str pair)))
      | some (key, value) =>
          parseKv py rest (PyDict.set parsed
            (PyText.strip (String.ofList key)) (.str (String.ofList value)))

/-- The mapping `--adopt-file` holds. -/
def readAdopt : Option Json → Except PyError (PyDict String Json)
  | none => .ok []
  | some .null => .ok []
  | some (.obj fields) => .ok (PyDict.ofPairs fields)
  | some _ => .error (.systemExit "--adopt-*: expected a JSON object")

def mint (py : Builtins) (draw : String → Minter → String) (mode : MintMode)
    (store : Store) : Except PyError Store :=
  match mode with
  | .none => .ok store
  | .userHeld => .ok (ensureUserHeldSecrets draw store).1
  | .full =>
      (ensureInternalSecrets py draw store).map fun minted =>
        (ensureUserHeldSecrets draw minted.1).1

/-- The end of a run, from the settled store on. -/
def mintAndDump (py : Builtins) (draw : String → Minter → String)
    (mode : MintMode) (store : Store) : FileRun Store := do
  let minted ← FileRun.reading fun _ => mint py draw mode store
  let document ← FileRun.reading (dump minted)
  FileRun.writing document
  return minted

def loader (py : Builtins) (draw : String → Minter → String)
    (args : LoaderArgs) (lockHeld : Bool) : FileRun Store := do
  let incoming ← FileRun.reading fun _ => readAdopt args.adopt
  storeLock lockHeld
  let store ← FileRun.reading load
  let adopted := (adopt args.overwrite incoming store).1
  let secretsIn ← FileRun.reading fun _ => parseKv py args.setSecret []
  let configIn ← FileRun.reading fun _ => parseKv py args.setConfig []
  let (applied, _) ← FileRun.reading fun _ =>
    applyInputs py (.obj secretsIn) (.obj configIn) args.overwrite adopted
  mintAndDump py draw args.mintMode (settleTailnetProvider py applied).1

/-- The arguments of a run once they are read. -/
structure Prepared where
  incoming : PyDict String Json
  inputs : Inputs

/-- Reading the arguments; the store plays no part in it. -/
def prepare (py : Builtins) (args : LoaderArgs) : Except PyError Prepared :=
  match readAdopt args.adopt with
  | .error failure => .error failure
  | .ok incoming =>
      match parseKv py args.setSecret [] with
      | .error failure => .error failure
      | .ok secretsIn =>
          match parseKv py args.setConfig [] with
          | .error failure => .error failure
          | .ok configIn =>
              (readInputs (.obj secretsIn) (.obj configIn)).map fun inputs =>
                ⟨incoming, inputs⟩

/-- The stages between the read and the mint. -/
def settle (py : Builtins) (prepared : Prepared) (overwrite : Bool)
    (store : Store) : Store :=
  (settleTailnetProvider py
    (merge py prepared.inputs overwrite
      (adopt overwrite prepared.incoming store).1).1).1

theorem exec_mintAndDump_eq_ok_iff (py : Builtins)
    (draw : String → Minter → String) (mode : MintMode)
    (file after : Option Json) (store result : Store) :
    FileRun.exec (mintAndDump py draw mode store) file = (.ok result, after) ↔
      ∃ document, mint py draw mode store = .ok result ∧
        dump result file = .ok document ∧ after = some document := by
  simp only [mintAndDump, FileRun.exec_reading_bind]
  cases mint py draw mode store with
  | error failure => simp
  | ok minted =>
      dsimp only
      cases written : dump minted file with
      | error failure =>
          simp only [Prod.mk.injEq, reduceCtorEq, false_and, Except.ok.injEq,
            false_iff, not_exists, not_and]
          rintro document rfl rewritten
          rw [written] at rewritten
          simp at rewritten
      | ok document =>
          simp only [FileRun.exec_writing_bind, FileRun.exec_pure,
            Prod.mk.injEq, Except.ok.injEq]
          constructor
          · rintro ⟨rfl, rfl⟩
            exact ⟨document, rfl, written, rfl⟩
          · rintro ⟨again, rfl, rewritten, rfl⟩
            rw [written, Except.ok.injEq] at rewritten
            exact ⟨rfl, congrArg some rewritten⟩

/-- A loader run completes, on a file it can read, when its arguments can be
read and the mint stage raises nothing. -/
theorem exec_loader_eq_ok_iff (py : Builtins) (draw : String → Minter → String)
    (args : LoaderArgs) (lockHeld : Bool) (file after : Option Json)
    (result : Store) :
    FileRun.exec (loader py draw args lockHeld) file = (.ok result, after) ↔
      ∃ prepared store document, prepare py args = .ok prepared ∧
        lockHeld = false ∧ load file = .ok store ∧
        mint py draw args.mintMode (settle py prepared args.overwrite store) =
          .ok result ∧
        dump result file = .ok document ∧ after = some document := by
  simp only [loader, storeLock, FileRun.exec_reading_bind, prepare,
    applyInputs_eq]
  cases readAdopt args.adopt with
  | error failure => simp
  | ok incoming =>
      cases lockHeld with
      | true => simp
      | false =>
          cases load file with
          | error failure => simp
          | ok store =>
              cases parseKv py args.setSecret [] with
              | error failure => simp
              | ok secretsIn =>
                  cases parseKv py args.setConfig [] with
                  | error failure => simp
                  | ok configIn =>
                      dsimp only
                      cases readInputs (.obj secretsIn) (.obj configIn) with
                      | error failure => simp [Except.map]
                      | ok inputs =>
                          simp only [Except.map, settle, Except.ok.injEq,
                            true_and, Bool.false_eq_true, if_false]
                          rw [exec_mintAndDump_eq_ok_iff]
                          constructor
                          · rintro ⟨document, completed⟩
                            exact ⟨_, _, document, rfl, rfl, completed⟩
                          · rintro ⟨_, _, document, rfl, rfl, completed⟩
                            exact ⟨document, completed⟩

/-- A value `for z in value or []` can go through. -/
def Iterable (value : Json) : Prop :=
  value.truthy = true → (iterate value).isSome = true

/-- A `CLOUDFLARE_ZONES` whose zones can be listed: no non-zero number and not
`true`, nor a string whose JSON is one or nests too deep. -/
def ZonesReadable (py : Builtins) : Json → Prop
  | .str text => py.tooDeep text = false ∧ ∀ value, py.loads text = some value → Iterable value
  | value => Iterable value

theorem listZones_ok_iff (value : Json) :
    (∃ names, listZones value = .ok names) ↔ Iterable value := by
  unfold listZones Iterable
  cases value.truthy with
  | false => simp
  | true => cases iterate value <;> simp

theorem configuredZoneNames_ok_iff (py : Builtins) (zones : Json) :
    (∃ names, configuredZoneNames py zones = .ok names) ↔
      ZonesReadable py zones := by
  cases zones with
  | str text =>
      simp only [configuredZoneNames, ZonesReadable]
      cases deep : py.tooDeep text with
      | true => simp
      | false =>
          cases py.loads text with
          | none => simp
          | some value => simpa using listZones_ok_iff value
  | _ => exact listZones_ok_iff _

/-- Every `KEY=VALUE` argument has its `=`. -/
def HasEquals (pair : String) : Prop :=
  (PyText.partition '=' pair.toList).isSome = true

/-- The key a `KEY=VALUE` argument names. -/
def pairKey (pair : String) : String :=
  ((PyText.partition '=' pair.toList).map fun parts =>
    PyText.strip (String.ofList parts.1)).getD ""

/-- The arguments a run accepts: a JSON object to adopt, if any, arguments of
the form `KEY=VALUE`, and secrets the client holds. -/
structure LoaderArgs.WellFormed (args : LoaderArgs) : Prop where
  adopt : ∀ value, args.adopt = some value →
    value = .null ∨ ∃ fields, value = .obj fields
  secretPairs : ∀ pair ∈ args.setSecret, HasEquals pair
  configPairs : ∀ pair ∈ args.setConfig, HasEquals pair
  external : ∀ pair ∈ args.setSecret, pairKey pair ∈ externalSecrets

theorem parseKv_ok_iff (py : Builtins) (pairs : List String)
    (parsed : PyDict String Json) :
    (∃ items, parseKv py pairs parsed = .ok items) ↔
      ∀ pair ∈ pairs, HasEquals pair := by
  induction pairs generalizing parsed with
  | nil => simp [parseKv]
  | cons pair rest ih =>
      unfold parseKv
      simp only [List.mem_cons, forall_eq_or_imp, HasEquals]
      cases PyText.partition '=' pair.toList with
      | none => simp
      | some parts => simpa [HasEquals] using ih _

theorem keys_parseKv (py : Builtins) (pairs : List String)
    {parsed items : PyDict String Json}
    (read : parseKv py pairs parsed = .ok items) (key : String) :
    key ∈ PyDict.keys items ↔
      key ∈ PyDict.keys parsed ∨ ∃ pair ∈ pairs, pairKey pair = key := by
  induction pairs generalizing parsed with
  | nil =>
      simp only [parseKv, Except.ok.injEq] at read
      simp [read]
  | cons pair rest ih =>
      unfold parseKv at read
      cases parts : PyText.partition '=' pair.toList with
      | none => simp [parts] at read
      | some found =>
          simp only [parts] at read
          have named : pairKey pair =
              PyText.strip (String.ofList found.1) := by
            simp [pairKey, parts]
          rw [ih read, PyDict.mem_keys_set, ← named]
          simp only [List.mem_cons, exists_eq_or_imp, or_assoc]
          constructor
          · rintro (rfl | known | later)
            · exact Or.inr (Or.inl rfl)
            · exact Or.inl known
            · exact Or.inr (Or.inr later)
          · rintro (known | rfl | later)
            · exact Or.inr (Or.inl known)
            · exact Or.inl rfl
            · exact Or.inr (Or.inr later)

theorem nodup_parseKv (py : Builtins) (pairs : List String)
    {parsed items : PyDict String Json} (nodup : (PyDict.keys parsed).Nodup)
    (read : parseKv py pairs parsed = .ok items) :
    (PyDict.keys items).Nodup := by
  induction pairs generalizing parsed with
  | nil =>
      simp only [parseKv, Except.ok.injEq] at read
      rwa [← read]
  | cons pair rest ih =>
      unfold parseKv at read
      cases parts : PyText.partition '=' pair.toList with
      | none => simp [parts] at read
      | some found =>
          simp only [parts] at read
          exact ih (PyDict.nodup_keys_set nodup _ _) read

/-- What reading well-formed arguments gives. -/
theorem prepare_eq_ok_iff (py : Builtins) (args : LoaderArgs)
    (prepared : Prepared) :
    prepare py args = .ok prepared ↔
      ∃ secretsIn configIn, ∃ external : AllExternal secretsIn,
        readAdopt args.adopt = .ok prepared.incoming ∧
        parseKv py args.setSecret [] = .ok secretsIn ∧
        parseKv py args.setConfig [] = .ok configIn ∧
        prepared.inputs =
          ⟨PyDict.get configIn "CLOUDFLARE_ZONE", secretsIn, configIn, external⟩ := by
  unfold prepare
  cases readAdopt args.adopt with
  | error failure => simp
  | ok incoming =>
      cases parseKv py args.setSecret [] with
      | error failure => simp
      | ok secretsIn =>
          cases parseKv py args.setConfig [] with
          | error failure => simp
          | ok configIn =>
              simp only [readInputs_obj]
              by_cases external : AllExternal secretsIn
              · simp only [external, dite_true, Except.map, Except.ok.injEq]
                constructor
                · rintro rfl
                  exact ⟨secretsIn, configIn, external, rfl, rfl, rfl, rfl⟩
                · rintro ⟨_, _, _, sameIncoming, rfl, rfl, sameInputs⟩
                  cases prepared
                  simp_all
              · simp only [external, dite_false, Except.map, reduceCtorEq,
                  Except.ok.injEq, false_iff]
                rintro ⟨_, _, accepted, _, rfl, _⟩
                exact external accepted

theorem readAdopt_ok_iff (value : Option Json) :
    (∃ incoming, readAdopt value = .ok incoming) ↔
      ∀ given, value = some given → given = .null ∨ ∃ fields, given = .obj fields := by
  cases value with
  | none => simp [readAdopt]
  | some given => cases given <;> simp [readAdopt]

theorem prepare_ok_iff (py : Builtins) (args : LoaderArgs) :
    (∃ prepared, prepare py args = .ok prepared) ↔ args.WellFormed := by
  simp only [prepare_eq_ok_iff]
  constructor
  · rintro ⟨prepared, secretsIn, configIn, external, adopted, secretsRead,
      configRead, _⟩
    refine ⟨(readAdopt_ok_iff _).mp ⟨_, adopted⟩,
      (parseKv_ok_iff py _ []).mp ⟨_, secretsRead⟩,
      (parseKv_ok_iff py _ []).mp ⟨_, configRead⟩, ?_⟩
    intro pair member
    have named := (keys_parseKv py args.setSecret secretsRead (pairKey pair)).mpr
      (Or.inr ⟨pair, member, rfl⟩)
    obtain ⟨item, itemMem, sameKey⟩ := List.mem_map.mp named
    rw [← sameKey]
    exact external item itemMem
  · rintro ⟨adoptable, secretPairs, configPairs, externalPairs⟩
    obtain ⟨incoming, adopted⟩ := (readAdopt_ok_iff _).mpr adoptable
    obtain ⟨secretsIn, secretsRead⟩ := (parseKv_ok_iff py _ []).mpr secretPairs
    obtain ⟨configIn, configRead⟩ := (parseKv_ok_iff py _ []).mpr configPairs
    have external : AllExternal secretsIn := by
      intro item member
      rcases (keys_parseKv py args.setSecret secretsRead item.1).mp
        (List.mem_map_of_mem member) with impossible | ⟨pair, pairMem, named⟩
      · simp [PyDict.keys] at impossible
      · exact named ▸ externalPairs pair pairMem
    exact ⟨⟨incoming, _⟩, secretsIn, configIn, external, adopted, secretsRead,
      configRead, rfl⟩

theorem get_settleTailnetProvider_config (py : Builtins) (store : Store)
    {key : String} (notMethod : key ≠ "ACCESS_METHOD")
    (notProvider : key ≠ "TAILNET_PROVIDER") :
    PyDict.get (settleTailnetProvider py store).1.config key =
      PyDict.get store.config key := by
  simp only [settleTailnetProvider]
  rw [PyDict.get_set_ne _ _ (Ne.symm notProvider), PyDict.get_erase,
    if_neg (Ne.symm notMethod)]

theorem get_settle_config (py : Builtins) (prepared : Prepared)
    (overwrite : Bool) (store : Store) {key : String}
    (notMethod : key ≠ "ACCESS_METHOD")
    (notProvider : key ≠ "TAILNET_PROVIDER") :
    PyDict.get (settle py prepared overwrite store).config key =
      Tally.resolve Prod.fst (fun item => configDecision overwrite item.2)
        prepared.inputs.configItems key (PyDict.get store.config key) := by
  unfold settle
  rw [get_settleTailnetProvider_config py _ notMethod notProvider,
    get_merge_config]
  rfl

theorem adopt_distinctKeys (overwrite : Bool) (mapping : List (String × Json))
    {store : Store} (distinct : DistinctKeys store) :
    DistinctKeys (adopt overwrite mapping store).1 :=
  ⟨Tally.nodup_foldl_update Prod.fst
    (fun item => secretDecision overwrite item.2) mapping distinct.secrets,
    distinct.config⟩

theorem settleTailnetProvider_distinctKeys (py : Builtins) {store : Store}
    (distinct : DistinctKeys store) :
    DistinctKeys (settleTailnetProvider py store).1 :=
  ⟨distinct.secrets, PyDict.nodup_keys_set
    (PyDict.nodup_keys_erase distinct.config _) _ _⟩

theorem settle_distinctKeys (py : Builtins) (prepared : Prepared)
    (overwrite : Bool) {store : Store} (distinct : DistinctKeys store) :
    DistinctKeys (settle py prepared overwrite store) :=
  settleTailnetProvider_distinctKeys py
    (merge_distinctKeys py prepared.inputs overwrite
      (adopt_distinctKeys overwrite prepared.incoming distinct))

/-- The secrets a mode mints, in order, given the configured zones. -/
def mintList (mode : MintMode) (zones : List String) : List (String × Minter) :=
  match mode with
  | .none => []
  | .userHeld => convergeMinted
  | .full => internalSecrets ++ zoneSecrets zones ++ convergeMinted

/-- The zones the mint stage reads: none are read unless all secrets are
minted. -/
def mintZones (py : Builtins) (mode : MintMode) (store : Store) :
    Except PyError (List String) :=
  if mode = .full then
    configuredZoneNames py
      ((PyDict.get store.config "CLOUDFLARE_ZONES").getD .null)
  else .ok []

def mintedSecrets (draw : String → Minter → String)
    (entries : List (String × Minter)) (secrets : PyDict String Json) :
    PyDict String Json :=
  (entries.foldl (mintMissing draw) ⟨secrets, []⟩).section_

theorem mintedSecrets_append (draw : String → Minter → String)
    (first second : List (String × Minter)) (secrets : PyDict String Json) :
    mintedSecrets draw (first ++ second) secrets =
      mintedSecrets draw second (mintedSecrets draw first secrets) := by
  unfold mintedSecrets
  rw [List.foldl_append]
  exact Tally.section_foldl_update Prod.fst
    (fun entry current =>
      if (current.getD .null).blank then some (.str (draw entry.1 entry.2))
      else none) second rfl

/-- The mint stage is one loop over the list of its secrets. -/
theorem mint_eq (py : Builtins) (draw : String → Minter → String)
    (mode : MintMode) (store : Store) :
    mint py draw mode store =
      (mintZones py mode store).map fun zones =>
        { store with
          secrets := mintedSecrets draw (mintList mode zones) store.secrets } := by
  cases mode with
  | none => rfl
  | userHeld => rfl
  | full =>
      simp only [mint, ensureInternalSecrets, mintZones, if_true]
      cases configuredZoneNames py
          ((PyDict.get store.config "CLOUDFLARE_ZONES").getD .null) with
      | error failure => rfl
      | ok zones =>
          simp only [Except.map, mintList, mintedSecrets_append]
          have sameSection : (List.foldl (mintMissing draw)
              (List.foldl (mintMissing draw) ⟨store.secrets, []⟩ internalSecrets)
              (zoneSecrets zones)).section_ =
              mintedSecrets draw (zoneSecrets zones)
                (mintedSecrets draw internalSecrets store.secrets) := by
            rw [← mintedSecrets_append]
            simp [mintedSecrets]
          rw [← sameSection]
          rfl

theorem mint_ok_iff (py : Builtins) (draw : String → Minter → String)
    (mode : MintMode) (store : Store) :
    (∃ result, mint py draw mode store = .ok result) ↔
      (mode = .full → ZonesReadable py
        ((PyDict.get store.config "CLOUDFLARE_ZONES").getD .null)) := by
  rw [← configuredZoneNames_ok_iff, mint_eq, mintZones]
  by_cases full : mode = .full
  · simp only [full, if_true, forall_const]
    cases configuredZoneNames py
      ((PyDict.get store.config "CLOUDFLARE_ZONES").getD .null) <;>
      simp [Except.map]
  · simp [full, Except.map]

theorem mint_distinctKeys {py : Builtins} {draw : String → Minter → String}
    {mode : MintMode} {store result : Store} (distinct : DistinctKeys store)
    (minted : mint py draw mode store = .ok result) : DistinctKeys result := by
  rw [mint_eq] at minted
  cases zonesRead : mintZones py mode store with
  | error failure => simp [zonesRead, Except.map] at minted
  | ok zones =>
      simp only [zonesRead, Except.map, Except.ok.injEq] at minted
      subst minted
      exact ⟨Tally.nodup_foldl_update Prod.fst _ _ distinct.secrets,
        distinct.config⟩

/-- The files accepted writes and completed converges lead to, from a host
that has no store yet. -/
inductive Reachable (py : Builtins) : Option Json → Prop
  | absent : Reachable py none
  | write {file after : Option Json} (reached : Reachable py file) (call : Call)
      (accepted : FileRun.exec (dispatch py call) file = (.ok .accepted, after)) :
      Reachable py after
  | converge {file after : Option Json} (reached : Reachable py file)
      (draw : String → Minter → String) (args : LoaderArgs) (result : Store)
      (completed : FileRun.exec (loader py draw args false) file =
        (.ok result, after)) :
      Reachable py after

theorem loader_reread {py : Builtins} {draw : String → Minter → String}
    {args : LoaderArgs} {lockHeld : Bool} {file after : Option Json}
    {result : Store}
    (completed : FileRun.exec (loader py draw args lockHeld) file =
      (.ok result, after)) : load after = .ok result := by
  obtain ⟨prepared, store, document, _, _, read, minted, written, rfl⟩ :=
    (exec_loader_eq_ok_iff py draw args lockHeld file after result).mp completed
  exact load_dump (mint_distinctKeys (settle_distinctKeys py prepared
    args.overwrite (load_distinctKeys read)) minted) written

theorem Reachable.load_ok {py : Builtins} {file : Option Json}
    (reached : Reachable py file) : ∃ store, load file = .ok store := by
  induction reached with
  | absent => exact ⟨_, rfl⟩
  | @write file after reached call accepted ih =>
      rcases exec_dispatch_cases py call file with
        unchanged | ⟨store, inputs, document, read, written, executed⟩
      · rw [accepted] at unchanged
        subst unchanged
        exact ih
      · rw [accepted, Prod.mk.injEq] at executed
        rw [executed.2]
        exact ⟨_, load_dump (merge_distinctKeys py inputs true
          (load_distinctKeys read)) written⟩
  | converge reached draw args result completed ih =>
      exact ⟨result, loader_reread completed⟩

/-- The config a file is read as; none where it cannot be read. -/
def configOf (file : Option Json) : PyDict String Json :=
  match load file with
  | .ok store => store.config
  | .error _ => []

/-- The `CLOUDFLARE_ZONES` a run mints for: the stored one, or the one its
`--set-config` puts in its place. -/
def zonesUsed (py : Builtins) (args : LoaderArgs) (stored : Option Json) : Json :=
  match (parseKv py args.setConfig []).toOption.bind
      fun configIn => PyDict.get configIn "CLOUDFLARE_ZONES" with
  | none => stored.getD .null
  | some given => ((configDecision args.overwrite given stored).or stored).getD .null

/-- The zones the mint stage finds in the settled config. -/
theorem zonesUsed_eq {py : Builtins} {args : LoaderArgs} {prepared : Prepared}
    (ready : prepare py args = .ok prepared) (store : Store) :
    (PyDict.get (settle py prepared args.overwrite store).config
        "CLOUDFLARE_ZONES").getD .null =
      zonesUsed py args (PyDict.get store.config "CLOUDFLARE_ZONES") := by
  obtain ⟨secretsIn, configIn, external, _, _, configRead, sameInputs⟩ :=
    (prepare_eq_ok_iff py args prepared).mp ready
  rw [get_settle_config py prepared args.overwrite store (by decide) (by decide),
    sameInputs, Tally.resolve_items (configDecision args.overwrite)
      (nodup_parseKv py args.setConfig (by simp [PyDict.keys]) configRead)]
  simp only [zonesUsed, configRead, Except.toOption, Option.bind_some]
  cases PyDict.get configIn "CLOUDFLARE_ZONES" <;> rfl

/-- A run on a file it can read completes if its arguments are well formed
and the zones it mints for can be gone through. -/
theorem loader_completes {py : Builtins} {file : Option Json} {store : Store}
    (read : load file = .ok store) (draw : String → Minter → String)
    {args : LoaderArgs} (wellFormed : args.WellFormed)
    (zones : args.mintMode = .full → ZonesReadable py
      (zonesUsed py args (PyDict.get store.config "CLOUDFLARE_ZONES"))) :
    ∃ result after, FileRun.exec (loader py draw args false) file =
      (.ok result, after) := by
  obtain ⟨prepared, ready⟩ := (prepare_ok_iff py args).mpr wellFormed
  rw [← zonesUsed_eq ready] at zones
  obtain ⟨result, minted⟩ := (mint_ok_iff py draw args.mintMode _).mpr zones
  obtain ⟨document, written⟩ := dump_of_load read result
  refine ⟨result, some document, (exec_loader_eq_ok_iff py draw args false
    file (some document) result).mpr ?_⟩
  exact ⟨prepared, store, document, ready, rfl, read, minted, written, rfl⟩

/-- A settings write of `CLOUDFLARE_ZONES`. -/
def zonesWrite (zones : Json) : Call :=
  ⟨.obj [("op", .str "write"), ("config", .obj [("CLOUDFLARE_ZONES", zones)])],
    false⟩

/-- The file such a write creates. -/
def zonesFile (zones : Json) : Option Json :=
  some (.obj [("secrets", .obj []), ("config", .obj [("CLOUDFLARE_ZONES", zones)])])

/-- A converge that adopts nothing and mints every secret. -/
def plainConverge : LoaderArgs :=
  ⟨some (.obj []), [], [], false, .full⟩

end Catena.Store

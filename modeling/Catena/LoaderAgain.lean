import Catena.Reconcile

/-!
# Running the converge loader again

A loader run reconciles: run a second time with the same arguments it writes
the file it finds, whatever the first run found.  The values settle one by
one; the key order then gives the sections themselves.
-/

namespace Catena.Store

/-- Arguments whose `--set-config` keys are the ones the `.env` seeds. -/
structure Prepared.Seeded (prepared : Prepared) : Prop where
  zone : prepared.inputs.zone = none
  incoming : (PyDict.keys prepared.incoming).Nodup
  secretItems : (PyDict.keys prepared.inputs.secretItems).Nodup
  configItems : (PyDict.keys prepared.inputs.configItems).Nodup
  secretTexts : ∀ key, TextOnly (PyDict.get prepared.inputs.secretItems key)
  configTexts : ∀ key, TextOnly (PyDict.get prepared.inputs.configItems key)
  configKeys : ∀ key ∈ PyDict.keys prepared.inputs.configItems,
    key ∈ envSeededConfig

theorem textOnly_parseKv (py : Builtins) (pairs : List String)
    {parsed items : PyDict String Json}
    (texts : ∀ key, TextOnly (PyDict.get parsed key))
    (read : parseKv py pairs parsed = .ok items) (key : String) :
    TextOnly (PyDict.get items key) := by
  induction pairs generalizing parsed with
  | nil =>
      simp only [parseKv, Except.ok.injEq] at read
      exact read ▸ texts key
  | cons pair rest ih =>
      unfold parseKv at read
      cases parts : PyText.partition '=' pair.toList with
      | none => simp [parts] at read
      | some found =>
          simp only [parts] at read
          refine ih ?_ read
          intro other value supplied
          rw [PyDict.get_set] at supplied
          split at supplied
          · exact ⟨_, (Option.some.inj supplied).symm⟩
          · exact texts other value supplied

theorem nodup_readAdopt {value : Option Json} {incoming : PyDict String Json}
    (read : readAdopt value = .ok incoming) : (PyDict.keys incoming).Nodup := by
  unfold readAdopt at read
  split at read
  · simp only [Except.ok.injEq] at read
    simp [← read, PyDict.keys]
  · simp only [Except.ok.injEq] at read
    simp [← read, PyDict.keys]
  · simp only [Except.ok.injEq] at read
    rw [← read]
    exact PyDict.nodup_keys_ofPairs _
  · simp at read

theorem prepare_seeded {py : Builtins} {args : LoaderArgs} {prepared : Prepared}
    (seeded : ∀ pair ∈ args.setConfig, pairKey pair ∈ envSeededConfig)
    (ready : prepare py args = .ok prepared) : prepared.Seeded := by
  obtain ⟨secretsIn, configIn, external, adopted, secretsRead, configRead,
    sameInputs⟩ := (prepare_eq_ok_iff py args prepared).mp ready
  have configKeys : ∀ key ∈ PyDict.keys configIn, key ∈ envSeededConfig := by
    intro key member
    rcases (keys_parseKv py args.setConfig configRead key).mp member with
      impossible | ⟨pair, pairMem, rfl⟩
    · simp [PyDict.keys] at impossible
    · exact seeded pair pairMem
  have emptyNodup : (PyDict.keys ([] : PyDict String Json)).Nodup := by
    simp [PyDict.keys]
  have emptyTexts (key : String) :
      TextOnly (PyDict.get ([] : PyDict String Json) key) := by
    simp [TextOnly]
  refine ⟨?_, nodup_readAdopt adopted, ?_, ?_, ?_, ?_, ?_⟩ <;> rw [sameInputs]
  · rw [PyDict.get_eq_none_iff]
    exact fun member => absurd (configKeys _ member) (by decide)
  · exact nodup_parseKv py args.setSecret emptyNodup secretsRead
  · exact nodup_parseKv py args.setConfig emptyNodup configRead
  · exact textOnly_parseKv py args.setSecret emptyTexts secretsRead
  · exact textOnly_parseKv py args.setConfig emptyTexts configRead
  · exact configKeys

section Sections

variable {prepared : Prepared} (seeded : prepared.Seeded) (py : Builtins)
  (overwrite : Bool)

include seeded

/-- Without a change of domain, the stages before the mint are the two loops
over supplied secrets. -/
theorem settle_secrets_eq (store : Store) :
    (settle py prepared overwrite store).secrets =
      (prepared.inputs.secretItems.foldl (captureSecret overwrite)
        ⟨(prepared.incoming.foldl (captureSecret overwrite)
          ⟨store.secrets, []⟩).section_, []⟩).section_ := by
  simp [settle, settleTailnetProvider, merge, seeded.zone, keepOutgoing, adopt]

theorem get_settle_secrets (store : Store) (key : String) :
    PyDict.get (settle py prepared overwrite store).secrets key =
      supplyBoth overwrite (PyDict.get prepared.incoming key)
        (PyDict.get prepared.inputs.secretItems key)
        (PyDict.get store.secrets key) := by
  rw [settle_secrets_eq seeded, get_foldl_captureSecret,
    Tally.resolve_items (secretDecision overwrite) seeded.secretItems,
    get_foldl_captureSecret,
    Tally.resolve_items (secretDecision overwrite) seeded.incoming]
  unfold supplyBoth supply
  cases PyDict.get prepared.inputs.secretItems key <;>
    cases PyDict.get prepared.incoming key <;> rfl

/-- A run that finds every supplied and minted key present adds none. -/
theorem keys_reconciled (draw : String → Minter → String)
    (entries : List (String × Minter)) (store : Store)
    (adoptedPresent : ∀ item ∈ prepared.incoming, item.2.blank = true ∨
      item.1 ∈ PyDict.keys store.secrets)
    (appliedPresent : ∀ item ∈ prepared.inputs.secretItems,
      item.2.blank = true ∨ item.1 ∈ PyDict.keys store.secrets)
    (mintedPresent : ∀ entry ∈ entries, entry.1 ∈ PyDict.keys store.secrets) :
    PyDict.keys (mintedSecrets draw entries
        (settle py prepared overwrite store).secrets) =
      PyDict.keys store.secrets := by
  have captured (items : List (String × Json)) (tally : Tally)
      (present : ∀ item ∈ items, item.2.blank = true ∨
        item.1 ∈ PyDict.keys tally.section_) :
      PyDict.keys (items.foldl (captureSecret overwrite) tally).section_ =
        PyDict.keys tally.section_ := by
    refine Tally.keys_foldl_update_of_mem Prod.fst
      (fun item => secretDecision overwrite item.2) items ?_
    intro item member
    rcases present item member with blank | known
    · exact Or.inl (funext fun current => by simp [secretDecision, blank])
    · exact Or.inr known
  have adoptedKeys : PyDict.keys (prepared.incoming.foldl
      (captureSecret overwrite) ⟨store.secrets, []⟩).section_ =
      PyDict.keys store.secrets := captured _ _ adoptedPresent
  have settledKeys : PyDict.keys (settle py prepared overwrite store).secrets =
      PyDict.keys store.secrets := by
    rw [settle_secrets_eq seeded, captured _ _ ?_]
    · exact adoptedKeys
    · intro item member
      simp only [adoptedKeys]
      exact appliedPresent item member
  rw [← settledKeys]
  refine Tally.keys_foldl_update_of_mem Prod.fst _ entries ?_
  intro entry member
  right
  simp only [settledKeys]
  exact mintedPresent entry member

theorem secrets_again {draw : String → Minter → String}
    (text : ∀ key minter, PyText.strip (draw key minter) ≠ "")
    (again : String → Minter → String) (entries : List (String × Minter))
    {store : Store} (distinct : DistinctKeys store)
    (config : PyDict String Json) :
    let settled := mintedSecrets draw entries
      (settle py prepared overwrite store).secrets
    mintedSecrets again entries
      (settle py prepared overwrite ⟨settled, config⟩).secrets = settled := by
  intro settled
  have settledGet (key : String) : PyDict.get settled key =
      reconcile draw entries overwrite (PyDict.get prepared.incoming key)
        (PyDict.get prepared.inputs.secretItems key) key
        (PyDict.get store.secrets key) := by
    rw [get_mintedSecrets, get_settle_secrets seeded]
    rfl
  have nodup : (PyDict.keys settled).Nodup :=
    Tally.nodup_foldl_update Prod.fst _ entries
      (settle_distinctKeys py prepared overwrite distinct).secrets
  have memOfSome {key : String} (present : (PyDict.get settled key).isSome = true) :
      key ∈ PyDict.keys settled := by
    obtain ⟨value, found⟩ := Option.isSome_iff_exists.mp present
    exact PyDict.mem_keys_of_get found
  have sameKeys := keys_reconciled seeded py overwrite again entries
    ⟨settled, config⟩ ?_ ?_ ?_
  · refine PyDict.ext_of_keys (sameKeys ▸ nodup) sameKeys ?_
    intro key
    rw [get_mintedSecrets, get_settle_secrets seeded]
    simp only [settledGet]
    exact reconcile_idem text again entries overwrite (seeded.secretTexts key)
      key _
  · intro item member
    by_cases blank : item.2.blank = true
    · exact Or.inl blank
    · right
      apply memOfSome
      rw [settledGet, PyDict.get_of_mem seeded.incoming member]
      exact mintValue_isSome _ _ (supply_isSome (supply_isSome_of_not_idle
        (by simpa using blank) overwrite _) overwrite _)
  · intro item member
    by_cases blank : item.2.blank = true
    · exact Or.inl blank
    · right
      apply memOfSome
      rw [settledGet, PyDict.get_of_mem seeded.secretItems member]
      exact mintValue_isSome _ _ (supply_isSome_of_not_idle
        (by simpa using blank) overwrite _)
  · intro entry member
    apply memOfSome
    rw [settledGet]
    obtain ⟨value, found, _⟩ := (holds_iff _).mp
      (mintValue_holds text (List.mem_map_of_mem member) _)
    exact Option.isSome_iff_exists.mpr ⟨value, found⟩

/-- The config after the supplied values, before the provider is settled. -/
def capturedConfig (prepared : Prepared) (overwrite : Bool) (store : Store) :
    PyDict String Json :=
  (prepared.inputs.configItems.foldl (captureConfig overwrite)
    ⟨store.config, []⟩).section_

/-- The config a run leaves: the supplied values, the provider it settled and
no access method. -/
theorem settle_config_eq (store : Store) :
    (settle py prepared overwrite store).config =
      PyDict.set
        (PyDict.erase (capturedConfig prepared overwrite store) "ACCESS_METHOD")
        "TAILNET_PROVIDER" (.str (settledProvider py
          (PyText.strip (Json.textOr py (PyDict.get
            (capturedConfig prepared overwrite store) "ACCESS_METHOD")))
          ⟨(settle py prepared overwrite store).secrets,
            PyDict.erase (capturedConfig prepared overwrite store)
              "ACCESS_METHOD"⟩)) := by
  have sameConfig : (merge py prepared.inputs overwrite
      (adopt overwrite prepared.incoming store).1).1.config =
      capturedConfig prepared overwrite store := by
    simp only [merge, seeded.zone, keepOutgoing]
    exact Tally.section_foldl_update Prod.fst
      (fun item => configDecision overwrite item.2) _ rfl
  simp only [settle, settleTailnetProvider, sameConfig]

/-- A supplied config value that is a string leaves its key present. -/
theorem configItem_present (store : Store) {item : String × Json}
    (member : item ∈ prepared.inputs.configItems) :
    item.1 ∈ PyDict.keys (settle py prepared overwrite store).config := by
  have known : item.1 ∈ envSeededConfig :=
    seeded.configKeys item.1 (List.mem_map_of_mem member)
  have notMethod : item.1 ≠ "ACCESS_METHOD" := by
    intro same
    rw [same] at known
    exact absurd known (by decide)
  have notProvider : item.1 ≠ "TAILNET_PROVIDER" := by
    intro same
    rw [same] at known
    exact absurd known (by decide)
  have found := PyDict.get_of_mem seeded.configItems member
  obtain ⟨text, isText⟩ := seeded.configTexts item.1 item.2 found
  have settledGet := get_settle_config py prepared overwrite store
    notMethod notProvider
  rw [Tally.resolve_items (configDecision overwrite) seeded.configItems,
    found] at settledGet
  by_contra absent
  rw [(PyDict.get_eq_none_iff _ _).mpr absent] at settledGet
  have noneBefore : PyDict.get store.config item.1 = none := by
    cases before : PyDict.get store.config item.1 with
    | none => rfl
    | some value => simp [before] at settledGet
  have different : Json.pyEq .null (.str text) = false := by
    simp [Json.pyEq, Json.number]
  simp [noneBefore, configDecision, isText, different] at settledGet

theorem settle_provider (store : Store) :
    ∃ provider ∈ tailnetProviders,
      PyDict.get (settle py prepared overwrite store).config
        "TAILNET_PROVIDER" = some (.str provider) := by
  rw [settle_config_eq seeded, PyDict.get_set_same]
  exact ⟨_, settledProvider_mem _ _ _, rfl⟩

theorem settle_method (store : Store) :
    PyDict.get (settle py prepared overwrite store).config
      "ACCESS_METHOD" = none := by
  rw [settle_config_eq seeded, PyDict.get_set_ne _ _ (by decide),
    PyDict.get_erase, if_pos rfl]

theorem config_again {store : Store} (distinct : DistinctKeys store)
    (secrets : PyDict String Json) :
    let settled := (settle py prepared overwrite store).config
    (settle py prepared overwrite ⟨secrets, settled⟩).config = settled := by
  intro settled
  have nodup : (PyDict.keys settled).Nodup :=
    (settle_distinctKeys py prepared overwrite distinct).config
  have sameCaptured :
      capturedConfig prepared overwrite ⟨secrets, settled⟩ = settled := by
    have sameKeys : PyDict.keys (capturedConfig prepared overwrite
        ⟨secrets, settled⟩) = PyDict.keys settled :=
      Tally.keys_foldl_update_of_mem Prod.fst
        (fun item => configDecision overwrite item.2) _ fun item member =>
          Or.inr (configItem_present seeded py overwrite store member)
    refine PyDict.ext_of_keys (sameKeys ▸ nodup) sameKeys ?_
    intro key
    unfold capturedConfig
    rw [get_foldl_captureConfig,
      Tally.resolve_items (configDecision overwrite) seeded.configItems]
    cases found : PyDict.get prepared.inputs.configItems key with
    | none => rfl
    | some value =>
        have known := seeded.configKeys key (PyDict.mem_keys_of_get found)
        have settledGet : PyDict.get settled key = _ :=
          get_settle_config py prepared overwrite store
            (ne_of_mem_of_not_mem known (by decide))
            (ne_of_mem_of_not_mem known (by decide))
        rw [Tally.resolve_items (configDecision overwrite) seeded.configItems,
          found] at settledGet
        simp only [settledGet]
        exact configDecision_idem overwrite value _
  have noMethod : PyDict.get settled "ACCESS_METHOD" = none :=
    settle_method seeded py overwrite store
  obtain ⟨provider, known, stored⟩ :=
    settle_provider seeded py overwrite store
  have sameProvider (others : PyDict String Json) :
      settledProvider py (PyText.strip (Json.textOr py none)) ⟨others, settled⟩ =
        provider :=
    settledProvider_of_stored py rfl known stored
  rw [settle_config_eq seeded, sameCaptured, PyDict.erase_of_get_none noMethod,
    noMethod, sameProvider]
  exact PyDict.set_of_get stored

end Sections

theorem dump_again {store : Store} {file : Option Json} {document : Json}
    (written : dump store file = .ok document) :
    dump store (some document) = .ok document := by
  match file, written with
  | none, written =>
      simp only [dump, Except.ok.injEq] at written
      subst written
      simp [dump, PyDict.set]
  | some (.obj raw), written =>
      simp only [dump, Except.ok.injEq] at written
      subst written
      simp only [dump, Except.ok.injEq, Json.obj.injEq]
      have secretsStay : PyDict.get (PyDict.set (PyDict.set raw "secrets"
          (Json.obj store.secrets)) "config" (Json.obj store.config)) "secrets" =
          some (Json.obj store.secrets) := by
        simp [PyDict.get_set]
      rw [PyDict.set_of_get secretsStay]
      exact PyDict.set_of_get (PyDict.get_set_same _ _ _)

/-- The mint stage of a run that completed, on the settled store it mints
into. -/
theorem mint_eq_ok_iff (py : Builtins) (draw : String → Minter → String)
    (mode : MintMode) (store result : Store) :
    mint py draw mode store = .ok result ↔
      ∃ zones, mintZones py mode store = .ok zones ∧
        result = ⟨mintedSecrets draw (mintList mode zones) store.secrets,
          store.config⟩ := by
  rw [mint_eq]
  cases mintZones py mode store with
  | error failure => simp [Except.map]
  | ok zones =>
      simp only [Except.map, Except.ok.injEq, exists_eq_left']
      exact eq_comm

/-- A run again, on the store the first run left, leaves that store. -/
theorem settle_mint_again {py : Builtins} {draw : String → Minter → String}
    (text : ∀ key minter, PyText.strip (draw key minter) ≠ "")
    (again : String → Minter → String) {prepared : Prepared}
    (seeded : prepared.Seeded) (overwrite : Bool) (mode : MintMode)
    {store result : Store} (distinct : DistinctKeys store)
    (minted : mint py draw mode (settle py prepared overwrite store) =
      .ok result) :
    mint py again mode (settle py prepared overwrite result) = .ok result := by
  obtain ⟨zones, zonesRead, rfl⟩ :=
    (mint_eq_ok_iff py draw mode _ result).mp minted
  have sameConfig := config_again seeded py overwrite distinct
    (mintedSecrets draw (mintList mode zones)
      (settle py prepared overwrite store).secrets)
  have sameSecrets := secrets_again seeded py overwrite text again
    (mintList mode zones) distinct (settle py prepared overwrite store).config
  dsimp only at sameConfig sameSecrets
  refine (mint_eq_ok_iff py again mode _ _).mpr ⟨zones, ?_, ?_⟩
  · unfold mintZones
    rw [sameConfig]
    exact zonesRead
  · rw [sameSecrets, sameConfig]

/-- A secret that holds text survives a run that only fills. -/
theorem reconcile_fill (draw : String → Minter → String)
    (entries : List (String × Minter)) (adopted applied : Option Json)
    (key : String) {value : Json} (text : value.IsText) :
    reconcile draw entries false adopted applied key (some value) =
      some value := by
  have truthy : ((some value).getD Json.null).truthy = true := text.truthy
  unfold reconcile supplyBoth
  rw [supply_of_truthy truthy, supply_of_truthy truthy]
  exact mintValue_of_holds draw entries key text.blank_eq_false

/-- The secrets a full mint answers for. -/
def MustHold (zones : List String) (key : String) : Prop :=
  key ∈ internalSecrets.map Prod.fst ∨ key ∈ convergeMinted.map Prod.fst ∨
    ∃ zone ∈ zones, key = zoneCookieSecretKey zone

theorem mustHold_mem_mintList {zones : List String} {key : String}
    (must : MustHold zones key) :
    key ∈ (mintList .full zones).map Prod.fst := by
  simp only [mintList, zoneSecrets, List.map_append, List.mem_append,
    List.map_map]
  rcases must with internal | userHeld | ⟨zone, member, rfl⟩
  · exact Or.inl (Or.inl internal)
  · exact Or.inr userHeld
  · exact Or.inl (Or.inr (List.mem_map.mpr ⟨zone, member, rfl⟩))

theorem configOf_of_load {file : Option Json} {store : Store}
    (read : load file = .ok store) : configOf file = store.config := by
  simp [configOf, read]

/-- A loader run that completes is a fixpoint: the same run again leaves the
file as it is.  A run that only fills keeps every secret that holds text, each
run settles the provider, and a full mint leaves no secret of its own
missing. -/
theorem loader_run_again {py : Builtins} {draw : String → Minter → String}
    (text : ∀ key minter, PyText.strip (draw key minter) ≠ "")
    (again : String → Minter → String) {args : LoaderArgs}
    (seeded : ∀ pair ∈ args.setConfig, pairKey pair ∈ envSeededConfig)
    {file after : Option Json} {result : Store}
    (completed : FileRun.exec (loader py draw args false) file =
      (.ok result, after)) :
    FileRun.exec (loader py again args false) after = (.ok result, after) ∧
      (args.overwrite = false → ∀ key value,
        PyDict.get (secretsOf file) key = some value → value.IsText →
          PyDict.get (secretsOf after) key = some value) ∧
      ((∃ provider ∈ tailnetProviders,
          PyDict.get (configOf after) "TAILNET_PROVIDER" =
            some (.str provider)) ∧
        PyDict.get (configOf after) "ACCESS_METHOD" = none) ∧
      (args.mintMode = .full → ∃ zones,
        configuredZoneNames py ((PyDict.get (configOf after)
          "CLOUDFLARE_ZONES").getD .null) = .ok zones ∧
        ∀ key, MustHold zones key →
          Holds (PyDict.get (secretsOf after) key)) := by
  have reread := loader_reread completed
  obtain ⟨prepared, store, document, ready, _, read, minted, written, rfl⟩ :=
    (exec_loader_eq_ok_iff py draw args false file after result).mp completed
  have ready' := prepare_seeded seeded ready
  have distinct := load_distinctKeys read
  obtain ⟨zones, zonesRead, sameResult⟩ :=
    (mint_eq_ok_iff py draw args.mintMode _ result).mp minted
  have secretsGet (key : String) : PyDict.get (secretsOf (some document)) key =
      reconcile draw (mintList args.mintMode zones) args.overwrite
        (PyDict.get prepared.incoming key)
        (PyDict.get prepared.inputs.secretItems key) key
        (PyDict.get store.secrets key) := by
    rw [secretsOf_of_load reread, sameResult, get_mintedSecrets,
      get_settle_secrets ready']
    rfl
  have sameConfig : configOf (some document) =
      (settle py prepared args.overwrite store).config := by
    rw [configOf_of_load reread, sameResult]
  refine ⟨?_, ?_, ⟨?_, ?_⟩, ?_⟩
  · refine (exec_loader_eq_ok_iff py again args false _ _ result).mpr
      ⟨prepared, result, document, ready, rfl, reread, ?_, dump_again written,
        rfl⟩
    exact settle_mint_again text again ready' args.overwrite args.mintMode
      distinct minted
  · intro fillOnly key value found isText
    rw [secretsOf_of_load read] at found
    rw [secretsGet, found, fillOnly]
    exact reconcile_fill _ _ _ _ key isText
  · rw [sameConfig]
    exact settle_provider ready' py args.overwrite store
  · rw [sameConfig]
    exact settle_method ready' py args.overwrite store
  · intro full
    refine ⟨zones, ?_, ?_⟩
    · rw [sameConfig]
      simpa [mintZones, full] using zonesRead
    · intro key must
      rw [secretsGet, full]
      exact mintValue_holds text (mustHold_mem_mintList must) _

/-- A store of an older release: a domain, a provider chosen by its access
method, and one blank secret. -/
def olderFile : Option Json :=
  some (.obj [("secrets", .obj [("catena_postgres_password", .str " "),
      ("smtp_password", .str "kept")]),
    ("config", .obj [("CLOUDFLARE_ZONES", .arr [.str "a.example"]),
      ("ACCESS_METHOD", .str "tailnet")]),
    ("release", .str "1.0")])

/-- A converge that seeds one config value and supplies one secret. -/
def seedingConverge : LoaderArgs :=
  ⟨some (.obj []), ["smtp_password=given"], ["ADMIN_EMAIL=a@example"], false,
    .full⟩

theorem loader_run_again_older_file :
    ∃ result after,
      FileRun.exec (loader Builtins.unused (fun _ _ => "minted")
        seedingConverge false) olderFile = (.ok result, after) ∧
      FileRun.exec (loader Builtins.unused (fun _ _ => "other")
        seedingConverge false) after = (.ok result, after) ∧
      PyDict.get (secretsOf after) "smtp_password" = some (.str "kept") := by
  have seeded : ∀ pair ∈ seedingConverge.setConfig,
      pairKey pair ∈ envSeededConfig := by
    decide
  have wellFormed : seedingConverge.WellFormed := by
    refine ⟨?_, ?_, ?_, by decide⟩
    · intro value given
      exact Or.inr ⟨[], (Option.some.inj given).symm⟩
    · simp only [HasEquals]
      decide
    · simp only [HasEquals]
      decide
  obtain ⟨result, after, completed⟩ := @loader_completes Builtins.unused
    olderFile _ rfl (fun _ _ => "minted") _ wellFormed (fun _ _ => rfl)
  obtain ⟨sameAgain, kept, _⟩ := loader_run_again (fun _ _ => by decide)
    (fun _ _ => "other") seeded completed
  refine ⟨result, after, completed, sameAgain, ?_⟩
  exact kept rfl "smtp_password" (.str "kept") rfl (by
    simp only [Json.IsText]
    decide)

end Catena.Store

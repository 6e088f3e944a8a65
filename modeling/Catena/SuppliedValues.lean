import Catena.LoaderAgain

/-!
# Supplied values in a run that only fills

A converge hands the loader values to fill in where the store has none.  The
stages test for a missing value in three ways: a secret that is truthy stays,
a config key that is present stays, and a secret that is blank is minted.  A
secret of blanks, a config key of null or blanks, and the token step of a
changed domain are where they disagree.
-/

namespace Catena.Store

/-- The keys `settle_tailnet_provider` decides about. -/
def tailnetKeys : List String :=
  ["TAILNET_PROVIDER", "ACCESS_METHOD"]

/-- A secret the run is given, to adopt or to apply. -/
def SuppliedSecret (prepared : Prepared) (key : String) (value : Json) : Prop :=
  PyDict.get prepared.incoming key = some value ∨
    PyDict.get prepared.inputs.secretItems key = some value

/-- A supplied value that is not blank takes the place of a missing, null or
blank one, and a stored string that is not blank stays. -/
structure SuppliedWins (prepared : Prepared) (store result : Store) : Prop where
  secret : ∀ key value, SuppliedSecret prepared key value → value.blank = false →
    ¬ Holds (PyDict.get store.secrets key) →
    PyDict.get result.secrets key = some value
  config : ∀ key value, key ∉ tailnetKeys →
    PyDict.get prepared.inputs.configItems key = some value → value.blank = false →
    ¬ Holds (PyDict.get store.config key) →
    PyDict.get result.config key = some value
  keptSecret : ∀ key value, PyDict.get store.secrets key = some value → value.IsText →
    PyDict.get result.secrets key = some value
  keptConfig : ∀ key value, key ∉ tailnetKeys →
    PyDict.get store.config key = some value → value.IsText →
    PyDict.get result.config key = some value

/-- The store after its secrets are adopted. -/
def adopted (prepared : Prepared) (store : Store) : Store :=
  (adopt false prepared.incoming store).1

/-- The store after the token step. -/
def tokened (py : Builtins) (prepared : Prepared) (store : Store) : Store :=
  (keepOutgoing py prepared.inputs.zone (adopted prepared store)).1

/-- The domain the run leaves and its token, when the token step records
them. -/
def outgoingToken (py : Builtins) (prepared : Prepared) (store : Store) :
    Option (String × String) :=
  match prepared.inputs.zone with
  | none => none
  | some zone =>
    let newZone := PyText.strip (Json.textOr py (some zone))
    let oldZone := PyText.strip
      (Json.textOr py (PyDict.get store.config "CLOUDFLARE_ZONE"))
    let token := PyText.strip (Json.textOr py
      (PyDict.get (adopted prepared store).secrets "cloudflare_api_token"))
    let tokens := tokenMap ((PyDict.get (adopted prepared store).secrets
      "cloudflare_api_tokens").getD .null)
    if newZone = "" ∨ oldZone = "" ∨ newZone = oldZone ∨ token = "" ∨
        Json.pyEq ((PyDict.get tokens oldZone).getD .null) (.str token) then none
    else some (oldZone, token)

/-- The stores in which the stages agree about what is missing. -/
structure Fillable (py : Builtins) (prepared : Prepared) (store : Store) : Prop where
  secret : ∀ key value, key ≠ "cloudflare_api_tokens" →
    SuppliedSecret prepared key value → value.blank = false →
    ¬ Holds (PyDict.get store.secrets key) →
    ((PyDict.get store.secrets key).getD .null).truthy = false
  tokens : ∀ value, SuppliedSecret prepared "cloudflare_api_tokens" value →
    value.blank = false → ¬ Holds (PyDict.get store.secrets "cloudflare_api_tokens") →
    match outgoingToken py prepared store with
    | none => ((PyDict.get store.secrets "cloudflare_api_tokens").getD .null).truthy = false
    | some (zone, token) =>
      ((PyDict.get store.secrets "cloudflare_api_tokens").getD .null).truthy = true ∧
        value = .obj [(zone, .str token)]
  config : ∀ key value, key ∉ tailnetKeys →
    PyDict.get prepared.inputs.configItems key = some value → value.blank = false →
    ¬ Holds (PyDict.get store.config key) → PyDict.get store.config key = none
  storedTokens : ∀ value, PyDict.get store.secrets "cloudflare_api_tokens" = some value →
    value.IsText → outgoingToken py prepared store = none

/-- The token step, as what it records. -/
theorem tokened_secrets (py : Builtins) (prepared : Prepared) (store : Store) :
    (tokened py prepared store).secrets =
      match outgoingToken py prepared store with
      | none => (adopted prepared store).secrets
      | some (zone, token) =>
        PyDict.set (adopted prepared store).secrets "cloudflare_api_tokens"
          (.obj (PyDict.set (tokenMap ((PyDict.get (adopted prepared store).secrets
            "cloudflare_api_tokens").getD .null)) zone (.str token))) := by
  unfold tokened outgoingToken keepOutgoing
  cases prepared.inputs.zone with
  | none => rfl
  | some zone =>
      have sameConfig : (adopted prepared store).config = store.config := rfl
      simp only [preserveToken, sameConfig, keepToken]
      by_cases silent : PyText.strip (Json.textOr py (some zone)) = "" ∨
          PyText.strip (Json.textOr py (PyDict.get store.config "CLOUDFLARE_ZONE")) = "" ∨
          PyText.strip (Json.textOr py (some zone)) =
            PyText.strip (Json.textOr py (PyDict.get store.config "CLOUDFLARE_ZONE")) ∨
          PyText.strip (Json.textOr py (PyDict.get (adopted prepared store).secrets
            "cloudflare_api_token")) = ""
      · rw [if_pos silent, if_pos]
        rcases silent with first | second | third | fourth
        · exact .inl first
        · exact .inr (.inl second)
        · exact .inr (.inr (.inl third))
        · exact .inr (.inr (.inr (.inl fourth)))
      · rw [if_neg silent]
        simp only [not_or] at silent
        obtain ⟨first, second, third, fourth⟩ := silent
        simp only [first, second, third, fourth, false_or]
        generalize Json.pyEq _ _ = recorded
        cases recorded <;> rfl

/-- The arguments of a run as their readers leave them, each supplied secret
either adopted or applied, and no minted value among the supplied ones. -/
structure Prepared.Apart (draw : String → Minter → String) (prepared : Prepared) : Prop where
  incoming : (PyDict.keys prepared.incoming).Nodup
  secretItems : (PyDict.keys prepared.inputs.secretItems).Nodup
  configItems : (PyDict.keys prepared.inputs.configItems).Nodup
  secretTexts : ∀ key, TextOnly (PyDict.get prepared.inputs.secretItems key)
  configTexts : ∀ key, TextOnly (PyDict.get prepared.inputs.configItems key)
  only : ∀ key value, PyDict.get prepared.incoming key = some value →
    PyDict.get prepared.inputs.secretItems key = none
  unminted : ∀ key value, SuppliedSecret prepared key value →
    ∀ name minter, value ≠ .str (draw name minter)

section Run

variable {py : Builtins} {draw : String → Minter → String} {prepared : Prepared}
  {mode : MintMode} {store result : Store}

theorem get_adopted (apart : prepared.Apart draw) (key : String) :
    PyDict.get (adopted prepared store).secrets key =
      supply false (PyDict.get prepared.incoming key) (PyDict.get store.secrets key) := by
  unfold adopted adopt
  rw [get_foldl_captureSecret,
    Tally.resolve_items (secretDecision false) apart.incoming]
  unfold supply
  cases PyDict.get prepared.incoming key <;> rfl

/-- What a run leaves of one secret. -/
theorem get_result_secret (apart : prepared.Apart draw)
    (minted : mint py draw mode (settle py prepared false store) = .ok result) :
    ∃ zones, ∀ key, PyDict.get result.secrets key =
      mintValue draw (mintList mode zones) key
        (supply false (PyDict.get prepared.inputs.secretItems key)
          (PyDict.get (tokened py prepared store).secrets key)) := by
  obtain ⟨zones, _, rfl⟩ := (mint_eq_ok_iff py draw mode _ result).mp minted
  refine ⟨zones, fun key => ?_⟩
  have merged : PyDict.get (settle py prepared false store).secrets key =
      Tally.resolve Prod.fst (fun item => secretDecision false item.2)
        prepared.inputs.secretItems key
        (PyDict.get (tokened py prepared store).secrets key) :=
    get_merge_secrets py prepared.inputs false (adopted prepared store) key
  rw [get_mintedSecrets, merged,
    Tally.resolve_items (secretDecision false) apart.secretItems]
  unfold supply
  cases PyDict.get prepared.inputs.secretItems key <;> rfl

theorem get_result_config
    (apart : prepared.Apart draw)
    (minted : mint py draw mode (settle py prepared false store) = .ok result)
    {key : String} (free : key ∉ tailnetKeys) :
    PyDict.get result.config key =
      match PyDict.get prepared.inputs.configItems key with
      | none => PyDict.get store.config key
      | some value =>
        (configDecision false value (PyDict.get store.config key)).or
          (PyDict.get store.config key) := by
  obtain ⟨zones, _, rfl⟩ := (mint_eq_ok_iff py draw mode _ result).mp minted
  have notMethod : key ≠ "ACCESS_METHOD" := by
    rintro rfl
    exact free (by decide)
  have notProvider : key ≠ "TAILNET_PROVIDER" := by
    rintro rfl
    exact free (by decide)
  dsimp only
  refine (get_settle_config py prepared false store notMethod notProvider).trans ?_
  refine (Tally.resolve_items (configDecision false) apart.configItems ..).trans ?_
  cases PyDict.get prepared.inputs.configItems key <;> rfl

theorem supply_fill {value : Json} {current : Option Json} (notBlank : value.blank = false)
    (missing : ¬ Holds current) (falsy : (current.getD .null).truthy = false) :
    supply false (some value) current = some value := by
  have different : Json.pyEq (current.getD .null) value = false := by
    by_contra equal
    have blank : (current.getD .null).blank = true := by
      simpa [Holds] using missing
    have both := Json.blank_of_pyEq (by simpa using equal) blank
    rw [notBlank] at both
    cases both
  simp [supply, secretDecision, notBlank, falsy, different]

theorem mintValue_ne (apart : prepared.Apart draw) (entries : List (String × Minter))
    {key : String} {value : Json} (supplied : SuppliedSecret prepared key value)
    {current : Option Json} (different : current ≠ some value) :
    mintValue draw entries key current ≠ some value := by
  refine Tally.resolve_induction _ _ (fun held => held ≠ some value) entries different ?_
  intro entry _ before assigned decided
  split at decided
  · obtain rfl := Option.some.inj decided
    intro same
    exact apart.unminted key value supplied entry.1 entry.2 (Option.some.inj same).symm
  · cases decided

theorem tokened_of_ne {key : String} (different : key ≠ "cloudflare_api_tokens") :
    PyDict.get (tokened py prepared store).secrets key =
      PyDict.get (adopted prepared store).secrets key :=
  get_keepOutgoing_of_ne py prepared.inputs.zone (adopted prepared store) different

/-- A supplied secret through both secrets stages, when one has a say. -/
theorem supplyBoth_supplied (apart : prepared.Apart draw) {key : String} {value : Json}
    (supplied : SuppliedSecret prepared key value) (current : Option Json) :
    supply false (PyDict.get prepared.inputs.secretItems key)
        (supply false (PyDict.get prepared.incoming key) current) =
      supply false (some value) current := by
  rcases supplied with adopts | applies
  · rw [apart.only key value adopts, adopts]
    rfl
  · have notAdopted : PyDict.get prepared.incoming key = none := by
      cases found : PyDict.get prepared.incoming key with
      | none => rfl
      | some other =>
          rw [apart.only key other found] at applies
          cases applies
    rw [applies, notAdopted]
    rfl

/-- A supplied secret the token step leaves alone is stored exactly when the
stored one is falsy. -/
theorem supplied_secret_iff (apart : prepared.Apart draw)
    (entries : List (String × Minter)) {key : String} {value : Json}
    (stays : PyDict.get (tokened py prepared store).secrets key =
      PyDict.get (adopted prepared store).secrets key)
    (supplied : SuppliedSecret prepared key value) (notBlank : value.blank = false)
    (missing : ¬ Holds (PyDict.get store.secrets key)) :
    mintValue draw entries key
        (supply false (PyDict.get prepared.inputs.secretItems key)
          (PyDict.get (tokened py prepared store).secrets key)) = some value ↔
      ((PyDict.get store.secrets key).getD .null).truthy = false := by
  rw [stays, get_adopted apart, supplyBoth_supplied apart supplied]
  constructor
  · intro stored
    by_contra truthy
    rw [supply_of_truthy (by simpa using truthy)] at stored
    refine mintValue_ne apart entries supplied ?_ stored
    intro same
    rw [same] at missing
    exact missing (by simpa [Holds] using notBlank)
  · intro falsy
    rw [supply_fill notBlank missing falsy]
    exact mintValue_of_holds draw entries key (by simpa [Holds] using notBlank)

/-- The token step records a token the map does not hold for the domain. -/
theorem outgoingToken_fresh {zone token : String}
    (outgoing : outgoingToken py prepared store = some (zone, token)) :
    Json.pyEq ((PyDict.get (tokenMap ((PyDict.get (adopted prepared store).secrets
      "cloudflare_api_tokens").getD .null)) zone).getD .null) (.str token) = false := by
  unfold outgoingToken at outgoing
  split at outgoing
  · cases outgoing
  · dsimp only at outgoing
    split at outgoing
    · cases outgoing
    · rename_i records
      cases outgoing
      simp only [not_or] at records
      simpa using records.2.2.2.2

/-- Where the token step records a token, the map it leaves is what the run
stores. -/
theorem get_result_tokens (entries : List (String × Minter)) {zone token : String}
    (outgoing : outgoingToken py prepared store = some (zone, token)) (given : Option Json) :
    mintValue draw entries "cloudflare_api_tokens"
        (supply false given
          (PyDict.get (tokened py prepared store).secrets "cloudflare_api_tokens")) =
      some (.obj (PyDict.set (tokenMap ((PyDict.get (adopted prepared store).secrets
        "cloudflare_api_tokens").getD .null)) zone (.str token))) := by
  rw [tokened_secrets, outgoing, PyDict.get_set_same]
  rw [supply_of_truthy]
  · exact mintValue_of_holds draw entries _ rfl
  · simpa [Json.truthy] using PyDict.set_ne_nil _ zone (Json.str token)

theorem truthy_blank {current : Option Json} (missing : ¬ Holds current)
    (truthy : (current.getD .null).truthy = true) : ∃ text, current = some (.str text) := by
  have blank : (current.getD .null).blank = true := by
    simpa [Holds] using missing
  cases current with
  | none => cases truthy
  | some value =>
      cases value with
      | str text => exact ⟨text, rfl⟩
      | null => cases truthy
      | _ => cases blank

/-- A supplied token map, where the token step records a token. -/
theorem supplied_tokens_iff (apart : prepared.Apart draw)
    (entries : List (String × Minter)) {value : Json} {zone token : String}
    (outgoing : outgoingToken py prepared store = some (zone, token))
    (supplied : SuppliedSecret prepared "cloudflare_api_tokens" value)
    (notBlank : value.blank = false)
    (missing : ¬ Holds (PyDict.get store.secrets "cloudflare_api_tokens")) :
    mintValue draw entries "cloudflare_api_tokens"
        (supply false (PyDict.get prepared.inputs.secretItems "cloudflare_api_tokens")
          (PyDict.get (tokened py prepared store).secrets "cloudflare_api_tokens")) =
        some value ↔
      ((PyDict.get store.secrets "cloudflare_api_tokens").getD .null).truthy = true ∧
        value = .obj [(zone, .str token)] := by
  rw [get_result_tokens entries outgoing]
  have fresh := outgoingToken_fresh outgoing
  rw [get_adopted apart] at fresh ⊢
  constructor
  · intro stored
    have whole := (Option.some.inj stored).symm
    have adopts : PyDict.get prepared.incoming "cloudflare_api_tokens" = some value := by
      rcases supplied with adopts | applies
      · exact adopts
      · obtain ⟨text, isText⟩ := apart.secretTexts _ value applies
        rw [isText] at whole
        cases whole
    rw [adopts] at whole fresh
    by_cases truthy : ((PyDict.get store.secrets "cloudflare_api_tokens").getD .null).truthy
    · obtain ⟨text, stands⟩ := truthy_blank missing truthy
      rw [supply_of_truthy truthy, stands] at whole
      exact ⟨truthy, whole⟩
    · have filled := supply_fill notBlank missing (by simpa using truthy)
      rw [filled] at whole fresh
      rw [whole] at fresh
      simp [tokenMap, Json.pyEq] at fresh
  · rintro ⟨truthy, rfl⟩
    obtain ⟨text, stands⟩ := truthy_blank missing truthy
    rw [supply_of_truthy truthy, stands]
    rfl

/-- A run that only fills honours every supplied value exactly where the
stages agree about what is missing. -/
theorem wins_iff_fillable (apart : prepared.Apart draw)
    (minted : mint py draw mode (settle py prepared false store) = .ok result) :
    SuppliedWins prepared store result ↔ Fillable py prepared store := by
  obtain ⟨zones, secrets⟩ := get_result_secret apart minted
  have silent : outgoingToken py prepared store = none → ∀ key,
      PyDict.get (tokened py prepared store).secrets key =
        PyDict.get (adopted prepared store).secrets key := by
    intro outgoing key
    rw [tokened_secrets, outgoing]
  have kept : ∀ key value, PyDict.get (tokened py prepared store).secrets key =
      PyDict.get (adopted prepared store).secrets key →
      PyDict.get store.secrets key = some value → value.IsText →
      PyDict.get result.secrets key = some value := by
    intro key value stays stored text
    have truthy : ((some value).getD Json.null).truthy = true := text.truthy
    rw [secrets, stays, get_adopted apart, stored, supply_of_truthy truthy,
      supply_of_truthy truthy]
    exact mintValue_of_holds draw _ key text.blank_eq_false
  constructor
  · intro wins
    refine ⟨?_, ?_, ?_, ?_⟩
    · intro key value different supplied notBlank missing
      have stored := wins.secret key value supplied notBlank missing
      rw [secrets] at stored
      exact (supplied_secret_iff apart _ (tokened_of_ne different) supplied notBlank
        missing).mp stored
    · intro value supplied notBlank missing
      have stored := wins.secret _ value supplied notBlank missing
      rw [secrets] at stored
      split
      · rename_i outgoing
        exact (supplied_secret_iff apart _ (silent outgoing _) supplied notBlank missing).mp stored
      · rename_i zone token outgoing
        exact (supplied_tokens_iff apart _ outgoing supplied notBlank missing).mp stored
    · intro key value free supplied notBlank missing
      have stored := wins.config key value free supplied notBlank missing
      rw [get_result_config apart minted free, supplied] at stored
      cases before : PyDict.get store.config key with
      | none => rfl
      | some present =>
          rw [before] at stored missing
          obtain rfl : present = value := by simpa [configDecision] using stored
          exact absurd (show Holds (some present) from notBlank) missing
    · intro value stored text
      cases outgoing : outgoingToken py prepared store with
      | none => rfl
      | some moved =>
          have stays := wins.keptSecret _ value stored text
          rw [secrets, get_result_tokens _ outgoing] at stays
          obtain rfl := Option.some.inj stays
          cases text
  · intro fillable
    refine ⟨?_, ?_, ?_, ?_⟩
    · intro key value supplied notBlank missing
      rw [secrets]
      by_cases tokens : key = "cloudflare_api_tokens"
      · subst tokens
        have agreed := fillable.tokens value supplied notBlank missing
        split at agreed
        · rename_i outgoing
          exact (supplied_secret_iff apart _ (silent outgoing _) supplied notBlank
            missing).mpr agreed
        · rename_i zone token outgoing
          exact (supplied_tokens_iff apart _ outgoing supplied notBlank missing).mpr agreed
      · exact (supplied_secret_iff apart _ (tokened_of_ne tokens) supplied notBlank
          missing).mpr (fillable.secret key value tokens supplied notBlank missing)
    · intro key value free supplied notBlank missing
      have absent := fillable.config key value free supplied notBlank missing
      obtain ⟨text, rfl⟩ := apart.configTexts key value supplied
      have different : Json.pyEq .null (.str text) = false := by
        simp [Json.pyEq, Json.number]
      rw [get_result_config apart minted free, supplied, absent]
      simp [configDecision, different]
    · intro key value stored text
      by_cases tokens : key = "cloudflare_api_tokens"
      · subst tokens
        exact kept _ value (silent (fillable.storedTokens value stored text) _) stored text
      · exact kept key value (tokened_of_ne tokens) stored text
    · intro key value free stored _
      rw [get_result_config apart minted free, stored]
      cases PyDict.get prepared.inputs.configItems key <;> simp [configDecision]

end Run

/-- A completed converge that only fills honours every supplied value exactly
where the stages agree about what is missing. -/
theorem supplied_values_win_iff {py : Builtins} {draw : String → Minter → String}
    {args : LoaderArgs} {file after : Option Json} {store result : Store}
    {prepared : Prepared} (fill : args.overwrite = false)
    (ran : FileRun.exec (loader py draw args false) file = (.ok result, after))
    (read : load file = .ok store) (ready : prepare py args = .ok prepared)
    (only : ∀ key value, PyDict.get prepared.incoming key = some value →
      PyDict.get prepared.inputs.secretItems key = none)
    (unminted : ∀ key value, SuppliedSecret prepared key value →
      ∀ name minter, value ≠ .str (draw name minter)) :
    load after = .ok result ∧
      (SuppliedWins prepared store result ↔ Fillable py prepared store) := by
  refine ⟨loader_reread ran, ?_⟩
  obtain ⟨found, held, document, prepares, _, loads, minted, _, _⟩ :=
    (exec_loader_eq_ok_iff py draw args false file after result).mp ran
  obtain rfl := Except.ok.inj (ready.symm.trans prepares)
  obtain rfl := Except.ok.inj (read.symm.trans loads)
  obtain ⟨secretsIn, configIn, external, adopts, secretsRead, configRead, sameInputs⟩ :=
    (prepare_eq_ok_iff py args prepared).mp ready
  have emptyNodup : (PyDict.keys ([] : PyDict String Json)).Nodup := by
    simp [PyDict.keys]
  have emptyTexts (key : String) :
      TextOnly (PyDict.get ([] : PyDict String Json) key) := by
    simp [TextOnly]
  rw [fill] at minted
  have apart : prepared.Apart draw := by
    refine ⟨nodup_readAdopt adopts, ?_, ?_, ?_, ?_, only, unminted⟩ <;> rw [sameInputs]
    · exact nodup_parseKv py args.setSecret emptyNodup secretsRead
    · exact nodup_parseKv py args.setConfig emptyNodup configRead
    · exact textOnly_parseKv py args.setSecret emptyTexts secretsRead
    · exact textOnly_parseKv py args.setConfig emptyTexts configRead
  exact wins_iff_fillable apart minted

def adoptingConverge : LoaderArgs :=
  ⟨some (.obj [("catena_postgres_password", .str "given")]), [], [], false, .full⟩

/-- A file that holds one internal secret. -/
def postgresFile (stored : String) : Option Json :=
  some (.obj [("secrets", .obj [("catena_postgres_password", .str stored)])])

/-- The arguments of that converge, read. -/
def adoptingPrepared : Prepared :=
  ⟨[("catena_postgres_password", .str "given")], ⟨none, [], [], by decide⟩⟩

/-- The store that converge leaves. -/
def adoptingResult (stored : String) : Store :=
  match (FileRun.exec (loader .unused (fun _ _ => "minted") adoptingConverge false)
      (postgresFile stored)).1 with
  | .ok result => result
  | .error _ => ⟨[], []⟩

theorem adopting_converge_unminted (key : String) (value : Json)
    (supplied : SuppliedSecret adoptingPrepared key value) (name : String) (minter : Minter) :
    value ≠ .str ((fun _ _ => "minted" : String → Minter → String) name minter) := by
  simp only [SuppliedSecret, adoptingPrepared, PyDict.get_cons, PyDict.get_nil,
    reduceCtorEq, or_false] at supplied
  split at supplied
  · obtain rfl := Option.some.inj supplied
    simp
  · cases supplied

/-- A secret stored empty takes the supplied value. -/
theorem empty_secret_takes_supplied :
    PyDict.get (adoptingResult "").secrets "catena_postgres_password" =
      some (.str "given") := by
  have fillable : Fillable .unused adoptingPrepared
      ⟨[("catena_postgres_password", .str "")], []⟩ := by
    refine ⟨?_, ?_, ?_, ?_⟩
    · rintro key value _ (adopts | applies) _ _
      · simp only [adoptingPrepared, PyDict.get_cons, PyDict.get_nil] at adopts
        split at adopts
        · rename_i same
          subst same
          rfl
        · cases adopts
      · cases applies
    · rintro value (adopts | applies)
      · cases adopts
      · cases applies
    · intro key value _ supplied
      cases supplied
    · intro value stored
      cases stored
  have wins := (@supplied_values_win_iff .unused (fun _ _ => "minted") adoptingConverge
    (postgresFile "") _ _ (adoptingResult "") adoptingPrepared rfl rfl rfl rfl
    (fun _ _ _ => rfl) adopting_converge_unminted).2.mpr fillable
  refine wins.secret _ _ (.inl rfl) rfl ?_
  unfold Holds
  decide

/-- A secret stored as a blank is minted anew, whatever is supplied for it. -/
theorem blank_secret_loses_supplied :
    ¬ ∀ (py : Builtins) (draw : String → Minter → String) (args : LoaderArgs)
      (file after : Option Json) (store result : Store) (prepared : Prepared),
      args.overwrite = false →
      FileRun.exec (loader py draw args false) file = (.ok result, after) →
      load file = .ok store → prepare py args = .ok prepared →
      (∀ key value, PyDict.get prepared.incoming key = some value →
        PyDict.get prepared.inputs.secretItems key = none) →
      (∀ key value, SuppliedSecret prepared key value →
        ∀ name minter, value ≠ .str (draw name minter)) →
      SuppliedWins prepared store result := by
  intro wins
  have stored := (wins .unused (fun _ _ => "minted") adoptingConverge (postgresFile " ") _ _
    (adoptingResult " ") adoptingPrepared rfl rfl rfl rfl (fun _ _ _ => rfl)
    adopting_converge_unminted).secret "catena_postgres_password" (.str "given")
    (.inl rfl) rfl (by
      unfold Holds
      decide)
  have minted : PyDict.get (adoptingResult " ").secrets "catena_postgres_password" =
      some (.str "minted") := by
    decide +kernel
  rw [minted] at stored
  simp at stored

end Catena.Store

import Catena.Loader

/-!
# What a run makes of one value

Each stage of a loader run is a function of one key's value: what is adopted,
what is applied, what is minted, and the provider.  Each of these functions,
and their composite, settles a value in one pass.
-/

namespace Catena.Store

/-- The key holds something: not absent, not null and not a blank string. -/
def Holds (current : Option Json) : Prop :=
  (current.getD .null).blank = false

theorem holds_iff (current : Option Json) :
    Holds current ↔ ∃ value, current = some value ∧ value.blank = false := by
  cases current with
  | none => simp [Holds, Json.blank]
  | some value => simp [Holds]

/-- What a supplied secret, if any, makes of the stored value. -/
def supply (overwrite : Bool) (given current : Option Json) : Option Json :=
  match given with
  | none => current
  | some value => (secretDecision overwrite value current).or current

/-- The value has no say: there is none, or it is blank. -/
def Idle (given : Option Json) : Prop :=
  ∀ value, given = some value → value.blank = true

theorem supply_of_idle {given : Option Json} (idle : Idle given)
    (overwrite : Bool) (current : Option Json) :
    supply overwrite given current = current := by
  cases given with
  | none => rfl
  | some value => simp [supply, secretDecision, idle value rfl]

theorem supply_of_truthy {current : Option Json}
    (truthy : (current.getD .null).truthy = true) (given : Option Json) :
    supply false given current = current := by
  cases given with
  | none => rfl
  | some value =>
      by_cases blank : value.blank = true <;>
        simp [supply, secretDecision, truthy, blank]

theorem supply_idem (overwrite : Bool) (given current : Option Json) :
    supply overwrite given (supply overwrite given current) =
      supply overwrite given current := by
  cases given with
  | none => rfl
  | some value =>
      by_cases decided : secretDecision overwrite value current = none
      · simp [supply, decided]
      · obtain ⟨assigned, some_assigned⟩ := Option.ne_none_iff_exists'.mp decided
        obtain ⟨rfl, _⟩ := secretDecision_some some_assigned
        simp only [supply, some_assigned, Option.some_or]
        cases again : secretDecision overwrite assigned (some assigned) with
        | none => rfl
        | some twice =>
            obtain ⟨rfl, _⟩ := secretDecision_some again
            rfl

/-- Overwriting, a value that is not blank leaves the key holding something. -/
theorem supply_holds {value : Json} (notBlank : value.blank = false)
    (current : Option Json) : Holds (supply true (some value) current) := by
  unfold supply secretDecision Holds
  by_cases equal : Json.pyEq (current.getD .null) value = true
  · have stays : (current.getD .null).blank = false := by
      by_contra blank
      have := Json.blank_of_pyEq equal (by simpa using blank)
      simp [this] at notBlank
    simpa [notBlank, equal] using stays
  · simp [notBlank, equal]

theorem supply_isSome {current : Option Json} (present : current.isSome = true)
    (overwrite : Bool) (given : Option Json) :
    (supply overwrite given current).isSome = true := by
  cases given with
  | none => exact present
  | some value =>
      cases decided : secretDecision overwrite value current <;>
        simp [supply, decided, present]

theorem supply_isSome_of_not_idle {value : Json} (notBlank : value.blank = false)
    (overwrite : Bool) (current : Option Json) :
    (supply overwrite (some value) current).isSome = true := by
  cases current with
  | some present => exact supply_isSome rfl overwrite _
  | none =>
      have different : Json.pyEq .null value = false := by
        by_contra equal
        have := @Json.blank_of_pyEq .null value (by simpa using equal) rfl
        simp [this] at notBlank
      simp [supply, secretDecision, notBlank, different, Json.truthy]

/-- Overwriting, a supplied string that is not blank is what the key holds. -/
theorem supply_text {text : String} (notBlank : (Json.str text).blank = false)
    (current : Option Json) :
    supply true (some (.str text)) current = some (.str text) := by
  unfold supply secretDecision
  by_cases equal : Json.pyEq (current.getD .null) (.str text) = true
  · have same := (Json.pyEq_str_iff _ _).mp equal
    cases current with
    | none => simp at same
    | some value => simp_all
  · simp [notBlank, equal]

theorem supply_fill_text {text : String} (notBlank : (Json.str text).blank = false)
    (current : Option Json) :
    ((supply false (some (.str text)) current).getD .null).truthy = true := by
  have textTruthy : (Json.str text).truthy = true :=
    Json.IsText.truthy (by simpa [Json.IsText, Json.blank] using notBlank)
  unfold supply secretDecision
  by_cases truthy : (current.getD .null).truthy = true
  · simp [notBlank, truthy]
  · by_cases equal : Json.pyEq (current.getD .null) (.str text) = true
    · rw [(Json.pyEq_str_iff _ _).mp equal] at truthy
      exact absurd textTruthy truthy
    · simpa [notBlank, truthy, equal] using textTruthy

/-- The secrets stages on one value: what is adopted, then what is applied. -/
def supplyBoth (overwrite : Bool) (adopted applied current : Option Json) :
    Option Json :=
  supply overwrite applied (supply overwrite adopted current)

/-- Applied values come from the command line, so they are strings. -/
def TextOnly (given : Option Json) : Prop :=
  ∀ value, given = some value → ∃ text, value = .str text

theorem supplyBoth_idem (overwrite : Bool) {adopted applied : Option Json}
    (textOnly : TextOnly applied) (current : Option Json) :
    supplyBoth overwrite adopted applied
        (supplyBoth overwrite adopted applied current) =
      supplyBoth overwrite adopted applied current := by
  unfold supplyBoth
  by_cases idle : Idle applied
  · simp only [supply_of_idle idle, supply_idem]
  · simp only [Idle, not_forall] at idle
    obtain ⟨value, rfl, notBlank⟩ := idle
    obtain ⟨text, rfl⟩ := textOnly value rfl
    simp only [Bool.not_eq_true] at notBlank
    cases overwrite with
    | true => simp only [supply_text notBlank]
    | false =>
        have truthy := supply_fill_text notBlank (supply false adopted current)
        rw [supply_of_truthy truthy adopted, supply_of_truthy truthy]

/-- A key the stages leave without a value of its own got none: in an
overwriting run neither value had a say. -/
theorem idle_of_not_holds {adopted applied current : Option Json}
    (missing : ¬ Holds (supplyBoth true adopted applied current)) :
    Idle adopted ∧ Idle applied := by
  have appliedIdle : Idle applied := by
    rintro value rfl
    by_contra notBlank
    exact missing (supply_holds (by simpa using notBlank) _)
  refine ⟨?_, appliedIdle⟩
  rintro value rfl
  by_contra notBlank
  apply missing
  unfold supplyBoth
  rw [supply_of_idle appliedIdle]
  exact supply_holds (by simpa using notBlank) _

def mintValue (draw : String → Minter → String)
    (entries : List (String × Minter)) (key : String) (current : Option Json) :
    Option Json :=
  Tally.resolve Prod.fst (fun entry value =>
    if (value.getD .null).blank then some (.str (draw entry.1 entry.2))
    else none) entries key current

theorem get_mintedSecrets (draw : String → Minter → String)
    (entries : List (String × Minter)) (secrets : PyDict String Json)
    (key : String) :
    PyDict.get (mintedSecrets draw entries secrets) key =
      mintValue draw entries key (PyDict.get secrets key) :=
  Tally.get_foldl_update Prod.fst _ entries ⟨secrets, []⟩ key

theorem mintValue_of_holds (draw : String → Minter → String)
    (entries : List (String × Minter)) (key : String) {current : Option Json}
    (holds : Holds current) : mintValue draw entries key current = current := by
  unfold mintValue
  induction entries with
  | nil => rfl
  | cons entry rest ih =>
      have idle : (current.getD .null).blank = false := holds
      by_cases same : entry.1 = key
      · simpa [Tally.resolve, same, idle] using ih
      · simpa [Tally.resolve, same] using ih

theorem mintValue_of_not_mem (draw : String → Minter → String)
    {entries : List (String × Minter)} {key : String}
    (absent : key ∉ entries.map Prod.fst) (current : Option Json) :
    mintValue draw entries key current = current := by
  refine Tally.resolve_of_not_mem _ _ _ ?_ current
  rintro entry member rfl
  exact absent (List.mem_map_of_mem member)

theorem mintValue_of_mem {draw : String → Minter → String}
    (text : ∀ key minter, PyText.strip (draw key minter) ≠ "")
    {entries : List (String × Minter)} {key : String}
    (member : key ∈ entries.map Prod.fst) {current : Option Json}
    (missing : ¬ Holds current) :
    ∃ minter, mintValue draw entries key current =
      some (.str (draw key minter)) := by
  induction entries with
  | nil => simp at member
  | cons entry rest ih =>
      by_cases same : entry.1 = key
      · subst same
        have blank : (current.getD .null).blank = true := by
          simpa [Holds] using missing
        have stays := mintValue_of_holds draw rest entry.1
          (show Holds (some (.str (draw entry.1 entry.2))) by
            simpa [Holds, Json.blank] using text entry.1 entry.2)
        exact ⟨entry.2, by
          simpa [mintValue, Tally.resolve, blank] using stays⟩
      · have later : key ∈ rest.map Prod.fst := by
          simpa [Ne.symm same] using member
        simpa [mintValue, Tally.resolve, same] using ih later

theorem mintValue_isSome {draw : String → Minter → String}
    (entries : List (String × Minter)) (key : String) {current : Option Json}
    (present : current.isSome = true) :
    (mintValue draw entries key current).isSome = true :=
  Tally.resolve_induction _ _ (fun value => value.isSome = true) _ present
    fun _ _ _ _ _ => rfl

theorem mintValue_holds {draw : String → Minter → String}
    (text : ∀ key minter, PyText.strip (draw key minter) ≠ "")
    {entries : List (String × Minter)} {key : String}
    (member : key ∈ entries.map Prod.fst) (current : Option Json) :
    Holds (mintValue draw entries key current) := by
  by_cases holds : Holds current
  · rwa [mintValue_of_holds draw entries key holds]
  · obtain ⟨minter, minted⟩ := mintValue_of_mem text member holds
    rw [minted]
    exact Json.IsText.blank_eq_false (text key minter)

/-- The secrets stages and the mint loop on one value. -/
def reconcile (draw : String → Minter → String)
    (entries : List (String × Minter)) (overwrite : Bool)
    (adopted applied : Option Json) (key : String) (current : Option Json) :
    Option Json :=
  mintValue draw entries key (supplyBoth overwrite adopted applied current)

/-- One value is settled after one run, whatever the second run would mint. -/
theorem reconcile_idem {draw : String → Minter → String}
    (text : ∀ key minter, PyText.strip (draw key minter) ≠ "")
    (again : String → Minter → String) (entries : List (String × Minter))
    (overwrite : Bool) {adopted applied : Option Json}
    (textOnly : TextOnly applied) (key : String) (current : Option Json) :
    let settled := reconcile draw entries overwrite adopted applied key current
    reconcile again entries overwrite adopted applied key settled = settled := by
  intro settled
  by_cases member : key ∈ entries.map Prod.fst
  · by_cases holds : Holds (supplyBoth overwrite adopted applied current)
    · have same : settled = supplyBoth overwrite adopted applied current :=
        mintValue_of_holds draw entries key holds
      unfold reconcile
      rw [same, supplyBoth_idem overwrite textOnly]
      exact mintValue_of_holds again entries key holds
    · obtain ⟨minter, minted⟩ := mintValue_of_mem text member holds
      have same : settled = some (.str (draw key minter)) := minted
      have isText : (Json.str (draw key minter)).IsText := text key minter
      have stays : supplyBoth overwrite adopted applied settled = settled := by
        cases overwrite with
        | false =>
            have truthy : (settled.getD .null).truthy = true := by
              rw [same]
              exact isText.truthy
            unfold supplyBoth
            rw [supply_of_truthy truthy, supply_of_truthy truthy]
        | true =>
            obtain ⟨adoptedIdle, appliedIdle⟩ := idle_of_not_holds holds
            unfold supplyBoth
            rw [supply_of_idle adoptedIdle, supply_of_idle appliedIdle]
      unfold reconcile
      rw [stays]
      apply mintValue_of_holds
      rw [same]
      exact isText.blank_eq_false
  · have same : settled = supplyBoth overwrite adopted applied current :=
      mintValue_of_not_mem draw member _
    unfold reconcile
    rw [same, supplyBoth_idem overwrite textOnly]
    exact mintValue_of_not_mem again member _

theorem configDecision_idem (overwrite : Bool) (value : Json)
    (current : Option Json) :
    let settled := (configDecision overwrite value current).or current
    (configDecision overwrite value settled).or settled = settled := by
  intro settled
  cases decided : configDecision overwrite value settled with
  | none => rfl
  | some assigned =>
      have same : assigned = value := configDecision_some decided
      cases before : configDecision overwrite value current with
      | none =>
          have unchanged : settled = current := by
            simp [settled, before]
          rw [unchanged, before] at decided
          simp at decided
      | some first =>
          have sameFirst : first = value := configDecision_some before
          have assignedFirst : settled = some first := by
            simp [settled, before]
          rw [assignedFirst, same, sameFirst]
          rfl

theorem settledProvider_mem (py : Builtins) (method : String) (store : Store) :
    settledProvider py method store ∈ tailnetProviders := by
  unfold settledProvider
  dsimp only
  split
  · decide
  · split
    · assumption
    · split
      · decide
      · split <;> decide

theorem tailnetProviders_normal :
    ∀ provider ∈ tailnetProviders,
      PyText.lower (PyText.strip provider) = provider := by
  decide

theorem settledProvider_of_stored (py : Builtins) {method provider : String}
    {store : Store} (noMethod : method = "")
    (known : provider ∈ tailnetProviders)
    (stored : PyDict.get store.config "TAILNET_PROVIDER" =
      some (.str provider)) :
    settledProvider py method store = provider := by
  have sameText : PyText.lower (PyText.strip (Json.textOr py
      (PyDict.get store.config "TAILNET_PROVIDER"))) = provider := by
    rw [stored, Json.textOr_str]
    exact tailnetProviders_normal provider known
  unfold settledProvider
  simp [sameText, noMethod, known]

end Catena.Store

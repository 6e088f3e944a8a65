import Catena.PyTextForms
import Catena.Rosters
import Catena.Tier1Stack

/-!
# One service for each name

The roster that specs were put on one after another holds one entry for each
service name, and its rendering declares as external exactly what the rendered
services refer to.
-/

namespace Catena

namespace Tier1Stack

variable (py : Builtins)

/-- A spec that can be put on a roster. -/
def IsNamed : Json → Prop
  | .obj spec => PyText.strip (textAt py spec "name") ≠ ""
  | _ => False

def entriesOf : Json → List Json
  | .arr entries => entries
  | _ => []

/-- No two entries render under one name, each name has the last spec given for
it, and no rendering stops at a duplicate name. -/
structure OnePerName (given : List Json) (roster : Json) : Prop where
  apart : ((entriesOf roster).map (serviceName py)).Nodup
  last : ∀ name, (entriesOf roster).filter (fun entry => serviceName py entry = name) =
    ((given.filter fun spec => serviceName py spec = name).getLast?).toList
  noDuplicate : ∀ name, tier1StackRender py roster ≠ fail (.duplicate name)

variable {py}

theorem isNamed_mapping {spec : Json} (named : IsNamed py spec) : checkMapping spec = .ok () := by
  cases spec with
  | obj fields => rfl
  | _ => cases named

theorem mapM_checkMapping {entries : List Json} (named : ∀ entry ∈ entries, IsNamed py entry) :
    ∃ units, entries.mapM checkMapping = .ok units := by
  induction entries with
  | nil => exact ⟨[], rfl⟩
  | cons entry rest ih =>
      obtain ⟨units, checked⟩ := ih fun other found => named other (List.mem_cons_of_mem _ found)
      refine ⟨() :: units, ?_⟩
      rw [List.mapM_cons, isNamed_mapping (named entry (List.mem_cons_self ..)), checked]
      rfl

theorem iterate_entries (entries : List Json) :
    SwarmService.iterate (PanelService.orList (.arr entries)) = .ok entries := by
  cases entries with
  | nil => rfl
  | cons entry rest => rfl

/-- A named spec replaces the entries written with its name and goes last;
any other spec is refused. -/
theorem tier1SpecUpsert_iff {entries : List Json} {spec roster : Json}
    (named : ∀ entry ∈ entries, IsNamed py entry) :
    tier1SpecUpsert py (.arr entries) spec = .ok roster ↔
      IsNamed py spec ∧
        roster = .arr (Roster.put (writtenName py) PyText.strip entries spec) := by
  obtain ⟨units, checked⟩ := mapM_checkMapping named
  have unnamed {fields : Json} (other : ∀ items, fields ≠ .obj items) :
      tier1SpecUpsert py (.arr entries) fields ≠ .ok roster := by
    have blank : serviceName py fields = "" := by
      cases fields with
      | obj items => exact absurd rfl (other items)
      | _ => exact PyText.strip_empty
    unfold tier1SpecUpsert
    by_cases truthy : fields.truthy = true
    · have refused : checkMapping fields = .error (.filter .attributeError) := by
        cases fields with
        | obj items => exact absurd rfl (other items)
        | _ => rfl
      rw [if_pos truthy, refused]
      exact fun contrary => by cases contrary
    · rw [if_neg truthy]
      simp only [checkMapping, bind, Except.bind, blank, if_true]
      exact fun contrary => by cases contrary
  cases spec with
  | obj fields =>
      have mapping : checkMapping (if (Json.obj fields).truthy then .obj fields else .obj []) =
          .ok () := by
        split <;> rfl
      unfold tier1SpecUpsert
      rw [mapping]
      simp only [bind, Except.bind]
      by_cases blank : serviceName py (.obj fields) = ""
      · rw [if_pos blank]
        constructor
        · exact fun contrary => by cases contrary
        · exact fun both => absurd blank both.1
      · rw [if_neg blank, iterate_entries]
        simp only [lift, checked, Except.ok.injEq]
        exact ⟨fun same => ⟨blank, same.symm⟩, fun both => both.2.symm⟩
  | _ => exact ⟨fun upserted => absurd upserted (unnamed (by simp)), fun both => both.1.elim⟩

/-- A run of upserts succeeds on named specs, and keeps those that stay. -/
theorem accumulate_iff {given : List Json} {roster : Json} :
    accumulate py given = .ok roster ↔
      (∀ spec ∈ given, IsNamed py spec) ∧
        roster = .arr (Roster.kept (writtenName py) PyText.strip given) := by
  have run (entries : List Json) (named : ∀ entry ∈ entries, IsNamed py entry) :
      given.foldlM (tier1SpecUpsert py) (.arr entries) = .ok roster ↔
        (∀ spec ∈ given, IsNamed py spec) ∧
          roster = .arr (given.foldl (Roster.put (writtenName py) PyText.strip) entries) := by
    induction given generalizing entries with
    | nil =>
        simp only [List.foldlM_nil, List.foldl_nil, List.not_mem_nil, false_implies,
          implies_true, true_and]
        exact ⟨fun same => (Except.ok.inj same).symm, fun same => congrArg Except.ok same.symm⟩
    | cons spec rest ih =>
        rw [List.foldlM_cons, List.foldl_cons, List.forall_mem_cons]
        cases upserted : tier1SpecUpsert py (.arr entries) spec with
        | error failure =>
            constructor
            · exact fun contrary => by cases contrary
            · rintro ⟨⟨here, _⟩, _⟩
              rw [(tier1SpecUpsert_iff named).mpr ⟨here, rfl⟩] at upserted
              cases upserted
        | ok next =>
            obtain ⟨here, rfl⟩ := (tier1SpecUpsert_iff named).mp upserted
            have nextNamed : ∀ entry ∈ Roster.put (writtenName py) PyText.strip entries spec,
                IsNamed py entry := by
              intro entry found
              rcases List.mem_append.mp found with old | new
              · exact named entry (List.mem_of_mem_filter old)
              · exact List.mem_singleton.mp new ▸ here
            simp only [bind, Except.bind, ih _ nextNamed, here, true_and]
  have start := run [] (by simp)
  rw [Roster.foldl_put] at start
  exact start

/-- A step that does not stop at a duplicate name. -/
def NoDuplicate {α : Type} (step : Result α) : Prop :=
  ∀ name, step ≠ fail (.duplicate name)

theorem NoDuplicate.ok {α : Type} (value : α) : NoDuplicate (.ok value) := by
  intro name stopped
  cases stopped

theorem NoDuplicate.error {α : Type} {failure : StackError}
    (other : ∀ name, failure ≠ .refused (.duplicate name)) :
    NoDuplicate (.error failure : Result α) := by
  intro name stopped
  exact other name (Except.error.inj stopped)

theorem NoDuplicate.bind {α β : Type} {step : Result α} {next : α → Result β}
    (first : NoDuplicate step) (later : ∀ value, NoDuplicate (next value)) :
    NoDuplicate (step >>= next) := by
  intro name stopped
  cases ran : step with
  | error failure =>
      rw [ran] at stopped first
      exact first name (congrArg Except.error (Except.error.inj stopped))
  | ok value =>
      rw [ran] at stopped
      exact later value name stopped

theorem NoDuplicate.map {α β : Type} {step : Result α} (first : NoDuplicate step)
    (view : α → β) : NoDuplicate (step.map view) := by
  intro name stopped
  cases ran : step with
  | error failure =>
      rw [ran] at stopped first
      exact first name (congrArg Except.error (Except.error.inj stopped))
  | ok value =>
      rw [ran] at stopped
      cases stopped

theorem NoDuplicate.mapM {α β : Type} {step : α → Result β} (each : ∀ item, NoDuplicate (step item))
    (items : List α) : NoDuplicate (items.mapM step) := by
  induction items with
  | nil => exact NoDuplicate.ok _
  | cons item rest ih =>
      rw [List.mapM_cons]
      exact (each item).bind fun value => ih.bind fun values => NoDuplicate.ok _

theorem lift_noDuplicate {α : Type} (step : Except SwarmService.FilterError α) :
    NoDuplicate (lift step) := by
  cases step with
  | ok value => exact NoDuplicate.ok _
  | error failure => exact NoDuplicate.error (by simp)

theorem listed_noDuplicate (spec : Spec) (key : String) : NoDuplicate (listed spec key) :=
  lift_noDuplicate _

theorem sortedTexts_noDuplicate (spec : Spec) (key : String) :
    NoDuplicate (sortedTexts py spec key) := by
  unfold sortedTexts
  split
  · exact NoDuplicate.ok _
  · exact NoDuplicate.ok _
  · exact NoDuplicate.error (by simp)

theorem readAt_noDuplicate {read : Json → Result Json} (each : ∀ value, NoDuplicate (read value))
    (spec : Spec) (key : String) : NoDuplicate (readAt spec key read) := by
  unfold readAt
  split
  · exact (each _).map _
  · exact NoDuplicate.ok _

theorem failureAction_noDuplicate (name : String) (action : Json) :
    NoDuplicate (failureAction py name action) := by
  unfold failureAction
  split
  · exact NoDuplicate.error (by simp)
  · exact NoDuplicate.ok _

theorem updateConfig_noDuplicate (spec : Spec) : NoDuplicate (updateConfig py spec) := by
  unfold updateConfig
  refine (readAt_noDuplicate (failureAction_noDuplicate _) spec _).bind fun action => ?_
  exact (readAt_noDuplicate (fun ratio => (lift_noDuplicate _).map _) spec _).bind
    fun ratio => NoDuplicate.ok _

theorem deployBlock_noDuplicate (spec : Spec) : NoDuplicate (deployBlock py spec) := by
  unfold deployBlock
  refine (lift_noDuplicate _).bind fun replicas => ?_
  refine (updateConfig_noDuplicate spec).bind fun update => ?_
  exact (listed_noDuplicate spec _).bind fun constraints => NoDuplicate.ok _

theorem healthcheck_noDuplicate (spec : Spec) : NoDuplicate (healthcheck py spec) := by
  unfold healthcheck
  split
  · exact NoDuplicate.ok _
  · exact (readAt_noDuplicate (fun retries => (lift_noDuplicate _).map _) spec _).bind
      fun retries => NoDuplicate.ok _

theorem portEntry_noDuplicate (name : String) (port : Json) :
    NoDuplicate (portEntry py name port) := by
  have number (port : PyDict String Json) (key : String) :
      NoDuplicate (portNumber py port key) := by
    unfold portNumber
    split
    · exact (lift_noDuplicate _).map _
    · exact NoDuplicate.error (by simp)
  unfold portEntry
  split
  · split
    · exact NoDuplicate.error (by simp)
    · exact (number _ _).bind fun target => (number _ _).bind fun published => NoDuplicate.ok _
  · exact NoDuplicate.error (by simp)

theorem secretEntry_noDuplicate (name : String) (secret : Json) :
    NoDuplicate (secretEntry py name secret) := by
  unfold secretEntry
  split
  · dsimp only
    split
    · exact NoDuplicate.error (by simp)
    · exact NoDuplicate.ok _
  · exact NoDuplicate.ok _

theorem checkSpec_noDuplicate (spec : Spec) : NoDuplicate (checkSpec py spec) := by
  unfold checkSpec
  split
  · exact NoDuplicate.error (by simp)
  · split
    · exact NoDuplicate.error (by simp)
    · exact NoDuplicate.ok _

/-- What a service is rendered from never is a duplicate name. -/
theorem service_noDuplicate (spec : Json) : NoDuplicate (service py spec) := by
  unfold service
  split
  · rename_i fields
    refine (checkSpec_noDuplicate fields).bind fun _ => ?_
    refine (deployBlock_noDuplicate fields).bind fun deploy => ?_
    refine (listed_noDuplicate fields _).bind fun networks => ?_
    refine (sortedTexts_noDuplicate fields _).bind fun environment => ?_
    refine (listed_noDuplicate fields _).bind fun given => ?_
    refine (NoDuplicate.mapM (secretEntry_noDuplicate _) given).bind fun secrets => ?_
    refine (listed_noDuplicate fields _).bind fun volumes => ?_
    refine NoDuplicate.bind ?_ fun published => ?_
    · exact (listed_noDuplicate fields _).bind fun given =>
        NoDuplicate.mapM (portEntry_noDuplicate _) given
    refine (listed_noDuplicate fields _).bind fun hosts => ?_
    refine (sortedTexts_noDuplicate fields _).bind fun labels => ?_
    refine (healthcheck_noDuplicate fields).bind fun health => ?_
    exact (readAt_noDuplicate (fun command => (lift_noDuplicate _).map _) fields _).bind
      fun command => NoDuplicate.ok _
  · exact NoDuplicate.error (by simp)

theorem referencesOf_noDuplicate (spec : Json) : NoDuplicate (referencesOf py spec) := by
  unfold referencesOf
  split
  · exact (listed_noDuplicate _ _).bind fun networks => (listed_noDuplicate _ _).bind
      fun secrets => (listed_noDuplicate _ _).bind fun volumes => NoDuplicate.ok _
  · exact NoDuplicate.error (by simp)

theorem renderNext_eq {rendered : PyDict String Json} {spec : Json}
    (fresh : serviceName py spec ∉ PyDict.keys rendered) :
    renderNext py rendered spec = (service py spec).map fun entry =>
      rendered ++ [(serviceName py spec, entry)] := by
  have appended (entry : Json) : PyDict.set rendered (serviceName py spec) entry =
      rendered ++ [(serviceName py spec, entry)] := by
    induction rendered with
    | nil => rfl
    | cons item rest ih =>
        rw [PyDict.keys, List.map_cons, List.mem_cons, not_or] at fresh
        rw [PyDict.set, if_neg (Ne.symm fresh.1), ih fresh.2]
        rfl
  rw [renderNext]
  simp only [fresh, if_false]
  cases service py spec with
  | error failure => rfl
  | ok entry => exact congrArg Except.ok (appended entry)

def namedService (py : Builtins) (spec : Json) : Result (String × Json) :=
  (service py spec).map fun entry => (serviceName py spec, entry)

theorem foldlM_renderNext {specs : List Json} {rendered : PyDict String Json}
    (apart : (PyDict.keys rendered ++ specs.map (serviceName py)).Nodup) :
    specs.foldlM (renderNext py) rendered =
      (specs.mapM (namedService py)).map (rendered ++ ·) := by
  induction specs generalizing rendered with
  | nil => simp [Except.map, pure, Except.pure]
  | cons spec rest ih =>
      have fresh : serviceName py spec ∉ PyDict.keys rendered := by
        intro inside
        exact (List.nodup_append.mp apart).2.2 _ inside _ (List.mem_cons_self ..) rfl
      rw [List.foldlM_cons, List.mapM_cons, renderNext_eq fresh, namedService]
      cases service py spec with
      | error failure => rfl
      | ok entry =>
          have later : (PyDict.keys (rendered ++ [(serviceName py spec, entry)]) ++
              rest.map (serviceName py)).Nodup := by
            simpa [PyDict.keys] using apart
          have tail := ih later
          simp only [Except.map, bind, Except.bind]
          rw [tail]
          cases rest.mapM (namedService py) with
          | error failure => rfl
          | ok entries => simp [Except.map, pure, Except.pure]

theorem tier1StackRender_noDuplicate {specs : List Json}
    (apart : (specs.map (serviceName py)).Nodup) :
    NoDuplicate (tier1StackRender py (.arr specs)) := by
  cases specs with
  | nil => exact NoDuplicate.error (by simp)
  | cons spec rest =>
      rw [tier1StackRender, renderSpecs, foldlM_renderNext (by simpa [PyDict.keys] using apart)]
      apply NoDuplicate.bind
      · apply NoDuplicate.map
        exact NoDuplicate.mapM (fun spec => (service_noDuplicate spec).map _) _
      · intro rendered
        exact (NoDuplicate.mapM referencesOf_noDuplicate _).bind fun references =>
          NoDuplicate.ok _

/-- The mapping a stack file has under a key. -/
def sectionOf (stack : Json) (key : String) : PyDict String Json :=
  match PyDict.get stack.fields key with
  | some (.obj items) => items
  | _ => []

def servicesOf (stack : Json) : List Json :=
  (sectionOf stack "services").map Prod.snd

/-- The list a rendered service has under a key. -/
def itemsOf (service : Json) (key : String) : List Json :=
  match PyDict.get service.fields key with
  | some (.arr items) => items
  | _ => []

def textOf : Json → Option String
  | .str text => some text
  | _ => none

/-- The secret a rendered service mounts: its own name or its source. -/
def mountedSecret : Json → Option String
  | .str name => some name
  | .obj secret => (PyDict.get secret "source").bind textOf
  | _ => none

def networksOf (service : Json) : List String :=
  (itemsOf service "networks").filterMap textOf

def secretsOf (service : Json) : List String :=
  (itemsOf service "secrets").filterMap mountedSecret

/-- The named volumes of a rendered service. -/
def volumesOf (service : Json) : List String :=
  (((itemsOf service "volumes").filterMap textOf).map volumeSource).filter isNamed

/-- A stack file whose networks, secrets and volumes are those its services
refer to, each marked external. -/
structure Closed (stack : Json) : Prop where
  networks : ∀ name, name ∈ PyDict.keys (sectionOf stack "networks") ↔
    ∃ service ∈ servicesOf stack, name ∈ networksOf service
  secrets : ∀ name, name ∈ PyDict.keys (sectionOf stack "secrets") ↔
    ∃ service ∈ servicesOf stack, name ∈ secretsOf service
  volumes : ∀ name, name ∈ PyDict.keys (sectionOf stack "volumes") ↔
    ∃ service ∈ servicesOf stack, name ∈ volumesOf service
  external : ∀ key ∈ ["networks", "secrets", "volumes"], ∀ name value,
    (name, value) ∈ sectionOf stack key → value = .obj [("external", .bool true)]

theorem bind_ok {α β : Type} {step : Result α} {next : α → Result β} {value : β}
    (ran : (step >>= next) = .ok value) : ∃ first, step = .ok first ∧ next first = .ok value := by
  cases step with
  | error failure => cases ran
  | ok first => exact ⟨first, rfl, ran⟩

theorem get_field (key wanted : String) (value : Option Json) :
    PyDict.get (field key value) wanted = if key = wanted then value else none := by
  cases value with
  | none => simp [field]
  | some value => simp [field, PyDict.get]

theorem get_listField (key wanted : String) (items : List Json) :
    PyDict.get (listField key items) wanted =
      if key = wanted ∧ items ≠ [] then some (.arr items) else none := by
  rw [listField, get_field]
  cases items with
  | nil => simp
  | cons item rest => simp

/-- The items of a list that is left out where it is empty. -/
theorem itemsOf_of_get {service : Json} {key : String} {items : List Json}
    (found : PyDict.get service.fields key = if items ≠ [] then some (.arr items) else none) :
    itemsOf service key = items := by
  rw [itemsOf, found]
  by_cases empty : items = []
  · simp [empty]
  · simp [empty]

theorem filterMap_textOf_shown (items : List Json) :
    (items.map (shown py)).filterMap textOf = items.map fun item => item.toText py := by
  rw [List.filterMap_map]
  exact List.filterMap_eq_map_iff_forall_eq_some.mpr fun item _ => rfl

/-- A rendered secret is mounted under the name the second pass reads. -/
theorem mountedSecret_of_secretEntry {name : String} {secret entry : Json}
    (rendered : secretEntry py name secret = .ok entry) :
    mountedSecret entry = some (secretName py secret) := by
  cases secret with
  | obj fields =>
      rw [secretEntry] at rendered
      split at rendered
      · cases rendered
      · rename_i given
        rw [not_or] at given
        obtain rfl := (Except.ok.inj rendered)
        have truthy : (secretSource fields).truthy = true := by
          by_contra falsy
          exact given.1 (by simp [Json.textOr, falsy])
        have source : Json.textOr py (some (secretSource fields)) =
            (secretSource fields).toText py := by
          rw [Json.textOr, if_pos truthy]
        rw [source]
        rfl
  | _ =>
      obtain rfl := (Except.ok.inj rendered)
      rfl

theorem filterMap_mountedSecret {name : String} {given entries : List Json}
    (rendered : given.mapM (secretEntry py name) = .ok entries) :
    entries.filterMap mountedSecret = given.map (secretName py) := by
  induction given generalizing entries with
  | nil =>
      obtain rfl := (Except.ok.inj rendered)
      rfl
  | cons secret rest ih =>
      rw [List.mapM_cons] at rendered
      obtain ⟨entry, here, rendered⟩ := bind_ok rendered
      obtain ⟨others, later, rendered⟩ := bind_ok rendered
      obtain rfl := (Except.ok.inj rendered)
      rw [List.filterMap_cons, mountedSecret_of_secretEntry here, ih later]
      rfl

theorem referencesOf_of_service {spec entry : Json} (rendered : service py spec = .ok entry) :
    ∃ references, referencesOf py spec = .ok references ∧
      references.networks = networksOf entry ∧ references.secrets = secretsOf entry ∧
      references.volumes = volumesOf entry := by
  cases spec with
  | obj fields =>
      rw [service] at rendered
      obtain ⟨_, _, rendered⟩ := bind_ok rendered
      obtain ⟨deploy, _, rendered⟩ := bind_ok rendered
      obtain ⟨networks, networksListed, rendered⟩ := bind_ok rendered
      obtain ⟨environment, _, rendered⟩ := bind_ok rendered
      obtain ⟨given, secretsListed, rendered⟩ := bind_ok rendered
      obtain ⟨secrets, secretsRendered, rendered⟩ := bind_ok rendered
      obtain ⟨volumes, volumesListed, rendered⟩ := bind_ok rendered
      obtain ⟨published, _, rendered⟩ := bind_ok rendered
      obtain ⟨hosts, _, rendered⟩ := bind_ok rendered
      obtain ⟨labels, _, rendered⟩ := bind_ok rendered
      obtain ⟨health, _, rendered⟩ := bind_ok rendered
      obtain ⟨command, _, rendered⟩ := bind_ok rendered
      have shape := (Except.ok.inj rendered).symm
      have networksItems : itemsOf entry "networks" = networks.map (shown py) := by
        apply itemsOf_of_get
        rw [shape]
        simp [Json.fields, PyDict.get_append, get_field, get_listField, PyDict.get]
      have secretsItems : itemsOf entry "secrets" = secrets := by
        apply itemsOf_of_get
        rw [shape]
        simp [Json.fields, PyDict.get_append, get_field, get_listField, PyDict.get]
      have volumesItems : itemsOf entry "volumes" = volumes.map (shown py) := by
        apply itemsOf_of_get
        rw [shape]
        simp [Json.fields, PyDict.get_append, get_field, get_listField, PyDict.get]
      refine ⟨{
        networks := networks.map fun network => network.toText py
        secrets := given.map (secretName py)
        volumes := (volumes.map fun volume => volumeSource (volume.toText py)).filter isNamed },
        ?_, ?_, ?_, ?_⟩
      · rw [referencesOf, networksListed, secretsListed, volumesListed]
        rfl
      · rw [networksOf, networksItems, filterMap_textOf_shown]
      · rw [secretsOf, secretsItems, filterMap_mountedSecret secretsRendered]
      · rw [volumesOf, volumesItems, filterMap_textOf_shown, List.map_map]
        rfl
  | _ => cases rendered

theorem mapM_of_foldlM {specs : List Json} {rendered final : PyDict String Json}
    (ran : specs.foldlM (renderNext py) rendered = .ok final) :
    ∃ entries, specs.mapM (namedService py) = .ok entries ∧ final = rendered ++ entries := by
  induction specs generalizing rendered with
  | nil =>
      obtain rfl := (Except.ok.inj ran)
      exact ⟨[], rfl, (List.append_nil _).symm⟩
  | cons spec rest ih =>
      rw [List.foldlM_cons] at ran
      obtain ⟨next, here, ran⟩ := bind_ok ran
      have fresh : serviceName py spec ∉ PyDict.keys rendered := by
        intro inside
        rw [renderNext] at here
        simp only [inside, if_true] at here
        cases here
      rw [renderNext_eq fresh] at here
      cases entry : service py spec with
      | error failure =>
          rw [entry] at here
          cases here
      | ok value =>
          rw [entry] at here
          obtain rfl := (Except.ok.inj here)
          obtain ⟨entries, later, rfl⟩ := ih ran
          refine ⟨(serviceName py spec, value) :: entries, ?_, by simp⟩
          rw [List.mapM_cons, namedService, entry, later]
          rfl

/-- The second pass over specs that rendered reads what their services hold. -/
theorem references_of_rendered {specs : List Json} {entries : PyDict String Json}
    (ran : specs.mapM (namedService py) = .ok entries) :
    ∃ references, specs.mapM (referencesOf py) = .ok references ∧
      references.flatMap References.networks = (entries.map Prod.snd).flatMap networksOf ∧
      references.flatMap References.secrets = (entries.map Prod.snd).flatMap secretsOf ∧
      references.flatMap References.volumes = (entries.map Prod.snd).flatMap volumesOf := by
  induction specs generalizing entries with
  | nil =>
      obtain rfl := (Except.ok.inj ran)
      exact ⟨[], rfl, rfl, rfl, rfl⟩
  | cons spec rest ih =>
      rw [List.mapM_cons] at ran
      obtain ⟨named, here, ran⟩ := bind_ok ran
      obtain ⟨others, later, ran⟩ := bind_ok ran
      obtain rfl := (Except.ok.inj ran)
      obtain ⟨references, read, networks, secrets, volumes⟩ := ih later
      cases entry : service py spec with
      | error failure =>
          rw [namedService, entry] at here
          cases here
      | ok value =>
          rw [namedService, entry] at here
          obtain rfl := (Except.ok.inj here)
          obtain ⟨first, firstRead, firstNetworks, firstSecrets, firstVolumes⟩ :=
            referencesOf_of_service entry
          refine ⟨first :: references, ?_, ?_, ?_, ?_⟩
          · rw [List.mapM_cons, firstRead, read]
            rfl
          · rw [List.flatMap_cons, firstNetworks, networks]
            rfl
          · rw [List.flatMap_cons, firstSecrets, secrets]
            rfl
          · rw [List.flatMap_cons, firstVolumes, volumes]
            rfl

theorem sectionOf_external {stack : Json} {key : String} {names : List String}
    (found : PyDict.get stack.fields key = external names) :
    (∀ name, name ∈ PyDict.keys (sectionOf stack key) ↔ name ∈ names) ∧
      ∀ name value, (name, value) ∈ sectionOf stack key →
        value = .obj [("external", .bool true)] := by
  rw [sectionOf, found, external]
  cases names with
  | nil => simp [PyDict.keys]
  | cons first rest =>
      simp only [List.isEmpty_cons, Bool.false_eq_true, if_false, PyDict.keys, List.map_map,
        List.mem_map, Function.comp_apply, List.mem_mergeSort, List.mem_dedup, Prod.mk.injEq]
      constructor
      · intro name
        constructor
        · rintro ⟨_, inside, rfl⟩
          exact inside
        · intro inside
          exact ⟨name, inside, rfl⟩
      · rintro name value ⟨_, _, _, same⟩
        exact same.symm

theorem closed_of_render {services stack : Json}
    (rendered : tier1StackRender py services = .ok stack) : Closed stack := by
  cases services with
  | arr specs =>
      cases specs with
      | nil => cases rendered
      | cons spec rest =>
          rw [tier1StackRender, renderSpecs] at rendered
          obtain ⟨final, ran, rendered⟩ := bind_ok rendered
          obtain ⟨entries, mapped, same⟩ := mapM_of_foldlM ran
          rw [List.nil_append] at same
          subst same
          obtain ⟨references, read, networks, secrets, volumes⟩ := references_of_rendered mapped
          rw [read] at rendered
          have shape := (Except.ok.inj rendered).symm
          have services : servicesOf stack = final.map Prod.snd := by
            rw [servicesOf, sectionOf, shape]
            simp [Json.fields, PyDict.get]
          have networksSection := @sectionOf_external stack "networks"
            (references.flatMap References.networks) (by
              rw [shape]
              simp [Json.fields, PyDict.get_append, get_field, PyDict.get])
          have secretsSection := @sectionOf_external stack "secrets"
            (references.flatMap References.secrets) (by
              rw [shape]
              simp [Json.fields, PyDict.get_append, get_field, PyDict.get])
          have volumesSection := @sectionOf_external stack "volumes"
            (references.flatMap References.volumes) (by
              rw [shape]
              simp [Json.fields, PyDict.get_append, get_field, PyDict.get])
          constructor
          · intro name
            rw [networksSection.1, networks, List.mem_flatMap, services]
          · intro name
            rw [secretsSection.1, secrets, List.mem_flatMap, services]
          · intro name
            rw [volumesSection.1, volumes, List.mem_flatMap, services]
          · intro key listed name value found
            simp only [List.mem_cons, List.not_mem_nil, or_false] at listed
            rcases listed with rfl | rfl | rfl
            · exact networksSection.2 name value found
            · exact secretsSection.2 name value found
            · exact volumesSection.2 name value found
  | _ => cases rendered

/-- A roster has one entry for each name, and its rendering never stops at a
duplicate, exactly when no spec whose name was written with blanks around it is
followed by another of the same name; every stack file is closed. -/
theorem roster_to_stack_iff (py : Builtins) :
    (∀ (given : List Json) (roster : Json), accumulate py given = .ok roster →
        (OnePerName py given roster ↔
          Roster.TrimmedBefore (writtenName py) PyText.strip given)) ∧
    (∀ services stack : Json,
      tier1StackRender py services = .ok stack → Closed stack) := by
  constructor
  · intro given roster accumulated
    obtain ⟨_, rfl⟩ := accumulate_iff.mp accumulated
    have nodup := @Roster.nodup_kept_iff _ _ (writtenName py) PyText.strip _
      PyText.strip_strip given
    constructor
    · exact fun one => nodup.mp one.apart
    · intro trimmed
      exact {
        apart := nodup.mpr trimmed
        last := Roster.filter_kept PyText.strip_strip trimmed
        noDuplicate := tier1StackRender_noDuplicate (nodup.mpr trimmed) }
  · intro services stack rendered
    exact closed_of_render rendered

/-- A spec with a name and an image. -/
def sampleSpec (name image : String) : Json :=
  .obj [("name", .str name), ("image", .str image)]

/-- A service upserted twice, first with a blank before its name, is on the
roster twice, and the roster does not render. -/
theorem blank_name_renders_twice :
    ∃ roster, accumulate Builtins.unused
        [sampleSpec " catena-traefik" "traefik:v3.1", sampleSpec "catena-traefik" "traefik:v3.2"] =
          .ok roster ∧
      ¬ ((entriesOf roster).map (serviceName Builtins.unused)).Nodup ∧
      tier1StackRender Builtins.unused roster = fail (.duplicate "catena-traefik") := by
  refine ⟨.arr [sampleSpec " catena-traefik" "traefik:v3.1",
    sampleSpec "catena-traefik" "traefik:v3.2"], ?_, ?_, ?_⟩
  · decide +kernel
  · decide +kernel
  · decide +kernel

/-- A spec with a network, a secret in each spelling and two mounts. -/
def sampleMounted : Json :=
  .obj [("name", .str "catena-postgres"), ("image", .str "postgres:17"),
    ("networks", .arr [.str "catena"]),
    ("secrets", .arr [.str "pg", .obj [("name", .str "pw-1a"), ("target", .str "pw")]]),
    ("volumes", .arr [.str "pgdata:/var/lib", .str "/etc/catena:/etc/catena:ro"])]

/-- Two services, one of them upserted again, and a stack file. -/
theorem sample_one_per_name :
    OnePerName Builtins.unused
      [sampleSpec "catena-traefik" "traefik:v3.1", sampleMounted,
        sampleSpec "catena-traefik" "traefik:v3.2"]
      (.arr [sampleMounted, sampleSpec "catena-traefik" "traefik:v3.2"]) ∧
    ∃ stack, tier1StackRender Builtins.unused
      (.arr [sampleMounted, sampleSpec "catena-traefik" "traefik:v3.2"]) = .ok stack ∧
        Closed stack := by
  constructor
  · apply ((roster_to_stack_iff Builtins.unused).1 _ _ _).mpr
    · decide +kernel
    · decide +kernel
  · have renders : (tier1StackRender Builtins.unused
        (.arr [sampleMounted, sampleSpec "catena-traefik" "traefik:v3.2"])).toOption.isSome =
          true := by
      decide +kernel
    cases rendered : tier1StackRender Builtins.unused
        (.arr [sampleMounted, sampleSpec "catena-traefik" "traefik:v3.2"]) with
    | error failure =>
        rw [rendered] at renders
        cases renders
    | ok stack => exact ⟨stack, rfl, (roster_to_stack_iff Builtins.unused).2 _ _ rendered⟩

end Tier1Stack

end Catena

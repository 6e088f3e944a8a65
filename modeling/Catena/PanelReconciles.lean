import Catena.PanelSwarm
import Catena.ServiceConverges

/-!
# The panel reaches its declared shape

The environment and the networks of the panel always reach what the spec
declares.  The mounts do where every declared secret that is mounted has its
declared targets, since the drift of the secrets compares names alone.
-/

namespace Catena

namespace PanelService

open SwarmService

/-! ### Reading a live service -/

section Reading

variable {py : Builtins} {swarm : Swarm} {service inspect : Json}

theorem sectionAt_nil {service : Json} (isObject : ∃ fields, service = .obj fields) :
    sectionAt [] service = service := by
  obtain ⟨fields, rfl⟩ := isObject
  cases fields <;> rfl

theorem objectOrEmpty_nil {service : Json} (isObject : ∃ fields, service = .obj fields) :
    ObjectOrEmpty (Json.valueAt [] service) := by
  obtain ⟨fields, rfl⟩ := isObject
  rintro found ⟨⟩ -
  exact ⟨fields, rfl⟩

theorem taskTemplate_eq (shown : PanelShown swarm service) (shows : Shows inspect service) :
    taskTemplate inspect = .ok (sectionAt ["Spec", "TaskTemplate"] service) := by
  have spec : child "Spec" service = .ok (sectionAt ["Spec"] service) := by
    have inner := child_sectionAt (objectOrEmpty_nil shown.isObject) "Spec"
    rwa [sectionAt_nil shown.isObject] at inner
  have template := child_sectionAt (shown.nested ["Spec"] (by decide)) "TaskTemplate"
  obtain ⟨fields, rfl⟩ := shown.isObject
  have read : taskTemplate inspect =
      lift (child "Spec" (.obj fields) >>= child "TaskTemplate") := by
    rcases shows with rfl | rfl <;> rfl
  rw [read, spec]
  exact congrArg lift template

theorem containerSpec_eq (shown : PanelShown swarm service) (shows : Shows inspect service) :
    containerSpec inspect =
      .ok (sectionAt ["Spec", "TaskTemplate", "ContainerSpec"] service) := by
  rw [containerSpec, taskTemplate_eq shown shows]
  exact congrArg lift
    (child_sectionAt (shown.nested ["Spec", "TaskTemplate"] (by decide)) "ContainerSpec")

theorem iterate_orList {value : Json}
    (list : value.truthy = true → ∃ items, value = .arr items) :
    iterate (orList value) = .ok (itemsOf value) := by
  unfold orList
  split
  · rename_i truthy
    obtain ⟨items, rfl⟩ := list truthy
    rfl
  · rename_i falsy
    cases value with
    | arr items =>
        cases items with
        | nil => rfl
        | cons item rest => exact absurd rfl falsy
    | _ => rfl

theorem listed_eq {path : List String} {key : String} {proper : Json → Prop}
    (nested : ObjectOrEmpty (Json.valueAt path service))
    (list : ListOf proper (Json.valueAt (path ++ [key]) service)) :
    listed key (sectionAt path service) = .ok (itemsAt (path ++ [key]) service) := by
  rw [listed, getOr_sectionAt nested]
  change lift (iterate (orList _)) = _
  rw [iterate_orList, itemsAt, lift]
  intro truthy
  cases found : Json.valueAt (path ++ [key]) service with
  | none =>
      rw [found] at truthy
      cases truthy
  | some value =>
      rw [found] at truthy
      obtain ⟨items, same, _⟩ := list value found truthy
      exact ⟨items, same⟩

theorem proper_of_mem {path : List String} {proper : Json → Prop}
    (list : ListOf proper (Json.valueAt path service)) {item : Json}
    (member : item ∈ itemsAt path service) : proper item := by
  unfold itemsAt at member
  cases found : Json.valueAt path service with
  | none =>
      rw [found] at member
      cases member
  | some value =>
      rw [found, Option.getD_some] at member
      cases value with
      | arr items =>
          cases items with
          | nil => cases member
          | cons first rest =>
              obtain ⟨_, ⟨⟩, proper⟩ := list _ found rfl
              exact proper item member
      | _ => cases member

theorem collect_eq {α β : Type} {step : α → Except PanelError β} {result : α → β}
    {items : List α} (each : ∀ item ∈ items, step item = .ok (result item)) :
    collect step items = .ok (items.map result) := by
  induction items with
  | nil => rfl
  | cons item rest ih =>
      rw [List.forall_mem_cons] at each
      rw [collect, each.1, ih each.2]
      rfl

theorem collect_map {α β γ : Type} {step : β → Except PanelError γ} {made : α → β}
    {result : α → γ} (each : ∀ item, step (made item) = .ok (result item)) (items : List α) :
    collect step (items.map made) = .ok (items.map result) := by
  induction items with
  | nil => rfl
  | cons item rest ih =>
      rw [List.map_cons, collect, each, ih]
      rfl

/-! ### The drifts of a live service -/

theorem envDrift_eq (shown : PanelShown swarm service) (shows : Shows inspect service)
    (full : PyDict String String) :
    catenaAdminEnvDrift py inspect (.obj (full.map fun item => (item.1, .str item.2))) =
      .ok (envFlags (liveEnv service) full) := by
  have container := containerSpec_eq shown shows
  have entries : listed "Env" (sectionAt ["Spec", "TaskTemplate", "ContainerSpec"] service) =
      .ok (itemsAt envPath service) :=
    @listed_eq service _ "Env" _ (shown.nested _ (by decide)) shown.env
  have texts : ∀ items : List Json, (∀ item ∈ items, ∃ text, item = .str text) →
      items.map (fun entry => entry.toText py) = items.filterMap textOf := by
    intro items proper
    induction items with
    | nil => rfl
    | cons item rest ih =>
        rw [List.forall_mem_cons] at proper
        obtain ⟨⟨text, rfl⟩, proper⟩ := proper
        rw [List.map_cons, ih proper]
        rfl
  have fields : (full.map fun item => (item.1, Json.str item.2)).map
      (fun field => (field.1, field.2.toText py)) = full := by
    rw [List.map_map]
    exact List.map_id full
  unfold catenaAdminEnvDrift
  simp only [container, entries, bind, Except.bind]
  rw [fields, liveEnv, ← texts _ fun item member => proper_of_mem shown.env member]

theorem valueAt_key (key : String) (value : Json) :
    Json.valueAt [key] value = PyDict.get value.fields key := by
  rw [Json.valueAt_cons]
  cases PyDict.get value.fields key <;> rfl

theorem textOf_eq_some {value : Json} {text : String} :
    textOf value = some text ↔ value = .str text := by
  cases value <;> simp [textOf]

theorem mountOf_eq_some {item : Json} {name target : String}
    (mounted : mountOf item = some (name, target)) :
    ∃ fields file, item = .obj fields ∧ PyDict.get fields "SecretName" = some (.str name) ∧
      PyDict.get fields "File" = some (.obj file) ∧ PyDict.get file "Name" = some (.str target) := by
  simp only [mountOf, Option.bind_eq_bind, Option.bind_eq_some_iff, textOf_eq_some,
    Option.some.injEq, Prod.mk.injEq] at mounted
  obtain ⟨_, ⟨_, named, rfl⟩, _, ⟨_, aimed, rfl⟩, rfl, rfl⟩ := mounted
  rw [valueAt_key] at named
  obtain ⟨file, found, aimed⟩ := Option.bind_eq_some_iff.mp aimed
  rw [valueAt_key] at aimed
  cases item with
  | obj fields =>
      cases file with
      | obj file => exact ⟨fields, file, rfl, named, found, aimed⟩
      | _ => cases aimed
  | _ => cases named

theorem liveSecret_eq {item : Json} (proper : IsMount item) :
    liveSecret py item = .ok (mountOf item) := by
  obtain ⟨name, target, mounted, given⟩ := proper
  obtain ⟨fields, file, rfl, named, found, aimed⟩ := mountOf_eq_some mounted
  have truthy : (Json.obj file).truthy = true := by
    cases file with
    | nil => cases aimed
    | cons item rest => rfl
  have text (text : String) : textOrEmpty py (.str text) = text := Json.textOr_str py text
  rw [liveSecret, named, found, mounted]
  simp only [Option.getD_some, orEmpty, if_pos truthy, text, getOr, aimed, lift, bind,
    Except.bind, if_neg given]

theorem secretDrift_eq (shown : PanelShown swarm service) (shows : Shows inspect service)
    {entries : List Json} {declared : List (String × String)}
    (wanted : collect (wantedSecret py) entries = .ok declared) :
    catenaAdminSecretDrift py inspect (.arr entries) =
      .ok (secretFlags (PyDict.ofPairs (mounts service)) (PyDict.ofPairs declared)) := by
  have container := containerSpec_eq shown shows
  have found : listed "Secrets" (sectionAt ["Spec", "TaskTemplate", "ContainerSpec"] service) =
      .ok (itemsAt secretsPath service) :=
    @listed_eq service _ "Secrets" _ (shown.nested _ (by decide)) shown.secrets
  have live := @collect_eq _ _ (liveSecret py) mountOf _ fun item member =>
    liveSecret_eq (proper_of_mem shown.secrets member)
  have items : iterate (orList (.arr entries)) = .ok entries := iterate_orList fun _ => ⟨_, rfl⟩
  have same : ((itemsAt secretsPath service).map mountOf).filterMap id = mounts service := by
    rw [List.filterMap_map]
    rfl
  unfold catenaAdminSecretDrift
  simp only [container, found, bind, Except.bind, items, wanted, lift, live, same]

theorem liveNetwork_eq {item : Json} {id : String} (isNetwork : networkOf item = some id) :
    liveNetwork py item = some id := by
  obtain ⟨value, found, isText⟩ := Option.bind_eq_some_iff.mp isNetwork
  rw [textOf_eq_some] at isText
  subst isText
  rw [valueAt_key] at found
  cases item with
  | obj fields =>
      have target : PyDict.get fields "Target" = some (.str id) := found
      rw [liveNetwork, target, Option.getD_some]
      exact congrArg some (Json.textOr_str py id)
  | _ => cases found

theorem networkDrift_eq (shown : PanelShown swarm service) (shows : Shows inspect service)
    {ids : PyDict String Json} {want : List (String × String)}
    (wanted : collect (wantedNetwork py) ids = .ok want) :
    catenaAdminNetworkDrift py inspect (.obj ids) =
      .ok (networkFlags (attached service) (PyDict.ofPairs want)) := by
  have template := taskTemplate_eq shown shows
  have found : listed "Networks" (sectionAt ["Spec", "TaskTemplate"] service) =
      .ok (itemsAt networksPath service) :=
    @listed_eq service _ "Networks" _ (shown.nested _ (by decide)) shown.networks
  have live : (itemsAt networksPath service).filterMap (liveNetwork py) = attached service := by
    apply List.filterMap_congr
    intro item member
    obtain ⟨id, isNetwork, _⟩ := proper_of_mem shown.networks member
    exact (liveNetwork_eq isNetwork).trans isNetwork.symm
  unfold catenaAdminNetworkDrift
  simp only [template, found, bind, Except.bind, wanted, live]

end Reading

/-! ### What a spec resolves to -/

section Resolved

variable {py : Builtins} {digest : ValueDigest} {spec : PanelSpec} {fields : PyDict String Json}
  {entries : List Json}

def entryOf (py : Builtins) (digest : ValueDigest) (secret : SecretSpec) : Json :=
  .obj [("name", .str (secretName digest secret.base (secret.text py))),
    ("target", .str secret.target), ("value", .str (secret.text py))]

theorem secretEntry_eq (secret : SecretSpec) :
    secretEntry py digest secret.json =
      .ok (if PyText.strip (secret.text py) = "" then none else some (entryOf py digest secret)) := by
  have value : getOr "value" .null secret.json = .ok (secret.value.getD .null) := by
    unfold SecretSpec.json getOr
    cases secret.value <;> rfl
  have base : index "base" secret.json = .ok (.str secret.base) := rfl
  have target : index "target" secret.json = .ok (.str secret.target) := rfl
  rw [secretEntry, value]
  simp only [lift, bind, Except.bind, base, target]
  change (if PyText.strip (secret.text py) = "" then _ else _) = _
  split <;> rfl

theorem entries_eq (describes : spec.Describes py digest fields entries) :
    entries = (spec.given py).map (entryOf py digest) := by
  have resolved := describes.resolved
  have items : iterate (orList (.arr (spec.secrets.map SecretSpec.json))) =
      .ok (spec.secrets.map SecretSpec.json) := iterate_orList fun _ => ⟨_, rfl⟩
  have each : collect (secretEntry py digest) (spec.secrets.map SecretSpec.json) =
      .ok (spec.secrets.map fun secret =>
        if PyText.strip (secret.text py) = "" then none else some (entryOf py digest secret)) := by
    induction spec.secrets with
    | nil => rfl
    | cons secret rest ih =>
        rw [List.map_cons, collect, secretEntry_eq, ih]
        rfl
  rw [secretEntries, items] at resolved
  simp only [lift, bind, Except.bind, each, Except.ok.injEq] at resolved
  rw [← resolved, List.filterMap_map, PanelSpec.given]
  change spec.secrets.filterMap (fun secret =>
    if PyText.strip (secret.text py) = "" then none else some (entryOf py digest secret)) = _
  induction spec.secrets with
  | nil => rfl
  | cons secret rest ih =>
      rw [List.filterMap_cons, List.filter_cons, ih]
      by_cases blank : PyText.strip (secret.text py) = ""
      · rw [if_pos blank, if_neg (by simp [blank])]
      · rw [if_neg blank, if_pos (by simp [blank]), List.map_cons]

theorem wanted_eq (describes : spec.Describes py digest fields entries) :
    collect (wantedSecret py) entries = .ok (spec.declared py digest) := by
  rw [entries_eq describes]
  apply collect_map
  intro secret
  rfl

/-- The complete environment. -/
def fullEnv (py : Builtins) (digest : ValueDigest) (spec : PanelSpec) : PyDict String String :=
  ((spec.declared py digest).map Prod.snd).foldl (fun env target =>
      PyDict.set env (fileVariable target) (secretMountDir ++ "/" ++ target))
    (PyDict.ofPairs (spec.env.map fun item => (item.1, item.2.toText py)))

theorem fullEnv_eq (describes : spec.Describes py digest fields entries) :
    catenaAdminFullEnv py (.obj fields) = .ok (fullEnv py digest spec) := by
  have env : getOr "env" .null (.obj fields) = .ok (.obj spec.env) := by
    rw [getOr, describes.env]
    rfl
  have object : orEmpty (.obj spec.env) = .obj spec.env := by
    cases spec.env <;> rfl
  have secrets : getOr "secrets" .null (.obj fields) = .ok (.arr entries) := by
    rw [getOr, describes.secrets]
    rfl
  have items : iterate (orList (.arr entries)) = .ok entries := iterate_orList fun _ => ⟨_, rfl⟩
  have targets : collect (index "target") entries =
      .ok ((spec.declared py digest).map fun mount => .str mount.2) := by
    rw [entries_eq describes, PanelSpec.declared, List.map_map]
    apply collect_map
    intro secret
    rfl
  unfold catenaAdminFullEnv
  simp only [env, secrets, lift, bind, Except.bind, object, textItems, items, targets]
  rw [fullEnv, List.foldl_map, List.foldl_map]
  rfl

theorem fileVariable_injective {first second : String}
    (same : fileVariable first = fileVariable second) : first = second := by
  have lists := congrArg String.toList same
  rw [fileVariable, fileVariable, String.toList_append, String.toList_append] at lists
  exact String.toList_inj.mp (List.append_cancel_right lists)

/-- The variables that tell where the secrets are. -/
def fileItems (mounts : List (String × String)) : List (String × String) :=
  mounts.map fun mount => (fileVariable mount.2, secretMountDir ++ "/" ++ mount.2)

theorem fullEnv_pairs : fullEnv py digest spec =
    PyDict.ofPairs (spec.env.map (fun item => (item.1, item.2.toText py)) ++
      fileItems (spec.declared py digest)) := by
  simp only [fullEnv, fileItems, PyDict.ofPairs, List.foldl_append, List.foldl_map]

theorem mem_keys_fullEnv {key : String} (member : key ∈ PyDict.keys (fullEnv py digest spec)) :
    key ∈ PyDict.keys spec.env ∨
      ∃ mount ∈ spec.declared py digest, key = fileVariable mount.2 := by
  obtain ⟨item, inside, rfl⟩ := List.mem_map.mp member
  rw [fullEnv_pairs] at inside
  rcases List.mem_append.mp (PyDict.mem_of_mem_ofPairs inside) with plain | file
  · obtain ⟨given, inEnv, rfl⟩ := List.mem_map.mp plain
    exact Or.inl (List.mem_map_of_mem inEnv)
  · obtain ⟨mount, declared, rfl⟩ := List.mem_map.mp file
    exact Or.inr ⟨mount, declared, rfl⟩

theorem nodup_targets : ((spec.declared py digest).map Prod.snd).Nodup := by
  have given : ((spec.given py).map SecretSpec.target).Nodup :=
    spec.targets.sublist (List.filter_sublist.map _)
  rw [PanelSpec.declared, List.map_map]
  exact given

theorem get_fullEnv {mount : String × String} (member : mount ∈ spec.declared py digest) :
    PyDict.get (fullEnv py digest spec) (fileVariable mount.2) =
      some (secretMountDir ++ "/" ++ mount.2) := by
  have nodup : (PyDict.keys (fileItems (spec.declared py digest)).reverse).Nodup := by
    have keys : PyDict.keys (fileItems (spec.declared py digest)) =
        ((spec.declared py digest).map Prod.snd).map fileVariable := by
      rw [PyDict.keys, fileItems, List.map_map, List.map_map]
      rfl
    rw [PyDict.keys, List.map_reverse, List.nodup_reverse]
    change (PyDict.keys (fileItems (spec.declared py digest))).Nodup
    rw [keys]
    exact nodup_targets.map fun _ _ => fileVariable_injective
  have inside : (fileVariable mount.2, secretMountDir ++ "/" ++ mount.2) ∈
      (fileItems (spec.declared py digest)).reverse :=
    List.mem_reverse.mpr (List.mem_map.mpr ⟨mount, member, rfl⟩)
  rw [fullEnv_pairs, PyDict.get_ofPairs, List.reverse_append, PyDict.get_append,
    PyDict.get_of_mem nodup inside]
  rfl

/-- No variable of the environment has a `=` in its name, where no target has one. -/
theorem names_fullEnv (names : ∀ mount ∈ spec.declared py digest, '=' ∉ mount.2.toList)
    {key : String} (member : key ∈ PyDict.keys (fullEnv py digest spec)) :
    '=' ∉ key.toList := by
  rcases mem_keys_fullEnv member with inEnv | ⟨mount, declared, rfl⟩
  · exact spec.envNames key inEnv
  · rw [fileVariable, String.toList_append, List.mem_append, not_or]
    exact ⟨names mount declared, by decide⟩

end Resolved

/-! ### The flags of an update -/

theorem flagPairs_flagsOf (pairs : List (String × String)) :
    flagPairs (flagsOf pairs) = some pairs := by
  induction pairs with
  | nil => rfl
  | cons pair rest ih =>
      change (flagPairs (flagsOf rest)).map (pair :: ·) = _
      rw [ih]
      rfl

theorem texts_append (flag : String) (first second : List (String × String)) :
    texts flag (first ++ second) = texts flag first ++ texts flag second := by
  simp [texts]

theorem texts_mapped {α : Type} (flag other : String) (text : α → String) (items : List α) :
    texts flag (items.map fun item => (other, text item)) =
      if other = flag then items.map text else [] := by
  unfold texts
  split
  · rename_i same
    subst same
    induction items with
    | nil => rfl
    | cons item rest ih => simpa using ih
  · rename_i different
    induction items with
    | nil => rfl
    | cons item rest ih => simp [different]

theorem texts_map (flag other : String) (listed : List String) :
    texts flag (listed.map fun text => (other, text)) = if other = flag then listed else [] := by
  rw [texts_mapped flag other fun text => text, List.map_id']

/-- The assignments to add. -/
def addedEnv (live want : PyDict String String) : List String :=
  ((sortedKeys want).filter fun key => PyDict.get live key ≠ PyDict.get want key).map fun key =>
    assignment key ((PyDict.get want key).getD "")

/-- The secret options to add. -/
def addedSecrets (live want : PyDict String String) : List (String × String) :=
  (sortedDifference (PyDict.keys want) (PyDict.keys live)).map fun name =>
    (name, (PyDict.get want name).getD "")

def addedNetworks (live : List String) (want : PyDict String String) : List String :=
  (sortedDifference (PyDict.keys want) live).map fun id => (PyDict.get want id).getD ""

/-- The flags of the three drifts with their texts. -/
def driftPairs (liveEnv wantEnv liveSecrets wantSecrets : PyDict String String)
    (liveNetworks : List String) (wantNetworks : PyDict String String) : List (String × String) :=
  ((addedEnv liveEnv wantEnv).map (fun text => ("--env-add", text)) ++
    (sortedDifference (PyDict.keys liveEnv) (PyDict.keys wantEnv)).map fun key =>
      ("--env-rm", key)) ++
  ((sortedDifference (PyDict.keys liveSecrets) (PyDict.keys wantSecrets)).map
      (fun name => ("--secret-rm", name)) ++
    ((addedSecrets liveSecrets wantSecrets).map fun mount =>
      secretOption mount.1 mount.2).map fun text => ("--secret-add", text)) ++
  ((sortedDifference liveNetworks (PyDict.keys wantNetworks)).map
      (fun id => ("--network-rm", id)) ++
    (addedNetworks liveNetworks wantNetworks).map fun name => ("--network-add", name))

theorem flagsOf_driftPairs (liveEnv wantEnv liveSecrets wantSecrets : PyDict String String)
    (liveNetworks : List String) (wantNetworks : PyDict String String) :
    flagsOf (driftPairs liveEnv wantEnv liveSecrets wantSecrets liveNetworks wantNetworks) =
      envFlags liveEnv wantEnv ++ secretFlags liveSecrets wantSecrets ++
        networkFlags liveNetworks wantNetworks := by
  simp only [driftPairs, flagsOf, envFlags, secretFlags, networkFlags, addedEnv, addedSecrets,
    addedNetworks, List.flatMap_append, List.flatMap_map]

theorem texts_driftPairs (liveEnv wantEnv liveSecrets wantSecrets : PyDict String String)
    (liveNetworks : List String) (wantNetworks : PyDict String String) :
    let pairs := driftPairs liveEnv wantEnv liveSecrets wantSecrets liveNetworks wantNetworks
    texts "--env-add" pairs = addedEnv liveEnv wantEnv ∧
      texts "--env-rm" pairs = sortedDifference (PyDict.keys liveEnv) (PyDict.keys wantEnv) ∧
      texts "--secret-rm" pairs =
        sortedDifference (PyDict.keys liveSecrets) (PyDict.keys wantSecrets) ∧
      texts "--secret-add" pairs = (addedSecrets liveSecrets wantSecrets).map
        (fun mount => secretOption mount.1 mount.2) ∧
      texts "--network-rm" pairs = sortedDifference liveNetworks (PyDict.keys wantNetworks) ∧
      texts "--network-add" pairs = addedNetworks liveNetworks wantNetworks := by
  simp only [driftPairs, texts_append, texts_map]
  simp

theorem mapM_eq_some {α β : Type} {read : α → Option β} {result : α → β} {items : List α}
    (each : ∀ item ∈ items, read item = some (result item)) :
    items.mapM read = some (items.map result) := by
  induction items with
  | nil => rfl
  | cons item rest ih =>
      rw [List.forall_mem_cons] at each
      rw [List.mapM_cons, each.1, ih each.2]
      rfl

/-! ### The lists after an update -/

section Lists

variable {service : Json}

theorem valueAt_withLists (env secrets networks : List Json) :
    Json.valueAt envPath (withLists env secrets networks service) = some (.arr env) ∧
      Json.valueAt secretsPath (withLists env secrets networks service) = some (.arr secrets) ∧
      Json.valueAt networksPath (withLists env secrets networks service) = some (.arr networks) := by
  unfold withLists
  refine ⟨?_, ?_, Json.valueAt_setAt _ _ _⟩
  · rw [Json.valueAt_setAt_apart (by decide), Json.valueAt_setAt_apart (by decide),
      Json.valueAt_setAt]
  · rw [Json.valueAt_setAt_apart (by decide), Json.valueAt_setAt]

theorem itemsAt_withLists (env secrets networks : List Json) :
    itemsAt envPath (withLists env secrets networks service) = env ∧
      itemsAt secretsPath (withLists env secrets networks service) = secrets ∧
      itemsAt networksPath (withLists env secrets networks service) = networks := by
  obtain ⟨one, two, three⟩ := @valueAt_withLists service env secrets networks
  simp only [itemsAt, one, two, three, Option.getD_some]
  exact ⟨rfl, rfl, rfl⟩

theorem shown_withLists {swarm : Swarm} {env secrets networks : List Json}
    (texts : ∀ item ∈ env, ∃ text, item = .str text) (isMount : ∀ item ∈ secrets, IsMount item)
    (known : ∀ item ∈ networks, ∃ id, networkOf item = some id ∧ swarm.networkId id = some id) :
    PanelShown swarm (withLists env secrets networks service) := by
  obtain ⟨one, two, three⟩ := @valueAt_withLists service env secrets networks
  have object {path : List String}
      (isSection : ∃ items, Json.valueAt path (withLists env secrets networks service) =
        some (.obj items)) :
      ObjectOrEmpty (Json.valueAt path (withLists env secrets networks service)) := by
    obtain ⟨items, same⟩ := isSection
    rintro found other -
    rw [same] at other
    cases other
    exact ⟨items, rfl⟩
  constructor
  · exact ⟨_, rfl⟩
  · intro path member
    simp only [panelSections, List.mem_cons, List.not_mem_nil, or_false] at member
    apply object
    unfold withLists
    rcases member with rfl | rfl | rfl
    · exact Json.valueAt_setAt_prefix (by decide) (by decide) _ _
    · exact Json.valueAt_setAt_prefix (by decide) (by decide) _ _
    · rw [Json.valueAt_setAt_apart (by decide)]
      exact Json.valueAt_setAt_prefix (by decide) (by decide) _ _
  · rintro found same -
    rw [one] at same
    cases same
    exact ⟨env, rfl, texts⟩
  · rintro found same -
    rw [two] at same
    cases same
    exact ⟨secrets, rfl, isMount⟩
  · rintro found same -
    rw [three] at same
    cases same
    exact ⟨networks, rfl, known⟩

end Lists

theorem mem_of_mapM {α β : Type} {read : α → Option β} {items : List α} {results : List β}
    (all : items.mapM read = some results) (result : β) :
    result ∈ results ↔ ∃ item ∈ items, read item = some result := by
  induction items generalizing results with
  | nil =>
      cases all
      simp
  | cons item rest ih =>
      rw [List.mapM_cons] at all
      obtain ⟨first, one, all⟩ := Option.bind_eq_some_iff.mp all
      obtain ⟨others, later, same⟩ := Option.bind_eq_some_iff.mp all
      cases same
      rw [List.mem_cons, ih later]
      simp [one, eq_comm]

theorem length_of_mapM {α β : Type} {read : α → Option β} {items : List α} {results : List β}
    (all : items.mapM read = some results) : results.length = items.length := by
  induction items generalizing results with
  | nil =>
      cases all
      rfl
  | cons item rest ih =>
      rw [List.mapM_cons] at all
      obtain ⟨first, one, all⟩ := Option.bind_eq_some_iff.mp all
      obtain ⟨others, later, same⟩ := Option.bind_eq_some_iff.mp all
      cases same
      rw [List.length_cons, List.length_cons, ih later]

/-! ### The environment after an update -/

/-- Docker cuts an assignment at its first `=`. -/
theorem names_envOf {texts : List String} {key : String}
    (member : key ∈ PyDict.keys (envOf texts)) : '=' ∉ key.toList := by
  obtain ⟨item, inside, rfl⟩ := List.mem_map.mp member
  obtain ⟨text, _, rfl⟩ := List.mem_map.mp (PyDict.mem_of_mem_ofPairs inside)
  rw [cut]
  cases parts : PyText.partition '=' text.toList with
  | none =>
      intro found
      obtain ⟨before, after, whole, absent⟩ := List.eq_append_cons_of_mem found
      rw [PyText.partition_eq_some.mpr ⟨whole, absent⟩] at parts
      cases parts
  | some cuts => simpa using (PyText.partition_eq_some.mp parts).2


theorem cut_assignment {key : String} (plain : '=' ∉ key.toList) (value : String) :
    cut (assignment key value) = (key, value) := by
  have parts : PyText.partition '=' (assignment key value).toList =
      some (key.toList, value.toList) :=
    PyText.partition_eq_some.mpr ⟨by simp [assignment], plain⟩
  rw [cut, parts]
  simp

theorem get_map_self {keys : List String} {value : String → String} {key : String} :
    PyDict.get (keys.map fun key => (key, value key)) key =
      if key ∈ keys then some (value key) else none := by
  induction keys with
  | nil => rfl
  | cons first rest ih =>
      rw [List.map_cons, PyDict.get_cons, ih]
      by_cases same : first = key
      · simp [same]
      · simp [same, Ne.symm same]

theorem get_envOf (texts : List String) (key : String) :
    PyDict.get (envOf texts) key = PyDict.get (texts.reverse.map cut) key := by
  rw [envOf, PyDict.get_ofPairs, List.map_reverse]

theorem get_envOf_append (first second : List String) (key : String) :
    PyDict.get (envOf (first ++ second)) key =
      (PyDict.get (envOf second) key).or (PyDict.get (envOf first) key) := by
  rw [get_envOf, List.reverse_append, List.map_append, PyDict.get_append, ← get_envOf,
    ← get_envOf]

theorem get_envOf_filter (removed live : List String) (key : String) :
    PyDict.get (envOf (live.filter fun text => (cut text).1 ∉ removed)) key =
      if key ∈ removed then none else PyDict.get (envOf live) key := by
  have kept := PyDict.get_filter (live.reverse.map cut) (fun name => name ∉ removed) key
  rw [List.filter_map] at kept
  rw [get_envOf, get_envOf, ← List.filter_reverse]
  refine kept.trans ?_
  by_cases member : key ∈ removed <;> simp [member]

/-- The value of an assignment read by its name. -/
theorem get_cut {items : List (String × String)}
    (named : ∀ item ∈ items, item.1 = (cut item.2).1) (key : String) :
    PyDict.get (items.map fun item => cut item.2) key =
      (PyDict.get items key).map fun text => (cut text).2 := by
  induction items with
  | nil => rfl
  | cons item rest ih =>
      rw [List.forall_mem_cons] at named
      obtain ⟨name, text⟩ := item
      have same : name = (cut text).1 := named.1
      rw [List.map_cons, ← Prod.eta (cut text), PyDict.get_cons, PyDict.get_cons, ih named.2, same]
      split <;> rfl

/-- One assignment a name says what all of them said. -/
theorem get_envOf_collapse (texts : List String) (key : String) :
    PyDict.get (envOf ((PyDict.ofPairs (texts.map fun text => ((cut text).1, text))).map Prod.snd))
        key = PyDict.get (envOf texts) key := by
  have named {items : List String} :
      ∀ item ∈ items.map (fun text => ((cut text).1, text)), item.1 = (cut item.2).1 := by
    intro item member
    obtain ⟨text, _, rfl⟩ := List.mem_map.mp member
    rfl
  have all := get_cut (@named texts.reverse) key
  rw [List.map_map] at all
  have each : ∀ item ∈ PyDict.ofPairs (texts.map fun text => ((cut text).1, text)),
      item.1 = (cut item.2).1 := fun item member => named item (PyDict.mem_of_mem_ofPairs member)
  have one := get_cut each key
  have nodup : (PyDict.keys ((PyDict.ofPairs (texts.map fun text => ((cut text).1, text))).map
      fun item => cut item.2)).Nodup := by
    have keys : PyDict.keys ((PyDict.ofPairs (texts.map fun text => ((cut text).1, text))).map
        fun item => cut item.2) =
        PyDict.keys (PyDict.ofPairs (texts.map fun text => ((cut text).1, text))) := by
      rw [PyDict.keys, PyDict.keys, List.map_map]
      exact List.map_congr_left fun item member => (each item member).symm
    rw [keys]
    exact PyDict.nodup_keys_ofPairs _
  have pairs : envOf ((PyDict.ofPairs (texts.map fun text => ((cut text).1, text))).map Prod.snd) =
      (PyDict.ofPairs (texts.map fun text => ((cut text).1, text))).map fun item => cut item.2 := by
    rw [envOf, List.map_map]
    exact PyDict.ofPairs_of_nodup nodup
  rw [pairs, one, PyDict.get_ofPairs, ← List.map_reverse, get_envOf]
  exact all.symm

theorem mem_sortedKeys {V : Type} (items : PyDict String V) (key : String) :
    key ∈ sortedKeys items ↔ key ∈ PyDict.keys items :=
  List.mem_mergeSort

theorem get_envOf_assignments {keys : List String} {want : PyDict String String}
    (names : ∀ key ∈ keys, '=' ∉ key.toList) (key : String) :
    PyDict.get (envOf (keys.map fun key => assignment key ((PyDict.get want key).getD ""))) key =
      if key ∈ keys then some ((PyDict.get want key).getD "") else none := by
  have cuts : (keys.map fun key => assignment key ((PyDict.get want key).getD "")).reverse.map cut =
      keys.reverse.map fun key => (key, (PyDict.get want key).getD "") := by
    rw [← List.map_reverse, List.map_map]
    apply List.map_congr_left
    intro key member
    exact cut_assignment (names key (List.mem_reverse.mp member)) _
  rw [get_envOf, cuts, get_map_self]
  simp only [List.mem_reverse]

theorem get_envOf_added {live want : PyDict String String}
    (names : ∀ key ∈ PyDict.keys want, '=' ∉ key.toList) (key : String) :
    PyDict.get (envOf (addedEnv live want)) key =
      if PyDict.get live key ≠ PyDict.get want key then PyDict.get want key else none := by
  rw [addedEnv, get_envOf_assignments fun key member =>
    names key ((mem_sortedKeys want key).mp (List.mem_of_mem_filter member))]
  simp only [List.mem_filter, mem_sortedKeys, decide_eq_true_eq]
  cases wanted : PyDict.get want key with
  | none =>
      have absent := (PyDict.get_eq_none_iff want key).mp wanted
      simp [absent]
  | some value => simp [PyDict.mem_keys_of_get wanted]

/-- The environment is the wanted one after the update, whatever it was. -/
theorem get_updatedEnv {live : List String} {want : PyDict String String}
    (names : ∀ key ∈ PyDict.keys want, '=' ∉ key.toList) (key : String) :
    PyDict.get (envOf (updatedEnv
        (sortedDifference (PyDict.keys (envOf live)) (PyDict.keys want))
        (addedEnv (envOf live) want) live)) key = PyDict.get want key := by
  have whole : PyDict.get (envOf (updatedEnv
        (sortedDifference (PyDict.keys (envOf live)) (PyDict.keys want))
        (addedEnv (envOf live) want) live)) key =
      (PyDict.get (envOf (addedEnv (envOf live) want)) key).or
        (PyDict.get (envOf (live.filter fun text => (cut text).1 ∉
          sortedDifference (PyDict.keys (envOf live)) (PyDict.keys want))) key) := by
    unfold updatedEnv
    split
    · rename_i nothing
      rw [nothing]
      rfl
    · rw [get_envOf_collapse, get_envOf_append]
  rw [whole, get_envOf_added names, get_envOf_filter]
  simp only [mem_sortedDifference]
  cases wanted : PyDict.get want key with
  | none =>
      have absent := (PyDict.get_eq_none_iff want key).mp wanted
      by_cases present : key ∈ PyDict.keys (envOf live)
      · simp [absent, present]
      · have gone := (PyDict.get_eq_none_iff (envOf live) key).mpr present
        simp [gone]
  | some value =>
      have present := PyDict.mem_keys_of_get wanted
      by_cases same : PyDict.get (envOf live) key = some value
      · simp [present, same]
      · simp [same]

/-! ### The mounts after an update -/

theorem mem_keys_ofPairs {V : Type} (pairs : List (String × V)) (key : String) :
    key ∈ PyDict.keys (PyDict.ofPairs pairs) ↔ key ∈ pairs.map Prod.fst := by
  rw [← not_iff_not, ← PyDict.get_eq_none_iff, PyDict.get_ofPairs_eq_none_iff, PyDict.keys]

theorem mem_of_get_ofPairs {V : Type} {pairs : List (String × V)} {key : String} {value : V}
    (found : PyDict.get (PyDict.ofPairs pairs) key = some value) : (key, value) ∈ pairs :=
  PyDict.mem_of_mem_ofPairs (PyDict.mem_of_get found)

theorem filterMap_mountItem (added : List (String × String)) :
    (added.map mountItem).filterMap mountOf = added := by
  rw [List.filterMap_map]
  exact List.filterMap_some

theorem filterMap_keepsMount (removed : List String) (items : List Json) :
    (items.filter (keepsMount removed)).filterMap mountOf =
      (items.filterMap mountOf).filter fun mount => mount.1 ∉ removed := by
  induction items with
  | nil => rfl
  | cons item rest ih =>
      rw [List.filter_cons, List.filterMap_cons]
      cases mounted : mountOf item with
      | none =>
          have kept : keepsMount removed item = true := by rw [keepsMount, mounted]
          rw [if_pos kept, List.filterMap_cons, mounted]
          exact ih
      | some mount =>
          have kept : keepsMount removed item = decide (mount.1 ∉ removed) := by
            rw [keepsMount, mounted]
          rw [kept, List.filter_cons]
          split
          · rw [List.filterMap_cons, mounted, ih]
          · exact ih

/-- The mounts the flags of the drift leave. -/
theorem mem_updatedMounts (live declared : List (String × String)) (mount : String × String) :
    mount ∈ live.filter (fun mount => mount.1 ∉ sortedDifference
          (PyDict.keys (PyDict.ofPairs live)) (PyDict.keys (PyDict.ofPairs declared))) ++
        addedSecrets (PyDict.ofPairs live) (PyDict.ofPairs declared) ↔
      (mount ∈ live ∧ mount.1 ∈ declared.map Prod.fst) ∨
        (mount.1 ∉ live.map Prod.fst ∧
          PyDict.get (PyDict.ofPairs declared) mount.1 = some mount.2) := by
  have kept : mount ∈ live.filter (fun mount => mount.1 ∉ sortedDifference
        (PyDict.keys (PyDict.ofPairs live)) (PyDict.keys (PyDict.ofPairs declared))) ↔
      mount ∈ live ∧ mount.1 ∈ declared.map Prod.fst := by
    rw [List.mem_filter, decide_eq_true_iff, mem_sortedDifference, mem_keys_ofPairs,
      mem_keys_ofPairs]
    constructor
    · rintro ⟨member, stays⟩
      refine ⟨member, ?_⟩
      by_contra absent
      exact stays ⟨List.mem_map_of_mem member, absent⟩
    · rintro ⟨member, wanted⟩
      exact ⟨member, fun gone => gone.2 wanted⟩
  have added : mount ∈ addedSecrets (PyDict.ofPairs live) (PyDict.ofPairs declared) ↔
      mount.1 ∉ live.map Prod.fst ∧
        PyDict.get (PyDict.ofPairs declared) mount.1 = some mount.2 := by
    rw [addedSecrets, List.mem_map]
    simp only [mem_sortedDifference]
    constructor
    · rintro ⟨name, ⟨wanted, absent⟩, rfl⟩
      obtain ⟨target, found⟩ := PyDict.get_of_mem_keys wanted
      rw [mem_keys_ofPairs] at absent
      exact ⟨absent, by simp [found]⟩
    · rintro ⟨absent, found⟩
      refine ⟨mount.1, ⟨PyDict.mem_keys_of_get found, ?_⟩, by simp [found]⟩
      rwa [mem_keys_ofPairs]
  rw [List.mem_append, kept, added]

theorem mountsAgree_iff (live declared : List (String × String)) :
    (∀ mount, (mount ∈ live ∧ mount.1 ∈ declared.map Prod.fst) ∨
        (mount.1 ∉ live.map Prod.fst ∧
          PyDict.get (PyDict.ofPairs declared) mount.1 = some mount.2) ↔ mount ∈ declared) ↔
      MountsAgree live declared := by
  constructor
  · intro reached name wanted
    constructor
    · intro mounted target
      rw [← reached (name, target)]
      constructor
      · exact fun member => Or.inl ⟨member, wanted⟩
      · rintro (⟨member, _⟩ | ⟨absent, _⟩)
        · exact member
        · exact absurd mounted absent
    · intro absent target other inDeclared otherDeclared
      have last {target : String} (member : (name, target) ∈ declared) :
          PyDict.get (PyDict.ofPairs declared) name = some target := by
        rcases (reached (name, target)).mpr member with ⟨mounted, _⟩ | ⟨_, found⟩
        · exact absurd (List.mem_map_of_mem mounted) absent
        · exact found
      have same := (last otherDeclared).symm.trans (last inDeclared)
      exact Option.some.inj same
  · rintro agree ⟨name, target⟩
    constructor
    · rintro (⟨member, wanted⟩ | ⟨_, found⟩)
      · exact ((agree name wanted).1 (List.mem_map_of_mem member) target).mp member
      · exact mem_of_get_ofPairs found
    · intro inDeclared
      have wanted : name ∈ declared.map Prod.fst := List.mem_map_of_mem inDeclared
      by_cases mounted : name ∈ live.map Prod.fst
      · exact Or.inl ⟨((agree name wanted).1 mounted target).mpr inDeclared, wanted⟩
      · right
        refine ⟨mounted, ?_⟩
        rw [← mem_keys_ofPairs] at wanted
        obtain ⟨last, found⟩ := PyDict.get_of_mem_keys wanted
        rw [found, (agree name (List.mem_map_of_mem inDeclared)).2 mounted target last inDeclared
          (mem_of_get_ofPairs found)]

/-! ### The networks after an update -/

section Networks

variable {py : Builtins} {swarm : Swarm} {spec : PanelSpec} {ids : PyDict String Json}

/-- The ids of the named networks, with the names. -/
def networkPairs (swarm : Swarm) (ids : PyDict String Json) : List (String × String) :=
  ids.map fun item => ((swarm.networkId item.1).getD "", item.1)

theorem wantedNetworks_eq (documented : swarm.Documented)
    (identifies : spec.Identifies swarm ids) :
    collect (wantedNetwork py) ids = .ok (networkPairs swarm ids) := by
  apply collect_eq
  intro item member
  obtain ⟨_, id, isId, known⟩ := identifies.sound item member
  obtain ⟨_, stripped, given⟩ := documented.network item.1 id known
  have text : textOrEmpty py (.str id) = id := Json.textOr_str py id
  rw [wantedNetwork, isId, known]
  simp only [text, stripped, if_neg given, Option.getD_some]

theorem mem_networkPairs (identifies : spec.Identifies swarm ids) {id network : String}
    (member : (id, network) ∈ networkPairs swarm ids) :
    network ∈ spec.networks ∧ swarm.networkId network = some id := by
  obtain ⟨item, inside, same⟩ := List.mem_map.mp member
  cases same
  obtain ⟨declared, id, _, known⟩ := identifies.sound item inside
  exact ⟨declared, by rw [known]; rfl⟩

theorem mem_keys_networkPairs (identifies : spec.Identifies swarm ids) (id : String) :
    id ∈ PyDict.keys (PyDict.ofPairs (networkPairs swarm ids)) ↔
      ∃ network ∈ spec.networks, swarm.networkId network = some id := by
  rw [mem_keys_ofPairs]
  constructor
  · intro member
    obtain ⟨⟨_, network⟩, inside, rfl⟩ := List.mem_map.mp member
    obtain ⟨declared, known⟩ := mem_networkPairs identifies inside
    exact ⟨network, declared, known⟩
  · rintro ⟨network, declared, known⟩
    obtain ⟨_, inside⟩ := identifies.complete network declared
    exact List.mem_map.mpr ⟨_, List.mem_map.mpr ⟨_, inside, rfl⟩, by simp [known]⟩

theorem filterMap_networkItem (added : List String) :
    (added.map networkItem).filterMap networkOf = added := by
  rw [List.filterMap_map]
  exact List.filterMap_some

theorem filterMap_keepsNetwork (removed : List String) (items : List Json) :
    (items.filter (keepsNetwork removed)).filterMap networkOf =
      (items.filterMap networkOf).filter fun id => id ∉ removed := by
  induction items with
  | nil => rfl
  | cons item rest ih =>
      rw [List.filter_cons, List.filterMap_cons]
      cases found : networkOf item with
      | none =>
          have kept : keepsNetwork removed item = true := by rw [keepsNetwork, found]
          rw [if_pos kept, List.filterMap_cons, found]
          exact ih
      | some id =>
          have kept : keepsNetwork removed item = decide (id ∉ removed) := by
            rw [keepsNetwork, found]
          rw [kept, List.filter_cons]
          split
          · rw [List.filterMap_cons, found, ih]
          · exact ih

theorem attached_known {service : Json} (shown : PanelShown swarm service) {id : String}
    (member : id ∈ attached service) : swarm.networkId id = some id := by
  obtain ⟨item, inside, isNetwork⟩ := List.mem_filterMap.mp member
  obtain ⟨_, same, known⟩ := proper_of_mem shown.networks inside
  rw [isNetwork] at same
  cases same
  exact known

/-- The names docker is given resolve to the ids that are missing. -/
theorem joined_eq (identifies : spec.Identifies swarm ids) (live : List String) :
    (addedNetworks live (PyDict.ofPairs (networkPairs swarm ids))).mapM swarm.networkId =
      some (sortedDifference (PyDict.keys (PyDict.ofPairs (networkPairs swarm ids))) live) := by
  rw [addedNetworks, List.mapM_map]
  have each := @mapM_eq_some _ _ (swarm.networkId ∘ fun id =>
    (PyDict.get (PyDict.ofPairs (networkPairs swarm ids)) id).getD "") id
    (sortedDifference (PyDict.keys (PyDict.ofPairs (networkPairs swarm ids))) live)
  rw [List.map_id] at each
  apply each
  intro id member
  obtain ⟨network, found⟩ := PyDict.get_of_mem_keys ((mem_sortedDifference _ _ _).mp member).1
  rw [Function.comp_apply, found]
  exact (mem_networkPairs identifies (mem_of_get_ofPairs found)).2

theorem nodup_sortedDifference (present unwanted : List String) :
    (sortedDifference present unwanted).Nodup := by
  rw [sortedDifference]
  exact (List.mergeSort_perm _ _).nodup_iff.mpr (List.Nodup.filter _ (List.nodup_dedup present))

end Networks

/-! ### The update -/

section Update

variable {py : Builtins} {digest : ValueDigest} {swarm : Swarm} {spec : PanelSpec}
  {fields : PyDict String Json} {entries : List Json} {ids : PyDict String Json} {service : Json}

/-- The secrets that the drift adds. -/
def toAdd (py : Builtins) (digest : ValueDigest) (spec : PanelSpec) (service : Json) :
    List (String × String) :=
  addedSecrets (PyDict.ofPairs (mounts service)) (PyDict.ofPairs (spec.declared py digest))

def readOptions (swarm : Swarm) (mounts : List (String × String)) :
    Option (List (String × String)) :=
  (mounts.map fun mount => secretOption mount.1 mount.2).mapM swarm.secretOpt

/-- The service after the flags of the three drifts, whose options were read as `added`. -/
def updatedService (py : Builtins) (digest : ValueDigest) (swarm : Swarm) (spec : PanelSpec)
    (ids : PyDict String Json) (added : List (String × String)) (service : Json) : Json :=
  let full := fullEnv py digest spec
  let live := PyDict.ofPairs (mounts service)
  let declared := PyDict.ofPairs (spec.declared py digest)
  let want := PyDict.keys (PyDict.ofPairs (networkPairs swarm ids))
  withLists
    ((updatedEnv (sortedDifference (PyDict.keys (liveEnv service)) (PyDict.keys full))
      (addedEnv (liveEnv service) full)
      ((itemsAt envPath service).filterMap textOf)).map Json.str)
    ((itemsAt secretsPath service).filter
        (keepsMount (sortedDifference (PyDict.keys live) (PyDict.keys declared))) ++
      added.map mountItem)
    ((itemsAt networksPath service).filter
        (keepsNetwork (sortedDifference (attached service) want)) ++
      (sortedDifference want (attached service)).map networkItem) service

theorem update_eq (identifies : spec.Identifies swarm ids) (shown : PanelShown swarm service) :
    swarm.update (envFlags (liveEnv service) (fullEnv py digest spec) ++
        secretFlags (PyDict.ofPairs (mounts service)) (PyDict.ofPairs (spec.declared py digest)) ++
        networkFlags (attached service) (PyDict.ofPairs (networkPairs swarm ids))) service =
      (readOptions swarm (toAdd py digest spec service)).map fun added =>
        updatedService py digest swarm spec ids added service := by
  have detached : (sortedDifference (attached service)
      (PyDict.keys (PyDict.ofPairs (networkPairs swarm ids)))).mapM swarm.networkId =
      some (sortedDifference (attached service)
        (PyDict.keys (PyDict.ofPairs (networkPairs swarm ids)))) := by
    have each := @mapM_eq_some _ _ swarm.networkId id _ fun id member =>
      attached_known shown ((mem_sortedDifference (attached service)
        (PyDict.keys (PyDict.ofPairs (networkPairs swarm ids))) id).mp member).1
    rwa [List.map_id] at each
  have fresh : (sortedDifference (PyDict.keys (PyDict.ofPairs (networkPairs swarm ids)))
        (attached service)).Nodup ∧
      ∀ id ∈ sortedDifference (PyDict.keys (PyDict.ofPairs (networkPairs swarm ids)))
        (attached service), id ∉ ((itemsAt networksPath service).filter
          (keepsNetwork (sortedDifference (attached service)
            (PyDict.keys (PyDict.ofPairs (networkPairs swarm ids)))))).filterMap networkOf := by
    refine ⟨nodup_sortedDifference _ _, fun id member kept => ?_⟩
    rw [filterMap_keepsNetwork] at kept
    exact ((mem_sortedDifference _ _ _).mp member).2 (List.mem_of_mem_filter kept)
  obtain ⟨envAdd, envRemove, secretRemove, secretAdd, networkRemove, networkAdd⟩ :=
    texts_driftPairs (liveEnv service) (fullEnv py digest spec) (PyDict.ofPairs (mounts service))
      (PyDict.ofPairs (spec.declared py digest)) (attached service)
      (PyDict.ofPairs (networkPairs swarm ids))
  rw [← flagsOf_driftPairs, Swarm.update, flagPairs_flagsOf]
  simp only [Option.bind_eq_bind, Option.bind_some, envAdd, envRemove, secretRemove, secretAdd,
    networkRemove, networkAdd, detached, joined_eq identifies, if_pos fresh]
  rw [readOptions, toAdd]
  cases List.mapM swarm.secretOpt _ with
  | none => rfl
  | some added => rfl

theorem filterMap_str (texts : List String) : (texts.map Json.str).filterMap textOf = texts := by
  rw [List.filterMap_map]
  exact List.filterMap_some

theorem get_liveEnv_updated (names : ∀ mount ∈ spec.declared py digest, '=' ∉ mount.2.toList)
    (added : List (String × String)) (key : String) :
    PyDict.get (liveEnv (updatedService py digest swarm spec ids added service)) key =
      PyDict.get (fullEnv py digest spec) key := by
  rw [liveEnv, updatedService]
  simp only [(itemsAt_withLists _ _ _).1, filterMap_str]
  exact get_updatedEnv (fun _ member => names_fullEnv names member) key

theorem mounts_updated (added : List (String × String)) :
    mounts (updatedService py digest swarm spec ids added service) =
    (mounts service).filter (fun mount => mount.1 ∉ sortedDifference
        (PyDict.keys (PyDict.ofPairs (mounts service)))
        (PyDict.keys (PyDict.ofPairs (spec.declared py digest)))) ++ added := by
  rw [mounts, updatedService]
  simp only [(itemsAt_withLists _ _ _).2.1]
  rw [List.filterMap_append, filterMap_keepsMount, filterMap_mountItem]
  rfl

theorem mem_attached_updated (identifies : spec.Identifies swarm ids)
    (added : List (String × String)) (id : String) :
    id ∈ attached (updatedService py digest swarm spec ids added service) ↔
      ∃ network ∈ spec.networks, swarm.networkId network = some id := by
  rw [attached, updatedService, ← mem_keys_networkPairs identifies]
  simp only [(itemsAt_withLists _ _ _).2.2]
  rw [List.filterMap_append, filterMap_keepsNetwork, filterMap_networkItem, List.mem_append,
    List.mem_filter, decide_eq_true_iff, mem_sortedDifference, mem_sortedDifference]
  change (id ∈ attached service ∧ _) ∨ _ ↔ _
  by_cases wanted : id ∈ PyDict.keys (PyDict.ofPairs (networkPairs swarm ids))
  · by_cases live : id ∈ attached service <;> simp [wanted, live]
  · by_cases live : id ∈ attached service <;> simp [wanted, live]

theorem shown_updated (identifies : spec.Identifies swarm ids) (documented : swarm.Documented)
    (shown : PanelShown swarm service) {added : List (String × String)}
    (named : ∀ mount ∈ added, mount.1 ≠ "") :
    PanelShown swarm (updatedService py digest swarm spec ids added service) := by
  apply shown_withLists
  · intro item member
    obtain ⟨text, _, rfl⟩ := List.mem_map.mp member
    exact ⟨text, rfl⟩
  · intro item member
    rcases List.mem_append.mp member with kept | added
    · exact proper_of_mem shown.secrets (List.mem_of_mem_filter kept)
    · obtain ⟨mount, inside, rfl⟩ := List.mem_map.mp added
      exact ⟨mount.1, mount.2, rfl, named mount inside⟩
  · intro item member
    rcases List.mem_append.mp member with kept | added
    · exact proper_of_mem shown.networks (List.mem_of_mem_filter kept)
    · obtain ⟨id, inside, rfl⟩ := List.mem_map.mp added
      have wanted := ((mem_sortedDifference _ _ _).mp inside).1
      obtain ⟨network, _, known⟩ := (mem_keys_networkPairs identifies id).mp wanted
      exact ⟨id, rfl, (documented.network network id known).1⟩

/-! ### Rest -/

theorem sortedDifference_eq_nil {present unwanted : List String}
    (subset : ∀ item ∈ present, item ∈ unwanted) : sortedDifference present unwanted = [] := by
  apply List.eq_nil_iff_forall_not_mem.mpr
  intro item member
  obtain ⟨inside, absent⟩ := (mem_sortedDifference _ _ _).mp member
  exact absent (subset item inside)

/-- A service with the declared environment, the names of the declared secrets
and the declared networks is at rest. -/
theorem quiet_of_reached (documented : swarm.Documented) (identifies : spec.Identifies swarm ids)
    (describes : spec.Describes py digest fields entries) (shown : PanelShown swarm service)
    (env : ∀ key, PyDict.get (liveEnv service) key = PyDict.get (fullEnv py digest spec) key)
    (names : ∀ name, name ∈ (mounts service).map Prod.fst ↔
      name ∈ (spec.declared py digest).map Prod.fst)
    (networks : ∀ id, id ∈ attached service ↔
      ∃ network ∈ spec.networks, swarm.networkId network = some id) :
    Quiet py fields entries ids service := by
  intro inspect shows
  have noEnv : envFlags (liveEnv service) (fullEnv py digest spec) = [] := by
    have removed := @sortedDifference_eq_nil (PyDict.keys (liveEnv service))
      (PyDict.keys (fullEnv py digest spec)) fun key member => by
        obtain ⟨value, found⟩ := PyDict.get_of_mem_keys member
        exact PyDict.mem_keys_of_get ((env key).symm.trans found)
    simp [envFlags, removed, env]
  have noSecrets : secretFlags (PyDict.ofPairs (mounts service))
      (PyDict.ofPairs (spec.declared py digest)) = [] := by
    have same (name : String) : name ∈ PyDict.keys (PyDict.ofPairs (mounts service)) ↔
        name ∈ PyDict.keys (PyDict.ofPairs (spec.declared py digest)) := by
      rw [mem_keys_ofPairs, mem_keys_ofPairs, names]
    rw [secretFlags, sortedDifference_eq_nil fun name => (same name).mp,
      sortedDifference_eq_nil fun name => (same name).mpr]
    rfl
  have noNetworks : networkFlags (attached service)
      (PyDict.ofPairs (networkPairs swarm ids)) = [] := by
    have same (id : String) : id ∈ attached service ↔
        id ∈ PyDict.keys (PyDict.ofPairs (networkPairs swarm ids)) := by
      rw [networks, mem_keys_networkPairs identifies]
    rw [networkFlags, sortedDifference_eq_nil fun id => (same id).mp,
      sortedDifference_eq_nil fun id => (same id).mpr]
    rfl
  constructor
  · exact ⟨_, fullEnv_eq describes, by rw [envDrift_eq shown shows, noEnv]⟩
  · rw [secretDrift_eq shown shows (wanted_eq describes), noSecrets]
  · rw [networkDrift_eq shown shows (wantedNetworks_eq documented identifies), noNetworks]

end Update

/-! ### A new service -/

section Created

variable {py : Builtins} {digest : ValueDigest} {swarm : Swarm} {spec : PanelSpec}
  {fields : PyDict String Json} {entries : List Json} {ids : PyDict String Json} {service : Json}

/-- A flag that takes a text. -/
def IsFlag (flag : String) : Prop :=
  "--".toList.isPrefixOf flag.toList = true ∧ '=' ∉ flag.toList ∧ flag ≠ "--detach"

instance (flag : String) : Decidable (IsFlag flag) :=
  inferInstanceAs (Decidable (_ ∧ _ ∧ _))

/-- A flag and its text in one word. -/
def optionWord (pair : String × String) : String :=
  pair.1 ++ "=" ++ pair.2

theorem createPairs_optionWord {pair : String × String} (isFlag : IsFlag pair.1)
    (rest : List String) :
    Swarm.createPairs (optionWord pair :: rest) = (Swarm.createPairs rest).map (pair :: ·) := by
  have parts : PyText.partition '=' (optionWord pair).toList =
      some (pair.1.toList, pair.2.toList) :=
    PyText.partition_eq_some.mpr ⟨by simp [optionWord], isFlag.2.1⟩
  have starts : "--".toList.isPrefixOf (optionWord pair).toList = true := by
    have flag := List.isPrefixOf_iff_prefix.mp isFlag.1
    rw [List.isPrefixOf_iff_prefix, optionWord, String.toList_append, String.toList_append,
      List.append_assoc]
    exact flag.trans (List.prefix_append _ _)
  have other : optionWord pair ≠ "--detach" := by
    intro same
    have none : PyText.partition '=' "--detach".toList = none := by decide
    rw [same, none] at parts
    cases parts
  conv_lhs => unfold Swarm.createPairs
  rw [if_neg other, if_pos starts, parts]
  simp

theorem createPairs_optionWords {pairs : List (String × String)}
    (flags : ∀ pair ∈ pairs, IsFlag pair.1) (rest : List String) :
    Swarm.createPairs (pairs.map optionWord ++ rest) =
      (Swarm.createPairs rest).map (pairs ++ ·) := by
  induction pairs with
  | nil => simp
  | cons pair others ih =>
      rw [List.forall_mem_cons] at flags
      rw [List.map_cons, List.cons_append, createPairs_optionWord flags.1, ih flags.2,
        Option.map_map]
      rfl

theorem createPairs_flagsOf {pairs : List (String × String)}
    (flags : ∀ pair ∈ pairs, IsFlag pair.1) (rest : List String) :
    Swarm.createPairs (flagsOf pairs ++ rest) = (Swarm.createPairs rest).map (pairs ++ ·) := by
  induction pairs with
  | nil => simp [flagsOf]
  | cons pair others ih =>
      rw [List.forall_mem_cons] at flags
      obtain ⟨starts, noSign, other⟩ := flags.1
      have parts : PyText.partition '=' pair.1.toList = none := by
        cases found : PyText.partition '=' pair.1.toList with
        | none => rfl
        | some parts =>
            rw [(PyText.partition_eq_some.mp found).1] at noSign
            exact absurd (by simp) noSign
      change Swarm.createPairs (pair.1 :: pair.2 :: (flagsOf others ++ rest)) = _
      rw [Swarm.createPairs, if_neg other, if_pos starts, parts]
      simp only [ih flags.2, Option.map_map]
      rfl

/-- The image ends the flags. -/
theorem createPairs_image {image : String} {pairs : List (String × String)}
    (read : Swarm.createPairs [image] = some pairs) : pairs = [] := by
  unfold Swarm.createPairs at read
  split at read
  · cases read
  · split at read
    · cases parts : PyText.partition '=' image.toList with
      | none =>
          rw [parts] at read
          cases read
      | some found =>
          rw [parts] at read
          cases read
    · exact (Option.some.inj read).symm

def hardeningFlags : List String :=
  ["--limit-memory", "--reserve-memory", "--stop-grace-period", "--update-failure-action",
    "--update-monitor", "--update-max-failure-ratio", "--update-order", "--constraint",
    "--health-cmd", "--health-interval", "--health-retries", "--health-start-period"]

theorem isFlag_hardening : ∀ flag ∈ hardeningFlags,
    IsFlag flag ∧ flag ≠ "--env" ∧ flag ≠ "--secret" ∧ flag ≠ "--network" := by
  decide

/-- A part of a command line that gives hardening flags with their texts. -/
def Hardens (flags : List String) : Prop :=
  ∃ pairs, flags = flagsOf pairs ∧ ∀ pair ∈ pairs, pair.1 ∈ hardeningFlags

theorem Hardens.append {first second : List String} (one : Hardens first)
    (other : Hardens second) : Hardens (first ++ second) := by
  obtain ⟨pairs, rfl, flags⟩ := one
  obtain ⟨others, rfl, otherFlags⟩ := other
  exact ⟨pairs ++ others, (flagsOf_append pairs others).symm,
    List.forall_mem_append.mpr ⟨flags, otherFlags⟩⟩

theorem hardens_nil : Hardens [] :=
  ⟨[], rfl, by simp⟩

theorem hardens_givenFlag (desired : PyDict String Json) (key : String) {flag : String}
    (known : flag ∈ hardeningFlags) : Hardens (givenFlag py desired key flag) := by
  unfold givenFlag
  cases PyDict.get desired key with
  | none => exact hardens_nil
  | some want => exact ⟨[(flag, want.toText py)], rfl, by simpa using known⟩

/-- The flags of `swarm_service_create_args` say nothing of the environment, the
secrets and the networks. -/
theorem hardens_createArgs {desired : PyDict String Json} {flags : List String}
    (rendered : swarmServiceCreateArgs py (.obj desired) = .ok flags) : Hardens flags := by
  rw [swarmServiceCreateArgs] at rendered
  cases listed : iterate ((PyDict.get desired "constraints").getD (.arr [])) with
  | error error =>
      rw [listed] at rendered
      cases rendered
  | ok constraints =>
      rw [listed] at rendered
      simp only [bind, Except.bind, Except.ok.injEq] at rendered
      subst rendered
      have constraintFlags : Hardens (constraints.flatMap
          fun constraint => ["--constraint", constraint.toText py]) := by
        refine ⟨constraints.map fun constraint => ("--constraint", constraint.toText py), ?_, ?_⟩
        · rw [flagsOf, List.flatMap_map]
        · intro pair member
          obtain ⟨_, _, rfl⟩ := List.mem_map.mp member
          exact (by decide : "--constraint" ∈ hardeningFlags)
      have health : Hardens (if (PyDict.get desired "health_cmd").isSome then
          healthFlags py desired else []) := by
        split
        · exact ((hardens_givenFlag _ _ (by decide)).append
            (hardens_givenFlag _ _ (by decide))).append (hardens_givenFlag _ _ (by decide))
        · exact hardens_nil
      refine Hardens.append (Hardens.append (Hardens.append ?_ constraintFlags)
        (hardens_givenFlag _ _ (by decide))) health
      refine Hardens.append (Hardens.append (Hardens.append (Hardens.append (Hardens.append
        (Hardens.append ?_ ?_) ?_) ?_) ?_) ?_) ?_ <;>
        exact hardens_givenFlag _ _ (by decide)

/-- The flags of the command line with their texts, before the hardening. -/
def panelPairs (name uiPort directPort group : String) (networks : List String)
    (secrets : List (String × String)) (env : List String) : List (String × String) :=
  [("--name", name)] ++ networks.map (fun network => ("--network", network)) ++
    [("--restart-condition", "any"),
      ("--publish", "mode=host,published=" ++ uiPort ++ ",target=" ++ directPort),
      ("--host", "host.docker.internal:host-gateway")] ++
    (if group = "" then [] else [("--group", group)]) ++
    panelMounts.map (fun mount => ("--mount", mountArg mount)) ++
    secrets.map (fun mount => ("--secret", secretOption mount.1 mount.2)) ++
    env.map fun text => ("--env", text)

theorem bind_eq_ok {α β : Type} {step : Except PanelError α}
    {next : α → Except PanelError β} {result : β} (ok : step >>= next = .ok result) :
    ∃ value, step = .ok value ∧ next value = .ok result := by
  cases step with
  | error error => cases ok
  | ok value => exact ⟨value, rfl, ok⟩

theorem required_eq {key : String} {value : Json}
    (given : required py (.obj fields) key = .ok value) :
    value = (PyDict.get fields key).getD .null := by
  obtain ⟨found, same, given⟩ := bind_eq_ok given
  cases same
  split at given
  · cases given
  · exact (Except.ok.inj given).symm

theorem given_list {key : String} {listed : Json} {items found : List Json}
    (given : PyDict.get fields key = some (.arr items))
    (isListed : lift (getOr key .null (.obj fields)) = .ok listed)
    (iterated : lift (iterate (orList listed)) = .ok found) : found = items := by
  rw [getOr, given] at isListed
  cases isListed
  have same : iterate (orList (.arr items)) = .ok items := iterate_orList fun _ => ⟨_, rfl⟩
  rw [Option.getD_some, same] at iterated
  exact (Except.ok.inj iterated).symm

/-- The word of a flag, as the filter writes it. -/
theorem word_eq {start flag : String} (same : flag ++ "=" = start) (text : String) :
    start ++ text = optionWord (flag, text) := by
  rw [optionWord, same]

def imageText (py : Builtins) (fields : PyDict String Json) : String :=
  ((PyDict.get fields "image").getD .null).toText py

/-- The command line of a new panel. -/
theorem argv_eq (describes : spec.Describes py digest fields entries) {argv : List String}
    (rendered : catenaAdminServiceArgv py (.obj fields) = .ok argv) :
    ∃ name uiPort directPort group flags, Hardens flags ∧
      argv = "docker" :: "service" :: "create" :: "--detach" ::
        ((panelPairs name uiPort directPort group spec.networks (spec.declared py digest)
          (assignments (fullEnv py digest spec))).map optionWord ++
            (flags ++ [imageText py fields])) := by
  unfold catenaAdminServiceArgv at rendered
  obtain ⟨_, _, rendered⟩ := bind_eq_ok rendered
  obtain ⟨name, _, rendered⟩ := bind_eq_ok rendered
  obtain ⟨image, isImage, rendered⟩ := bind_eq_ok rendered
  obtain ⟨networks, given, rendered⟩ := bind_eq_ok rendered
  obtain ⟨uiPort, _, rendered⟩ := bind_eq_ok rendered
  obtain ⟨directPort, _, rendered⟩ := bind_eq_ok rendered
  obtain ⟨items, isList, rendered⟩ := bind_eq_ok rendered
  obtain ⟨group, _, rendered⟩ := bind_eq_ok rendered
  obtain ⟨listed, isListed, rendered⟩ := bind_eq_ok rendered
  obtain ⟨secrets, iterated, rendered⟩ := bind_eq_ok rendered
  obtain ⟨options, collected, rendered⟩ := bind_eq_ok rendered
  obtain ⟨env, isEnv, rendered⟩ := bind_eq_ok rendered
  obtain ⟨hardening, isHardening, rendered⟩ := bind_eq_ok rendered
  obtain ⟨flags, isFlags, rendered⟩ := bind_eq_ok rendered
  have networksList : items = spec.networks.map Json.str := by
    rw [required_eq given, describes.networks] at isList
    exact (Except.ok.inj isList).symm
  have secretsList := given_list describes.secrets isListed iterated
  have optionsList : options = (spec.declared py digest).map fun mount =>
      "--secret=" ++ secretOption mount.1 mount.2 := by
    rw [secretsList, entries_eq describes] at collected
    rw [PanelSpec.declared, List.map_map]
    refine Except.ok.inj (collected.symm.trans ?_)
    apply collect_map
    intro secret
    rfl
  have envList : env = fullEnv py digest spec :=
    (Except.ok.inj (isEnv.symm.trans (fullEnv_eq describes)))
  obtain ⟨hardeningFlags, hardens, isGiven⟩ := describes.hardening
  have flagsList := given_list isGiven isHardening isFlags
  refine ⟨name.toText py, uiPort.toText py, directPort.toText py,
    PyText.strip (textOrEmpty py group), hardeningFlags, hardens_createArgs hardens, ?_⟩
  have image : imageText py fields = image.toText py := by rw [imageText, required_eq isImage]
  have texts : flags.map (fun flag => flag.toText py) = hardeningFlags := by
    rw [flagsList, List.map_map]
    exact List.map_id hardeningFlags
  have publish : "--publish=mode=host,published=" ++ uiPort.toText py ++ ",target=" ++
      directPort.toText py = optionWord ("--publish",
        "mode=host,published=" ++ uiPort.toText py ++ ",target=" ++ directPort.toText py) := by
    have start : "--publish" ++ "=" ++ "mode=host,published=" =
        "--publish=mode=host,published=" := by decide
    rw [optionWord, ← String.append_assoc, ← String.append_assoc, ← String.append_assoc, start]
  have restart : "--restart-condition=any" = optionWord ("--restart-condition", "any") := by
    decide
  have host : "--host=host.docker.internal:host-gateway" =
      optionWord ("--host", "host.docker.internal:host-gateway") := by decide
  have groupWords : (if PyText.strip (textOrEmpty py group) = "" then []
        else ["--group=" ++ PyText.strip (textOrEmpty py group)]) =
      (if PyText.strip (textOrEmpty py group) = "" then []
        else [("--group", PyText.strip (textOrEmpty py group))]).map optionWord := by
    split
    · rfl
    · rw [@word_eq "--group=" "--group" (by decide)]
      rfl
  rw [← Except.ok.inj rendered, texts, networksList, optionsList, envList, publish, restart,
    host, groupWords, image, panelPairs, @word_eq "--name=" "--name" (by decide)]
  simp only [List.map_append, List.map_map, List.append_assoc, List.cons_append, List.nil_append,
    List.map_cons, Function.comp_def, @word_eq "--network=" "--network" (by decide),
    @word_eq "--mount=" "--mount" (by decide), @word_eq "--secret=" "--secret" (by decide),
    @word_eq "--env=" "--env" (by decide), Json.toText]

theorem texts_panelPairs (name uiPort directPort group : String) (networks : List String)
    (secrets : List (String × String)) (env : List String) :
    let pairs := panelPairs name uiPort directPort group networks secrets env
    texts "--env" pairs = env ∧
      texts "--secret" pairs = secrets.map (fun mount => secretOption mount.1 mount.2) ∧
      texts "--network" pairs = networks := by
  have groupTexts {flag : String} (other : flag ≠ "--group") :
      texts flag (if group = "" then [] else [("--group", group)]) = [] := by
    split
    · rfl
    · simp [texts, Ne.symm other]
  have groupEnv := @groupTexts "--env" (by decide)
  have groupSecret := @groupTexts "--secret" (by decide)
  have groupNetwork := @groupTexts "--network" (by decide)
  simp only [panelPairs, texts_append, texts_map, texts_mapped, groupEnv, groupSecret,
    groupNetwork]
  simp [texts]

theorem isFlag_panelPairs (name uiPort directPort group : String) (networks : List String)
    (secrets : List (String × String)) (env : List String) :
    ∀ pair ∈ panelPairs name uiPort directPort group networks secrets env, IsFlag pair.1 := by
  have every : ∀ flag ∈ ["--name", "--network", "--restart-condition", "--publish", "--host",
      "--group", "--mount", "--secret", "--env"], IsFlag flag := by
    decide
  intro pair member
  apply every
  simp only [panelPairs, List.mem_append, List.mem_map] at member
  rcases member with (((((member | ⟨_, _, rfl⟩) | member) | member) | ⟨_, _, rfl⟩) |
    ⟨_, _, rfl⟩) | ⟨_, _, rfl⟩
  · obtain rfl := List.mem_singleton.mp member
    simp
  · simp
  · simp only [List.mem_cons, List.not_mem_nil, or_false] at member
    rcases member with rfl | rfl | rfl <;> simp
  · split at member
    · cases member
    · obtain rfl := List.mem_singleton.mp member
      simp
  · simp
  · simp
  · simp

theorem createPairs_detach (rest : List String) :
    Swarm.createPairs ("--detach" :: rest) = Swarm.createPairs rest := by
  conv_lhs => unfold Swarm.createPairs
  rw [if_pos rfl]

/-- The flags docker reads from the command line of a new panel. -/
theorem createPairs_argv (describes : spec.Describes py digest fields entries)
    {argv : List String} (rendered : catenaAdminServiceArgv py (.obj fields) = .ok argv) :
    argv.take 3 = ["docker", "service", "create"] ∧ ∃ pairs,
      Swarm.createPairs (argv.drop 3) =
        (Swarm.createPairs [imageText py fields]).map (pairs ++ ·) ∧
      texts "--env" pairs = assignments (fullEnv py digest spec) ∧
      texts "--secret" pairs =
        (spec.declared py digest).map (fun mount => secretOption mount.1 mount.2) ∧
      texts "--network" pairs = spec.networks := by
  obtain ⟨name, uiPort, directPort, group, flags, hardens, rfl⟩ := argv_eq describes rendered
  obtain ⟨hardening, rfl, known⟩ := hardens
  have flagsOnly : ∀ pair ∈ hardening, IsFlag pair.1 := fun pair member =>
    (isFlag_hardening _ (known pair member)).1
  have silent {flag : String} (other : ∀ pair ∈ hardening, pair.1 ≠ flag) :
      texts flag hardening = [] := by
    rw [texts, List.map_eq_nil_iff, List.filter_eq_nil_iff]
    simpa using other
  have noEnv := @silent "--env" fun pair member => (isFlag_hardening _ (known pair member)).2.1
  have noSecret := @silent "--secret" fun pair member =>
    (isFlag_hardening _ (known pair member)).2.2.1
  have noNetwork := @silent "--network" fun pair member =>
    (isFlag_hardening _ (known pair member)).2.2.2
  obtain ⟨env, secrets, networks⟩ := texts_panelPairs name uiPort directPort group spec.networks
    (spec.declared py digest) (assignments (fullEnv py digest spec))
  refine ⟨by simp, panelPairs name uiPort directPort group spec.networks
    (spec.declared py digest) (assignments (fullEnv py digest spec)) ++ hardening, ?_, ?_⟩
  · rw [List.drop_succ_cons, List.drop_succ_cons, List.drop_succ_cons, List.drop_zero,
      createPairs_detach, createPairs_optionWords (isFlag_panelPairs _ _ _ _ _ _ _),
      createPairs_flagsOf flagsOnly, Option.map_map]
    simp only [Function.comp_def, List.append_assoc]
  · simp only [texts_append, env, secrets, networks, noEnv, noSecret, noNetwork, List.append_nil,
      and_self]

/-- Docker shows what it made of the options of a new service. -/
theorem shown_created (documented : swarm.Documented) {read : List (String × String)}
    (named : ∀ mount ∈ read, mount.1 ≠ "") {joined : List String}
    (isJoined : spec.networks.mapM swarm.networkId = some joined) (env : List String)
    (base : Json) :
    PanelShown swarm (withLists (env.map Json.str) (read.map mountItem)
      (joined.map networkItem) base) := by
  refine shown_withLists ?_ ?_ ?_
  · intro item member
    obtain ⟨text, _, rfl⟩ := List.mem_map.mp member
    exact ⟨text, rfl⟩
  · intro item member
    obtain ⟨mount, inside, rfl⟩ := List.mem_map.mp member
    exact ⟨mount.1, mount.2, rfl, named mount inside⟩
  · intro item member
    obtain ⟨id, inside, rfl⟩ := List.mem_map.mp member
    obtain ⟨network, _, known⟩ := (mem_of_mapM isJoined id).mp inside
    exact ⟨id, rfl, (documented.network network id known).1⟩

/-- A service with secrets of the declared names, and else just what is declared, is at
rest. -/
theorem quiet_withLists (documented : swarm.Documented) (identifies : spec.Identifies swarm ids)
    (describes : spec.Describes py digest fields entries)
    (targets : ∀ mount ∈ spec.declared py digest, '=' ∉ mount.2.toList)
    {read : List (String × String)} (named : ∀ mount ∈ read, mount.1 ≠ "")
    (names : ∀ name, name ∈ read.map Prod.fst ↔ name ∈ (spec.declared py digest).map Prod.fst)
    {joined : List String}
    (isJoined : spec.networks.mapM swarm.networkId = some joined) (base : Json) :
    Quiet py fields entries ids
      (withLists ((assignments (fullEnv py digest spec)).map Json.str)
        (read.map mountItem) (joined.map networkItem) base) := by
  obtain ⟨env, secrets, networks⟩ := @itemsAt_withLists base
    ((assignments (fullEnv py digest spec)).map Json.str)
    (read.map mountItem) (joined.map networkItem)
  refine quiet_of_reached documented identifies describes
    (shown_created documented named isJoined _ base) ?_ ?_ ?_
  · intro key
    rw [liveEnv, env, filterMap_str, assignments, get_envOf_assignments fun key member =>
      names_fullEnv targets ((mem_sortedKeys _ key).mp member)]
    simp only [mem_sortedKeys]
    cases found : PyDict.get (fullEnv py digest spec) key with
    | none => rw [if_neg ((PyDict.get_eq_none_iff _ _).mp found)]
    | some value =>
        rw [if_pos (PyDict.mem_keys_of_get found)]
        rfl
  · intro name
    rw [mounts, secrets, filterMap_mountItem, names]
  · intro id
    rw [attached, networks, filterMap_networkItem, mem_of_mapM isJoined]

theorem named_of_read (documented : swarm.Documented) {mounts read : List (String × String)}
    (isRead : readOptions swarm mounts = some read) :
    ∀ mount ∈ read, mount.1 ≠ "" ∧ mount.2 ≠ "" := by
  intro mount member
  obtain ⟨text, _, found⟩ := (mem_of_mapM isRead mount).mp member
  exact documented.named text mount found

/-- What `docker service create` makes of the spec's command line. -/
theorem create_eq (identifies : spec.Identifies swarm ids)
    (describes : spec.Describes py digest fields entries) {argv : List String}
    (rendered : catenaAdminServiceArgv py (.obj fields) = .ok argv) (base : Json) :
    ∃ joined, spec.networks.mapM swarm.networkId = some joined ∧
      swarm.create argv base =
        (Swarm.createPairs [imageText py fields]).bind fun _ =>
          (readOptions swarm (spec.declared py digest)).map fun read =>
            withLists ((assignments (fullEnv py digest spec)).map Json.str)
              (read.map mountItem) (joined.map networkItem) base := by
  obtain ⟨command, flags, reads, env, secrets, networks⟩ := createPairs_argv describes rendered
  have joined := @mapM_eq_some _ _ swarm.networkId (fun network => (swarm.networkId network).getD "")
    spec.networks fun network member => by
      obtain ⟨_, inside⟩ := identifies.complete network member
      obtain ⟨_, _, _, known⟩ := identifies.sound _ inside
      rw [known]
      rfl
  refine ⟨_, joined, ?_⟩
  rw [Swarm.create, if_pos command, reads]
  cases image : Swarm.createPairs [imageText py fields] with
  | none => rfl
  | some last =>
      obtain rfl := createPairs_image image
      simp only [Option.map_some, List.append_nil, Option.bind_eq_bind, Option.bind_some, secrets,
        networks, joined, env]
      rw [← readOptions]
      cases readOptions swarm (spec.declared py digest) with
      | none => rfl
      | some read => rfl

/-! ### The exact condition -/

theorem Drifts.unique {inspect : Json} {env secrets networks env' secrets' networks' : List String}
    (first : Drifts py fields entries ids inspect env secrets networks)
    (second : Drifts py fields entries ids inspect env' secrets' networks') :
    env = env' ∧ secrets = secrets' ∧ networks = networks' := by
  obtain ⟨full, isFull, envFlags⟩ := first.env
  obtain ⟨other, isOther, otherFlags⟩ := second.env
  obtain rfl := Except.ok.inj (isFull.symm.trans isOther)
  exact ⟨Except.ok.inj (envFlags.symm.trans otherFlags),
    Except.ok.inj (first.secrets.symm.trans second.secrets),
    Except.ok.inj (first.networks.symm.trans second.networks)⟩

theorem drifts_eq (documented : swarm.Documented) (identifies : spec.Identifies swarm ids)
    (describes : spec.Describes py digest fields entries) (shown : PanelShown swarm service)
    {inspect : Json} (shows : Shows inspect service) :
    Drifts py fields entries ids inspect
      (envFlags (liveEnv service) (fullEnv py digest spec))
      (secretFlags (PyDict.ofPairs (mounts service)) (PyDict.ofPairs (spec.declared py digest)))
      (networkFlags (attached service) (PyDict.ofPairs (networkPairs swarm ids))) :=
  ⟨⟨_, fullEnv_eq describes, envDrift_eq shown shows _⟩,
    secretDrift_eq shown shows (wanted_eq describes),
    networkDrift_eq shown shows (wantedNetworks_eq documented identifies)⟩

/-- What it takes to bring a live panel to its spec.  No target has a `=`; docker reads
the secrets that are to be added out of their options; the mounted secrets agree; and
where a new service can be made, the names it reads are the declared ones. -/
structure Settles (py : Builtins) (digest : ValueDigest) (swarm : Swarm) (spec : PanelSpec)
    (fields : PyDict String Json) (service : Json) : Prop where
  targets : ∀ mount ∈ spec.declared py digest, '=' ∉ mount.2.toList
  added : ∃ read, readOptions swarm (toAdd py digest spec service) = some read ∧
    toAdd py digest spec service ⊆ read
  agree : MountsAgree (mounts service) (spec.declared py digest)
  created : ∀ argv read, catenaAdminServiceArgv py (.obj fields) = .ok argv →
    (Swarm.createPairs [imageText py fields]).isSome = true →
    readOptions swarm (spec.declared py digest) = some read →
      ∀ name, name ∈ read.map Prod.fst ↔ name ∈ (spec.declared py digest).map Prod.fst

theorem readOptions_self {mounts : List (String × String)}
    (reads : ∀ mount ∈ mounts, swarm.secretOpt (secretOption mount.1 mount.2) = some mount) :
    readOptions swarm mounts = some mounts := by
  induction mounts with
  | nil => rfl
  | cons mount rest ih =>
      rw [List.forall_mem_cons] at reads
      have later := ih reads.2
      rw [readOptions] at later
      rw [readOptions, List.map_cons, List.mapM_cons, reads.1, later]
      rfl

theorem mem_toAdd {mount : String × String} (member : mount ∈ toAdd py digest spec service) :
    mount ∈ spec.declared py digest ∧ mount.1 ∉ (mounts service).map Prod.fst := by
  obtain ⟨name, wanted, rfl⟩ := List.mem_map.mp member
  obtain ⟨inside, absent⟩ := (mem_sortedDifference _ _ _).mp wanted
  obtain ⟨target, found⟩ := PyDict.get_of_mem_keys inside
  rw [mem_keys_ofPairs] at absent
  rw [found]
  exact ⟨mem_of_get_ofPairs found, absent⟩

theorem nodup_toAdd : (toAdd py digest spec service).Nodup :=
  (nodup_sortedDifference _ _).map fun _ _ same => (Prod.mk.inj same).1

theorem settles_of_plain (documented : swarm.Documented)
    (plain : ∀ mount ∈ spec.declared py digest,
      PlainOption mount.1 ∧ PlainOption mount.2 ∧ '=' ∉ mount.2.toList)
    (agree : MountsAgree (mounts service) (spec.declared py digest)) :
    Settles py digest swarm spec fields service where
  targets mount member := (plain mount member).2.2
  added := ⟨_, readOptions_self fun mount member =>
    have declared := plain mount (mem_toAdd member).1
    documented.secret _ _ declared.1 declared.2.1, List.Subset.refl _⟩
  agree := agree
  created argv read _ _ isRead := by
    rw [readOptions_self fun mount member =>
      documented.secret _ _ (plain mount member).1 (plain mount member).2.1] at isRead
    rw [← Option.some.inj isRead]
    exact fun name => Iff.rfl

/-- Where the secrets' drift is empty, the mounted names are the declared ones. -/
theorem names_of_quiet (describes : spec.Describes py digest fields entries)
    (shown : PanelShown swarm service) (quiet : Quiet py fields entries ids service)
    (name : String) : name ∈ (mounts service).map Prod.fst ↔
      name ∈ (spec.declared py digest).map Prod.fst := by
  have none := (quiet service (Or.inl rfl)).secrets
  rw [secretDrift_eq shown (Or.inl rfl) (wanted_eq describes)] at none
  have empty := Except.ok.inj none
  rw [secretFlags, List.append_eq_nil_iff, List.flatMap_eq_nil_iff, List.flatMap_eq_nil_iff]
    at empty
  rw [← mem_keys_ofPairs, ← mem_keys_ofPairs]
  constructor
  · intro live
    by_contra absent
    exact List.cons_ne_nil _ _ (empty.1 name ((mem_sortedDifference _ _ _).mpr ⟨live, absent⟩))
  · intro declared
    by_contra absent
    exact List.cons_ne_nil _ _ (empty.2 name ((mem_sortedDifference _ _ _).mpr ⟨declared, absent⟩))

/-- Options out of which docker reads every secret that is to be added are read as these
secrets, in some order. -/
theorem perm_of_read {added : List (String × String)}
    (isRead : readOptions swarm (toAdd py digest spec service) = some added)
    (inside : toAdd py digest spec service ⊆ added) :
    (toAdd py digest spec service).Perm added := by
  have counted := length_of_mapM isRead
  rw [List.length_map] at counted
  exact (nodup_toAdd.subperm inside).perm_of_length_le counted.le

theorem mounts_reached_iff :
    (∀ mount, mount ∈ mounts (updatedService py digest swarm spec ids
        (toAdd py digest spec service) service) ↔ mount ∈ spec.declared py digest) ↔
      MountsAgree (mounts service) (spec.declared py digest) := by
  rw [mounts_updated, ← mountsAgree_iff, toAdd]
  exact forall_congr' fun mount => by rw [mem_updatedMounts]

/-- Where the updated service has the declared mounts, docker read the secrets that were
to be added. -/
theorem toAdd_subset_of_reached {added : List (String × String)}
    (reached : ∀ mount, mount ∈ mounts (updatedService py digest swarm spec ids added service) ↔
      mount ∈ spec.declared py digest) : toAdd py digest spec service ⊆ added := by
  intro mount member
  obtain ⟨declared, absent⟩ := mem_toAdd member
  have after := (reached mount).mpr declared
  rw [mounts_updated, List.mem_append] at after
  rcases after with kept | here
  · exact absurd (List.mem_map_of_mem (List.mem_of_mem_filter kept)) absent
  · exact here

theorem mem_mounts_of_perm {first second : List (String × String)} (same : first.Perm second)
    (mount : String × String) :
    mount ∈ mounts (updatedService py digest swarm spec ids first service) ↔
      mount ∈ mounts (updatedService py digest swarm spec ids second service) := by
  rw [mounts_updated, mounts_updated, List.mem_append, List.mem_append, same.mem_iff]

theorem settles_of_reconciles (documented : swarm.Documented)
    (identifies : spec.Identifies swarm ids)
    (describes : spec.Describes py digest fields entries) (shown : PanelShown swarm service)
    (reconciles : Reconciles py digest swarm spec fields entries ids service) :
    Settles py digest swarm spec fields service := by
  obtain ⟨env, secrets, networks, after, found, updated, shape, _⟩ :=
    reconciles.updated service (Or.inl rfl)
  obtain ⟨rfl, rfl, rfl⟩ :=
    found.unique (drifts_eq documented identifies describes shown (Or.inl rfl))
  rw [update_eq identifies shown] at updated
  obtain ⟨added, isRead, rfl⟩ := Option.map_eq_some_iff.mp updated
  have inside := toAdd_subset_of_reached shape.secrets
  have targets : ∀ mount ∈ spec.declared py digest, '=' ∉ mount.2.toList := by
    intro mount declared equals
    obtain ⟨full, isFull, same⟩ := shape.env
    rw [fullEnv_eq describes] at isFull
    obtain rfl := Except.ok.inj isFull
    have live := (same (fileVariable mount.2)).trans (get_fullEnv declared)
    apply names_envOf (PyDict.mem_keys_of_get live)
    rw [fileVariable, String.toList_append]
    exact List.mem_append_left _ equals
  have agree := mounts_reached_iff.mp fun mount =>
    (mem_mounts_of_perm (perm_of_read isRead inside) mount).trans (shape.secrets mount)
  refine ⟨targets, ⟨_, isRead, inside⟩, agree, ?_⟩
  · intro argv read rendered image isRead
    obtain ⟨joined, isJoined, made⟩ := create_eq identifies describes rendered (.obj [])
    obtain ⟨last, isImage⟩ := Option.isSome_iff_exists.mp image
    rw [isImage, isRead, Option.bind_some, Option.map_some] at made
    have same := names_of_quiet describes
      (shown_created documented (fun mount member => (named_of_read documented isRead mount member).1)
        isJoined _ _) (reconciles.created argv (.obj []) _ rendered made)
    rwa [mounts, (itemsAt_withLists _ _ _).2.1, filterMap_mountItem] at same

/-- The panel reaches its declared shape and comes to rest exactly where its spec settles
on the live service. -/
theorem reconciles_iff (documented : swarm.Documented) (identifies : spec.Identifies swarm ids)
    (describes : spec.Describes py digest fields entries) (shown : PanelShown swarm service) :
    Reconciles py digest swarm spec fields entries ids service ↔
      Settles py digest swarm spec fields service := by
  constructor
  · exact settles_of_reconciles documented identifies describes shown
  · intro settles
    obtain ⟨added, isRead, inside⟩ := settles.added
    have mounted (mount : String × String) :
        mount ∈ mounts (updatedService py digest swarm spec ids added service) ↔
          mount ∈ spec.declared py digest :=
      (mem_mounts_of_perm (perm_of_read isRead inside).symm mount).trans
        (mounts_reached_iff.mpr settles.agree mount)
    have named : ∀ mount ∈ added, mount.1 ≠ "" := fun mount member =>
      (named_of_read documented isRead mount member).1
    have live := @get_liveEnv_updated py digest swarm spec ids service settles.targets added
    constructor
    · intro inspect shows
      refine ⟨_, _, _, _, drifts_eq documented identifies describes shown shows,
        by rw [update_eq identifies shown, isRead, Option.map_some], ?_, ?_⟩
      · constructor
        · exact ⟨_, fullEnv_eq describes, live⟩
        · exact mounted
        · exact mem_attached_updated identifies _
        · intro mount declared
          rw [live]
          exact ⟨get_fullEnv declared, List.mem_map_of_mem ((mounted mount).mpr declared)⟩
      · refine quiet_of_reached documented identifies describes
          (shown_updated identifies documented shown named) live ?_
          (mem_attached_updated identifies _)
        intro name
        rw [List.mem_map, List.mem_map]
        exact exists_congr fun mount => and_congr_left fun _ => mounted mount
    · intro argv base created rendered made
      obtain ⟨joined, isJoined, same⟩ := create_eq identifies describes rendered base
      rw [same] at made
      obtain ⟨last, isImage, made⟩ := Option.bind_eq_some_iff.mp made
      obtain ⟨read, isRead, rfl⟩ := Option.map_eq_some_iff.mp made
      exact quiet_withLists documented identifies describes settles.targets
        (fun mount member => (named_of_read documented isRead mount member).1)
        (settles.created argv read rendered (by rw [isImage]; rfl) isRead) isJoined base

end Created

/-! ### A panel -/

def sampleId : String := "x7c2q9w4k1m8"

/-- A docker with one network, whose options name a secret and a target. -/
def sampleSwarm : Swarm where
  secretOpt text :=
    match PyText.partition ',' text.toList with
    | some (source, target) =>
        match PyText.afterStart "source=".toList source,
          PyText.afterStart "target=".toList target with
        | some name, some target =>
            if name ≠ [] ∧ target ≠ [] ∧ ',' ∉ target then
              some (String.ofList name, String.ofList target)
            else none
        | _, _ => none
    | none => none
  networkId network :=
    if network = "catena-network" ∨ network = sampleId then some sampleId else none

/-- The options that are read hold a name and a target. -/
theorem sampleSwarm_secretOpt {text : String} {mount : String × String} :
    sampleSwarm.secretOpt text = some mount ↔
      text = secretOption mount.1 mount.2 ∧ mount.1 ≠ "" ∧ mount.2 ≠ "" ∧
        ',' ∉ mount.1.toList ∧ ',' ∉ mount.2.toList := by
  have written (name target : List Char) :
      (secretOption (String.ofList name) (String.ofList target)).toList =
        ("source=".toList ++ name) ++ ',' :: ("target=".toList ++ target) := by
    simp [secretOption]
  constructor
  · intro read
    simp only [sampleSwarm] at read
    split at read
    · rename_i source aim parts
      obtain ⟨whole, noComma⟩ := PyText.partition_eq_some.mp parts
      split at read
      · rename_i name target isSource isAim
        rw [PyText.afterStart_eq_some] at isSource isAim
        split at read
        · rename_i proper
          obtain rfl := Option.some.inj read
          rw [isSource, List.mem_append, not_or] at noComma
          refine ⟨?_, ?_, ?_, ?_, ?_⟩
          · rw [← String.toList_inj, written, whole, isSource, isAim]
          · simpa using proper.1
          · simpa using proper.2.1
          · simpa using noComma.2
          · simpa using proper.2.2
        · cases read
      · cases read
    · cases read
  · rintro ⟨rfl, named, aimed, noComma, lastComma⟩
    have parts : PyText.partition ',' (secretOption mount.1 mount.2).toList =
        some ("source=".toList ++ mount.1.toList, "target=".toList ++ mount.2.toList) := by
      refine PyText.partition_eq_some.mpr ⟨by simp [secretOption], ?_⟩
      rw [List.mem_append, not_or]
      exact ⟨by decide, noComma⟩
    have source : PyText.afterStart "source=".toList ("source=".toList ++ mount.1.toList) =
        some mount.1.toList := PyText.afterStart_eq_some.mpr rfl
    have aim : PyText.afterStart "target=".toList ("target=".toList ++ mount.2.toList) =
        some mount.2.toList := PyText.afterStart_eq_some.mpr rfl
    have proper : mount.1.toList ≠ [] ∧ mount.2.toList ≠ [] ∧ ',' ∉ mount.2.toList :=
      ⟨by simpa using named, by simpa using aimed, lastComma⟩
    simp only [sampleSwarm, parts, source, aim, if_pos proper, String.ofList_toList]

theorem sampleSwarm_documented : sampleSwarm.Documented := by
  constructor
  · intro name target plainName plainTarget
    exact sampleSwarm_secretOpt.mpr ⟨rfl, plainName.1, plainTarget.1,
      fun member => (plainName.2 ',' member).1 rfl, fun member => (plainTarget.2 ',' member).1 rfl⟩
  · intro text mount read
    obtain ⟨_, named, aimed, _⟩ := sampleSwarm_secretOpt.mp read
    exact ⟨named, aimed⟩
  · intro network id known
    simp only [sampleSwarm] at known ⊢
    split at known
    · cases known
      exact ⟨by simp, by decide, by decide⟩
    · cases known

/-- The one list of the sample that is printed holds one network. -/
def sampleBuiltins : Builtins where
  repr _ := "['catena-network']"
  loads _ := none

def sampleDigest : ValueDigest where
  of _ := "b08628fa"
  hex _ := by simp

def sampleSpec : PanelSpec where
  env := [("KEYCLOAK_REALM", .str "vps")]
  envKeys := by decide
  envNames := by decide
  secrets := [⟨"catena_admin_session_key", "CATENA_ADMIN_SESSION_KEY",
    some (.str "k3yk3yk3yk3yk3yk")⟩]
  targets := by decide
  networks := ["catena-network"]
  desired := []

def sampleEntries : List Json :=
  [.obj [("name", .str "catena_admin_session_key-b08628fa"),
    ("target", .str "CATENA_ADMIN_SESSION_KEY"), ("value", .str "k3yk3yk3yk3yk3yk")]]

def sampleFields : PyDict String Json :=
  [("name", .str "catena-admin"), ("image", .str "ghcr.io/catenahq/catena-admin:latest"),
    ("networks", .arr [.str "catena-network"]), ("ui_port", .str "9010"),
    ("direct_port", .str "8001"), ("group", .str "1000"),
    ("env", .obj [("KEYCLOAK_REALM", .str "vps")]), ("secrets", .arr sampleEntries),
    ("hardening", .arr [])]

theorem sample_describes :
    sampleSpec.Describes sampleBuiltins sampleDigest sampleFields sampleEntries where
  env := rfl
  resolved := by decide
  secrets := rfl
  networks := rfl
  hardening := ⟨[], rfl, rfl⟩

def sampleIds : PyDict String Json :=
  [("catena-network", .str sampleId)]

theorem sample_identifies : sampleSpec.Identifies sampleSwarm sampleIds where
  complete := by
    intro network member
    obtain rfl := List.mem_singleton.mp member
    exact ⟨sampleId, List.mem_singleton.mpr rfl⟩
  sound := by
    intro item member
    obtain rfl := List.mem_singleton.mp member
    exact ⟨List.mem_singleton.mpr rfl, sampleId, rfl, by simp [sampleSwarm]⟩

/-- A panel whose one secret is mounted at `target`. -/
def samplePanel (target : String) : Json :=
  withLists [.str "KEYCLOAK_REALM=vps",
      .str (assignment (fileVariable target) (secretMountDir ++ "/" ++ target))]
    [mountItem ("catena_admin_session_key-b08628fa", target)] [networkItem sampleId] (.obj [])

theorem samplePanel_shown (target : String) : PanelShown sampleSwarm (samplePanel target) := by
  apply shown_withLists
  · simp
  · intro item member
    obtain rfl := List.mem_singleton.mp member
    exact ⟨_, _, rfl, (by decide : "catena_admin_session_key-b08628fa" ≠ "")⟩
  · intro item member
    obtain rfl := List.mem_singleton.mp member
    exact ⟨sampleId, rfl, by simp [sampleSwarm]⟩

theorem mounts_samplePanel (target : String) :
    mounts (samplePanel target) = [("catena_admin_session_key-b08628fa", target)] := by
  rw [mounts, samplePanel, (itemsAt_withLists _ _ _).2.1]
  rfl

theorem declared_sampleSpec : sampleSpec.declared sampleBuiltins sampleDigest =
    [("catena_admin_session_key-b08628fa", "CATENA_ADMIN_SESSION_KEY")] := by
  decide

theorem sample_settles : Settles sampleBuiltins sampleDigest sampleSwarm sampleSpec
    sampleFields (samplePanel "CATENA_ADMIN_SESSION_KEY") := by
  apply settles_of_plain sampleSwarm_documented
  · rw [declared_sampleSpec]
    intro mount member
    obtain rfl := List.mem_singleton.mp member
    exact ⟨⟨by decide, by simp [Unquoted]⟩, ⟨by decide, by simp [Unquoted]⟩, by decide⟩
  · rw [mounts_samplePanel, declared_sampleSpec]
    exact fun name declared => ⟨fun _ _ => Iff.rfl, fun absent => absurd declared absent⟩

theorem sample_reconciles : Reconciles sampleBuiltins sampleDigest sampleSwarm sampleSpec
    sampleFields sampleEntries sampleIds (samplePanel "CATENA_ADMIN_SESSION_KEY") :=
  (reconciles_iff sampleSwarm_documented sample_identifies sample_describes
    (samplePanel_shown _)).mpr sample_settles

/-- A target was renamed and its value kept: the old mount stays. -/
theorem renamed_target_stays_unmounted :
    ¬ ∀ (py : Builtins) (digest : ValueDigest) (swarm : Swarm) (spec : PanelSpec)
        (fields : PyDict String Json) (entries : List Json) (ids : PyDict String Json)
        (service : Json),
      swarm.Documented → spec.Identifies swarm ids → spec.Describes py digest fields entries →
        PanelShown swarm service →
          Reconciles py digest swarm spec fields entries ids service := by
  intro claimed
  have reconciles := claimed sampleBuiltins sampleDigest sampleSwarm sampleSpec sampleFields
    sampleEntries sampleIds (samplePanel "CATENA_ADMIN_OLD_KEY") sampleSwarm_documented
    sample_identifies sample_describes (samplePanel_shown _)
  have agree := (settles_of_reconciles sampleSwarm_documented sample_identifies
    sample_describes (samplePanel_shown _) reconciles).agree
  rw [mounts_samplePanel, declared_sampleSpec] at agree
  have same := ((agree "catena_admin_session_key-b08628fa" (by decide)).1 (by decide)
    "CATENA_ADMIN_OLD_KEY").mp (by decide)
  revert same
  decide

end PanelService

end Catena

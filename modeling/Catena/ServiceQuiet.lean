import Catena.ServiceDocker

/-!
# A quiet drift

On a service as docker shows it the drift reads one live value for each field.
Where every declared duration is read exactly, the drift is empty just when
every declared field has the value the dict declares.
-/

namespace Catena

namespace SwarmService

/-- The object at a path, or the empty one. -/
def sectionAt (path : List String) (service : Json) : Json :=
  orEmpty ((Json.valueAt path service).getD (.obj []))

theorem fields_of_falsy {value : Json} (falsy : ¬ value.truthy = true) : value.fields = [] := by
  cases value with
  | obj items =>
      cases items with
      | nil => rfl
      | cons item rest => exact absurd rfl falsy
  | _ => rfl

theorem getOr_sectionAt {path : List String} {service : Json}
    (nested : ObjectOrEmpty (Json.valueAt path service)) (key : String) (fallback : Json) :
    getOr key fallback (sectionAt path service) =
      .ok ((Json.valueAt (path ++ [key]) service).getD fallback) := by
  have inner (value : Json) : Json.valueAt [key] value = PyDict.get value.fields key := by
    rw [Json.valueAt_cons]
    cases PyDict.get value.fields key <;> rfl
  rw [sectionAt, Json.valueAt_append]
  cases found : Json.valueAt path service with
  | none => rfl
  | some value =>
      rw [Option.bind_some, Option.getD_some, inner]
      by_cases truthy : value.truthy = true
      · obtain ⟨items, rfl⟩ := nested value found truthy
        rw [orEmpty, if_pos truthy]
        rfl
      · rw [orEmpty, if_neg truthy, fields_of_falsy truthy]
        rfl

theorem child_sectionAt {path : List String} {service : Json}
    (nested : ObjectOrEmpty (Json.valueAt path service)) (key : String) :
    child key (sectionAt path service) = .ok (sectionAt (path ++ [key]) service) := by
  rw [child, getOr_sectionAt nested]
  rfl

theorem Shown.sectionAt_nil {service : Json} (shown : Shown service) :
    sectionAt [] service = service := by
  obtain ⟨items, rfl⟩ := shown.isObject
  cases items <;> rfl

theorem Shown.root {service : Json} (shown : Shown service) :
    ObjectOrEmpty (Json.valueAt [] service) := by
  obtain ⟨items, rfl⟩ := shown.isObject
  intro found same _
  exact ⟨items, by simpa using same.symm⟩

def Field.read (py : Builtins) : Field → Json → Except FilterError Json
  | .limitMemory => bytesOf py
  | .reserveMemory => bytesOf py
  | .stopGracePeriod => nanosOf py
  | .monitor => nanosOf py
  | .healthInterval => nanosOf py
  | .healthRetries => countOf py
  | .healthStartPeriod => nanosOf py
  | _ => .ok

/-- The drift of one compared field. -/
def partOf (py : Builtins) (fields : PyDict String Json) (service : Json) (field : Field) :
    Except FilterError (List String) :=
  fieldDrift py fields field.key field.flag (.ok (field.live service)) (field.read py)

def imagePart (py : Builtins) (fields : PyDict String Json) (service : Json) :
    Except FilterError (List String) :=
  match PyDict.get fields "image" with
  | none => .ok []
  | some want =>
      .ok (if sameImage py (Field.image.live service) want then [] else ["--image", want.toText py])

def constraintsPart (py : Builtins) (fields : PyDict String Json) (service : Json) :
    Except FilterError (List String) :=
  match PyDict.get fields "constraints" with
  | none => .ok []
  | some listed => do
      let wanted ← iterate listed
      let want := wanted.map fun constraint => constraint.toText py
      .ok ((sortedDifference (liveConstraints service) want).flatMap
          (fun item => ["--constraint-rm", item]) ++
        (sortedDifference want (liveConstraints service)).flatMap
          fun item => ["--constraint-add", item])

def healthPart (py : Builtins) (fields : PyDict String Json) (service : Json) :
    Except FilterError (List String) :=
  match PyDict.get fields "health_cmd" with
  | none => .ok []
  | some command => do
      let changed := !Json.pyEq (Field.healthTest.live service) (healthTest (command.toText py))
      let changed ← orDiffers fields changed "health_interval"
        (.ok (Field.healthInterval.live service)) (nanosOf py)
      let changed ← orDiffers fields changed "health_retries"
        (.ok (Field.healthRetries.live service)) (countOf py)
      let changed ← orDiffers fields changed "health_start_period"
        (.ok (Field.healthStartPeriod.live service)) (nanosOf py)
      .ok (if changed then ["--health-cmd", command.toText py] ++ healthFlags py fields else [])

/-- The parts of the drift, with the live values they read. -/
def parts (py : Builtins) (fields : PyDict String Json) (service : Json) :
    List (Except FilterError (List String)) :=
  [imagePart py fields service, partOf py fields service .limitMemory,
    partOf py fields service .reserveMemory, partOf py fields service .stopGracePeriod,
    partOf py fields service .failureAction, partOf py fields service .monitor,
    partOf py fields service .order, constraintsPart py fields service,
    healthPart py fields service]

theorem pyEq_orEmptyList (value : Json) (command : String) :
    Json.pyEq (if value.truthy then value else .arr []) (healthTest command) =
      Json.pyEq value (healthTest command) := by
  by_cases truthy : value.truthy = true
  · rw [if_pos truthy]
  · rw [if_neg truthy]
    cases value with
    | arr items =>
        cases items with
        | nil => rfl
        | cons item rest => exact absurd rfl truthy
    | float value => cases value <;> simp [healthTest, Json.pyEq, Json.pyEqItems, Json.number]
    | _ => simp [healthTest, Json.pyEq, Json.pyEqItems, Json.number]

theorem texts_map_str (listed : List String) : texts (listed.map Json.str) = .ok listed := by
  induction listed with
  | nil => rfl
  | cons text rest ih =>
      rw [List.map_cons, texts, ih]
      rfl

theorem Shown.texts_eq {service : Json} (shown : Shown service) :
    (do
      let items ← iterate (if (Field.constraints.live service).truthy
        then Field.constraints.live service else .arr [])
      texts items) = .ok (liveConstraints service) := by
  by_cases truthy : (Field.constraints.live service).truthy = true
  · obtain ⟨listed, same⟩ := shown.constraints truthy
    rw [if_pos truthy, liveConstraints, same]
    simpa [iterate, bind, Except.bind, List.filterMap_map, Function.comp_def] using
      texts_map_str listed
  · rw [if_neg truthy, liveConstraints]
    cases found : Field.constraints.live service with
    | arr items =>
        rw [found] at truthy
        cases items with
        | nil => rfl
        | cons item rest => exact absurd rfl truthy
    | _ => rfl

/-- A part without flags adds nothing. -/
theorem joined_skip (front rest : List (Except FilterError (List String))) :
    joined (front ++ .ok [] :: rest) = joined (front ++ rest) := by
  induction front with
  | nil =>
      rw [List.nil_append, List.nil_append, joined]
      cases joined rest <;> rfl
  | cons part front ih => rw [List.cons_append, List.cons_append, joined, joined, ih]

section Parts

variable {py : Builtins} {fields : PyDict String Json} {service : Json}

theorem child_shown (shown : Shown service) {path : List String} (key : String)
    (nested : path ∈ sections) :
    child key (sectionAt path service) = .ok (sectionAt (path ++ [key]) service) :=
  child_sectionAt (shown.nested path nested) key

theorem getOr_live (shown : Shown service) (field : Field) {path : List String} {key : String}
    (split : path ++ [key] = field.path) (nested : path ∈ sections) :
    getOr key field.fallback (sectionAt path service) = .ok (field.live service) := by
  rw [getOr_sectionAt (shown.nested path nested), split]
  rfl

theorem imageDrift_eq (shown : Shown service) :
    imageDrift py fields (sectionAt ["Spec", "TaskTemplate", "ContainerSpec"] service) =
      imagePart py fields service := by
  have live : getOr "Image" (.str "") (sectionAt ["Spec", "TaskTemplate", "ContainerSpec"] service) =
      .ok (Field.image.live service) := getOr_live shown .image rfl (by decide)
  rw [imageDrift, imagePart, live]
  rfl

theorem limitDrift_eq (shown : Shown service) :
    memoryDrift py fields "limit_memory" "--limit-memory" "Limits"
        (sectionAt ["Spec", "TaskTemplate", "Resources"] service) =
      partOf py fields service .limitMemory := by
  have live : getOr "MemoryBytes" (.int 0)
      (sectionAt ["Spec", "TaskTemplate", "Resources", "Limits"] service) =
      .ok (Field.limitMemory.live service) := getOr_live shown .limitMemory rfl (by decide)
  have amounts : child "Limits" (sectionAt ["Spec", "TaskTemplate", "Resources"] service) =
      .ok (sectionAt ["Spec", "TaskTemplate", "Resources", "Limits"] service) :=
    child_shown shown "Limits" (by decide)
  rw [memoryDrift, amounts, partOf, ← live]
  rfl

theorem reserveDrift_eq (shown : Shown service) :
    memoryDrift py fields "reserve_memory" "--reserve-memory" "Reservations"
        (sectionAt ["Spec", "TaskTemplate", "Resources"] service) =
      partOf py fields service .reserveMemory := by
  have live : getOr "MemoryBytes" (.int 0)
      (sectionAt ["Spec", "TaskTemplate", "Resources", "Reservations"] service) =
      .ok (Field.reserveMemory.live service) := getOr_live shown .reserveMemory rfl (by decide)
  have amounts : child "Reservations" (sectionAt ["Spec", "TaskTemplate", "Resources"] service) =
      .ok (sectionAt ["Spec", "TaskTemplate", "Resources", "Reservations"] service) :=
    child_shown shown "Reservations" (by decide)
  rw [memoryDrift, amounts, partOf, ← live]
  rfl

theorem constraintsDrift_eq (shown : Shown service) :
    constraintsDrift py fields (sectionAt ["Spec", "TaskTemplate", "Placement"] service) =
      constraintsPart py fields service := by
  have live : getOr "Constraints" .null (sectionAt ["Spec", "TaskTemplate", "Placement"] service) =
      .ok (Field.constraints.live service) := getOr_live shown .constraints rfl (by decide)
  rw [constraintsDrift, constraintsPart, live]
  cases PyDict.get fields "constraints" with
  | none => rfl
  | some listed =>
      have read := shown.texts_eq
      simp only [bind, Except.bind] at read ⊢
      cases items : iterate (if (Field.constraints.live service).truthy
          then Field.constraints.live service else .arr []) with
      | error failure =>
          rw [items] at read
          cases read
      | ok found =>
          rw [items] at read
          simp only [read]

theorem healthDrift_eq (shown : Shown service) :
    healthDrift py fields (sectionAt ["Spec", "TaskTemplate", "ContainerSpec"] service) =
      healthPart py fields service := by
  have health : child "Healthcheck" (sectionAt ["Spec", "TaskTemplate", "ContainerSpec"] service) =
      .ok (sectionAt ["Spec", "TaskTemplate", "ContainerSpec", "Healthcheck"] service) :=
    child_shown shown "Healthcheck" (by decide)
  have test : getOr "Test" .null
      (sectionAt ["Spec", "TaskTemplate", "ContainerSpec", "Healthcheck"] service) =
      .ok (Field.healthTest.live service) := getOr_live shown .healthTest rfl (by decide)
  have interval : getOr "Interval" (.int 0)
      (sectionAt ["Spec", "TaskTemplate", "ContainerSpec", "Healthcheck"] service) =
      .ok (Field.healthInterval.live service) := getOr_live shown .healthInterval rfl (by decide)
  have retries : getOr "Retries" (.int 0)
      (sectionAt ["Spec", "TaskTemplate", "ContainerSpec", "Healthcheck"] service) =
      .ok (Field.healthRetries.live service) := getOr_live shown .healthRetries rfl (by decide)
  have startPeriod : getOr "StartPeriod" (.int 0)
      (sectionAt ["Spec", "TaskTemplate", "ContainerSpec", "Healthcheck"] service) =
      .ok (Field.healthStartPeriod.live service) := getOr_live shown .healthStartPeriod rfl (by decide)
  rw [healthDrift, healthPart, health]
  cases PyDict.get fields "health_cmd" with
  | none => rfl
  | some command =>
      simp only [bind, Except.bind, test, interval, retries, startPeriod, pyEq_orEmptyList]

end Parts

theorem drift_eq_joined {py : Builtins} {inspect : Json} {fields : PyDict String Json}
    (shown : Shown (first inspect))
    (noRatio : PyDict.get fields "update_max_failure_ratio" = none) :
    swarmServiceDrift py inspect (.obj fields) =
      joined (parts py fields (first inspect)) := by
  have spec : child "Spec" (first inspect) = .ok (sectionAt ["Spec"] (first inspect)) := by
    have entered := child_sectionAt shown.root "Spec"
    rwa [shown.sectionAt_nil] at entered
  have task : child "TaskTemplate" (sectionAt ["Spec"] (first inspect)) =
      .ok (sectionAt ["Spec", "TaskTemplate"] (first inspect)) :=
    child_shown shown "TaskTemplate" (by decide)
  have update : child "UpdateConfig" (sectionAt ["Spec"] (first inspect)) =
      .ok (sectionAt ["Spec", "UpdateConfig"] (first inspect)) :=
    child_shown shown "UpdateConfig" (by decide)
  have inTask (key : String) : child key (sectionAt ["Spec", "TaskTemplate"] (first inspect)) =
      .ok (sectionAt ["Spec", "TaskTemplate", key] (first inspect)) :=
    child_shown shown key (by decide)
  have grace : getOr "StopGracePeriod" (.int 0)
      (sectionAt ["Spec", "TaskTemplate", "ContainerSpec"] (first inspect)) =
      .ok (Field.stopGracePeriod.live (first inspect)) := getOr_live shown .stopGracePeriod rfl (by decide)
  have action : getOr "FailureAction" (.str "") (sectionAt ["Spec", "UpdateConfig"] (first inspect)) =
      .ok (Field.failureAction.live (first inspect)) := getOr_live shown .failureAction rfl (by decide)
  have monitor : getOr "Monitor" (.int 0) (sectionAt ["Spec", "UpdateConfig"] (first inspect)) =
      .ok (Field.monitor.live (first inspect)) := getOr_live shown .monitor rfl (by decide)
  have order : getOr "Order" (.str "") (sectionAt ["Spec", "UpdateConfig"] (first inspect)) =
      .ok (Field.order.live (first inspect)) := getOr_live shown .order rfl (by decide)
  have ratio (update : Json) : ratioDrift py fields update = .ok [] := by
    rw [ratioDrift, fieldDrift, noRatio]
  rw [swarmServiceDrift]
  simp only [spec, task, update, inTask, bind, Except.bind]
  rw [imageDrift_eq shown, limitDrift_eq shown, reserveDrift_eq shown,
    constraintsDrift_eq shown, healthDrift_eq shown, ratio, grace, action, monitor, order]
  exact joined_skip [_, _, _, _, _, _] [_, _, _]

theorem joined_eq_nil (flags : List (Except FilterError (List String))) :
    joined flags = .ok [] ↔ ∀ part ∈ flags, part = .ok [] := by
  induction flags with
  | nil => simp [joined]
  | cons part rest ih =>
      rw [joined, List.forall_mem_cons, ← ih]
      cases part with
      | error failure => simp [bind, Except.bind]
      | ok first =>
          cases joined rest with
          | error failure => simp [bind, Except.bind]
          | ok others => simp [bind, Except.bind]

/-- A declared value is read, and the live value equals it. -/
def ReadsEqual (fields : PyDict String Json) (key : String) (live : Json)
    (read : Json → Except FilterError Json) : Prop :=
  ∀ want, PyDict.get fields key = some want →
    ∃ meant, read want = .ok meant ∧ Json.pyEq live meant = true

section Empty

variable {py : Builtins} {fields : PyDict String Json} {service : Json}

theorem fieldDrift_eq_nil (key flag : String) (live : Json)
    (read : Json → Except FilterError Json) :
    fieldDrift py fields key flag (.ok live) read = .ok [] ↔ ReadsEqual fields key live read := by
  unfold fieldDrift ReadsEqual
  cases PyDict.get fields key with
  | none => simp
  | some want =>
      cases found : read want with
      | error failure => simp [differs, found, bind, Except.bind]
      | ok meant =>
          cases equal : Json.pyEq live meant <;> simp [differs, found, equal, bind, Except.bind]

theorem orDiffers_eq_false (changed : Bool) (key : String) (live : Json)
    (read : Json → Except FilterError Json) :
    orDiffers fields changed key (.ok live) read = .ok false ↔
      changed = false ∧ ReadsEqual fields key live read := by
  unfold orDiffers ReadsEqual
  cases changed with
  | true => simp
  | false =>
      cases PyDict.get fields key with
      | none => simp
      | some want =>
          cases found : read want with
          | error failure => simp [differs, found, bind, Except.bind]
          | ok meant => simp [differs, found, bind, Except.bind]

theorem imagePart_eq_nil :
    imagePart py fields service = .ok [] ↔
      ∀ want, PyDict.get fields "image" = some want →
        sameImage py (Field.image.live service) want = true := by
  unfold imagePart
  cases PyDict.get fields "image" with
  | none => simp
  | some want => cases sameImage py (Field.image.live service) want <;> simp

theorem healthPart_eq_nil {command : Json}
    (declared : PyDict.get fields "health_cmd" = some command) :
    healthPart py fields service = .ok [] ↔
      Json.pyEq (Field.healthTest.live service) (healthTest (command.toText py)) = true ∧
      ReadsEqual fields "health_interval" (Field.healthInterval.live service) (nanosOf py) ∧
      ReadsEqual fields "health_retries" (Field.healthRetries.live service) (countOf py) ∧
      ReadsEqual fields "health_start_period" (Field.healthStartPeriod.live service)
        (nanosOf py) := by
  have finish (changed : Except FilterError Bool) :
      (do
        let changed ← changed
        .ok (if changed then ["--health-cmd", command.toText py] ++ healthFlags py fields else [])) =
        Except.ok ([] : List String) ↔ changed = .ok false := by
    cases changed with
    | error failure => simp [bind, Except.bind]
    | ok changed => cases changed <;> simp [bind, Except.bind]
  have step (changed : Except FilterError Bool) (key : String) (live : Json)
      (read : Json → Except FilterError Json) :
      (do
        let changed ← changed
        orDiffers fields changed key (.ok live) read) = .ok false ↔
        changed = .ok false ∧ ReadsEqual fields key live read := by
    cases changed with
    | error failure => simp [bind, Except.bind]
    | ok changed => simpa [bind, Except.bind] using orDiffers_eq_false changed key live read
  have whole : healthPart py fields service = (do
      let changed ← (do
        let changed ← (do
          let changed ← orDiffers fields
            (!Json.pyEq (Field.healthTest.live service) (healthTest (command.toText py)))
            "health_interval" (.ok (Field.healthInterval.live service)) (nanosOf py)
          orDiffers fields changed "health_retries"
            (.ok (Field.healthRetries.live service)) (countOf py))
        orDiffers fields changed "health_start_period"
          (.ok (Field.healthStartPeriod.live service)) (nanosOf py))
      .ok (if changed then ["--health-cmd", command.toText py] ++ healthFlags py fields else [])) := by
    rw [healthPart, declared]
    simp only [bind_assoc]
  rw [whole, finish, step, step, orDiffers_eq_false]
  simp [and_assoc]

theorem sortedDifference_eq_nil (present unwanted : List String) :
    sortedDifference present unwanted = [] ↔ ∀ text ∈ present, text ∈ unwanted := by
  rw [sortedDifference, ← List.length_eq_zero_iff, List.length_mergeSort, List.length_eq_zero_iff,
    List.filter_eq_nil_iff]
  simp

theorem mem_sortedDifference (present unwanted : List String) (text : String) :
    text ∈ sortedDifference present unwanted ↔ text ∈ present ∧ text ∉ unwanted := by
  rw [sortedDifference, List.mem_mergeSort]
  simp

theorem constraintsPart_eq_nil {listed : List Json}
    (declared : PyDict.get fields "constraints" = some (.arr listed)) :
    constraintsPart py fields service = .ok [] ↔
      ∀ text, text ∈ liveConstraints service ↔
        text ∈ listed.map fun constraint => constraint.toText py := by
  have pairs (flag : String) (items : List String) :
      items.flatMap (fun item => [flag, item]) = [] ↔ items = [] := by
    cases items <;> simp
  rw [constraintsPart, declared]
  simp only [iterate, bind, Except.bind, Except.ok.injEq, List.append_eq_nil_iff, pairs,
    sortedDifference_eq_nil]
  constructor
  · intro both text
    exact ⟨both.1 text, both.2 text⟩
  · intro same
    exact ⟨fun text => (same text).mp, fun text => (same text).mpr⟩

end Empty

theorem beforeAt_eq_iff {want : String} (untagged : '@' ∉ want.toList) (text : String) :
    beforeAt text = want ↔ text = want ∨ ∃ digest : String, text = want ++ "@" ++ digest := by
  unfold beforeAt
  cases found : PyText.partition '@' text.toList with
  | none =>
      constructor
      · intro same
        exact Or.inl same
      · rintro (same | ⟨digest, rfl⟩)
        · exact same
        · have split : PyText.partition '@' (want ++ "@" ++ digest).toList =
              some (want.toList, digest.toList) := by
            rw [PyText.partition_eq_some]
            exact ⟨by simp, untagged⟩
          rw [split] at found
          cases found
  | some halves =>
      obtain ⟨before, after⟩ := halves
      rw [PyText.partition_eq_some] at found
      constructor
      · rintro rfl
        right
        use String.ofList after
        apply String.toList_injective
        simp [found.1]
      · rintro (rfl | ⟨digest, rfl⟩)
        · rw [found.1] at untagged
          simp at untagged
        · have split := PyText.partition_eq_some.mpr found
          have other : PyText.partition '@' (want ++ "@" ++ digest).toList =
              some (want.toList, digest.toList) := by
            rw [PyText.partition_eq_some]
            exact ⟨by simp, untagged⟩
          rw [other] at split
          simp only [Option.some.injEq, Prod.mk.injEq] at split
          simp [← split.1]

theorem sameImage_iff (py : Builtins) (text want : String) :
    sameImage py (.str text) (.str want) = true ↔ ImageAgrees (.str text) want := by
  have shape : sameImage py (.str text) (.str want) =
      if '@' ∈ want.toList then text == want else beforeAt text == want := rfl
  rw [shape]
  unfold ImageAgrees
  by_cases pinned : '@' ∈ want.toList
  · simp [pinned]
  · rw [if_neg pinned]
    simp only [pinned, not_false_eq_true, true_and, beq_iff_eq, Json.str.injEq]
    exact beforeAt_eq_iff pinned text

/-- What the drift reads of a declared duration. -/
theorem nanosOf_duration (py : Builtins) (duration : DurationText) :
    nanosOf py duration.json = Json.int <$> heldSum duration.parts := by
  rw [nanosOf, DurationText.json, asNanos_duration]

theorem bytesOf_size (py : Builtins) (size : SizeValue) :
    bytesOf py size.json = .ok (.int size.bytes) := by
  cases size with
  | number bytes small => rfl
  | text size small =>
      simp only [bytesOf, SizeValue.json, asBytes_size py size small]
      rfl

section Agreement

variable {py : Builtins} {fields : PyDict String Json} {desired : Desired} {service : Json}

/-- A duration the dict declares for a field. -/
theorem mem_durations {duration : DurationText} :
    duration ∈ desired.durations ↔
      desired.stopGracePeriod = some duration ∨ desired.monitor = some duration ∨
      desired.health.bind Health.interval = some duration ∨
      desired.health.bind Health.startPeriod = some duration := by
  simp only [Desired.durations, List.mem_append, Option.mem_toList, or_assoc]

theorem one_source {α : Type} {f g : α → Json} {found : Option α} {want meant : Json}
    (wants : found.map f = some want) (means : found.map g = some meant) :
    ∃ value, found = some value ∧ want = f value ∧ meant = g value := by
  cases found with
  | none => cases wants
  | some value => exact ⟨value, rfl, by simpa using wants.symm, by simpa using means.symm⟩

theorem read_eq_meant (exact : ∀ duration ∈ desired.durations, duration.Exact) {field : Field}
    {want meant : Json} (declared : desired.wanted field = some want)
    (means : desired.meant field = some meant) (notTest : field ≠ .healthTest) :
    field.read py want = .ok meant := by
  have nanos {duration : DurationText} (member : duration ∈ desired.durations) :
      nanosOf py duration.json = .ok (.int duration.nanos) := by
    rw [nanosOf_duration, exact duration member]
    rfl
  cases field with
  | image => cases means
  | limitMemory =>
      obtain ⟨size, -, rfl, rfl⟩ := one_source declared means
      exact bytesOf_size py size
  | reserveMemory =>
      obtain ⟨size, -, rfl, rfl⟩ := one_source declared means
      exact bytesOf_size py size
  | stopGracePeriod =>
      obtain ⟨duration, found, rfl, rfl⟩ := one_source declared means
      exact nanos (mem_durations.mpr (Or.inl found))
  | failureAction =>
      obtain ⟨action, -, rfl, rfl⟩ := one_source declared means
      rfl
  | monitor =>
      obtain ⟨duration, found, rfl, rfl⟩ := one_source declared means
      exact nanos (mem_durations.mpr (Or.inr (Or.inl found)))
  | failureRatio => cases means
  | order =>
      obtain ⟨order, -, rfl, rfl⟩ := one_source declared means
      rfl
  | constraints => cases means
  | healthTest => exact absurd rfl notTest
  | healthInterval =>
      obtain ⟨duration, found, rfl, rfl⟩ := one_source declared means
      exact nanos (mem_durations.mpr (Or.inr (Or.inr (Or.inl found))))
  | healthRetries =>
      obtain ⟨retries, -, rfl, rfl⟩ := one_source declared means
      rfl
  | healthStartPeriod =>
      obtain ⟨duration, found, rfl, rfl⟩ := one_source declared means
      exact nanos (mem_durations.mpr (Or.inr (Or.inr (Or.inr found))))

/-- The fields compared through their own key. -/
def compared : List Field :=
  [.limitMemory, .reserveMemory, .stopGracePeriod, .failureAction, .monitor, .order,
    .healthInterval, .healthRetries, .healthStartPeriod]

theorem wanted_isSome_iff {field : Field} (member : field ∈ compared) :
    (desired.wanted field).isSome = (desired.meant field).isSome := by
  simp only [compared, List.mem_cons, List.not_mem_nil, or_false] at member
  rcases member with rfl | rfl | rfl | rfl | rfl | rfl | rfl | rfl | rfl <;>
    simp only [Desired.wanted, Desired.meant, Option.isSome_map]

theorem wanted_of_meant {field : Field} {value : Json}
    (means : desired.meant field = some value) : ∃ want, desired.wanted field = some want := by
  by_cases member : field ∈ compared
  · have both := @wanted_isSome_iff desired field member
    rw [means, Option.isSome_some] at both
    exact Option.isSome_iff_exists.mp both
  · cases field with
    | healthTest =>
        obtain ⟨health, found, -⟩ := Option.map_eq_some_iff.mp means
        exact ⟨.str health.command, by simp [Desired.wanted, found]⟩
    | image => cases means
    | failureRatio => cases means
    | constraints => cases means
    | _ => exact absurd (by decide) member

/-- What an empty drift says of the live service. -/
structure Quiet (py : Builtins) (desired : Desired) (service : Json) : Prop where
  image : ∀ want, desired.image = some want → ImageAgrees (Field.image.live service) want
  constraints : ∀ texts, desired.constraintTexts py = some texts →
    ∀ text, text ∈ liveConstraints service ↔ text ∈ texts
  test : ∀ value, desired.meant .healthTest = some value →
    Json.pyEq (Field.healthTest.live service) value = true
  reads : ∀ field ∈ compared, ∀ want, desired.wanted field = some want →
    ∃ meant, field.read py want = .ok meant ∧ Json.pyEq (field.live service) meant = true

theorem readsEqual_iff (describes : desired.Describes fields) (field : Field) :
    ReadsEqual fields field.key (field.live service) (field.read py) ↔
      ∀ want, desired.wanted field = some want →
        ∃ meant, field.read py want = .ok meant ∧ Json.pyEq (field.live service) meant = true := by
  unfold ReadsEqual
  rw [describes field]

theorem imagePart_quiet (shown : Shown service) (describes : desired.Describes fields) :
    imagePart py fields service = .ok [] ↔
      ∀ want, desired.image = some want → ImageAgrees (Field.image.live service) want := by
  obtain ⟨text, live⟩ := shown.image
  have declared : PyDict.get fields "image" = desired.image.map Json.str := describes .image
  rw [imagePart_eq_nil, declared, live]
  constructor
  · intro same want found
    exact (sameImage_iff py text want).mp (same (.str want) (by simp [found]))
  · intro agrees value found
    obtain ⟨want, wanted, rfl⟩ := Option.map_eq_some_iff.mp found
    exact (sameImage_iff py text want).mpr (agrees want wanted)

theorem constraintsPart_quiet (describes : desired.Describes fields) :
    constraintsPart py fields service = .ok [] ↔
      ∀ texts, desired.constraintTexts py = some texts →
        ∀ text, text ∈ liveConstraints service ↔ text ∈ texts := by
  have declared : PyDict.get fields "constraints" = desired.constraints.map Json.arr :=
    describes .constraints
  cases found : desired.constraints with
  | none =>
      rw [found] at declared
      simp [constraintsPart, declared, Desired.constraintTexts, found]
  | some listed =>
      rw [found] at declared
      rw [constraintsPart_eq_nil declared]
      simp [Desired.constraintTexts, found]

theorem healthPart_quiet (describes : desired.Describes fields) :
    healthPart py fields service = .ok [] ↔
      (∀ value, desired.meant .healthTest = some value →
        Json.pyEq (Field.healthTest.live service) value = true) ∧
      ∀ field ∈ [Field.healthInterval, .healthRetries, .healthStartPeriod],
        ∀ want, desired.wanted field = some want →
          ∃ meant, field.read py want = .ok meant ∧
            Json.pyEq (field.live service) meant = true := by
  have declared : PyDict.get fields "health_cmd" =
      desired.health.map fun health => .str health.command := describes .healthTest
  cases found : desired.health with
  | none =>
      rw [found] at declared
      simp [healthPart, declared, Desired.meant, Desired.wanted, found]
  | some health =>
      rw [found] at declared
      have interval := @readsEqual_iff py fields desired service describes .healthInterval
      have retries := @readsEqual_iff py fields desired service describes .healthRetries
      have start := @readsEqual_iff py fields desired service describes .healthStartPeriod
      rw [healthPart_eq_nil declared]
      simp only [List.forall_mem_cons, List.not_mem_nil, false_implies, implies_true, and_true,
        ← interval, ← retries, ← start]
      simp [Desired.meant, found, healthTest, Json.toText, Field.key, Field.read]

/-- The drift of a service as docker shows it is empty just when it is
quiet. -/
theorem drift_eq_nil_iff {inspect : Json} (shown : Shown (first inspect))
    (describes : desired.Describes fields) :
    swarmServiceDrift py inspect (.obj fields) = .ok [] ↔
      Quiet py desired (first inspect) := by
  have plain (field : Field) : partOf py fields (first inspect) field = .ok [] ↔
      ∀ want, desired.wanted field = some want → ∃ meant, field.read py want = .ok meant ∧
        Json.pyEq (field.live (first inspect)) meant = true := by
    rw [partOf, fieldDrift_eq_nil, readsEqual_iff describes]
  rw [drift_eq_joined shown (describes .failureRatio), joined_eq_nil]
  simp only [parts, List.forall_mem_cons, List.not_mem_nil, false_implies, implies_true, and_true,
    plain, imagePart_quiet shown describes, constraintsPart_quiet describes,
    healthPart_quiet describes]
  constructor
  · rintro ⟨image, limit, reserve, grace, action, monitor, order, constraints, test, health⟩
    constructor
    · exact image
    · exact constraints
    · exact test
    · simp only [compared, List.forall_mem_cons, List.not_mem_nil, false_implies, implies_true,
        and_true]
      exact ⟨limit, reserve, grace, action, monitor, order, health⟩
  · intro quiet
    have reads := quiet.reads
    simp only [compared, List.forall_mem_cons, List.not_mem_nil, false_implies, implies_true,
      and_true] at reads
    obtain ⟨limit, reserve, grace, action, monitor, order, health⟩ := reads
    exact ⟨quiet.image, limit, reserve, grace, action, monitor, order, quiet.constraints,
      quiet.test, health⟩

theorem quiet_iff_agrees (exact : ∀ duration ∈ desired.durations, duration.Exact) :
    Quiet py desired service ↔ Agrees py desired service := by
  have notTest {field : Field} (member : field ∈ compared) : field ≠ .healthTest := by
    rintro rfl
    exact absurd member (by decide)
  constructor
  · intro quiet
    constructor
    · exact quiet.image
    · exact quiet.constraints
    · intro field value means
      by_cases member : field ∈ compared
      · obtain ⟨want, declared⟩ := wanted_of_meant means
        obtain ⟨meant, read, equal⟩ := quiet.reads field member want declared
        rw [read_eq_meant exact declared means (notTest member)] at read
        rwa [Except.ok.inj read]
      · cases field with
        | healthTest => exact quiet.test value means
        | image => cases means
        | failureRatio => cases means
        | constraints => cases means
        | _ => exact absurd (by decide) member
  · intro agrees
    constructor
    · exact agrees.image
    · exact agrees.constraints
    · exact agrees.others .healthTest
    · intro field member want declared
      have both := @wanted_isSome_iff desired field member
      rw [declared, Option.isSome_some] at both
      obtain ⟨value, means⟩ := Option.isSome_iff_exists.mp both.symm
      exact ⟨value, read_eq_meant exact declared means (notTest member),
        agrees.others field value means⟩

theorem pyEq_int_inj {live : Json} {first second : Int}
    (one : Json.pyEq live (.int first) = true) (other : Json.pyEq live (.int second) = true) :
    first = second := by
  cases live with
  | bool value => cases value <;> simp_all [Json.pyEq, Json.number]
  | float value => cases value <;> simp_all [Json.pyEq, Json.number]
  | _ => simp_all [Json.pyEq, Json.number]

/-- A service with the meant values is quiet only where the declared durations
are read exactly. -/
theorem exact_of_quiet (quiet : Quiet py desired service) (agrees : Agrees py desired service) :
    ∀ duration ∈ desired.durations, duration.Exact := by
  have exact (field : Field) {duration : DurationText} (member : field ∈ compared)
      (reads : field.read py = nanosOf py)
      (declared : desired.wanted field = some duration.json)
      (means : desired.meant field = some (.int duration.nanos)) : duration.Exact := by
    obtain ⟨meant, read, equal⟩ := quiet.reads field member _ declared
    have same := agrees.others field _ means
    rw [reads, nanosOf_duration] at read
    unfold DurationText.Exact
    cases sum : heldSum duration.parts with
    | error failure =>
        rw [sum] at read
        cases read
    | ok nanos =>
        rw [sum] at read
        rw [← Except.ok.inj read] at equal
        rw [pyEq_int_inj equal same]
  intro duration member
  rcases mem_durations.mp member with found | found | found | found
  · exact exact .stopGracePeriod (by decide) rfl (by simp [Desired.wanted, found])
      (by simp [Desired.meant, found])
  · exact exact .monitor (by decide) rfl (by simp [Desired.wanted, found])
      (by simp [Desired.meant, found])
  · exact exact .healthInterval (by decide) rfl (by simp [Desired.wanted, found])
      (by simp [Desired.meant, found])
  · exact exact .healthStartPeriod (by decide) rfl (by simp [Desired.wanted, found])
      (by simp [Desired.meant, found])

end Agreement

end SwarmService

end Catena

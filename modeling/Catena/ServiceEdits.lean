import Catena.ServiceQuiet

/-!
# What the flags leave behind

A command line is read as a list of edits.  Each sets one field, so the edits
that name only declared fields, and set them to what the dict means, leave a
service that agrees with the dict wherever it did or an edit names the field.
-/

namespace Catena

namespace SwarmService

/-- The command line of flags with their texts. -/
def flagsOf (pairs : List (String × String)) : List String :=
  pairs.flatMap fun pair => [pair.1, pair.2]

theorem flagsOf_append (first second : List (String × String)) :
    flagsOf (first ++ second) = flagsOf first ++ flagsOf second :=
  List.flatMap_append

/-- Some flag of the line makes this edit. -/
def Yields (docker : Docker) (pairs : List (String × String)) (edit : Edit) : Prop :=
  ∃ pair ∈ pairs, docker.edit pair.1 pair.2 = some edit

section Lines

variable {docker : Docker}

/-- A line is read just when each of its flags is. -/
theorem edits_isSome_iff (pairs : List (String × String)) :
    (docker.edits (flagsOf pairs)).isSome = true ↔
      ∀ pair ∈ pairs, (docker.edit pair.1 pair.2).isSome = true := by
  induction pairs with
  | nil => simp [flagsOf, Docker.edits]
  | cons pair rest ih =>
      have line : flagsOf (pair :: rest) = pair.1 :: pair.2 :: flagsOf rest := rfl
      rw [line, Docker.edits, List.forall_mem_cons, ← ih]
      cases docker.edit pair.1 pair.2 with
      | none => simp
      | some first =>
          cases docker.edits (flagsOf rest) with
          | none => simp
          | some others => simp

theorem mem_edits_iff {pairs : List (String × String)} {edits : List Edit}
    (read : docker.edits (flagsOf pairs) = some edits) (edit : Edit) :
    edit ∈ edits ↔ Yields docker pairs edit := by
  induction pairs generalizing edits with
  | nil =>
      have none : edits = [] := by simpa [flagsOf, Docker.edits] using read.symm
      simp [none, Yields]
  | cons pair rest ih =>
      have line : flagsOf (pair :: rest) = pair.1 :: pair.2 :: flagsOf rest := rfl
      rw [line, Docker.edits] at read
      cases found : docker.edit pair.1 pair.2 with
      | none =>
          rw [found] at read
          cases read
      | some first =>
          rw [found] at read
          cases later : docker.edits (flagsOf rest) with
          | none =>
              rw [later] at read
              cases read
          | some others =>
              rw [later] at read
              have same : edits = first :: others := by simpa using read.symm
              rw [same, List.mem_cons, ih later]
              simp [Yields, found, eq_comm]

theorem edit_flag {field : Field} (own : field ≠ .constraints) (text : String) :
    docker.edit field.flag text = (docker.reads field text).map (.set field) := by
  cases field with
  | constraints => exact absurd rfl own
  | _ => rfl

theorem edit_add (text : String) :
    docker.edit "--constraint-add" text = some (.addConstraint text) :=
  rfl

theorem edit_constraint (text : String) :
    docker.edit "--constraint" text = some (.addConstraint text) :=
  rfl

theorem edit_remove (text : String) :
    docker.edit "--constraint-rm" text = some (.removeConstraint text) :=
  rfl

end Lines

theorem valueAt_apply (edit : Edit) (service : Json) :
    Json.valueAt edit.field.path (edit.apply service) = some (edit.value service) :=
  Json.valueAt_setAt _ _ _

theorem valueAt_applyAll {edits : List Edit} {path : List String}
    (apart : ∀ edit ∈ edits, Apart edit.field.path path) (service : Json) :
    Json.valueAt path (applyAll edits service) = Json.valueAt path service := by
  induction edits generalizing service with
  | nil => rfl
  | cons edit rest ih =>
      rw [List.forall_mem_cons] at apart
      exact (ih apart.2 (edit.apply service)).trans (Json.valueAt_setAt_apart apart.1 _ _)

theorem live_apply_ne {edit : Edit} {field : Field} (different : edit.field ≠ field)
    (service : Json) : field.live (edit.apply service) = field.live service := by
  unfold Field.live Edit.apply
  rw [Json.valueAt_setAt_apart (Field.path_apart different)]

theorem live_apply (edit : Edit) (service : Json) :
    edit.field.live (edit.apply service) = edit.value service := by
  rw [Field.live, valueAt_apply, Option.getD_some]

/-- A field that no edit sets keeps its value. -/
theorem live_applyAll_kept {field : Field} {edits : List Edit}
    (unnamed : ∀ edit ∈ edits, edit.field ≠ field) (service : Json) :
    field.live (applyAll edits service) = field.live service := by
  unfold Field.live
  rw [valueAt_applyAll fun edit member => Field.path_apart (unnamed edit member)]

theorem live_applyAll_set {field : Field} {value : Json} {edits : List Edit}
    (only : ∀ edit ∈ edits, edit.field = field → ∀ current, edit.value current = value)
    (named : ∃ edit ∈ edits, edit.field = field) (service : Json) :
    field.live (applyAll edits service) = value := by
  induction edits generalizing service with
  | nil => simp at named
  | cons edit rest ih =>
      rw [List.forall_mem_cons] at only
      rw [applyAll, List.foldl_cons, ← applyAll]
      by_cases later : ∃ again ∈ rest, again.field = field
      · exact ih only.2 later (edit.apply service)
      · have unnamed : ∀ again ∈ rest, again.field ≠ field := fun again member same =>
          later ⟨again, member, same⟩
        rw [live_applyAll_kept unnamed]
        obtain ⟨found, member, rfl⟩ := named
        rcases List.mem_cons.mp member with rfl | member
        · rw [live_apply]
          exact only.1 rfl service
        · exact absurd rfl (unnamed found member)

theorem liveConstraints_of_items {service : Json} {items : List Json}
    (live : Field.constraints.live service = .arr items) (text : String) :
    text ∈ liveConstraints service ↔ Json.str text ∈ items := by
  rw [liveConstraints, live, List.mem_filterMap]
  constructor
  · rintro ⟨item, member, found⟩
    cases item with
    | str other =>
        have same : other = text := by simpa using found
        rwa [← same]
    | _ => cases found
  · intro member
    exact ⟨.str text, member, rfl⟩

theorem mem_liveConstraints (service : Json) (text : String) :
    text ∈ liveConstraints service ↔ Json.str text ∈ constraintItems service := by
  cases live : Field.constraints.live service with
  | arr items => rw [liveConstraints_of_items live, constraintItems, live]
  | _ => simp [liveConstraints, constraintItems, live]

theorem mem_liveConstraints_apply (edit : Edit) (service : Json)
    (own : ∀ value, edit ≠ .set .constraints value) (text : String) :
    text ∈ liveConstraints (edit.apply service) ↔
      (text ∈ liveConstraints service ∨ edit = .addConstraint text) ∧
        edit ≠ .removeConstraint text := by
  cases edit with
  | set field value =>
      have different : (Edit.set field value).field ≠ .constraints := by
        rintro rfl
        exact own value rfl
      rw [liveConstraints, live_apply_ne different, ← liveConstraints]
      simp
  | addConstraint added =>
      have live := live_apply (.addConstraint added) service
      simp only [Edit.field, Edit.value] at live
      rw [liveConstraints_of_items live, mem_liveConstraints, List.mem_append, List.mem_singleton,
        Json.str.injEq, Edit.addConstraint.injEq, @eq_comm _ added text]
      simp
  | removeConstraint removed =>
      have live := live_apply (.removeConstraint removed) service
      simp only [Edit.field, Edit.value] at live
      rw [liveConstraints_of_items live, mem_liveConstraints, List.mem_filter, decide_eq_true_iff,
        ne_eq, ne_eq, Json.str.injEq, Edit.removeConstraint.injEq, @eq_comm _ removed text]
      simp

/-- Where no constraint is both added and removed, the added ones are there
and the removed ones are not. -/
theorem mem_liveConstraints_applyAll {edits : List Edit}
    (own : ∀ value, Edit.set .constraints value ∉ edits) {text : String}
    (oneWay : ¬ (Edit.addConstraint text ∈ edits ∧ Edit.removeConstraint text ∈ edits))
    (service : Json) :
    text ∈ liveConstraints (applyAll edits service) ↔
      (text ∈ liveConstraints service ∨ Edit.addConstraint text ∈ edits) ∧
        Edit.removeConstraint text ∉ edits := by
  induction edits generalizing service with
  | nil => simp [applyAll]
  | cons edit rest ih =>
      have step := mem_liveConstraints_apply edit service
        (fun value same => own value (by simp [same])) text
      have later := ih (fun value member => own value (List.mem_cons_of_mem _ member))
        (fun both => oneWay ⟨List.mem_cons_of_mem _ both.1, List.mem_cons_of_mem _ both.2⟩)
        (edit.apply service)
      rw [applyAll, List.foldl_cons, ← applyAll, later, step]
      simp only [List.mem_cons, not_or] at oneWay ⊢
      grind

/-- An edit that keeps the service as docker shows it. -/
def Edit.Proper : Edit → Prop
  | set .constraints _ => False
  | set .image value => ∃ text, value = .str text
  | _ => True

theorem Shown.items {service : Json} (shown : Shown service) :
    ∃ texts : List String, constraintItems service = texts.map Json.str := by
  by_cases truthy : (Field.constraints.live service).truthy = true
  · obtain ⟨texts, live⟩ := shown.constraints truthy
    exact ⟨texts, by rw [constraintItems, live]⟩
  · use []
    rw [constraintItems]
    cases live : Field.constraints.live service with
    | arr items =>
        rw [live] at truthy
        cases items with
        | nil => rfl
        | cons item rest => exact absurd rfl truthy
    | _ => rfl

theorem sections_split (field : Field) {path : List String} (member : path ∈ sections) :
    (path <+: field.path ∧ path ≠ field.path) ∨ Apart field.path path := by
  have every : ∀ one ∈ Field.all, ∀ other ∈ sections,
      (other <+: one.path ∧ other ≠ one.path) ∨ Apart one.path other := by
    decide +kernel
  exact every field (Field.mem_all field) path member

theorem Shown.apply {service : Json} (shown : Shown service) {edit : Edit}
    (proper : edit.Proper) : Shown (edit.apply service) := by
  constructor
  · unfold Edit.apply
    cases edit.field <;> exact ⟨_, rfl⟩
  · intro path member
    rcases sections_split edit.field member with ⟨starts, shorter⟩ | apart
    · obtain ⟨items, found⟩ := Json.valueAt_setAt_prefix starts shorter (edit.value service) service
      intro value same _
      rw [Edit.apply, found] at same
      exact ⟨items, by simpa using same.symm⟩
    · unfold Edit.apply
      rw [Json.valueAt_setAt_apart apart]
      exact shown.nested path member
  · by_cases here : edit.field = .image
    · cases edit with
      | set field value =>
          have same : field = .image := here
          subst same
          obtain ⟨text, rfl⟩ := proper
          exact ⟨text, live_apply (.set .image (.str text)) service⟩
      | addConstraint text => cases here
      | removeConstraint text => cases here
    · rw [live_apply_ne here]
      exact shown.image
  · by_cases here : edit.field = .constraints
    · obtain ⟨texts, items⟩ := shown.items
      intro _
      cases edit with
      | set field value =>
          have same : field = .constraints := here
          subst same
          exact proper.elim
      | addConstraint text =>
          use texts ++ [text]
          have live := live_apply (.addConstraint text) service
          simpa [Edit.field, Edit.value, items] using live
      | removeConstraint text =>
          use texts.filter fun other => other ≠ text
          have live := live_apply (.removeConstraint text) service
          simpa [Edit.field, Edit.value, items, List.filter_map, Function.comp_def] using live
    · rw [live_apply_ne here]
      exact shown.constraints

theorem Shown.applyAll {edits : List Edit} (proper : ∀ edit ∈ edits, edit.Proper)
    {service : Json} (shown : Shown service) : Shown (applyAll edits service) := by
  induction edits generalizing service with
  | nil => exact shown
  | cons edit rest ih =>
      rw [List.forall_mem_cons] at proper
      exact ih proper.2 (shown.apply proper.1)

section Following

variable (py : Builtins) (docker : Docker) (desired : Desired)

/-- An edit that leaves nothing a dict does not mean. -/
def Edit.Follows : Edit → Prop
  | set .constraints _ => False
  | set .image value => (∃ text, value = .str text) ∧
      ∀ want, desired.image = some want → value = .str (docker.resolve want)
  | set field value => ∀ meant, desired.meant field = some meant → value = meant
  | addConstraint text => ∀ texts, desired.constraintTexts py = some texts → text ∈ texts
  | removeConstraint text => ∀ texts, desired.constraintTexts py = some texts → text ∉ texts

/-- Every declared field agrees with the dict or is named by an edit. -/
structure Covers (yields : Edit → Prop) (service : Json) : Prop where
  image : ∀ want, desired.image = some want → ImageAgrees (Field.image.live service) want ∨
    yields (.set .image (.str (docker.resolve want)))
  added : ∀ texts, desired.constraintTexts py = some texts → ∀ text ∈ texts,
    text ∈ liveConstraints service ∨ yields (.addConstraint text)
  removed : ∀ texts, desired.constraintTexts py = some texts →
    ∀ text ∈ liveConstraints service, text ∉ texts → yields (.removeConstraint text)
  others : ∀ field value, desired.meant field = some value →
    Json.pyEq (field.live service) value = true ∨ yields (.set field value)

end Following

section Agreement

variable {py : Builtins} {docker : Docker} {desired : Desired}

theorem Edit.Follows.proper {edit : Edit} (follows : edit.Follows py docker desired) :
    edit.Proper := by
  cases edit with
  | set field value =>
      cases field with
      | constraints => exact follows
      | image => exact follows.1
      | _ => trivial
  | addConstraint text => trivial
  | removeConstraint text => trivial

theorem resolve_agrees (documented : docker.Documented py) (want : String) :
    ImageAgrees (.str (docker.resolve want)) want := by
  by_cases pinned : '@' ∈ want.toList
  · rw [documented.resolve_pinned want pinned]
    exact Or.inl rfl
  · rcases documented.resolve_tagged want pinned with same | ⟨digest, same⟩
    · rw [same]
      exact Or.inl rfl
    · rw [same]
      exact Or.inr ⟨pinned, digest, rfl⟩

/-- A meant value equals itself. -/
theorem pyEq_meant {field : Field} {value : Json} (means : desired.meant field = some value) :
    Json.pyEq value value = true := by
  have number (count : Int) : Json.pyEq (.int count) (.int count) = true := by
    simp [Json.pyEq, Json.number]
  have text (written : String) : Json.pyEq (.str written) (.str written) = true := by
    simp [Json.pyEq]
  cases field with
  | image => cases means
  | failureRatio => cases means
  | constraints => cases means
  | failureAction =>
      obtain ⟨action, -, rfl⟩ := Option.map_eq_some_iff.mp means
      exact text action
  | order =>
      obtain ⟨order, -, rfl⟩ := Option.map_eq_some_iff.mp means
      exact text order
  | healthTest =>
      obtain ⟨health, -, rfl⟩ := Option.map_eq_some_iff.mp means
      simp [Json.pyEq, Json.pyEqItems]
  | _ =>
      obtain ⟨found, -, rfl⟩ := Option.map_eq_some_iff.mp means
      exact number _

/-- Edits that follow a dict and cover it leave a service that agrees with
it. -/
theorem agrees_applyAll (documented : docker.Documented py) {edits : List Edit}
    (follows : ∀ edit ∈ edits, edit.Follows py docker desired) {service : Json}
    (covers : Covers py docker desired (· ∈ edits) service) :
    Agrees py desired (applyAll edits service) := by
  have noSet : ∀ value, Edit.set .constraints value ∉ edits := fun value member =>
    follows _ member
  constructor
  · intro want declared
    have sets {edit : Edit} (member : edit ∈ edits) (here : edit.field = .image)
        (current : Json) : edit.value current = .str (docker.resolve want) := by
      have follow := follows edit member
      cases edit with
      | set field value =>
          have same : field = .image := here
          subst same
          exact follow.2 want declared
      | addConstraint text => cases here
      | removeConstraint text => cases here
    by_cases named : ∃ edit ∈ edits, edit.field = .image
    · rw [live_applyAll_set (fun edit member here current => sets member here current) named]
      exact resolve_agrees documented want
    · rw [live_applyAll_kept fun edit member here => named ⟨edit, member, here⟩]
      rcases covers.image want declared with agrees | member
      · exact agrees
      · exact absurd ⟨_, member, rfl⟩ named
  · intro texts declared text
    have oneWay : ¬ (Edit.addConstraint text ∈ edits ∧ Edit.removeConstraint text ∈ edits) :=
      fun both => follows _ both.2 texts declared (follows _ both.1 texts declared)
    rw [mem_liveConstraints_applyAll noSet oneWay]
    constructor
    · rintro ⟨live | added, kept⟩
      · by_contra absent
        exact kept (covers.removed texts declared text live absent)
      · exact follows _ added texts declared
    · intro wanted
      exact ⟨covers.added texts declared text wanted,
        fun removed => follows _ removed texts declared wanted⟩
  · intro field value means
    have sets {edit : Edit} (member : edit ∈ edits) (here : edit.field = field)
        (current : Json) : edit.value current = value := by
      have follow := follows edit member
      cases edit with
      | set other found =>
          have same : other = field := here
          subst same
          cases other with
          | image => cases means
          | constraints => cases means
          | failureRatio => cases means
          | _ => exact follow value means
      | addConstraint text =>
          rw [← show Field.constraints = field from here] at means
          cases means
      | removeConstraint text =>
          rw [← show Field.constraints = field from here] at means
          cases means
    by_cases named : ∃ edit ∈ edits, edit.field = field
    · rw [live_applyAll_set (fun edit member here current => sets member here current) named]
      exact pyEq_meant means
    · rw [live_applyAll_kept fun edit member here => named ⟨edit, member, here⟩]
      rcases covers.others field value means with equal | member
      · exact equal
      · exact absurd ⟨_, member, rfl⟩ named

end Agreement

end SwarmService

end Catena

import Catena.PyJson

/-!
# Paths into JSON objects

A path names a value inside nested objects.  Setting one path is read back
there, and every path that neither extends it nor is extended by it keeps its
value.
-/

/-- Two paths of which neither extends the other. -/
def Apart {K : Type*} (first second : List K) : Prop :=
  ¬ first <+: second ∧ ¬ second <+: first

instance {K : Type*} [DecidableEq K] (first second : List K) : Decidable (Apart first second) :=
  inferInstanceAs (Decidable (_ ∧ _))

theorem apart_cons_iff {K : Type*} (key other : K) (first second : List K) :
    Apart (key :: first) (other :: second) ↔ (key = other → Apart first second) := by
  unfold Apart
  rw [List.cons_prefix_cons, List.cons_prefix_cons]
  constructor
  · rintro apart rfl
    simpa using apart
  · intro behind
    by_cases same : key = other
    · subst same
      simpa using behind rfl
    · simp [same, Ne.symm same]

namespace Json

/-- The fields of an object; any other value has none. -/
def fields : Json → PyDict String Json
  | obj items => items
  | _ => []

/-- The value at a path, if the objects on the way have its keys. -/
def valueAt : List String → Json → Option Json
  | [], value => some value
  | key :: rest, value => (PyDict.get value.fields key).bind (valueAt rest)

/-- Set the value at a path, with the missing objects on the way made. -/
def setAt : List String → Json → Json → Json
  | [], leaf, _ => leaf
  | key :: rest, leaf, value =>
      obj (PyDict.set value.fields key
        (setAt rest leaf ((PyDict.get value.fields key).getD (obj []))))

@[simp]
theorem valueAt_nil (value : Json) : valueAt [] value = some value :=
  rfl

theorem valueAt_cons (key : String) (rest : List String) (value : Json) :
    valueAt (key :: rest) value = (PyDict.get value.fields key).bind (valueAt rest) :=
  rfl

theorem valueAt_append (first second : List String) (value : Json) :
    valueAt (first ++ second) value = (valueAt first value).bind (valueAt second) := by
  induction first generalizing value with
  | nil => rfl
  | cons key rest ih =>
      rw [List.cons_append, valueAt_cons, valueAt_cons]
      cases PyDict.get value.fields key with
      | none => rfl
      | some inner => exact ih inner

/-- No path leads out of an empty object. -/
theorem valueAt_empty {path : List String} (nonempty : path ≠ []) :
    valueAt path (obj []) = none := by
  cases path with
  | nil => exact absurd rfl nonempty
  | cons key rest => rfl

@[simp]
theorem valueAt_setAt (path : List String) (leaf value : Json) :
    valueAt path (setAt path leaf value) = some leaf := by
  induction path generalizing value with
  | nil => rfl
  | cons key rest ih => simp [setAt, valueAt, fields, ih]

theorem valueAt_setAt_apart {path other : List String} (apart : Apart path other)
    (leaf value : Json) : valueAt other (setAt path leaf value) = valueAt other value := by
  induction path generalizing other value with
  | nil => exact absurd (List.nil_prefix) apart.1
  | cons key rest ih =>
      cases other with
      | nil => exact absurd (List.nil_prefix) apart.2
      | cons wanted others =>
          rw [setAt, valueAt_cons, valueAt_cons, fields, PyDict.get_set]
          by_cases same : key = wanted
          · subst same
            have behind := (apart_cons_iff key key rest others).mp apart rfl
            rw [if_pos rfl, Option.bind_some, ih behind]
            cases PyDict.get value.fields key with
            | none =>
                apply valueAt_empty
                rintro rfl
                exact behind.2 List.nil_prefix
            | some inner => rfl
          · rw [if_neg same]

theorem valueAt_setAt_prefix {path front : List String} (starts : front <+: path)
    (proper : front ≠ path) (leaf value : Json) :
    ∃ items, valueAt front (setAt path leaf value) = some (obj items) := by
  induction path generalizing front value with
  | nil => exact absurd (List.prefix_nil.mp starts) proper
  | cons key rest ih =>
      cases front with
      | nil => exact ⟨_, rfl⟩
      | cons first others =>
          rw [List.cons_prefix_cons] at starts
          obtain ⟨rfl, starts⟩ := starts
          have proper : others ≠ rest := fun same => proper (by rw [same])
          simpa [setAt, valueAt_cons, fields] using ih starts proper _

end Json

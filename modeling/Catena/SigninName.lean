import Catena.PyDict
import Catena.PyTextForms
import Catena.Runs
import Mathlib

/-!
# The name of the sign-in page

A converge moves the sign-in page to the domain's name while both forms of the
page hold the name the realm's record says Catena wrote.  Over any number of
domains and hand changes the record stays the last name Catena wrote, so a
page that was renamed by hand is left alone until it is set back.
-/

namespace Catena

namespace SigninName

open Runs

/-- What the filter reads of the realm's representation. -/
structure Realm where
  displayName : Option String
  displayNameHtml : Option String
  attributes : PyDict String String
  deriving DecidableEq

def keycloakSigninNameHtml (name : String) : String :=
  "<b>" ++ name ++ "</b>"

def forms (name : String) : String × String :=
  (name, keycloakSigninNameHtml name)

/-- The two forms the page has. -/
def Realm.current (realm : Realm) : String × String :=
  (realm.displayName.getD "", realm.displayNameHtml.getD "")

/-- `(realm.get("attributes") or {}).get(attribute)`. -/
def Realm.recorded (realm : Realm) (attributeName : String) : Option String :=
  PyDict.get realm.attributes attributeName

/-- What a `-s` argument sets. -/
inductive Field where
  | displayName
  | displayNameHtml
  | attributes (name : String)
  deriving DecidableEq

def Field.path : Field → String
  | .displayName => "displayName"
  | .displayNameHtml => "displayNameHtml"
  | .attributes name => "attributes." ++ name

/-- `catenas`: the page holds a name Catena wrote. -/
def catenas (realm : Realm) (name attributeName : String) : Bool :=
  match realm.recorded attributeName with
  | none => realm.current = forms name || realm.current = forms ""
  | some recorded => realm.current = forms recorded

/-- The fields to set, each with its text. -/
def sets (realm : Realm) (name attributeName : String) : List (Field × String) :=
  let name := PyText.strip name
  if name = "" then []
  else if !catenas realm name attributeName ||
      (realm.recorded attributeName = some name && realm.current = forms name) then []
  else [(.displayName, name), (.displayNameHtml, keycloakSigninNameHtml name),
    (.attributes attributeName, name)]

/-- The arguments for a list of fields, with `json.dumps`. -/
def arguments (dumps : String → String) (fields : List (Field × String)) : List String :=
  fields.flatMap fun (field, value) => ["-s", field.path ++ "=" ++ dumps value]

def keycloakSigninNameSets (dumps : String → String) (realm : Realm) (name attributeName : String) :
    List String :=
  arguments dumps (sets realm name attributeName)

/-- One field of the realm takes a new text. -/
def Realm.assign (realm : Realm) : Field × String → Realm
  | (.displayName, value) => { realm with displayName := some value }
  | (.displayNameHtml, value) => { realm with displayNameHtml := some value }
  | (.attributes name, value) => { realm with attributes := PyDict.set realm.attributes name value }

/-- `kcadm` reads a path up to its `=` and takes its parts between full stops,
so the name of an attribute holds neither. -/
def Field.IsPlain : Field → Prop
  | .attributes name => '.' ∉ name.toList ∧ '=' ∉ name.toList
  | _ => True

/-- Keycloak's `kcadm update realms/<realm>` on the realm it reads, with the
`json.dumps` whose texts it takes as they are. -/
structure Kcadm where
  dumps : String → String
  update : Realm → List String → Realm
  update_arguments : ∀ realm fields, (∀ field ∈ fields, field.1.IsPlain) →
    update realm (arguments dumps fields) = fields.foldl Realm.assign realm

/-- `keycloak_realm_display_name_attribute`. -/
def displayNameAttribute : String := "catenaDisplayName"

/-- What happens to the realm. -/
inductive Event where
  | converge (name : String)
  | displayName (value : Option String)
  | displayNameHtml (value : Option String)

def Event.isHand : Event → Bool
  | .converge _ => false
  | _ => true

/-- The realm, the last name Catena wrote, and whether the page was changed by
hand since. -/
structure State where
  realm : Realm
  written : String
  touched : Bool

section Steps

variable (kcadm : Kcadm)

/-- The page-name task of a converge. -/
def converge (realm : Realm) (name : String) : Realm :=
  let found := keycloakSigninNameSets kcadm.dumps realm name displayNameAttribute
  if 0 < found.length then kcadm.update realm found else realm

/-- What a converge makes of the realm, and of what is known about it. -/
def converged (state : State) (name : String) : State :=
  if 0 < (keycloakSigninNameSets kcadm.dumps state.realm name displayNameAttribute).length then
    ⟨converge kcadm state.realm name, PyText.strip name, false⟩
  else { state with realm := converge kcadm state.realm name }

def step (state : State) : Event → State
  | .converge name => converged kcadm state name
  | .displayName value =>
      { state with realm := { state.realm with displayName := value }, touched := true }
  | .displayNameHtml value =>
      { state with realm := { state.realm with displayNameHtml := value }, touched := true }

def Realm.IsAt (realm : Realm) (name : String) : Prop :=
  realm.current = forms name ∧ realm.recorded displayNameAttribute = some name

theorem length_keycloakSigninNameSets (dumps : String → String) (realm : Realm)
    (name attributeName : String) :
    0 < (keycloakSigninNameSets dumps realm name attributeName).length ↔
      sets realm name attributeName ≠ [] := by
  rw [keycloakSigninNameSets]
  cases sets realm name attributeName with
  | nil => simp [arguments]
  | cons field rest => simp [arguments]

/-- The fields to set are none, or the three of the name where the page is
Catena's. -/
theorem sets_cases (realm : Realm) (name attributeName : String) :
    sets realm name attributeName = [] ∨
      PyText.strip name ≠ "" ∧
        sets realm name attributeName = [(.displayName, PyText.strip name),
          (.displayNameHtml, keycloakSigninNameHtml (PyText.strip name)),
          (.attributes attributeName, PyText.strip name)] ∧
        ∀ recorded, realm.recorded attributeName = some recorded →
          realm.current = forms recorded := by
  unfold sets
  simp only
  split
  · exact Or.inl rfl
  · rename_i given
    split
    · exact Or.inl rfl
    · rename_i moves
      right
      refine ⟨given, rfl, ?_⟩
      intro recorded found
      simp only [Bool.or_eq_true, Bool.not_eq_true', not_or, Bool.not_eq_false] at moves
      have page := moves.1
      rw [catenas, found] at page
      simpa using page

theorem sets_eq_nil_of_page {realm : Realm} {recorded : String} {attributeName : String}
    (found : realm.recorded attributeName = some recorded)
    (other : realm.current ≠ forms recorded) (name : String) :
    sets realm name attributeName = [] := by
  rcases sets_cases realm name attributeName with none | ⟨-, -, page⟩
  · exact none
  · exact absurd (page recorded found) other

/-- Nothing is left to set at the name itself. -/
theorem sets_eq_nil_of_name {realm : Realm} {name attributeName : String}
    (found : realm.recorded attributeName = some (PyText.strip name))
    (page : realm.current = forms (PyText.strip name)) : sets realm name attributeName = [] := by
  simp [sets, catenas, found, page]

/-- Where the page is the recorded name's, all three are set to another name. -/
theorem sets_of_page {realm : Realm} {recorded name attributeName : String}
    (found : realm.recorded attributeName = some recorded)
    (page : realm.current = forms recorded) (given : PyText.strip name ≠ "")
    (other : recorded ≠ PyText.strip name) : sets realm name attributeName ≠ [] := by
  simp [sets, catenas, found, page, given, other]

/-- Setting the three fields leaves the realm at the name. -/
theorem update_sets (realm : Realm) {name attributeName : String}
    (plain : (Field.attributes attributeName).IsPlain) :
    ∃ after, kcadm.update realm (arguments kcadm.dumps [(.displayName, name),
        (.displayNameHtml, keycloakSigninNameHtml name), (.attributes attributeName, name)]) =
      after ∧ after.current = forms name ∧ after.recorded attributeName = some name := by
  refine ⟨_, rfl, ?_⟩
  rw [kcadm.update_arguments]
  · simp only [List.foldl_cons, List.foldl_nil, Realm.assign, Realm.recorded, Realm.current]
    exact ⟨rfl, PyDict.get_set_same _ _ _⟩
  · intro field member
    simp only [List.mem_cons, List.not_mem_nil, or_false] at member
    rcases member with rfl | rfl | rfl
    · trivial
    · trivial
    · exact plain

theorem displayNameAttribute_plain : (Field.attributes displayNameAttribute).IsPlain := by
  constructor
  · decide
  · decide

/-- A converge leaves the realm, or writes the name to all three where the
page is the recorded name's. -/
theorem converge_cases (realm : Realm) (name : String) :
    (sets realm name displayNameAttribute = [] ∧ converge kcadm realm name = realm) ∨
      (sets realm name displayNameAttribute ≠ [] ∧ PyText.strip name ≠ "" ∧
        (converge kcadm realm name).IsAt (PyText.strip name) ∧
        ∀ recorded, realm.recorded displayNameAttribute = some recorded →
          realm.current = forms recorded) := by
  rcases sets_cases realm name displayNameAttribute with none | ⟨given, all, page⟩
  · left
    refine ⟨none, ?_⟩
    simp only [converge]
    rw [if_neg]
    rw [length_keycloakSigninNameSets, none]
    exact not_not.mpr rfl
  · right
    obtain ⟨after, updated, current, recorded⟩ :=
      @update_sets kcadm realm (PyText.strip name) displayNameAttribute displayNameAttribute_plain
    have moved : converge kcadm realm name = after := by
      simp only [converge]
      rw [if_pos]
      · rw [keycloakSigninNameSets, all, updated]
      · rw [length_keycloakSigninNameSets, all]
        simp
    rw [moved]
    exact ⟨by rw [all]; simp, given, ⟨current, recorded⟩, page⟩

/-- The record is the last name Catena wrote, and the page is that name's
until it is changed by hand. -/
structure Recorded (state : State) : Prop where
  recorded : state.realm.recorded displayNameAttribute = some state.written
  page : state.touched = false → state.realm.current = forms state.written

theorem converged_cases (state : State) (name : String) :
    (sets state.realm name displayNameAttribute = [] ∧ converged kcadm state name = state) ∨
      (sets state.realm name displayNameAttribute ≠ [] ∧ converged kcadm state name =
        ⟨converge kcadm state.realm name, PyText.strip name, false⟩) := by
  unfold converged
  rcases converge_cases kcadm state.realm name with ⟨none, same⟩ | ⟨some, -⟩
  · left
    refine ⟨none, ?_⟩
    rw [if_neg, same]
    rw [length_keycloakSigninNameSets, none]
    exact not_not.mpr rfl
  · right
    rw [if_pos ((length_keycloakSigninNameSets ..).mpr some)]
    exact ⟨some, rfl⟩

theorem recorded_converged {state : State} (recorded : Recorded state) (name : String) :
    Recorded (converged kcadm state name) := by
  rcases converged_cases kcadm state name with ⟨-, same⟩ | ⟨some, moved⟩
  · rw [same]
    exact recorded
  · rw [moved]
    rcases converge_cases kcadm state.realm name with ⟨none, -⟩ | ⟨-, -, isAt, -⟩
    · exact absurd none some
    · obtain ⟨page, isRecorded⟩ := isAt
      constructor
      · simpa only using isRecorded
      · intro untouched
        simpa only using page

theorem recorded_step (state : State) (event : Event) (recorded : Recorded state) :
    Recorded (step kcadm state event) := by
  cases event with
  | converge name => exact recorded_converged kcadm recorded name
  | displayName value =>
      constructor
      · exact recorded.recorded
      · intro untouched
        cases untouched
  | displayNameHtml value =>
      constructor
      · exact recorded.recorded
      · intro untouched
        cases untouched

/-- A converge of a page that is not the last name Catena wrote changes
nothing. -/
theorem converged_of_page {state : State} (recorded : Recorded state)
    (other : state.realm.current ≠ forms state.written) (name : String) :
    converged kcadm state name = state := by
  rcases converged_cases kcadm state name with ⟨-, same⟩ | ⟨some, -⟩
  · exact same
  · exact absurd (sets_eq_nil_of_page recorded.recorded other name) some

theorem kept_run {state : State} (recorded : Recorded state) {later : List Event}
    (notBack : Throughout (step kcadm)
      (fun state _ => state.realm.current ≠ forms state.written) state later) :
    run (step kcadm) state later = run (step kcadm) state (later.filter Event.isHand) := by
  induction later generalizing state with
  | nil => rfl
  | cons event rest ih =>
      have next := ih (recorded_step kcadm state event recorded) notBack.2
      cases event with
      | converge name =>
          have same : step kcadm state (.converge name) = state :=
            converged_of_page kcadm recorded notBack.1 name
          rw [same] at next
          rw [List.filter_cons_of_neg (by simp [Event.isHand]), ← next, run, List.foldl_cons, same]
          rfl
      | displayName value =>
          rw [List.filter_cons_of_pos rfl, run, List.foldl_cons]
          exact next
      | displayNameHtml value =>
          rw [List.filter_cons_of_pos rfl, run, List.foldl_cons]
          exact next

theorem recorded_run_hand {later : List Event} (hands : ∀ event ∈ later, event.isHand = true)
    (state : State) : (run (step kcadm) state later).realm.recorded displayNameAttribute =
      state.realm.recorded displayNameAttribute := by
  induction later generalizing state with
  | nil => rfl
  | cons event rest ih =>
      have others := ih (fun other member => hands other (List.mem_cons_of_mem _ member))
        (step kcadm state event)
      cases event with
      | converge name => cases hands _ List.mem_cons_self
      | displayName value => exact others
      | displayNameHtml value => exact others

/-- What holds at every point of a run; `target` is where a converge with a
name that is not blank leaves the page. -/
structure Follows (target : String → String) (state : State) : Prop where
  /-- Only a page that has both forms of the last name Catena wrote is changed. -/
  own : ∀ name, (converge kcadm state.realm name).current ≠ state.realm.current →
    state.realm.current = forms state.written
  /-- A page no hand has changed since follows the domain, with its record. -/
  follows : state.touched = false → ∀ name, PyText.strip name ≠ "" →
    (converge kcadm state.realm name).IsAt (target name)
  /-- Until the page is set back, converges change nothing, the record included. -/
  kept : ∀ later, Throughout (step kcadm)
      (fun state _ => state.realm.current ≠ forms state.written) state later →
    run (step kcadm) state later = run (step kcadm) state (later.filter Event.isHand) ∧
      (run (step kcadm) state later).realm.recorded displayNameAttribute =
        state.realm.recorded displayNameAttribute
  /-- Nothing is left to set the second time. -/
  again : ∀ realm name, keycloakSigninNameSets kcadm.dumps
    (kcadm.update realm (keycloakSigninNameSets kcadm.dumps realm name displayNameAttribute))
    name displayNameAttribute = []

theorem sets_update (realm : Realm) (name : String) :
    sets (kcadm.update realm (arguments kcadm.dumps (sets realm name displayNameAttribute)))
      name displayNameAttribute = [] := by
  rcases sets_cases realm name displayNameAttribute with none | ⟨-, all, -⟩
  · rw [none, kcadm.update_arguments realm [] (by simp), List.foldl_nil]
    exact none
  · obtain ⟨after, updated, current, recorded⟩ :=
      @update_sets kcadm realm (PyText.strip name) displayNameAttribute displayNameAttribute_plain
    rw [all, updated]
    exact sets_eq_nil_of_name recorded current

theorem follows_of_recorded {state : State} (recorded : Recorded state) :
    Follows kcadm PyText.strip state := by
  constructor
  · intro name changed
    by_contra other
    rcases converge_cases kcadm state.realm name with ⟨-, same⟩ | ⟨some, -⟩
    · rw [same] at changed
      exact changed rfl
    · exact some (sets_eq_nil_of_page recorded.recorded other name)
  · intro untouched name given
    have page := recorded.page untouched
    rcases converge_cases kcadm state.realm name with ⟨none, same⟩ | ⟨-, -, isAt, -⟩
    · rw [same]
      by_cases written : state.written = PyText.strip name
      · rw [← written]
        exact ⟨page, recorded.recorded⟩
      · exact absurd none (sets_of_page recorded.recorded page given written)
    · exact isAt
  · intro later notBack
    have kept := kept_run kcadm recorded notBack
    use kept
    rw [kept]
    apply recorded_run_hand
    intro event member
    exact (List.mem_filter.mp member).2
  · intro realm name
    rw [keycloakSigninNameSets, keycloakSigninNameSets, sets_update]
    rfl

/-- From a realm whose record matches its page, the page follows the domain and
only the domain, over every order of converges and hand changes. -/
theorem signinName_follows {realm : Realm} {name : String} (isAt : realm.IsAt name)
    (events : List Event) :
    Follows kcadm PyText.strip (run (step kcadm) ⟨realm, name, false⟩ events) := by
  apply follows_of_recorded
  apply persists
  · exact fun state event recorded => recorded_step kcadm state event recorded
  · exact ⟨isAt.2, fun _ => isAt.1⟩

end Steps

/-- The field a path names. -/
def fieldOf (path : List Char) : Field :=
  match PyText.afterStart "attributes.".toList path with
  | some name => .attributes (String.ofList name)
  | none => if path = "displayName".toList then .displayName else .displayNameHtml

/-- One argument, where it sets a field. -/
def parse (argument : String) : Option (Field × String) :=
  (PyText.partition '=' argument.toList).map fun (path, value) =>
    (fieldOf path, String.ofList value.tail.dropLast)

theorem parse_argument {field : Field} (plain : field.IsPlain) (value : String) :
    parse (field.path ++ "=" ++ ("\"" ++ value ++ "\"")) = some (field, value) := by
  have split : PyText.partition '=' (field.path ++ "=" ++ ("\"" ++ value ++ "\"")).toList =
      some (field.path.toList, '\"' :: value.toList ++ ['\"']) := by
    rw [PyText.partition_eq_some]
    constructor
    · simp
    · cases field with
      | displayName => decide
      | displayNameHtml => decide
      | attributes name => simpa [Field.path] using plain.2
  have named : fieldOf field.path.toList = field := by
    cases field with
    | displayName => decide
    | displayNameHtml => decide
    | attributes name =>
        have start : PyText.afterStart "attributes.".toList (Field.attributes name).path.toList =
            some name.toList := by
          rw [PyText.afterStart_eq_some, Field.path, String.toList_append]
        rw [fieldOf, start]
        simp only [String.ofList_toList]
  rw [parse, split, Option.map_some]
  simp only [named]
  simp

/-- Quotes around a text, and a reader of them. -/
def quotingKcadm : Kcadm where
  dumps value := "\"" ++ value ++ "\""
  update realm found := (found.filterMap parse).foldl Realm.assign realm
  update_arguments := by
    intro realm fields plain
    have read : (arguments (fun value => "\"" ++ value ++ "\"") fields).filterMap parse =
        fields := by
      induction fields with
      | nil => rfl
      | cons first rest ih =>
          have one := parse_argument (plain first List.mem_cons_self) first.2
          have others := ih fun field member => plain field (List.mem_cons_of_mem _ member)
          have option : parse "-s" = none := by decide
          rw [arguments] at others ⊢
          simp only [List.flatMap_cons, List.filterMap_append, others]
          simp [option, one]
    rw [read]

/-- The realm of a host that serves `acme.test`. -/
def acmeRealm : Realm where
  displayName := some "acme.test"
  displayNameHtml := some "<b>acme.test</b>"
  attributes := [(displayNameAttribute, "acme.test")]

theorem acmeRealm_isAt : acmeRealm.IsAt "acme.test" := by
  constructor
  · decide
  · decide

theorem acme_follows : Follows quotingKcadm PyText.strip
    (run (step quotingKcadm) ⟨acmeRealm, "acme.test", false⟩ [.converge "beta.test"]) :=
  signinName_follows quotingKcadm acmeRealm_isAt [.converge "beta.test"]

/-- A name with a blank in front leaves the page at the name without it. -/
theorem padded_name_not_kept : acmeRealm.IsAt "acme.test" ∧
    ¬ Follows quotingKcadm id (run (step quotingKcadm) ⟨acmeRealm, "acme.test", false⟩ []) := by
  use acmeRealm_isAt
  intro follows
  have padded := (follows.follows rfl " beta.test" (by decide +kernel)).2
  have stripped : (converge quotingKcadm acmeRealm " beta.test").recorded displayNameAttribute =
      some "beta.test" := by
    decide +kernel
  have same := padded.symm.trans stripped
  exact absurd same (by decide)

end SigninName

end Catena

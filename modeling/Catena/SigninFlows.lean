import Catena.PyJson
import Catena.Runs
import Mathlib.Tactic

/-!
# The versioned sign-in flows

Every top-level sign-in flow is built under an alias that carries a digest of
its tree and of a generation.  A converge records the digests of the flows it
built; a recorded flow that reads differently makes the next converge build
under the next generation.  Flows the last record does not name are not read,
and an alias comes back whenever a tree and a generation do.
-/

namespace Catena

namespace SigninFlows

open Runs

/-- A builder of `_builders`: the flows and the configs under an alias. -/
abbrev Builder := String → Json × Json

/-- A release: its builders by base name. -/
abbrev Release := List (String × Builder)

/-- A flow as Keycloak holds it: its own record, its executions at every level,
and the authenticator configs, which no listing shows. -/
structure Content where
  flow : PyDict String Json
  executions : List (PyDict String Json)
  configs : Json
  deriving DecidableEq

/-- Who last wrote a flow. -/
inductive Writer where
  | converge
  | person
  deriving DecidableEq

structure Flow where
  content : Content
  writer : Writer
  deriving DecidableEq

/-- What the filters and Keycloak compute with: the canonical JSON text, the
SHA-256 digits of a text, and the flow an import makes of what it declares. -/
structure Tools where
  dumps : Json → String
  sha256 : String → String
  creates : Json × Json → Content

/-- The recorded generation and digests. -/
structure Record where
  generation : Nat
  flows : PyDict String String
  deriving DecidableEq

section Filters

variable (tools : Tools)

def version (build : Builder) (generation : Nat) : String :=
  let (flows, configs) := build "@"
  let canonical := tools.dumps (.obj [("flows", flows), ("configs", configs),
    ("generation", .int generation)])
  String.ofList ((tools.sha256 canonical).toList.take 8)

/-- The alias of a base under a generation. -/
def flowAlias (base : String) (build : Builder) (generation : Nat) : String :=
  base ++ "-v" ++ version tools build generation

/-- The aliases of `keycloak_signin_flows`, each with its builder. -/
def keycloakSigninFlows (release : Release) (generation : Nat) :
    List (String × Builder) :=
  release.map fun entry => (flowAlias tools entry.1 entry.2 generation, entry.2)

/-- The execution fields a digest covers. -/
def projected : List String :=
  ["level", "index", "priority", "requirement", "authenticationFlow", "providerId",
    "displayName", "description", "alias"]

def keycloakFlowDigest (content : Content) : String :=
  let flow := content.flow.filter fun field => field.1 ≠ "id"
  let rows := content.executions.map fun row =>
    Json.obj (projected.map fun key => (key, (PyDict.get row key).getD .null))
  tools.sha256 (tools.dumps (.obj [("flow", .obj flow), ("executions", .arr rows)]))

/-- The digest of the flow under an alias, `none` where Keycloak holds none. -/
def observed (flows : PyDict String Flow) (name : String) : Option String :=
  (flows.get name).map fun flow => keycloakFlowDigest tools flow.content

def keycloakFlowGeneration (record : Option Record) (flows : PyDict String Flow) : Nat :=
  match record with
  | none => 0
  | some record =>
    if record.flows.any fun entry => observed tools flows entry.1 ≠ some entry.2 then
      record.generation + 1
    else record.generation

/-- `keycloak_flow_record`, `none` where a flow of the build is missing. -/
def keycloakFlowRecord (generation : Nat) (aliases : List String)
    (flows : PyDict String Flow) : Option Record :=
  let digests := aliases.map fun name => (name, observed tools flows name)
  if digests.all fun entry => entry.2.isSome then
    some ⟨generation, digests.map fun entry => (entry.1, entry.2.getD "")⟩
  else none

end Filters

/-- The build in progress: its generation and its aliases. -/
structure Build where
  generation : Nat
  aliases : List String
  deriving DecidableEq

/-- Keycloak's flows, the record on the host, the converge between its import
and its record, and every alias built so far with its generation. -/
structure Realm where
  flows : PyDict String Flow
  record : Option Record
  building : Option Build
  built : List (String × Nat)
  deriving DecidableEq

/-- A converge builds, then records unless it is cut; flows are edited or
created by hand, and deleted by hand or as stale. -/
inductive Step where
  | build (release : Release)
  | record
  | cut
  | edit (name : String) (content : Content)
  | delete (name : String)

section Steps

variable (tools : Tools)

/-- The import: every declared alias Keycloak does not hold yet. -/
def create (flows : PyDict String Flow) (declared : List (String × Builder)) :
    PyDict String Flow :=
  declared.foldl (fun flows entry =>
    match flows.get entry.1 with
    | some _ => flows
    | none => flows.set entry.1 ⟨tools.creates (entry.2 entry.1), .converge⟩) flows

def Realm.generation (realm : Realm) : Nat :=
  keycloakFlowGeneration tools realm.record realm.flows

def Realm.step (realm : Realm) : Step → Realm
  | .build release =>
    match realm.building with
    | some _ => realm
    | none =>
      let generation := realm.generation tools
      let declared := keycloakSigninFlows tools release generation
      { realm with
        flows := create tools realm.flows declared
        building := some ⟨generation, declared.map Prod.fst⟩
        built := realm.built ++ declared.map fun entry => (entry.1, generation) }
  | .record =>
    match realm.building with
    | none => realm
    | some build =>
      match keycloakFlowRecord tools build.generation build.aliases realm.flows with
      | some record => { realm with record := some record, building := none }
      | none => { realm with building := none }
  | .cut => { realm with building := none }
  | .edit name content =>
    { realm with flows := realm.flows.set name ⟨content, .person⟩ }
  | .delete name => { realm with flows := realm.flows.erase name }

end Steps

section Histories

variable {tools : Tools} {realm : Realm} {apart : String → Prop}

/-- The last record names the flow, which reads differently now. -/
def Differs (tools : Tools) (realm : Realm) (name : String) : Prop :=
  ∃ record digest, realm.record = some record ∧ record.flows.get name = some digest ∧
    observed tools realm.flows name ≠ some digest

/-- No converge will build under the alias again: it is recorded and reads
differently, or is of a generation before the recorded one. -/
def Outdated (tools : Tools) (realm : Realm) (name : String) : Prop :=
  Differs tools realm name ∨ ∃ generation record, (name, generation) ∈ realm.built ∧
    realm.record = some record ∧ generation < record.generation

/-- The condition on a hand edit, in the state before it: it is of a flow set
apart from all builds, or it falls outside the time between an import and its
record and leaves a flow the last record names with another digest. -/
def Careful (tools : Tools) (apart : String → Prop) (realm : Realm) : Step → Prop
  | .edit name content => apart name ∨ (realm.building = none ∧
      ∃ record digest, realm.record = some record ∧
        record.flows.get name = some digest ∧ keycloakFlowDigest tools content ≠ digest)
  | _ => True

/-- The invariant: what a person wrote is outdated, records and builds are of
aliases built under their generation, and a build moved past every difference. -/
structure Guarded (tools : Tools) (apart : String → Prop) (realm : Realm) : Prop where
  edited : ∀ name flow, realm.flows.get name = some flow → flow.writer = .person →
    apart name ∨ Outdated tools realm name
  recorded : ∀ record, realm.record = some record → ∀ entry ∈ record.flows,
    (entry.1, record.generation) ∈ realm.built
  aliases : ∀ build, realm.building = some build → ∀ name ∈ build.aliases,
    (name, build.generation) ∈ realm.built
  ahead : ∀ build record, realm.building = some build → realm.record = some record →
    record.generation ≤ build.generation ∧
      ∀ name flow, realm.flows.get name = some flow → flow.writer = .person →
        ¬ apart name → Differs tools realm name → record.generation < build.generation

theorem differs_congr {other : Realm} {name : String}
    (differs : Differs tools realm name) (sameRecord : other.record = realm.record)
    (sameFlow : other.flows.get name = realm.flows.get name) :
    Differs tools other name := by
  obtain ⟨record, digest, isRecord, found, different⟩ := differs
  refine ⟨record, digest, sameRecord.trans isRecord, found, ?_⟩
  unfold observed at different ⊢
  rw [sameFlow]
  exact different

theorem outdated_congr {other : Realm} {name : String}
    (outdated : Outdated tools realm name) (sameRecord : other.record = realm.record)
    (sameFlow : other.flows.get name = realm.flows.get name)
    (more : ∀ entry ∈ realm.built, entry ∈ other.built) : Outdated tools other name := by
  cases outdated with
  | inl differs => exact .inl (differs_congr differs sameRecord sameFlow)
  | inr older =>
    obtain ⟨generation, record, built, isRecord, less⟩ := older
    exact .inr ⟨generation, record, more _ built, sameRecord.trans isRecord, less⟩

/-- An import leaves what Keycloak holds and adds flows of its own. -/
theorem get_create (flows : PyDict String Flow) (declared : List (String × Builder))
    (name : String) :
    (∀ flow, flows.get name = some flow →
      (create tools flows declared).get name = some flow) ∧
    ∀ flow, (create tools flows declared).get name = some flow →
      flows.get name = some flow ∨ (flows.get name = none ∧ flow.writer = .converge) := by
  induction declared generalizing flows with
  | nil => exact ⟨fun _ held => held, fun _ held => .inl held⟩
  | cons entry rest ih =>
    simp only [create, List.foldl_cons] at ih ⊢
    cases held : flows.get entry.1 with
    | some _ => exact ih flows
    | none =>
      obtain ⟨keeps, finds⟩ :=
        ih (flows.set entry.1 ⟨tools.creates (entry.2 entry.1), .converge⟩)
      constructor
      · intro flow there
        apply keeps
        rw [PyDict.get_set_ne _ _ _]
        · exact there
        · intro same
          rw [same, there] at held
          cases held
      · intro flow there
        cases finds flow there with
        | inl before =>
          rw [PyDict.get_set] at before
          split at before
          case isTrue same =>
            subst same
            cases before
            exact .inr ⟨held, rfl⟩
          case isFalse => exact .inl before
        | inr made =>
          obtain ⟨absent, own⟩ := made
          rw [PyDict.get_set] at absent
          split at absent
          case isTrue => cases absent
          case isFalse => exact .inr ⟨absent, own⟩

/-- A difference moves the generation, and nothing moves it back. -/
theorem generation_spec (realm : Realm) {record : Record} (recorded : realm.record = some record) :
    record.generation ≤ realm.generation tools ∧
      ∀ name, Differs tools realm name → record.generation < realm.generation tools := by
  unfold Realm.generation keycloakFlowGeneration
  rw [recorded]
  simp only
  split
  case isTrue => exact ⟨Nat.le_succ _, fun _ _ => Nat.lt_succ_self _⟩
  case isFalse same =>
    refine ⟨le_refl _, ?_⟩
    intro name differs
    obtain ⟨other, digest, isRecord, found, different⟩ := differs
    rw [recorded] at isRecord
    cases isRecord
    exfalso
    apply same
    rw [List.any_eq_true]
    exact ⟨(name, digest), PyDict.mem_of_get found, by simpa using different⟩

theorem Guarded.build (guarded : Guarded tools apart realm) (release : Release) :
    Guarded tools apart (realm.step tools (.build release)) := by
  cases building : realm.building with
  | some build => simpa only [Realm.step, building] using guarded
  | none =>
    simp only [Realm.step, building]
    have dirty (name : String) (flow : Flow)
        (there : (create tools realm.flows (keycloakSigninFlows tools release
          (realm.generation tools))).get name = some flow)
        (person : flow.writer = .person) : realm.flows.get name = some flow := by
      cases (get_create realm.flows _ name).2 flow there with
      | inl before => exact before
      | inr made =>
        rw [made.2] at person
        cases person
    constructor
    · intro name flow there person
      have before := dirty name flow there person
      cases guarded.edited name flow before person with
      | inl isApart => exact .inl isApart
      | inr outdated =>
        right
        exact outdated_congr outdated rfl (there.trans before.symm)
          fun _ old => List.mem_append_left _ old
    · intro record recorded entry member
      exact List.mem_append_left _ (guarded.recorded record recorded entry member)
    · intro build same name member
      cases same
      obtain ⟨entry, declared, rfl⟩ := List.mem_map.mp member
      exact List.mem_append_right _ (List.mem_map_of_mem declared)
    · intro build record same recorded
      cases same
      obtain ⟨bound, moves⟩ := @generation_spec tools realm record recorded
      refine ⟨bound, ?_⟩
      intro name flow there person _ differs
      have before := dirty name flow there person
      apply moves name
      exact differs_congr differs rfl (before.trans there.symm)

theorem Guarded.record (guarded : Guarded tools apart realm) :
    Guarded tools apart (realm.step tools .record) := by
  cases building : realm.building with
  | none => simpa only [Realm.step, building] using guarded
  | some build =>
    cases written : keycloakFlowRecord tools build.generation build.aliases realm.flows with
    | none =>
      simp only [Realm.step, building, written]
      refine ⟨guarded.edited, guarded.recorded, ?_, ?_⟩
      · intro other same
        cases same
      · intro other record same
        cases same
    | some record =>
      simp only [Realm.step, building, written]
      unfold keycloakFlowRecord at written
      simp only at written
      split at written
      case isFalse => cases written
      case isTrue =>
        cases written
        constructor
        · intro name flow there person
          by_cases isApart : apart name
          · exact .inl isApart
          · right
            right
            cases guarded.edited name flow there person with
            | inl also => exact absurd also isApart
            | inr outdated =>
              cases outdated with
              | inl differs =>
                obtain ⟨old, digest, isRecord, found, -⟩ := id differs
                have below := (guarded.ahead build old building isRecord).2 name flow there
                  person isApart differs
                have built := guarded.recorded old isRecord _ (PyDict.mem_of_get found)
                exact ⟨old.generation, _, built, rfl, below⟩
              | inr older =>
                obtain ⟨generation, old, built, isRecord, less⟩ := older
                have bound := (guarded.ahead build old building isRecord).1
                exact ⟨generation, _, built, rfl, lt_of_lt_of_le less bound⟩
        · intro record same entry member
          cases same
          simp only [List.map_map, List.mem_map, Function.comp_apply] at member
          obtain ⟨name, inside, rfl⟩ := member
          exact guarded.aliases build building name inside
        · intro other same
          cases same
        · intro other record same
          cases same

theorem Guarded.edit (guarded : Guarded tools apart realm) {name : String}
    {content : Content} (careful : Careful tools apart realm (.edit name content)) :
    Guarded tools apart (realm.step tools (.edit name content)) := by
  simp only [Realm.step]
  have others (wanted : String) (different : name ≠ wanted) :
      (realm.flows.set name ⟨content, .person⟩).get wanted = realm.flows.get wanted :=
    PyDict.get_set_ne _ _ different
  constructor
  · intro wanted flow there person
    by_cases same : name = wanted
    · subst same
      cases careful with
      | inl isApart => exact .inl isApart
      | inr edited =>
        obtain ⟨-, record, digest, recorded, found, different⟩ := edited
        refine .inr (.inl ⟨record, digest, recorded, found, ?_⟩)
        simpa [observed] using different
    · have before := (others wanted same).symm.trans there
      cases guarded.edited wanted flow before person with
      | inl isApart => exact .inl isApart
      | inr outdated =>
        right
        exact outdated_congr outdated rfl (others wanted same) fun _ old => old
  · exact guarded.recorded
  · exact guarded.aliases
  · intro build record building recorded
    obtain ⟨bound, moves⟩ := guarded.ahead build record building recorded
    refine ⟨bound, ?_⟩
    intro wanted flow there person notApart differs
    by_cases same : name = wanted
    · subst same
      cases careful with
      | inl isApart => exact absurd isApart notApart
      | inr edited =>
        have idle := edited.1
        simp only at building
        rw [building] at idle
        cases idle
    · apply moves wanted flow ((others wanted same).symm.trans there) person notApart
      exact differs_congr differs rfl (others wanted same).symm

theorem Guarded.delete (guarded : Guarded tools apart realm) (name : String) :
    Guarded tools apart (realm.step tools (.delete name)) := by
  simp only [Realm.step]
  have others {wanted : String} {flow : Flow}
      (there : (realm.flows.erase name).get wanted = some flow) :
      realm.flows.get wanted = some flow := by
    rw [PyDict.get_erase] at there
    split at there
    · cases there
    · exact there
  constructor
  · intro wanted flow there person
    cases guarded.edited wanted flow (others there) person with
    | inl isApart => exact .inl isApart
    | inr outdated =>
      right
      exact outdated_congr outdated rfl (there.trans (others there).symm) fun _ old => old
  · exact guarded.recorded
  · exact guarded.aliases
  · intro build record building recorded
    obtain ⟨bound, moves⟩ := guarded.ahead build record building recorded
    refine ⟨bound, ?_⟩
    intro wanted flow there person notApart differs
    apply moves wanted flow (others there) person notApart
    exact differs_congr differs rfl ((others there).trans there.symm)

/-- Every careful step keeps the invariant. -/
theorem Guarded.step (guarded : Guarded tools apart realm) (step : Step)
    (careful : Careful tools apart realm step) :
    Guarded tools apart (realm.step tools step) := by
  cases step with
  | build release => exact guarded.build release
  | record => exact guarded.record
  | cut =>
    refine ⟨guarded.edited, guarded.recorded, ?_, ?_⟩
    · intro build same
      cases same
    · intro build record same
      cases same
  | edit name content => exact guarded.edit careful
  | delete name => exact guarded.delete name

/-- A realm no converge has built in. -/
def newRealm : Realm :=
  ⟨[], none, none, []⟩

theorem newRealm_guarded : Guarded tools apart newRealm := by
  constructor
  · intro name flow there
    cases there
  · intro record same
    cases same
  · intro build same
    cases same
  · intro build record same
    cases same

/-- No two builds of different generations share an alias, and none builds
under an alias set apart. -/
structure NoCollisions (apart : String → Prop) (built : List (String × Nat)) : Prop where
  generations : ∀ first ∈ built, ∀ second ∈ built, first.1 = second.1 → first.2 = second.2
  apart : ∀ entry ∈ built, ¬ apart entry.1

/-- After careful steps, every alias a converge builds under that Keycloak
already holds is a flow an earlier converge created and nobody edited since. -/
theorem builds_on_own_flows (steps : List Step) (release : Release)
    (careful : Throughout (Realm.step tools) (Careful tools apart) newRealm steps)
    (idle : (run (Realm.step tools) newRealm steps).building = none)
    (noCollisions : NoCollisions apart
      (run (Realm.step tools) newRealm (steps ++ [.build release])).built) :
    let before := run (Realm.step tools) newRealm steps
    ∀ entry ∈ keycloakSigninFlows tools release (before.generation tools),
      ∀ flow, before.flows.get entry.1 = some flow → flow.writer = .converge := by
  intro before entry declared flow there
  have guarded : Guarded tools apart before :=
    invariant (fun _ taken guarded careful => guarded.step taken careful)
      newRealm_guarded careful
  have built : (run (Realm.step tools) newRealm (steps ++ [.build release])).built =
      before.built ++ (keycloakSigninFlows tools release (before.generation tools)).map
        fun entry => (entry.1, before.generation tools) := by
    have last : run (Realm.step tools) newRealm (steps ++ [.build release]) =
        before.step tools (.build release) := by
      simp [before, run]
    rw [last]
    simp only [Realm.step]
    rw [show before.building = none from idle]
  rw [built] at noCollisions
  have mine : (entry.1, before.generation tools) ∈ before.built ++
      (keycloakSigninFlows tools release (before.generation tools)).map
        fun entry => (entry.1, before.generation tools) :=
    List.mem_append_right _ (List.mem_map_of_mem declared)
  have one (generation : Nat) (member : (entry.1, generation) ∈ before.built) :
      generation = before.generation tools :=
    noCollisions.generations _ (List.mem_append_left _ member) _ mine rfl
  cases writer : flow.writer with
  | converge => rfl
  | person =>
    exfalso
    cases guarded.edited entry.1 flow there writer with
    | inl isApart => exact noCollisions.apart _ mine isApart
    | inr outdated =>
      cases outdated with
      | inl differs =>
        obtain ⟨record, digest, recorded, found, -⟩ := id differs
        have moves := (@generation_spec tools before record recorded).2 entry.1 differs
        have same := one record.generation
          (guarded.recorded record recorded _ (PyDict.mem_of_get found))
        omega
      | inr older =>
        obtain ⟨generation, record, member, recorded, less⟩ := older
        have bound := (@generation_spec tools before record recorded).1
        have same := one generation member
        omega

end Histories

section Samples

/-- A release of one flow with the given steps. -/
def sampleRelease (steps : List Json) : Release :=
  [("catena-browser", fun _ => (.arr steps, .arr []))]

def builtContent : Content :=
  ⟨[], [], .null⟩

def editedContent : Content :=
  ⟨[("description", .str "x")], [], .null⟩

/-- The canonical texts of the runs below and their digests. -/
def sampleTools : Tools where
  dumps value :=
    if value = .obj [("flows", .arr []), ("configs", .arr []), ("generation", .int 0)] then
      "\x7b\"configs\":[],\"flows\":[],\"generation\":0\x7d"
    else if value =
        .obj [("flows", .arr [.str "x"]), ("configs", .arr []), ("generation", .int 0)] then
      "\x7b\"configs\":[],\"flows\":[\"x\"],\"generation\":0\x7d"
    else if value = .obj [("flow", .obj []), ("executions", .arr [])] then
      "\x7b\"executions\":[],\"flow\":\x7b\x7d\x7d"
    else "\x7b\"executions\":[],\"flow\":\x7b\"description\":\"x\"\x7d\x7d"
  sha256 text :=
    if text = "\x7b\"configs\":[],\"flows\":[],\"generation\":0\x7d" then
      "10981b8b0042ef79e3cd08727283feb061b28b996f7f88a444d92d7038abf4c4"
    else if text = "\x7b\"configs\":[],\"flows\":[\"x\"],\"generation\":0\x7d" then
      "c6f5d3a89a0f7caa5a259ed0759a523db2c0c045342be827f55326bf0e7c01a8"
    else if text = "\x7b\"executions\":[],\"flow\":\x7b\x7d\x7d" then
      "662d3ff3822e771d80a70186156a3aa20aa6ad8ddfbc8839d71042013b5ee8da"
    else "5bfdf4b60cbd5574bc78deb88cb66f6e9a063185e1f38d8e770e8fef8c328628"
  creates _ := builtContent

def firstAlias : String :=
  "catena-browser-v10981b8b"

/-- A release is built and recorded, a second one after it, and then the flow
of the first one, which the record no longer names, is edited by hand. -/
def rolledSteps : List Step :=
  [.build (sampleRelease []), .record, .build (sampleRelease [.str "x"]), .record,
    .edit firstAlias editedContent]

theorem rolledSteps_build :
    (run (Realm.step sampleTools) newRealm
        (rolledSteps ++ [.build (sampleRelease [])])).built =
      [(firstAlias, 0), ("catena-browser-vc6f5d3a8", 0), (firstAlias, 0)] := by
  decide +kernel

/-- Going back to the first release builds upon the edited flow. -/
theorem rolled_back_onto_edit :
    ¬ ∀ (tools : Tools) (steps : List Step) (release : Release),
        (run (Realm.step tools) newRealm steps).building = none →
        NoCollisions (fun _ => False)
          (run (Realm.step tools) newRealm (steps ++ [.build release])).built →
        let before := run (Realm.step tools) newRealm steps
        ∀ entry ∈ keycloakSigninFlows tools release (before.generation tools),
          ∀ flow, before.flows.get entry.1 = some flow → flow.writer = .converge := by
  intro claimed
  have noCollisions : NoCollisions (fun _ => False)
      (run (Realm.step sampleTools) newRealm
        (rolledSteps ++ [.build (sampleRelease [])])).built := by
    rw [rolledSteps_build]
    exact ⟨by decide +kernel, fun _ _ => id⟩
  have declared : (keycloakSigninFlows sampleTools (sampleRelease [])
      ((run (Realm.step sampleTools) newRealm rolledSteps).generation sampleTools)).map
        Prod.fst = [firstAlias] := by
    decide +kernel
  have inside : firstAlias ∈ (keycloakSigninFlows sampleTools (sampleRelease [])
      ((run (Realm.step sampleTools) newRealm rolledSteps).generation sampleTools)).map
        Prod.fst := by
    rw [declared]
    exact List.mem_singleton_self _
  obtain ⟨entry, member, same⟩ := List.mem_map.mp inside
  have held : (run (Realm.step sampleTools) newRealm rolledSteps).flows.get entry.1 =
      some ⟨editedContent, .person⟩ := by
    rw [same]
    decide +kernel
  have writer := claimed sampleTools rolledSteps (sampleRelease []) (by decide +kernel)
    noCollisions entry member _ held
  cases writer

/-- A release built again, with nobody editing, is built on its own flow. -/
theorem rebuilt_on_own_flow :
    (run (Realm.step sampleTools) newRealm
        [.build (sampleRelease []), .record]).flows.get firstAlias =
      some ⟨builtContent, .converge⟩ ∧
    ∀ entry ∈ keycloakSigninFlows sampleTools (sampleRelease [])
        ((run (Realm.step sampleTools) newRealm
          [.build (sampleRelease []), .record]).generation sampleTools),
      ∀ flow, (run (Realm.step sampleTools) newRealm
          [.build (sampleRelease []), .record]).flows.get entry.1 = some flow →
        flow.writer = .converge := by
  have built : (run (Realm.step sampleTools) newRealm ([.build (sampleRelease []), .record] ++
      [.build (sampleRelease [])])).built = [(firstAlias, 0), (firstAlias, 0)] := by
    decide +kernel
  have noCollisions : NoCollisions (fun _ => False) (run (Realm.step sampleTools) newRealm
      ([.build (sampleRelease []), .record] ++ [.build (sampleRelease [])])).built := by
    rw [built]
    exact ⟨by decide +kernel, fun _ _ => id⟩
  exact ⟨by decide +kernel,
    builds_on_own_flows [.build (sampleRelease []), .record] (sampleRelease [])
      ⟨trivial, trivial, trivial⟩ (by decide +kernel) noCollisions⟩

end Samples

end SigninFlows

end Catena

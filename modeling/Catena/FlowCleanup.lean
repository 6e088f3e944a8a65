import Catena.PyText
import Catena.PyJson
import Mathlib.Tactic.Common

/-!
# Which sign-in flows a converge deletes

The cleanup deletes the top-level flows that no current version names, that
nothing in the realm uses, and whose alias looks like a version of a base.  It
looks at the start of the alias only, so it takes more aliases for versions
than a converge can make.
-/

namespace Catena

namespace FlowCleanup

/-- A flow of the realm's listing; `topLevel` is what `flow.get("topLevel")`
gives. -/
structure ListedFlow where
  id : String
  name : String
  topLevel : Option Json
  deriving DecidableEq

/-- The listing: the flows, and every alias or id that the realm, its clients
and its identity providers name. -/
structure Listing where
  flows : List ListedFlow
  bound : List String

/-- What a build says of its flows: the current aliases by use, and the
bases. -/
structure Build where
  aliases : PyDict String String
  bases : List String

/-- `alias.startswith(start)`. -/
def startsWith (name start : String) : Bool :=
  start.toList.isPrefixOf name.toList

/-- A top-level flow that neither the build nor the realm names. -/
def Unused (listing : Listing) (build : Build) (flow : ListedFlow) : Prop :=
  (flow.topLevel.map Json.truthy).getD false = true ∧
    flow.name ∉ build.aliases.map Prod.snd ∧ flow.name ∉ listing.bound ∧ flow.id ∉ listing.bound

instance (listing : Listing) (build : Build) (flow : ListedFlow) :
    Decidable (Unused listing build flow) :=
  inferInstanceAs (Decidable (_ ∧ _))

/-- `keycloak_flow_stale`, with the id and the alias of each flow. -/
def keycloakFlowStale (listing : Listing) (build : Build) : List (String × String) :=
  (listing.flows.filter fun flow =>
    Unused listing build flow ∧ build.bases.any fun base =>
      flow.name = base || startsWith flow.name (base ++ "-v")).map fun flow =>
    (flow.id, flow.name)

/-- A lower-case hexadecimal digit. -/
def isLowerHex (character : Char) : Bool :=
  character.isDigit || ('a' ≤ character && character ≤ 'f')

/-- Exactly eight lower-case hexadecimal digits. -/
def IsVersion (text : List Char) : Prop :=
  text.length = 8 ∧ text.all isLowerHex = true

/-- An alias that a converge could have created: a base, or a base with a
version. -/
def Versioned (bases : List String) (name : String) : Prop :=
  ∃ base ∈ bases, name = base ∨
    ∃ digits, IsVersion digits ∧ name.toList = base.toList ++ "-v".toList ++ digits

/-- The cleanup deletes only unused top-level flows under aliases a converge
could have created, and so no flow under any other alias. -/
structure DeletesOwn (listing : Listing) (build : Build) : Prop where
  unused : ∀ gone ∈ keycloakFlowStale listing build, ∃ flow ∈ listing.flows,
    (flow.id, flow.name) = gone ∧ Unused listing build flow
  versioned : ∀ gone ∈ keycloakFlowStale listing build, Versioned build.bases gone.2

theorem mem_keycloakFlowStale (listing : Listing) (build : Build) (gone : String × String) :
    gone ∈ keycloakFlowStale listing build ↔ ∃ flow ∈ listing.flows,
      (flow.id, flow.name) = gone ∧ Unused listing build flow ∧
        ∃ base ∈ build.bases, flow.name = base ∨ startsWith flow.name (base ++ "-v") = true := by
  simp only [keycloakFlowStale, List.mem_map, List.mem_filter, decide_eq_true_eq,
    List.any_eq_true, Bool.or_eq_true]
  constructor
  · rintro ⟨flow, ⟨member, unused, looks⟩, same⟩
    exact ⟨flow, member, same, unused, looks⟩
  · rintro ⟨flow, member, same, unused, looks⟩
    exact ⟨flow, ⟨member, unused, looks⟩, same⟩

/-- The cleanup deletes only Catena's own versions just when every unused
top-level flow whose alias continues a base with `-v` has the alias of one. -/
theorem deletesOwn_iff (listing : Listing) (build : Build) :
    DeletesOwn listing build ↔ ∀ flow ∈ listing.flows, Unused listing build flow →
      (∃ base ∈ build.bases, startsWith flow.name (base ++ "-v") = true) →
      Versioned build.bases flow.name := by
  constructor
  · rintro own flow member unused ⟨base, isBase, starts⟩
    apply own.versioned (flow.id, flow.name)
    rw [mem_keycloakFlowStale]
    exact ⟨flow, member, rfl, unused, base, isBase, Or.inr starts⟩
  · intro kept
    constructor
    · intro gone found
      obtain ⟨flow, member, same, unused, -⟩ := (mem_keycloakFlowStale _ _ _).mp found
      exact ⟨flow, member, same, unused⟩
    · intro gone found
      obtain ⟨flow, member, rfl, unused, base, isBase, looks⟩ :=
        (mem_keycloakFlowStale _ _ _).mp found
      rcases looks with same | starts
      · exact ⟨base, isBase, Or.inl same⟩
      · exact kept flow member unused ⟨base, isBase, starts⟩

def signinBases : List String :=
  ["catena-browser", "catena-post-broker-login", "catena-signin-admin", "catena-signin-staff"]

/-- A flow that an administrator named `catena-browser-vpn` is deleted. -/
theorem person_flow_deleted :
    ¬ DeletesOwn ⟨[⟨"f1", "catena-browser-vpn", some (.bool true)⟩], []⟩
      ⟨[("browser", "catena-browser-v00000000")], signinBases⟩ := by
  intro own
  obtain ⟨base, isBase, same | ⟨digits, version, split⟩⟩ :=
    own.versioned ("f1", "catena-browser-vpn") (by decide)
  · revert base
    decide
  · have long := congrArg List.length split
    rw [List.length_append, List.length_append, version.1] at long
    clear split
    revert base
    decide

end FlowCleanup

end Catena

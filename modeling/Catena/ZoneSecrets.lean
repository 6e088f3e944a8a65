import Catena.LoaderAgain
import Catena.PyWords

/-!
# One cookie secret per configured zone

Each configured Cloudflare zone has a cookie secret of its own under a key
made of the zone's slug.  The slug keeps the letters and digits of the name
and forgets what stands between them, so two zones share their key, and their
secret, exactly when they have the same words.
-/

namespace Catena.Store

def slugCharacter (character : Char) : Bool :=
  ('a' ≤ character && character ≤ 'z') || ('0' ≤ character && character ≤ '9')

/-- The runs of letters and digits of a zone's name, in lower case. -/
def zoneWords (zone : String) : List (List Char) :=
  PyText.wordsOf slugCharacter (PyText.lower (PyText.strip zone)).toList

/-- Zones that are different DNS names have different keys and different
secrets, and no zone has the key of another internal secret. -/
def ZonesSeparated (zones : List String) (store : Store) : Prop :=
  (∀ first ∈ zones, ∀ second ∈ zones, PyText.lower first ≠ PyText.lower second →
    zoneCookieSecretKey first ≠ zoneCookieSecretKey second ∧
      PyDict.get store.secrets (zoneCookieSecretKey first) ≠
        PyDict.get store.secrets (zoneCookieSecretKey second)) ∧
  ∀ zone ∈ zones, ∀ entry ∈ internalSecrets, zoneCookieSecretKey zone ≠ entry.1

theorem zoneSlug_eq (zone : String) :
    zoneSlug zone = String.ofList (PyText.joinWords (zoneWords zone)) := by
  have written := @PyText.stripChars_collapse slugCharacter (by decide)
    (PyText.lower (PyText.strip zone)).toList
  unfold zoneSlug zoneWords
  rw [← written]
  rfl

/-- Two zones have one key exactly when they have the same words. -/
theorem zoneCookieSecretKey_eq_iff (first second : String) :
    zoneCookieSecretKey first = zoneCookieSecretKey second ↔
      zoneWords first = zoneWords second := by
  have parts : ∀ zone, ∀ part ∈ zoneWords zone, part ≠ [] ∧ '_' ∉ part := by
    intro zone part member
    obtain ⟨nonempty, kept⟩ := PyText.mem_wordsFrom (by simp) member
    refine ⟨nonempty, fun inside => ?_⟩
    exact absurd (kept '_' inside) (by decide)
  unfold zoneCookieSecretKey
  rw [String.append_right_inj, zoneSlug_eq, zoneSlug_eq, String.ofList_inj]
  constructor
  · exact PyText.joinWords_injective (parts first) (parts second)
  · exact congrArg PyText.joinWords

theorem prefix_append_text (start rest : String) : start.toList <+: (start ++ rest).toList := by
  rewrite [String.toList_append]
  exact List.prefix_append start.toList rest.toList

theorem zoneCookieSecretKey_not_internal (zone : String) :
    ∀ entry ∈ internalSecrets, zoneCookieSecretKey zone ≠ entry.1 := by
  have apart : ∀ entry ∈ internalSecrets,
      ¬ "oauth2_proxy_cookie_secret_".toList <+: entry.1.toList := by
    decide +kernel
  intro entry member same
  exact apart entry member (same ▸ prefix_append_text _ (zoneSlug zone))

theorem mintValue_zone_stays (draw : String → Minter → String) (zones : List String)
    (key : String) :
    mintValue draw (zoneSecrets zones) key
        (some (.str (draw key .oauth2ProxyCookieSecret))) =
      some (.str (draw key .oauth2ProxyCookieSecret)) := by
  induction zones with
  | nil => rfl
  | cons zone rest ih =>
      by_cases same : zoneCookieSecretKey zone = key
      · subst same
        have kept : ((if (Json.str (draw (zoneCookieSecretKey zone)
            .oauth2ProxyCookieSecret)).blank = true then
            some (Json.str (draw (zoneCookieSecretKey zone) .oauth2ProxyCookieSecret))
          else none).getD
            (Json.str (draw (zoneCookieSecretKey zone) .oauth2ProxyCookieSecret))) =
            Json.str (draw (zoneCookieSecretKey zone) .oauth2ProxyCookieSecret) := by
          split <;> rfl
        simpa [mintValue, zoneSecrets, Tally.resolve, kept] using ih
      · simpa [mintValue, zoneSecrets, Tally.resolve, same] using ih

theorem mintValue_zone (draw : String → Minter → String) {zones : List String}
    {zone : String} (member : zone ∈ zones) :
    mintValue draw (zoneSecrets zones) (zoneCookieSecretKey zone) none =
      some (.str (draw (zoneCookieSecretKey zone) .oauth2ProxyCookieSecret)) := by
  have stays := mintValue_zone_stays draw
  induction zones with
  | nil => cases member
  | cons first rest ih =>
      by_cases same : zoneCookieSecretKey first = zoneCookieSecretKey zone
      · have after := stays rest (zoneCookieSecretKey zone)
        simpa [mintValue, zoneSecrets, Tally.resolve, same, Json.blank] using after
      · have later : zone ∈ rest := by
          rcases List.mem_cons.mp member with rfl | later
          · exact absurd rfl same
          · exact later
        simpa [mintValue, zoneSecrets, Tally.resolve, same] using ih later

/-- A zone whose key is absent is given the secret drawn for its key. -/
theorem ensureInternalSecrets_zone {py : Builtins} {draw : String → Minter → String}
    {store after : Store} {minted zones : List String}
    (listed : configuredZoneNames py
      ((PyDict.get store.config "CLOUDFLARE_ZONES").getD .null) = .ok zones)
    (ran : ensureInternalSecrets py draw store = .ok (after, minted))
    {zone : String} (member : zone ∈ zones)
    (absent : PyDict.get store.secrets (zoneCookieSecretKey zone) = none) :
    PyDict.get after.secrets (zoneCookieSecretKey zone) =
      some (.str (draw (zoneCookieSecretKey zone) .oauth2ProxyCookieSecret)) := by
  have whole : after.secrets = mintedSecrets draw (zoneSecrets zones)
      (mintedSecrets draw internalSecrets store.secrets) := by
    simp only [ensureInternalSecrets, listed, Except.ok.injEq, Prod.mk.injEq] at ran
    rw [← ran.1, ← mintedSecrets_append, mintedSecrets, List.foldl_append]
  have notInternal : zoneCookieSecretKey zone ∉ internalSecrets.map Prod.fst := by
    intro inside
    obtain ⟨entry, found, same⟩ := List.mem_map.mp inside
    exact zoneCookieSecretKey_not_internal zone entry found same.symm
  rw [whole, get_mintedSecrets, get_mintedSecrets, absent,
    mintValue_of_not_mem draw notInternal]
  exact mintValue_zone draw member

/-- Where the minters never repeat a value and the zones' keys are absent, the
zones are separated exactly when zones with different names differ in their
words. -/
theorem zones_separated_iff {py : Builtins} {draw : String → Minter → String}
    {store after : Store} {minted zones : List String}
    (distinct : ∀ first second minter, first ≠ second →
      draw first minter ≠ draw second minter)
    (listed : configuredZoneNames py
      ((PyDict.get store.config "CLOUDFLARE_ZONES").getD .null) = .ok zones)
    (absent : ∀ zone ∈ zones, PyDict.get store.secrets (zoneCookieSecretKey zone) = none)
    (ran : ensureInternalSecrets py draw store = .ok (after, minted)) :
    ZonesSeparated zones after ↔
      ∀ first ∈ zones, ∀ second ∈ zones, PyText.lower first ≠ PyText.lower second →
        zoneWords first ≠ zoneWords second := by
  constructor
  · intro separated first firstMem second secondMem apart same
    exact (separated.1 first firstMem second secondMem apart).1
      ((zoneCookieSecretKey_eq_iff first second).mpr same)
  · intro words
    refine ⟨fun first firstMem second secondMem apart => ?_,
      fun zone _ => zoneCookieSecretKey_not_internal zone⟩
    have keys : zoneCookieSecretKey first ≠ zoneCookieSecretKey second := fun same =>
      words first firstMem second secondMem apart
        ((zoneCookieSecretKey_eq_iff first second).mp same)
    refine ⟨keys, ?_⟩
    rw [ensureInternalSecrets_zone listed ran firstMem (absent first firstMem),
      ensureInternalSecrets_zone listed ran secondMem (absent second secondMem)]
    simpa using distinct _ _ _ keys

/-- A store of two zones, and nothing minted yet. -/
def twoZones (first second : String) : Store :=
  ⟨[], [("CLOUDFLARE_ZONES", .arr [.str first, .str second])]⟩

/-- The store after its internal secrets are minted, each drawn as its own
key. -/
def mintedZones (first second : String) : Store :=
  match ensureInternalSecrets .unused (fun key _ => key) (twoZones first second) with
  | .ok (after, _) => after
  | .error _ => twoZones first second

theorem unrelated_zones_separated :
    ZonesSeparated ["a.x", "b.x"] (mintedZones "a.x" "b.x") :=
  (@zones_separated_iff Builtins.unused (fun key _ => key) (twoZones "a.x" "b.x") _ _ _
    (fun _ _ _ apart => apart) rfl (by decide +kernel) rfl).mpr (by decide +kernel)

/-- Two domains that differ in a dot and a hyphen share their secret. -/
theorem hyphenated_zone_shares_secret :
    ¬ ∀ (py : Builtins) (draw : String → Minter → String) (store after : Store)
      (minted zones : List String),
      (∀ first second minter, first ≠ second → draw first minter ≠ draw second minter) →
      configuredZoneNames py
        ((PyDict.get store.config "CLOUDFLARE_ZONES").getD .null) = .ok zones →
      (∀ zone ∈ zones, PyDict.get store.secrets (zoneCookieSecretKey zone) = none) →
      ensureInternalSecrets py draw store = .ok (after, minted) →
      ZonesSeparated zones after := by
  intro separated
  have both := separated .unused (fun key _ => key) (twoZones "a-b.x" "a.b.x") _ _ _
    (fun _ _ _ apart => apart) rfl (by decide +kernel) rfl
  exact (both.1 "a-b.x" (by decide +kernel) "a.b.x" (by decide +kernel)
    (by decide +kernel)).1 (by decide +kernel)

end Catena.Store

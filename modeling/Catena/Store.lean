import Catena.PyJson

/-!
# The on-box config store

`helpers/onbox_config.py`: the secret and config registries, reading and
writing the store file, and the stages a run applies to the two sections
between its read and its write.  The file is the JSON document it holds, or
absent.  Each stage returns, beside the store, the keys the source reports as
written.
-/

namespace Catena

/-- The two sections this helper owns. -/
structure Store where
  secrets : PyDict String Json
  config : PyDict String Json

namespace Store

/-- The generators behind the minted secrets. -/
inductive Minter where
  | strongPassword
  | hcApiKey
  | urlSafe
  | oauth2ProxyCookieSecret
  | adminPassword
  deriving DecidableEq

def internalSecrets : List (String × Minter) :=
  [("catena_postgres_password", .strongPassword),
    ("catena_admin_session_key", .strongPassword),
    ("catena_admin_gate_secret", .strongPassword),
    ("catena_marketplace_token", .urlSafe),
    ("keycloak_db_password", .strongPassword),
    ("keycloak_automation_client_secret", .strongPassword),
    ("oauth2_proxy_cookie_secret", .oauth2ProxyCookieSecret),
    ("catena_admin_gate_cookie_secret", .oauth2ProxyCookieSecret),
    ("healthchecks_gate_cookie_secret", .oauth2ProxyCookieSecret),
    ("gatus_gate_cookie_secret", .oauth2ProxyCookieSecret),
    ("beszel_gate_cookie_secret", .oauth2ProxyCookieSecret),
    ("oauth2_proxy_client_secret", .strongPassword),
    ("dashboard_sync_client_secret", .strongPassword),
    ("catena_admin_panel_client_secret", .strongPassword),
    ("catena_identity_probe_client_secret", .strongPassword),
    ("healthchecks_ping_key", .urlSafe),
    ("healthchecks_api_key_readonly", .hcApiKey),
    ("healthchecks_api_key_readwrite", .hcApiKey),
    ("beszel_oidc_client_secret", .strongPassword),
    ("zap_api_key", .urlSafe)]

def userHeldSecrets : List (String × Minter) :=
  [("admin_password", .adminPassword),
    ("backup_restic_password", .strongPassword),
    ("console_recovery_password", .adminPassword)]

def mintedOnRequest : List String :=
  ["backup_restic_password"]

/-- `EXTERNAL_SECRETS`: the `secrets` entries of `helpers/knobs.yml`. -/
def externalSecrets : List String :=
  ["cloudflare_api_token", "cloudflare_api_tokens",
    "tailscale_oauth_client_id", "tailscale_oauth_client_secret",
    "headscale_api_key", "headscale_preauth_key",
    "backup_s3_access_key", "backup_s3_secret_key", "smtp_password",
    "storage_bulk_username", "storage_bulk_password", "catena_license"]

/-- `PANEL_SECRETS`: the entries with a `panel`, and the two user-held
secrets the panel shows. -/
def panelSecrets : List String :=
  ["cloudflare_api_token", "tailscale_oauth_client_id",
    "tailscale_oauth_client_secret", "headscale_api_key",
    "headscale_preauth_key", "backup_s3_access_key",
    "backup_s3_secret_key", "smtp_password", "storage_bulk_username",
    "storage_bulk_password", "catena_license",
    "backup_restic_password", "admin_password"]

/-- `ENV_SEEDED_CONFIG`: the stored `config` entries of `helpers/knobs.yml`
with an `env` line. -/
def envSeededConfig : List String :=
  ["ADMIN_EMAIL", "ADMIN_FIRST_NAME", "ADMIN_LAST_NAME", "APT_PROXY_URL",
    "DOCKER_REGISTRY_MIRROR_URL", "CATENA_ACME_STAGING",
    "CATENA_ACME_DIRECTORY_URL", "CATENA_ACME_HOST_IP",
    "CATENA_ACME_CA_BUNDLE_PEM_B64"]

/-- A section beside the keys written to it so far. -/
structure Tally where
  section_ : PyDict String Json
  changed : List String

namespace Tally

/-- One turn of a loop over supplied or minted values: `decision` sees what
the section holds for `key` and gives the value to assign, if any. -/
def update (tally : Tally) (key : String)
    (decision : Option Json → Option Json) : Tally :=
  match decision (PyDict.get tally.section_ key) with
  | none => tally
  | some value => ⟨PyDict.set tally.section_ key value, tally.changed ++ [key]⟩

end Tally

/-- `dict(raw.get(key) or {})`.  A truthy value that is no object makes the
file malformed. -/
def dictOf : Option Json → Except PyError (PyDict String Json)
  | none => .ok []
  | some (.obj fields) => .ok (PyDict.ofPairs fields)
  | some value => if value.truthy then .error .typeError else .ok []

def load (file : Option Json) : Except PyError Store :=
  match file with
  | none => .ok ⟨[], []⟩
  | some (.obj raw) => do
      let secrets ← dictOf (PyDict.get raw "secrets")
      let config ← dictOf (PyDict.get raw "config")
      return ⟨secrets, config⟩
  | some _ => .error (.valueError "top level is not an object")

/-- The document `dump` writes: the two sections merged into whatever else
the file holds. -/
def dump (store : Store) (file : Option Json) : Except PyError Json :=
  match file with
  | none =>
      .ok (.obj [("secrets", .obj store.secrets), ("config", .obj store.config)])
  | some (.obj raw) =>
      .ok (.obj (PyDict.set (PyDict.set raw "secrets" (.obj store.secrets))
        "config" (.obj store.config)))
  | some _ => .error (.valueError "top level is not an object")

/-- What the settings API's `read` returns. -/
def panelView (store : Store) : Store where
  secrets := store.secrets.filter fun item => item.1 ∈ panelSecrets
  config := store.config

def zoneSlug (zone : String) : String :=
  let keep := fun character : Char =>
    ('a' ≤ character && character ≤ 'z') || ('0' ≤ character && character ≤ '9')
  String.ofList (PyText.stripChars (fun character => character == '_')
    (PyText.collapse keep false (PyText.lower (PyText.strip zone)).toList))

def zoneCookieSecretKey (zone : String) : String :=
  "oauth2_proxy_cookie_secret_" ++ zoneSlug zone

/-- The names one element of `CLOUDFLARE_ZONES` contributes. -/
def zoneNames (zone : Json) : List String :=
  let name := match zone with
    | .obj fields => (PyDict.get fields "zone").getD .null
    | other => other
  match name with
  | .str text =>
      if PyText.strip text = "" then [] else [PyText.strip text]
  | _ => []

/-- The elements `for z in zones` goes through; `none` where the value
cannot be iterated over. -/
def iterate : Json → Option (List Json)
  | .arr items => some items
  | .obj fields => some ((PyDict.keys fields).map Json.str)
  | .str text => some (text.toList.map fun character => .str (.singleton character))
  | _ => none

/-- The loop `for z in zones or []`. -/
def listZones (zones : Json) : Except PyError (List String) :=
  if zones.truthy then
    match iterate zones with
    | some items => .ok (items.flatMap zoneNames)
    | none => .error .typeError
  else .ok []

def configuredZoneNames (py : Builtins) (zones : Json) :
    Except PyError (List String) :=
  match zones with
  | .str text =>
      if py.tooDeep text then .error .recursionError
      else
        match py.loads text with
        | none => .ok []
        | some parsed => listZones parsed
  | other => listZones other

def mintMissing (draw : String → Minter → String) (tally : Tally)
    (entry : String × Minter) : Tally :=
  tally.update entry.1 fun current =>
    if (current.getD .null).blank then some (.str (draw entry.1 entry.2))
    else none

def zoneSecrets (zones : List String) : List (String × Minter) :=
  zones.map fun zone => (zoneCookieSecretKey zone, .oauth2ProxyCookieSecret)

def ensureInternalSecrets (py : Builtins) (draw : String → Minter → String)
    (store : Store) : Except PyError (Store × List String) :=
  let tally := internalSecrets.foldl (mintMissing draw) ⟨store.secrets, []⟩
  match configuredZoneNames py
      ((PyDict.get store.config "CLOUDFLARE_ZONES").getD .null) with
  | .error failure => .error failure
  | .ok zones =>
      let tally := (zoneSecrets zones).foldl (mintMissing draw) tally
      .ok ({ store with secrets := tally.section_ }, tally.changed)

def convergeMinted : List (String × Minter) :=
  userHeldSecrets.filter fun entry => entry.1 ∉ mintedOnRequest

def ensureUserHeldSecrets (draw : String → Minter → String) (store : Store) :
    Store × List String :=
  let tally := convergeMinted.foldl (mintMissing draw) ⟨store.secrets, []⟩
  ({ store with secrets := tally.section_ }, tally.changed)

def tailnetProviders : List String :=
  ["none", "tailscale", "headscale"]

/-- The provider `settle_tailnet_provider` stores, from the access method it
pops and the rest of the store. -/
def settledProvider (py : Builtins) (method : String) (store : Store) : String :=
  let provider := PyText.lower (PyText.strip
    (Json.textOr py (PyDict.get store.config "TAILNET_PROVIDER")))
  if method = "public_ssh" then "none"
  else if provider ∈ tailnetProviders then provider
  else if PyText.strip
      (Json.textOr py (PyDict.get store.config "TAILNET_CONTROL_URL")) ≠ "" then
    "headscale"
  else if method = "tailnet" ∨
      ((PyDict.get store.secrets "tailscale_oauth_client_id").getD .null).truthy then
    "tailscale"
  else "none"

def settleTailnetProvider (py : Builtins) (store : Store) : Store × Bool :=
  let method := PyText.strip
    (Json.textOr py (PyDict.get store.config "ACCESS_METHOD"))
  let config := PyDict.erase store.config "ACCESS_METHOD"
  let provider := settledProvider py method { store with config := config }
  ({ store with config := PyDict.set config "TAILNET_PROVIDER" (.str provider) },
    method ≠ "" || !Json.pyEq
      ((PyDict.get config "TAILNET_PROVIDER").getD .null) (.str provider))

/-- The value a supplied secret is assigned: a blank is ignored, and without
`overwrite` a truthy stored value stays. -/
def secretDecision (overwrite : Bool) (value : Json) (current : Option Json) :
    Option Json :=
  if value.blank then none
  else if !overwrite && (current.getD .null).truthy then none
  else if Json.pyEq (current.getD .null) value then none
  else some value

def captureSecret (overwrite : Bool) (tally : Tally) (item : String × Json) :
    Tally :=
  tally.update item.1 (secretDecision overwrite item.2)

/-- `adopt`, on the items of its mapping. -/
def adopt (overwrite : Bool) (mapping : List (String × Json)) (store : Store) :
    Store × List String :=
  let tally := mapping.foldl (captureSecret overwrite) ⟨store.secrets, []⟩
  ({ store with secrets := tally.section_ }, tally.changed)

/-- The value a supplied config key is assigned: without `overwrite` a present
key stays, whatever it holds. -/
def configDecision (overwrite : Bool) (value : Json) (current : Option Json) :
    Option Json :=
  if !overwrite && current.isSome then none
  else if Json.pyEq (current.getD .null) value then none
  else some value

def captureConfig (overwrite : Bool) (tally : Tally) (item : String × Json) :
    Tally :=
  tally.update item.1 (configDecision overwrite item.2)

/-- The per-zone token map, empty where the store holds no object for it. -/
def tokenMap : Json → PyDict String Json
  | .obj fields => fields
  | _ => []

/-- The per-zone token map with the outgoing zone's token in it; `none` when
the map already holds it. -/
def keepToken (tokens : PyDict String Json) (zone token : String) :
    Option (PyDict String Json) :=
  if Json.pyEq ((PyDict.get tokens zone).getD .null) (.str token) then none
  else some (PyDict.set tokens zone (.str token))

/-- `preserve_outgoing_zone_token`, for a request that names
`CLOUDFLARE_ZONE`. -/
def preserveToken (py : Builtins) (store : Store) (zone : Json) :
    Store × Option String :=
  let newZone := PyText.strip (Json.textOr py (some zone))
  let oldZone := PyText.strip
    (Json.textOr py (PyDict.get store.config "CLOUDFLARE_ZONE"))
  let outgoing := PyText.strip
    (Json.textOr py (PyDict.get store.secrets "cloudflare_api_token"))
  if newZone = "" ∨ oldZone = "" ∨ newZone = oldZone ∨ outgoing = "" then
    (store, none)
  else
    match keepToken
        (tokenMap ((PyDict.get store.secrets "cloudflare_api_tokens").getD .null))
        oldZone outgoing with
    | none => (store, none)
    | some tokens =>
        ({ store with
            secrets := PyDict.set store.secrets "cloudflare_api_tokens"
              (.obj tokens) },
          some oldZone)

/-- The value a request gives `CLOUDFLARE_ZONE`, if it names it.  A
`config_in` of any JSON shape reaches this test: a string is searched for the
name, a list for an element equal to it, and both fail at `.get` once it is
found; a truthy number cannot be searched at all. -/
def requestedZone (configIn : Json) : Except PyError (Option Json) :=
  if !configIn.truthy then .ok none
  else
    match configIn with
    | .obj fields => .ok (PyDict.get fields "CLOUDFLARE_ZONE")
    | .str text =>
        if PyText.contains text.toList "CLOUDFLARE_ZONE".toList then
          .error .attributeError
        else .ok none
    | .arr items =>
        if items.any (fun item => Json.pyEq item (.str "CLOUDFLARE_ZONE")) then
          .error .attributeError
        else .ok none
    | _ => .error .typeError

def preserveOutgoingZoneToken (py : Builtins) (store : Store) (configIn : Json) :
    Except PyError (Store × Option String) := do
  match ← requestedZone configIn with
  | none => return (store, none)
  | some zone => return preserveToken py store zone

def notExternal (key : String) : PyError :=
  .valueError (key ++ " is not an external secret; internal secrets are " ++
    "minted on-box and cannot be supplied")

/-- The `secrets_in` loop of `apply_inputs`. -/
def applySecrets (overwrite : Bool) :
    List (String × Json) → Tally → Except PyError Tally
  | [], tally => .ok tally
  | item :: rest, tally =>
      if item.1 ∉ externalSecrets then .error (notExternal item.1)
      else applySecrets overwrite rest (captureSecret overwrite tally item)

/-- The items a truthy `secrets_in` or `config_in` is looped over. -/
def itemsOf (input : Json) : Except PyError (List (String × Json)) :=
  if !input.truthy then .ok []
  else
    match input with
    | .obj fields => .ok fields
    | _ => .error .attributeError

def applyInputs (py : Builtins) (secretsIn configIn : Json) (overwrite : Bool)
    (store : Store) : Except PyError (Store × List String) := do
  let (store, preserved) ← preserveOutgoingZoneToken py store configIn
  let changed := if preserved.isSome then ["cloudflare_api_tokens"] else []
  let secretItems ← itemsOf secretsIn
  let secrets ← applySecrets overwrite secretItems ⟨store.secrets, changed⟩
  let configItems ← itemsOf configIn
  let config := configItems.foldl (captureConfig overwrite)
    ⟨store.config, secrets.changed⟩
  return (⟨secrets.section_, config.section_⟩, config.changed)

end Store

end Catena

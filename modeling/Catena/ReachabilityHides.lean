import Catena.ReachabilityShown

/-!
# What a check does with the credentials

Two checks whose settings differ in the credentials alone run the same commands, send
the same requests but for the header that carries a credential, and report the same.
-/

namespace Catena.Tailnet

open Probes

def credentials : List String :=
  ["TAILSCALE_OAUTH_CLIENT_ID", "TAILSCALE_OAUTH_CLIENT_SECRET", "HEADSCALE_API_KEY"]

/-- Settings that differ in the credentials alone, each stored in both or in neither. -/
structure SameButCredentials (cfg other : PyDict String Json) : Prop where
  settings : ∀ key, key ∉ credentials → PyDict.get cfg key = PyDict.get other key
  stored : ∀ key ∈ credentials,
    isTrue (PyDict.get cfg key) = isTrue (PyDict.get other key)

section Matched

/-- The pair a token is asked for with. -/
def clientPair (library : Library) (cfg : PyDict String Json) : String :=
  Json.textOr library.py (PyDict.get cfg "TAILSCALE_OAUTH_CLIENT_ID") ++ ":" ++
    Json.textOr library.py (PyDict.get cfg "TAILSCALE_OAUTH_CLIENT_SECRET")

-- The tokens that are granted in place of each other.
variable (library : Library) (cfg other : PyDict String Json) (granted : Json → Json → Prop)

/-- Questions of the two checks: each request carries the credentials of its own
settings, or the token it was granted. -/
inductive Matched : Op → Op → Prop
  | run (argv : List String) : Matched (.run argv) (.run argv)
  | token (url : String) :
      Matched
        (.http "POST" url (clientHeaders (clientPair library cfg))
          (some "grant_type=client_credentials"))
        (.http "POST" url (clientHeaders (clientPair library other))
          (some "grant_type=client_credentials"))
  | device (url : String) {token tokenOther : Json} (given : granted token tokenOther) :
      Matched (.http "GET" url (bearer (token.toText library.py)) none)
        (.http "GET" url (bearer (tokenOther.toText library.py)) none)
  | nodes (url : String) :
      Matched
        (.http "GET" url
          (bearer (Json.textOr library.py (PyDict.get cfg "HEADSCALE_API_KEY"))) none)
        (.http "GET" url
          (bearer (Json.textOr library.py (PyDict.get other "HEADSCALE_API_KEY"))) none)
  | sleep : Matched .sleep .sleep

/-- Answers to the two requests for a token: one status, and tokens for each other. -/
def SameGrant (answer found : Int × Option Json) : Prop :=
  answer.1 = found.1 ∧ Option.Rel granted (accessToken answer) (accessToken found)

/-- The two checks are answered alike, up to the tokens granted. -/
structure SameAnswers (answers others : Answers Op Res Failure) : Prop where
  run : ∀ before beforeOther,
    List.Forall₂ (Matched library cfg other granted) before beforeOther → ∀ argv,
      answers before (.run argv) = others beforeOther (.run argv)
  token : ∀ before beforeOther,
    List.Forall₂ (Matched library cfg other granted) before beforeOther → ∀ url,
      Outcomes (SameGrant granted)
        (answers before (.http "POST" url (clientHeaders (clientPair library cfg))
          (some "grant_type=client_credentials")))
        (others beforeOther (.http "POST" url (clientHeaders (clientPair library other))
          (some "grant_type=client_credentials")))
  device : ∀ before beforeOther,
    List.Forall₂ (Matched library cfg other granted) before beforeOther →
    ∀ url token tokenOther, granted token tokenOther →
      answers before (.http "GET" url (bearer (token.toText library.py)) none) =
        others beforeOther (.http "GET" url (bearer (tokenOther.toText library.py)) none)
  nodes : ∀ before beforeOther,
    List.Forall₂ (Matched library cfg other granted) before beforeOther → ∀ url,
      answers before (.http "GET" url
          (bearer (Json.textOr library.py (PyDict.get cfg "HEADSCALE_API_KEY"))) none) =
        others beforeOther (.http "GET" url
          (bearer (Json.textOr library.py (PyDict.get other "HEADSCALE_API_KEY"))) none)
  sleep : ∀ before beforeOther,
    List.Forall₂ (Matched library cfg other granted) before beforeOther →
      answers before .sleep = others beforeOther .sleep

end Matched

/-- Two parts that go on alike and return the same. -/
abbrev Same {α : Type} (library : Library) (cfg other : PyDict String Json)
    (granted : Json → Json → Prop) (part partOther : Check α) : Prop :=
  Alike (Matched library cfg other granted) part partOther Eq

section Parts

variable {library : Library} {answers others : Answers Op Res Failure}
  {cfg other : PyDict String Json} {granted : Json → Json → Prop}

theorem same_run (answering : SameAnswers library cfg other granted answers others)
    (argv : List String) :
    Same library cfg other granted (run answers argv) (run others argv) :=
  alike_ask (.run argv) fun before beforeOther asking =>
    answering.run before beforeOther asking argv ▸ outcomes_refl _

theorem alike_token (answering : SameAnswers library cfg other granted answers others)
    (url : String) :
    Alike (Matched library cfg other granted)
      (http answers "POST" url (clientHeaders (clientPair library cfg))
        (some "grant_type=client_credentials"))
      (http others "POST" url (clientHeaders (clientPair library other))
        (some "grant_type=client_credentials")) (SameGrant granted) :=
  alike_ask (.token url) fun before beforeOther asking =>
    answering.token before beforeOther asking url

theorem same_device (answering : SameAnswers library cfg other granted answers others)
    (url : String) {token tokenOther : Json} (given : granted token tokenOther) :
    Same library cfg other granted
      (http answers "GET" url (bearer (token.toText library.py)) none)
      (http others "GET" url (bearer (tokenOther.toText library.py)) none) :=
  alike_ask (.device url given) fun before beforeOther asking =>
    (answering.device before beforeOther asking url token tokenOther given) ▸ outcomes_refl _

theorem same_nodes (answering : SameAnswers library cfg other granted answers others)
    (url : String) :
    Same library cfg other granted
      (http answers "GET" url
        (bearer (Json.textOr library.py (PyDict.get cfg "HEADSCALE_API_KEY"))) none)
      (http others "GET" url
        (bearer (Json.textOr library.py (PyDict.get other "HEADSCALE_API_KEY"))) none) :=
  alike_ask (.nodes url) fun before beforeOther asking =>
    (answering.nodes before beforeOther asking url) ▸ outcomes_refl _

theorem setting_same (alike : SameButCredentials cfg other) {key : String}
    (plain : key ∉ credentials) (default : String) :
    setting cfg key default = setting other key default := by
  unfold setting
  rw [alike.settings key plain]

theorem localStatus_same (answering : SameAnswers library cfg other granted answers others) :
    Same library cfg other granted (localStatus library answers) (localStatus library others) := by
  refine (alike_settle (same_run answering _)).next fun outcome => ?_
  cases outcome with
  | error failure =>
      cases failure with
      | python error =>
          cases error with
          | valueError message => exact alike_pure _
          | _ => exact alike_lift _
      | _ => exact alike_lift _
  | ok ran =>
      dsimp only
      split_ifs
      · exact alike_pure _
      · cases library.py.loads ran.out <;> exact alike_pure _

theorem tailscaleControl_same (answering : SameAnswers library cfg other granted answers others)
    (alike : SameButCredentials cfg other) (status : Json) :
    Same library cfg other granted (tailscaleControl library answers status cfg)
      (tailscaleControl library others status other) := by
  have client := alike.stored "TAILSCALE_OAUTH_CLIENT_ID" (by decide)
  have secret := alike.stored "TAILSCALE_OAUTH_CLIENT_SECRET" (by decide)
  unfold tailscaleControl
  rw [setting_same alike (by decide)]
  refine (alike_lift _).next fun node => ?_
  split_ifs
  · exact alike_pure _
  refine (alike_lift _).next fun base => ?_
  dsimp only
  rw [client, secret]
  split_ifs
  · exact alike_pure _
  refine (alike_token answering _).bind fun exchanged found same => ?_
  obtain ⟨code, tokens⟩ := same
  rw [code]
  generalize accessToken exchanged = token at tokens
  generalize accessToken found = tokenOther at tokens
  cases tokens with
  | none => exact alike_pure _
  | some given =>
      refine (same_device answering _ given).next fun answer => ?_
      split_ifs
      · exact alike_pure _
      · split <;> exact alike_pure _

theorem headscaleControl_same (answering : SameAnswers library cfg other granted answers others)
    (alike : SameButCredentials cfg other) (status : Json) :
    Same library cfg other granted (headscaleControl library answers status cfg)
      (headscaleControl library others status other) := by
  unfold headscaleControl
  dsimp only
  rw [alike.stored "HEADSCALE_API_KEY" (by decide), setting_same alike (by decide)]
  split_ifs
  · exact alike_pure _
  refine (alike_lift _).next fun nodeKey => (alike_lift _).next fun base => ?_
  refine (same_nodes answering _).next fun answer => ?_
  split
  · refine (alike_lift _).next fun chosen => ?_
    cases chosen with
    | none => exact alike_pure _
    | some node => exact (alike_lift _).next fun online => alike_pure _
  · exact alike_pure _

theorem controlReasons_same (answering : SameAnswers library cfg other granted answers others)
    (alike : SameButCredentials cfg other) (status : Json) (want : Wanted) :
    Same library cfg other granted (controlReasons library answers status cfg want)
      (controlReasons library others status other want) := by
  unfold controlReasons
  by_cases provider : want.headscale = true
  · simp only [provider, if_true]
    refine (headscaleControl_same answering alike status).next fun outcome => ?_
    cases outcome with
    | some reasons => exact alike_pure _
    | none => split_ifs <;> exact alike_pure _
  · simp only [provider, Bool.false_eq_true, if_false]
    exact (tailscaleControl_same answering alike status).next fun reasons => alike_pure _

theorem pingAPeer_same (answering : SameAnswers library cfg other granted answers others) (peers : List Peer) :
    Same library cfg other granted (pingAPeer answers peers) (pingAPeer others peers) := by
  induction peers with
  | nil => exact alike_pure _
  | cons peer rest ih =>
      refine (alike_lift _).next fun address => (same_run answering _).next fun ran => ?_
      split_ifs
      · exact alike_pure _
      · exact ih

theorem askPeers_same (answering : SameAnswers library cfg other granted answers others) (status : Json) (want : Wanted)
    (notes : List String) :
    Same library cfg other granted (askPeers library answers status want notes)
      (askPeers library others status want notes) := by
  refine (alike_lift _).next fun peers => ?_
  split_ifs
  · exact alike_pure _
  refine (pingAPeer_same answering _).next fun outcome => ?_
  cases outcome with
  | some peer => exact alike_pure _
  | none => exact (alike_lift _).next fun names => alike_pure _

theorem round_same (answering : SameAnswers library cfg other granted answers others)
    (alike : SameButCredentials cfg other) (want : Wanted) :
    Same library cfg other granted (round library answers cfg want) (round library others other want) := by
  refine (localStatus_same answering).next fun outcome => ?_
  cases outcome with
  | error message => exact alike_pure _
  | ok status =>
      refine (alike_lift _).next fun backend => ?_
      dsimp only
      split_ifs
      · exact alike_pure _
      refine (controlReasons_same answering alike status want).next ?_
      rintro ⟨reasons, notes⟩
      dsimp only
      split_ifs
      · exact askPeers_same answering status want notes
      · exact alike_pure _

theorem rounds_same (answering : SameAnswers library cfg other granted answers others)
    (alike : SameButCredentials cfg other) (want : Wanted) (left : Nat) :
    Same library cfg other granted (rounds library answers cfg want left) (rounds library others other want left) := by
  induction left with
  | zero => exact round_same answering alike want
  | succ left ih =>
      refine (round_same answering alike want).next fun found => ?_
      split_ifs
      · exact alike_pure _
      · have pause : Same library cfg other granted (ask answers .sleep) (ask others .sleep) :=
          alike_ask .sleep fun before beforeOther asking =>
            answering.sleep before beforeOther asking ▸ outcomes_refl _
        exact pause.next fun _ => ih

theorem policyReasons_same (answering : SameAnswers library cfg other granted answers others) (status : Json)
    (peers : List Peer) (ownTags : List String) :
    Same library cfg other granted (policyReasons library answers status peers ownTags)
      (policyReasons library others status peers ownTags) := by
  refine (alike_lift _).next fun own => (alike_lift _).next fun between => ?_
  refine (same_run answering _).next fun ran => ?_
  by_cases code : ran.code = 0
  · rw [if_neg (not_not_intro code)]
    cases policyAllows library ran.out between with
    | error failure => exact alike_pure _
    | ok outcome =>
        cases outcome with
        | none => exact alike_pure _
        | some allows =>
            exact (alike_lift _).next fun names => (alike_lift _).next fun listed => alike_pure _
  · rw [if_pos code]
    exact alike_pure _

theorem toolReasons_same (answering : SameAnswers library cfg other granted answers others) (own : List Scoped)
    (tool : String) (version : PyIp.Version) :
    Same library cfg other granted (toolReasons answers own tool version) (toolReasons others own tool version) := by
  unfold toolReasons
  dsimp only
  split_ifs
  · exact alike_pure _
  refine (alike_settle (same_run answering _)).next fun outcome => ?_
  cases outcome with
  | error failure =>
      cases failure with
      | os message => exact alike_pure _
      | _ => exact alike_lift _
  | ok ran =>
      dsimp only
      split_ifs
      · exact alike_pure _
      · exact (alike_lift _).next fun reasons => alike_pure _

theorem firewallReasons_same (answering : SameAnswers library cfg other granted answers others) (status : Json) :
    Same library cfg other granted (firewallReasons answers status) (firewallReasons others status) := by
  refine (alike_lift _).next fun own => ?_
  split_ifs
  · exact alike_pure _
  · exact (toolReasons_same answering own _ _).next fun first =>
      (toolReasons_same answering own _ _).next fun second => alike_pure _

theorem check_same (answering : SameAnswers library cfg other granted answers others)
    (alike : SameButCredentials cfg other) :
    Same library cfg other granted (check library answers cfg) (check library others other) := by
  have settings : wanted cfg = wanted other := by
    unfold wanted
    rw [setting_same alike (by decide), setting_same alike (by decide),
      setting_same alike (by decide)]
  unfold check
  rw [settings]
  refine (alike_lift _).next fun want => (rounds_same answering alike want _).next fun found => ?_
  split_ifs
  · exact (policyReasons_same answering _ _ _).next fun policy =>
      (firewallReasons_same answering _).next fun firewall => alike_pure _
  · exact alike_pure _

end Parts

/-- The report of a check says nothing of the credentials, and each of its questions
only in the header that carries them. -/
theorem check_hides_credentials (library : Library) (answers others : Answers Op Res Failure)
    (cfg other : PyDict String Json) (granted : Json → Json → Prop)
    (answering : SameAnswers library cfg other granted answers others)
    (alike : SameButCredentials cfg other) :
    (check library answers cfg []).1 = (check library others other []).1 ∧
      List.Forall₂ (Matched library cfg other granted) (check library answers cfg []).2
        (check library others other []).2 := by
  obtain ⟨asked, outcomes⟩ := check_same answering alike [] [] List.Forall₂.nil
  exact ⟨outcomes_eq outcomes, asked⟩

/-- A control server that grants a token to one client, and answers who holds it. -/
def checkingAnswers (pair token : String) : Answers Op Res Failure := fun before op =>
  match op with
  | .http method url headers data =>
      if method = "POST" then
        if headers = clientHeaders pair then
          .ok (200, some (.obj [("access_token", .str token)]))
        else .ok (401, none)
      else if headers = bearer token then sampleAnswers before (.http method url headers data)
      else .ok (401, none)
  | .run argv => sampleAnswers before (.run argv)
  | .sleep => sampleAnswers before .sleep

/-- The host of `sampleCfg` with another secret. -/
def sampleOtherCfg : PyDict String Json :=
  PyDict.set sampleCfg "TAILSCALE_OAUTH_CLIENT_SECRET" (.str "tskey-other")

/-- The tokens of the two runs below. -/
def sampleGranted (token tokenOther : Json) : Prop :=
  token = .str "tskey-first" ∧ tokenOther = .str "tskey-second"

theorem checkingAnswers_same :
    SameAnswers sampleLibrary sampleCfg sampleOtherCfg sampleGranted
      (checkingAnswers "kID:tskey-client" "tskey-first")
      (checkingAnswers "kID:tskey-other" "tskey-second") where
  run _ _ _ _ := rfl
  token before beforeOther _ url := by
    have first : clientPair sampleLibrary sampleCfg = "kID:tskey-client" := by decide +kernel
    have second : clientPair sampleLibrary sampleOtherCfg = "kID:tskey-other" := by
      decide +kernel
    simp only [checkingAnswers, first, second, if_true]
    exact ⟨rfl, .some ⟨rfl, rfl⟩⟩
  device before beforeOther _ url token tokenOther given := by
    obtain ⟨rfl, rfl⟩ := given
    have get : ("GET" : String) ≠ "POST" := by decide
    simp only [checkingAnswers, Json.toText, get, if_false, if_true]
    rfl
  nodes _ _ _ _ := by
    have get : ("GET" : String) ≠ "POST" := by decide
    have noKey : Json.textOr sampleLibrary.py (PyDict.get sampleCfg "HEADSCALE_API_KEY") = "" := by
      decide +kernel
    have noKeyOther :
        Json.textOr sampleLibrary.py (PyDict.get sampleOtherCfg "HEADSCALE_API_KEY") = "" := by
      decide +kernel
    have noFirst : bearer "" ≠ bearer "tskey-first" := by decide +kernel
    have noSecond : bearer "" ≠ bearer "tskey-second" := by decide +kernel
    simp only [checkingAnswers, noKey, noKeyOther, get, noFirst, noSecond, if_false]
  sleep _ _ _ := rfl

theorem sampleCfg_same : SameButCredentials sampleCfg sampleOtherCfg where
  settings key plain := by
    have another : "TAILSCALE_OAUTH_CLIENT_SECRET" ≠ key := by
      rintro rfl
      exact plain (by decide)
    exact (PyDict.get_set_ne sampleCfg (.str "tskey-other") another).symm
  stored := by decide +kernel

theorem sample_hides_credentials :
    (check sampleLibrary (checkingAnswers "kID:tskey-client" "tskey-first") sampleCfg []).1 =
        (check sampleLibrary (checkingAnswers "kID:tskey-other" "tskey-second")
          sampleOtherCfg []).1 ∧
      List.Forall₂ (Matched sampleLibrary sampleCfg sampleOtherCfg sampleGranted)
        (check sampleLibrary (checkingAnswers "kID:tskey-client" "tskey-first") sampleCfg []).2
        (check sampleLibrary (checkingAnswers "kID:tskey-other" "tskey-second")
          sampleOtherCfg []).2 :=
  check_hides_credentials sampleLibrary _ _ sampleCfg sampleOtherCfg sampleGranted
    checkingAnswers_same sampleCfg_same

end Catena.Tailnet

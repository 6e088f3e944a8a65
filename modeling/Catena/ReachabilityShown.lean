import Catena.ReachabilityPolicy

/-!
# What a check without reasons has heard

Where `check` gives no reason against the lockdown, one of its attempts heard all that
speaks for it: a status of this host, the control server's word, and, where a peer is
asked for, a ping, a rule of the policy and both rulesets of the firewall.
-/

namespace Catena.Tailnet

open Probes ByteLines

section Shown

variable (library : Library) (answers : Answers Op Res Failure) (cfg : PyDict String Json)

def statusCommand : List String :=
  ["tailscale", "status", "--json"]

def pingCommand (address : String) : List String :=
  ["tailscale", "ping", "--tsmp", "--c", "3", "--timeout", "5s", address]

def netmapCommand : List String :=
  ["tailscale", "debug", "netmap"]

def clientHeaders (pair : String) : PyDict String String :=
  [("Authorization", "Basic " ++ String.ofList (base64 (utf8 pair.toList))),
    ("Content-Type", "application/x-www-form-urlencoded")]

/-- The request for a token, with the OAuth client of the settings. -/
def tokenRequest (base : String) : Op :=
  .http "POST" (stripSlashes base ++ "/oauth/token")
    (clientHeaders (Json.textOr library.py (PyDict.get cfg "TAILSCALE_OAUTH_CLIENT_ID") ++ ":" ++
      Json.textOr library.py (PyDict.get cfg "TAILSCALE_OAUTH_CLIENT_SECRET")))
    (some "grant_type=client_credentials")

/-- The commands and requests of an attempt.  A request is for a token or, with a token
that was granted, for the record of a device, at Tailscale, or for the nodes, at
Headscale. -/
inductive Question : Op → Prop
  | status : Question (.run statusCommand)
  | ping (address : String) : Question (.run (pingCommand address))
  | netmap : Question (.run netmapCommand)
  | saved {tool : String} (either : tool = "iptables-save" ∨ tool = "ip6tables-save") :
      Question (.run [tool])
  | token {base : String}
      (given : setting cfg "TAILSCALE_API_BASE" "https://api.tailscale.com/api/v2" = .ok base) :
      Question (tokenRequest library cfg base)
  | device {base : String}
      (given : setting cfg "TAILSCALE_API_BASE" "https://api.tailscale.com/api/v2" = .ok base)
      {before : List Op} {exchanged : Int × Option Json} {token : Json}
      (answered : answers before (tokenRequest library cfg base) = .ok exchanged)
      (granted : accessToken exchanged = some token) (node : String) :
      Question (.http "GET" (stripSlashes base ++ ("/device/" ++ quote node ++ "?fields=all"))
        (bearer (token.toText library.py)) none)
  | nodes {base : String} (given : setting cfg "HEADSCALE_URL" "" = .ok base) :
      Question (.http "GET" (stripSlashes base ++ "/api/v1/node")
        (bearer (Json.textOr library.py (PyDict.get cfg "HEADSCALE_API_KEY"))) none)

/-- The status has been read from the tailnet's daemon on this host. -/
def StatusRead (since asked : List Op) (status : Json) : Prop :=
  ∃ ran, Heard answers since asked (.run statusCommand) ran ∧ ran.code = 0 ∧
    library.py.loads ran.out = some status

/-- The record of this node at Tailscale: connected, and open to connections. -/
def SeenByTailscale (since asked : List Op) (status : Json) : Prop :=
  ∃ node base headers fields,
    ownText library status "ID" = .ok node ∧
    setting cfg "TAILSCALE_API_BASE" "https://api.tailscale.com/api/v2" = .ok base ∧
    Heard answers since asked
      (.http "GET" (stripSlashes base ++ ("/device/" ++ quote node ++ "?fields=all")) headers
        none) (200, some (.obj fields)) ∧
    isTrue (PyDict.get fields "connectedToControl") = true ∧
    isTrue (PyDict.get fields "blocksIncomingConnections") = false

/-- The record of this node at Headscale: online. -/
def SeenByHeadscale (since asked : List Op) (status : Json) : Prop :=
  ∃ nodeKey base headers fields nodes node online,
    ownText library status "PublicKey" = .ok nodeKey ∧
    setting cfg "HEADSCALE_URL" "" = .ok base ∧
    Heard answers since asked (.http "GET" (stripSlashes base ++ "/api/v1/node") headers none)
      (200, some (.obj fields)) ∧
    entries (orNone (PyDict.get fields "nodes")) = .ok nodes ∧ node ∈ nodes ∧
    (∃ found, field node "nodeKey" = .ok found ∧ (found.getD .null).pyEq (.str nodeKey) = true) ∧
    field node "online" = .ok online ∧ isTrue online = true

/-- The control server sees this host; a Headscale server without a key is asked only
where a peer is. -/
def Seen (want : Wanted) (since asked : List Op) (status : Json) : Prop :=
  if want.headscale then
    SeenByHeadscale library answers cfg since asked status ∨
      (want.requirePeer = false ∧ isTrue (PyDict.get cfg "HEADSCALE_API_KEY") = false)
  else SeenByTailscale library answers cfg since asked status

/-- The record of a device an administrator could be on: online, with none of the tags. -/
structure Administers (ownTags : List String) (record : Json) : Prop where
  online : ∃ value, field record "Online" = .ok value ∧ isTrue value = true
  untagged : ∃ tags listed, field record "Tags" = .ok tags ∧
    entries (orNone tags) = .ok listed ∧ ∀ tag ∈ ownTags, Json.str tag ∉ listed

/-- The peer is read from such a record of the status. -/
def Listed (ownTags : List String) (status : Json) (peer : Peer) : Prop :=
  ∃ found records record, field status "Peer" = .ok found ∧ orEmpty found = .obj records ∧
    record ∈ records.map Prod.snd ∧ eligible ownTags record = .ok (some peer) ∧
    Administers ownTags record

def PeerAnswered (peers : List Peer) (since asked : List Op) : Prop :=
  ∃ peer ∈ peers.take maxPeers, ∃ address ran,
    text (peer.addresses.headD .null) = .ok address ∧
    Heard answers since asked (.run (pingCommand address)) ran ∧ ran.code = 0

/-- The policy this host was sent lets one of the peers open SSH to it. -/
def PolicyLetsIn (peers : List Peer) (own : List Scoped) (since asked : List Op) : Prop :=
  ∃ ran rules,
    Heard answers since asked (.run netmapCommand) ran ∧ ran.code = 0 ∧
    policyRules library ran.out = .ok rules ∧
    ∃ rule ∈ rules, ∃ src, ∃ dst ∈ own,
      (∃ peer ∈ peers, ∃ address ∈ peer.addresses, ipAddress address = .ok src) ∧
      src.address.version = dst.address.version ∧ Opens rule src dst

/-- The ruleset a tool printed: the walk of the SSH packet finds no reason in it. -/
def RulesetLetsIn (own : List Scoped) (tool : String) (version : PyIp.Version)
    (since asked : List Op) : Prop :=
  ofVersion own version = [] ∨
    ∃ ran tables, Heard answers since asked (.run [tool]) ran ∧ ran.code = 0 ∧
      Firewall.parseRuleset ran.out = .ok tables ∧
      Firewall.walkInbound (ofVersion own version) tables = .ok []

/-- What is heard beyond the control server where a peer is asked for. -/
structure LetIn (want : Wanted) (status : Json) (peers : List Peer) (own : List Scoped)
    (since asked : List Op) : Prop where
  listed : ∀ peer ∈ peers, Listed want.ownTags status peer
  owned : ownAddresses status = .ok own
  addressed : own ≠ []
  answered : PeerAnswered answers peers since asked
  policy : PolicyLetsIn library answers peers own since asked
  first : RulesetLetsIn answers own "iptables-save" .v4 since asked
  second : RulesetLetsIn answers own "ip6tables-save" .v6 since asked

/-- All that a check without reasons rests on. -/
structure Confirmed (want : Wanted) (since asked : List Op) (status : Json) : Prop where
  read : StatusRead library answers since asked status
  running : ∃ backend, field status "BackendState" = .ok (some backend) ∧
    backend.pyEq (.str "Running") = true
  seen : Seen library answers cfg want since asked status
  letIn : want.requirePeer = true → ∃ peers own,
    LetIn library answers want status peers own since asked

end Shown

section Parts

variable {library : Library} {answers : Answers Op Res Failure} {cfg : PyDict String Json}

theorem finds_run {argv : List String} (asked : List Op)
    (question : Question library answers cfg (.run argv)) :
    Finds (Question library answers cfg) (run answers argv) asked fun ran after =>
      Heard answers asked after (.run argv) ran :=
  finds_ask asked question

theorem finds_http {method url : String} {headers : PyDict String String}
    {data : Option String} (asked : List Op)
    (question : Question library answers cfg (.http method url headers data)) :
    Finds (Question library answers cfg) (http answers method url headers data) asked
      fun answer after =>
        Heard answers asked after (.http method url headers data) answer :=
  finds_ask asked question

theorem localStatus_finds (asked : List Op) :
    Finds (Question library answers cfg) (localStatus library answers) asked fun outcome after =>
      ∀ status, outcome = .ok status → StatusRead library answers asked after status := by
  unfold localStatus
  refine (finds_settle (finds_run asked .status)).bind ?_
  intro outcome after _ heard
  cases outcome with
  | error failure =>
      cases failure with
      | python error =>
          cases error with
          | valueError message => exact finds_pure fun status same => by cases same
          | _ => exact finds_raise _ _ _
      | _ => exact finds_raise _ _ _
  | ok ran =>
      have answer := heard ran rfl
      by_cases code : ran.code = 0
      · cases loaded : library.py.loads ran.out with
        | none =>
            simp only [code, ne_eq, not_true_eq_false, if_false, loaded]
            exact finds_pure fun status same => by cases same
        | some found =>
            simp only [code, ne_eq, not_true_eq_false, if_false, loaded]
            refine finds_pure fun status same => ?_
            cases same
            exact ⟨ran, answer, code, loaded⟩
      · simp only [ne_eq, code, not_false_eq_true, if_true]
        exact finds_pure fun status same => by cases same

theorem deviceReasons_nil {fields : PyDict String Json} (none_given : deviceReasons fields = []) :
    isTrue (PyDict.get fields "connectedToControl") = true ∧
      isTrue (PyDict.get fields "blocksIncomingConnections") = false := by
  obtain ⟨connected, open_to⟩ := List.append_eq_nil_iff.mp none_given
  constructor
  · by_contra not_connected
    simp [not_connected] at connected
  · by_contra closed
    simp [closed] at open_to

theorem tailscaleControl_finds (status : Json) (asked : List Op) :
    Finds (Question library answers cfg) (tailscaleControl library answers status cfg) asked
      fun reasons after => reasons = [] →
        SeenByTailscale library answers cfg asked after status := by
  unfold tailscaleControl
  refine (finds_lift _ asked).bind ?_
  rintro node _ _ ⟨named, rfl⟩
  split_ifs with blank
  · exact finds_pure fun none_given => by cases none_given
  refine (finds_lift _ _).bind ?_
  rintro base _ _ ⟨given, rfl⟩
  dsimp only
  split_ifs with stored
  · exact finds_pure fun none_given => by cases none_given
  refine (finds_http _ (.token given)).bind ?_
  rintro exchanged after begun ⟨before, _, _, answered⟩
  cases granted : accessToken exchanged with
  | none => exact finds_pure fun none_given => by cases none_given
  | some token =>
      dsimp only
      simp only [String.append_assoc]
      refine (finds_http _ (.device given answered granted node)).bind ?_
      intro answer later onward heard
      split_ifs with forbidden
      · exact finds_pure fun none_given => by cases none_given
      split
      · refine finds_pure fun none_given => ?_
        obtain ⟨connected, opened⟩ := deviceReasons_nil none_given
        exact ⟨node, base, _, _, named, given, heard.widen begun (List.prefix_refl _),
          connected, opened⟩
      · exact finds_pure fun none_given => by cases none_given

theorem nodeOf_some {key : String} {nodes : List Json} {node : Json}
    (found : nodeOf key nodes = .ok (some node)) :
    node ∈ nodes ∧ ∃ value, field node "nodeKey" = .ok value ∧
      (value.getD .null).pyEq (.str key) = true := by
  induction nodes with
  | nil => simp [nodeOf] at found
  | cons first rest ih =>
      cases read : field first "nodeKey" with
      | error failure => simp [nodeOf, read] at found
      | ok value =>
          by_cases same : (value.getD .null).pyEq (.str key) = true
          · simp only [nodeOf, read, same, if_true, Except.ok.injEq, Option.some.injEq] at found
            subst found
            exact ⟨List.mem_cons_self, value, read, same⟩
          · simp only [nodeOf, read, same, Bool.false_eq_true, if_false] at found
            obtain ⟨member, value_read⟩ := ih found
            exact ⟨List.mem_cons_of_mem _ member, value_read⟩

theorem headscaleControl_finds (status : Json) (asked : List Op) :
    Finds (Question library answers cfg) (headscaleControl library answers status cfg) asked
      fun outcome after =>
        (outcome = none → isTrue (PyDict.get cfg "HEADSCALE_API_KEY") = false) ∧
        (outcome = some [] → SeenByHeadscale library answers cfg asked after status) := by
  unfold headscaleControl
  dsimp only
  split_ifs with stored
  · exact finds_pure ⟨fun _ => by simpa using stored, (by cases ·)⟩
  refine (finds_lift _ asked).bind ?_
  rintro nodeKey _ _ ⟨named, rfl⟩
  refine (finds_lift _ _).bind ?_
  rintro base _ _ ⟨given, rfl⟩
  refine (finds_http _ (.nodes given)).bind ?_
  intro answer after _ heard
  split
  · rename_i fields
    refine (finds_lift _ _).bind ?_
    rintro chosen _ _ ⟨listed, rfl⟩
    cases chosen with
    | none => exact finds_pure ⟨(by cases ·), (by cases ·)⟩
    | some node =>
        refine (finds_lift _ _).bind ?_
        rintro online _ _ ⟨shown, rfl⟩
        refine finds_pure ⟨(by cases ·), fun same => ?_⟩
        cases nodes : entries (orNone (PyDict.get fields "nodes")) with
        | error failure => simp [nodes, Except.bind] at listed
        | ok entered =>
            simp only [nodes, Except.bind] at listed
            obtain ⟨member, keyed⟩ := nodeOf_some listed
            refine ⟨nodeKey, base, _, fields, entered, node, online, named, given, heard, nodes,
              member, keyed, shown, ?_⟩
            by_contra offline
            simp [offline] at same
  · exact finds_pure ⟨(by cases ·), (by cases ·)⟩

theorem controlReasons_finds (status : Json) (want : Wanted) (asked : List Op) :
    Finds (Question library answers cfg) (controlReasons library answers status cfg want) asked
      fun found after => found.1 = [] → Seen library answers cfg want asked after status := by
  unfold controlReasons
  by_cases provider : want.headscale = true
  · rw [if_pos provider]
    refine (headscaleControl_finds status asked).bind ?_
    rintro outcome after _ ⟨notAsked, seen⟩
    cases outcome with
    | some reasons =>
        refine finds_pure fun same => ?_
        simp only at same
        subst same
        simpa [Seen, provider] using Or.inl (seen rfl)
    | none =>
        dsimp only
        split_ifs with required
        · exact finds_pure fun same => by cases same
        · refine finds_pure fun _ => ?_
          simp [Seen, provider, notAsked rfl, required]
  · rw [if_neg provider]
    refine (tailscaleControl_finds status asked).bind ?_
    intro reasons after _ seen
    refine finds_pure fun same => ?_
    simpa [Seen, provider] using seen same

theorem pingAPeer_finds (peers : List Peer) (asked : List Op) :
    Finds (Question library answers cfg) (pingAPeer answers peers) asked fun outcome after =>
      ∀ peer, outcome = some peer → peer ∈ peers ∧ ∃ address ran,
        text (peer.addresses.headD .null) = .ok address ∧
        Heard answers asked after (.run (pingCommand address)) ran ∧ ran.code = 0 := by
  induction peers generalizing asked with
  | nil => exact finds_pure fun peer same => by cases same
  | cons first rest ih =>
      unfold pingAPeer
      refine (finds_lift _ asked).bind ?_
      rintro address _ _ ⟨read, rfl⟩
      refine (finds_run _ (.ping address)).bind ?_
      intro ran after onward heard
      split_ifs with code
      · refine finds_pure fun peer same => ?_
        cases same
        exact ⟨List.mem_cons_self, address, ran, read, heard, code⟩
      · refine (ih after).mono fun outcome later after_onward found peer same => ?_
        obtain ⟨member, address, ran, read, answered, code⟩ := found peer same
        exact ⟨List.mem_cons_of_mem _ member, address, ran, read,
          answered.widen onward (List.prefix_refl _), code⟩

theorem tagged_false {ownTags : List String} {tags : Json}
    (untagged : tagged ownTags tags = .ok false) :
    ∃ listed, entries tags = .ok listed ∧ ∀ tag ∈ ownTags, Json.str tag ∉ listed := by
  unfold tagged at untagged
  cases read : entries tags with
  | error failure => simp [read, bind, Except.bind] at untagged
  | ok listed =>
      refine ⟨listed, rfl, fun tag own member => ?_⟩
      simp only [read, bind, Except.bind] at untagged
      split at untagged
      · cases untagged
      · simp only [pure, Except.pure, Except.ok.injEq, List.any_eq_false] at untagged
        simpa [own] using untagged (.str tag) member

theorem administers_of_eligible {ownTags : List String} {record : Json} {peer : Peer}
    (found : eligible ownTags record = .ok (some peer)) : Administers ownTags record := by
  unfold eligible at found
  cases online : field record "Online" with
  | error failure => simp [online, bind, Except.bind] at found
  | ok value =>
      by_cases isOnline : isTrue value = true
      swap
      · simp [online, isOnline, bind, Except.bind, pure, Except.pure] at found
      cases read : field record "Tags" with
      | error failure => simp [online, isOnline, read, bind, Except.bind] at found
      | ok tags =>
          cases carried : tagged ownTags (orNone tags) with
          | error failure => simp [online, isOnline, read, carried, bind, Except.bind] at found
          | ok answer =>
              cases answer with
              | true =>
                  simp [online, isOnline, read, carried, bind, Except.bind, pure, Except.pure]
                    at found
              | false =>
                  obtain ⟨listed, entered, untagged⟩ := tagged_false carried
                  exact ⟨⟨value, online, isOnline⟩, tags, listed, read, entered, untagged⟩

theorem eligiblePeers_listed {status : Json} {ownTags : List String} {peers : List Peer}
    (found : eligiblePeers status ownTags = .ok peers) :
    ∀ peer ∈ peers, Listed ownTags status peer := by
  intro peer member
  unfold eligiblePeers at found
  cases read : field status "Peer" with
  | error failure => simp [read, bind, Except.bind] at found
  | ok value =>
      simp only [read, bind, Except.bind] at found
      split at found
      · rename_i records isObj
        cases came : (records.map Prod.snd).mapM (eligible ownTags) with
        | error failure => simp [came] at found
        | ok results =>
            simp only [came, pure, Except.pure, Except.ok.injEq] at found
            subst found
            obtain ⟨result, inResults, same⟩ := List.mem_filterMap.mp member
            simp only [id] at same
            subst same
            obtain ⟨record, inRecords, isEligible⟩ := mem_of_mapM_ok came _ inResults
            exact ⟨value, records, record, read, isObj, inRecords, isEligible,
              administers_of_eligible isEligible⟩
      · cases found

def PeersHeard (answers : Answers Op Res Failure) (want : Wanted) (found : Round)
    (since asked : List Op) : Prop :=
  eligiblePeers found.status want.ownTags = .ok found.peers ∧
    PeerAnswered answers found.peers since asked

theorem askPeers_finds (status : Json) (want : Wanted) (notes : List String) (asked : List Op) :
    Finds (Question library answers cfg) (askPeers library answers status want notes) asked
      fun found after =>
        found.status = status ∧
          (found.reasons = [] → PeersHeard answers want found asked after) := by
  unfold askPeers
  refine (finds_lift _ asked).bind ?_
  rintro peers _ _ ⟨listed, rfl⟩
  split_ifs with none_online
  · exact finds_pure ⟨rfl, fun same => by cases same⟩
  refine (pingAPeer_finds (peers.take maxPeers) _).bind ?_
  intro outcome after _ found
  cases outcome with
  | some peer => exact finds_pure ⟨rfl, fun _ => ⟨listed, peer, found peer rfl⟩⟩
  | none =>
      refine (finds_lift _ _).bind ?_
      intro names later _ _
      exact finds_pure ⟨rfl, fun same => by cases same⟩

/-- What an attempt without reasons has heard. -/
structure RoundHeard (library : Library) (answers : Answers Op Res Failure)
    (cfg : PyDict String Json) (want : Wanted) (found : Round) (since asked : List Op) :
    Prop where
  read : StatusRead library answers since asked found.status
  running : ∃ backend, field found.status "BackendState" = .ok (some backend) ∧
    backend.pyEq (.str "Running") = true
  seen : Seen library answers cfg want since asked found.status
  peers : want.requirePeer = true → PeersHeard answers want found since asked

theorem StatusRead.later {status : Json} {since asked after : List Op}
    (read : StatusRead library answers since asked status) (onward : asked <+: after) :
    StatusRead library answers since after status := by
  obtain ⟨ran, heard, code, loaded⟩ := read
  exact ⟨ran, heard.widen (List.prefix_refl _) onward, code, loaded⟩

theorem Seen.widen {want : Wanted} {status : Json} {since asked earlier after : List Op}
    (seen : Seen library answers cfg want since asked status) (backward : earlier <+: since)
    (onward : asked <+: after) : Seen library answers cfg want earlier after status := by
  unfold Seen at seen ⊢
  split_ifs at seen ⊢
  · refine seen.imp_left ?_
    rintro ⟨nodeKey, base, headers, fields, nodes, node, online, named, given, heard, rest⟩
    exact ⟨nodeKey, base, headers, fields, nodes, node, online, named, given,
      heard.widen backward onward, rest⟩
  · obtain ⟨node, base, headers, fields, named, given, heard, rest⟩ := seen
    exact ⟨node, base, headers, fields, named, given, heard.widen backward onward, rest⟩

theorem PeerAnswered.widen {peers : List Peer} {since asked earlier after : List Op}
    (answered : PeerAnswered answers peers since asked) (backward : earlier <+: since)
    (onward : asked <+: after) : PeerAnswered answers peers earlier after := by
  obtain ⟨peer, member, address, ran, read, heard, code⟩ := answered
  exact ⟨peer, member, address, ran, read, heard.widen backward onward, code⟩

theorem round_finds (want : Wanted) (asked : List Op) :
    Finds (Question library answers cfg) (round library answers cfg want) asked fun found after =>
      found.reasons = [] → RoundHeard library answers cfg want found asked after := by
  unfold round
  refine (localStatus_finds asked).bind ?_
  intro outcome after begun read
  cases outcome with
  | error message => exact finds_pure fun same => by cases same
  | ok status =>
      have statusRead := read status rfl
      refine (finds_lift _ _).bind ?_
      rintro backend now _ ⟨state, rfl⟩
      dsimp only
      split_ifs with stopped
      · exact finds_pure fun same => by cases same
      have running : ∃ value, field status "BackendState" = .ok (some value) ∧
          value.pyEq (.str "Running") = true := by
        cases backend with
        | none => simp [Json.pyEq, Json.number] at stopped
        | some value => exact ⟨value, state, by simpa using stopped⟩
      refine (controlReasons_finds status want now).bind ?_
      rintro ⟨reasons, notes⟩ later onward seen
      dsimp only
      split_ifs with asksPeers
      · obtain ⟨required, noReason⟩ := Bool.and_eq_true_iff.mp asksPeers
        have seen := seen (List.isEmpty_iff.mp noReason)
        refine (askPeers_finds status want notes later).mono ?_
        rintro found last lastOnward ⟨sameStatus, heard⟩ none_given
        obtain ⟨eligible, answered⟩ := heard none_given
        have fromStart := begun.trans onward
        exact ⟨sameStatus ▸ statusRead.later (onward.trans lastOnward), sameStatus ▸ running,
          sameStatus ▸ seen.widen begun lastOnward,
          fun _ => ⟨eligible, answered.widen fromStart (List.prefix_refl _)⟩⟩
      · refine finds_pure fun none_given => ?_
        simp only at none_given
        subst none_given
        refine ⟨statusRead.later onward, running, (seen rfl).widen begun (List.prefix_refl _),
          fun required => ?_⟩
        simp [required] at asksPeers

/-- A question of an attempt, or the pause before one. -/
def Step (library : Library) (answers : Answers Op Res Failure) (cfg : PyDict String Json)
    (op : Op) : Prop :=
  Question library answers cfg op ∨ op = .sleep

theorem rounds_finds (want : Wanted) (left : Nat) (asked : List Op) :
    Finds (Step library answers cfg) (rounds library answers cfg want left) asked fun found after =>
      found.reasons = [] → ∃ since, Onward (Question library answers cfg) since after ∧
        RoundHeard library answers cfg want found since after := by
  induction left generalizing asked with
  | zero =>
      refine ((round_finds want asked).noting fun _ => Or.inl).mono ?_
      rintro found after _ ⟨onward, heard⟩ none_given
      exact ⟨asked, onward, heard none_given⟩
  | succ left ih =>
      unfold rounds
      refine ((round_finds want asked).noting fun _ => Or.inl).bind ?_
      rintro found after _ ⟨onward, heard⟩
      split_ifs with done
      · exact finds_pure fun none_given => ⟨asked, onward, heard none_given⟩
      · refine (finds_ask after (Or.inr rfl)).bind ?_
        intro _ later _ _
        exact ih later

theorem policyAllows_none {netmap : String} {between : List (Scoped × Scoped)}
    (allowed : policyAllows library netmap between = .ok none) :
    ∃ rules, policyRules library netmap = .ok rules ∧
      ∃ rule ∈ rules, ∃ pair ∈ between, allowsSsh rule pair.1 pair.2 = .ok true := by
  unfold policyAllows at allowed
  cases read : policyRules library netmap with
  | error failure => simp [read, bind, Except.bind] at allowed
  | ok rules =>
      simp only [read, bind, Except.bind] at allowed
      cases looked : anyOf (fun rule => anyOf (fun pair => allowsSsh rule pair.1 pair.2) between)
          rules with
      | error failure => simp [looked] at allowed
      | ok answer =>
          cases answer with
          | true =>
              obtain ⟨rule, member, holds⟩ := anyOf_true looked
              obtain ⟨pair, between, lets⟩ := anyOf_true holds
              exact ⟨rules, rfl, rule, member, pair, between, lets⟩
          | false =>
              simp only [looked, Bool.false_eq_true, if_false] at allowed
              cases described : rules.mapM (describe library) <;>
                simp [described, pure, Except.pure] at allowed

theorem policyReasons_finds {status : Json} {peers : List Peer} {ownTags : List String}
    (asked : List Op) :
    Finds (Question library answers cfg) (policyReasons library answers status peers ownTags) asked
      fun reasons after => reasons = [] → ∃ own, ownAddresses status = .ok own ∧
        PolicyLetsIn library answers peers own asked after := by
  unfold policyReasons
  refine (finds_lift _ asked).bind ?_
  rintro own _ _ ⟨owned, rfl⟩
  refine (finds_lift _ _).bind ?_
  rintro between _ _ ⟨paired, rfl⟩
  refine (finds_run _ .netmap).bind ?_
  intro ran after _ heard
  by_cases code : ran.code = 0
  swap
  · rw [if_pos code]
    exact finds_pure fun same => by cases same
  rw [if_neg (not_not_intro code)]
  cases read : policyAllows library ran.out between with
  | error failure => exact finds_pure fun same => by cases same
  | ok outcome =>
      cases outcome with
      | some allows =>
          refine (finds_lift _ _).bind ?_
          intro names _ _ _
          refine (finds_lift _ _).bind ?_
          intro listed _ _ _
          exact finds_pure fun same => by cases same
      | none =>
          refine finds_pure fun _ => ?_
          obtain ⟨rules, listed, rule, member, pair, inPairs, lets⟩ := policyAllows_none read
          obtain ⟨ofPeer, isOwn, family⟩ := mem_pairs paired inPairs
          exact ⟨own, owned, ran, rules, heard, code, listed, rule, member, pair.1, pair.2,
            isOwn, ofPeer, family, allowsSsh_opens lets⟩

theorem toolReasons_finds {own : List Scoped} {tool : String} {version : PyIp.Version}
    (either : tool = "iptables-save" ∨ tool = "ip6tables-save") (asked : List Op) :
    Finds (Question library answers cfg) (toolReasons answers own tool version) asked
      fun reasons after =>
        reasons = [] → RulesetLetsIn answers own tool version asked after := by
  unfold toolReasons
  dsimp only
  split_ifs with absent
  · exact finds_pure fun _ => Or.inl absent
  refine (finds_settle (finds_run asked (.saved either))).bind ?_
  intro outcome after _ heard
  cases outcome with
  | error failure =>
      cases failure with
      | os message => exact finds_pure fun same => by cases same
      | _ => exact finds_raise _ _ _
  | ok ran =>
      have answer := heard ran rfl
      dsimp only
      split_ifs with code
      · exact finds_pure fun same => by cases same
      refine (finds_lift _ _).bind ?_
      rintro reasons _ _ ⟨walked, rfl⟩
      refine finds_pure fun same => ?_
      have none_given := List.map_eq_nil_iff.mp same
      subst none_given
      unfold walkSaved at walked
      cases parsed : Firewall.parseRuleset ran.out with
      | error failure => simp [parsed, Except.bind] at walked
      | ok tables =>
          simp only [parsed, Except.bind] at walked
          cases ended : Firewall.walkInbound (ofVersion own version) tables with
          | error failure => simp [ended] at walked
          | ok found =>
              simp only [ended, Except.ok.injEq] at walked
              subst walked
              exact Or.inr ⟨ran, tables, answer, by simpa using code, parsed, ended⟩

theorem RulesetLetsIn.widen {own : List Scoped} {tool : String} {version : PyIp.Version}
    {since asked earlier after : List Op}
    (letsIn : RulesetLetsIn answers own tool version since asked) (backward : earlier <+: since)
    (onward : asked <+: after) : RulesetLetsIn answers own tool version earlier after := by
  refine letsIn.imp_right ?_
  rintro ⟨ran, tables, heard, rest⟩
  exact ⟨ran, tables, heard.widen backward onward, rest⟩

theorem PolicyLetsIn.widen {peers : List Peer} {own : List Scoped}
    {since asked earlier after : List Op}
    (letsIn : PolicyLetsIn library answers peers own since asked) (backward : earlier <+: since)
    (onward : asked <+: after) : PolicyLetsIn library answers peers own earlier after := by
  obtain ⟨ran, rules, heard, rest⟩ := letsIn
  exact ⟨ran, rules, heard.widen backward onward, rest⟩

theorem firewallReasons_finds (status : Json) (asked : List Op) :
    Finds (Question library answers cfg) (firewallReasons answers status) asked fun reasons after =>
      reasons = [] → ∃ own, ownAddresses status = .ok own ∧ own ≠ [] ∧
        RulesetLetsIn answers own "iptables-save" .v4 asked after ∧
        RulesetLetsIn answers own "ip6tables-save" .v6 asked after := by
  unfold firewallReasons
  refine (finds_lift _ asked).bind ?_
  rintro own _ _ ⟨owned, rfl⟩
  split_ifs with absent
  · exact finds_pure fun same => by cases same
  refine (toolReasons_finds (Or.inl rfl) _).bind ?_
  intro first after begun firstHeard
  refine (toolReasons_finds (Or.inr rfl) _).bind ?_
  intro second later onward secondHeard
  refine finds_pure fun same => ?_
  obtain ⟨noFirst, noSecond⟩ := List.append_eq_nil_iff.mp same
  exact ⟨own, owned, absent, (firstHeard noFirst).widen (List.prefix_refl _) onward,
    (secondHeard noSecond).widen begun (List.prefix_refl _)⟩

theorem report_ok {reasons notes : List String} (isOk : (report reasons notes).ok = true) :
    reasons = [] :=
  List.isEmpty_iff.mp isOk

theorem RoundHeard.confirmed {want : Wanted} {found : Round} {since asked : List Op}
    (heard : RoundHeard library answers cfg want found since asked)
    (quiet : want.requirePeer = false) :
    Confirmed library answers cfg want since asked found.status :=
  ⟨heard.read, heard.running, heard.seen, fun required => by simp [quiet] at required⟩

theorem RoundHeard.letIn {want : Wanted} {found : Round} {since asked middle after : List Op}
    {own : List Scoped} (heard : RoundHeard library answers cfg want found since asked)
    (required : want.requirePeer = true) (started : since <+: asked)
    (policyAsked : asked <+: middle) (firewallAsked : middle <+: after)
    (owned : ownAddresses found.status = .ok own) (addressed : own ≠ [])
    (policy : PolicyLetsIn library answers found.peers own asked middle)
    (first : RulesetLetsIn answers own "iptables-save" .v4 middle after)
    (second : RulesetLetsIn answers own "ip6tables-save" .v6 middle after) :
    Confirmed library answers cfg want since after found.status := by
  obtain ⟨eligible, answered⟩ := heard.peers required
  have onward := policyAsked.trans firewallAsked
  have before := started.trans policyAsked
  refine ⟨heard.read.later onward, heard.running, heard.seen.widen (List.prefix_refl _) onward,
    fun _ => ⟨found.peers, own, eligiblePeers_listed eligible, owned, addressed,
      answered.widen (List.prefix_refl _) onward, policy.widen started firewallAsked,
      first.widen before (List.prefix_refl _), second.widen before (List.prefix_refl _)⟩⟩

theorem check_finds (asked : List Op) :
    Finds (Step library answers cfg) (check library answers cfg) asked fun result after =>
      result.ok = true →
      ∃ want status since, wanted cfg = .ok want ∧
        Onward (Question library answers cfg) since after ∧
        Confirmed library answers cfg want since after status := by
  unfold check
  refine (finds_lift _ asked).bind ?_
  rintro want _ _ ⟨read, rfl⟩
  refine (rounds_finds want _ _).bind ?_
  intro found after _ found_heard
  split_ifs with further
  · obtain ⟨required, noReason⟩ := Bool.and_eq_true_iff.mp further
    obtain ⟨since, begun, heard⟩ := found_heard (List.isEmpty_iff.mp noReason)
    refine ((policyReasons_finds after).noting fun _ => Or.inl).bind ?_
    rintro policy middle _ ⟨policyAsked, policyHeard⟩
    refine ((firewallReasons_finds found.status middle).noting fun _ => Or.inl).bind ?_
    rintro firewall last _ ⟨firewallAsked, firewallHeard⟩
    refine finds_pure fun isOk => ?_
    obtain ⟨noPolicy, noFirewall⟩ := List.append_eq_nil_iff.mp (report_ok isOk)
    obtain ⟨own, owned, letsIn⟩ := policyHeard noPolicy
    obtain ⟨_, same, addressed, first, second⟩ := firewallHeard noFirewall
    cases owned.symm.trans same
    exact ⟨want, found.status, since, read, (begun.trans policyAsked).trans firewallAsked,
      heard.letIn required begun.starts policyAsked.starts firewallAsked.starts owned addressed
        letsIn first second⟩
  · refine finds_pure fun isOk => ?_
    have none_given := report_ok isOk
    obtain ⟨since, begun, heard⟩ := found_heard none_given
    have quiet : want.requirePeer = false := by
      by_contra required
      simp [none_given, Bool.eq_true_of_not_eq_false required] at further
    exact ⟨want, found.status, since, read, begun, heard.confirmed quiet⟩

def isPause (op : Op) : Bool :=
  decide (op = .sleep)

theorem isPause_question {op : Op} (question : Question library answers cfg op) :
    isPause op = false := by
  cases question <;> rfl

theorem rounds_takes (want : Wanted) (left : Nat) :
    Takes isPause (rounds library answers cfg want left) left := by
  have noPause : Takes isPause (round library answers cfg want) 0 :=
    takes_of_onward (fun asked => (round_finds want asked).onward) fun _ => isPause_question
  induction left with
  | zero => exact noPause
  | succ left ih =>
      unfold rounds
      rw [Nat.add_comm left 1, ← Nat.zero_add (1 + left)]
      refine noPause.bind fun found => ?_
      split_ifs
      · exact fun asked => Nat.le_add_right _ _
      · exact (takes_ask _).bind fun _ => ih

theorem check_takes : Takes isPause (check library answers cfg) (attempts - 1) := by
  unfold check
  rw [← Nat.zero_add (attempts - 1)]
  refine (takes_lift _).bind fun want => ?_
  rw [← Nat.add_zero (attempts - 1)]
  refine (rounds_takes want _).bind fun found => ?_
  split_ifs
  · have reads : ∀ asked, Onward (Question library answers cfg) asked
        (policyReasons library answers found.status found.peers want.ownTags asked).2 :=
      fun asked => (policyReasons_finds asked).onward
    have policy : Takes isPause
        (policyReasons library answers found.status found.peers want.ownTags) 0 :=
      takes_of_onward reads fun _ => isPause_question
    have asks : ∀ asked, Onward (Question library answers cfg) asked
        (firewallReasons answers found.status asked).2 :=
      fun asked => (firewallReasons_finds found.status asked).onward
    have firewall : Takes isPause (firewallReasons answers found.status) 0 :=
      takes_of_onward asks fun _ => isPause_question
    exact policy.bind fun _ => firewall.bind fun _ => takes_pure _
  · exact takes_pure _

/-- The kernel does not drop the SSH packet by the ruleset, where the walk takes each
line it reaches for what it is. -/
def KernelLetsIn (addresses : List PyIp.Address) (tables : Firewall.Tables) : Prop :=
  ∀ reads packet, (∀ hook, Firewall.Visits addresses tables Firewall.inbound hook →
      Firewall.HookFirm addresses reads tables hook) →
    Firewall.Admissible addresses reads tables packet →
      ¬ Firewall.Dropped addresses reads tables packet

theorem kernelLetsIn_of_walk {addresses : List PyIp.Address} {tables : Firewall.Tables}
    (walked : Firewall.walkInbound addresses tables = .ok []) :
    KernelLetsIn addresses tables := by
  rintro reads packet firm admissible ⟨hook, member, drops⟩
  exact Firewall.walkHooks_sound (by decide) firm admissible
    (Firewall.walkHooks_of_walkInbound walked) hook member drops

end Parts

/-- What `tailscale status --json` prints on a host with one peer. -/
def sampleStatusText : String :=
  "\x7b\"BackendState\":\"Running\",\"Self\":\x7b\"ID\":\"nSELF\"," ++
    "\"TailscaleIPs\":[\"100.64.0.2\"]\x7d,\"Peer\":\x7b\"k0\":\x7b\"HostName\":" ++
    "\"laptop\",\"Online\":true,\"TailscaleIPs\":[\"100.64.0.9\"]\x7d\x7d\x7d"

def sampleStatus : Json :=
  .obj [("BackendState", .str "Running"),
    ("Self", .obj [("ID", .str "nSELF"), ("TailscaleIPs", .arr [.str "100.64.0.2"])]),
    ("Peer", .obj [("k0", .obj [("HostName", .str "laptop"), ("Online", .bool true),
      ("TailscaleIPs", .arr [.str "100.64.0.9"])])])]

/-- What `tailscale debug netmap` prints, cut to the rules. -/
def sampleNetmapText : String :=
  "\x7b\"PacketFilterRules\":[\x7b\"SrcIPs\":[\"*\"],\"DstPorts\":[\x7b\"IP\":\"*\"," ++
    "\"Ports\":\x7b\"First\":0,\"Last\":65535\x7d\x7d]\x7d]\x7d"

def sampleNetmap : Json :=
  .obj [("PacketFilterRules", .arr [.obj [("SrcIPs", .arr [.str "*"]),
    ("DstPorts", .arr [.obj [("IP", .str "*"),
      ("Ports", .obj [("First", .int 0), ("Last", .int 65535)])]])]])]

def sampleLibrary : Library where
  py :=
    { repr := fun _ => ""
      loads := fun found =>
        if found = sampleStatusText then some sampleStatus
        else if found = sampleNetmapText then some sampleNetmap
        else none }
  undecodable _ := "Expecting value: line 1 column 1 (char 0)"
  described _ := ""

def sampleRuleset : String :=
  "*filter\n:INPUT DROP [0:0]\n-A INPUT -i tailscale0 -p tcp -m tcp --dport 22 -j ACCEPT\nCOMMIT\n"

/-- A peer that answers, a policy that lets it in, and a firewall that does. -/
def sampleAnswers : Answers Op Res Failure := fun _ op =>
  match op with
  | .run argv =>
      if argv = statusCommand then .ok ⟨0, sampleStatusText, ""⟩
      else if argv = pingCommand "100.64.0.9" then .ok ⟨0, "pong", ""⟩
      else if argv = netmapCommand then .ok ⟨0, sampleNetmapText, ""⟩
      else if argv = ["iptables-save"] then .ok ⟨0, sampleRuleset, ""⟩
      else .error (.os "[Errno 2] No such file or directory")
  | .http method _ _ _ =>
      if method = "POST" then .ok (200, some (.obj [("access_token", .str "tskey-api")]))
      else .ok (200, some (.obj [("connectedToControl", .bool true),
        ("blocksIncomingConnections", .bool false)]))
  | .sleep => .ok ()

def sampleCfg : PyDict String Json :=
  [("TAILNET_PROVIDER", .str "tailscale"), ("TAILSCALE_OAUTH_CLIENT_ID", .str "kID"),
    ("TAILSCALE_OAUTH_CLIENT_SECRET", .str "tskey-client"), ("TAILNET_OWN_TAGS", .str "tag:server"),
    ("TAILNET_REQUIRE_PEER", .str "1")]

def sampleReport : Report :=
  report [] ["laptop answered through the tunnel"]

theorem sampleCheck_ok :
    (check sampleLibrary sampleAnswers sampleCfg []).1 = .ok sampleReport := by
  decide +kernel

theorem sampleWanted : wanted sampleCfg = .ok ⟨false, true, ["tag:server"]⟩ := by
  decide +kernel

section Checked

variable (library : Library) (answers : Answers Op Res Failure) (cfg : PyDict String Json)

/-- Where `check` gives no reason, an attempt of it, with no pause since, has heard all
that speaks for the host. -/
theorem check_confirmed {result : Report}
    (came : (check library answers cfg []).1 = .ok result) (isOk : result.ok = true) :
    ∃ want status since, wanted cfg = .ok want ∧
      Onward (Question library answers cfg) since (check library answers cfg []).2 ∧
      Confirmed library answers cfg want since (check library answers cfg []).2 status :=
  (check_finds []).ends result came isOk

theorem sample_confirmed :
    ∃ want status since, wanted sampleCfg = .ok want ∧
      Onward (Question sampleLibrary sampleAnswers sampleCfg) since
        (check sampleLibrary sampleAnswers sampleCfg []).2 ∧
      Confirmed sampleLibrary sampleAnswers sampleCfg want since
        (check sampleLibrary sampleAnswers sampleCfg []).2 status :=
  check_confirmed sampleLibrary sampleAnswers sampleCfg sampleCheck_ok rfl

/-- Where a peer is asked for and `check` gives no reason, the kernel lets SSH in by both
rulesets it was shown. -/
theorem check_kernel_lets_in {result : Report} {want : Wanted}
    (came : (check library answers cfg []).1 = .ok result) (isOk : result.ok = true)
    (read : wanted cfg = .ok want) (required : want.requirePeer = true) :
    ∃ status own since, StatusRead library answers since (check library answers cfg []).2 status ∧
      ownAddresses status = .ok own ∧
      ∀ family ∈ [("iptables-save", PyIp.Version.v4), ("ip6tables-save", .v6)],
        ofVersion own family.2 ≠ [] → ∃ ran tables,
          Heard answers since (check library answers cfg []).2 (.run [family.1]) ran ∧
          ran.code = 0 ∧ Firewall.parseRuleset ran.out = .ok tables ∧
          KernelLetsIn (ofVersion own family.2) tables := by
  obtain ⟨found, status, since, readAgain, -, confirmed⟩ := (check_finds []).ends result came isOk
  cases read.symm.trans readAgain
  obtain ⟨peers, own, letIn⟩ := confirmed.letIn required
  have shown : ∀ {tool version}, RulesetLetsIn answers own tool version since
      (check library answers cfg []).2 → ofVersion own version ≠ [] → ∃ ran tables,
        Heard answers since (check library answers cfg []).2 (.run [tool]) ran ∧ ran.code = 0 ∧
        Firewall.parseRuleset ran.out = .ok tables ∧
        KernelLetsIn (ofVersion own version) tables := by
    intro tool version letsIn present
    obtain ⟨ran, tables, heard, code, parsed, walked⟩ := letsIn.resolve_left present
    exact ⟨ran, tables, heard, code, parsed, kernelLetsIn_of_walk walked⟩
  refine ⟨status, own, since, confirmed.read, letIn.owned, ?_⟩
  intro family member present
  rcases List.mem_pair.mp member with rfl | rfl
  · exact shown letIn.first present
  · exact shown letIn.second present

theorem sample_kernel_lets_in :
    ∃ status own since,
      StatusRead sampleLibrary sampleAnswers since
        (check sampleLibrary sampleAnswers sampleCfg []).2 status ∧
      ownAddresses status = .ok own ∧
      ∀ family ∈ [("iptables-save", PyIp.Version.v4), ("ip6tables-save", .v6)],
        ofVersion own family.2 ≠ [] → ∃ ran tables,
          Heard sampleAnswers since (check sampleLibrary sampleAnswers sampleCfg []).2
            (.run [family.1]) ran ∧
          ran.code = 0 ∧ Firewall.parseRuleset ran.out = .ok tables ∧
          KernelLetsIn (ofVersion own family.2) tables :=
  check_kernel_lets_in sampleLibrary sampleAnswers sampleCfg sampleCheck_ok rfl sampleWanted rfl

/-- However `check` ends, it has asked nothing but its questions, with at most six pauses. -/
theorem check_asks :
    (∀ op ∈ (check library answers cfg []).2, Question library answers cfg op ∨ op = .sleep) ∧
      (check library answers cfg []).2.countP isPause ≤ 6 := by
  constructor
  · have asks : Onward (Step library answers cfg) [] (check library answers cfg []).2 :=
      (check_finds []).onward
    obtain ⟨more, same, allowed⟩ := asks
    rw [same]
    exact allowed
  · exact check_takes []

end Checked

end Catena.Tailnet

import Catena.ByteLines
import Catena.FirewallExact
import Catena.Probes
import Mathlib

/-!
# The check before public SSH closes

`check` asks the control server, the other devices of the tailnet, the policy this
host was sent and its own firewall whether SSH still gets in over the tailnet.  The
lockdown goes on where it gives no reason against it.
-/

namespace Catena.Tailnet

open Probes ByteLines

/-- What a step raises.  An `OSError` is `os`, with its message. -/
inductive Failure where
  | python (error : PyError)
  | key (name : String)
  | os (message : String)
  | timeout
  deriving DecidableEq

/-- The parts of Python's library left open: values and JSON texts, the text of the
error a JSON text raises, and `f"{type(e).__name__}: {e}"`. -/
structure Library where
  py : Builtins
  undecodable : String → String
  described : Failure → String

/-- `value or {}`. -/
def orEmpty (value : Option Json) : Json :=
  match value with
  | some value => if value.truthy then value else .obj []
  | none => .obj []

/-- `value or []`. -/
def orNone (value : Option Json) : Json :=
  match value with
  | some value => if value.truthy then value else .arr []
  | none => .arr []

def isTrue (value : Option Json) : Bool :=
  match value with
  | some value => value.truthy
  | none => false

/-- `value.get(key)`. -/
def field (value : Json) (key : String) : Except Failure (Option Json) :=
  match value with
  | .obj fields => .ok (PyDict.get fields key)
  | _ => .error (.python .attributeError)

/-- `value[key]`. -/
def item (value : Json) (key : String) : Except Failure Json :=
  match value with
  | .obj fields =>
      match PyDict.get fields key with
      | some found => .ok found
      | none => .error (.key key)
  | _ => .error (.python .typeError)

/-- What a loop over the value goes through. -/
def entries (value : Json) : Except Failure (List Json) :=
  match value with
  | .arr items => .ok items
  | .obj fields => .ok (fields.map fun pair => .str pair.1)
  | .str text => .ok (text.toList.map fun character => .str (String.singleton character))
  | _ => .error (.python .typeError)

/-- `needle in value`, for a text. -/
def textIn (needle : String) (value : Json) : Except Failure Bool :=
  match value with
  | .str text => .ok (PyText.contains text.toList needle.toList)
  | .arr items => .ok (items.any fun other => Json.pyEq (.str needle) other)
  | .obj fields => .ok (fields.any fun pair => pair.1 == needle)
  | _ => .error (.python .typeError)

/-- `number in value`. -/
def numberIn (number : Int) (value : Json) : Except Failure Bool :=
  match value with
  | .arr items => .ok (items.any fun other => Json.pyEq (.int number) other)
  | .obj _ => .ok false
  | _ => .error (.python .typeError)

/-- `first <= second`, where one of them is a number. -/
def atMost (first second : Json) : Except Failure Bool :=
  match first.number, second.number with
  | some left, some right => .ok (decide (left ≤ right))
  | some _, none =>
      match second with
      | .float .inf => .ok true
      | .float _ => .ok false
      | _ => .error (.python .typeError)
  | none, some _ =>
      match first with
      | .float .negInf => .ok true
      | .float _ => .ok false
      | _ => .error (.python .typeError)
  | none, none => .error (.python .typeError)

def text (value : Json) : Except Failure String :=
  match value with
  | .str found => .ok found
  | _ => .error (.python .typeError)

/-- `separator.join(values)`. -/
def joined (separator : String) (values : List Json) : Except Failure String :=
  (values.mapM text).map fun texts => separator.intercalate texts

/-- The first of the values the test holds of; the test may raise. -/
def anyOf {α : Type} (test : α → Except Failure Bool) : List α → Except Failure Bool
  | [] => .ok false
  | value :: rest =>
      match test value with
      | .error failure => .error failure
      | .ok true => .ok true
      | .ok false => anyOf test rest

/-- `(cfg.get(key) or default)`, on which a text's method is called. -/
def setting (cfg : PyDict String Json) (key default : String) : Except Failure String :=
  match PyDict.get cfg key with
  | some value =>
      if value.truthy then
        match value with
        | .str found => .ok found
        | _ => .error (.python .attributeError)
      else .ok default
  | none => .ok default

/-- An address, with the scope that may stand behind a `%` in IPv6. -/
structure Scoped where
  address : PyIp.Address
  scope : Option (List Char)
  deriving DecidableEq

/-- `self <= other`, for one version. -/
def Scoped.upTo (first second : Scoped) : Bool :=
  decide (first.address.value < second.address.value) || decide (first = second)

/-- `ipaddress.ip_address(value)`. -/
def ipAddress (value : Json) : Except Failure Scoped :=
  let refused : Failure := .python (.valueError "address")
  let ofNumber (number : Int) : Except Failure Scoped :=
    if 0 ≤ number ∧ number < 2 ^ 32 then .ok ⟨⟨.v4, number.toNat⟩, none⟩
    else if 0 ≤ number ∧ number < 2 ^ 128 then .ok ⟨⟨.v6, number.toNat⟩, none⟩
    else .error refused
  match value with
  | .str found =>
      match PyIp.addressV4 found.toList with
      | some value => .ok ⟨⟨.v4, value⟩, none⟩
      | none =>
          match PyIp.addressV6 found.toList with
          | some value => .ok ⟨⟨.v6, value⟩, (PyText.partition '%' found.toList).map Prod.snd⟩
          | none => .error refused
  | .int number => ofNumber number
  | .bool given => ofNumber (if given then 1 else 0)
  | _ => .error refused

/-- `addr in ipaddress.ip_network(text)`; none where that raises `ValueError`. -/
def inNetwork (found : List Char) (address : PyIp.Address) : Option Bool :=
  (PyIp.network found).bind fun network =>
    let hostBits := network.version.bits - network.prefixLength
    if network.value % 2 ^ hostBits ≠ 0 then none
    else some (decide (network.version = address.version) && network.contains address)

def holds (spec : Json) (host : Scoped) : Except Failure Bool :=
  match spec with
  | .str found =>
      if found = "*" then .ok true
      else if "cap:".toList.isPrefixOf found.toList then .ok false
      else if found.toList.contains '/' then
        .ok ((inNetwork found.toList host.address).getD false)
      else if found.toList.count '-' = 1 then
        match (PyText.splitOn '-' found.toList).map fun part =>
            ipAddress (.str (String.ofList part)) with
        | [.ok low, .ok high] =>
            .ok (decide (low.address.version = high.address.version) &&
              decide (high.address.version = host.address.version) &&
              low.upTo host && host.upTo high)
        | _ => .ok false
      else
        match ipAddress (.str found) with
        | .ok one => .ok (decide (one = host))
        | .error _ => .ok false
  | _ => .error (.python .attributeError)

def sshPort : Int := 22

def tcp : Int := 6

def destinationHolds (dst : Scoped) (destination : Json) : Except Failure Bool := do
  let held ← holds (← item destination "IP") dst
  if held then
    if ← atMost (← item (← item destination "Ports") "First") (.int sshPort) then
      atMost (.int sshPort) (← item (← item destination "Ports") "Last")
    else return false
  else return false

def allowsSsh (rule : Json) (src dst : Scoped) : Except Failure Bool := do
  let protocols ← field rule "IPProto"
  let ofTcp ← if isTrue protocols then numberIn tcp (orNone protocols) else .ok true
  if !ofTcp then return false
  else
    let sources ← entries (orNone (← field rule "SrcIPs"))
    if ← anyOf (fun source => holds source src) sources then
      anyOf (destinationHolds dst) (← entries (orNone (← field rule "DstPorts")))
    else return false

/-- The items of a list or a text, of which a part is taken. -/
def sliced (value : Json) : Except Failure (List Json) :=
  match value with
  | .obj _ => .error (.python .typeError)
  | _ => entries value

def brief (items : List Json) (most : Nat) : Except Failure String :=
  (joined ", " (items.take most)).map fun listed => listed ++
    if most < items.length then " and " ++ toString (items.length - most) ++ " more" else ""

section Described

variable (library : Library)

def portRange (ports : Json) : Except Failure String := do
  let first ← item ports "First"
  let last ← item ports "Last"
  if Json.pyEq first (.int 0) && Json.pyEq last (.int 65535) then return "*"
  else if Json.pyEq first last then return first.toText library.py
  else return first.toText library.py ++ "-" ++ last.toText library.py

/-- `_PROTO_NAMES.get(p, str(p))`; a list or an object is no key. -/
def protocolName (protocol : Json) : Except Failure String :=
  match protocol with
  | .arr _ => .error (.python .typeError)
  | .obj _ => .error (.python .typeError)
  | _ =>
      let named := [((1 : Int), "icmp"), (6, "tcp"), (17, "udp"), (58, "icmpv6"), (132, "sctp")]
      match named.find? fun pair => Json.pyEq (.int pair.1) protocol with
      | some pair => .ok pair.2
      | none => .ok (protocol.toText library.py)

/-- One destination of a rule, in words. -/
def destinationText (destination : Json) : Except Failure Json := do
  let address ← item destination "IP"
  let ports ← portRange library (← item destination "Ports")
  return .str (address.toText library.py ++ ":" ++ ports)

def describe (rule : Json) : Except Failure Json := do
  let sources ← brief (← sliced (orNone (← field rule "SrcIPs"))) 3
  let listed := if sources = "" then "no source" else sources
  let destinations ← field rule "DstPorts"
  if isTrue destinations then
    let protocols ← (← entries (orNone (← field rule "IPProto"))).mapM (protocolName library)
    let named := "/".intercalate protocols
    let targets ← brief (← (← entries (orNone destinations)).mapM (destinationText library)) 3
    return .str ("[" ++ (if named = "" then "tcp/udp/icmp" else named) ++ " from " ++ listed ++
      " to " ++ targets ++ "]")
  else return .str ("[capability grants only, from " ++ listed ++ "]")

end Described

/-- What a command leaves. -/
structure Ran where
  code : Int
  out : String
  err : String

/-- What is asked: of the host, over the network, or a pause. -/
inductive Op where
  | run (argv : List String)
  | http (method url : String) (headers : PyDict String String) (data : Option String)
  | sleep
  deriving DecidableEq

/-- What each answers; a status of 0 means that no answer arrived. -/
abbrev Res : Op → Type
  | .run _ => Ran
  | .http _ _ _ _ => Int × Option Json
  | .sleep => Unit

abbrev Check (α : Type) := Probe Op Failure α

def base64Char (value : Nat) : Char :=
  "ABCDEFGHIJKLMNOPQRSTUVWXYZabcdefghijklmnopqrstuvwxyz0123456789+/".toList.getD value '='

/-- `base64.b64encode`. -/
def base64 : List UInt8 → List Char
  | [] => []
  | [first] =>
      [base64Char (first.toNat / 4), base64Char (first.toNat % 4 * 16), '=', '=']
  | [first, second] =>
      [base64Char (first.toNat / 4), base64Char (first.toNat % 4 * 16 + second.toNat / 16),
        base64Char (second.toNat % 16 * 4), '=']
  | first :: second :: third :: rest =>
      base64Char (first.toNat / 4) :: base64Char (first.toNat % 4 * 16 + second.toNat / 16) ::
        base64Char (second.toNat % 16 * 4 + third.toNat / 64) ::
        base64Char (third.toNat % 64) :: base64 rest

def hexUpper (value : Nat) : Char :=
  "0123456789ABCDEF".toList.getD value '0'

def quote (name : String) : String :=
  String.ofList (name.toList.flatMap fun character =>
    if character.isAlphanum || "_.-~/".toList.contains character then [character]
    else (utf8 [character]).flatMap fun byte =>
      ['%', hexUpper (byte.toNat / 16), hexUpper (byte.toNat % 16)])

example : String.ofList (base64 (utf8 "id:key".toList)) = "aWQ6a2V5" := by decide

section Questions

variable (library : Library) (answers : Answers Op Res Failure)

def run (argv : List String) : Check Ran :=
  ask answers (.run argv)

def http (method url : String) (headers : PyDict String String) (data : Option String) :
    Check (Int × Option Json) :=
  ask answers (.http method url headers data)

/-- The last 300 characters of what a command said. -/
def tail (said : String) : String :=
  String.ofList (((PyText.strip said).toList.reverse.take 300).reverse)

/-- `local_status`, or the text of the `RuntimeError` or `ValueError` it ends with. -/
def localStatus : Check (Except String Json) := do
  match ← settle (run answers ["tailscale", "status", "--json"]) with
  | .error (.python (.valueError message)) => return .error message
  | .error failure => lift (.error failure)
  | .ok ran =>
      if ran.code ≠ 0 then
        return .error ("`tailscale status --json` exited " ++ toString ran.code ++ ": " ++
          tail ran.err)
      else
        match library.py.loads ran.out with
        | some status => return .ok status
        | none => return .error (library.undecodable ran.out)

/-- `str((status.get("Self") or {}).get(key) or "")`. -/
def ownText (status : Json) (key : String) : Except Failure String := do
  let own := orEmpty (← field status "Self")
  return Json.textOr library.py (← field own key)

/-- `str.rstrip("/")`. -/
def stripSlashes (url : String) : String :=
  String.ofList (PyText.rstrip '/' url.toList)

/-- `headers={"Authorization": ...}`. -/
def bearer (token : String) : PyDict String String :=
  [("Authorization", "Bearer " ++ token)]

/-- The token of an answer: `isinstance(token, dict) and token.get("access_token")`. -/
def accessToken (answer : Int × Option Json) : Option Json :=
  match answer.2 with
  | some (.obj fields) =>
      match PyDict.get fields "access_token" with
      | some token => if answer.1 = 200 && token.truthy then some token else none
      | none => none
  | _ => none

/-- What the record of a device says against it. -/
def deviceReasons (fields : PyDict String Json) : List String :=
  (if isTrue (PyDict.get fields "connectedToControl") then []
    else ["the control server does not see this server connected"]) ++
  (if isTrue (PyDict.get fields "blocksIncomingConnections") then
    ["this server refuses incoming tailnet connections (shields up), so no device can reach it"]
    else [])

def tailscaleControl (status : Json) (cfg : PyDict String Json) : Check (List String) := do
  let node ← lift (ownText library status "ID")
  if node = "" then return ["`tailscale status` names no node id for this host"]
  else
    let base ← lift (setting cfg "TAILSCALE_API_BASE" "https://api.tailscale.com/api/v2")
    let client := PyDict.get cfg "TAILSCALE_OAUTH_CLIENT_ID"
    let secret := PyDict.get cfg "TAILSCALE_OAUTH_CLIENT_SECRET"
    if !(isTrue client && isTrue secret) then
      return ["no Tailscale OAuth client is stored, so the control server cannot be asked"]
    else
      let pair := Json.textOr library.py client ++ ":" ++ Json.textOr library.py secret
      let exchanged ← http answers "POST" (stripSlashes base ++ "/oauth/token")
        [("Authorization", "Basic " ++ String.ofList (base64 (utf8 pair.toList))),
          ("Content-Type", "application/x-www-form-urlencoded")]
        (some "grant_type=client_credentials")
      match accessToken exchanged with
      | none => return ["the OAuth client did not exchange for a token (HTTP " ++
          toString exchanged.1 ++ ")"]
      | some token =>
          let answer ← http answers "GET"
            (stripSlashes base ++ "/device/" ++ quote node ++ "?fields=all")
            (bearer (token.toText library.py)) none
          if answer.1 = 403 then
            return ["the OAuth client cannot read devices: add Devices > Core " ++
              "(read) to its scopes in the Tailscale admin console"]
          else
            match answer with
            | (200, some (.obj fields)) => return deviceReasons fields
            | _ => return ["the control server has no readable record of device " ++ node ++
                " (HTTP " ++ toString answer.1 ++ ")"]

/-- The first of the nodes with the key. -/
def nodeOf (key : String) : List Json → Except Failure (Option Json)
  | [] => .ok none
  | node :: rest =>
      match field node "nodeKey" with
      | .error failure => .error failure
      | .ok found =>
          if (found.getD .null).pyEq (.str key) then .ok (some node) else nodeOf key rest

def headscaleControl (status : Json) (cfg : PyDict String Json) :
    Check (Option (List String)) := do
  let key := PyDict.get cfg "HEADSCALE_API_KEY"
  if !isTrue key then return none
  else
    let nodeKey ← lift (ownText library status "PublicKey")
    let base ← lift (setting cfg "HEADSCALE_URL" "")
    let answer ← http answers "GET" (stripSlashes base ++ "/api/v1/node")
      (bearer (Json.textOr library.py key)) none
    match answer with
    | (200, some (.obj fields)) =>
        let node ← lift ((entries (orNone (PyDict.get fields "nodes"))).bind (nodeOf nodeKey))
        match node with
        | none => return some ["the Headscale server has no node with this server's key"]
        | some node =>
            let online ← lift (field node "online")
            return some (if isTrue online then []
              else ["the Headscale server does not see this server online"])
    | _ => return some ["the Headscale server did not list its nodes (HTTP " ++
        toString answer.1 ++ ")"]

/-- A device of the tailnet: its name, and its addresses with IPv4 first. -/
structure Peer where
  name : Json
  addresses : List Json

/-- Whether a peer carries one of these tags. -/
def tagged (ownTags : List String) (tags : Json) : Except Failure Bool := do
  let listed ← entries tags
  if listed.any fun tag => match tag with
      | .arr _ => true
      | .obj _ => true
      | _ => false then
    .error (.python .typeError)
  else return listed.any fun tag => match tag with
    | .str found => decide (found ∈ ownTags)
    | _ => false

/-- `sorted(addresses, key=lambda a: ":" in a)`. -/
def ipv4First (addresses : List Json) : Except Failure (List Json) := do
  let keyed ← addresses.mapM fun address =>
    (textIn ":" address).map fun colon => (colon, address)
  return (keyed.filter (!·.1)).map Prod.snd ++ (keyed.filter (·.1)).map Prod.snd

def eligible (ownTags : List String) (peer : Json) : Except Failure (Option Peer) := do
  if !isTrue (← field peer "Online") then return none
  else if ← tagged ownTags (orNone (← field peer "Tags")) then return none
  else
    let addresses ← ipv4First (← entries (orNone (← field peer "TailscaleIPs")))
    match addresses with
    | [] => return none
    | first :: rest =>
        if ← textIn "." first then
          let named ← field peer "HostName"
          return some ⟨if isTrue named then named.getD .null else first, first :: rest⟩
        else return none

def eligiblePeers (status : Json) (ownTags : List String) : Except Failure (List Peer) := do
  match orEmpty (← field status "Peer") with
  | .obj peers => return (← (peers.map Prod.snd).mapM (eligible ownTags)).filterMap id
  | _ => .error (.python .attributeError)

def maxPeers : Nat := 5

/-- `ping_a_peer`, for the peers that are left. -/
def pingAPeer : List Peer → Check (Option Peer)
  | [] => return none
  | peer :: rest => do
      let address ← lift (text (peer.addresses.headD .null))
      let ran ← run answers
        ["tailscale", "ping", "--tsmp", "--c", "3", "--timeout", "5s", address]
      if ran.code = 0 then return some peer else pingAPeer rest

/-- This host's addresses on the tailnet. -/
def ownAddresses (status : Json) : Except Failure (List Scoped) := do
  let own := orEmpty (← field status "Self")
  (← entries (orNone (← field own "TailscaleIPs"))).mapM ipAddress

def peerNames (peers : List Peer) : Except Failure String :=
  joined ", " ((peers.take maxPeers).map Peer.name)

/-- Each address of a peer with each of this host's of its family. -/
def pairs (peers : List Peer) (own : List Scoped) : Except Failure (List (Scoped × Scoped)) :=
  ((peers.flatMap Peer.addresses).mapM ipAddress).map fun sources =>
    sources.flatMap fun src =>
      (own.filter fun dst => decide (src.address.version = dst.address.version)).map (src, ·)

/-- The rules of a policy: `json.loads(text)["PacketFilterRules"] or []`. -/
def policyRules (netmap : String) : Except Failure (List Json) := do
  match library.py.loads netmap with
  | some found => entries (orNone (some (← item found "PacketFilterRules")))
  | none => .error (.python (.valueError (library.undecodable netmap)))

/-- What a policy lets in, in words; none where a rule lets one of the pairs in. -/
def policyAllows (netmap : String) (between : List (Scoped × Scoped)) :
    Except Failure (Option (List Json)) := do
  let rules ← policyRules library netmap
  if ← anyOf (fun rule => anyOf (fun pair => allowsSsh rule pair.1 pair.2) between) rules then
    return none
  else return some (← rules.mapM (describe library))

def policyReasons (status : Json) (peers : List Peer) (ownTags : List String) :
    Check (List String) := do
  let own ← lift (ownAddresses status)
  let between ← lift (pairs peers own)
  let ran ← run answers ["tailscale", "debug", "netmap"]
  if ran.code ≠ 0 then
    return ["could not read the tailnet policy this server received " ++
      "(`tailscale debug netmap` exited " ++ toString ran.code ++ ": " ++ tail ran.err ++ ")"]
  else
    match policyAllows library ran.out between with
    | .ok none => return []
    | .ok (some allows) => do
        let sorted := ownTags.mergeSort fun first second => decide (first ≤ second)
        let tags := if ownTags = [] then "" else " (" ++ ", ".intercalate sorted ++ ")"
        let names ← lift (peerNames peers)
        let listed ← lift (brief allows 5)
        return ["the tailnet policy lets none of " ++ names ++ " open SSH (TCP port 22) to " ++
          "this server" ++ tags ++ ": it lets in " ++ (if listed = "" then "nothing" else listed)]
    -- the four kinds of exception the reading can raise are all caught
    | .error failure =>
        return ["could not parse the tailnet policy this server received " ++
          "from `tailscale debug netmap` (" ++ library.described failure ++ ")"]

/-- What `walk_inbound` finds in the output of a tool. -/
def walkSaved (saved : String) (addresses : List PyIp.Address) : Except Failure (List String) :=
  match (Firewall.parseRuleset saved).bind (Firewall.walkInbound addresses) with
  | .ok reasons => .ok reasons
  | .error failure => .error (.python failure)

/-- The addresses of one family. -/
def ofVersion (own : List Scoped) (version : PyIp.Version) : List PyIp.Address :=
  (own.map Scoped.address).filter fun address => decide (address.version = version)

/-- One of the two tools of `firewall_reasons`. -/
def toolReasons (own : List Scoped) (tool : String) (version : PyIp.Version) :
    Check (List String) := do
  let addresses := ofVersion own version
  if addresses = [] then return []
  else
    match ← settle (run answers [tool]) with
    | .error (.os message) =>
        return ["could not read this server's firewall (" ++ tool ++ ": " ++ message ++ ")"]
    | .error failure => lift (.error failure)
    | .ok ran =>
        if ran.code ≠ 0 then
          return ["could not read this server's firewall (" ++ tool ++ " exited " ++
            toString ran.code ++ ")"]
        else do
          let reasons ← lift (walkSaved ran.out addresses)
          return reasons.map fun why => "this server's firewall drops SSH arriving over the " ++
            "tailnet (" ++ tool ++ ", " ++ why ++ ")"

def firewallReasons (status : Json) : Check (List String) := do
  let own ← lift (ownAddresses status)
  if own = [] then
    return ["`tailscale status` names no tailnet address for this server, so " ++
      "its firewall cannot be checked"]
  else
    let first ← toolReasons answers own "iptables-save" .v4
    let second ← toolReasons answers own "ip6tables-save" .v6
    return first ++ second

/-- What the settings ask for. -/
structure Wanted where
  headscale : Bool
  requirePeer : Bool
  ownTags : List String
  deriving DecidableEq

def wanted (cfg : PyDict String Json) : Except Failure Wanted := do
  let provider ← setting cfg "TAILNET_PROVIDER" "tailscale"
  let require ← setting cfg "TAILNET_REQUIRE_PEER" "0"
  let tags ← setting cfg "TAILNET_OWN_TAGS" ""
  let stripped := (PyText.splitOn ',' tags.toList).map fun tag =>
    PyText.strip (String.ofList tag)
  return ⟨decide (PyText.lower (PyText.strip provider) = "headscale"),
    decide (PyText.strip require = "1"), (stripped.filter (· ≠ "")).eraseDups⟩

/-- What an attempt ends with.  The status and the peers count where there is no reason. -/
structure Round where
  reasons : List String
  notes : List String
  status : Json
  peers : List Peer

def controlReasons (status : Json) (cfg : PyDict String Json) (want : Wanted) :
    Check (List String × List String) := do
  if want.headscale then
    match ← headscaleControl library answers status cfg with
    | some reasons => return (reasons, [])
    | none =>
        if want.requirePeer then
          return (["no Headscale API key is stored, so the control server cannot confirm this " ++
            "server is online; enter one in catena-admin > Settings > Admin access tunnel"], [])
        else return ([], ["Headscale not asked (no API key stored)"])
  else
    let reasons ← tailscaleControl library answers status cfg
    return (reasons, [])

/-- The peers of an attempt, with its reasons and notes so far. -/
def askPeers (status : Json) (want : Wanted) (notes : List String) : Check Round := do
  let peers ← lift (eligiblePeers status want.ownTags)
  if peers.isEmpty then
    return ⟨["no other device is online on the tailnet: turn Tailscale on on the device used " ++
      "to administer this server, then apply again"], notes, status, peers⟩
  else
    -- an eligible peer has a name that is not empty
    match ← pingAPeer answers (peers.take maxPeers) with
    | some peer => return ⟨[], notes ++ [peer.name.toText library.py ++
        " answered through the tunnel"], status, peers⟩
    | none =>
        let names ← lift (peerNames peers)
        return ⟨["none of " ++ names ++ " answered a ping through the tunnel"], notes, status,
          peers⟩

/-- One attempt of `check`. -/
def round (cfg : PyDict String Json) (want : Wanted) : Check Round := do
  match ← localStatus library answers with
  | .error message => return ⟨[message], [], .null, []⟩
  | .ok status =>
      let backend := (← lift (field status "BackendState")).getD .null
      if !backend.pyEq (.str "Running") then
        return ⟨["tailscale is " ++ library.py.repr backend ++ ", not Running"], [], status, []⟩
      else
        let (reasons, notes) ← controlReasons library answers status cfg want
        if want.requirePeer && reasons.isEmpty then askPeers library answers status want notes
        else return ⟨reasons, notes, status, []⟩

/-- The attempts that are left, a pause before each but the first. -/
def rounds (cfg : PyDict String Json) (want : Wanted) : Nat → Check Round
  | 0 => round library answers cfg want
  | left + 1 => do
      let found ← round library answers cfg want
      if found.reasons.isEmpty then return found
      else
        ask answers .sleep
        rounds cfg want left

def attempts : Nat := 7

/-- The object `check` returns. -/
structure Report where
  ok : Bool
  reasons : List String
  summary : String
  deriving DecidableEq

def report (reasons notes : List String) : Report :=
  ⟨reasons.isEmpty, reasons,
    if reasons.isEmpty then "the tailnet confirms this server is reachable" ++
      (if notes.isEmpty then "" else ": " ++ "; ".intercalate notes)
    else "; ".intercalate reasons⟩

def check (cfg : PyDict String Json) : Check Report := do
  let want ← lift (wanted cfg)
  let found ← rounds library answers cfg want (attempts - 1)
  if want.requirePeer && found.reasons.isEmpty then
    let policy ← policyReasons library answers found.status found.peers want.ownTags
    let firewall ← firewallReasons answers found.status
    return report (policy ++ firewall) found.notes
  else return report found.reasons found.notes

end Questions

end Catena.Tailnet

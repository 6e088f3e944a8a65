import Catena.PyIp
import Catena.PyJson

/-!
# Whether a rule matches the SSH packet

`rule_matches` of `helpers/tailnet_reachability.py`: a rule's conditions are
folded into true, false, or open where one of them cannot be decided here.
-/

namespace Catena.Firewall

def tailnetIface : String :=
  "tailscale0"

def sshPort : Int :=
  22

def ports (spec : String) : Except PyError (List (Int × Int)) :=
  (PyText.splitOn ',' spec.toList).mapM fun part =>
    let (low, high) := (PyText.partition ':' part).getD (part, [])
    let first := if low = [] then some 0 else PyText.int low
    let last :=
      if high ≠ [] then PyText.int high
      else if low ≠ [] then PyText.int low
      else some 65535
    match first, last with
    | some first, some last => .ok (first, last)
    | _, _ => .error (.valueError "invalid literal for int()")

/-- The networks a `-d` argument lists. -/
def networks (spec : String) : Except PyError (List PyIp.Network) :=
  (PyText.splitOn ',' spec.toList).mapM fun part =>
    match PyIp.network part with
    | some network => .ok network
    | none => .error (.valueError "does not appear to be an IPv4 or IPv6 network")

/-- The result and the pending negation of a reading of the conditions. -/
structure Matching where
  result : Option Bool
  negate : Bool

def Matching.fold (matching : Matching) (value : Option Bool) : Matching :=
  let value := if matching.negate then value.map (!·) else value
  if value = some false then ⟨some false, false⟩
  else if value = none ∧ matching.result = some true then ⟨none, false⟩
  else ⟨matching.result, false⟩

/-- What an option that the walk models says of the SSH packet; `none` for
every other option. -/
def modelled (own : List PyIp.Address) (opt arg : String) :
    Option (Except PyError (Option Bool)) :=
  if opt ∈ ["-i", "--in-interface"] then
    some (.ok (some (
      if arg.toList.getLast? = some '+' then
        arg.toList.dropLast.isPrefixOf tailnetIface.toList
      else arg == tailnetIface)))
  else if opt ∈ ["-p", "--protocol"] then
    some (.ok (some (decide (arg ∈ ["tcp", "6", "all", "0"]))))
  else if opt ∈ ["-d", "--destination"] then
    some ((networks arg).map fun nets => some (own.any fun address =>
      nets.any fun net =>
        address.version == net.version && net.contains address))
  else if opt ∈ ["--dport", "--destination-port", "--dports",
      "--destination-ports"] then
    some ((ports arg).map fun ranges => some (ranges.any fun range =>
      range.1 ≤ sshPort && sshPort ≤ range.2))
  else if opt ∈ ["--ctstate", "--state"] then
    some (.ok (some (decide ("NEW".toList ∈ PyText.splitOn ',' arg.toList))))
  else if opt = "--dst-type" then
    some (.ok (if arg = "LOCAL" then some true else none))
  else none

/-- How the next token is read: as an option, as the argument of the option
before it, or as one more argument of an option the walk does not model. -/
inductive Expecting where
  | option
  | argument
  | arguments
  deriving DecidableEq

def startsOption (token : String) : Bool :=
  token.toList.head? = some '-' || token == "!"

/-- The loop of `rule_matches` over the tokens that are left. -/
def matchTokens (own : List PyIp.Address) (expecting : Expecting)
    (matching : Matching) : List String → Except PyError (Option Bool)
  | [] => .ok matching.result
  | token :: rest =>
      if expecting = .argument then matchTokens own .option matching rest
      else if expecting = .arguments ∧ startsOption token = false then
        matchTokens own .arguments matching rest
      else if token ∈ ["-j", "-g"] then .ok matching.result
      else if token = "!" then
        matchTokens own .option { matching with negate := true } rest
      else if token ∈ ["-A", "-m", "--comment"] then
        matchTokens own .argument matching rest
      else
        match modelled own token (rest.headD "") with
        | some (.error failure) => .error failure
        | some (.ok value) =>
            matchTokens own .argument (matching.fold value) rest
        | none => matchTokens own .arguments (matching.fold none) rest

def ruleMatches (own : List PyIp.Address) (tokens : List String) :
    Except PyError (Option Bool) :=
  matchTokens own .option ⟨some true, false⟩ tokens

end Catena.Firewall

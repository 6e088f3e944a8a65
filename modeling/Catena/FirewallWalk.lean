import Catena.Chains
import Catena.RuleMatches
import Catena.Shlex

/-!
# Walking the firewall

`walk_inbound` of `helpers/tailnet_reachability.py`: the SSH packet through
the inbound chains of a ruleset, with the rules that keep it out as reasons.
The walk follows one path.  It is right about every packet as long as no rule
whose condition it cannot decide may send the packet back out of a chain in
which the rules after it accept.
-/

namespace Catena.Firewall

open Chains (Verdict)

/-- One table of `parse_ruleset`. -/
structure Table where
  policy : PyDict String String
  rules : PyDict String (List String)

/-- The rulesets of a host, by table. -/
abbrev Tables := PyDict String Table

def inbound : List (String × String) :=
  [("raw", "PREROUTING"), ("mangle", "PREROUTING"), ("nat", "PREROUTING"),
    ("mangle", "INPUT"), ("filter", "INPUT")]

/-- `_CONTINUE`. -/
def continuing : List String :=
  ["LOG", "NFLOG", "MARK", "CONNMARK", "CT", "TRACE", "AUDIT", "DNAT",
    "SNAT", "MASQUERADE", "REDIRECT"]

def Table.lines (table : Table) (name : String) : List String :=
  (PyDict.get table.rules name).getD []

/-- The flag the walk looks for in a rule. -/
def targetFlag (tokens : List String) : String :=
  if "-g" ∈ tokens then "-g" else "-j"

/-- The outcome of walking a chain: a verdict beside the reasons so far. -/
abbrev Walked := Except PyError (Verdict × List String)

/-- A rule that may send the packet to the chain `target`: that chain is
walked, unless the walk is too deep, and its verdict is the rule's where it
`ends` the chain the rule stands in. -/
def walkCall (label : String) (enter : Option (String → List String → Walked))
    (name target : String) (ends : Verdict → Bool)
    (next : List String → Walked) (reasons : List String) : Walked :=
  match enter with
  | none => .ok (.drop, reasons ++ [label ++ ": " ++ name ++
      " jumps deeper than 30 chains"])
  | some into =>
      match into target reasons with
      | .error failure => .error failure
      | .ok (verdict, reasons) =>
          if ends verdict then .ok (verdict, reasons) else next reasons

section Walk

variable (own : List PyIp.Address) (label : String) (table : Table)

/-- The loop of `chain` over the rules that are left; `enter` walks a chain a
rule jumps to, and is `none` where the walk is too deep for one more. -/
def walkRules (enter : Option (String → List String → Walked))
    (name : String) : List String → List String → Walked
  | [], reasons => .ok (.back, reasons)
  | line :: rest, reasons =>
      match Shlex.split line with
      | .error failure => .error failure
      | .ok tokens =>
          let flag := targetFlag tokens
          if flag ∉ tokens then walkRules enter name rest reasons
          else
            match tokens[tokens.idxOf flag + 1]? with
            | none => .error .indexError
            | some target =>
                match ruleMatches own tokens with
                | .error failure => .error failure
                | .ok answer =>
                    if answer = some false then walkRules enter name rest reasons
                    else if target ∈ ["DROP", "REJECT"] then
                      let reasons := reasons ++ [label ++ ": " ++ line]
                      if answer = some true then .ok (.drop, reasons)
                      else walkRules enter name rest reasons
                    else if target = "ACCEPT" then
                      if answer = some true then .ok (.accept, reasons)
                      else walkRules enter name rest reasons
                    else if target = "RETURN" then
                      if answer = some true then .ok (.back, reasons)
                      else walkRules enter name rest reasons
                    else if target ∉ continuing ∧
                        target ∈ PyDict.keys table.rules then
                      walkCall label enter name target
                        (fun verdict => answer = some true ∧
                          (verdict ≠ .back ∨ flag = "-g"))
                        (walkRules enter name rest) reasons
                    else walkRules enter name rest reasons

/-- `chain`, with the number of jumps it may still follow. -/
def walkChain : Nat → String → List String → Walked
  | 0, name, reasons => walkRules own label table none name (table.lines name) reasons
  | jumps + 1, name, reasons =>
      walkRules own label table (some (walkChain jumps)) name
        (table.lines name) reasons

end Walk

/-- The loop of `walk_inbound` over the hooks that are left. -/
def walkHooks (own : List PyIp.Address) (tables : Tables) :
    List (String × String) → List String → Except PyError (List String)
  | [], reasons => .ok reasons
  | (label, name) :: rest, reasons =>
      match PyDict.get tables label with
      | none => walkHooks own tables rest reasons
      | some table =>
          if name ∉ PyDict.keys table.rules then
            walkHooks own tables rest reasons
          else
            match walkChain own label table 31 name reasons with
            | .error failure => .error failure
            | .ok (verdict, reasons) =>
                if verdict = .drop then .ok reasons
                else if verdict = .back ∧
                    PyDict.get table.policy name = some "DROP" then
                  .ok (reasons ++ [label ++ ": nothing in " ++ name ++
                    " accepts it and its policy is DROP"])
                else if verdict = .accept ∧ label = "filter" then .ok reasons
                else walkHooks own tables rest reasons

/-- `list(dict.fromkeys(reasons))`. -/
def distinct (reasons : List String) : List String :=
  PyDict.keys (PyDict.ofPairs (reasons.map fun reason => (reason, ())))

def walkInbound (own : List PyIp.Address) (tables : Tables) :
    Except PyError (List String) :=
  (walkHooks own tables inbound []).map distinct

/-- A walk that ends with no reason starts with none. -/
def OnlyAdds (walk : List String → Walked) : Prop :=
  ∀ reasons verdict, walk reasons = .ok (verdict, []) → reasons = []

theorem walkCall_onlyAdds {label : String}
    {enter : Option (String → List String → Walked)} {name target : String}
    {ends : Verdict → Bool} {next : List String → Walked}
    (enterAdds : ∀ into, enter = some into → ∀ callee, OnlyAdds (into callee))
    (nextAdds : OnlyAdds next) :
    OnlyAdds (walkCall label enter name target ends next) := by
  intro reasons verdict walked
  unfold walkCall at walked
  cases enter with
  | none => simp at walked
  | some into =>
      cases called : into target reasons with
      | error failure => simp [called] at walked
      | ok outcome =>
          obtain ⟨looked, between⟩ := outcome
          have betweenNil : between = [] := by
            simp only [called] at walked
            split at walked
            · simp only [Except.ok.injEq, Prod.mk.injEq] at walked
              exact walked.2
            · exact nextAdds between verdict walked
          rw [betweenNil] at called
          exact enterAdds into rfl target reasons looked called

theorem walkRules_onlyAdds (own : List PyIp.Address) (label : String)
    (table : Table) {enter : Option (String → List String → Walked)}
    (enterAdds : ∀ into, enter = some into → ∀ callee, OnlyAdds (into callee))
    (name : String) (lines : List String) :
    OnlyAdds (walkRules own label table enter name lines) := by
  induction lines with
  | nil =>
      intro reasons verdict walked
      simp only [walkRules, Except.ok.injEq, Prod.mk.injEq] at walked
      exact walked.2
  | cons line rest ih =>
      intro reasons verdict walked
      unfold walkRules at walked
      cases words : Shlex.split line with
      | error failure => simp [words] at walked
      | ok tokens =>
          simp only [words] at walked
          split at walked
          · exact ih reasons verdict walked
          · split at walked
            · simp at walked
            · split at walked
              · simp at walked
              · have verdictOr {decided : Verdict} {answer : Option Bool}
                    (either : (if answer = some true then .ok (decided, reasons)
                      else walkRules own label table enter name rest reasons) =
                      .ok (verdict, [])) : reasons = [] := by
                  split at either
                  · simp only [Except.ok.injEq, Prod.mk.injEq] at either
                    exact either.2
                  · exact ih reasons verdict either
                split at walked
                · exact ih reasons verdict walked
                · split at walked
                  · split at walked
                    · simp at walked
                    · have impossible := ih _ verdict walked
                      simp at impossible
                  · split at walked
                    · exact verdictOr walked
                    · split at walked
                      · exact verdictOr walked
                      · split at walked
                        · exact walkCall_onlyAdds enterAdds ih reasons verdict
                            walked
                        · exact ih reasons verdict walked

theorem walkChain_onlyAdds (own : List PyIp.Address) (label : String)
    (table : Table) (jumps : Nat) (name : String) :
    OnlyAdds (walkChain own label table jumps name) := by
  induction jumps generalizing name with
  | zero => exact walkRules_onlyAdds own label table (by simp) name _
  | succ jumps ih =>
      refine walkRules_onlyAdds own label table ?_ name _
      intro into same callee
      simp only [Option.some.injEq] at same
      exact same ▸ ih callee

end Catena.Firewall

import Catena.FirewallWalk

/-!
# The firewall walk and the kernel

The kernel takes the packet through the same chains.  What the walk could not
decide is settled there by the packet, one way or the other, and `reads` is
what iptables itself makes of a rule's line.  A walk of a chain that ends with
no reason is a quiet walk of the kernel's chain.
-/

namespace Catena.Firewall

open Chains (Verdict Action Reached Quiet Runs)

/-- What `rule_matches` answers for a line; open where it raises. -/
def lineAnswer (own : List PyIp.Address) (line : String) : Option Bool :=
  (((Shlex.split line).bind (ruleMatches own)).toOption).join

section Kernel

variable (own : List PyIp.Address) (reads : String → Action String)

def kernelChains (table : Table) (name : String) : List (Chains.Rule String) :=
  (table.lines name).map fun line => ⟨lineAnswer own line, reads line⟩

def HookDrops (tables : Tables) (packet : String → Chains.Packet String)
    (hook : String × String) : Prop :=
  ∃ table, PyDict.get tables hook.1 = some table ∧
    hook.2 ∈ PyDict.keys table.rules ∧
    ∃ verdict, Runs (kernelChains own reads table) (packet hook.1) hook.2 0
        (kernelChains own reads table hook.2) verdict ∧
      (verdict = .drop ∨
        verdict = .back ∧ PyDict.get table.policy hook.2 = some "DROP")

/-- The kernel drops the packet at one of the inbound hooks. -/
def Dropped (tables : Tables) (packet : String → Chains.Packet String) : Prop :=
  ∃ hook ∈ inbound, HookDrops own reads tables packet hook

/-- The packet agrees with every answer of `rule_matches`. -/
def Admissible (tables : Tables) (packet : String → Chains.Packet String) :
    Prop :=
  ∀ label table, PyDict.get tables label = some table →
    Chains.Consistent (kernelChains own reads table) (packet label)

/-- What the walk takes a rule to do; `none` where its target is none the walk
knows. -/
def walkAction (table : Table) (tokens : List String) : Option (Action String) :=
  if targetFlag tokens ∉ tokens then some .pass
  else
    (tokens[tokens.idxOf (targetFlag tokens) + 1]?).bind fun target =>
      if target ∈ ["DROP", "REJECT"] then some .drop
      else if target = "ACCEPT" then some .accept
      else if target = "RETURN" then some .back
      else if target ∈ continuing then some .pass
      else if target ∈ PyDict.keys table.rules then
        some (if targetFlag tokens = "-g" then .goto target else .jump target)
      else none

/-- The walk takes the line for what it is. -/
def ReadRight (table : Table) (line : String) : Prop :=
  (Shlex.split line).toOption.bind (walkAction table) = some (reads line)

/-- At the hook, every line the walk reaches is taken for what it is, and none
of them may leave, undecided, a chain in which the rules after it accept. -/
structure HookFirm (tables : Tables) (hook : String × String) : Prop where
  readRight : ∀ table, PyDict.get tables hook.1 = some table →
    ∀ name place line, Reached (kernelChains own reads table) hook.2 name place →
      (table.lines name)[place]? = some line → ReadRight reads table line
  firm : ∀ table, PyDict.get tables hook.1 = some table →
    Chains.Firm (kernelChains own reads table) hook.2

end Kernel

section Simulation

variable {own : List PyIp.Address} {reads : String → Action String}
  {label : String} {table : Table}

theorem kernelChains_drop {name : String} {place : Nat} {lines : List String}
    (here : (table.lines name).drop place = lines) :
    (kernelChains own reads table name).drop place =
      lines.map fun line => ⟨lineAnswer own line, reads line⟩ := by
  rw [← here]
  simp [kernelChains]

/-- What the walk makes of one rule, by its answer and its action; `next`
walks the rules after it. -/
def walkStep (label : String) (enter : Option (String → List String → Walked))
    (name line : String) (next : List String → Walked) (answer : Option Bool)
    (action : Action String) (reasons : List String) : Walked :=
  if answer = some false then next reasons
  else
    match action with
    | .drop =>
        let reasons := reasons ++ [label ++ ": " ++ line]
        if answer = some true then .ok (.drop, reasons) else next reasons
    | .accept => if answer = some true then .ok (.accept, reasons) else next reasons
    | .back => if answer = some true then .ok (.back, reasons) else next reasons
    | .pass => next reasons
    | .jump callee =>
        walkCall label enter name callee
          (fun verdict => answer = some true ∧ verdict ≠ .back) next reasons
    | .goto callee =>
        walkCall label enter name callee (fun _ => answer = some true) next reasons

theorem walkRules_cons {enter : Option (String → List String → Walked)}
    {name line : String} {rest reasons : List String}
    {outcome : Verdict × List String}
    (readRight : ReadRight reads table line)
    (walked : walkRules own label table enter name (line :: rest) reasons =
      .ok outcome) :
    walkStep label enter name line
        (walkRules own label table enter name rest) (lineAnswer own line)
        (reads line) reasons = .ok outcome := by
  unfold ReadRight at readRight
  unfold walkRules at walked
  cases words : Shlex.split line with
  | error failure => simp [words] at walked
  | ok tokens =>
      simp only [words, Except.toOption, Option.bind_some] at readRight
      simp only [words] at walked
      unfold walkAction at readRight
      by_cases noTarget : targetFlag tokens ∉ tokens
      · simp only [noTarget, not_false_eq_true, if_true, Option.some.injEq]
          at readRight walked
        rw [← readRight]
        unfold walkStep
        split <;> exact walked
      · simp only [noTarget, if_false] at readRight walked
        cases targetFound : tokens[tokens.idxOf (targetFlag tokens) + 1]? with
        | none => simp [targetFound] at walked
        | some target =>
            cases matching : ruleMatches own tokens with
            | error failure => simp [targetFound, matching] at walked
            | ok answer =>
                have answered : lineAnswer own line = answer := by
                  simp [lineAnswer, words, Except.bind, matching, Except.toOption]
                rw [answered]
                simp only [targetFound, Option.bind_some, matching]
                  at readRight walked
                unfold walkStep
                by_cases fails : answer = some false
                · simpa [fails] using walked
                · simp only [fails, if_false] at walked ⊢
                  by_cases drops : target ∈ ["DROP", "REJECT"]
                  · simp only [drops, if_true, Option.some.injEq]
                      at readRight walked
                    rw [← readRight]
                    exact walked
                  · simp only [drops, if_false] at readRight walked
                    by_cases accepts : target = "ACCEPT"
                    · simp only [accepts, if_true, Option.some.injEq]
                        at readRight walked
                      rw [← readRight]
                      exact walked
                    · simp only [accepts, if_false] at readRight walked
                      by_cases returns : target = "RETURN"
                      · simp only [returns, if_true, Option.some.injEq]
                          at readRight walked
                        rw [← readRight]
                        exact walked
                      · simp only [returns, if_false] at readRight walked
                        by_cases continues : target ∈ continuing
                        · simp only [continues, if_true, Option.some.injEq,
                            not_true_eq_false, false_and, if_false]
                            at readRight walked
                          rw [← readRight]
                          exact walked
                        · by_cases known : target ∈ PyDict.keys table.rules
                          · simp only [continues, known, if_false, if_true,
                              not_false_eq_true, and_self, Option.some.injEq]
                              at readRight walked
                            rw [← readRight]
                            by_cases isGoto : targetFlag tokens = "-g"
                            · simpa [isGoto] using walked
                            · simpa [isGoto] using walked
                          · simp [continues, known] at readRight

theorem answer_open {answer : Option Bool} (notFalse : answer ≠ some false)
    (notTrue : answer ≠ some true) : answer = none := by
  cases answer with
  | none => rfl
  | some value => cases value <;> simp_all

/-- A chain a rule may send the packet to, walked without a reason. -/
theorem walkCall_quiet {chains : String → List (Chains.Rule String)}
    {enter : Option (String → List String → Walked)} {name callee : String}
    {ends : Verdict → Bool} {next : List String → Walked}
    {reasons : List String} {verdict : Verdict}
    (nextAdds : OnlyAdds next)
    (enterQuiet : ∀ into, enter = some into → ∀ before looked,
      into callee before = .ok (looked, []) →
        Quiet chains callee 0 (chains callee) looked)
    (walked : walkCall label enter name callee ends next reasons =
      .ok (verdict, [])) :
    ∃ looked, Quiet chains callee 0 (chains callee) looked ∧
      (ends looked = true ∧ verdict = looked ∨
        ends looked = false ∧ next [] = .ok (verdict, [])) := by
  unfold walkCall at walked
  cases enter with
  | none => simp at walked
  | some into =>
      cases called : into callee reasons with
      | error failure => simp [called] at walked
      | ok outcome =>
          obtain ⟨looked, between⟩ := outcome
          simp only [called] at walked
          by_cases ended : ends looked = true
          · simp only [ended, if_true, Except.ok.injEq, Prod.mk.injEq] at walked
            rw [walked.2] at called
            exact ⟨looked, enterQuiet into rfl reasons looked called,
              Or.inl ⟨ended, walked.1.symm⟩⟩
          · simp only [ended] at walked
            have betweenNil := nextAdds between verdict walked
            rw [betweenNil] at called walked
            exact ⟨looked, enterQuiet into rfl reasons looked called,
              Or.inr ⟨by simpa using ended, walked⟩⟩

theorem walkStep_quiet {chains : String → List (Chains.Rule String)}
    {enter : Option (String → List String → Walked)} {name line : String}
    {next : List String → Walked} {answer : Option Bool}
    {action : Action String} {reasons : List String} {verdict : Verdict}
    {place : Nat} {rest : List (Chains.Rule String)}
    (nextAdds : OnlyAdds next)
    (enterQuiet : ∀ callee, answer ≠ some false →
      (action = .jump callee ∨ action = .goto callee) →
        ∀ into, enter = some into → ∀ before looked,
          into callee before = .ok (looked, []) →
            Quiet chains callee 0 (chains callee) looked)
    (goesOn : ¬ Chains.Settles chains ⟨answer, action⟩ →
      ∀ before, next before = .ok (verdict, []) →
        Quiet chains name (place + 1) rest verdict)
    (stepped : walkStep label enter name line next answer action reasons =
      .ok (verdict, [])) :
    Quiet chains name place (⟨answer, action⟩ :: rest) verdict := by
  unfold walkStep at stepped
  by_cases fails : answer = some false
  · subst fails
    simp only [if_true] at stepped
    exact .unmatched rfl (goesOn (by simp [Chains.Settles]) _ stepped)
  · simp only [fails, if_false] at stepped
    cases action with
    | drop =>
        dsimp only at stepped
        split at stepped
        · simp at stepped
        · have impossible := nextAdds _ _ stepped
          simp at impossible
    | accept =>
        dsimp only at stepped
        split at stepped
        · rename_i known
          simp only [Except.ok.injEq, Prod.mk.injEq] at stepped
          rw [← stepped.1]
          exact .accept known rfl
        · rename_i notKnown
          have isOpen : answer = none := answer_open fails notKnown
          exact .openVerdict isOpen (Or.inl rfl)
            (goesOn (by simp [Chains.Settles, isOpen]) _ stepped)
    | back =>
        dsimp only at stepped
        split at stepped
        · rename_i known
          simp only [Except.ok.injEq, Prod.mk.injEq] at stepped
          rw [← stepped.1]
          exact .back known rfl
        · rename_i notKnown
          have isOpen : answer = none := answer_open fails notKnown
          exact .openVerdict isOpen (Or.inr rfl)
            (goesOn (by simp [Chains.Settles, isOpen]) _ stepped)
    | pass => exact .pass rfl (goesOn (by simp [Chains.Settles]) _ stepped)
    | jump callee =>
        obtain ⟨looked, quiet, ⟨ended, rfl⟩ | ⟨open_, walked⟩⟩ :=
          walkCall_quiet nextAdds (enterQuiet callee fails (Or.inl rfl)) stepped
        · simp only [ne_eq, decide_eq_true_eq] at ended
          have accepted := Chains.accept_of_decided quiet.ne_drop ended.2
          subst accepted
          exact .jumpEnds ended.1 rfl quiet
        · by_cases known : answer = some true
          · have cameBack : looked = .back := by
              simpa [known] using open_
            subst cameBack
            have knownBack : Chains.KnownVerdict chains callee 0 .back :=
              quiet.knownVerdict List.drop_zero
            have unsettled : ¬ Chains.Settles chains ⟨answer, .jump callee⟩ := by
              simp [Chains.Settles, knownBack]
            exact .jumpComesBack known rfl quiet (goesOn unsettled _ walked)
          · have isOpen : answer = none := answer_open fails known
            exact .openCall isOpen (Or.inl rfl) quiet
              (goesOn (by simp [Chains.Settles, isOpen]) _ walked)
    | goto callee =>
        obtain ⟨looked, quiet, ⟨ended, rfl⟩ | ⟨open_, walked⟩⟩ :=
          walkCall_quiet nextAdds (enterQuiet callee fails (Or.inr rfl)) stepped
        · exact .goto (by simpa using ended) rfl quiet
        · have isOpen : answer = none :=
            answer_open fails (by simpa using open_)
          exact .openCall isOpen (Or.inr rfl) quiet
            (goesOn (by simp [Chains.Settles, isOpen]) _ walked)

section Reading

variable {start : String}
  (readRight : ∀ name place line,
    Reached (kernelChains own reads table) start name place →
      (table.lines name)[place]? = some line → ReadRight reads table line)

include readRight

theorem walkRules_quiet {enter : Option (String → List String → Walked)}
    (enterAdds : ∀ into, enter = some into → ∀ callee, OnlyAdds (into callee))
    (enterQuiet : ∀ into, enter = some into → ∀ callee before looked,
      Reached (kernelChains own reads table) start callee 0 →
        into callee before = .ok (looked, []) →
          Quiet (kernelChains own reads table) callee 0
            (kernelChains own reads table callee) looked)
    {name : String} (lines : List String) {place : Nat} {reasons : List String}
    {verdict : Verdict} (here : (table.lines name).drop place = lines)
    (reached : Reached (kernelChains own reads table) start name place)
    (walked : walkRules own label table enter name lines reasons =
      .ok (verdict, [])) :
    Quiet (kernelChains own reads table) name place
      ((kernelChains own reads table name).drop place) verdict := by
  induction lines generalizing place reasons verdict with
  | nil =>
      simp only [walkRules, Except.ok.injEq, Prod.mk.injEq] at walked
      rw [kernelChains_drop here, ← walked.1]
      exact .ended
  | cons line rest ih =>
      have found : (table.lines name)[place]? = some line := by
        have headHere := congrArg List.head? here
        simpa using headHere
      have restHere : (table.lines name).drop (place + 1) = rest := by
        rw [← List.drop_drop, here]
        rfl
      have rules : (kernelChains own reads table name).drop place =
          ⟨lineAnswer own line, reads line⟩ ::
            (kernelChains own reads table name).drop (place + 1) := by
        rw [kernelChains_drop here, kernelChains_drop restHere]
        rfl
      have ruleFound : (kernelChains own reads table name)[place]? =
          some ⟨lineAnswer own line, reads line⟩ :=
        Chains.found_of_drop rules
      have stepped := walkRules_cons (readRight name place line reached found)
        walked
      rw [rules]
      refine walkStep_quiet (walkRules_onlyAdds own label table enterAdds name rest)
        ?_ ?_ stepped
      · intro callee possible action into same before looked called
        exact enterQuiet into same callee before looked
          (.enter reached ruleFound possible action) called
      · intro unsettled before restWalked
        exact ih restHere (.next reached ruleFound unsettled) restWalked

theorem walkChain_quiet (jumps : Nat) {name : String} {reasons : List String}
    {verdict : Verdict}
    (reached : Reached (kernelChains own reads table) start name 0)
    (walked : walkChain own label table jumps name reasons =
      .ok (verdict, [])) :
    Quiet (kernelChains own reads table) name 0
      (kernelChains own reads table name) verdict := by
  induction jumps generalizing name reasons verdict with
  | zero =>
      exact walkRules_quiet readRight (by simp) (by simp) (table.lines name)
        List.drop_zero reached walked
  | succ jumps ih =>
      refine walkRules_quiet readRight ?_ ?_ (table.lines name) List.drop_zero
        reached walked
      · intro into same callee
        simp only [Option.some.injEq] at same
        rw [← same]
        exact walkChain_onlyAdds own label table jumps callee
      · intro into same callee before looked calleeReached called
        simp only [Option.some.injEq] at same
        rw [← same] at called
        exact ih calleeReached called

end Reading

end Simulation

end Catena.Firewall

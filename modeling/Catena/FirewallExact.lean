import Catena.ChainStack
import Catena.FirewallSound
import Catena.PyLines

/-!
# The firewall walk on rules it can decide

Where `rule_matches` answers true or false for every rule, the kernel's
traversal is determined, and the walk gives no reason exactly when the packet
gets through every inbound hook, as long as the walk takes the lines the packet
comes to for what they are.  The walk looks for its target behind the first
`-g` or `-j` among the words of a line, wherever that word stands;
`rule_matches` finds the target behind the options it reads.
-/

namespace Catena.Firewall

open Chains (Verdict Action Runs Ends)

/-- The rulesets read so far, and the table being read. -/
structure Ruleset where
  tables : Tables
  current : Option String

/-- The table being read with something added. -/
def Ruleset.put (ruleset : Ruleset) (label : String) (table : Table) : Ruleset :=
  ⟨PyDict.set ruleset.tables label table, ruleset.current⟩

/-- One line of `parse_ruleset`. -/
def Ruleset.read (ruleset : Ruleset) (raw : List Char) : Except PyError Ruleset :=
  let line := PyText.stripChars PyText.isSpace raw
  match line with
  | '*' :: name =>
      let label := String.ofList name
      let table := (PyDict.get ruleset.tables label).getD ⟨[], []⟩
      .ok ⟨PyDict.set ruleset.tables label table, some label⟩
  | _ =>
      match ruleset.current with
      | none => .ok ruleset
      | some label =>
          let table := (PyDict.get ruleset.tables label).getD ⟨[], []⟩
          match line with
          | ':' :: rest =>
              match PyText.words rest with
              | chain :: policy :: _ =>
                  let name := String.ofList chain
                  let rules := PyDict.set table.rules name (table.lines name)
                  .ok (ruleset.put label
                    ⟨PyDict.set table.policy name (String.ofList policy), rules⟩)
              | _ => .error (.valueError "not enough values to unpack")
          | '-' :: 'A' :: ' ' :: _ =>
              match PyText.words line with
              | _ :: chain :: _ =>
                  let name := String.ofList chain
                  let lines := table.lines name ++ [String.ofList line]
                  .ok (ruleset.put label
                    ⟨table.policy, PyDict.set table.rules name lines⟩)
              | _ => .error .indexError
          | _ => .ok ruleset

def parseRuleset (text : String) : Except PyError Tables :=
  (List.foldlM Ruleset.read ⟨[], none⟩ (PyText.splitLines text.toList)).map Ruleset.tables

section Exact

variable (own : List PyIp.Address) (reads : String → Action String)

/-- The packet that matches the rules `rule_matches` says it matches. -/
def sshPacket (table : Table) : Chains.Packet String :=
  Chains.known (kernelChains own reads table)

/-- The traversal of a base chain lets the packet through: it ends with ACCEPT,
or without a verdict where the policy is not to drop. -/
def HookPasses (table : Table) (name : String) : Prop :=
  ∃ verdict, Ends (kernelChains own reads table) (sshPacket own reads table) name verdict ∧
    verdict ≠ .drop ∧
    (verdict = .back → PyDict.get table.policy name ≠ some "DROP")

/-- The packet gets through every inbound hook that has a base chain. -/
def LetThrough (tables : Tables) : Prop :=
  ∀ hook ∈ inbound, ∀ table, PyDict.get tables hook.1 = some table →
    hook.2 ∈ PyDict.keys table.rules → HookPasses own reads table hook.2

/-- The packet comes to a hook: it gets through every one before it. -/
def ComesTo (tables : Tables) (hooks : List (String × String)) (hook : String × String) : Prop :=
  ∃ before after, hooks = before ++ hook :: after ∧
    ∀ earlier ∈ before, ∀ table, HasChain tables earlier table →
      HookPasses own reads table earlier.2

/-- `rule_matches` answers true or false for every rule. -/
def Decided (table : Table) : Prop :=
  ∀ name, ∀ line ∈ table.lines name, lineAnswer own line ≠ none

/-- From the chain on, at most so many chains are nested. -/
def Nested (table : Table) : Nat → String → Prop
  | 0, name => ∀ line ∈ table.lines name, ∀ callee,
      ¬(reads line = .jump callee ∨ reads line = .goto callee)
  | depth + 1, name => ∀ line ∈ table.lines name, ∀ callee,
      reads line = .jump callee ∨ reads line = .goto callee → Nested table depth callee

/-- The places a packet comes to in a traversal that starts at `base`. -/
inductive Comes (table : Table) (base : String) : String → Nat → Prop
  | start : Comes table base base 0
  | unmatched {name place} (comes : Comes table base name place)
      (fails : sshPacket own reads table name place = false) :
      Comes table base name (place + 1)
  | pass {name place line} (comes : Comes table base name place)
      (found : (table.lines name)[place]? = some line) (action : reads line = .pass) :
      Comes table base name (place + 1)
  | comesBack {name place line callee} (comes : Comes table base name place)
      (found : (table.lines name)[place]? = some line)
      (action : reads line = .jump callee)
      (inCallee : Runs (kernelChains own reads table) (sshPacket own reads table)
        callee 0 (kernelChains own reads table callee) .back) :
      Comes table base name (place + 1)
  | enter {name place line callee} (comes : Comes table base name place)
      (fires : sshPacket own reads table name place = true)
      (found : (table.lines name)[place]? = some line)
      (action : reads line = .jump callee ∨ reads line = .goto callee) :
      Comes table base callee 0

/-- The word behind the target flag is there. -/
def HasTarget (line : String) : Prop :=
  ∀ tokens, Shlex.split line = .ok tokens → targetFlag tokens ∈ tokens →
    tokens[tokens.idxOf (targetFlag tokens) + 1]? ≠ none

/-- The walk takes a line that matches for what it is, and gets past a line
that does not. -/
def TakenRight (table : Table) (line : String) : Prop :=
  if lineAnswer own line = some false then HasTarget line
  else ReadRight reads table line

/-- The walk is right about every line the packet comes to. -/
def AllTakenRight (tables : Tables) : Prop :=
  ∀ hook, ComesTo own reads tables inbound hook → ∀ table, HasChain tables hook table →
    ∀ name place line, Comes own reads table hook.2 name place →
      (table.lines name)[place]? = some line → TakenRight own reads table line

end Exact

section Line

variable {own : List PyIp.Address} {reads : String → Action String}
  {label : String} {table : Table} {enter : Option (String → List String → Walked)}
  {name line : String} {rest reasons : List String}

/-- The words of a line that `rule_matches` answers. -/
theorem lineAnswer_some {answer : Bool} (answered : lineAnswer own line = some answer) :
    ∃ tokens, Shlex.split line = .ok tokens ∧
      ruleMatches own tokens = .ok (some answer) := by
  unfold lineAnswer at answered
  cases words : Shlex.split line with
  | error failure => simp [words, Except.bind, Except.toOption] at answered
  | ok tokens =>
      cases matching : ruleMatches own tokens with
      | error failure => simp [words, Except.bind, matching, Except.toOption] at answered
      | ok result =>
          simp [words, Except.bind, matching, Except.toOption] at answered
          exact ⟨tokens, rfl, by rw [matching, answered]⟩

/-- A line that does not match is passed over. -/
theorem walkRules_unmatched (answered : lineAnswer own line = some false)
    (target : HasTarget line) :
    walkRules own label table enter name (line :: rest) reasons =
      walkRules own label table enter name rest reasons := by
  obtain ⟨tokens, words, matching⟩ := lineAnswer_some answered
  rw [walkRules]
  simp only [words]
  split
  · rfl
  · rename_i flagged
    cases found : tokens[tokens.idxOf (targetFlag tokens) + 1]? with
    | none => exact absurd found (target tokens words (not_not.mp flagged))
    | some word => simp [matching]

theorem walkRules_matched (answered : lineAnswer own line = some true)
    (readRight : ReadRight reads table line) :
    walkRules own label table enter name (line :: rest) reasons =
      walkStep label enter name line (walkRules own label table enter name rest)
        (some true) (reads line) reasons := by
  obtain ⟨tokens, words, matching⟩ := lineAnswer_some answered
  unfold ReadRight at readRight
  simp only [words, Except.toOption, Option.bind_some] at readRight
  rw [walkRules]
  simp only [words]
  unfold walkAction at readRight
  by_cases noTarget : targetFlag tokens ∉ tokens
  · simp only [noTarget, not_false_eq_true, if_true, Option.some.injEq] at readRight ⊢
    rw [← readRight]
    rfl
  · simp only [noTarget, if_false] at readRight ⊢
    cases targetFound : tokens[tokens.idxOf (targetFlag tokens) + 1]? with
    | none => simp [targetFound] at readRight
    | some target =>
        simp only [targetFound, Option.bind_some, matching] at readRight ⊢
        simp only [walkStep, if_false, if_true, Option.some.injEq,
          Bool.true_eq_false, true_and]
        by_cases drops : target ∈ ["DROP", "REJECT"]
        · simp only [drops, if_true, Option.some.injEq] at readRight ⊢
          rw [← readRight]
        · simp only [drops, if_false] at readRight ⊢
          by_cases accepts : target = "ACCEPT"
          · simp only [accepts, if_true, Option.some.injEq] at readRight ⊢
            rw [← readRight]
          · simp only [accepts, if_false] at readRight ⊢
            by_cases returns : target = "RETURN"
            · simp only [returns, if_true, Option.some.injEq] at readRight ⊢
              rw [← readRight]
            · simp only [returns, if_false] at readRight ⊢
              by_cases continues : target ∈ continuing
              · simp only [continues, if_true, Option.some.injEq, not_true_eq_false,
                  false_and, if_false] at readRight ⊢
                rw [← readRight]
              · by_cases known : target ∈ PyDict.keys table.rules
                · simp only [continues, known, if_false, if_true, not_false_eq_true,
                    and_self, Option.some.injEq] at readRight ⊢
                  rw [← readRight]
                  by_cases isGoto : targetFlag tokens = "-g"
                  · simp [isGoto]
                  · simp [isGoto]
                · simp [continues, known] at readRight

end Line

section Chain

variable {own : List PyIp.Address} {reads : String → Action String}
  {label : String} {table : Table} {base : String}

/-- A walk of a chain from a place on ends as the packet's traversal does, with
a reason exactly where the packet is dropped. -/
def Follows (own : List PyIp.Address) (reads : String → Action String) (table : Table)
    (walk : List String → Walked) (name : String) (place : Nat) : Prop :=
  ∀ reasons, ∃ verdict added, walk reasons = .ok (verdict, reasons ++ added) ∧
    Runs (kernelChains own reads table) (sshPacket own reads table) name place
      ((kernelChains own reads table name).drop place) verdict ∧
    (added = [] ↔ verdict ≠ .drop)

theorem sshPacket_eq (reads : String → Action String) {name line : String} {place : Nat}
    {answer : Bool} (found : (table.lines name)[place]? = some line)
    (answered : lineAnswer own line = some answer) :
    sshPacket own reads table name place = answer := by
  simp [sshPacket, Chains.known, kernelChains, found, answered]

theorem walkRules_follows (decided : Decided own table)
    (taken : ∀ name place line, Comes own reads table base name place →
      (table.lines name)[place]? = some line → TakenRight own reads table line)
    {enter : Option (String → List String → Walked)} {name : String}
    (enterFollows : ∀ line ∈ table.lines name, ∀ callee,
      (reads line = .jump callee ∨ reads line = .goto callee) →
        Comes own reads table base callee 0 →
          ∃ into, enter = some into ∧ Follows own reads table (into callee) callee 0)
    (lines : List String) {place : Nat} (here : (table.lines name).drop place = lines)
    (comes : Comes own reads table base name place) :
    Follows own reads table (walkRules own label table enter name lines) name place := by
  induction lines generalizing place with
  | nil =>
      intro reasons
      refine ⟨.back, [], by simp [walkRules], ?_, by simp⟩
      rw [kernelChains_drop here]
      exact .ended
  | cons line rest ih =>
      have found : (table.lines name)[place]? = some line := by
        have headHere := congrArg List.head? here
        simpa using headHere
      have restHere : (table.lines name).drop (place + 1) = rest := by
        rw [← List.drop_drop, here]
        rfl
      have rules : (kernelChains own reads table name).drop place =
          ⟨lineAnswer own line, reads line⟩ ::
            (kernelChains own reads table name).drop (place + 1) := by
        rw [kernelChains_drop here, kernelChains_drop restHere]
        rfl
      have isTaken := taken name place line comes found
      unfold TakenRight at isTaken
      intro reasons
      rw [rules]
      cases answered : lineAnswer own line with
      | none => exact absurd answered (decided name line (List.mem_of_getElem? found))
      | some answer =>
          have packet := sshPacket_eq reads found answered
          cases answer with
          | false =>
              rw [answered, if_pos rfl] at isTaken
              obtain ⟨verdict, added, walked, runs, quiet⟩ :=
                ih restHere (.unmatched comes packet) reasons
              refine ⟨verdict, added, ?_, .unmatched packet runs, quiet⟩
              rw [walkRules_unmatched answered isTaken, walked]
          | true =>
              rw [answered, if_neg (by simp)] at isTaken
              rw [walkRules_matched answered isTaken]
              have member := List.mem_of_getElem? found
              cases action : reads line with
              | drop =>
                  exact ⟨.drop, [label ++ ": " ++ line], rfl, .drop packet rfl, by simp⟩
              | accept =>
                  exact ⟨.accept, [], by simp [walkStep], .accept packet rfl, by simp⟩
              | back => exact ⟨.back, [], by simp [walkStep], .back packet rfl, by simp⟩
              | pass =>
                  obtain ⟨verdict, added, walked, runs, quiet⟩ :=
                    ih restHere (.pass comes found action) reasons
                  exact ⟨verdict, added, by simpa [walkStep] using walked,
                    .pass packet rfl runs, quiet⟩
              | jump callee =>
                  obtain ⟨into, same, follows⟩ := enterFollows line member callee
                    (.inl action) (.enter comes packet found (.inl action))
                  obtain ⟨looked, added, walked, runs, quiet⟩ := follows reasons
                  rw [List.drop_zero] at runs
                  by_cases cameBack : looked = .back
                  · subst cameBack
                    obtain rfl := quiet.mpr (by simp)
                    obtain ⟨verdict, more, goesOn, restRuns, restQuiet⟩ :=
                      ih restHere (.comesBack comes found action runs) reasons
                    refine ⟨verdict, more, ?_, .jumpComesBack packet rfl runs restRuns,
                      restQuiet⟩
                    simpa [walkStep, walkCall, same, walked] using goesOn
                  · refine ⟨looked, added, ?_, .jumpEnds packet rfl runs cameBack, quiet⟩
                    simp [walkStep, walkCall, same, walked, cameBack]
              | goto callee =>
                  obtain ⟨into, same, follows⟩ := enterFollows line member callee
                    (.inr action) (.enter comes packet found (.inr action))
                  obtain ⟨looked, added, walked, runs, quiet⟩ := follows reasons
                  rw [List.drop_zero] at runs
                  refine ⟨looked, added, ?_, .goto packet rfl runs, quiet⟩
                  simp [walkStep, walkCall, same, walked]

theorem walkChain_follows (decided : Decided own table)
    (taken : ∀ name place line, Comes own reads table base name place →
      (table.lines name)[place]? = some line → TakenRight own reads table line)
    {depth jumps : Nat} (enough : depth ≤ jumps) {name : String}
    (nested : Nested reads table depth name)
    (comes : Comes own reads table base name 0) :
    Follows own reads table (walkChain own label table jumps name) name 0 := by
  induction depth generalizing jumps name with
  | zero =>
      have noCall : ∀ enter, Follows own reads table
          (walkRules own label table enter name (table.lines name)) name 0 :=
        fun enter => walkRules_follows decided taken
          (fun line member callee action => absurd action (nested line member callee))
          (table.lines name) List.drop_zero comes
      cases jumps with
      | zero => exact noCall _
      | succ jumps => exact noCall _
  | succ depth ih =>
      obtain ⟨jumps, rfl⟩ := Nat.exists_eq_succ_of_ne_zero (by omega : jumps ≠ 0)
      refine walkRules_follows decided taken ?_ (table.lines name) List.drop_zero comes
      intro line member callee action calleeComes
      exact ⟨walkChain own label table jumps, rfl,
        ih (by omega) (nested line member callee action) calleeComes⟩

end Chain

section Hooks

variable {own : List PyIp.Address} {reads : String → Action String} {tables : Tables}

/-- What the theorem asks of a hook's base chain. -/
structure HookExact (own : List PyIp.Address) (reads : String → Action String)
    (table : Table) (name : String) : Prop where
  decided : Decided own table
  nested : Nested reads table 30 name
  taken : ∀ chain place line, Comes own reads table name chain place →
    (table.lines chain)[place]? = some line → TakenRight own reads table line

/-- A hook is left without a reason exactly when the packet gets through it. -/
theorem hookPasses_iff {label name : String} {table : Table}
    (exact : HookExact own reads table name) (reasons : List String) :
    ∃ verdict added, walkChain own label table 31 name reasons =
        .ok (verdict, reasons ++ added) ∧ (added = [] ↔ verdict ≠ .drop) ∧
      (HookPasses own reads table name ↔ verdict ≠ .drop ∧
        ¬(verdict = .back ∧ PyDict.get table.policy name = some "DROP")) := by
  obtain ⟨verdict, added, walked, runs, quiet⟩ := @walkChain_follows own reads label table name
    exact.decided exact.taken 30 31 (by omega) name exact.nested .start reasons
  rw [List.drop_zero] at runs
  refine ⟨verdict, added, walked, quiet, ?_⟩
  constructor
  · rintro ⟨other, ends, notDrop, policy⟩
    obtain rfl := runs.ends.unique ends
    exact ⟨notDrop, fun both => policy both.1 both.2⟩
  · rintro ⟨notDrop, policy⟩
    exact ⟨verdict, runs.ends, notDrop, fun back drops => policy ⟨back, drops⟩⟩

theorem ComesTo.first (hook : String × String) (rest : List (String × String)) :
    ComesTo own reads tables (hook :: rest) hook :=
  ⟨[], rest, rfl, by simp⟩

theorem ComesTo.mem {hooks : List (String × String)} {hook : String × String}
    (comes : ComesTo own reads tables hooks hook) : hook ∈ hooks := by
  obtain ⟨before, after, rfl, -⟩ := comes
  exact List.mem_append_right _ List.mem_cons_self

/-- Past a hook, the packet comes to what it would come to without it. -/
theorem ComesTo.later {hook other : String × String} {rest : List (String × String)}
    (through : ∀ table, HasChain tables hook table → HookPasses own reads table hook.2)
    (comes : ComesTo own reads tables rest other) :
    ComesTo own reads tables (hook :: rest) other := by
  obtain ⟨before, after, rfl, passed⟩ := comes
  refine ⟨hook :: before, after, rfl, fun earlier member => ?_⟩
  rcases List.mem_cons.mp member with rfl | inBefore
  · exact through
  · exact passed earlier inBefore

theorem walkHooks_exact {hooks : List (String × String)}
    (filterLast : ∀ hook ∈ hooks.dropLast, hook.1 ≠ "filter")
    (exact : ∀ hook, ComesTo own reads tables hooks hook → ∀ table,
      HasChain tables hook table → HookExact own reads table hook.2) (reasons : List String) :
    ∃ result, walkHooks own tables hooks reasons = .ok result ∧
      (result = [] ↔ reasons = [] ∧ ∀ hook ∈ hooks, ∀ table,
        HasChain tables hook table → HookPasses own reads table hook.2) := by
  induction hooks generalizing reasons with
  | nil => exact ⟨reasons, rfl, by simp⟩
  | cons hook rest ih =>
      have restLast : ∀ other ∈ rest.dropLast, other.1 ≠ "filter" := by
        intro other member
        apply filterLast
        cases rest with
        | nil => cases member
        | cons second others => simp [member]
      have later (through : ∀ table, HasChain tables hook table →
          HookPasses own reads table hook.2) :=
        ih restLast fun other comes => exact other (comes.later through)
      by_cases chain : ∃ table, HasChain tables hook table
      · obtain ⟨table, found, present⟩ := chain
        obtain ⟨verdict, added, walked, quiet, passes⟩ := @hookPasses_iff own reads hook.1 hook.2 table
          (exact hook (ComesTo.first hook rest) table ⟨found, present⟩) reasons
        have only : ∀ other, HasChain tables hook other → other = table := by
          rintro other ⟨otherFound, -⟩
          rw [found] at otherFound
          exact (Option.some.inj otherFound).symm
        have hookIff : (∀ other, HasChain tables hook other →
            HookPasses own reads other hook.2) ↔ HookPasses own reads table hook.2 := by
          constructor
          · intro all
            exact all table ⟨found, present⟩
          · rintro here other hasChain
            rwa [only other hasChain]
        rw [List.forall_mem_cons, hookIff, passes]
        simp only [walkHooks, found, present, not_true_eq_false, if_false, walked]
        by_cases dropped : verdict = .drop
        · have reason : added ≠ [] := fun none => quiet.mp none dropped
          exact ⟨reasons ++ added, if_pos dropped, by simp [dropped, reason]⟩
        · by_cases policy : verdict = .back ∧ PyDict.get table.policy hook.2 = some "DROP"
          · rw [if_neg dropped, if_pos policy]
            exact ⟨_, rfl, by simp [policy]⟩
          · obtain rfl := quiet.mpr dropped
            rw [if_neg dropped, if_neg policy, List.append_nil]
            by_cases accepting : verdict = .accept ∧ hook.1 = "filter"
            · have last : rest = [] := by
                cases rest with
                | nil => rfl
                | cons second others => exact absurd accepting.2 (filterLast hook (by simp))
              rw [if_pos accepting, last]
              exact ⟨reasons, rfl, by simp [dropped, policy]⟩
            · rw [if_neg accepting]
              obtain ⟨result, walkedRest, none⟩ :=
                later (hookIff.mpr (passes.mpr ⟨dropped, policy⟩)) reasons
              exact ⟨result, walkedRest, by simp [none, dropped, policy]⟩
      · have absent : ∀ table, ¬HasChain tables hook table :=
          fun table present => chain ⟨table, present⟩
        rw [walkHooks_of_no_chain absent]
        obtain ⟨result, walked, none⟩ :=
          later (fun table present => absurd present (absent table)) reasons
        refine ⟨result, walked, none.trans (and_congr_right fun _ => ?_)⟩
        rw [List.forall_mem_cons]
        exact (and_iff_right fun table present => absurd present (absent table)).symm

/-- Where every rule is decided and at most 30 chains are nested, the walk gives
no reason exactly when the packet gets through every hook, as long as it takes
the lines the packet comes to for what they are. -/
theorem walkInbound_exact (own : List PyIp.Address) (reads : String → Action String)
    (tables : Tables)
    (decided : ∀ label table, PyDict.get tables label = some table → Decided own table)
    (nested : ∀ hook ∈ inbound, ∀ table, PyDict.get tables hook.1 = some table →
      Nested reads table 30 hook.2)
    (taken : AllTakenRight own reads tables) :
    walkInbound own tables = .ok [] ↔ LetThrough own reads tables := by
  obtain ⟨result, walked, none⟩ := @walkHooks_exact own reads tables inbound (by decide)
    (fun hook comes table chain => ⟨decided hook.1 table chain.1,
      nested hook comes.mem table chain.1, taken hook comes table chain⟩) []
  have passes : LetThrough own reads tables ↔ result = [] := by
    rw [none]
    constructor
    · intro through
      exact ⟨rfl, fun hook member table chain => through hook member table chain.1 chain.2⟩
    · rintro ⟨-, through⟩ hook member table found present
      exact through hook member table ⟨found, present⟩
  rw [passes, walkInbound, walked]
  simp only [Except.map, Except.ok.injEq]
  constructor
  · exact eq_nil_of_distinct
  · rintro rfl
    rfl

end Hooks

/-- The target flag and the target of a rule, found behind the options that
`rule_matches` reads. -/
def targetWords (own : List PyIp.Address) (expecting : Expecting) :
    List String → Option (String × String)
  | [] => none
  | token :: rest =>
      if expecting = .argument then targetWords own .option rest
      else if expecting = .arguments ∧ startsOption token = false then
        targetWords own .arguments rest
      else if token ∈ ["-j", "-g"] then rest.head?.map fun target => (token, target)
      else if token = "!" then targetWords own .option rest
      else if token ∈ ["-A", "-m", "--comment"] then targetWords own .argument rest
      else if (modelled own token (rest.headD "")).isSome then
        targetWords own .argument rest
      else targetWords own .arguments rest

/-- What a rule does by the target behind its options. -/
def optionAction (own : List PyIp.Address) (table : Table) (line : String) :
    Action String :=
  match (Shlex.split line).toOption.bind (targetWords own .option) with
  | none => .pass
  | some (flag, target) =>
      if target ∈ ["DROP", "REJECT"] then .drop
      else if target = "ACCEPT" then .accept
      else if target = "RETURN" then .back
      else if target ∈ continuing then .pass
      else if target ∈ PyDict.keys table.rules then
        if flag = "-g" then .goto target else .jump target
      else .pass

theorem mem_lines_of_rules {table : Table} {name line : String}
    (member : line ∈ table.lines name) : line ∈ table.rules.flatMap Prod.snd := by
  unfold Table.lines at member
  cases found : PyDict.get table.rules name with
  | none => simp [found] at member
  | some lines =>
      rw [found, Option.getD_some] at member
      exact List.mem_flatMap.mpr ⟨(name, lines), PyDict.mem_of_get found, member⟩

/-- A rule whose comment is `-j` and whose target is DROP. -/
def commentRule : String :=
  "-A INPUT -m comment --comment -j -j DROP"

def commentTable : Table :=
  ⟨[("INPUT", "ACCEPT")], [("INPUT", [commentRule])]⟩

/-- The walk takes the comment for the flag and gives no reason, and the kernel
drops the packet. -/
theorem comment_hides_drop :
    parseRuleset ("*filter\n:INPUT ACCEPT [0:0]\n" ++ commentRule ++ "\nCOMMIT\n") =
        .ok [("filter", commentTable)] ∧
      Decided sampleOwn commentTable ∧
      Nested (optionAction sampleOwn commentTable) commentTable 30 "INPUT" ∧
      walkInbound sampleOwn [("filter", commentTable)] = .ok [] ∧
      ¬LetThrough sampleOwn (optionAction sampleOwn commentTable)
        [("filter", commentTable)] := by
  have only : ∀ name, ∀ line ∈ commentTable.lines name, line = commentRule := by
    intro name line member
    simpa [commentTable] using mem_lines_of_rules member
  have drops : optionAction sampleOwn commentTable commentRule = .drop := by
    decide
  have answered : lineAnswer sampleOwn commentRule = some true := by
    decide
  refine ⟨by rfl, ?_, ?_, by decide, ?_⟩
  · intro name line member
    rw [only name line member, answered]
    simp
  · intro line member callee action
    rw [only _ line member, drops] at action
    rcases action with jumps | goes
    · cases jumps
    · cases goes
  · intro through
    obtain ⟨verdict, ends, notDrop, -⟩ := through ("filter", "INPUT") (by decide)
      commentTable rfl (by decide)
    have found : (commentTable.lines "INPUT")[0]? = some commentRule := rfl
    have dropped : Runs (kernelChains sampleOwn (optionAction sampleOwn commentTable)
        commentTable) (sshPacket sampleOwn (optionAction sampleOwn commentTable) commentTable)
        "INPUT" 0 (kernelChains sampleOwn (optionAction sampleOwn commentTable) commentTable
          "INPUT") .drop :=
      .drop (sshPacket_eq _ found answered) drops
    exact notDrop (ends.unique dropped.ends)

/-- A table whose base chain jumps to a chain that accepts SSH. -/
def acceptTable : Table :=
  ⟨[("INPUT", "DROP"), ("CH", "-")],
    [("INPUT", ["-A INPUT -i tailscale0 -j CH"]),
      ("CH", ["-A CH -p tcp -m tcp --dport 22 -j ACCEPT"])]⟩

theorem accepted_through_chain :
    LetThrough sampleOwn (optionAction sampleOwn acceptTable)
      [("filter", acceptTable)] := by
  have only : ∀ label table, PyDict.get [("filter", acceptTable)] label = some table →
      table = acceptTable := by
    intro label table found
    have member := PyDict.mem_of_get found
    simp at member
    exact member.2
  have lines : ∀ name, ∀ line ∈ acceptTable.lines name,
      line ∈ ["-A INPUT -i tailscale0 -j CH", "-A CH -p tcp -m tcp --dport 22 -j ACCEPT"] := by
    intro name line member
    simpa [acceptTable] using mem_lines_of_rules member
  have answers : ∀ line ∈ ["-A INPUT -i tailscale0 -j CH",
      "-A CH -p tcp -m tcp --dport 22 -j ACCEPT"],
      lineAnswer sampleOwn line = some true := by
    decide
  have readRight : ∀ line ∈ ["-A INPUT -i tailscale0 -j CH",
      "-A CH -p tcp -m tcp --dport 22 -j ACCEPT"],
      ReadRight (optionAction sampleOwn acceptTable) acceptTable line := by
    simp only [ReadRight]
    decide
  have nested : Nested (optionAction sampleOwn acceptTable) acceptTable 30 "INPUT" := by
    have jumps : optionAction sampleOwn acceptTable "-A INPUT -i tailscale0 -j CH" =
        .jump "CH" := by
      decide
    have accepts : optionAction sampleOwn acceptTable
        "-A CH -p tcp -m tcp --dport 22 -j ACCEPT" = .accept := by
      decide
    intro line member callee action
    obtain rfl : line = "-A INPUT -i tailscale0 -j CH" := List.mem_singleton.mp member
    rw [jumps] at action
    have isCallee : "CH" = callee := by simpa using action
    rw [← isCallee]
    intro inner innerMember other innerAction
    obtain rfl : inner = "-A CH -p tcp -m tcp --dport 22 -j ACCEPT" :=
      List.mem_singleton.mp innerMember
    rw [accepts] at innerAction
    simp at innerAction
  refine (walkInbound_exact sampleOwn _ _ ?_ ?_ ?_).mp (by decide)
  · intro label table found name line member
    rw [only label table found] at member
    rw [answers line (lines name line member)]
    simp
  · intro hook isHook table found
    have named : hook = ("filter", "INPUT") := by
      have label := (PyDict.mem_of_get found)
      simp only [List.mem_singleton, Prod.mk.injEq] at label
      obtain ⟨first, second⟩ := hook
      simp only at label
      simpa [inbound, label.1] using isHook
    rw [only _ table found, named]
    exact nested
  · intro hook _ table chain name place line _ lineFound
    rw [only _ table chain.1] at lineFound ⊢
    have member := lines name line (List.mem_of_getElem? lineFound)
    rw [TakenRight, answers line member, if_neg (by simp)]
    exact readRight line member

end Catena.Firewall

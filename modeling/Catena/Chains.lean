import Mathlib.Data.List.Basic
import Mathlib.Tactic.Common

/-!
# Chains of a packet filter

Chains of rules as a packet goes through them: the first rule that matches
and ends the traversal decides, a jump comes back to the rule after it, a goto
does not, and a chain that ends without a verdict goes back to its caller.
Whether a rule matches may be known, known not, or left open; a packet settles
what was open.
-/

namespace Chains

/-- What a matching rule does. -/
inductive Action (Name : Type*) where
  | accept
  | drop
  | back
  | pass
  | jump (callee : Name)
  | goto (callee : Name)
  deriving DecidableEq

/-- How a chain ends for a packet. -/
inductive Verdict where
  | accept
  | drop
  | back
  deriving DecidableEq

/-- A rule: what is known of its condition, and its action. -/
structure Rule (Name : Type*) where
  answer : Option Bool
  action : Action Name

/-- A packet, as the rules see it: which rules it matches, by chain and
place. -/
abbrev Packet (Name : Type*) := Name → Nat → Bool

section Traversal

variable {Name : Type*} (chains : Name → List (Rule Name))

/-- The packet agrees with every answer that is known. -/
def Consistent (packet : Packet Name) : Prop :=
  ∀ chain place rule, (chains chain)[place]? = some rule →
    ∀ value, rule.answer = some value → packet chain place = value

/-- The packet that matches the rules known to match and no other. -/
def known : Packet Name := fun chain place =>
  ((chains chain)[place]?.bind Rule.answer).getD false

variable (packet : Packet Name)

/-- `Runs chains packet chain place rules verdict`: from the rules of `chain`
that start at `place` on, the packet ends with `verdict`. -/
inductive Runs : Name → Nat → List (Rule Name) → Verdict → Prop
  | ended {chain place} : Runs chain place [] .back
  | unmatched {chain place rule rest verdict}
      (fails : packet chain place = false)
      (goesOn : Runs chain (place + 1) rest verdict) :
      Runs chain place (rule :: rest) verdict
  | accept {chain place rule rest} (fires : packet chain place = true)
      (action : rule.action = .accept) :
      Runs chain place (rule :: rest) .accept
  | drop {chain place rule rest} (fires : packet chain place = true)
      (action : rule.action = .drop) :
      Runs chain place (rule :: rest) .drop
  | back {chain place rule rest} (fires : packet chain place = true)
      (action : rule.action = .back) :
      Runs chain place (rule :: rest) .back
  | pass {chain place rule rest verdict} (fires : packet chain place = true)
      (action : rule.action = .pass)
      (goesOn : Runs chain (place + 1) rest verdict) :
      Runs chain place (rule :: rest) verdict
  | jumpEnds {chain place rule rest callee verdict}
      (fires : packet chain place = true)
      (action : rule.action = .jump callee)
      (inCallee : Runs callee 0 (chains callee) verdict)
      (decided : verdict ≠ .back) :
      Runs chain place (rule :: rest) verdict
  | jumpComesBack {chain place rule rest callee verdict}
      (fires : packet chain place = true)
      (action : rule.action = .jump callee)
      (inCallee : Runs callee 0 (chains callee) .back)
      (goesOn : Runs chain (place + 1) rest verdict) :
      Runs chain place (rule :: rest) verdict
  | goto {chain place rule rest callee verdict}
      (fires : packet chain place = true)
      (action : rule.action = .goto callee)
      (inCallee : Runs callee 0 (chains callee) verdict) :
      Runs chain place (rule :: rest) verdict

end Traversal

section Reaching

variable {Name : Type*} (chains : Name → List (Rule Name))

/-- A chain as the packet that matches the known rules alone ends it. -/
def KnownVerdict (chain : Name) (place : Nat) (verdict : Verdict) : Prop :=
  Runs chains (known chains) chain place ((chains chain).drop place) verdict

/-- The rule is known to end its chain. -/
def Settles (rule : Rule Name) : Prop :=
  rule.answer = some true ∧
    (rule.action = .accept ∨ rule.action = .drop ∨
      rule.action = .back ∨ (∃ callee, rule.action = .goto callee) ∨
      ∃ callee, rule.action = .jump callee ∧
        ¬ KnownVerdict chains callee 0 .back)

/-- The places reached from the start of a chain by going past each rule that
is not known to end its chain, and into each chain a rule may send the packet
to. -/
inductive Reached (start : Name) : Name → Nat → Prop
  | start : Reached start start 0
  | next {chain place rule} (reached : Reached start chain place)
      (found : (chains chain)[place]? = some rule)
      (unsettled : ¬ Settles chains rule) : Reached start chain (place + 1)
  | enter {chain place rule callee} (reached : Reached start chain place)
      (found : (chains chain)[place]? = some rule)
      (possible : rule.answer ≠ some false)
      (action : rule.action = .jump callee ∨
        rule.action = .goto callee) : Reached start callee 0

/-- The rule may send the packet out of its chain without a verdict, and may
not: a RETURN, or a goto to a chain that comes back, whose condition is
open. -/
def MayLeave (rule : Rule Name) : Prop :=
  rule.answer = none ∧
    (rule.action = .back ∨
      ∃ callee, rule.action = .goto callee ∧
        KnownVerdict chains callee 0 .back)

/-- No place reached from `start` has a rule that may leave its chain while
the known rules after it accept. -/
def Firm (start : Name) : Prop :=
  ∀ chain place rule, Reached chains start chain place →
    (chains chain)[place]? = some rule → MayLeave chains rule →
      ¬ KnownVerdict chains chain (place + 1) .accept

/-- A walk along the known rules that finds nothing to report: it looks into
every chain a rule may send the packet to, passes over what is open, and no
rule it meets may drop the packet. -/
inductive Quiet : Name → Nat → List (Rule Name) → Verdict → Prop
  | ended {chain place} : Quiet chain place [] .back
  | unmatched {chain place rule rest verdict}
      (answer : rule.answer = some false)
      (goesOn : Quiet chain (place + 1) rest verdict) :
      Quiet chain place (rule :: rest) verdict
  | pass {chain place rule rest verdict}
      (action : rule.action = .pass)
      (goesOn : Quiet chain (place + 1) rest verdict) :
      Quiet chain place (rule :: rest) verdict
  | accept {chain place rule rest} (answer : rule.answer = some true)
      (action : rule.action = .accept) :
      Quiet chain place (rule :: rest) .accept
  | back {chain place rule rest} (answer : rule.answer = some true)
      (action : rule.action = .back) :
      Quiet chain place (rule :: rest) .back
  | openVerdict {chain place rule rest verdict} (answer : rule.answer = none)
      (action : rule.action = .accept ∨ rule.action = .back)
      (goesOn : Quiet chain (place + 1) rest verdict) :
      Quiet chain place (rule :: rest) verdict
  | jumpEnds {chain place rule rest callee} (answer : rule.answer = some true)
      (action : rule.action = .jump callee)
      (inCallee : Quiet callee 0 (chains callee) .accept) :
      Quiet chain place (rule :: rest) .accept
  | jumpComesBack {chain place rule rest callee verdict}
      (answer : rule.answer = some true)
      (action : rule.action = .jump callee)
      (inCallee : Quiet callee 0 (chains callee) .back)
      (goesOn : Quiet chain (place + 1) rest verdict) :
      Quiet chain place (rule :: rest) verdict
  | goto {chain place rule rest callee verdict}
      (answer : rule.answer = some true)
      (action : rule.action = .goto callee)
      (inCallee : Quiet callee 0 (chains callee) verdict) :
      Quiet chain place (rule :: rest) verdict
  | openCall {chain place rule rest callee looked verdict}
      (answer : rule.answer = none)
      (action : rule.action = .jump callee ∨
        rule.action = .goto callee)
      (inCallee : Quiet callee 0 (chains callee) looked)
      (goesOn : Quiet chain (place + 1) rest verdict) :
      Quiet chain place (rule :: rest) verdict

end Reaching

section Soundness

variable {Name : Type*} {chains : Name → List (Rule Name)}

theorem found_of_drop {chain : Name} {place : Nat} {rule : Rule Name}
    {rest : List (Rule Name)} (here : (chains chain).drop place = rule :: rest) :
    (chains chain)[place]? = some rule := by
  have headHere := congrArg List.head? here
  simpa using headHere

theorem drop_next {chain : Name} {place : Nat} {rule : Rule Name}
    {rest : List (Rule Name)} (here : (chains chain).drop place = rule :: rest) :
    (chains chain).drop (place + 1) = rest := by
  rw [← List.drop_drop, here]
  rfl

theorem known_of_drop {chain : Name} {place : Nat} {rule : Rule Name}
    {rest : List (Rule Name)} (here : (chains chain).drop place = rule :: rest) :
    known chains chain place = rule.answer.getD false := by
  simp [known, found_of_drop here]

/-- A quiet walk ends as the known rules alone do. -/
theorem Quiet.runs_known {chain : Name} {place : Nat} {rules : List (Rule Name)}
    {verdict : Verdict} (quiet : Quiet chains chain place rules verdict)
    (here : (chains chain).drop place = rules) :
    Runs chains (known chains) chain place rules verdict := by
  induction quiet with
  | ended => exact .ended
  | unmatched answer _ goesOn =>
      have fails := known_of_drop here
      rw [answer] at fails
      exact .unmatched fails (goesOn (drop_next here))
  | @pass chain place _ _ _ action _ goesOn =>
      cases fires : known chains chain place with
      | true => exact .pass fires action (goesOn (drop_next here))
      | false => exact .unmatched fires (goesOn (drop_next here))
  | accept answer action =>
      have fires := known_of_drop here
      rw [answer] at fires
      exact .accept fires action
  | back answer action =>
      have fires := known_of_drop here
      rw [answer] at fires
      exact .back fires action
  | openVerdict answer _ _ goesOn =>
      have fails := known_of_drop here
      rw [answer] at fails
      exact .unmatched fails (goesOn (drop_next here))
  | jumpEnds answer action _ inCallee =>
      have fires := known_of_drop here
      rw [answer] at fires
      exact .jumpEnds fires action (inCallee List.drop_zero) (by simp)
  | jumpComesBack answer action _ _ inCallee goesOn =>
      have fires := known_of_drop here
      rw [answer] at fires
      exact .jumpComesBack fires action (inCallee List.drop_zero)
        (goesOn (drop_next here))
  | goto answer action _ inCallee =>
      have fires := known_of_drop here
      rw [answer] at fires
      exact .goto fires action (inCallee List.drop_zero)
  | openCall answer _ _ _ _ goesOn =>
      have fails := known_of_drop here
      rw [answer] at fails
      exact .unmatched fails (goesOn (drop_next here))

theorem Quiet.knownVerdict {chain : Name} {place : Nat}
    {rules : List (Rule Name)} {verdict : Verdict}
    (quiet : Quiet chains chain place rules verdict)
    (here : (chains chain).drop place = rules) :
    KnownVerdict chains chain place verdict := by
  unfold KnownVerdict
  rw [here]
  exact quiet.runs_known here

/-- What a matching rule with the given action makes of the rules after it. -/
def Taken (chains : Name → List (Rule Name)) (packet : Packet Name)
    (chain : Name) (place : Nat) (rest : List (Rule Name)) (result : Verdict) :
    Action Name → Prop
  | .accept => result = .accept
  | .drop => result = .drop
  | .back => result = .back
  | .pass => Runs chains packet chain (place + 1) rest result
  | .jump callee =>
      (Runs chains packet callee 0 (chains callee) result ∧ result ≠ .back) ∨
        (Runs chains packet callee 0 (chains callee) .back ∧
          Runs chains packet chain (place + 1) rest result)
  | .goto callee => Runs chains packet callee 0 (chains callee) result

/-- Everything one rule can do. -/
theorem Runs.cons_cases {packet : Packet Name} {chain : Name} {place : Nat}
    {rule : Rule Name} {rest : List (Rule Name)} {result : Verdict}
    (runs : Runs chains packet chain place (rule :: rest) result) :
    (packet chain place = false ∧
        Runs chains packet chain (place + 1) rest result) ∨
      (packet chain place = true ∧
        Taken chains packet chain place rest result rule.action) := by
  cases runs with
  | unmatched fails goesOn => exact Or.inl ⟨fails, goesOn⟩
  | accept fires action => exact Or.inr ⟨fires, by rw [action]; rfl⟩
  | drop fires action => exact Or.inr ⟨fires, by rw [action]; rfl⟩
  | back fires action => exact Or.inr ⟨fires, by rw [action]; rfl⟩
  | pass fires action goesOn =>
      exact Or.inr ⟨fires, by rw [action]; exact goesOn⟩
  | jumpEnds fires action inCallee decided =>
      exact Or.inr ⟨fires, by rw [action]; exact Or.inl ⟨inCallee, decided⟩⟩
  | jumpComesBack fires action inCallee goesOn =>
      exact Or.inr ⟨fires, by rw [action]; exact Or.inr ⟨inCallee, goesOn⟩⟩
  | goto fires action inCallee =>
      exact Or.inr ⟨fires, by rw [action]; exact inCallee⟩

/-- What a quiet walk says of every packet that agrees with the known
answers: it is not dropped, and where the walk accepts it is accepted. -/
def Agrees (walked result : Verdict) : Prop :=
  result ≠ .drop ∧ (walked = .accept → result = .accept)

theorem agrees_accept (walked : Verdict) : Agrees walked .accept :=
  ⟨by simp, fun _ => rfl⟩

theorem accept_of_decided {result : Verdict} (notDrop : result ≠ .drop)
    (notBack : result ≠ .back) : result = .accept := by
  cases result with
  | accept => rfl
  | drop => exact absurd rfl notDrop
  | back => exact absurd rfl notBack

section Packet

variable {start : Name} (firm : Firm chains start) {packet : Packet Name}
  (consistent : Consistent chains packet)

theorem Quiet.ne_drop {chain : Name} {place : Nat} {rules : List (Rule Name)}
    {verdict : Verdict} (quiet : Quiet chains chain place rules verdict) :
    verdict ≠ .drop := by
  induction quiet <;> first | assumption | simp

include firm consistent in
/-- Where no reached rule may leave a chain the known rules accept in, a quiet
walk is right about every packet. -/
theorem Quiet.sound {chain : Name} {place : Nat} {rules : List (Rule Name)}
    {verdict : Verdict} (quiet : Quiet chains chain place rules verdict)
    (reached : Reached chains start chain place)
    (here : (chains chain).drop place = rules) {result : Verdict}
    (runs : Runs chains packet chain place rules result) :
    Agrees verdict result := by
  induction quiet generalizing result with
  | ended =>
      cases runs
      exact ⟨by simp, by simp⟩
  | @unmatched chain place rule rest verdict answer _ goesOn =>
      have found := found_of_drop here
      have fails := consistent chain place rule found false answer
      have later : Reached chains start chain (place + 1) :=
        .next reached found fun settles => by simp [Settles, answer] at settles
      rcases runs.cons_cases with ⟨_, restRuns⟩ | ⟨fires, _⟩
      · exact goesOn later (drop_next here) restRuns
      · simp [fails] at fires
  | @pass chain place rule rest verdict action _ goesOn =>
      have later : Reached chains start chain (place + 1) :=
        .next reached (found_of_drop here) fun settles => by
          simp [Settles, action] at settles
      rcases runs.cons_cases with ⟨_, restRuns⟩ | ⟨_, taken⟩
      · exact goesOn later (drop_next here) restRuns
      · rw [action] at taken
        exact goesOn later (drop_next here) taken
  | @accept chain place rule rest answer action =>
      have fires := consistent chain place rule (found_of_drop here) true answer
      rcases runs.cons_cases with ⟨fails, _⟩ | ⟨_, taken⟩
      · simp [fails] at fires
      · rw [action] at taken
        subst taken
        exact agrees_accept _
  | @back chain place rule rest answer action =>
      have fires := consistent chain place rule (found_of_drop here) true answer
      rcases runs.cons_cases with ⟨fails, _⟩ | ⟨_, taken⟩
      · simp [fails] at fires
      · rw [action] at taken
        subst taken
        exact ⟨by simp, by simp⟩
  | @openVerdict chain place rule rest verdict answer action quietRest goesOn =>
      have found := found_of_drop here
      have later : Reached chains start chain (place + 1) :=
        .next reached found fun settles => by simp [Settles, answer] at settles
      rcases runs.cons_cases with ⟨_, restRuns⟩ | ⟨_, taken⟩
      · exact goesOn later (drop_next here) restRuns
      · rcases action with action | action
        · rw [action] at taken
          subst taken
          exact agrees_accept _
        · rw [action] at taken
          subst taken
          refine ⟨by simp, ?_⟩
          rintro rfl
          exact absurd (quietRest.knownVerdict (drop_next here))
            (firm chain place rule reached found ⟨answer, Or.inl action⟩)
  | @jumpEnds chain place rule rest callee answer action _ inCallee =>
      have found := found_of_drop here
      have fires := consistent chain place rule found true answer
      have entered : Reached chains start callee 0 :=
        .enter reached found (by simp [answer]) (Or.inl action)
      rcases runs.cons_cases with ⟨fails, _⟩ | ⟨_, taken⟩
      · simp [fails] at fires
      · rw [action] at taken
        rcases taken with ⟨calleeRuns, _⟩ | ⟨comesBack, _⟩
        · exact inCallee entered List.drop_zero calleeRuns
        · have impossible := (inCallee entered List.drop_zero comesBack).2 rfl
          simp at impossible
  | @jumpComesBack chain place rule rest callee verdict answer action quietCallee
      _ inCallee goesOn =>
      have found := found_of_drop here
      have fires := consistent chain place rule found true answer
      have entered : Reached chains start callee 0 :=
        .enter reached found (by simp [answer]) (Or.inl action)
      have knownBack : KnownVerdict chains callee 0 .back :=
        quietCallee.knownVerdict List.drop_zero
      have later : Reached chains start chain (place + 1) :=
        .next reached found fun settles => by
          simp [Settles, action, knownBack] at settles
      rcases runs.cons_cases with ⟨fails, _⟩ | ⟨_, taken⟩
      · simp [fails] at fires
      · rw [action] at taken
        rcases taken with ⟨calleeRuns, decided⟩ | ⟨_, restRuns⟩
        · have notDrop := (inCallee entered List.drop_zero calleeRuns).1
          rw [accept_of_decided notDrop decided]
          exact agrees_accept _
        · exact goesOn later (drop_next here) restRuns
  | @goto chain place rule rest callee verdict answer action _ inCallee =>
      have found := found_of_drop here
      have fires := consistent chain place rule found true answer
      have entered : Reached chains start callee 0 :=
        .enter reached found (by simp [answer]) (Or.inr action)
      rcases runs.cons_cases with ⟨fails, _⟩ | ⟨_, taken⟩
      · simp [fails] at fires
      · rw [action] at taken
        exact inCallee entered List.drop_zero taken
  | @openCall chain place rule rest callee looked verdict answer action
      quietCallee quietRest inCallee goesOn =>
      have found := found_of_drop here
      have entered : Reached chains start callee 0 :=
        .enter reached found (by simp [answer]) action
      have later : Reached chains start chain (place + 1) :=
        .next reached found fun settles => by simp [Settles, answer] at settles
      rcases runs.cons_cases with ⟨_, restRuns⟩ | ⟨_, taken⟩
      · exact goesOn later (drop_next here) restRuns
      · rcases action with action | action
        · rw [action] at taken
          rcases taken with ⟨calleeRuns, decided⟩ | ⟨_, restRuns⟩
          · have notDrop := (inCallee entered List.drop_zero calleeRuns).1
            rw [accept_of_decided notDrop decided]
            exact agrees_accept _
          · exact goesOn later (drop_next here) restRuns
        · rw [action] at taken
          obtain ⟨notDrop, accepts⟩ := inCallee entered List.drop_zero taken
          refine ⟨notDrop, ?_⟩
          rintro rfl
          apply accepts
          apply accept_of_decided quietCallee.ne_drop
          rintro rfl
          have mayLeave : MayLeave chains rule :=
            ⟨answer, Or.inr ⟨callee, action,
              quietCallee.knownVerdict List.drop_zero⟩⟩
          exact absurd (quietRest.knownVerdict (drop_next here))
            (firm chain place rule reached found mayLeave)

end Packet

end Soundness

end Chains

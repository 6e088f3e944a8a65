import Catena.Chains
import Mathlib.Logic.Function.Iterate

/-!
# Chains on a stack

The traversal of chains as a packet filter performs it: one rule at a time,
with a stack of places to come back to.  A jump puts the place behind it on
the stack, a goto does not, and a return takes the last one off.
-/

namespace Chains

/-- A place to go on from. -/
structure Frame (Name : Type*) where
  chain : Name
  place : Nat

/-- A traversal under way, with the places to come back to, or its end. -/
inductive Progress (Name : Type*) where
  | running (here : Frame Name) (stack : List (Frame Name))
  | ended (verdict : Verdict)

section Machine

variable {Name : Type*}

/-- Go back to the last caller; the base chain goes back to its policy. -/
def comeBack : List (Frame Name) → Progress Name
  | [] => .ended .back
  | caller :: stack => .running caller stack

variable (chains : Name → List (Rule Name)) (packet : Packet Name)

/-- What one rule makes of a traversal. -/
def stackStep : Progress Name → Progress Name
  | .ended verdict => .ended verdict
  | .running here stack =>
      match (chains here.chain)[here.place]? with
      | none => comeBack stack
      | some rule =>
          if packet here.chain here.place then
            match rule.action with
            | .accept => .ended .accept
            | .drop => .ended .drop
            | .back => comeBack stack
            | .pass => .running ⟨here.chain, here.place + 1⟩ stack
            | .jump callee =>
                .running ⟨callee, 0⟩ (⟨here.chain, here.place + 1⟩ :: stack)
            | .goto callee => .running ⟨callee, 0⟩ stack
          else .running ⟨here.chain, here.place + 1⟩ stack

/-- The traversal of a base chain ends with a verdict. -/
def Ends (base : Name) (verdict : Verdict) : Prop :=
  ∃ steps, (stackStep chains packet)^[steps] (.running ⟨base, 0⟩ []) = .ended verdict

def Verdict.leads (stack : List (Frame Name)) : Verdict → Progress Name
  | .accept => .ended .accept
  | .drop => .ended .drop
  | .back => comeBack stack

/-- One progress leads to another. -/
def Leads (first last : Progress Name) : Prop :=
  ∃ steps, (stackStep chains packet)^[steps] first = last

variable {chains packet}

theorem Leads.refl (progress : Progress Name) : Leads chains packet progress progress :=
  ⟨0, rfl⟩

theorem Leads.step {first last : Progress Name}
    (later : Leads chains packet (stackStep chains packet first) last) :
    Leads chains packet first last := by
  obtain ⟨steps, reaches⟩ := later
  exact ⟨steps + 1, by rwa [Function.iterate_succ_apply]⟩

theorem Leads.trans {first middle last : Progress Name}
    (before : Leads chains packet first middle) (after : Leads chains packet middle last) :
    Leads chains packet first last := by
  obtain ⟨steps, reaches⟩ := before
  obtain ⟨more, goesOn⟩ := after
  exact ⟨more + steps, by rw [Function.iterate_add_apply, reaches, goesOn]⟩

theorem stackStep_rule {chain : Name} {place : Nat} {rule : Rule Name}
    {rest : List (Rule Name)} (here : (chains chain).drop place = rule :: rest)
    (stack : List (Frame Name)) :
    stackStep chains packet (.running ⟨chain, place⟩ stack) =
      if packet chain place then
        match rule.action with
        | .accept => .ended .accept
        | .drop => .ended .drop
        | .back => comeBack stack
        | .pass => .running ⟨chain, place + 1⟩ stack
        | .jump callee => .running ⟨callee, 0⟩ (⟨chain, place + 1⟩ :: stack)
        | .goto callee => .running ⟨callee, 0⟩ stack
      else .running ⟨chain, place + 1⟩ stack := by
  simp only [stackStep, found_of_drop here]

/-- A chain run to its end on a stack. -/
theorem Runs.leads {chain : Name} {place : Nat} {rules : List (Rule Name)}
    {verdict : Verdict} (runs : Runs chains packet chain place rules verdict)
    (here : (chains chain).drop place = rules) (stack : List (Frame Name)) :
    Leads chains packet (.running ⟨chain, place⟩ stack) (verdict.leads stack) := by
  induction runs generalizing stack with
  | @ended chain place =>
      have past : (chains chain)[place]? = none := by
        rw [List.getElem?_eq_none_iff, ← List.drop_eq_nil_iff]
        exact here
      refine .step ?_
      simp only [stackStep, past]
      exact .refl _
  | unmatched fails _ goesOn =>
      refine .step ?_
      rw [stackStep_rule here, fails]
      exact goesOn (drop_next here) stack
  | accept fires action =>
      refine .step ?_
      rw [stackStep_rule here, fires, action]
      exact .refl _
  | drop fires action =>
      refine .step ?_
      rw [stackStep_rule here, fires, action]
      exact .refl _
  | back fires action =>
      refine .step ?_
      rw [stackStep_rule here, fires, action]
      exact .refl _
  | pass fires action _ goesOn =>
      refine .step ?_
      rw [stackStep_rule here, fires, action]
      exact goesOn (drop_next here) stack
  | @jumpEnds chain place rule rest callee verdict fires action _ decided inCallee =>
      refine .step ?_
      rw [stackStep_rule here, fires, action]
      have ends := inCallee List.drop_zero (⟨chain, place + 1⟩ :: stack)
      cases verdict with
      | accept => exact ends
      | drop => exact ends
      | back => exact absurd rfl decided
  | @jumpComesBack chain place rule rest callee verdict fires action _ _ inCallee goesOn =>
      refine .step ?_
      rw [stackStep_rule here, fires, action]
      exact (inCallee List.drop_zero (⟨chain, place + 1⟩ :: stack)).trans
        (goesOn (drop_next here) stack)
  | goto fires action _ inCallee =>
      refine .step ?_
      rw [stackStep_rule here, fires, action]
      exact inCallee List.drop_zero stack

theorem Runs.ends {base : Name} {verdict : Verdict}
    (runs : Runs chains packet base 0 (chains base) verdict) :
    Ends chains packet base verdict := by
  have leads := runs.leads List.drop_zero []
  cases verdict with
  | accept => exact leads
  | drop => exact leads
  | back => exact leads

/-- A traversal that has ended stays ended. -/
theorem iterate_ended (verdict : Verdict) (steps : Nat) :
    (stackStep chains packet)^[steps] (.ended verdict) = .ended verdict := by
  induction steps with
  | zero => rfl
  | succ steps ih => rw [Function.iterate_succ_apply, stackStep, ih]

theorem Ends.unique {base : Name} {first second : Verdict}
    (one : Ends chains packet base first) (other : Ends chains packet base second) :
    first = second := by
  obtain ⟨steps, reaches⟩ := one
  obtain ⟨more, leads⟩ := other
  have whole : (stackStep chains packet)^[steps + more] (.running ⟨base, 0⟩ []) =
      .ended second := by
    rw [Function.iterate_add_apply, leads, iterate_ended]
  rw [Nat.add_comm, Function.iterate_add_apply, reaches, iterate_ended] at whole
  cases whole
  rfl

end Machine

end Chains

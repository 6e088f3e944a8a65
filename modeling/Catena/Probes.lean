import Mathlib.Data.List.Forall2
import Mathlib.Tactic.Common

/-!
# Programs that ask

A program asks one question after another, and each answer may depend on all that
was asked before.  What a program finds rests on answers it has heard; two programs whose
questions are alike, and whose answers are, come to like results.
-/

namespace Probes

/-- The answers to questions, by those asked before. -/
abbrev Answers (Op : Type) (Res : Op → Type) (E : Type) :=
  List Op → (op : Op) → Except E (Res op)

/-- A program, run after some questions. -/
def Probe (Op E α : Type) : Type :=
  List Op → Except E α × List Op

section Basic

variable {Op E α β : Type}

instance : Monad (Probe Op E) where
  pure value asked := (.ok value, asked)
  bind part next asked :=
    match part asked with
    | (.ok value, after) => next value after
    | (.error failure, after) => (.error failure, after)

/-- A value computed without a question. -/
def lift (value : Except E α) : Probe Op E α :=
  fun asked => (value, asked)

/-- A part whose failure is looked at. -/
def settle (part : Probe Op E α) : Probe Op E (Except E α) :=
  fun asked => (.ok (part asked).1, (part asked).2)

theorem bind_apply (part : Probe Op E α) (next : α → Probe Op E β) (asked : List Op) :
    (part >>= next) asked =
      match part asked with
      | (.ok value, after) => next value after
      | (.error failure, after) => (.error failure, after) :=
  rfl

end Basic

section Ask

variable {Op : Type} {Res : Op → Type} {E : Type} (answers : Answers Op Res E)

def ask (op : Op) : Probe Op E (Res op) :=
  fun asked => (answers asked op, asked ++ [op])

/-- The question has been asked since then, and this was its answer. -/
def Heard (since asked : List Op) (op : Op) (answer : Res op) : Prop :=
  ∃ before, since <+: before ∧ before ++ [op] <+: asked ∧ answers before op = .ok answer

variable {answers}

theorem Heard.widen {since asked earlier after : List Op} {op : Op} {answer : Res op}
    (heard : Heard answers since asked op answer) (backward : earlier <+: since)
    (onward : asked <+: after) : Heard answers earlier after op answer := by
  obtain ⟨before, from_since, upto, answered⟩ := heard
  exact ⟨before, backward.trans from_since, upto.trans onward, answered⟩

end Ask

section Finds

variable {Op : Type} {E α β : Type} {allowed : Op → Prop}

/-- More questions have been asked, each of the kind. -/
def Onward (allowed : Op → Prop) (asked after : List Op) : Prop :=
  ∃ more, after = asked ++ more ∧ ∀ op ∈ more, allowed op

theorem Onward.refl (asked : List Op) : Onward allowed asked asked :=
  ⟨[], by simp, by simp⟩

theorem Onward.trans {asked middle after : List Op} (first : Onward allowed asked middle)
    (second : Onward allowed middle after) : Onward allowed asked after := by
  obtain ⟨early, rfl, earlyAllowed⟩ := first
  obtain ⟨more, rfl, moreAllowed⟩ := second
  refine ⟨early ++ more, by simp, ?_⟩
  intro op member
  rcases List.mem_append.mp member with member | member
  · exact earlyAllowed op member
  · exact moreAllowed op member

theorem Onward.starts {asked after : List Op} (onward : Onward allowed asked after) :
    asked <+: after := by
  obtain ⟨more, rfl, -⟩ := onward
  exact List.prefix_append asked more

theorem Onward.mono {wider : Op → Prop} {asked after : List Op}
    (onward : Onward allowed asked after) (implied : ∀ op, allowed op → wider op) :
    Onward wider asked after := by
  obtain ⟨more, same, inMore⟩ := onward
  exact ⟨more, same, fun op member => implied op (inMore op member)⟩

/-- A program asks questions of a kind, and what it returns is as stated, by the
questions asked then. -/
structure Finds (allowed : Op → Prop) (part : Probe Op E α) (asked : List Op)
    (ends : α → List Op → Prop) : Prop where
  onward : Onward allowed asked (part asked).2
  ends : ∀ value, (part asked).1 = .ok value → ends value (part asked).2

theorem Finds.mono {part : Probe Op E α} {asked : List Op} {ends weaker : α → List Op → Prop}
    (finds : Finds allowed part asked ends)
    (implied : ∀ value after, asked <+: after → ends value after → weaker value after) :
    Finds allowed part asked weaker :=
  ⟨finds.onward, fun value isOk => implied value _ finds.onward.starts (finds.ends value isOk)⟩

theorem Finds.noting {wider : Op → Prop} {part : Probe Op E α} {asked : List Op}
    {ends : α → List Op → Prop} (finds : Finds allowed part asked ends)
    (implied : ∀ op, allowed op → wider op) :
    Finds wider part asked fun value after => Onward allowed asked after ∧ ends value after :=
  ⟨finds.onward.mono implied, fun value isOk => ⟨finds.onward, finds.ends value isOk⟩⟩

theorem Finds.bind {part : Probe Op E α} {next : α → Probe Op E β} {asked : List Op}
    {middle : α → List Op → Prop} {ends : β → List Op → Prop}
    (first : Finds allowed part asked middle)
    (rest : ∀ value after, asked <+: after → middle value after →
      Finds allowed (next value) after ends) :
    Finds allowed (part >>= next) asked ends := by
  obtain ⟨onward, found⟩ := first
  constructor
  · rw [bind_apply]
    cases came : part asked with
    | mk outcome after =>
        rw [came] at onward found
        cases outcome with
        | error failure => exact onward
        | ok value =>
            exact onward.trans (rest value after onward.starts (found value rfl)).onward
  · intro last
    rw [bind_apply]
    cases came : part asked with
    | mk outcome after =>
        rw [came] at onward found
        cases outcome with
        | error failure => exact fun isOk => by cases isOk
        | ok value => exact (rest value after onward.starts (found value rfl)).ends last

theorem finds_pure {asked : List Op} {ends : α → List Op → Prop} {value : α}
    (holds : ends value asked) : Finds allowed (pure value : Probe Op E α) asked ends where
  onward := Onward.refl asked
  ends _ isOk := by
    cases isOk
    exact holds

theorem finds_lift (value : Except E α) (asked : List Op) :
    Finds allowed (lift value) asked fun found after => value = .ok found ∧ after = asked where
  onward := Onward.refl asked
  ends _ isOk := ⟨isOk, rfl⟩

theorem finds_raise (failure : E) (asked : List Op) (ends : α → List Op → Prop) :
    Finds allowed (lift (.error failure) : Probe Op E α) asked ends where
  onward := Onward.refl asked
  ends _ isOk := by cases isOk

theorem finds_settle {part : Probe Op E α} {asked : List Op} {ends : α → List Op → Prop}
    (finds : Finds allowed part asked ends) :
    Finds allowed (settle part) asked fun outcome after =>
      ∀ value, outcome = .ok value → ends value after where
  onward := finds.onward
  ends outcome isOk value same := by
    cases isOk
    exact finds.ends value same

theorem finds_ask {Res : Op → Type} {answers : Answers Op Res E} {op : Op} (asked : List Op)
    (isAllowed : allowed op) :
    Finds allowed (ask answers op) asked fun answer after =>
      Heard answers asked after op answer where
  onward := ⟨[op], rfl, by simpa using isAllowed⟩
  ends _ isOk := ⟨asked, List.prefix_refl _, List.prefix_refl _, isOk⟩

end Finds

section Takes

variable {Op : Type} {E α β : Type} {counted : Op → Bool}

/-- A program asks at most so many questions that count. -/
def Takes (counted : Op → Bool) (part : Probe Op E α) (most : Nat) : Prop :=
  ∀ asked, (part asked).2.countP counted ≤ asked.countP counted + most

theorem Takes.bind {part : Probe Op E α} {next : α → Probe Op E β} {first second : Nat}
    (takes : Takes counted part first) (rest : ∀ value, Takes counted (next value) second) :
    Takes counted (part >>= next) (first + second) := by
  intro asked
  have begun := takes asked
  rw [bind_apply]
  cases came : part asked with
  | mk outcome after =>
      rw [came] at begun
      cases outcome with
      | error failure =>
          dsimp only at begun ⊢
          omega
      | ok value =>
          have ended := rest value after
          dsimp only at begun ⊢
          omega

theorem takes_pure (value : α) : Takes counted (pure value : Probe Op E α) 0 :=
  fun _ => Nat.le_refl _

theorem takes_lift (value : Except E α) : Takes counted (lift value : Probe Op E α) 0 :=
  fun _ => Nat.le_refl _

theorem takes_ask {Res : Op → Type} {answers : Answers Op Res E} (op : Op) :
    Takes counted (ask answers op) 1 := by
  intro asked
  change (asked ++ [op]).countP counted ≤ asked.countP counted + 1
  rw [List.countP_append]
  exact Nat.add_le_add_left List.countP_le_length _

/-- Questions of a kind that does not count. -/
theorem takes_of_onward {allowed : Op → Prop} {part : Probe Op E α}
    (onward : ∀ asked, Onward allowed asked (part asked).2)
    (uncounted : ∀ op, allowed op → counted op = false) : Takes counted part 0 := by
  intro asked
  obtain ⟨more, same, inMore⟩ := onward asked
  have none_counted : more.countP counted = 0 :=
    List.countP_eq_zero.mpr fun op member => by simp [uncounted op (inMore op member)]
  have counts : (part asked).2.countP counted = asked.countP counted + 0 := by
    rw [same, List.countP_append, none_counted]
  exact Nat.le_of_eq counts

end Takes

section Alike

variable {Op : Type} {E α β γ δ : Type} {alike : Op → Op → Prop}

/-- Two outcomes: one failure, or values that are alike. -/
def Outcomes (same : α → β → Prop) : Except E α → Except E β → Prop
  | .ok value, .ok other => same value other
  | .error failure, .error other => failure = other
  | _, _ => False

theorem outcomes_eq {value other : Except E α} (outcomes : Outcomes Eq value other) :
    value = other := by
  cases value with
  | error failure =>
      cases other with
      | error next => exact congrArg Except.error outcomes
      | ok found => exact outcomes.elim
  | ok found =>
      cases other with
      | error next => exact outcomes.elim
      | ok next => exact congrArg Except.ok outcomes

theorem outcomes_refl (value : Except E α) : Outcomes Eq value value := by
  cases value <;> rfl

/-- Two programs that go on alike after questions that are alike. -/
def Alike (alike : Op → Op → Prop) (part : Probe Op E α) (other : Probe Op E β)
    (same : α → β → Prop) : Prop :=
  ∀ asked askedOther, List.Forall₂ alike asked askedOther →
    List.Forall₂ alike (part asked).2 (other askedOther).2 ∧
      Outcomes same (part asked).1 (other askedOther).1

theorem Alike.bind {part : Probe Op E α} {other : Probe Op E β} {next : α → Probe Op E γ}
    {nextOther : β → Probe Op E δ} {same : α → β → Prop} {ends : γ → δ → Prop}
    (first : Alike alike part other same)
    (rest : ∀ value found, same value found → Alike alike (next value) (nextOther found) ends) :
    Alike alike (part >>= next) (other >>= nextOther) ends := by
  intro asked askedOther asking
  obtain ⟨after, outcomes⟩ := first asked askedOther asking
  rw [bind_apply, bind_apply]
  cases came : part asked with
  | mk outcome middle =>
      cases cameOther : other askedOther with
      | mk outcomeOther middleOther =>
          rw [came, cameOther] at after outcomes
          cases outcome with
          | error failure =>
              cases outcomeOther with
              | error found => exact ⟨after, outcomes⟩
              | ok value => exact outcomes.elim
          | ok value =>
              cases outcomeOther with
              | error found => exact outcomes.elim
              | ok found => exact rest value found outcomes middle middleOther after

theorem Alike.next {part other : Probe Op E α} {next : α → Probe Op E γ}
    {nextOther : α → Probe Op E δ} {ends : γ → δ → Prop} (first : Alike alike part other Eq)
    (rest : ∀ value, Alike alike (next value) (nextOther value) ends) :
    Alike alike (part >>= next) (other >>= nextOther) ends :=
  first.bind fun value _ same => same ▸ rest value

theorem alike_pure (value : α) :
    Alike alike (pure value : Probe Op E α) (pure value : Probe Op E α) Eq :=
  fun _ _ asking => ⟨asking, rfl⟩

theorem alike_lift (value : Except E α) :
    Alike alike (lift value : Probe Op E α) (lift value) Eq :=
  fun _ _ asking => ⟨asking, outcomes_refl value⟩

theorem alike_settle {part other : Probe Op E α} (runs : Alike alike part other Eq) :
    Alike alike (settle part) (settle other) Eq := by
  intro asked askedOther asking
  obtain ⟨after, outcomes⟩ := runs asked askedOther asking
  exact ⟨after, outcomes_eq outcomes⟩

theorem alike_ask {Res : Op → Type} {answers others : Answers Op Res E} {op other : Op}
    {same : Res op → Res other → Prop} (question : alike op other)
    (answering : ∀ asked askedOther, List.Forall₂ alike asked askedOther →
      Outcomes same (answers asked op) (others askedOther other)) :
    Alike alike (ask answers op) (ask others other) same := by
  intro asked askedOther asking
  exact ⟨List.rel_append asking (List.Forall₂.cons question List.Forall₂.nil),
    answering asked askedOther asking⟩

end Alike

end Probes

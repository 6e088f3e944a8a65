import Mathlib.Logic.Basic

/-!
# Runs of a step function

A system is a function from a state and a step to the next state.  Its runs
are lists of steps, a condition on the steps of a run is asked in the state
before each of them, and what one step keeps a run keeps.
-/

namespace Catena

namespace Runs

variable {State Step : Type*} (step : State → Step → State)

/-- The state after a list of steps. -/
def run (state : State) (steps : List Step) : State :=
  steps.foldl step state

/-- A condition holds of every step of a run in the state before it. -/
def Throughout (condition : State → Step → Prop) : State → List Step → Prop
  | _, [] => True
  | state, taken :: rest =>
    condition state taken ∧ Throughout condition (step state taken) rest

variable {step} {condition : State → Step → Prop} {state : State} {steps : List Step}

theorem throughout_append {taken : Step} :
    Throughout step condition state (steps ++ [taken]) ↔
      Throughout step condition state steps ∧ condition (run step state steps) taken := by
  induction steps generalizing state with
  | nil => simp [Throughout, run]
  | cons first rest ih =>
    simp only [List.cons_append, Throughout, ih, and_assoc]
    rfl

theorem throughout_congr {other : State → Step → Prop}
    (agree : ∀ state taken, condition state taken ↔ other state taken) :
    Throughout step condition state steps ↔ Throughout step other state steps := by
  induction steps generalizing state with
  | nil => exact Iff.rfl
  | cons first rest ih =>
    simp only [Throughout, agree, ih]

theorem throughout_and {other : State → Step → Prop}
    (first : Throughout step condition state steps)
    (second : Throughout step other state steps) :
    Throughout step (fun state taken => condition state taken ∧ other state taken)
      state steps := by
  induction steps generalizing state with
  | nil => trivial
  | cons taken rest ih => exact ⟨⟨first.1, second.1⟩, ih first.2 second.2⟩

theorem throughout_of_always (always : ∀ state taken, condition state taken) :
    Throughout step condition state steps := by
  induction steps generalizing state with
  | nil => trivial
  | cons first rest ih => exact ⟨always state first, ih⟩

theorem persists {holds : State → Prop}
    (keeps : ∀ state taken, holds state → holds (step state taken))
    (start : holds state) : holds (run step state steps) := by
  induction steps generalizing state with
  | nil => exact start
  | cons first rest ih => exact ih (keeps state first start)

/-- An invariant that a step keeps under its condition and under a property of
the state it leads to, which holds of every state before one it holds of. -/
theorem invariant_ahead {invariant ahead : State → Prop}
    (keeps : ∀ state taken, invariant state → condition state taken →
      ahead (step state taken) → invariant (step state taken))
    (back : ∀ state taken, ahead (step state taken) → ahead state)
    (start : invariant state) (all : Throughout step condition state steps)
    (ends : ahead (run step state steps)) : invariant (run step state steps) := by
  have earlier : ∀ (steps : List Step) (state : State),
      ahead (run step state steps) → ahead state := by
    intro steps
    induction steps with
    | nil =>
      intro state here
      exact here
    | cons first rest ih =>
      intro state here
      exact back state first (ih _ here)
  induction steps generalizing state with
  | nil => exact start
  | cons first rest ih =>
    exact ih (keeps state first start all.1 (earlier rest _ ends)) all.2 ends

theorem invariant {holds : State → Prop}
    (keeps : ∀ state taken, holds state → condition state taken →
      holds (step state taken))
    (start : holds state) (all : Throughout step condition state steps) :
    holds (run step state steps) :=
  @invariant_ahead _ _ step condition state steps holds (fun _ => True)
    (fun state taken before allowed _ => keeps state taken before allowed)
    (fun _ _ _ => trivial) start all trivial

end Runs

end Catena

import Catena.HostProgram
import Mathlib.Order.Defs.Unbundled

/-!
# Runs whose steps all meet a condition

A condition on an operation and the world it is performed in picks runs of a
program.  `Where` states what holds of the outcome of every run picked, and
`Relates` that such a run takes the world along a relation.
-/

namespace Prog

variable {Op : Type} {Res : Op → Type} {E α β : Type} {World Choice : Type}
  (perform : World → Choice → (op : Op) → World × Except E (Res op))
  (meets : World → Op → Prop)

/-- Every operation of a run meets the condition where it is performed. -/
def Meets : Prog Op Res E α → (Nat → Choice) → World → Prop
  | done _, _, _ => True
  | step op next, choices, world => meets world op ∧
      Meets (next (perform world (choices 0) op).2) (fun index => choices (index + 1))
        (perform world (choices 0) op).1

/-- `ends` is true of the outcome of every run whose operations meet the condition. -/
def Where (ends : Except E α → World → Prop) : Prog Op Res E α → World → Prop
  | done outcome, world => ends outcome world
  | step op next, world => meets world op → ∀ choice,
      Where ends (next (perform world choice op).2) (perform world choice op).1

variable {perform meets}

instance decidableMeets [∀ world op, Decidable (meets world op)] :
    (program : Prog Op Res E α) → (choices : Nat → Choice) → (world : World) →
      Decidable (Meets perform meets program choices world)
  | done _, _, _ => isTrue trivial
  | step op next, choices, world =>
      haveI := decidableMeets (next (perform world (choices 0) op).2)
        (fun index => choices (index + 1)) (perform world (choices 0) op).1
      inferInstanceAs (Decidable (meets world op ∧ _))

theorem meets_true (program : Prog Op Res E α) (choices : Nat → Choice) (world : World) :
    Meets perform (fun _ _ => True) program choices world := by
  induction program generalizing choices world with
  | done outcome => trivial
  | step op next ih => exact ⟨trivial, ih _ _ _⟩

theorem Where.finish {ends : Except E α → World → Prop} {program : Prog Op Res E α}
    {world : World} (all : Where perform meets ends program world)
    {choices : Nat → Choice} (met : Meets perform meets program choices world) :
    ends (program.finish perform choices world).2 (program.finish perform choices world).1 := by
  induction program generalizing world choices with
  | done outcome => exact all
  | step op next ih => exact ih _ (all met.1 (choices 0)) met.2

theorem Where.mono {ends weaker : Except E α → World → Prop} {program : Prog Op Res E α}
    {world : World} (all : Where perform meets ends program world)
    (implied : ∀ outcome after, ends outcome after → weaker outcome after) :
    Where perform meets weaker program world := by
  induction program generalizing world with
  | done outcome => exact implied outcome world all
  | step op next ih => exact fun met choice => ih _ (all met choice)

theorem where_andThen {ends : Except E β → World → Prop} {program : Prog Op Res E α}
    {next : Except E α → Prog Op Res E β} {world : World} :
    Where perform meets ends (program.andThen next) world ↔
      Where perform meets (fun outcome after =>
        Where perform meets ends (next outcome) after) program world := by
  induction program generalizing world with
  | done outcome => exact Iff.rfl
  | step op after ih =>
      constructor
      · intro all met choice
        exact (ih _).mp (all met choice)
      · intro all met choice
        exact (ih _).mpr (all met choice)

theorem Where.bind {ends : Except E β → World → Prop} {middle : Except E α → World → Prop}
    {program : Prog Op Res E α} {next : α → Prog Op Res E β} {world : World}
    (first : Where perform meets middle program world)
    (onValue : ∀ value after, middle (.ok value) after →
      Where perform meets ends (next value) after)
    (onError : ∀ failure after, middle (.error failure) after →
      ends (.error failure) after) :
    Where perform meets ends (program >>= next) world := by
  rw [bind_eq, where_andThen]
  apply first.mono
  intro outcome after ended
  cases outcome with
  | ok value => exact onValue value after ended
  | error failure => exact onError failure after ended

/-- An operation that answers, and the rest of the program. -/
theorem Where.call_bind {ends : Except E β → World → Prop} {op : Op}
    {next : Res op → Prog Op Res E β} {world : World}
    (onValue : meets world op → ∀ choice value, (perform world choice op).2 = .ok value →
      Where perform meets ends (next value) (perform world choice op).1)
    (onError : meets world op → ∀ choice failure,
      (perform world choice op).2 = .error failure →
        ends (.error failure) (perform world choice op).1) :
    Where perform meets ends (call op >>= next) world := by
  intro met choice
  cases answer : (perform world choice op).2 with
  | ok value =>
      simp only [andThen, onOk]
      exact onValue met choice value answer
  | error failure =>
      simp only [andThen, onOk]
      exact onError met choice failure answer

section Relates

variable (perform meets) (related : World → World → Prop)

/-- Every run whose operations meet the condition relates the world it starts in
to the one it ends in. -/
def Relates (program : Prog Op Res E α) : Prop :=
  ∀ world, Where perform meets (fun _ after => related world after) program world

variable {perform meets related}

theorem relates_done [Std.Refl related] (outcome : Except E α) :
    Relates perform meets related (done outcome : Prog Op Res E α) :=
  fun world => refl_of related world

theorem relates_call {op : Op} (does : ∀ world choice, meets world op →
      related world (perform world choice op).1) :
    Relates perform meets related (call op) :=
  fun world met choice => does world choice met

/-- Nothing is said of the program. -/
theorem relates_true (program : Prog Op Res E α) :
    Relates perform meets (fun _ _ => True) program := by
  intro world
  induction program generalizing world with
  | done outcome => trivial
  | step op next ih => exact fun _ choice => ih _ _

variable [IsPreorder World related]

theorem Relates.onward {program : Prog Op Res E α} (relates : Relates perform meets related program)
    {start world : World} (here : related start world) :
    Where perform meets (fun _ after => related start after) program world :=
  Where.mono (relates world) fun _ _ moved => trans_of related here moved

theorem Relates.andThen {program : Prog Op Res E α} {next : Except E α → Prog Op Res E β}
    (first : Relates perform meets related program)
    (rest : ∀ outcome, Relates perform meets related (next outcome)) :
    Relates perform meets related (program.andThen next) := by
  intro world
  rw [where_andThen]
  exact (first world).mono fun outcome _ moved => (rest outcome).onward moved

theorem Relates.bind {program : Prog Op Res E α} {next : α → Prog Op Res E β}
    (first : Relates perform meets related program)
    (rest : ∀ value, Relates perform meets related (next value)) :
    Relates perform meets related (program >>= next) := by
  intro world
  refine (first world).bind ?_ ?_
  · intro value after moved
    exact (rest value).onward moved
  · intro failure after moved
    exact moved

theorem Relates.tryExcept {program : Prog Op Res E α}
    {handler : E → Prog Op Res E α} (first : Relates perform meets related program)
    (handled : ∀ failure, Relates perform meets related (handler failure)) :
    Relates perform meets related (Prog.tryExcept program handler) := by
  apply first.andThen
  intro outcome
  cases outcome with
  | ok value => exact relates_done _
  | error failure => exact handled failure

theorem Relates.tryFinally {program : Prog Op Res E α}
    {cleanup : Prog Op Res E Unit} (first : Relates perform meets related program)
    (last : Relates perform meets related cleanup) :
    Relates perform meets related (Prog.tryFinally program cleanup) := by
  apply first.andThen
  intro outcome
  apply last.andThen
  intro cleaned
  cases cleaned with
  | ok value => exact relates_done _
  | error failure => exact relates_done _

end Relates

end Prog

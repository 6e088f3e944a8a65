import Mathlib.Data.List.Basic
import Mathlib.Tactic.Common

/-!
# Programs of atomic operations

A program performs one operation after another and may be cut off before any
of them.  What an operation answers, and what it does to the world, may depend
on a choice the program has no say in.  `Always` states what holds at every
point a run can be cut at, and what holds of its outcome when it is not.
-/

/-- A program whose operations `op` answer a `Res op` or raise an `E`. -/
inductive Prog (Op : Type) (Res : Op → Type) (E α : Type) where
  | done (outcome : Except E α)
  | step (op : Op) (next : Except E (Res op) → Prog Op Res E α)

namespace Prog

variable {Op : Type} {Res : Op → Type} {E α β : Type}

/-- Continue with the outcome of a program, whatever it is. -/
def andThen : Prog Op Res E α → (Except E α → Prog Op Res E β) → Prog Op Res E β
  | done outcome, next => next outcome
  | step op after, next => step op fun answer => (after answer).andThen next

/-- Perform one operation. -/
def call (op : Op) : Prog Op Res E (Res op) :=
  step op done

def raise (failure : E) : Prog Op Res E α :=
  done (.error failure)

/-- Go on with a value, or raise what kept it from being computed. -/
def onOk (next : α → Prog Op Res E β) : Except E α → Prog Op Res E β
  | .ok value => next value
  | .error failure => raise failure

instance : Monad (Prog Op Res E) where
  pure value := done (.ok value)
  bind program next := program.andThen (onOk next)

/-- A value computed without an operation. -/
def lift (value : Except E α) : Prog Op Res E α :=
  done value

/-- `try: program finally: cleanup`. -/
def tryFinally (program : Prog Op Res E α) (cleanup : Prog Op Res E Unit) :
    Prog Op Res E α :=
  program.andThen fun outcome => cleanup.andThen (onOk fun _ => done outcome)

/-- `try: program except: handler`. -/
def tryExcept (program : Prog Op Res E α) (handler : E → Prog Op Res E α) :
    Prog Op Res E α :=
  program.andThen fun
    | .ok value => done (.ok value)
    | .error failure => handler failure

theorem bind_eq (program : Prog Op Res E α) (next : α → Prog Op Res E β) :
    (program >>= next) = program.andThen (onOk next) :=
  rfl

variable {World Choice : Type}
  (perform : World → Choice → (op : Op) → World × Except E (Res op))

/-- Run a program on the choices given; it is cut off where they end.  The
outcome is `none` for a run that was cut off. -/
def run : Prog Op Res E α → List Choice → World → World × Option (Except E α)
  | done outcome, _, world => (world, some outcome)
  | step _ _, [], world => (world, none)
  | step op next, choice :: rest, world =>
      run (next (perform world choice op).2) rest (perform world choice op).1

variable (holds : World → Prop)

/-- `holds` is true of the world before the program, between any two of its
operations and after it, and `ends` of its outcome. -/
def Always (ends : Except E α → World → Prop) :
    Prog Op Res E α → World → Prop
  | done outcome, world => holds world ∧ ends outcome world
  | step op next, world => holds world ∧ ∀ choice,
      Always ends (next (perform world choice op).2) (perform world choice op).1

variable {perform holds}

theorem Always.here {ends : Except E α → World → Prop}
    {program : Prog Op Res E α} {world : World}
    (always : Always perform holds ends program world) : holds world := by
  cases program with
  | done outcome => exact always.1
  | step op next => exact always.1

theorem Always.mono {ends weaker : Except E α → World → Prop}
    {program : Prog Op Res E α} {world : World}
    (always : Always perform holds ends program world)
    (implied : ∀ outcome after, holds after → ends outcome after →
      weaker outcome after) :
    Always perform holds weaker program world := by
  induction program generalizing world with
  | done outcome => exact ⟨always.1, implied outcome world always.1 always.2⟩
  | step op next ih => exact ⟨always.1, fun choice => ih _ (always.2 choice)⟩

theorem Always.weaken {weaker : World → Prop} {ends : Except E α → World → Prop}
    {program : Prog Op Res E α} {world : World}
    (always : Always perform holds ends program world)
    (implied : ∀ after, holds after → weaker after) :
    Always perform weaker ends program world := by
  induction program generalizing world with
  | done outcome => exact ⟨implied world always.1, always.2⟩
  | step op next ih =>
      exact ⟨implied world always.1, fun choice => ih _ (always.2 choice)⟩

theorem always_andThen {ends : Except E β → World → Prop}
    {program : Prog Op Res E α} {next : Except E α → Prog Op Res E β}
    {world : World} :
    Always perform holds ends (program.andThen next) world ↔
      Always perform holds (fun outcome after =>
        Always perform holds ends (next outcome) after) program world := by
  induction program generalizing world with
  | done outcome =>
      constructor
      · intro always
        exact ⟨always.here, always⟩
      · intro always
        exact always.2
  | step op after ih =>
      constructor
      · intro always
        exact ⟨always.1, fun choice => (ih _).mp (always.2 choice)⟩
      · intro always
        exact ⟨always.1, fun choice => (ih _).mpr (always.2 choice)⟩

theorem Always.bind {ends : Except E β → World → Prop}
    {middle : Except E α → World → Prop} {program : Prog Op Res E α}
    {next : α → Prog Op Res E β} {world : World}
    (first : Always perform holds middle program world)
    (onValue : ∀ value after, holds after → middle (.ok value) after →
      Always perform holds ends (next value) after)
    (onError : ∀ failure after, holds after → middle (.error failure) after →
      ends (.error failure) after) :
    Always perform holds ends (program >>= next) world := by
  rw [bind_eq, always_andThen]
  refine first.mono ?_
  intro outcome after here ended
  cases outcome with
  | ok value => exact onValue value after here ended
  | error failure => exact ⟨here, onError failure after here ended⟩

theorem Always.call_bind {ends : Except E β → World → Prop} {op : Op}
    {next : Res op → Prog Op Res E β} {world : World} (here : holds world)
    (onValue : ∀ choice value, (perform world choice op).2 = .ok value →
      Always perform holds ends (next value) (perform world choice op).1)
    (onError : ∀ choice failure, (perform world choice op).2 = .error failure →
      holds (perform world choice op).1 ∧
        ends (.error failure) (perform world choice op).1) :
    Always perform holds ends (call op >>= next) world := by
  refine ⟨here, fun choice => ?_⟩
  cases answer : (perform world choice op).2 with
  | ok value =>
      simp only [andThen, onOk]
      exact onValue choice value answer
  | error failure =>
      simp only [andThen, onOk]
      exact onError choice failure answer

/-- At every point a run can be cut at, and at its end, `holds` is true. -/
theorem Always.run {ends : Except E α → World → Prop}
    {program : Prog Op Res E α} {world : World}
    (always : Always perform holds ends program world) (choices : List Choice) :
    holds (program.run perform choices world).1 := by
  induction program generalizing world choices with
  | done outcome => exact always.1
  | step op next ih =>
      cases choices with
      | nil => exact always.1
      | cons choice rest => exact ih _ (always.2 choice) rest

/-- Two things that always hold hold together. -/
theorem Always.and {other : World → Prop} {ends otherEnds : Except E α → World → Prop}
    {program : Prog Op Res E α} {world : World}
    (always : Always perform holds ends program world)
    (also : Always perform other otherEnds program world) :
    Always perform (fun after => holds after ∧ other after)
      (fun outcome after => ends outcome after ∧ otherEnds outcome after) program world := by
  induction program generalizing world with
  | done outcome => exact ⟨⟨always.1, also.1⟩, always.2, also.2⟩
  | step op next ih =>
      exact ⟨⟨always.1, also.1⟩, fun choice => ih _ (always.2 choice) (also.2 choice)⟩

theorem Always.outcome {ends : Except E α → World → Prop}
    {program : Prog Op Res E α} {world : World}
    (always : Always perform holds ends program world) {choices : List Choice}
    {outcome : Except E α}
    (ended : (program.run perform choices world).2 = some outcome) :
    ends outcome (program.run perform choices world).1 := by
  induction program generalizing world choices with
  | done result =>
      cases ended
      exact always.2
  | step op next ih =>
      cases choices with
      | nil => cases ended
      | cons choice rest => exact ih _ (always.2 choice) ended

section Yields

variable (perform holds)

/-- `holds` is true throughout, and `ends` of a value the program returns. -/
def Yields (ends : α → World → Prop) (program : Prog Op Res E α) (world : World) : Prop :=
  Always perform holds
    (fun outcome after => ∀ value, outcome = .ok value → ends value after) program world

variable {perform holds} {ends : α → World → Prop} {world : World}

theorem Yields.mono {weaker : α → World → Prop} {program : Prog Op Res E α}
    (yields : Yields perform holds ends program world)
    (implied : ∀ value after, holds after → ends value after → weaker value after) :
    Yields perform holds weaker program world :=
  Always.mono yields fun _ after here ended value ok =>
    implied value after here (ended value ok)

theorem Yields.weaken {weaker : World → Prop} {program : Prog Op Res E α}
    (yields : Yields perform holds ends program world)
    (implied : ∀ after, holds after → weaker after) :
    Yields perform weaker ends program world :=
  Always.weaken yields implied

theorem Yields.pure {value : α} (here : holds world) (ended : ends value world) :
    Yields perform holds ends (Pure.pure value : Prog Op Res E α) world := by
  refine ⟨here, ?_⟩
  intro result ok
  cases ok
  exact ended

/-- Nothing is said of the program. -/
theorem yields_true (program : Prog Op Res E α) (world : World) :
    Yields perform (fun _ => True) (fun _ _ => True) program world := by
  induction program generalizing world with
  | done outcome => exact ⟨trivial, fun _ _ => trivial⟩
  | step op next ih => exact ⟨trivial, fun choice => ih _ _⟩

theorem Yields.raise {failure : E} (here : holds world) :
    Yields perform holds ends (Prog.raise failure : Prog Op Res E α) world :=
  ⟨here, fun _ ok => by cases ok⟩

theorem Yields.bind {last : β → World → Prop} {program : Prog Op Res E α}
    {next : α → Prog Op Res E β} (first : Yields perform holds ends program world)
    (rest : ∀ value after, holds after → ends value after →
      Yields perform holds last (next value) after) :
    Yields perform holds last (program >>= next) world := by
  apply Always.bind first
  · intro value after here ended
    exact rest value after here (ended value rfl)
  · intro failure after _ _ value ok
    cases ok

theorem Yields.call {op : Op} {answered : Res op → World → Prop} (here : holds world)
    (after : ∀ choice, holds (perform world choice op).1)
    (answers : ∀ choice value, (perform world choice op).2 = .ok value →
      answered value (perform world choice op).1) :
    Yields perform holds answered (Prog.call op) world := by
  refine ⟨here, fun choice => ⟨after choice, ?_⟩⟩
  intro value ok
  exact answers choice value ok

theorem Yields.tryExcept {stage : World → Prop} {program : Prog Op Res E α}
    {handler : E → Prog Op Res E α} (first : Yields perform stage ends program world)
    (implied : ∀ after, stage after → holds after)
    (handled : ∀ failure after, stage after →
      Yields perform holds ends (handler failure) after) :
    Yields perform holds ends (Prog.tryExcept program handler) world := by
  unfold Yields Prog.tryExcept
  rw [always_andThen]
  refine Always.weaken (Always.mono first ?_) implied
  intro outcome after here ended
  cases outcome with
  | ok value =>
      refine ⟨implied after here, ?_⟩
      intro result ok
      cases ok
      exact ended value rfl
  | error failure => exact handled failure after here

theorem Yields.tryFinally {last : α → World → Prop} {program : Prog Op Res E α}
    {cleanup : Prog Op Res E Unit} (first : Yields perform holds ends program world)
    (cleaned : ∀ after, holds after → Yields perform holds
      (fun _ final => ∀ value, ends value after → last value final) cleanup after) :
    Yields perform holds last (Prog.tryFinally program cleanup) world := by
  unfold Yields Prog.tryFinally
  rw [always_andThen]
  refine Always.mono first ?_
  intro outcome after here ended
  rw [always_andThen]
  refine Always.mono (cleaned after here) ?_
  intro cleanedOutcome final finalHere cleanedEnds
  cases cleanedOutcome with
  | ok cleanedUp =>
      refine ⟨finalHere, ?_⟩
      intro value ok
      exact cleanedEnds cleanedUp rfl value (ended value ok)
  | error failure => exact ⟨finalHere, fun value ok => by cases ok⟩

end Yields

section Log

variable (perform)

/-- The operations a run performs, each with the choice made for it. -/
def trace : Prog Op Res E α → List Choice → World → List (Op × Choice)
  | done _, _, _ => []
  | step _ _, [], _ => []
  | step op next, choice :: rest, world =>
      (op, choice) :: trace (next (perform world choice op).2) rest (perform world choice op).1

/-- Perform an operation and write it down. -/
def logged (world : World × List (Op × Choice)) (choice : Choice) (op : Op) :
    (World × List (Op × Choice)) × Except E (Res op) :=
  (((perform world.1 choice op).1, world.2 ++ [(op, choice)]), (perform world.1 choice op).2)

/-- The operations a run performs, each with the world it finds and the choice made
for it. -/
def steps : Prog Op Res E α → List Choice → World → List (World × Op × Choice)
  | done _, _, _ => []
  | step _ _, [], _ => []
  | step op next, choice :: rest, world => (world, op, choice) ::
      steps (next (perform world choice op).2) rest (perform world choice op).1

/-- A flag that some operations raise is up at the end of a run when it was before or
one of its operations raised it. -/
theorem run_raised (flag : World → Bool) (raises : World × Op × Choice → Bool)
    (does : ∀ world choice op,
      flag (perform world choice op).1 = (flag world || raises (world, op, choice)))
    (program : Prog Op Res E α) (choices : List Choice) (world : World) :
    flag (program.run perform choices world).1 =
      (flag world || (program.steps perform choices world).any raises) := by
  induction program generalizing choices world with
  | done outcome => simp [run, steps]
  | step op next ih =>
      cases choices with
      | nil => simp [run, steps]
      | cons choice rest => simp [run, steps, ih, does, Bool.or_assoc]

theorem run_logged (program : Prog Op Res E α) (choices : List Choice) (world : World)
    (log : List (Op × Choice)) :
    program.run (logged perform) choices (world, log) =
      (((program.run perform choices world).1, log ++ program.trace perform choices world),
        (program.run perform choices world).2) := by
  induction program generalizing choices world log with
  | done outcome => simp [run, trace]
  | step op next ih =>
      cases choices with
      | nil => simp [run, trace]
      | cons choice rest =>
          simp only [run, trace, logged]
          rw [ih, List.append_assoc, List.singleton_append]

theorem mem_trace {program : Prog Op Res E α} {choices : List Choice} {world : World}
    {performed : Op × Choice} (found : performed ∈ program.trace perform choices world) :
    performed.2 ∈ choices := by
  induction program generalizing choices world with
  | done outcome => cases found
  | step op next ih =>
      cases choices with
      | nil => cases found
      | cons choice rest =>
          rcases List.mem_cons.mp found with rfl | later
          · exact List.mem_cons_self ..
          · exact List.mem_cons_of_mem _ (ih _ later)

/-- A run that is not cut off comes to an end, whatever it meets. -/
theorem exists_outcome (program : Prog Op Res E α) (choices : Nat → Choice) (world : World) :
    ∃ count, ((program.run perform ((List.range count).map choices) world).2).isSome := by
  induction program generalizing choices world with
  | done outcome => exact ⟨0, rfl⟩
  | step op next ih =>
      obtain ⟨count, ended⟩ := ih _ (fun index => choices (index + 1))
        (perform world (choices 0) op).1
      refine ⟨count + 1, ?_⟩
      rw [List.range_succ_eq_map, List.map_cons, List.map_map]
      exact ended

/-- Whatever follows, what was written down stays. -/
theorem logged_always (kept : List (Op × Choice) → Prop)
    (grows : ∀ log more, kept log → kept (log ++ more)) (program : Prog Op Res E α)
    {world : World × List (Op × Choice)} (here : kept world.2) :
    program.Always (logged perform) (fun after => kept after.2)
      (fun _ after => kept after.2) world := by
  induction program generalizing world with
  | done outcome => exact ⟨here, here⟩
  | step op next ih => exact ⟨here, fun choice => ih _ (grows _ _ here)⟩

end Log

section Finish

variable (perform)

/-- Run a program to its end. -/
def finish : Prog Op Res E α → (Nat → Choice) → World → World × Except E α
  | done outcome, _, world => (world, outcome)
  | step op next, choices, world =>
      finish (next (perform world (choices 0) op).2) (fun index => choices (index + 1))
        (perform world (choices 0) op).1

/-- The worlds a program run to its end goes through. -/
def moments : Prog Op Res E α → (Nat → Choice) → World → List World
  | done _, _, world => [world]
  | step op next, choices, world =>
      world :: moments (next (perform world (choices 0) op).2)
        (fun index => choices (index + 1)) (perform world (choices 0) op).1

variable {perform}

theorem Always.finish {ends : Except E α → World → Prop} {program : Prog Op Res E α}
    {world : World} (always : Always perform holds ends program world)
    (choices : Nat → Choice) :
    ends (program.finish perform choices world).2 (program.finish perform choices world).1 := by
  induction program generalizing world choices with
  | done outcome => exact always.2
  | step op next ih => exact ih _ (always.2 (choices 0)) _

theorem Always.moments {ends : Except E α → World → Prop} {program : Prog Op Res E α}
    {world : World} (always : Always perform holds ends program world)
    (choices : Nat → Choice) :
    ∀ moment ∈ program.moments perform choices world, holds moment := by
  induction program generalizing world choices with
  | done outcome =>
      intro moment found
      rw [List.mem_singleton.mp found]
      exact always.1
  | step op next ih =>
      intro moment found
      rcases List.mem_cons.mp found with rfl | later
      · exact always.1
      · exact ih _ (always.2 (choices 0)) _ moment later

end Finish

section Only

variable (allowed : Op → Prop)

/-- Whatever is answered, the program performs allowed operations only. -/
def Only : Prog Op Res E α → Prop
  | done _ => True
  | step op next => allowed op ∧ ∀ answer, Only (next answer)

variable {allowed}

theorem Only.andThen {program : Prog Op Res E α}
    {next : Except E α → Prog Op Res E β} (first : Only allowed program)
    (rest : ∀ outcome, Only allowed (next outcome)) :
    Only allowed (program.andThen next) := by
  induction program with
  | done outcome => exact rest outcome
  | step op after ih => exact ⟨first.1, fun answer => ih answer (first.2 answer)⟩

theorem Only.mono {weaker : Op → Prop} {program : Prog Op Res E α}
    (only : Only allowed program) (implied : ∀ op, allowed op → weaker op) :
    Only weaker program := by
  induction program with
  | done outcome => trivial
  | step op next ih =>
      exact ⟨implied op only.1, fun answer => ih answer (only.2 answer)⟩

theorem Only.bind {program : Prog Op Res E α} {next : α → Prog Op Res E β}
    (first : Only allowed program) (rest : ∀ value, Only allowed (next value)) :
    Only allowed (program >>= next) := by
  refine first.andThen ?_
  intro outcome
  cases outcome with
  | ok value => exact rest value
  | error failure => trivial

theorem Only.tryFinally {program : Prog Op Res E α}
    {cleanup : Prog Op Res E Unit} (first : Only allowed program)
    (last : Only allowed cleanup) : Only allowed (tryFinally program cleanup) := by
  refine first.andThen fun outcome => last.andThen ?_
  intro cleaned
  cases cleaned with
  | ok value => trivial
  | error failure => trivial

theorem Only.always {program : Prog Op Res E α} {world : World}
    (only : Only allowed program)
    (keeps : ∀ op, allowed op → ∀ before choice, holds before →
      holds (perform before choice op).1)
    (here : holds world) :
    Always perform holds (fun _ _ => True) program world := by
  induction program generalizing world with
  | done outcome => exact ⟨here, trivial⟩
  | step op next ih =>
      exact ⟨here, fun choice => ih _ (only.2 _)
        (keeps op only.1 world choice here)⟩

end Only

end Prog

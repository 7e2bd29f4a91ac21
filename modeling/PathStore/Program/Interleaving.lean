/-
This file runs several programs at the same time, action by action in the order of a schedule; a step of a program does
not change how its run ends, and what every step keeps holds after any schedule.
-/
import PathStore.Program

namespace PathStore.Program

variable {α σ ι : Type}

section Step

variable (handler : (action : Action) → σ → Except Failure action.Reply × σ)

/-- A program once its first action is performed, and the state after it. -/
def step : Program α → σ → Program α × σ
  | .done outcome, state => (.done outcome, state)
  | .act action next, state => (next (handler action state).1, (handler action state).2)

/-- A step does not change how the run of a program ends. -/
@[simp] theorem run_step (program : Program α) (state : σ) :
    (program.step handler state).1.run handler (program.step handler state).2 = program.run handler state := by
  cases program <;> rfl

end Step

/-- How a program ended, if it has no more actions. -/
def outcome? : Program α → Option (Except Failure α)
  | .done outcome => some outcome
  | .act .. => none

variable (handler : ι → (action : Action) → σ → Except Failure action.Reply × σ)

/-- Several programs once each of those that a schedule names has performed an action, in the order of the schedule. A
turn tells what answers its action, too. -/
def interleave : List (Nat × ι) → List (Program α) → σ → List (Program α) × σ
  | [], programs, state => (programs, state)
  | (index, turn) :: rest, programs, state =>
      match programs[index]? with
      | none => interleave rest programs state
      | some program =>
          interleave rest (programs.set index (program.step (handler turn) state).1)
            (program.step (handler turn) state).2

/-- What each step of a program keeps of all of them and of the state holds after any schedule. -/
theorem interleave_keeps (invariant : List (Program α) → σ → Prop)
    (keeps : ∀ index turn programs program state, programs[index]? = some program → invariant programs state →
      invariant (programs.set index (program.step (handler turn) state).1) (program.step (handler turn) state).2)
    (schedule : List (Nat × ι)) {programs : List (Program α)} {state : σ} (holds : invariant programs state) :
    invariant (interleave handler schedule programs state).1 (interleave handler schedule programs state).2 := by
  induction schedule generalizing programs state with
  | nil => exact holds
  | cons first rest ih =>
      obtain ⟨index, turn⟩ := first
      cases present : programs[index]? with
      | none =>
          simp only [interleave, present]
          exact ih holds
      | some program =>
          simp only [interleave, present]
          exact ih (keeps index turn programs program state present holds)

end PathStore.Program

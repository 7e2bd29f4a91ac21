/-
This file bounds the actions that a program may perform, whatever is replied to them. A run of the program keeps what
each of those actions keeps.
-/
import PathStore.Workspace

namespace PathStore.Program

variable {α β σ : Type} {allowed : Action → Prop}

/-- Whether a program performs only certain actions, whatever is replied to them. -/
def Performs (allowed : Action → Prop) : Program α → Prop
  | .done _ => True
  | .act action next => allowed action ∧ ∀ reply, (next reply).Performs allowed

theorem performs_ofExcept (outcome : Except Failure α) : (ofExcept outcome).Performs allowed := trivial

theorem performs_perform {action : Action} (permitted : allowed action) : (perform action).Performs allowed :=
  ⟨permitted, fun _ => trivial⟩

theorem performs_call {request : Call} (permitted : allowed (.store request)) : (call request).Performs allowed :=
  performs_perform permitted

theorem performs_andThen {program : Program α} {next : Except Failure α → Program β} (first : program.Performs allowed)
    (later : ∀ outcome, (next outcome).Performs allowed) : (program.andThen next).Performs allowed := by
  induction program with
  | done outcome => exact later outcome
  | act action rest ih => exact ⟨first.1, fun reply => ih reply (first.2 reply)⟩

theorem performs_bind {program : Program α} {next : α → Program β} (first : program.Performs allowed)
    (later : ∀ value, (next value).Performs allowed) : (program >>= next).Performs allowed := by
  apply performs_andThen first
  intro outcome
  cases outcome with
  | ok value => exact later value
  | error failure => trivial

/-- What follows an outcome matters only where the outcome is a success. -/
theorem performs_ofExcept_bind {outcome : Except Failure α} {next : α → Program β}
    (later : ∀ value, outcome = .ok value → (next value).Performs allowed) :
    (ofExcept outcome >>= next).Performs allowed := by
  cases outcome with
  | ok value => exact later value rfl
  | error failure => trivial

theorem performs_recover {program : Program α} {handler : Failure → Program α} (first : program.Performs allowed)
    (later : ∀ failure, (handler failure).Performs allowed) : (program.recover handler).Performs allowed := by
  apply performs_andThen first
  intro outcome
  cases outcome with
  | ok value => trivial
  | error failure => exact later failure

/-- A failure that is only changed adds no action. -/
theorem performs_recover_fail {program : Program α} (performs : program.Performs allowed)
    (change : Failure → Failure) : (program.recover fun failure => .fail (change failure)).Performs allowed :=
  performs_recover performs fun _ => trivial

theorem performs_followedBy {program : Program α} {action : Action} (first : program.Performs allowed)
    (permitted : allowed action) : (program.followedBy action).Performs allowed :=
  performs_andThen first fun _ => ⟨permitted, fun _ => trivial⟩

/-- A looser bound holds too. -/
theorem Performs.mono {looser : Action → Prop} {program : Program α} (performs : program.Performs allowed)
    (looserBound : ∀ action, allowed action → looser action) : program.Performs looser := by
  induction program with
  | done outcome => trivial
  | act action next ih => exact ⟨looserBound action performs.1, fun reply => ih reply (performs.2 reply)⟩

/-- A run keeps what every action that the program may perform keeps. -/
theorem run_preserves {handler : (action : Action) → σ → Except Failure action.Reply × σ} {invariant : σ → Prop}
    (keeps : ∀ action state, allowed action → invariant state → invariant (handler action state).2)
    {program : Program α} (performs : program.Performs allowed) {state : σ} (holds : invariant state) :
    invariant (program.run handler state).2 := by
  induction program generalizing state with
  | done outcome => exact holds
  | act action next ih => exact ih _ (performs.2 _) (keeps action state performs.1 holds)

/-- What a program performs in a workspace is among the actions that it may perform. -/
theorem Performs.of_performed {program : Program α} (performs : program.Performs allowed)
    (answer : (call : Call) → σ → Except Failure call.Reply × σ) {workspace : Workspace σ}
    (before : ∀ action ∈ workspace.performed, allowed action) :
    ∀ action ∈ (Workspace.run answer program workspace).2.performed, allowed action := by
  let holds (workspace : Workspace σ) : Prop := ∀ action ∈ workspace.performed, allowed action
  refine @run_preserves _ _ _ _ holds (fun action workspace permitted before => ?_) program performs workspace before
  have noted : (Workspace.perform answer action workspace).2.performed = workspace.performed ++ [action] := by
    cases action with
    | openScratch =>
        rw [Workspace.perform]
        split <;> rfl
    | _ => rfl
  intro other member
  rw [noted] at member
  rcases List.mem_append.mp member with earlier | last
  · exact before other earlier
  · exact List.mem_singleton.mp last ▸ permitted

end PathStore.Program

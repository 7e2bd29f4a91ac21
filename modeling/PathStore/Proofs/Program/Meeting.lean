/-
This file follows the run of a program to one of its calls. What is left to do after the call decides how the run ends,
so a judgement on each call with what is left after it, whatever was replied before, holds of the call that is met.
-/
import PathStore.Disturbance

namespace PathStore.Program

variable {α β σ : Type}

section Binding

variable {handler : (action : Action) → σ → Except Failure action.Reply × σ} {state : σ} {program : Program α}
  {later : α → Program β}

theorem run_bind_of_ok {value : α} (succeeded : (program.run handler state).1 = .ok value) :
    (program >>= later).run handler state = (later value).run handler (program.run handler state).2 := by
  rw [run_bind]
  generalize program.run handler state = result at succeeded
  obtain ⟨outcome, after⟩ := result
  subst succeeded
  rfl

theorem run_bind_of_error {failure : Failure} (failed : (program.run handler state).1 = .error failure) :
    (program >>= later).run handler state = (.error failure, (program.run handler state).2) := by
  rw [run_bind]
  generalize program.run handler state = result at failed
  obtain ⟨outcome, after⟩ := result
  subst failed
  rfl

end Binding

section Meets

variable (handler : (action : Action) → σ → Except Failure action.Reply × σ)

/-- Whether a run comes to a call, with what it makes of the reply and the state in which the call is made. -/
inductive Meets (call : Call) : Program α → σ → (Except Failure call.Reply → Program α) → σ → Prop where
  | here (next : Except Failure call.Reply → Program α) (state : σ) :
      Meets call (.act (.store call) next) state next state
  | later {action : Action} {next : Except Failure action.Reply → Program α} {state met : σ}
      {rest : Except Failure call.Reply → Program α}
      (meets : Meets call (next (handler action state).1) (handler action state).2 rest met) :
      Meets call (.act action next) state rest met

variable {handler}

/-- The run goes on from the call that is met. -/
theorem Meets.run_eq {call : Call} {program : Program α} {state met : σ} {next : Except Failure call.Reply → Program α}
    (meets : Meets handler call program state next met) :
    program.run handler state = (next (handler (.store call) met).1).run handler (handler (.store call) met).2 := by
  induction meets with
  | here => rfl
  | later meets ih => exact ih

/-- A call that a program meets is met before what follows the program. -/
theorem Meets.andThen {call : Call} {program : Program α} {state met : σ}
    {next : Except Failure call.Reply → Program α} (meets : Meets handler call program state next met)
    (later : Except Failure α → Program β) :
    Meets handler call (program.andThen later) state (fun reply => (next reply).andThen later) met := by
  induction meets with
  | here next state => exact .here _ state
  | later meets ih => exact .later ih

/-- A call that is met by what follows a program is met once the program has run. -/
theorem Meets.of_run {call : Call} {program : Program α} {state met : σ} {later : Except Failure α → Program β}
    {next : Except Failure call.Reply → Program β}
    (meets : Meets handler call (later (program.run handler state).1) (program.run handler state).2 next met) :
    Meets handler call (program.andThen later) state next met := by
  induction program generalizing state with
  | done outcome => exact meets
  | act action rest ih => exact .later (ih _ meets)

end Meets

section Judgement

/-- A judgement on a call and on what a program makes of its reply. -/
abbrev Judgement (α : Type) := (call : Call) → (Except Failure call.Reply → Program α) → Prop

variable {judge : Judgement α} {judgeAll : Judgement β}

/-- Whether a judgement holds of each call of a program, whatever was replied before it. -/
def EachCall (judge : Judgement α) : Program α → Prop
  | .done _ => True
  | .act action next =>
      (match action, next with
        | .store call, next => judge call next
        | _, _ => True) ∧
      ∀ reply, (next reply).EachCall judge

theorem EachCall.of_meets {handler : (action : Action) → σ → Except Failure action.Reply × σ} {call : Call}
    {program : Program α} {state met : σ} {next : Except Failure call.Reply → Program α}
    (each : program.EachCall judge) (meets : Meets handler call program state next met) : judge call next := by
  induction meets with
  | here => exact each.1
  | later meets ih => exact ih (each.2 _)

theorem EachCall.mono {other : Judgement α} {program : Program α} (each : program.EachCall judge)
    (looser : ∀ call next, judge call next → other call next) : program.EachCall other := by
  induction program with
  | done outcome => trivial
  | act action next ih =>
      refine ⟨?_, fun reply => ih reply (each.2 reply)⟩
      cases action with
      | store call => exact looser call next each.1
      | _ => trivial

/-- What follows a program is judged as part of what each of its calls leaves to do. -/
theorem eachCall_andThen {program : Program α} {later : Except Failure α → Program β} (first : program.EachCall judge)
    (lift : ∀ call next, judge call next → judgeAll call fun reply => (next reply).andThen later)
    (rest : ∀ outcome, (later outcome).EachCall judgeAll) : (program.andThen later).EachCall judgeAll := by
  induction program with
  | done outcome => exact rest outcome
  | act action next ih =>
      refine ⟨?_, fun reply => ih reply (first.2 reply)⟩
      cases action with
      | store call => exact lift call next first.1
      | _ => trivial

theorem eachCall_bind {program : Program α} {later : α → Program β} (first : program.EachCall judge)
    (lift : ∀ call next, judge call next → judgeAll call fun reply => next reply >>= later)
    (rest : ∀ value, (later value).EachCall judgeAll) : (program >>= later).EachCall judgeAll := by
  apply eachCall_andThen first lift
  intro outcome
  cases outcome with
  | ok value => exact rest value
  | error failure => trivial

theorem eachCall_ofExcept (outcome : Except Failure α) : (ofExcept outcome).EachCall judge := trivial

end Judgement

section Ending

/-- Whether a program fails in a certain way without a further call, whatever its steps with the scratch file give. -/
def FailsWith (failure : Failure) : Program α → Prop
  | .done outcome => outcome = .error failure
  | .act (.store _) _ => False
  | .act _ next => ∀ reply, (next reply).FailsWith failure

/-- Whether each outcome to which a program comes without a further call is accepted. -/
def AtOnce (accepted : Except Failure α → Prop) : Program α → Prop
  | .done outcome => accepted outcome
  | .act (.store _) _ => True
  | .act _ next => ∀ reply, (next reply).AtOnce accepted

variable {failure : Failure} {program : Program α} {accepted : Except Failure α → Prop}

theorem FailsWith.run_eq (fails : program.FailsWith failure)
    (handler : (action : Action) → σ → Except Failure action.Reply × σ) (state : σ) :
    (program.run handler state).1 = .error failure := by
  induction program generalizing state with
  | done outcome => exact fails
  | act action next ih =>
      cases action with
      | store call => exact fails.elim
      | _ => exact ih _ (fails _) _

theorem FailsWith.andThen {later : Except Failure α → Program β} {other : Failure} (fails : program.FailsWith failure)
    (rest : (later (.error failure)).FailsWith other) : (program.andThen later).FailsWith other := by
  induction program with
  | done outcome =>
      obtain rfl : outcome = .error failure := fails
      exact rest
  | act action next ih =>
      cases action with
      | store call => exact fails.elim
      | _ => exact fun reply => ih reply (fails reply)

theorem FailsWith.bind {later : α → Program β} (fails : program.FailsWith failure) :
    (program >>= later).FailsWith failure := fails.andThen rfl

/-- A program that fails at once comes to no other outcome. -/
theorem FailsWith.of_atOnce (fails : program.FailsWith failure) (ends : program.AtOnce accepted) :
    accepted (.error failure) := by
  induction program with
  | done outcome =>
      obtain rfl : outcome = .error failure := fails
      exact ends
  | act action next ih =>
      cases action with
      | store call => exact fails.elim
      | _ => exact ih (.error failure) (fails _) (ends _)

theorem FailsWith.atOnce (fails : program.FailsWith failure) : program.AtOnce (· = .error failure) := by
  induction program with
  | done outcome => exact fails
  | act action next ih =>
      cases action with
      | store call => trivial
      | _ => exact fun reply => ih reply (fails reply)

theorem FailsWith.eq {other : Failure} (fails : program.FailsWith failure) (alsoFails : program.FailsWith other) :
    failure = other := Except.error.inj (fails.of_atOnce alsoFails.atOnce)

theorem atOnce_andThen {later : Except Failure α → Program β} {acceptedAll : Except Failure β → Prop}
    (ends : program.AtOnce accepted) (rest : ∀ outcome, accepted outcome → (later outcome).AtOnce acceptedAll) :
    (program.andThen later).AtOnce acceptedAll := by
  induction program with
  | done outcome => exact rest outcome ends
  | act action next ih =>
      cases action with
      | store call => trivial
      | _ => exact fun reply => ih reply (ends reply)

end Ending

/-- Whether what a program makes of a failed call follows a verdict on the failure: it fails as the verdict says, or
goes on as after a success where there is none. -/
def Heeds (verdict : Operation → Failure → Option Failure) : Judgement α := fun call next =>
  ∀ failure, match verdict call.operation failure with
    | some reported => (next (.error failure)).FailsWith reported
    | none => ∃ value, next (.error failure) = next (.ok value)

section Heeds

variable {verdict : Operation → Failure → Option Failure}

theorem Heeds.bind {call : Call} {next : Except Failure call.Reply → Program α} (later : α → Program β)
    (heeds : Heeds verdict call next) : Heeds verdict call fun reply => next reply >>= later := by
  intro failure
  have first := heeds failure
  split at first
  · exact first.bind
  · obtain ⟨value, same⟩ := first
    exact ⟨value, congrArg (· >>= later) same⟩

theorem eachCall_heeds_bind {program : Program α} {later : α → Program β} (first : program.EachCall (Heeds verdict))
    (rest : ∀ value, (later value).EachCall (Heeds verdict)) : (program >>= later).EachCall (Heeds verdict) :=
  eachCall_bind first (fun _ _ heeds => heeds.bind later) rest

/-- One call whose failures are judged and handed on. -/
theorem eachCall_heeds_recover {call : Call} {rescue : Failure → Program call.Reply}
    (settled : ∀ failure, match verdict call.operation failure with
      | some reported => rescue failure = .fail reported
      | none => ∃ value, rescue failure = pure value) :
    ((Program.call call).recover rescue).EachCall (Heeds verdict) := by
  refine ⟨fun failure => ?_, fun reply => ?_⟩
  · have told := settled failure
    split at told
    · show (rescue failure).FailsWith _
      rw [told]
      rfl
    · exact told
  · cases reply with
    | ok value => trivial
    | error failure =>
        show (rescue failure).EachCall (Heeds verdict)
        have told := settled failure
        split at told
        · rw [told]
          trivial
        · obtain ⟨value, same⟩ := told
          rw [same]
          trivial

/-- A call whose failures are handed on as they are. -/
theorem eachCall_heeds_call {call : Call} (settled : ∀ failure, verdict call.operation failure = some failure) :
    (Program.call call).EachCall (Heeds verdict) := by
  refine ⟨fun failure => ?_, fun _ => trivial⟩
  rw [settled failure]
  rfl

end Heeds
end PathStore.Program

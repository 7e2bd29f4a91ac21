/-
This file traces the failures that blame the input to the calls of a program. A program owes them to its replies if a
reply of some kind ends it with such a failure, and if it comes to none without such a reply, unless it passes on what
has no bytes.
-/
import PathStore.Proofs.Program.Meeting
import PathStore.Proofs.Program.Outcomes

namespace PathStore

/-- Whether a failure blames what was given, as its exit code tells. -/
def Failure.BlamesInput (failure : Failure) : Prop := failure.exitCode = 2

instance (failure : Failure) : Decidable failure.BlamesInput := inferInstanceAs (Decidable (_ = 2))

namespace Outcome

variable {α β : Type}

/-- Whether an outcome is a failure that blames the input. -/
def Blames (outcome : Except Failure α) : Prop := ∃ failure, outcome = .error failure ∧ failure.BlamesInput

theorem not_blames_ok (value : α) : ¬Blames (.ok value) := nofun

theorem blames_error_iff {failure : Failure} : Blames (.error failure : Except Failure α) ↔ failure.BlamesInput :=
  ⟨fun ⟨_, same, blames⟩ => Except.error.inj same ▸ blames, fun blames => ⟨failure, rfl, blames⟩⟩

/-- Two steps blame the input if the first does, or the second on what the first gives. -/
theorem blames_bind_iff {first : Except Failure α} {next : α → Except Failure β} :
    Blames (first >>= next) ↔ Blames first ∨ ∃ value, first = .ok value ∧ Blames (next value) := by
  cases first with
  | ok value =>
      refine ⟨fun later => .inr ⟨value, rfl, later⟩, ?_⟩
      rintro (here | ⟨other, same, later⟩)
      · exact absurd here (not_blames_ok value)
      · exact Except.ok.inj same ▸ later
  | error failure =>
      refine ⟨fun here => .inl (blames_error_iff.mpr (blames_error_iff.mp here)), ?_⟩
      rintro (here | ⟨other, same, -⟩)
      · exact blames_error_iff.mpr (blames_error_iff.mp here)
      · cases same

/-- A second step that never blames the input leaves that to the first. -/
theorem blames_bind_of_innocent {first : Except Failure α} {next : α → Except Failure β}
    (innocent : ∀ value, ¬Blames (next value)) : Blames (first >>= next) ↔ Blames first :=
  blames_bind_iff.trans (or_iff_left fun ⟨value, _, blames⟩ => innocent value blames)

theorem blames_map_iff {first : Except Failure α} {change : α → β} : Blames (first.map change) ↔ Blames first :=
  exists_congr fun _ => and_congr_left fun _ => map_eq_error_iff

/-- A row of steps blames the input if one of them does and those before it succeed. -/
theorem blames_mapM_iff {step : α → Except Failure β} {items : List α} :
    Blames (items.mapM step) ↔ ∃ before item after, items = before ++ item :: after ∧
      (∀ earlier ∈ before, ∃ value, step earlier = .ok value) ∧ Blames (step item) := by
  constructor
  · rintro ⟨failure, failed, blames⟩
    obtain ⟨before, item, after, split, done, fails⟩ := mapM_eq_error_iff.mp failed
    exact ⟨before, item, after, split, done, failure, fails, blames⟩
  · rintro ⟨before, item, after, split, done, failure, fails, blames⟩
    exact ⟨failure, mapM_eq_error_iff.mpr ⟨before, item, after, split, done, fails⟩, blames⟩

end Outcome

namespace Program

variable {α β σ : Type}

/-- A judgement on the reply to a call. -/
abbrev Verdict := (call : Call) → Except Failure call.Reply → Prop

variable {asked : Call → Prop} {brings : Verdict} {passesOn : Prop}

/-- Whether a program makes calls of some kind alone, and owes the failures that blame the input to certain replies. One
that passes on the texts that it is told may also come to a text without bytes. -/
def Owes (asked : Call → Prop) (brings : Verdict) (passesOn : Prop) : Program α → Prop
  | .done outcome => Outcome.Blames outcome → passesOn ∧ outcome = .error .unencodable
  | .act (.store call) next => asked call ∧ ∀ reply,
      (brings call reply → ∃ failure, failure.BlamesInput ∧ (next reply).FailsWith failure) ∧
        (¬brings call reply → (next reply).Owes asked brings passesOn)
  | .act _ next => ∀ reply, (next reply).Owes asked brings passesOn

section Building

theorem owes_ofExcept {outcome : Except Failure α} (innocent : ¬Outcome.Blames outcome) :
    (ofExcept outcome).Owes asked brings passesOn := fun blames => absurd blames innocent

theorem owes_pure (value : α) : (pure value : Program α).Owes asked brings passesOn :=
  owes_ofExcept (Outcome.not_blames_ok value)

theorem owes_fail {failure : Failure} (innocent : ¬failure.BlamesInput) :
    (fail failure : Program α).Owes asked brings passesOn := owes_ofExcept (innocent ∘ Outcome.blames_error_iff.mp)

theorem owes_unencodable (passes : passesOn) : (fail .unencodable : Program α).Owes asked brings passesOn :=
  fun _ => ⟨passes, rfl⟩

/-- A call and what is made of its reply. -/
theorem owes_call {call : Call} {next : Except Failure call.Reply → Program α} (isAsked : asked call)
    (blames : ∀ reply, brings call reply → ∃ failure, failure.BlamesInput ∧ (next reply).FailsWith failure)
    (rest : ∀ reply, ¬brings call reply → (next reply).Owes asked brings passesOn) :
    ((Program.call call).andThen next).Owes asked brings passesOn :=
  ⟨isAsked, fun reply => ⟨blames reply, rest reply⟩⟩

theorem Owes.bind {program : Program α} {later : α → Program β} (owes : program.Owes asked brings passesOn)
    (rest : ∀ value, (later value).Owes asked brings passesOn) :
    (program >>= later).Owes asked brings passesOn := by
  induction program with
  | done outcome =>
      cases outcome with
      | ok value => exact rest value
      | error failure =>
          intro blames
          obtain ⟨passes, same⟩ := owes (Outcome.blames_error_iff.mpr (Outcome.blames_error_iff.mp blames))
          exact ⟨passes, congrArg _ (Except.error.inj same)⟩
  | act action next ih =>
      cases action with
      | store call =>
          refine ⟨owes.1, fun reply => ⟨fun brought => ?_, fun spared => ih reply ((owes.2 reply).2 spared)⟩⟩
          obtain ⟨failure, blames, fails⟩ := (owes.2 reply).1 brought
          exact ⟨failure, blames, fails.bind⟩
      | _ => exact fun reply => ih reply (owes reply)

end Building

section Running

variable {handler : (action : Action) → σ → Except Failure action.Reply × σ} {program : Program α} {state : σ}

/-- A program that fails without a further call meets none. -/
theorem FailsWith.not_meets {failure : Failure} (fails : program.FailsWith failure) {call : Call}
    {next : Except Failure call.Reply → Program α} {met : σ} : ¬Meets handler call program state next met := by
  intro meets
  induction meets with
  | here => exact fails
  | @later action next state met rest meets ih =>
      cases action with
      | store call => exact fails
      | _ => exact ih (fails _)

theorem Owes.asked_of_meets (owes : program.Owes asked brings passesOn) {call : Call}
    {next : Except Failure call.Reply → Program α} {met : σ} (meets : Meets handler call program state next met) :
    asked call := by
  induction meets with
  | here => exact owes.1
  | @later action next state met rest meets ih =>
      cases action with
      | store call =>
          by_cases brought : brings call (handler (.store call) state).1
          · obtain ⟨failure, -, fails⟩ := (owes.2 _).1 brought
            exact absurd meets fails.not_meets
          · exact ih ((owes.2 _).2 brought)
      | _ => exact ih (owes _)

/-- A run blames the input just if it meets a call that is replied so, or passes on a text without bytes. -/
theorem Owes.run_iff (owes : program.Owes asked brings passesOn) :
    Outcome.Blames (program.run handler state).1 ↔
      (∃ (call : Call) (next : Except Failure call.Reply → Program α) (met : σ),
        Meets handler call program state next met ∧ brings call (handler (.store call) met).1) ∨
      passesOn ∧ (program.run handler state).1 = .error .unencodable := by
  induction program generalizing state with
  | done outcome =>
      refine ⟨fun blames => .inr (owes blames), ?_⟩
      rintro (⟨call, next, met, meets, -⟩ | ⟨-, same⟩)
      · cases meets
      · exact ⟨.unencodable, same, rfl⟩
  | act action next ih =>
      -- What the rest meets is met behind the action.
      have later {call : Call} : (∃ (rest : Except Failure call.Reply → Program α) (met : σ),
          Meets handler call (next (handler action state).1) (handler action state).2 rest met ∧
            brings call (handler (.store call) met).1) →
          ∃ (rest : Except Failure call.Reply → Program α) (met : σ),
            Meets handler call (.act action next) state rest met ∧ brings call (handler (.store call) met).1 :=
        fun ⟨rest, met, meets, brought⟩ => ⟨rest, met, .later meets, brought⟩
      cases action with
      | store call =>
          by_cases brought : brings call (handler (.store call) state).1
          · obtain ⟨failure, blames, fails⟩ := (owes.2 _).1 brought
            refine iff_of_true ⟨failure, fails.run_eq _ _, blames⟩ ?_
            exact .inl ⟨call, next, state, .here next state, brought⟩
          · refine (ih _ ((owes.2 _).2 brought)).trans (or_congr_left ⟨fun ⟨call, met⟩ => ⟨call, later met⟩, ?_⟩)
            rintro ⟨other, rest, met, meets, also⟩
            cases meets with
            | here => exact absurd also brought
            | later meets => exact ⟨other, rest, met, meets, also⟩
      | _ =>
          refine (ih _ (owes _)).trans (or_congr_left ⟨fun ⟨call, met⟩ => ⟨call, later met⟩, ?_⟩)
          rintro ⟨other, rest, met, meets, also⟩
          cases meets with
          | later meets => exact ⟨other, rest, met, meets, also⟩

end Running
end Program
end PathStore

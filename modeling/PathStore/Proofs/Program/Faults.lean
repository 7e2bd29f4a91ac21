/-
This file tells what a disturbed call replies and leaves. A call takes effect unless a disturbance replaces it, and it
succeeds only if nothing disturbs it.
-/
import PathStore.Disturbance

namespace PathStore.Disturbance

variable {σ τ : Type} (schedule : Schedule τ) (answer : (call : Call) → σ → Except Failure call.Reply × σ) (call : Call)
  (state : σ × τ)

/-- Whether a call takes effect under what a schedule draws for it. -/
def takesEffect : Option Disturbance → Bool
  | .none => true
  | some disturbance => disturbance.isAfter

/-- A disturbed call leaves what the call leaves, or the state as it was if the call is replaced. -/
theorem disturb_state :
    (disturb schedule answer call state).2 =
      (if takesEffect (schedule call state.2).1 then (answer call state.1).2 else state.1,
        (schedule call state.2).2) := by
  rcases drawn : schedule call state.2 with ⟨disturbance, plan⟩
  rw [disturb, drawn]
  cases disturbance with
  | none => rfl
  | some disturbance =>
      obtain ⟨error, isAfter⟩ := disturbance
      cases isAfter <;> rfl

/-- A call leaves the plan that its drawing leaves. -/
theorem disturb_plan : (disturb schedule answer call state).2.2 = (schedule call state.2).2 :=
  congrArg Prod.snd (disturb_state schedule answer call state)

/-- A call that nothing disturbs replies as it does alone. -/
theorem disturb_reply_of_none (quiet : (schedule call state.2).1 = .none) :
    (disturb schedule answer call state).1 = (answer call state.1).1 := by
  rcases drawn : schedule call state.2 with ⟨disturbance, plan⟩
  rw [drawn] at quiet
  subst quiet
  rw [disturb, drawn]

/-- A disturbed call replies with the error of the disturbance, unless it was run and failed by itself. -/
theorem disturb_reply_eq {disturbance : Disturbance} (drawn : (schedule call state.2).1 = some disturbance) :
    (disturb schedule answer call state).1 =
      if disturbance.isAfter then disturbance.spoil (answer call state.1).1
      else .error (.service disturbance.error) := by
  rcases pair : schedule call state.2 with ⟨found, plan⟩
  rw [pair] at drawn
  subst drawn
  rw [disturb, pair]
  dsimp only
  split <;> rfl

/-- A disturbed call fails. -/
theorem disturb_reply_of_some {disturbance : Disturbance} (drawn : (schedule call state.2).1 = some disturbance) :
    ∃ failure, (disturb schedule answer call state).1 = .error failure := by
  rw [disturb_reply_eq schedule answer call state drawn]
  split
  · cases (answer call state.1).1 <;> exact ⟨_, rfl⟩
  · exact ⟨_, rfl⟩

end PathStore.Disturbance

namespace PathStore.Fault

/-- A disturbance drawn from a plan is of the kind that all planned ones are of, and so are those that are left. -/
theorem draw_of_forall {kind : Disturbance → Prop} (call : Call) {faults : List Fault}
    (all : ∀ fault ∈ faults, kind fault.disturbance) :
    (∀ disturbance, (draw call faults).1 = some disturbance → kind disturbance) ∧
      ∀ fault ∈ (draw call faults).2, kind fault.disturbance := by
  induction faults with
  | nil => exact ⟨nofun, all⟩
  | cons fault rest ih =>
      obtain ⟨first, others⟩ := List.forall_mem_cons.mp all
      rw [draw]
      split
      · refine ⟨fun disturbance drawn => ?_, List.forall_mem_cons.mpr ⟨first, others⟩⟩
        obtain rfl := Option.some.inj drawn
        exact first
      · exact ⟨(ih others).1, List.forall_mem_cons.mpr ⟨first, (ih others).2⟩⟩

/-- The plans of faults whose disturbances are of one kind. -/
abbrev PlanOf (kind : Disturbance → Prop) := { faults : List Fault // ∀ fault ∈ faults, kind fault.disturbance }

/-- The schedule that draws from plans of disturbances of one kind. -/
def drawOf (kind : Disturbance → Prop) : Disturbance.Schedule (PlanOf kind) := fun call plan =>
  ((draw call plan.1).1, ⟨(draw call plan.1).2, (draw_of_forall call plan.2).2⟩)

theorem drawOf_kind (kind : Disturbance → Prop) (call : Call) (plan : PlanOf kind) {disturbance : Disturbance}
    (drawn : (drawOf kind call plan).1 = some disturbance) : kind disturbance :=
  (draw_of_forall call plan.2).1 disturbance drawn

/-- The number of disturbances that are planned. -/
def planned : List Fault → Nat
  | [] => 0
  | fault :: rest => fault.times + planned rest

/-- A disturbance that is drawn is taken from the plan. -/
theorem planned_draw (call : Call) (faults : List Fault) :
    planned (draw call faults).2 + (if (draw call faults).1.isSome then 1 else 0) = planned faults := by
  induction faults with
  | nil => rfl
  | cons fault rest ih =>
      rw [draw]
      split
      · rename_i meant
        have left : 0 < fault.times := by
          simp only [isFor, Bool.and_eq_true, decide_eq_true_eq] at meant
          exact meant.1.1
        simp only [planned, Option.isSome_some, if_true]
        omega
      · simp only [planned] at ih ⊢
        omega

end PathStore.Fault

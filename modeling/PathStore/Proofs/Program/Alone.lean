/-
This file runs programs on a store alone. A workspace notes actions and counts scratch files, but neither changes what a
program gives nor what it leaves in the store.
-/
import PathStore.Disturbance
import PathStore.Store
import PathStore.Workspace

namespace PathStore

namespace Workspace

variable {σ α : Type} (answer : (call : Call) → σ → Except Failure call.Reply × σ)

/-- The reply to an action and the store after it, where nothing is noted or counted. -/
def reply (hasDirectory : Bool) (action : Action) (store : σ) : Except Failure action.Reply × σ :=
  match action with
  | .store call => answer call store
  | .openScratch => (if hasDirectory then .ok () else .error .noScratchDirectory, store)
  | .spill reader => (reader.drain, store)
  | .removeScratch => (.ok (), store)

/-- An action in a workspace is answered as by the store alone. -/
theorem perform_reply (action : Action) (workspace : Workspace σ) :
    (perform answer action workspace).1 = (reply answer workspace.hasDirectory action workspace.store).1 ∧
      (perform answer action workspace).2.store = (reply answer workspace.hasDirectory action workspace.store).2 ∧
      (perform answer action workspace).2.hasDirectory = workspace.hasDirectory := by
  obtain ⟨store, hasDirectory, scratchFiles, performed⟩ := workspace
  cases action with
  | store call => exact ⟨rfl, rfl, rfl⟩
  | openScratch => cases hasDirectory <;> exact ⟨rfl, rfl, rfl⟩
  | spill reader => exact ⟨rfl, rfl, rfl⟩
  | removeScratch => exact ⟨rfl, rfl, rfl⟩

/-- A program in a workspace gives and leaves what it gives and leaves on the store alone. -/
theorem run_alone (program : Program α) (workspace : Workspace σ) :
    (run answer program workspace).1 = (program.run (reply answer workspace.hasDirectory) workspace.store).1 ∧
      (run answer program workspace).2.store =
        (program.run (reply answer workspace.hasDirectory) workspace.store).2 := by
  unfold run
  induction program generalizing workspace with
  | done outcome => exact ⟨rfl, rfl⟩
  | act action next ih =>
      obtain ⟨sameReply, sameStore, sameDirectory⟩ := perform_reply answer action workspace
      have rest := ih (perform answer action workspace).1 (perform answer action workspace).2
      rw [sameStore, sameDirectory] at rest
      simp only [Program.run]
      rw [← sameReply]
      exact rest

/-- No program makes or removes the scratch directory. -/
theorem run_hasDirectory (program : Program α) (workspace : Workspace σ) :
    (run answer program workspace).2.hasDirectory = workspace.hasDirectory := by
  unfold run
  induction program generalizing workspace with
  | done outcome => rfl
  | act action next ih =>
      obtain ⟨-, -, sameDirectory⟩ := perform_reply answer action workspace
      exact (ih (perform answer action workspace).1 (perform answer action workspace).2).trans sameDirectory

end Workspace

namespace Store

variable (clock : Clock)

/-- A store for whose next composition no error is planned answers as its bucket does. -/
theorem answer_of_calm {store : Store} (calm : store.composeError = none) (call : Call) :
    store.answer clock call =
      ((store.bucket.answer clock call).1, { store with bucket := (store.bucket.answer clock call).2 }) := by
  obtain ⟨bucket, composeError⟩ := store
  subst calm
  cases call <;> rfl

/-- Only compositions meet the planned error. -/
theorem answer_of_not_composing (store : Store) {call : Call} (other : call.operation ≠ .putParts) :
    store.answer clock call =
      ((store.bucket.answer clock call).1, { store with bucket := (store.bucket.answer clock call).2 }) := by
  cases call with
  | putParts key composition => exact absurd rfl other
  | _ => rfl

/-- The bucket of a store after a call is the one that the bucket leaves, or the one before the call. -/
theorem answer_bucket (call : Call) (store : Store) :
    (store.answer clock call).2.bucket = (store.bucket.answer clock call).2 ∨
      (store.answer clock call).2.bucket = store.bucket := by
  obtain ⟨bucket, composeError⟩ := store
  cases composeError with
  | none => exact .inl (congrArg (fun result => result.2.bucket) (answer_of_calm clock rfl call))
  | some error =>
      cases call with
      | putParts key composition => exact .inr rfl
      | _ => exact .inl rfl

end Store
end PathStore

/-
This file tells which keys a driver creates. They are the keys of well-formed paths, so a store whose keys below the
root are all such keys stays one under every change, whatever fails.
-/
import PathStore.Proofs.Driver.Footprint
import PathStore.Proofs.Program.Faults

namespace PathStore

/-- Whether every key below a root is the key of a well-formed path. -/
def Root.Tidy (root : Root) (bucket : Bucket) : Prop :=
  ∀ key, Root.startsWith key root.stem = true → (bucket.find? key).isSome →
    ∃ path, Path.isValid path = true ∧ key = root.keyFor path

/-- Whether a store is tidy shows in the paths of its keys. -/
theorem Root.tidy_iff (root : Root) (bucket : Bucket) :
    root.Tidy bucket ↔ ∀ entry ∈ bucket.entries, Root.startsWith entry.1 root.stem = true →
      Path.isValid (root.pathFor entry.1) = true ∧ entry.1 = root.keyFor (root.pathFor entry.1) := by
  constructor
  · intro tidy entry member below
    have found := (bucket.mem_entries_iff entry.1 entry.2).mp member
    obtain ⟨path, valid, same⟩ := tidy entry.1 below (Option.isSome_iff_exists.mpr ⟨entry.2, found⟩)
    obtain ⟨names, rfl, row⟩ := (Path.isValid_iff path).mp valid
    rw [same, root.keyFor_row row, root.pathFor_row row, root.keyFor_row row]
    exact ⟨valid, rfl⟩
  · intro each key below isStored
    obtain ⟨object, found⟩ := Option.isSome_iff_exists.mp isStored
    exact ⟨root.pathFor key, each (key, object) ((bucket.mem_entries_iff key object).mpr found) below⟩

instance (root : Root) (bucket : Bucket) : Decidable (root.Tidy bucket) :=
  decidable_of_iff _ (root.tidy_iff bucket).symm

section Answer

theorem Bucket.stored_of_insert {bucket : Bucket} {known key : String} {object : StoredObject}
    (isStored : ((bucket.insert known object).find? key).isSome) :
    (bucket.find? key).isSome ∨ some known = some key := by
  rw [find?_insert] at isStored
  split at isStored
  · rename_i same
    exact .inr (congrArg some same)
  · exact .inl isStored

theorem Bucket.stored_of_erase {bucket : Bucket} {known key : String}
    (isStored : ((bucket.erase known).find? key).isSome) : (bucket.find? key).isSome := by
  rw [find?_erase] at isStored
  split at isStored
  · cases isStored
  · exact isStored

/-- A key has an object after a call only if it had one before or the call put one there. -/
theorem Bucket.stored_of_answer (clock : Clock) (call : Call) (bucket : Bucket) {key : String}
    (isStored : ((bucket.answer clock call).2.find? key).isSome) :
    (bucket.find? key).isSome ∨ call.created? = some key := by
  cases call with
  | stat known =>
      rw [answer] at isStored
      split at isStored <;> exact .inl isStored
  | list query => exact .inl isStored
  | download known offset =>
      rw [answer] at isStored
      split at isStored <;> exact .inl isStored
  | put known data size =>
      rw [answer] at isStored
      split at isStored
      · exact stored_of_insert isStored
      · exact .inl isStored
  | putFile known content => exact stored_of_insert isStored
  | putParts known composition =>
      rw [answer] at isStored
      split at isStored
      · exact stored_of_insert isStored
      · exact .inl isStored
  | delete known =>
      rw [answer] at isStored
      split at isStored
      · exact .inl (stored_of_erase isStored)
      · exact .inl isStored
  | move source target =>
      rw [answer] at isStored
      split at isStored
      · exact .inl isStored
      · split at isStored
        · exact .inl isStored
        · exact (stored_of_insert isStored).imp_left stored_of_erase
  | sign known lifetime => exact .inl isStored

/-- A key has an object after an action only if it had one before or a call put one there, whatever disturbs the
call. -/
theorem Disturbance.stored_of_reply {τ : Type} (schedule : Schedule τ) (clock : Clock) (hasDirectory : Bool)
    (action : Action) (state : Store × τ) {key : String}
    (isStored : ((Workspace.reply (disturb schedule (Store.answer clock)) hasDirectory action
      state).2.1.bucket.find? key).isSome) :
    (state.1.bucket.find? key).isSome ∨ ∃ call, action = .store call ∧ call.created? = some key := by
  cases action with
  | store call =>
      change ((disturb schedule (Store.answer clock) call state).2.1.bucket.find? key).isSome at isStored
      rw [disturb_state] at isStored
      split at isStored
      · rcases state.1.answer_bucket clock call with same | same
        · rw [same] at isStored
          apply (Bucket.stored_of_answer clock call state.1.bucket isStored).imp_right
          exact fun created => ⟨call, rfl, created⟩
        · rw [same] at isStored
          exact .inl isStored
      · exact .inl isStored
  | _ => exact .inl isStored

/-- An action that puts objects only under the keys of well-formed paths leaves a store tidy, whatever disturbs it. -/
theorem Root.Tidy.reply {root : Root} {τ : Type} (schedule : Disturbance.Schedule τ) (clock : Clock)
    (hasDirectory : Bool) (action : Action) (state : Store × τ) (permitted : root.Permits action)
    (tidy : root.Tidy state.1.bucket) :
    let after := (Workspace.reply (Disturbance.disturb schedule (Store.answer clock)) hasDirectory action state).2
    root.Tidy after.1.bucket := by
  intro after key below isStored
  rcases Disturbance.stored_of_reply schedule clock hasDirectory action state isStored with
    before | ⟨call, rfl, created⟩
  · exact tidy key below before
  · exact permitted key created

end Answer

namespace Driver

variable (driver : Driver)

/-- A change that a driver makes to a store. -/
inductive Change where
  | put (path : String) (content : Bytes)
  | write (path : String) (offset : Int) (reader : Reader)
  | move (source target : String)
  | delete (path : String) (pages : Nat)

/-- The program of a change. -/
def Change.program : Change → Program Unit
  | .put path content => driver.putContent path content
  | .write path offset reader => do
      let _ ← driver.writeStream path offset reader
      return ()
  | .move source target => driver.movePath source target
  | .delete path pages => driver.deletePath path pages

/-- A change, the clock that it reads and what disturbs its calls. -/
structure Event (τ : Type) where
  clock : Clock
  schedule : Disturbance.Schedule τ
  change : Change

variable {τ : Type}

/-- The workspace once a change was made or failed. -/
def Event.apply (workspace : Workspace (Store × τ)) (event : Event τ) : Workspace (Store × τ) :=
  let answer := Disturbance.disturb event.schedule (Store.answer event.clock)
  (Workspace.run answer (event.change.program driver) workspace).2

/-- The workspace after one change after the other. -/
def history (workspace : Workspace (Store × τ)) (events : List (Event τ)) : Workspace (Store × τ) :=
  events.foldl (Event.apply driver) workspace

theorem performs_change (change : Change) : (change.program driver).Performs driver.root.Confines := by
  cases change with
  | put path content => exact driver.performs_putContent path content
  | write path offset reader =>
      exact Program.performs_bind (driver.performs_writeStream path offset reader) fun _ => trivial
  | move source target => exact driver.performs_movePath source target
  | delete path pages => exact driver.performs_deletePath path pages

/-- A change leaves a store tidy, whatever fails. -/
theorem tidy_apply {workspace : Workspace (Store × τ)} (event : Event τ)
    (tidy : driver.root.Tidy workspace.store.1.bucket) :
    driver.root.Tidy (event.apply driver workspace).store.1.bucket := by
  rw [Event.apply, (Workspace.run_alone _ _ workspace).2]
  exact Program.run_preserves (Root.Tidy.reply event.schedule event.clock workspace.hasDirectory)
    ((driver.performs_change event.change).mono fun _ => Root.Confines.permits) tidy

/-- Any changes leave a store tidy. -/
theorem tidy_history {workspace : Workspace (Store × τ)} (tidy : driver.root.Tidy workspace.store.1.bucket)
    (events : List (Event τ)) : driver.root.Tidy (driver.history workspace events).store.1.bucket := by
  induction events generalizing workspace with
  | nil => exact tidy
  | cons event later ih => exact ih (driver.tidy_apply event tidy)

end Driver
end PathStore

/-
This file shows what a move leaves in a store whose calls are disturbed. A move to another path keeps the content of its
source whatever fails; a move onto its own path loses it just if the delete takes effect.
-/
import PathStore.Proofs.Driver.Steps
import PathStore.Proofs.Program.Faults
import PathStore.Proofs.Root.Keys

namespace PathStore

/-- Whether a key has an object with the given content. -/
def Bucket.Holds (bucket : Bucket) (key : String) (content : Bytes) : Prop :=
  (bucket.find? key).map StoredObject.content = some content

namespace Driver

section Answer

variable (clock : Clock) (store : Store)

theorem answer_stat_state (key : String) : (store.answer clock (.stat key)).2 = store := by
  rw [Store.answer_of_not_composing clock store (by simp [Call.operation]), Bucket.answer]
  cases store.bucket.find? key <;> rfl

/-- A move leaves the object under its new key, or the store as it was if the object is missing or the key taken. -/
theorem answer_move_state (source target : String) :
    (store.answer clock (.move source target)).2 =
      match store.bucket.find? source with
      | none => store
      | some object =>
          if (store.bucket.find? target).isSome then store
          else { store with bucket := store.bucket.rename source target object } := by
  rw [Store.answer_of_not_composing clock store (by simp [Call.operation]), Bucket.answer]
  cases store.bucket.find? source with
  | none => rfl
  | some object => cases (store.bucket.find? target).isSome <;> rfl

end Answer

section Move

variable {σ : Type} (answer : (call : Call) → σ → Except Failure call.Reply × σ) (hasDirectory : Bool) (state : σ)

/-- Deleting a key leaves what its call leaves, also where the failure of the call is none. -/
theorem run_deleteIfPresent_state (key : String) :
    ((deleteIfPresent key).run (Workspace.reply answer hasDirectory) state).2 = (answer (.delete key) state).2 := by
  rw [run_deleteIfPresent]
  rcases answer (.delete key) state with ⟨reply, after⟩
  cases reply <;> rfl

/-- A move leaves what its calls leave in order: a failed description ends it, and a failed delete may. -/
theorem movePath_state_cases (driver : Driver) {source target : String} (sourceValid : Path.isValid source = true)
    (targetValid : Path.isValid target = true) :
    let description := answer (.stat (driver.root.keyFor source)) state
    let cleared := (answer (.delete (driver.root.keyFor target)) description.2).2
    let after := ((driver.movePath source target).run (Workspace.reply answer hasDirectory) state).2
    (∃ failure, description.1 = .error failure) ∧ after = description.2 ∨
      (∃ info, description.1 = .ok info) ∧ (after = cleared ∨
        after = (answer (.move (driver.root.keyFor source) (driver.root.keyFor target)) cleared).2) := by
  intro description cleared after
  simp only [after, run_movePath answer hasDirectory state driver sourceValid targetValid]
  simp only [cleared, description]
  rcases answer (.stat (driver.root.keyFor source)) state with ⟨reply, described⟩
  cases reply with
  | error failure => exact .inl ⟨⟨failure, rfl⟩, rfl⟩
  | ok info =>
      refine .inr ⟨⟨info, rfl⟩, ?_⟩
      simp only [← run_deleteIfPresent_state answer hasDirectory]
      rcases (deleteIfPresent (driver.root.keyFor target)).run (Workspace.reply answer hasDirectory) described with
        ⟨deletion, left⟩
      cases deletion with
      | error failure => exact .inl rfl
      | ok done => exact .inr rfl

end Move

section Faults

open Disturbance hiding none

variable {τ : Type} (clock : Clock) (schedule : Schedule τ) (hasDirectory : Bool) (state : Store × τ)

theorem disturbed_stat_store (key : String) :
    (disturb schedule (Store.answer clock) (.stat key) state).2.1 = state.1 := by
  rw [disturb_state, answer_stat_state, ite_self]

theorem disturbed_delete_store (key : String) :
    (disturb schedule (Store.answer clock) (.delete key) state).2.1 =
      if takesEffect (schedule (.delete key) state.2).1 then { state.1 with bucket := state.1.bucket.erase key }
      else state.1 := by
  rw [disturb_state, answer_delete]

/-- A disturbed move keeps an object under one of its keys. -/
theorem disturbed_move_keeps {source target : String} {object : StoredObject}
    (found : state.1.bucket.find? source = some object) :
    let after := (disturb schedule (Store.answer clock) (.move source target) state).2.1.bucket
    after.find? source = some object ∨ after.find? target = some object := by
  simp only [disturb_state, answer_move_state, found]
  split
  · split
    · exact .inl found
    · right
      simp [Bucket.rename]
  · exact .inl found

/-- A move of a key onto itself changes nothing, for the key is missing or taken. -/
theorem disturbed_move_self (key : String) :
    (disturb schedule (Store.answer clock) (.move key key) state).2.1 = state.1 := by
  simp only [disturb_state, answer_move_state]
  split
  · cases found : state.1.bucket.find? key <;> simp
  · rfl

/-- A move between two keys keeps the object of the first under one of them, whatever fails. -/
theorem movePath_keeps_object (driver : Driver) {source target : String} (sourceValid : Path.isValid source = true)
    (targetValid : Path.isValid target = true) (distinct : driver.root.keyFor source ≠ driver.root.keyFor target)
    {object : StoredObject} (found : state.1.bucket.find? (driver.root.keyFor source) = some object) :
    let after := ((driver.movePath source target).run
      (Workspace.reply (disturb schedule (Store.answer clock)) hasDirectory) state).2.1.bucket
    after.find? (driver.root.keyFor source) = some object ∨ after.find? (driver.root.keyFor target) = some object := by
  have unchanged := disturbed_stat_store clock schedule state (driver.root.keyFor source)
  have kept : (disturb schedule (Store.answer clock) (.delete (driver.root.keyFor target))
      (disturb schedule (Store.answer clock) (.stat (driver.root.keyFor source)) state).2).2.1.bucket.find?
        (driver.root.keyFor source) = some object := by
    rw [disturbed_delete_store, unchanged]
    split
    · rw [Bucket.find?_erase, if_neg distinct.symm, found]
    · exact found
  intro after
  rcases movePath_state_cases (disturb schedule (Store.answer clock)) hasDirectory state driver sourceValid targetValid
    with ⟨-, ended⟩ | ⟨-, ended | ended⟩
  · left
    rw [show after = _ from congrArg (·.1.bucket) ended, unchanged, found]
  · left
    rw [show after = _ from congrArg (·.1.bucket) ended, kept]
  · rw [show after = _ from congrArg (·.1.bucket) ended]
    exact disturbed_move_keeps clock schedule _ kept

/-- A move of a key onto itself leaves the store as it was, unless the key is described and then deleted. -/
theorem movePath_self (driver : Driver) {path : String} (valid : Path.isValid path = true)
    {object : StoredObject} (found : state.1.bucket.find? (driver.root.keyFor path) = some object) :
    let key := driver.root.keyFor path
    let described := schedule (.stat key) state.2
    let after := ((driver.movePath path path).run
      (Workspace.reply (disturb schedule (Store.answer clock)) hasDirectory) state).2.1
    after = if described.1 = none ∧ takesEffect (schedule (.delete key) described.2).1 = true
      then { state.1 with bucket := state.1.bucket.erase key } else state.1 := by
  intro key described after
  have unchanged := disturbed_stat_store clock schedule state key
  have plan : (disturb schedule (Store.answer clock) (.stat key) state).2.2 = described.2 := by rw [disturb_state]
  have cleared := disturbed_delete_store clock schedule (disturb schedule (Store.answer clock) (.stat key) state).2 key
  rw [unchanged, plan] at cleared
  rcases movePath_state_cases (disturb schedule (Store.answer clock)) hasDirectory state driver valid valid
    with ⟨⟨failure, failed⟩, ended⟩ | ⟨⟨info, succeeded⟩, ended⟩
  · have disturbed : described.1 ≠ none := by
      intro quiet
      rw [disturb_reply_of_none schedule (Store.answer clock) (.stat key) state quiet, answer_stat_found clock found]
        at failed
      cases failed
    rw [if_neg (disturbed ·.1)]
    exact (congrArg Prod.fst ended).trans unchanged
  · have quiet : described.1 = none := by
      cases drawn : described.1 with
      | none => rfl
      | some disturbance =>
          obtain ⟨failure, failed⟩ := disturb_reply_of_some schedule (Store.answer clock) (.stat key) state drawn
          rw [failed] at succeeded
          cases succeeded
    simp only [quiet, true_and]
    rcases ended with ended | ended
    · exact (congrArg Prod.fst ended).trans cleared
    · exact ((congrArg Prod.fst ended).trans (disturbed_move_self clock schedule _ key)).trans cleared

/-- Whatever fails, a move keeps the content of its source at one of its paths, except where the paths are one, the
source was described and the delete took effect: then the content is lost. -/
theorem movePath_keeps_content_iff (driver : Driver) (workspace : Workspace (Store × τ)) (source target : String)
    (content : Bytes) (sourceValid : Path.isValid source = true) (targetValid : Path.isValid target = true)
    (stored : workspace.store.1.bucket.Holds (driver.root.keyFor source) content) :
    let key := driver.root.keyFor source
    let described := schedule (.stat key) workspace.store.2
    let after := (Workspace.run (disturb schedule (Store.answer clock)) (driver.movePath source target)
      workspace).2.store.1.bucket
    after.Holds key content ∨ after.Holds (driver.root.keyFor target) content ↔
      ¬(source = target ∧ described.1 = none ∧ takesEffect (schedule (.delete key) described.2).1 = true) := by
  intro key described after
  obtain ⟨object, found, rfl⟩ := Option.map_eq_some_iff.mp stored
  have alone := (Workspace.run_alone (disturb schedule (Store.answer clock)) (driver.movePath source target)
    workspace).2
  by_cases same : source = target
  · subst same
    have left := movePath_self clock schedule workspace.hasDirectory workspace.store driver sourceValid found
    rw [← alone] at left
    rw [or_self, Bucket.Holds, show after = _ from congrArg Store.bucket left]
    by_cases deleted : described.1 = none ∧ takesEffect (schedule (.delete key) described.2).1 = true
    · simp [key, described, deleted]
    · simp [key, described, deleted, found]
  · have distinct : driver.root.keyFor source ≠ driver.root.keyFor target := fun equal =>
      same ((driver.root.keyFor_inj sourceValid targetValid).mp equal)
    have kept := movePath_keeps_object clock schedule workspace.hasDirectory workspace.store driver sourceValid
      targetValid distinct found
    rw [← alone] at kept
    simp only [same, false_and, not_false_eq_true, iff_true]
    exact kept.imp (congrArg (Option.map StoredObject.content)) (congrArg (Option.map StoredObject.content))

/-- A move whose last call is reported as failed after it took effect keeps the content. -/
theorem movePath_keeps_content_after_fault :
    let fault : Fault :=
      { operation := .move, disturbance := { error := ⟨599, .text "timeout", none⟩, isAfter := true } }
    let after := (Workspace.run (disturb Fault.draw (Store.answer ⟨.ofInt 1700000000⟩))
      (movePath ⟨.ofDirectory "/reg/", 10, 60, .standard⟩ "/a" "/a-x")
      { store := ({ bucket := .sample }, [fault]) }).2.store.1.bucket
    after.Holds "reg/a" [1, 2, 3] ∨ after.Holds "reg/a-x" [1, 2, 3] := by
  intro fault after
  have sourceKey : (Root.ofDirectory "/reg/").keyFor "/a" = "reg/a" := by decide
  have targetKey : (Root.ofDirectory "/reg/").keyFor "/a-x" = "reg/a-x" := by decide
  have kept := movePath_keeps_content_iff ⟨.ofInt 1700000000⟩ Fault.draw ⟨.ofDirectory "/reg/", 10, 60, .standard⟩
    { store := ({ bucket := .sample }, [fault]) } "/a" "/a-x" [1, 2, 3] (by decide) (by decide)
    (by unfold Bucket.Holds; decide)
  rw [sourceKey, targetKey] at kept
  exact kept.mpr fun lost => absurd lost.1 (by decide)

/-- A move of a path onto itself loses the content also where nothing fails. -/
theorem movePath_onto_itself_loses_content :
    let workspace : Workspace (Store × Unit) := { store := ({ bucket := .sample }, ()) }
    let after := (Workspace.run (disturb Disturbance.none (Store.answer ⟨.ofInt 1700000000⟩))
      (movePath ⟨.ofDirectory "/reg/", 10, 60, .standard⟩ "/a" "/a") workspace).2.store.1.bucket
    Path.isValid "/a" = true ∧ workspace.store.1.bucket.Holds "reg/a" [1, 2, 3] ∧ ¬after.Holds "reg/a" [1, 2, 3] := by
  unfold Bucket.Holds
  decide

end Faults
end Driver
end PathStore

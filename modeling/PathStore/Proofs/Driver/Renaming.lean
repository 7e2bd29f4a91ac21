/-
This file shows what a move to another path leaves in a store without faults. The object of the source is then found
under the target alone, in place of what was there, and every other object is left alone; a missing source changes
nothing.
-/
import PathStore.Proofs.Driver.Steps
import PathStore.Proofs.Root.Keys

namespace PathStore

/-- An object that is given another key is found there, in place of what was there, and no longer under its own. -/
@[simp] theorem Bucket.find?_rename (bucket : Bucket) (source target key : String) (object : StoredObject) :
    (bucket.rename source target object).find? key =
      if target = key then some object else if source = key then none else bucket.find? key := by
  rw [rename, find?_insert, find?_erase]

namespace Driver

variable (clock : Clock) (hasDirectory : Bool) (driver : Driver) {source target : String} {store : Store}

section Answer

variable {sourceKey targetKey : String}

/-- A move of a key under which nothing is stored fails and changes nothing. -/
theorem answer_move_missing (missing : store.bucket.find? sourceKey = none) :
    store.answer clock (.move sourceKey targetKey) = (.error Composition.noSuchObject, store) := by
  rw [Store.answer_of_not_composing clock store (by simp [Call.operation]), Bucket.answer, missing]
  rfl

/-- A move to a key that is free gives the object that key. -/
theorem answer_move_free {object : StoredObject} (found : store.bucket.find? sourceKey = some object)
    (free : store.bucket.find? targetKey = none) :
    store.answer clock (.move sourceKey targetKey) =
      (.ok (), { store with bucket := store.bucket.rename sourceKey targetKey object }) := by
  rw [Store.answer_of_not_composing clock store (by simp [Call.operation]), Bucket.answer, found]
  simp only [free, Option.isSome_none, Bool.false_eq_true, if_false]

end Answer

section Run

variable (sourceValid : Path.isValid source = true) (targetValid : Path.isValid target = true)
include sourceValid targetValid

/-- A move of a missing object fails before anything is deleted. -/
theorem run_movePath_missing (missing : store.bucket.find? (driver.root.keyFor source) = none) :
    (driver.movePath source target).run (Workspace.reply (Store.answer clock) hasDirectory) store =
      (.error (.pathNotFound source), store) := by
  rw [run_movePath _ _ _ driver sourceValid targetValid, answer_stat_missing clock missing]
  rfl

/-- A move to another path deletes what its target holds and gives the object of its source that key. -/
theorem run_movePath_found (distinct : driver.root.keyFor source ≠ driver.root.keyFor target) {object : StoredObject}
    (found : store.bucket.find? (driver.root.keyFor source) = some object) :
    (driver.movePath source target).run (Workspace.reply (Store.answer clock) hasDirectory) store =
      (.ok (), { store with
        bucket := (store.bucket.erase (driver.root.keyFor target)).rename (driver.root.keyFor source)
          (driver.root.keyFor target) object }) := by
  let cleared : Store := { store with bucket := store.bucket.erase (driver.root.keyFor target) }
  have kept : cleared.bucket.find? (driver.root.keyFor source) = some object := by
    rw [Bucket.find?_erase, if_neg distinct.symm, found]
  have free : cleared.bucket.find? (driver.root.keyFor target) = none := by
    rw [Bucket.find?_erase, if_pos rfl]
  rw [run_movePath _ _ _ driver sourceValid targetValid, answer_stat_found clock found]
  simp only [run_deleteIfPresent_store]
  rw [answer_move_free clock kept free]
  rfl

end Run

/-- A move without faults to another path fails if its source is missing, and then changes nothing. Otherwise it
succeeds: the target has the object of the source, content and time, whether or not it had one before, the source has
none, and every other object is as it was. -/
theorem movePath_replaces_target (workspace : Workspace Store) (source target : String)
    (sourceValid : Path.isValid source = true) (targetValid : Path.isValid target = true) (distinct : source ≠ target) :
    let sourceKey := driver.root.keyFor source
    let targetKey := driver.root.keyFor target
    let before := workspace.store.bucket
    let result := Workspace.run (Store.answer clock) (driver.movePath source target) workspace
    let after := result.2.store.bucket
    (before.find? sourceKey = none → result.1 = .error (.pathNotFound source) ∧ result.2.store = workspace.store) ∧
    ∀ object, before.find? sourceKey = some object →
      result.1 = .ok () ∧ after.find? targetKey = some object ∧ after.find? sourceKey = none ∧
        ∀ other, other ≠ sourceKey → other ≠ targetKey → after.find? other = before.find? other := by
  intro sourceKey targetKey before result after
  have keysDiffer : sourceKey ≠ targetKey := fun same =>
    distinct ((driver.root.keyFor_inj sourceValid targetValid).mp same)
  obtain ⟨outcome, stored⟩ := Workspace.run_alone (Store.answer clock) (driver.movePath source target) workspace
  constructor
  · intro missing
    rw [run_movePath_missing clock _ driver sourceValid targetValid missing] at outcome stored
    exact ⟨outcome, stored⟩
  · intro object found
    rw [run_movePath_found clock _ driver sourceValid targetValid keysDiffer found] at outcome stored
    have renamed : after = (before.erase targetKey).rename sourceKey targetKey object := congrArg Store.bucket stored
    refine ⟨outcome, ?_, ?_, ?_⟩
    · rw [renamed, Bucket.find?_rename, if_pos rfl]
    · rw [renamed, Bucket.find?_rename, if_neg keysDiffer.symm, if_pos rfl]
    · intro other notSource notTarget
      rw [renamed, Bucket.find?_rename, if_neg notTarget.symm, if_neg notSource.symm, Bucket.find?_erase,
        if_neg notTarget.symm]

/-- A move onto a path that is taken replaces the object there and leaves what lies below its source. -/
theorem movePath_replaces_sibling :
    let result := Workspace.run (Store.answer ⟨.ofInt 1700000000⟩)
      (movePath ⟨.ofDirectory "/reg/", 10, 60, .standard⟩ "/a" "/a-x") { store := { bucket := .sample } }
    result.1 = .ok () ∧ result.2.store.bucket.find? "reg/a-x" = some ⟨[1, 2, 3], 0⟩ ∧
      result.2.store.bucket.find? "reg/a" = none ∧
      result.2.store.bucket.find? "reg/a/b" = some ⟨[5], 0⟩ := by
  intro result
  have sourceKey : (Root.ofDirectory "/reg/").keyFor "/a" = "reg/a" := by decide
  have targetKey : (Root.ofDirectory "/reg/").keyFor "/a-x" = "reg/a-x" := by decide
  have below : Bucket.sample.find? "reg/a/b" = some ⟨[5], 0⟩ := by decide
  have moved := (movePath_replaces_target ⟨.ofInt 1700000000⟩ ⟨.ofDirectory "/reg/", 10, 60, .standard⟩
    { store := { bucket := .sample } } "/a" "/a-x" (by decide) (by decide) (by decide)).2
  rw [sourceKey, targetKey] at moved
  obtain ⟨outcome, replaced, gone, others⟩ := moved ⟨[1, 2, 3], 0⟩ (by decide)
  exact ⟨outcome, replaced, gone, (others "reg/a/b" (by decide) (by decide)).trans below⟩

end Driver
end PathStore

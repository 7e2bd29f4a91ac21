/-
This file shows what a move that fails leaves where faults replace the calls to a store. Its target is deleted before
the object of the source gets that key, so a fault at the last call leaves the target without its object; any other
failure changes nothing.
-/
import PathStore.Proofs.Driver.Atomicity
import PathStore.Proofs.Driver.Renaming
import PathStore.Proofs.Program.Outcomes

namespace PathStore.Driver

open Disturbance hiding none

section Answer

variable {σ : Type} (answer : (call : Call) → σ → Except Failure call.Reply × σ) (hasDirectory : Bool) (state : σ)

/-- A move that fails does so at the description of its source, at the delete of its target, where a missing key is no
failure, or at the last call; it leaves what the calls up to there leave. -/
theorem movePath_error_cases (driver : Driver) {source target : String} (sourceValid : Path.isValid source = true)
    (targetValid : Path.isValid target = true) {failure : Failure}
    (failed : ((driver.movePath source target).run (Workspace.reply answer hasDirectory) state).1 = .error failure) :
    let description := answer (.stat (driver.root.keyFor source)) state
    let deletion := answer (.delete (driver.root.keyFor target)) description.2
    let moving := answer (.move (driver.root.keyFor source) (driver.root.keyFor target)) deletion.2
    let after := ((driver.movePath source target).run (Workspace.reply answer hasDirectory) state).2
    (∃ reason, description.1 = .error reason) ∧ after = description.2 ∨
      (∃ info, description.1 = .ok info) ∧
        ((∃ reason, deletion.1 = .error reason ∧ reason.isNoSuchKey = false) ∧ after = deletion.2 ∨
          (∃ reason, moving.1 = .error reason) ∧ after = moving.2) := by
  have moved := run_movePath answer hasDirectory state driver sourceValid targetValid
  intro description deletion moving after
  simp only [after, moved, moving, deletion, description]
  rw [moved] at failed
  generalize answer (.stat (driver.root.keyFor source)) state = described at failed ⊢
  obtain ⟨reply, described⟩ := described
  cases reply with
  | error reason => exact .inl ⟨⟨reason, rfl⟩, rfl⟩
  | ok info =>
      refine .inr ⟨⟨info, rfl⟩, ?_⟩
      simp only [run_deleteIfPresent] at failed ⊢
      generalize answer (.delete (driver.root.keyFor target)) described = cleared at failed ⊢
      obtain ⟨reply, cleared⟩ := cleared
      cases reply with
      | ok done =>
          obtain ⟨reason, failing, -⟩ := Outcome.mapError_eq_error_iff.mp failed
          exact .inr ⟨⟨reason, failing⟩, rfl⟩
      | error reason =>
          cases missing : reason.isNoSuchKey with
          | true =>
              simp only [missing, if_true] at failed ⊢
              obtain ⟨cause, failing, -⟩ := Outcome.mapError_eq_error_iff.mp failed
              exact .inr ⟨⟨cause, failing⟩, trivial⟩
          | false =>
              simp only [missing, Bool.false_eq_true, if_false]
              exact .inl ⟨⟨reason, rfl, missing⟩, trivial⟩

end Answer

section Faults

variable {τ : Type} (clock : Clock) {schedule : Schedule τ}

/-- A description that succeeds was not disturbed and found an object. -/
theorem disturbed_stat_ok {state : Store × τ} {key : String} {info : ObjectInfo}
    (succeeded : (disturb schedule (Store.answer clock) (.stat key) state).1 = .ok info) :
    (schedule (.stat key) state.2).1 = .none ∧ ∃ object, state.1.bucket.find? key = some object := by
  cases drawn : (schedule (.stat key) state.2).1 with
  | some disturbance =>
      obtain ⟨reason, failed⟩ := disturb_reply_of_some schedule (Store.answer clock) (.stat key) state drawn
      rw [failed] at succeeded
      cases succeeded
  | none =>
      refine ⟨rfl, ?_⟩
      rw [disturb_reply_of_none schedule (Store.answer clock) (.stat key) state drawn] at succeeded
      cases found : state.1.bucket.find? key with
      | some object => exact ⟨object, rfl⟩
      | none =>
          rw [answer_stat_missing clock found] at succeeded
          cases succeeded

/-- A description that fails was disturbed or found nothing. -/
theorem disturbed_stat_error {state : Store × τ} {key : String} {failure : Failure}
    (failed : (disturb schedule (Store.answer clock) (.stat key) state).1 = .error failure) {object : StoredObject}
    (found : state.1.bucket.find? key = some object) : (schedule (.stat key) state.2).1 ≠ .none := by
  intro quiet
  rw [disturb_reply_of_none schedule (Store.answer clock) (.stat key) state quiet, answer_stat_found clock found]
    at failed
  cases failed

/-- A delete that fails for another reason than a missing key was disturbed. -/
theorem disturbed_delete_error {state : Store × τ} {key : String} {failure : Failure}
    (failed : (disturb schedule (Store.answer clock) (.delete key) state).1 = .error failure)
    (other : failure.isNoSuchKey = false) : (schedule (.delete key) state.2).1 ≠ .none := by
  intro quiet
  rw [disturb_reply_of_none schedule (Store.answer clock) (.delete key) state quiet, answer_delete] at failed
  split at failed
  · cases failed
  · obtain rfl := Except.error.inj failed
    cases other

/-- A move of an object to a free key fails only where it is disturbed. -/
theorem disturbed_move_error {state : Store × τ} {sourceKey targetKey : String} {failure : Failure}
    (failed : (disturb schedule (Store.answer clock) (.move sourceKey targetKey) state).1 = .error failure)
    (object : StoredObject) (found : state.1.bucket.find? sourceKey = some object)
    (free : state.1.bucket.find? targetKey = none) : (schedule (.move sourceKey targetKey) state.2).1 ≠ .none := by
  intro quiet
  rw [disturb_reply_of_none schedule (Store.answer clock) (.move sourceKey targetKey) state quiet,
    answer_move_free clock found free] at failed
  cases failed

/-- Whether a move loses the object of its target: its source is described and the target deleted without a fault, and a
fault meets the last call. -/
def LosesTarget (schedule : Schedule τ) (sourceKey targetKey : String) (state : Store × τ) : Prop :=
  let described := schedule (.stat sourceKey) state.2
  let cleared := schedule (.delete targetKey) described.2
  let moved := schedule (.move sourceKey targetKey) cleared.2
  (state.1.bucket.find? sourceKey).isSome ∧ described.1 = .none ∧ cleared.1 = .none ∧ moved.1 ≠ .none

variable (replaces : Replaces schedule)
include replaces

/-- A move whose last call fails leaves what the delete of its target left, and loses the target if that delete was not
disturbed. -/
theorem move_error_bucket {sourceKey targetKey : String} (distinct : sourceKey ≠ targetKey) {state : Store × τ}
    {info : ObjectInfo} {failure : Failure} :
    let described := disturb schedule (Store.answer clock) (.stat sourceKey) state
    let cleared := disturb schedule (Store.answer clock) (.delete targetKey) described.2
    let moved := disturb schedule (Store.answer clock) (.move sourceKey targetKey) cleared.2
    let lost := LosesTarget schedule sourceKey targetKey state
    described.1 = .ok info → moved.1 = .error failure →
      (lost → moved.2.1.bucket = state.1.bucket.erase targetKey) ∧ (¬lost → moved.2.1.bucket = state.1.bucket) := by
  intro described cleared moved lost succeeds fails
  obtain ⟨quiet, object, found⟩ := disturbed_stat_ok clock succeeds
  have drawn : described.2.2 = (schedule (.stat sourceKey) state.2).2 := disturb_plan ..
  have deleted := disturbed_delete_store clock schedule described.2 targetKey
  rw [disturbed_stat_store, drawn] at deleted
  have left : moved.2.1.bucket = cleared.2.1.bucket := disturb_of_error clock replaces fails
  rw [deleted] at left
  cases deleting : (schedule (.delete targetKey) (schedule (.stat sourceKey) state.2).2).1 with
  | some disturbance =>
      have replaced : takesEffect (some disturbance) = false := replaces _ _ disturbance deleting
      rw [deleting, replaced] at left
      refine ⟨fun ⟨_, _, undisturbed, _⟩ => ?_, fun _ => left⟩
      rw [deleting] at undisturbed
      cases undisturbed
  | none =>
      rw [deleting] at left deleted
      refine ⟨fun _ => left, fun kept => absurd ⟨?_, quiet, deleting, ?_⟩ kept⟩
      · exact Option.isSome_iff_exists.mpr ⟨object, found⟩
      · have disturbed := disturbed_move_error clock fails object
          (by rw [deleted]; exact (Bucket.find?_erase ..).trans ((if_neg distinct.symm).trans found))
          (by rw [deleted]; exact (Bucket.find?_erase ..).trans (if_pos rfl))
        rwa [disturb_plan, drawn] at disturbed

variable (hasDirectory : Bool) (driver : Driver) {source target : String}
  (sourceValid : Path.isValid source = true) (targetValid : Path.isValid target = true)
include sourceValid targetValid

/-- A move that fails leaves the objects as they were, without that of its target if it loses it. -/
theorem failed_movePath_bucket (distinct : driver.root.keyFor source ≠ driver.root.keyFor target) (state : Store × τ)
    {failure : Failure}
    (failed : ((driver.movePath source target).run
      (Workspace.reply (disturb schedule (Store.answer clock)) hasDirectory) state).1 = .error failure) :
    let lost := LosesTarget schedule (driver.root.keyFor source) (driver.root.keyFor target) state
    let after := ((driver.movePath source target).run
      (Workspace.reply (disturb schedule (Store.answer clock)) hasDirectory) state).2.1.bucket
    (lost → after = state.1.bucket.erase (driver.root.keyFor target)) ∧ (¬lost → after = state.1.bucket) := by
  intro lost after
  have cases := movePath_error_cases (disturb schedule (Store.answer clock)) hasDirectory state driver sourceValid
    targetValid failed
  simp only [lost]
  generalize driver.root.keyFor source = sourceKey at distinct cases ⊢
  generalize driver.root.keyFor target = targetKey at distinct cases ⊢
  have described := disturbed_stat_store clock schedule state sourceKey
  have drawn := disturb_plan schedule (Store.answer clock) (.stat sourceKey) state
  have cleared := disturbed_delete_store clock schedule
    (disturb schedule (Store.answer clock) (.stat sourceKey) state).2 targetKey
  rw [described, drawn] at cleared
  rcases cases with ⟨⟨reason, fails⟩, ended⟩ | ⟨⟨info, succeeds⟩, rest⟩
  · -- The source is not described, so nothing is deleted.
    have same : after = state.1.bucket := congrArg Store.bucket ((congrArg Prod.fst ended).trans described)
    refine ⟨fun ⟨isStored, quiet, _⟩ => ?_, fun _ => same⟩
    obtain ⟨object, found⟩ := Option.isSome_iff_exists.mp isStored
    exact absurd quiet (disturbed_stat_error clock fails found)
  rcases rest with ⟨⟨reason, fails, other⟩, ended⟩ | ⟨⟨reason, fails⟩, ended⟩
  · -- The delete is replaced by a fault.
    have disturbed := disturbed_delete_error clock fails other
    rw [drawn] at disturbed
    obtain ⟨disturbance, replacing⟩ := Option.ne_none_iff_exists'.mp disturbed
    have replaced : takesEffect (some disturbance) = false := replaces _ _ disturbance replacing
    rw [replacing, replaced] at cleared
    have same : after = state.1.bucket := congrArg Store.bucket ((congrArg Prod.fst ended).trans cleared)
    exact ⟨fun ⟨_, _, undisturbed, _⟩ => absurd undisturbed disturbed, fun _ => same⟩
  · obtain ⟨losing, keeping⟩ := move_error_bucket clock replaces distinct succeeds fails
    have same := congrArg (·.1.bucket) ended
    exact ⟨fun isLost => same.trans (losing isLost), fun kept => same.trans (keeping kept)⟩

/-- A move to another path that fails leaves every object but that of its target as it was, and that one too unless the
move loses it: then nothing is stored at the target. -/
theorem failed_movePath_keeps_objects (workspace : Workspace (Store × τ)) (distinct : source ≠ target)
    {failure : Failure}
    (failed : (Workspace.run (disturb schedule (Store.answer clock)) (driver.movePath source target)
      workspace).1 = .error failure) :
    let sourceKey := driver.root.keyFor source
    let targetKey := driver.root.keyFor target
    let before := workspace.store.1.bucket
    let after := (Workspace.run (disturb schedule (Store.answer clock)) (driver.movePath source target)
      workspace).2.store.1.bucket
    let described := schedule (.stat sourceKey) workspace.store.2
    let cleared := schedule (.delete targetKey) described.2
    let moved := schedule (.move sourceKey targetKey) cleared.2
    let isLost := (before.find? sourceKey).isSome ∧ described.1 = .none ∧ cleared.1 = .none ∧ moved.1 ≠ .none
    (∀ other, other ≠ targetKey → after.find? other = before.find? other) ∧
      (¬isLost → after.find? targetKey = before.find? targetKey) ∧ (isLost → after.find? targetKey = none) := by
  intro sourceKey targetKey before after described cleared moved isLost
  have keysDiffer : sourceKey ≠ targetKey := fun same =>
    distinct ((driver.root.keyFor_inj sourceValid targetValid).mp same)
  obtain ⟨outcome, stored⟩ :=
    Workspace.run_alone (disturb schedule (Store.answer clock)) (driver.movePath source target) workspace
  rw [outcome] at failed
  obtain ⟨losing, keeping⟩ := failed_movePath_bucket clock replaces workspace.hasDirectory driver sourceValid
    targetValid keysDiffer workspace.store failed
  rw [← stored] at losing keeping
  refine ⟨fun other different => ?_, fun kept => ?_, fun lost => ?_⟩
  · by_cases lost : isLost
    · rw [show after = _ from losing lost, Bucket.find?_erase, if_neg different.symm]
    · rw [show after = _ from keeping lost]
  · rw [show after = _ from keeping kept]
  · rw [show after = _ from losing lost, Bucket.find?_erase, if_pos rfl]

end Faults

section Sample

/-- A move of the sample object onto its sibling whose next call of the given operation is replaced by a fault. -/
def sampleMove (operation : Operation) : Except Failure Unit × Workspace (Store × Fault.PlanOf Disturbance.InPlace) :=
  let fault : Fault := { operation, disturbance := { error := ⟨599, .text "timeout", none⟩ } }
  Workspace.run (disturb (Fault.drawOf Disturbance.InPlace) (Store.answer ⟨.ofInt 1700000000⟩))
    (movePath ⟨.ofDirectory "/reg/", 10, 60, .standard⟩ "/a" "/a-x")
    { store := ({ bucket := .sample }, ⟨[fault], by simp [Disturbance.InPlace, fault]⟩) }

/-- A move whose delete is replaced by a fault keeps the object of its target. -/
theorem movePath_keeps_target_after_fault :
    (∃ failure, (sampleMove .delete).1 = .error failure) ∧
      (sampleMove .delete).2.store.1.bucket.find? "reg/a" = some ⟨[1, 2, 3], 0⟩ ∧
      (sampleMove .delete).2.store.1.bucket.find? "reg/a-x" = some ⟨[4], 0⟩ := by
  have sourceKey : (Root.ofDirectory "/reg/").keyFor "/a" = "reg/a" := by decide
  have targetKey : (Root.ofDirectory "/reg/").keyFor "/a-x" = "reg/a-x" := by decide
  have source : Bucket.sample.find? "reg/a" = some ⟨[1, 2, 3], 0⟩ := by decide
  have target : Bucket.sample.find? "reg/a-x" = some ⟨[4], 0⟩ := by decide
  have failed : (sampleMove .delete).1 = .error (.service ⟨599, .text "timeout", none⟩) := rfl
  have kept := failed_movePath_keeps_objects ⟨.ofInt 1700000000⟩ Disturbance.drawOf_replaces
    ⟨.ofDirectory "/reg/", 10, 60, .standard⟩ (by decide) (by decide) _ (by decide) failed
  rw [sourceKey, targetKey] at kept
  obtain ⟨others, kept, -⟩ := kept
  refine ⟨⟨_, failed⟩, (others "reg/a" (by decide)).trans source, (kept ?_).trans target⟩
  rintro ⟨-, -, undisturbed, -⟩
  cases undisturbed

/-- A move whose last call is replaced by a fault fails and loses the object of its target. -/
theorem movePath_loses_target_after_fault :
    Path.isValid "/a" = true ∧ Path.isValid "/a-x" = true ∧ "/a" ≠ "/a-x" ∧
      Replaces (Fault.drawOf Disturbance.InPlace) ∧
      (∃ failure, (sampleMove .move).1 = .error failure) ∧ Bucket.sample.find? "reg/a-x" = some ⟨[4], 0⟩ ∧
      (sampleMove .move).2.store.1.bucket.find? "reg/a-x" = none := by
  refine ⟨by decide, by decide, by decide, Disturbance.drawOf_replaces, ⟨?_, ?_⟩, by decide, ?_⟩
  · exact .service ⟨599, .text "timeout", none⟩
  · rfl
  · rfl

end Sample

end PathStore.Driver

/-
This file shows that drivers on one store do not see each other where their roots lie apart. Whatever calls of another
driver come between its own, a driver gives what it gives alone and leaves the same objects below its root.
-/
import PathStore.Proofs.Driver.Footprint
import PathStore.Proofs.Driver.Workers

namespace PathStore

section Apart

/-- A text that begins with two stems, each with a slash behind it, has one of the stems at or below the other. -/
theorem Root.startsWith_slash_cases {text first second : String} (begins : startsWith text (first ++ "/") = true)
    (alsoBegins : startsWith text (second ++ "/") = true) :
    first = second ∨ startsWith first (second ++ "/") = true ∨ startsWith second (first ++ "/") = true := by
  simp only [startsWith, List.isPrefixOf_iff_prefix, String.toList_append] at *
  have slash : "/".toList = ['/'] := rfl
  rw [slash] at *
  rcases List.prefix_or_prefix_of_prefix begins alsoBegins with below | below
  · rcases List.prefix_concat_iff.mp below with same | below
    · exact .inl (String.ext (List.append_cancel_right same))
    · exact .inr (.inr below)
  · rcases List.prefix_concat_iff.mp below with same | below
    · exact .inl (String.ext (List.append_cancel_right same).symm)
    · exact .inr (.inl below)

/-- Two roots with keys of their own, neither of which is the other or lies below it. -/
structure Root.Apart (first second : Root) : Prop where
  filled : first.baseKey ≠ ""
  otherFilled : second.baseKey ≠ ""
  different : first.baseKey ≠ second.baseKey
  notBelow : Root.startsWith first.baseKey (second.baseKey ++ "/") = false
  notAbove : Root.startsWith second.baseKey (first.baseKey ++ "/") = false

/-- No key is owned by two roots that lie apart. -/
theorem Root.Apart.owns_eq_false {first second : Root} (apart : first.Apart second) {key : String}
    (owned : first.owns key = true) : second.owns key = false := by
  have notBelow : ¬startsWith first.baseKey (second.baseKey ++ "/") = true := by simp [apart.notBelow]
  have notAbove : ¬startsWith second.baseKey (first.baseKey ++ "/") = true := by simp [apart.notAbove]
  rw [Bool.eq_false_iff]
  intro alsoOwned
  have ofOther := (isWithin_iff apart.otherFilled key).mp alsoOwned
  rcases (isWithin_iff apart.filled key).mp owned with rfl | below
  · rcases ofOther with same | below
    · exact apart.different same
    · exact notBelow below
  · rcases ofOther with rfl | alsoBelow
    · exact notAbove below
    · rcases startsWith_slash_cases below alsoBelow with same | lower | upper
      · exact apart.different same
      · exact notBelow lower
      · exact notAbove upper

end Apart

/-- Whether an action touches only keys of a region. -/
def Action.Within (region : String → Bool) : Action → Prop
  | .store call => call.Within region
  | _ => True

theorem Root.Confines.within {root : Root} {action : Action} (confined : root.Confines action) :
    action.Within root.owns := by
  cases action with
  | store call => exact confined.1
  | _ => trivial

namespace Store

/-- Two stores that hold the same in a region and have no failure planned. -/
structure AgreeOn (region : String → Bool) (first second : Store) : Prop where
  calm : first.composeError = none
  alsoCalm : second.composeError = none
  bucket : Bucket.AgreeOn region first.bucket second.bucket

variable (clock : Clock) (hasDirectory : Bool) {region : String → Bool} {action : Action}

/-- An action within the region gets the same reply, and the stores still agree after it. -/
theorem AgreeOn.reply {first second : Store} (agree : AgreeOn region first second) (within : action.Within region) :
    (Workspace.reply (answer clock) hasDirectory action first).1 =
        (Workspace.reply (answer clock) hasDirectory action second).1 ∧
      AgreeOn region (Workspace.reply (answer clock) hasDirectory action first).2
        (Workspace.reply (answer clock) hasDirectory action second).2 := by
  cases action with
  | store call =>
      obtain ⟨same, agreeAfter⟩ := agree.bucket.answer clock within
      show (first.answer clock call).1 = (second.answer clock call).1 ∧
        AgreeOn region (first.answer clock call).2 (second.answer clock call).2
      rw [answer_of_calm clock agree.calm, answer_of_calm clock agree.alsoCalm]
      exact ⟨same, agree.calm, agree.alsoCalm, agreeAfter⟩
  | _ => exact ⟨rfl, agree⟩

/-- An action within another region does not change how a store agrees with one that it leaves alone. -/
theorem AgreeOn.reply_outside {first second : Store} (agree : AgreeOn region first second) {other : String → Bool}
    (apart : ∀ key, region key = true → other key = false) (within : action.Within other) :
    AgreeOn region (Workspace.reply (answer clock) hasDirectory action first).2 second := by
  cases action with
  | store call =>
      show AgreeOn region (first.answer clock call).2 second
      rw [answer_of_calm clock agree.calm]
      refine ⟨agree.calm, agree.alsoCalm, fun key inside => ?_⟩
      rw [first.bucket.find?_answer_of_outside clock within (apart key inside), agree.bucket key inside]
  | _ => exact agree

end Store

namespace Driver

theorem performs_task (driver : Driver) (task : Task) : (task.program driver).Performs driver.root.Confines := by
  cases task with
  | putContent path content => exact Program.performs_bind (driver.performs_putContent path content) fun _ => trivial
  | writeStream path offset reader =>
      exact Program.performs_bind (driver.performs_writeStream path offset reader) fun _ => trivial
  | getContent path => exact Program.performs_bind (driver.performs_getContent path) fun _ => trivial
  | readStream path offset => exact Program.performs_bind (driver.performs_readStream path offset) fun _ => trivial
  | stat path => exact Program.performs_bind (driver.performs_statPath path) fun _ => trivial
  | list path pages => exact Program.performs_bind (driver.performs_listPath path pages) fun _ => trivial
  | move source target => exact Program.performs_bind (driver.performs_movePath source target) fun _ => trivial
  | delete path pages => exact Program.performs_bind (driver.performs_deletePath path pages) fun _ => trivial

namespace Worker

/-- Whether all that a worker has still to do is confined to what a root owns. -/
def Confined (root : Root) (worker : Worker) : Prop := ∀ program ∈ worker.pending, program.Performs root.Confines

theorem confined_ofTasks (hasDirectory : Bool) (driver : Driver) (tasks : List Task) :
    (ofTasks hasDirectory driver tasks).Confined driver.root := by
  intro program member
  obtain ⟨task, -, rfl⟩ := List.mem_map.mp member
  exact driver.performs_task task

section Turn

variable {root : Root} (clock : Clock) {worker : Worker} (confined : worker.Confined root)
include confined

theorem Confined.turn (store : Store) : (worker.turn clock store).1.Confined root := by
  obtain ⟨hasDirectory, outcomes, pending⟩ := worker
  match pending with
  | [] => exact confined
  | .done outcome :: later => exact (List.forall_mem_cons.mp confined).2
  | .act action next :: later =>
      obtain ⟨present, others⟩ := List.forall_mem_cons.mp confined
      exact List.forall_mem_cons.mpr ⟨present.2 _, others⟩

/-- On stores that agree on what the root owns a turn is the same, and the stores still agree after it. -/
theorem Confined.turn_agree {first second : Store} (agree : first.AgreeOn root.owns second) :
    (worker.turn clock first).1 = (worker.turn clock second).1 ∧
      (worker.turn clock first).2.AgreeOn root.owns (worker.turn clock second).2 := by
  obtain ⟨hasDirectory, outcomes, pending⟩ := worker
  match pending with
  | [] => exact ⟨rfl, agree⟩
  | .done outcome :: later => exact ⟨rfl, agree⟩
  | .act action next :: later =>
      have permitted := (List.forall_mem_cons.mp confined).1.1
      obtain ⟨same, agreeAfter⟩ := agree.reply clock hasDirectory permitted.within
      exact ⟨congrArg (fun reply => Worker.mk hasDirectory outcomes (next reply :: later)) same, agreeAfter⟩

/-- A turn changes nothing that another root owns. -/
theorem Confined.turn_outside {region : String → Bool} {first second : Store} (agree : first.AgreeOn region second)
    (apart : ∀ key, region key = true → root.owns key = false) :
    (worker.turn clock first).2.AgreeOn region second := by
  obtain ⟨hasDirectory, outcomes, pending⟩ := worker
  match pending with
  | [] => exact agree
  | .done outcome :: later => exact agree
  | .act action next :: later =>
      have permitted := (List.forall_mem_cons.mp confined).1.1
      exact agree.reply_outside clock hasDirectory apart permitted.within

end Turn
end Worker

namespace Shared

/-- What a worker sees alike in a run of two and in one of its own. -/
structure Alike (root otherRoot : Root) (together alone : Shared) : Prop where
  own : together.own = alone.own
  confined : together.own.Confined root
  otherConfined : together.other.Confined otherRoot
  store : together.store.AgreeOn root.owns alone.store

variable {root otherRoot : Root} {together alone : Shared} (alike : Alike root otherRoot together alone)
include alike

/-- A turn of the own worker is the same in both runs. -/
theorem Alike.take_own (clock : Clock) :
    Alike root otherRoot (together.take ⟨true, clock⟩) (alone.take ⟨true, clock⟩) := by
  obtain ⟨same, agree⟩ := alike.confined.turn_agree clock alike.store
  refine ⟨?_, alike.confined.turn clock together.store, alike.otherConfined, ?_⟩
  · show (together.own.turn clock together.store).1 = (alone.own.turn clock alone.store).1
    rw [same, alike.own]
  · show (together.own.turn clock together.store).2.AgreeOn root.owns (alone.own.turn clock alone.store).2
    rw [← alike.own]
    exact agree

/-- A turn of the other worker is not seen by the own one. -/
theorem Alike.take_other (apart : root.Apart otherRoot) (clock : Clock) :
    Alike root otherRoot (together.take ⟨false, clock⟩) alone where
  own := alike.own
  confined := alike.confined
  otherConfined := alike.otherConfined.turn clock together.store
  store := alike.otherConfined.turn_outside clock alike.store fun _ => apart.owns_eq_false

/-- Turns of both leave what the own ones among them leave. -/
theorem Alike.after (apart : root.Apart otherRoot) (turns : List Turn) :
    Alike root otherRoot (together.after turns) (alone.after (turns.filter Turn.isOwn)) := by
  induction turns generalizing together alone with
  | nil => exact alike
  | cons turn later ih =>
      obtain ⟨isOwn, clock⟩ := turn
      cases isOwn with
      | true => exact ih (alike.take_own clock)
      | false => exact ih (alike.take_other apart clock)

end Shared

/-- A driver does not see another one on the same store whose root lies apart from its own. Whatever the operations of
both are, and in whatever order their calls reach the store, its own operations give what they give without those of the
other, and what is stored at its root and below it is the same. -/
theorem other_driver_is_unseen (own other : Driver) (apart : own.root.Apart other.root) (store : Store)
    (calm : store.composeError = none) (hasDirectory otherHasDirectory : Bool) (tasks otherTasks : List Task)
    (turns : List Turn) :
    let start : Shared := ⟨.ofTasks hasDirectory own tasks, .ofTasks otherHasDirectory other otherTasks, store⟩
    let together := start.after turns
    let alone := start.after (turns.filter Turn.isOwn)
    together.own = alone.own ∧
      ∀ key, Root.isWithin own.root.baseKey key = true →
        together.store.bucket.find? key = alone.store.bucket.find? key := by
  intro start together alone
  have alike : Shared.Alike own.root other.root start start :=
    ⟨rfl, Worker.confined_ofTasks hasDirectory own tasks, Worker.confined_ofTasks otherHasDirectory other otherTasks,
      calm, calm, fun _ _ => rfl⟩
  have ended := alike.after apart turns
  exact ⟨ended.own, ended.store.bucket⟩

/-- A driver stores, lists and reads below a root, while another stores and deletes below one that only begins alike. -/
def sampleShared : Shared :=
  ⟨.ofTasks true ⟨.ofDirectory "/reg/", 1, 60, .standard⟩ [.putContent "/b" [1], .list "/" 9, .getContent "/b"],
    .ofTasks true ⟨.ofDirectory "/registry/", 2, 60, .standard⟩ [.putContent "/a" [2], .delete "/a" 9],
    { bucket := .sample }⟩

/-- Two turns of the first for each one of the second. -/
def sampleTurns : List Turn := (List.range 20).map fun index : Nat => ⟨index % 3 ≠ 1, ⟨.ofInt index⟩⟩

/-- Both drivers come to their end, and the first sees nothing of the second. -/
theorem registry_is_unseen_from_reg :
    (sampleShared.after sampleTurns).own.pending.isEmpty = true ∧
      (sampleShared.after sampleTurns).other.pending.isEmpty = true ∧
      (sampleShared.after sampleTurns).own = (sampleShared.after (sampleTurns.filter Turn.isOwn)).own ∧
      (sampleShared.after sampleTurns).store.bucket.find? "reg/b" =
        (sampleShared.after (sampleTurns.filter Turn.isOwn)).store.bucket.find? "reg/b" := by
  have apart : (Root.ofDirectory "/reg/").Apart (.ofDirectory "/registry/") :=
    ⟨by decide, by decide, by decide, by decide, by decide⟩
  obtain ⟨same, kept⟩ := other_driver_is_unseen ⟨.ofDirectory "/reg/", 1, 60, .standard⟩
    ⟨.ofDirectory "/registry/", 2, 60, .standard⟩ apart
    { bucket := .sample } rfl true true [.putContent "/b" [1], .list "/" 9, .getContent "/b"]
    [.putContent "/a" [2], .delete "/a" 9] sampleTurns
  exact ⟨by decide +kernel, by decide +kernel, same, kept "reg/b" (by decide)⟩

end Driver
end PathStore

/-
This file shows what two moves to one target leave when their calls interleave. Moves of two sources leave the object of
one of them at the target. Moves of one source do so too unless one deletes the target after the other has moved, for
then nothing is left at either path.
-/
import PathStore.Proofs.Driver.Moving
import PathStore.Proofs.Driver.Renaming
import PathStore.Proofs.Driver.Workers

namespace PathStore.Driver

/-- How far a move has come, by the call that it makes next. -/
inductive MoveStage where
  | describing | clearing | placing | ended
  deriving DecidableEq

section Stages

variable (driver : Driver) (source target : String)

/-- What a move has still to do once its target is deleted. -/
def placeAtTarget : Program Unit :=
  (Program.call (.move (driver.root.keyFor source) (driver.root.keyFor target)) : Program Unit).recover
    fun failure => .fail (missingPath source failure)

/-- What a move has still to do once its source is described. -/
def replaceTarget : Program Unit := do
  deleteIfPresent (driver.root.keyFor target)
  driver.placeAtTarget source target

namespace MoveStage

/-- Whether a program is what a move has still to do at a stage. -/
def IsLeft : MoveStage → Program Unit → Prop
  | .describing, program => program = driver.movePath source target
  | .clearing, program => program = driver.replaceTarget source target
  | .placing, program => program = driver.placeAtTarget source target
  | .ended, program => ∃ outcome, program = .done outcome

/-- The operation that comes next. -/
def operation? : MoveStage → Option Operation
  | .describing => some .stat
  | .clearing => some .delete
  | .placing => some .move
  | .ended => none

/-- The stage to which the next call leads, and the bucket after it. -/
def advance (sourceKey targetKey : String) : MoveStage → Bucket → MoveStage × Bucket
  | .describing, bucket => (if (bucket.find? sourceKey).isSome then .clearing else .ended, bucket)
  | .clearing, bucket => (.placing, bucket.erase targetKey)
  | .placing, bucket =>
      (.ended, match bucket.find? sourceKey with
        | none => bucket
        | some object => if (bucket.find? targetKey).isSome then bucket else bucket.rename sourceKey targetKey object)
  | .ended, bucket => (.ended, bucket)

end MoveStage

/-- The deletion of its target, missing or not, leaves a move with its last call. -/
theorem replaceTarget_eq_act :
    driver.replaceTarget source target = .act (.store (.delete (driver.root.keyFor target))) fun reply =>
      match reply with
      | .ok _ => driver.placeAtTarget source target
      | .error failure =>
          if failure.isNoSuchKey then driver.placeAtTarget source target else .done (.error failure) := by
  refine congrArg (Program.act _) (funext fun reply => ?_)
  cases reply with
  | ok done => rfl
  | error failure =>
      show Program.andThen (Program.andThen (.done (.error failure)) _) _ = _
      cases missing : failure.isNoSuchKey <;> simp only [Program.andThen, missing] <;> rfl

/-- The last call of a move ends it. -/
theorem placeAtTarget_eq_act :
    driver.placeAtTarget source target =
      .act (.store (.move (driver.root.keyFor source) (driver.root.keyFor target))) fun reply =>
        .done (reply.mapError (missingPath source)) := by
  refine congrArg (Program.act _) (funext fun reply => ?_)
  cases reply <;> rfl

variable {driver source target} (sourceValid : Path.isValid source = true) (targetValid : Path.isValid target = true)
include sourceValid targetValid

/-- A move begins with the description of its source. -/
theorem movePath_eq_act :
    driver.movePath source target = .act (.store (.stat (driver.root.keyFor source))) fun reply =>
      match reply with
      | .ok _ => driver.replaceTarget source target
      | .error failure => .done (.error (missingPath source failure)) := by
  simp only [movePath, checkPath_of_isValid sourceValid, checkPath_of_isValid targetValid, pure_bind]
  refine congrArg (Program.act _) (funext fun reply => ?_)
  cases reply <;> rfl

/-- An action of a move leads from its stage to the next one. -/
theorem MoveStage.step_left (hasDirectory : Bool) (clock : Clock) {stage : MoveStage} {program : Program Unit}
    (store : Store) (left : stage.IsLeft driver source target program) :
    let next := stage.advance (driver.root.keyFor source) (driver.root.keyFor target) store.bucket
    let stepped := program.step (Workspace.reply (Store.answer clock) hasDirectory) store
    next.1.IsLeft driver source target stepped.1 ∧ stepped.2 = { store with bucket := next.2 } := by
  cases stage with
  | describing =>
      rw [show program = _ from left, movePath_eq_act sourceValid targetValid]
      cases found : store.bucket.find? (driver.root.keyFor source) with
      | none =>
          simp only [Program.step, Workspace.reply, answer_stat_missing clock found, advance, found]
          exact ⟨⟨_, rfl⟩, trivial⟩
      | some object =>
          simp only [Program.step, Workspace.reply, answer_stat_found clock found, advance, found]
          exact ⟨rfl, trivial⟩
  | clearing =>
      rw [show program = _ from left, replaceTarget_eq_act]
      simp only [Program.step, Workspace.reply, answer_delete]
      refine ⟨?_, rfl⟩
      cases (store.bucket.find? (driver.root.keyFor target)).isSome <;> exact rfl
  | placing =>
      rw [show program = _ from left, placeAtTarget_eq_act]
      simp only [Program.step, Workspace.reply, answer_move_state, advance]
      refine ⟨⟨_, rfl⟩, ?_⟩
      cases store.bucket.find? (driver.root.keyFor source) with
      | none => rfl
      | some object => cases (store.bucket.find? (driver.root.keyFor target)).isSome <;> rfl
  | ended =>
      obtain ⟨outcome, rfl⟩ := left
      exact ⟨⟨outcome, rfl⟩, rfl⟩

variable (driver) in
/-- The stages of a move. -/
def moveStages (hasDirectory : Bool) : Stages MoveStage Unit hasDirectory where
  IsLeft := MoveStage.IsLeft driver source target
  operation? := MoveStage.operation?
  advance _ stage store :=
    let next := stage.advance (driver.root.keyFor source) (driver.root.keyFor target) store.bucket
    (next.1, { store with bucket := next.2 })
  operation_eq {stage program} left := by
    cases stage with
    | describing =>
        rw [show program = _ from left, movePath_eq_act sourceValid targetValid]
        rfl
    | clearing =>
        rw [show program = _ from left, replaceTarget_eq_act]
        rfl
    | placing =>
        rw [show program = _ from left, placeAtTarget_eq_act]
        rfl
    | ended =>
        obtain ⟨outcome, rfl⟩ := left
        rfl
  step_left clock {_ _} store left := MoveStage.step_left sourceValid targetValid hasDirectory clock store left

end Stages

namespace MoveStage

/-- Whether a move has deleted its target. -/
def HasCleared (stage : MoveStage) : Prop := stage = .placing ∨ stage = .ended

variable {targetKey : String}

/-- What holds while moves of two sources to one target are under way. A source stays until its move has ended, the
target then holds what one of the moves put there, and it holds something once both have ended. -/
structure Rival (firstKey secondKey targetKey : String) (first second : StoredObject) (stage otherStage : MoveStage)
    (bucket : Bucket) : Prop where
  waits : stage ≠ .ended → bucket.find? firstKey = some first
  otherWaits : otherStage ≠ .ended → bucket.find? secondKey = some second
  replaced : stage.HasCleared ∨ otherStage.HasCleared →
    ∀ object, bucket.find? targetKey = some object → object = first ∨ object = second
  placed : stage = .ended → otherStage = .ended → (bucket.find? targetKey).isSome

section Rival

variable {firstKey secondKey : String} {first second : StoredObject} {stage otherStage : MoveStage} {bucket : Bucket}
  (rival : Rival firstKey secondKey targetKey first second stage otherStage bucket)
include rival

theorem Rival.swap : Rival secondKey firstKey targetKey second first otherStage stage bucket where
  waits := rival.otherWaits
  otherWaits := rival.waits
  replaced cleared object found := (rival.replaced cleared.symm object found).symm
  placed ended otherEnded := rival.placed otherEnded ended

/-- A step of one of the moves keeps it. -/
theorem Rival.advance (different : firstKey ≠ secondKey) (apart : firstKey ≠ targetKey)
    (otherApart : secondKey ≠ targetKey) :
    Rival firstKey secondKey targetKey first second (stage.advance firstKey targetKey bucket).1 otherStage
      (stage.advance firstKey targetKey bucket).2 := by
  obtain ⟨waits, otherWaits, replaced, placed⟩ := rival
  cases stage with
  | describing =>
      have found := waits (by decide)
      simp only [MoveStage.advance, found]
      constructor <;> grind [HasCleared]
  | clearing =>
      simp only [MoveStage.advance]
      constructor <;> grind [HasCleared, Bucket.find?_erase]
  | placing =>
      have found := waits (by decide)
      simp only [MoveStage.advance, found]
      constructor <;> grind [HasCleared, Bucket.find?_rename]
  | ended => exact ⟨waits, otherWaits, replaced, placed⟩

end Rival

/-- How far two moves of one source to one target have come together: nothing is moved yet, the object is at the target,
or it was deleted there. -/
inductive Contest (sourceKey targetKey : String) (object : StoredObject) (earlier : List Operation) :
    MoveStage → MoveStage → Bucket → Prop where
  | undecided {stage otherStage : MoveStage} {bucket : Bucket} (unmoved : .move ∉ earlier)
      (active : stage ≠ .ended) (otherActive : otherStage ≠ .ended) (found : bucket.find? sourceKey = some object)
      (cleared : stage = .placing ∨ otherStage = .placing → bucket.find? targetKey = none) :
      Contest sourceKey targetKey object earlier stage otherStage bucket
  | placed {otherStage : MoveStage} {bucket : Bucket} (moved : .move ∈ earlier)
      (inOrder : ¬Operation.move.Precedes .delete earlier)
      (gone : bucket.find? sourceKey = none) (found : bucket.find? targetKey = some object) :
      Contest sourceKey targetKey object earlier .ended otherStage bucket
  | lost {otherStage : MoveStage} {bucket : Bucket} (overtaken : Operation.move.Precedes .delete earlier)
      (cleared : otherStage.HasCleared) (gone : bucket.find? sourceKey = none)
      (alsoGone : bucket.find? targetKey = none) :
      Contest sourceKey targetKey object earlier .ended otherStage bucket
  | swap {stage otherStage : MoveStage} {bucket : Bucket}
      (contest : Contest sourceKey targetKey object earlier stage otherStage bucket) :
      Contest sourceKey targetKey object earlier otherStage stage bucket

section Contest

variable {sourceKey : String} {object : StoredObject} {earlier : List Operation} {stage otherStage : MoveStage}
  {bucket : Bucket} (apart : sourceKey ≠ targetKey)
include apart

/-- While nothing is moved, a step of one of the moves keeps it so or puts the object at the target. -/
theorem Contest.advance_undecided (unmoved : .move ∉ earlier) (active : stage ≠ .ended)
    (otherActive : otherStage ≠ .ended) (found : bucket.find? sourceKey = some object)
    (cleared : stage = .placing ∨ otherStage = .placing → bucket.find? targetKey = none) :
    Contest sourceKey targetKey object (earlier ++ stage.operation?.toList) (stage.advance sourceKey targetKey bucket).1
      otherStage (stage.advance sourceKey targetKey bucket).2 := by
  cases stage with
  | describing =>
      simp only [advance, found]
      refine .undecided ?_ (nofun : MoveStage.clearing ≠ .ended) otherActive found ?_
      · simpa [operation?] using unmoved
      · simpa using cleared
  | clearing =>
      have kept : (bucket.erase targetKey).find? sourceKey = some object := by
        rw [Bucket.find?_erase, if_neg apart.symm, found]
      have free : (bucket.erase targetKey).find? targetKey = none := by rw [Bucket.find?_erase, if_pos rfl]
      refine .undecided ?_ (nofun : MoveStage.placing ≠ .ended) otherActive kept fun _ => free
      simpa [operation?] using unmoved
  | placing =>
      have free : bucket.find? targetKey = none := cleared (.inl rfl)
      have inOrder : ¬Operation.move.Precedes .delete (earlier ++ [.move]) := by
        rw [Operation.precedes_concat_iff]
        rintro (overtaken | ⟨-, same⟩)
        · exact unmoved (overtaken.subset List.mem_cons_self)
        · cases same
      simp only [advance, found, free]
      refine .placed (List.mem_concat_self) inOrder ?_ ?_
      · simp [apart.symm]
      · simp
  | ended => exact absurd rfl active

/-- A step of either move leads on. -/
theorem Contest.advance (contest : Contest sourceKey targetKey object earlier stage otherStage bucket) :
    Contest sourceKey targetKey object (earlier ++ stage.operation?.toList) (stage.advance sourceKey targetKey bucket).1
        otherStage (stage.advance sourceKey targetKey bucket).2 ∧
      Contest sourceKey targetKey object (earlier ++ otherStage.operation?.toList) stage
        (otherStage.advance sourceKey targetKey bucket).1 (otherStage.advance sourceKey targetKey bucket).2 := by
  induction contest with
  | undecided unmoved active otherActive found cleared =>
      exact ⟨advance_undecided apart unmoved active otherActive found cleared,
        .swap (advance_undecided apart unmoved otherActive active found fun either => cleared either.symm)⟩
  | @placed otherStage bucket moved inOrder gone found =>
      refine ⟨?_, ?_⟩
      · simpa [operation?, MoveStage.advance] using Contest.placed moved inOrder gone found
      · have movedToo (last : Operation) : .move ∈ earlier ++ [last] := List.mem_append_left _ moved
        cases otherStage with
        | describing =>
            simp only [MoveStage.advance, gone]
            refine .placed (movedToo _) ?_ gone found
            simpa [operation?, Operation.precedes_concat_iff] using inOrder
        | clearing =>
            refine .lost ?_ (.inl rfl) ?_ ?_
            · exact Operation.precedes_concat_iff.mpr (.inr ⟨moved, rfl⟩)
            · simp [MoveStage.advance, apart.symm, gone]
            · simp [MoveStage.advance]
        | placing =>
            simp only [MoveStage.advance, gone]
            refine .placed (movedToo _) ?_ gone found
            simpa [operation?, Operation.precedes_concat_iff] using inOrder
        | ended => simpa [operation?, MoveStage.advance] using Contest.placed moved inOrder gone found
  | @lost otherStage bucket overtaken cleared gone alsoGone =>
      refine ⟨?_, ?_⟩
      · simpa [operation?, MoveStage.advance] using Contest.lost overtaken cleared gone alsoGone
      · rcases cleared with rfl | rfl
        · simp only [MoveStage.advance, gone]
          exact .lost (Operation.precedes_concat_iff.mpr (.inl overtaken)) (.inr rfl) gone alsoGone
        · simpa [operation?, MoveStage.advance] using Contest.lost overtaken (.inr rfl) gone alsoGone
  | swap _ ih => exact ⟨ih.2.swap, ih.1.swap⟩

omit apart

/-- Once both moves have ended the object is at the target, or it is lost because one overtook the other. -/
theorem Contest.outcome (contest : Contest sourceKey targetKey object earlier stage otherStage bucket)
    (ended : stage = .ended) (otherEnded : otherStage = .ended) :
    if Operation.move.Precedes .delete earlier then bucket.find? sourceKey = none ∧ bucket.find? targetKey = none
    else bucket.find? targetKey = some object := by
  induction contest with
  | undecided _ active => exact absurd ended active
  | placed _ inOrder _ found => rwa [if_neg inOrder]
  | lost overtaken _ gone alsoGone => rw [if_pos overtaken]; exact ⟨gone, alsoGone⟩
  | swap _ ih => exact ih otherEnded ended

end Contest

end MoveStage

section Turns

variable {driver : Driver} {source target : String} (sourceValid : Path.isValid source = true)
  (targetValid : Path.isValid target = true) (hasDirectory : Bool)

/-- A worker with one move before it has the whole of it to do. -/
theorem reached_ofTasks_move :
    (moveStages driver sourceValid targetValid hasDirectory).Reached (fun _ => .nothing) .describing
      (.ofTasks hasDirectory driver [.move source target]) := .busy rfl

variable {sourceValid targetValid hasDirectory}

/-- A worker with nothing left to do has ended its move. -/
theorem MoveStage.ended_of_reached {stage : MoveStage} {worker : Worker}
    (reached : (moveStages driver sourceValid targetValid hasDirectory).Reached (fun _ => .nothing) stage worker)
    (idle : worker.pending = []) : stage = .ended := by
  obtain ⟨outcome, left⟩ := reached.left_of_idle idle
  cases stage with
  | ended => rfl
  | describing => rw [moveStages] at left; cases (left.trans (movePath_eq_act sourceValid targetValid))
  | clearing => cases (left.trans (replaceTarget_eq_act driver source target))
  | placing => cases (left.trans (placeAtTarget_eq_act driver source target))

end Turns

/-- Two moves to one target leave the object of one of their sources there, in whatever order their calls reach the
store, unless they move one source and one of them deletes the target after the other has moved. Then nothing is left at
either path. -/
theorem contending_moves_leave_one_object (driver : Driver) (first second target : String)
    (firstValid : Path.isValid first = true) (secondValid : Path.isValid second = true)
    (targetValid : Path.isValid target = true) (apart : first ≠ target) (otherApart : second ≠ target) (store : Store)
    (object otherObject : StoredObject) (found : store.bucket.find? (driver.root.keyFor first) = some object)
    (otherFound : store.bucket.find? (driver.root.keyFor second) = some otherObject)
    (hasDirectory otherHasDirectory : Bool) (turns : List Turn) :
    let start : Shared :=
      ⟨.ofTasks hasDirectory driver [.move first target],
        .ofTasks otherHasDirectory driver [.move second target], store⟩
    let ended := start.after turns
    ended.own.pending = [] → ended.other.pending = [] →
      if first = second ∧ Operation.move.Precedes .delete ((start.calls turns).map Call.operation) then
        ended.store.bucket.find? (driver.root.keyFor first) = none ∧
          ended.store.bucket.find? (driver.root.keyFor target) = none
      else
        ended.store.bucket.find? (driver.root.keyFor target) = some object ∨
          ended.store.bucket.find? (driver.root.keyFor target) = some otherObject := by
  intro start ended idle otherIdle
  have keysApart : driver.root.keyFor first ≠ driver.root.keyFor target := fun same =>
    apart ((driver.root.keyFor_inj firstValid targetValid).mp same)
  have otherKeysApart : driver.root.keyFor second ≠ driver.root.keyFor target := fun same =>
    otherApart ((driver.root.keyFor_inj secondValid targetValid).mp same)
  have reached : (moveStages driver firstValid targetValid hasDirectory).Reached _ _ start.own :=
    reached_ofTasks_move firstValid targetValid hasDirectory
  have otherReached : (moveStages driver secondValid targetValid otherHasDirectory).Reached _ _ start.other :=
    reached_ofTasks_move secondValid targetValid otherHasDirectory
  by_cases same : first = second
  · subst same
    obtain ⟨stage, otherStage, reached, otherReached, contest⟩ :=
      Shared.after_stages (fun earlier stage otherStage store =>
        MoveStage.Contest (driver.root.keyFor first) (driver.root.keyFor target) object earlier stage otherStage
          store.bucket)
        (fun _ _ _ _ _ contest => (contest.advance keysApart).1)
        (fun _ _ _ _ _ contest => (contest.advance keysApart).2)
        reached otherReached (.undecided (List.not_mem_nil) (by decide) (by decide) found (by simp)) turns
    have outcome :=
      contest.outcome (MoveStage.ended_of_reached reached idle) (MoveStage.ended_of_reached otherReached otherIdle)
    by_cases overtaken : Operation.move.Precedes .delete ((start.calls turns).map Call.operation)
    · rw [if_pos ⟨rfl, overtaken⟩]
      rwa [if_pos overtaken] at outcome
    · rw [if_neg fun both => overtaken both.2]
      rw [if_neg overtaken] at outcome
      exact .inl outcome
  · have keysDiffer : driver.root.keyFor first ≠ driver.root.keyFor second := fun alike =>
      same ((driver.root.keyFor_inj firstValid secondValid).mp alike)
    obtain ⟨stage, otherStage, reached, otherReached, rival⟩ :=
      Shared.after_stages (fun _ stage otherStage store =>
        MoveStage.Rival (driver.root.keyFor first) (driver.root.keyFor second) (driver.root.keyFor target) object
          otherObject stage otherStage store.bucket)
        (fun _ _ _ _ _ rival => rival.advance keysDiffer keysApart otherKeysApart)
        (fun _ _ _ _ _ rival => (rival.swap.advance keysDiffer.symm otherKeysApart keysApart).swap)
        reached otherReached ⟨fun _ => found, fun _ => otherFound, by simp [MoveStage.HasCleared], by simp⟩ turns
    have ends : stage = .ended := MoveStage.ended_of_reached reached idle
    obtain ⟨left, leftAt⟩ :=
      Option.isSome_iff_exists.mp (rival.placed ends (MoveStage.ended_of_reached otherReached otherIdle))
    rw [if_neg fun both => same both.1, leftAt]
    exact (rival.replaced (.inl (.inr ends)) left leftAt).imp (congrArg some) (congrArg some)

/-- Two workers that each move the same object to the same target, as a retry does while the first attempt runs. -/
def retriedMove : Shared :=
  ⟨.ofTasks true ⟨.ofDirectory "/reg/", 1, 60, .standard⟩ [.move "/a" "/a-x"],
    .ofTasks true ⟨.ofDirectory "/reg/", 1, 60, .standard⟩ [.move "/a" "/a-x"], { bucket := .sample }⟩

/-- The retry deletes the target before the first attempt moves, and finds nothing more to move. -/
def retryInTime : List Turn := [true, false, true, false, true, false, true, false].map (⟨·, ⟨.ofInt 0⟩⟩)

/-- The retry deletes the target after the first attempt has moved. -/
def retryTooLate : List Turn := [true, false, true, true, false, false, true, false].map (⟨·, ⟨.ofInt 0⟩⟩)

/-- A retry in time leaves the object at the target. -/
theorem retry_in_time_leaves_object :
    (retriedMove.after retryInTime).own.pending = [] ∧ (retriedMove.after retryInTime).other.pending = [] ∧
      (retriedMove.after retryInTime).store.bucket.find? "reg/a-x" = some ⟨[1, 2, 3], 0⟩ := by
  have idle : (retriedMove.after retryInTime).own.pending = [] := List.isEmpty_iff.mp (by decide +kernel)
  have otherIdle : (retriedMove.after retryInTime).other.pending = [] := List.isEmpty_iff.mp (by decide +kernel)
  have inOrder : ¬Operation.move.Precedes .delete ((retriedMove.calls retryInTime).map Call.operation) := by
    decide +kernel
  have left := contending_moves_leave_one_object ⟨.ofDirectory "/reg/", 1, 60, .standard⟩ "/a" "/a" "/a-x"
    (by decide) (by decide) (by decide) (by decide) (by decide) { bucket := .sample } ⟨[1, 2, 3], 0⟩ ⟨[1, 2, 3], 0⟩
    (by decide) (by decide) true true retryInTime idle otherIdle
  rw [if_neg fun both => inOrder both.2] at left
  exact ⟨idle, otherIdle, left.elim id id⟩

/-- A retry that comes too late leaves nothing at the target. -/
theorem late_retry_loses_object :
    retriedMove.store.bucket.find? "reg/a" = some ⟨[1, 2, 3], 0⟩ ∧ (retriedMove.after retryTooLate).own.pending = [] ∧
      (retriedMove.after retryTooLate).other.pending = [] ∧
      (retriedMove.after retryTooLate).store.bucket.find? "reg/a-x" = none :=
  ⟨by decide, List.isEmpty_iff.mp (by decide +kernel), List.isEmpty_iff.mp (by decide +kernel), by decide +kernel⟩

end PathStore.Driver

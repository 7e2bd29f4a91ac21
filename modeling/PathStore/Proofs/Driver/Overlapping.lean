/-
This file shows what two writes of the same bytes at the same offset leave when their calls interleave, as where a retry
overlaps the first attempt. They leave what one write leaves, unless both look the object up before either composes it
and the bytes go behind its end. Then the gap and the bytes are there twice. A write that cannot be noted composes
nothing.
-/
import PathStore.Proofs.Driver.Workers
import PathStore.Proofs.Driver.Writing

namespace PathStore.Driver

/-- How far a write is with its scratch file. -/
inductive WritePhase where
  | opening | spilling | uploading
  deriving DecidableEq

/-- How far a write has come, and what it has seen of the object that it writes to. -/
inductive WriteStage where
  | looking
  | working (seen : Existing) (phase : WritePhase)
  | tidying
  | ended

section Stages

variable (driver : Driver) (path : String) (offset : Nat) (reader : Reader) (content : Bytes)

/-- What a write has still to do once its bytes are in the scratch file. -/
def uploadScratch (seen : Existing) : Program Nat :=
  Program.followedBy (upload driver.host seen offset content) .removeScratch

/-- What a write has still to do once its scratch file is open. -/
def fillScratch (seen : Existing) : Program Nat :=
  Program.followedBy (do
    let content ← (Program.perform (.spill reader) : Program Bytes)
    upload driver.host seen offset content) .removeScratch

namespace WriteStage

/-- Whether a program is what a write has still to do at a stage. -/
def IsLeft : WriteStage → Program Nat → Prop
  | .looking, program => program = driver.writeStream path offset reader
  | .working seen .opening, program => program = rangeWrite driver.host seen offset reader
  | .working seen .spilling, program => program = fillScratch driver offset reader seen
  | .working seen .uploading, program =>
      driver.host.Notes seen offset ∧ program = uploadScratch driver offset content seen
  | .tidying, program => ∃ outcome, program = .act .removeScratch fun _ => .done outcome
  | .ended, program => ∃ outcome, program = .done outcome

/-- The operation that comes next. -/
def operation? : WriteStage → Option Operation
  | .looking => some .stat
  | .working seen .uploading => some (if seen.isStored then .putParts else .putFile)
  | _ => none

/-- The stage to which the next action leads, and the store after it. -/
def advance (hasDirectory : Bool) (key : String) (clock : Clock) : WriteStage → Store → WriteStage × Store
  | .looking, store => (.working (existing store key) .opening, store)
  | .working seen .opening, store => (if hasDirectory then .working seen .spilling else .ended, store)
  | .working seen .spilling, store =>
      (if driver.host.Notes seen offset then .working seen .uploading else .tidying, store)
  | .working seen .uploading, store =>
      (.tidying,
        ((uploadScratch driver offset content seen).step (Workspace.reply (Store.answer clock) hasDirectory) store).2)
  | .tidying, store => (.ended, store)
  | .ended, store => (.ended, store)

end WriteStage

/-- A composition is the only call of an upload to a stored object. -/
theorem uploadScratch_stored (key : String) {size : Int} (notes : driver.host.Notes ⟨key, size, true⟩ offset)
    {composition : Composition}
    (planned : (⟨key, size, true⟩ : Existing).plan offset (.ofBytes content) content.length = .ok composition) :
    uploadScratch driver offset content ⟨key, size, true⟩ = .act (.store (.putParts key composition)) fun reply =>
      .act .removeScratch fun _ => .done (reply.map fun _ => content.length) := by
  simp only [uploadScratch, upload, Bool.not_true, Bool.false_eq_true, if_false, planned,
    checkNoted_eq key offset driver.host size, if_pos notes, pure_bind]
  refine congrArg (Program.act _) (funext fun reply => ?_)
  cases reply <;> rfl

/-- An upload is one call, which composes a stored object and stores a missing one. -/
theorem uploadScratch_eq_act {seen : Existing} (notes : driver.host.Notes seen offset) :
    ∃ call : Call, call.operation = (if seen.isStored then .putParts else .putFile) ∧
      uploadScratch driver offset content seen = .act (.store call) fun reply =>
        .act .removeScratch fun _ => .done (reply.map fun _ => content.length) := by
  obtain ⟨key, size, isStored⟩ := seen
  cases isStored with
  | false =>
      refine ⟨.putFile key content, rfl, congrArg (Program.act _) (funext fun reply => ?_)⟩
      cases reply <;> rfl
  | true =>
      have notNegative : ¬(offset : Int) < 0 := by omega
      exact ⟨_, rfl, uploadScratch_stored driver offset content key notes (if_neg notNegative)⟩

/-- An upload that cannot be noted makes no call. -/
theorem uploadScratch_of_unnoted {seen : Existing} (unnoted : ¬driver.host.Notes seen offset) :
    uploadScratch driver offset content seen =
      .act .removeScratch fun _ => .done (.error (.value .unwritable)) := by
  obtain ⟨key, size, isStored⟩ := seen
  cases isStored with
  | false => exact absurd nofun unnoted
  | true =>
      have notNegative : ¬(offset : Int) < 0 := by omega
      have planned : ∃ composition, (⟨key, size, true⟩ : Existing).plan offset (.ofBytes content) content.length =
          .ok composition := ⟨_, if_neg notNegative⟩
      obtain ⟨composition, planned⟩ := planned
      simp only [uploadScratch, upload, Bool.not_true, Bool.false_eq_true, if_false, planned,
        checkNoted_eq key offset driver.host size, if_neg unnoted]
      rfl

variable {reader content} in
/-- A reader that delivers fills the scratch file. -/
theorem fillScratch_eq_act (seen : Existing) :
    fillScratch driver offset reader seen = .act (.spill reader) fun reply =>
      match reply with
      | .ok content => uploadScratch driver offset content seen
      | .error failure => .act .removeScratch fun _ => .done (.error failure) := by
  refine congrArg (Program.act _) (funext fun reply => ?_)
  cases reply <;> rfl

theorem rangeWrite_eq_act (seen : Existing) :
    rangeWrite driver.host seen offset reader = .act .openScratch fun reply =>
      match reply with
      | .ok _ => fillScratch driver offset reader seen
      | .error failure => .done (.error failure) := by
  rw [rangeWrite, checkOffset_natCast, pure_bind]
  refine congrArg (Program.act _) (funext fun reply => ?_)
  cases reply <;> rfl

variable {path} in
/-- A write begins with the description of what is stored. -/
theorem writeStream_eq_act (valid : Path.isValid path = true) :
    driver.writeStream path offset reader = .act (.store (.stat (driver.root.keyFor path))) fun reply =>
      match reply with
      | .ok info => rangeWrite driver.host ⟨driver.root.keyFor path, info.size, true⟩ offset reader
      | .error failure =>
          if failure.isNoSuchKey then rangeWrite driver.host ⟨driver.root.keyFor path, 0, false⟩ offset reader
          else .done (.error failure) := by
  simp only [writeStream, checkPath_of_isValid valid, checkOffset_natCast, pure_bind]
  refine congrArg (Program.act _) (funext fun reply => ?_)
  cases reply with
  | ok info => rfl
  | error failure =>
      show Program.andThen (if failure.isNoSuchKey then _ else _) _ = _
      cases missing : failure.isNoSuchKey <;> simp only [missing] <;> rfl

variable {driver path offset reader content}

/-- An action of a write leads from its stage to the next one. -/
theorem WriteStage.step_left (valid : Path.isValid path = true) (delivers : reader.Delivers content)
    (hasDirectory : Bool) (clock : Clock) {stage : WriteStage} {program : Program Nat} (store : Store)
    (left : stage.IsLeft driver path offset reader content program) :
    let next := stage.advance driver offset content hasDirectory (driver.root.keyFor path) clock store
    let stepped := program.step (Workspace.reply (Store.answer clock) hasDirectory) store
    next.1.IsLeft driver path offset reader content stepped.1 ∧ stepped.2 = next.2 := by
  cases stage with
  | looking =>
      rw [show program = _ from left, writeStream_eq_act driver offset reader valid]
      simp only [Program.step, Workspace.reply, advance, existing]
      cases found : store.bucket.find? (driver.root.keyFor path) with
      | none => rw [answer_stat_missing clock found]; exact ⟨rfl, rfl⟩
      | some object => rw [answer_stat_found clock found]; exact ⟨rfl, rfl⟩
  | working seen phase =>
      cases phase with
      | opening =>
          rw [show program = _ from left, rangeWrite_eq_act]
          cases hasDirectory with
          | true => exact ⟨rfl, rfl⟩
          | false => exact ⟨⟨_, rfl⟩, rfl⟩
      | spilling =>
          rw [show program = _ from left, fillScratch_eq_act]
          simp only [Program.step, Workspace.reply, Reader.drain_of_delivers delivers, advance, and_true]
          by_cases notes : driver.host.Notes seen offset
          · rw [if_pos notes]
            exact ⟨notes, rfl⟩
          · rw [if_neg notes, uploadScratch_of_unnoted driver offset content notes]
            exact ⟨_, rfl⟩
      | uploading =>
          obtain ⟨notes, rfl⟩ := left
          obtain ⟨call, -, uploads⟩ := uploadScratch_eq_act driver offset content notes
          rw [advance, uploads]
          exact ⟨⟨_, rfl⟩, rfl⟩
  | tidying =>
      obtain ⟨outcome, rfl⟩ := left
      exact ⟨⟨outcome, rfl⟩, rfl⟩
  | ended =>
      obtain ⟨outcome, rfl⟩ := left
      exact ⟨⟨outcome, rfl⟩, rfl⟩

/-- A program that is left at a stage makes the call of the stage next. -/
theorem WriteStage.operation_eq (valid : Path.isValid path = true) {stage : WriteStage} {program : Program Nat}
    (left : stage.IsLeft driver path offset reader content program) :
    program.call?.map Call.operation = stage.operation? := by
  cases stage with
  | looking =>
      rw [show program = _ from left, writeStream_eq_act driver offset reader valid]
      rfl
  | working seen phase =>
      cases phase with
      | opening =>
          rw [show program = _ from left, rangeWrite_eq_act]
          rfl
      | spilling =>
          rw [show program = _ from left, fillScratch_eq_act]
          rfl
      | uploading =>
          obtain ⟨notes, rfl⟩ := left
          obtain ⟨call, operation, uploads⟩ := uploadScratch_eq_act driver offset content notes
          rw [uploads, operation?, ← operation]
          rfl
  | tidying =>
      obtain ⟨outcome, rfl⟩ := left
      rfl
  | ended =>
      obtain ⟨outcome, rfl⟩ := left
      rfl

variable (driver offset) in
/-- The stages of a write of what a reader delivers. -/
def writeStages (valid : Path.isValid path = true) (delivers : reader.Delivers content) (hasDirectory : Bool) :
    Stages WriteStage Nat hasDirectory where
  IsLeft := WriteStage.IsLeft driver path offset reader content
  operation? := WriteStage.operation?
  advance := WriteStage.advance driver offset content hasDirectory (driver.root.keyFor path)
  operation_eq left := WriteStage.operation_eq valid left
  step_left clock {_ _} store left := WriteStage.step_left valid delivers hasDirectory clock store left

end Stages

/-- Whether a bucket is another one but for the given content of a key. -/
structure ChangedTo (start : Bucket) (key : String) (content : Bytes) (bucket : Bucket) : Prop where
  current : ∃ object, bucket.find? key = some object ∧ object.content = content
  others : ∀ other, other ≠ key → bucket.find? other = start.find? other

section ChangedTo

variable {start : Bucket} {key : String} {held : Bytes} {bucket : Bucket} (changed : ChangedTo start key held bucket)
include changed

theorem ChangedTo.existing_eq (composeError : Option ServiceError) :
    existing ⟨bucket, composeError⟩ key = ⟨key, held.length, true⟩ := by
  obtain ⟨object, found, rfl⟩ := changed.current
  rw [existing, found]

theorem ChangedTo.put (clock : Clock) (content : Bytes) :
    ChangedTo start key content (bucket.put clock key content) where
  current := ⟨⟨content, clock.putTime⟩, by rw [Bucket.put, Bucket.find?_insert, if_pos rfl], rfl⟩
  others other different := by
    rw [Bucket.put, Bucket.find?_insert, if_neg different.symm, changed.others other different]

variable (driver : Driver) (offset size : Nat) (content : Bytes) (hasDirectory : Bool) (clock : Clock)
  (written : driver.host.writes offset = true)
include written

/-- What an upload composes of the held bytes is the plan for the size that was seen. -/
theorem ChangedTo.upload_composes :
    ∃ composition,
      uploadScratch driver offset content ⟨key, size, true⟩ = (.act (.store (.putParts key composition)) fun reply =>
        .act .removeScratch fun _ => .done (reply.map fun _ => content.length)) ∧
      composition.evaluate (fun name => (bucket.find? name).map StoredObject.content) =
        .ok (Bytes.spliceFor size held offset content) := by
  obtain ⟨object, found, rfl⟩ := changed.current
  have stored : (Store.mk bucket none).bucket.find? key = some object := found
  obtain ⟨composition, planned, evaluated⟩ := plan_composes key offset content stored size
  exact ⟨composition, uploadScratch_stored driver offset content key (fun _ => written) planned, evaluated⟩

/-- The composition of an upload replaces the object. -/
theorem ChangedTo.advance_calm :
    ((WriteStage.working ⟨key, size, true⟩ .uploading).advance driver offset content hasDirectory key clock
        ⟨bucket, none⟩).2 =
      ⟨bucket.put clock key (Bytes.spliceFor size held offset content), none⟩ := by
  obtain ⟨composition, uploads, evaluated⟩ := changed.upload_composes driver offset size content written
  rw [WriteStage.advance, uploads]
  have calm : (Store.mk bucket none).composeError = none := rfl
  simp only [Program.step, Workspace.reply, Store.answer_of_calm clock calm, Bucket.answer, evaluated]

/-- A planned failure takes the place of the composition. -/
theorem ChangedTo.advance_failing (error : ServiceError) :
    ((WriteStage.working ⟨key, size, true⟩ .uploading).advance driver offset content hasDirectory key clock
      ⟨bucket, some error⟩).2 = ⟨bucket, none⟩ := by
  obtain ⟨composition, uploads, -⟩ := changed.upload_composes driver offset size content written
  rw [WriteStage.advance, uploads]
  rfl

end ChangedTo

/-- What two writes leave of the held bytes. If both saw them, no composition fails, and the bytes go behind them, then
the gap and the bytes are there twice. -/
def leftByTwo (held : Bytes) (offset : Nat) (content : Bytes) (planned : Option ServiceError)
    (operations : List Operation) : Bytes :=
  held.splice offset content ++
    if planned.isNone ∧ ¬Operation.putParts.Precedes .stat operations ∧ 0 < offset ∧ held.length ≤ offset then
      Bytes.zeros (offset - held.length) ++ content
    else []

section Left

variable (held : Bytes) (offset : Nat) (content : Bytes) (planned : Option ServiceError) (earlier : List Operation)

/-- A write that looks after the other has composed adds nothing. -/
theorem leftByTwo_of_precedes (composed : .putParts ∈ earlier) :
    leftByTwo held offset content planned (earlier ++ [.stat]) = held.splice offset content := by
  have sees : Operation.putParts.Precedes .stat (earlier ++ [.stat]) :=
    Operation.precedes_concat_iff.mpr (.inr ⟨composed, rfl⟩)
  rw [leftByTwo, if_neg fun both => both.2.1 sees, List.append_nil]

/-- A composition does not change who has looked before. -/
theorem leftByTwo_concat :
    leftByTwo held offset content planned (earlier ++ [.putParts]) = leftByTwo held offset content planned earlier := by
  have same :
      Operation.putParts.Precedes .stat (earlier ++ [.putParts]) ↔ Operation.putParts.Precedes .stat earlier := by
    simp [Operation.precedes_concat_iff]
  simp only [leftByTwo, same]

/-- What a write leaves that saw the held bytes before the other one composed, or before its composition failed. -/
theorem leftByTwo_of_unseen (unseen : .putParts ∉ earlier) :
    leftByTwo held offset content planned (earlier ++ [.putParts]) =
      match planned with
      | none => Bytes.spliceFor held.length (held.splice offset content) offset content
      | some _ => held.splice offset content := by
  have notSeen : ¬Operation.putParts.Precedes .stat earlier := fun sees => unseen (sees.subset List.mem_cons_self)
  rw [leftByTwo_concat, leftByTwo]
  cases planned with
  | none => simp [notSeen, Bytes.spliceFor_splice]
  | some error => simp

end Left

namespace WriteStage

/-- Whether a write has still to compose the object, which it saw with the given size if it has looked at all. -/
def IsDue (key : String) (size : Nat) (stage : WriteStage) : Prop :=
  stage = .looking ∨ ∃ phase, stage = .working ⟨key, size, true⟩ phase

/-- Whether a write has made its last call. -/
def HasUploaded (stage : WriteStage) : Prop := stage = .tidying ∨ stage = .ended

/-- How far two writes have come together: none has composed the object yet, one has and the other is still to look, one
has and the other is still to compose, or both have. -/
inductive Overlap (start : Bucket) (key : String) (held : Bytes) (offset : Nat) (content : Bytes)
    (planned : Option ServiceError) (earlier : List Operation) : WriteStage → WriteStage → Store → Prop where
  | untouched {stage otherStage : WriteStage} {bucket : Bucket} (unseen : .putParts ∉ earlier)
      (due : stage.IsDue key held.length) (otherDue : otherStage.IsDue key held.length)
      (current : ChangedTo start key held bucket) :
      Overlap start key held offset content planned earlier stage otherStage ⟨bucket, planned⟩
  | unlooked {stage : WriteStage} {bucket : Bucket} {now : Bytes} (composed : .putParts ∈ earlier)
      (uploaded : stage.HasUploaded) (current : ChangedTo start key now bucket)
      (leads : now.splice offset content = held.splice offset content) :
      Overlap start key held offset content planned earlier stage .looking ⟨bucket, none⟩
  | halfway {stage : WriteStage} {size : Nat} {phase : WritePhase} {bucket : Bucket} {now : Bytes}
      (uploaded : stage.HasUploaded) (current : ChangedTo start key now bucket)
      (leads : Bytes.spliceFor size now offset content = leftByTwo held offset content planned earlier) :
      Overlap start key held offset content planned earlier stage (.working ⟨key, size, true⟩ phase)
        ⟨bucket, none⟩
  | settled {stage otherStage : WriteStage} {bucket : Bucket} (uploaded : stage.HasUploaded)
      (alsoUploaded : otherStage.HasUploaded)
      (current : ChangedTo start key (leftByTwo held offset content planned earlier) bucket) :
      Overlap start key held offset content planned earlier stage otherStage ⟨bucket, none⟩
  | swap {stage otherStage : WriteStage} {store : Store}
      (overlap : Overlap start key held offset content planned earlier stage otherStage store) :
      Overlap start key held offset content planned earlier otherStage stage store

section Overlap

variable {driver : Driver} {start : Bucket} {key : String} {held : Bytes} {offset : Nat} {content : Bytes}
  {planned : Option ServiceError} {earlier : List Operation} {stage otherStage : WriteStage} {store : Store}
  (clock : Clock)

/-- A write that has made its last call changes nothing more. -/
theorem HasUploaded.advance (uploaded : stage.HasUploaded) (driver : Driver) (key : String) (offset : Nat)
    (content : Bytes) (hasDirectory : Bool) (store : Store) :
    stage.operation? = none ∧ (stage.advance driver offset content hasDirectory key clock store).2 = store ∧
      (stage.advance driver offset content hasDirectory key clock store).1.HasUploaded := by
  rcases uploaded with rfl | rfl
  · exact ⟨rfl, rfl, .inr rfl⟩
  · exact ⟨rfl, rfl, .inr rfl⟩

/-- While none has composed the object, a step of one of the writes keeps it so or composes the object. -/
theorem Overlap.advance_untouched (written : driver.host.writes offset = true) {bucket : Bucket}
    (unseen : .putParts ∉ earlier) (due : stage.IsDue key held.length) (otherDue : otherStage.IsDue key held.length)
    (current : ChangedTo start key held bucket) :
    Overlap start key held offset content planned (earlier ++ stage.operation?.toList)
      (stage.advance driver offset content true key clock ⟨bucket, planned⟩).1 otherStage
      (stage.advance driver offset content true key clock ⟨bucket, planned⟩).2 := by
  rcases due with rfl | ⟨phase, rfl⟩
  · simp only [WriteStage.advance, current.existing_eq]
    exact .untouched (by simpa [operation?] using unseen) (.inr ⟨_, rfl⟩) otherDue current
  · cases phase with
    | opening => exact .untouched (by simpa [operation?] using unseen) (.inr ⟨_, rfl⟩) otherDue current
    | spilling =>
        have notes : driver.host.Notes ⟨key, held.length, true⟩ offset := fun _ => written
        simp only [WriteStage.advance, if_pos notes]
        exact .untouched (by simpa [operation?] using unseen) (.inr ⟨_, rfl⟩) otherDue current
    | uploading =>
        have composed : .putParts ∈ earlier ++ [.putParts] := List.mem_concat_self
        have left := leftByTwo_of_unseen held offset content planned earlier unseen
        cases planned with
        | none =>
            have replaced := current.put clock (Bytes.spliceFor held.length held offset content)
            rw [current.advance_calm _ _ _ _ _ _ written, Bytes.spliceFor_length]
            rw [Bytes.spliceFor_length] at replaced
            rcases otherDue with rfl | ⟨otherPhase, rfl⟩
            · exact .unlooked composed (.inl rfl) replaced (Bytes.splice_splice held offset content)
            · exact .halfway (.inl rfl) replaced left.symm
        | some error =>
            rw [current.advance_failing _ _ _ _ _ _ written]
            rcases otherDue with rfl | ⟨otherPhase, rfl⟩
            · exact .unlooked composed (.inl rfl) current rfl
            · exact .halfway (.inl rfl) current ((Bytes.spliceFor_length held offset content).trans left.symm)

/-- A step of either write leads on, if the writes can be noted. -/
theorem Overlap.advance (written : driver.host.writes offset = true)
    (overlap : Overlap start key held offset content planned earlier stage otherStage store) :
    Overlap start key held offset content planned (earlier ++ stage.operation?.toList)
        (stage.advance driver offset content true key clock store).1 otherStage
        (stage.advance driver offset content true key clock store).2 ∧
      Overlap start key held offset content planned (earlier ++ otherStage.operation?.toList) stage
        (otherStage.advance driver offset content true key clock store).1
        (otherStage.advance driver offset content true key clock store).2 := by
  induction overlap with
  | untouched unseen due otherDue current =>
      exact ⟨advance_untouched clock written unseen due otherDue current,
        .swap (advance_untouched clock written unseen otherDue due current)⟩
  | unlooked composed uploaded current leads =>
      obtain ⟨silent, same, after⟩ := uploaded.advance clock driver key offset content true ⟨_, none⟩
      refine ⟨?_, ?_⟩
      · rw [silent, same, Option.toList_none, List.append_nil]
        exact .unlooked composed after current leads
      · simp only [WriteStage.advance, current.existing_eq]
        refine .halfway uploaded current ?_
        exact (Bytes.spliceFor_length _ offset content).trans
          (leads.trans (leftByTwo_of_precedes held offset content planned earlier composed).symm)
  | @halfway stage size phase bucket now uploaded current leads =>
      obtain ⟨silent, same, after⟩ := uploaded.advance clock driver key offset content true ⟨_, none⟩
      refine ⟨?_, ?_⟩
      · rw [silent, same, Option.toList_none, List.append_nil]
        exact .halfway after current leads
      · cases phase with
        | opening => simpa [operation?, WriteStage.advance] using Overlap.halfway uploaded current leads
        | spilling =>
            have notes : driver.host.Notes ⟨key, size, true⟩ offset := fun _ => written
            simpa [operation?, WriteStage.advance, notes] using Overlap.halfway uploaded current leads
        | uploading =>
            rw [current.advance_calm _ _ _ _ _ _ written]
            refine .settled uploaded (.inl rfl) ?_
            show ChangedTo start key (leftByTwo held offset content planned (earlier ++ [.putParts])) _
            rw [leftByTwo_concat, ← leads]
            exact current.put clock _
  | settled uploaded alsoUploaded current =>
      obtain ⟨silent, same, after⟩ := uploaded.advance clock driver key offset content true ⟨_, none⟩
      obtain ⟨alsoSilent, alsoSame, alsoAfter⟩ :=
        alsoUploaded.advance clock driver key offset content true ⟨_, none⟩
      refine ⟨?_, ?_⟩
      · rw [silent, same, Option.toList_none, List.append_nil]
        exact .settled after alsoUploaded current
      · rw [alsoSilent, alsoSame, Option.toList_none, List.append_nil]
        exact .settled uploaded alsoAfter current
  | swap _ ih => exact ⟨ih.2.swap, ih.1.swap⟩

/-- Once both writes have ended the object is what they leave. -/
theorem Overlap.outcome
    (overlap : Overlap start key held offset content planned earlier stage otherStage store)
    (ended : stage = .ended) (otherEnded : otherStage = .ended) :
    ChangedTo start key (leftByTwo held offset content planned earlier) store.bucket := by
  induction overlap with
  | untouched _ due =>
      subst ended
      rcases due with looking | ⟨phase, working⟩
      · cases looking
      · cases working
  | unlooked => cases otherEnded
  | halfway => cases otherEnded
  | settled _ _ current => exact current
  | swap _ ih => exact ih otherEnded ended

end Overlap

/-- Whether a write has made no change and will make none if it cannot be noted or there is no scratch directory. -/
def IsIdle (hasDirectory : Bool) (seen : Existing) (stage : WriteStage) : Prop :=
  stage = .looking ∨ stage = .working seen .opening ∨ hasDirectory = true ∧ stage = .working seen .spilling ∨
    stage.HasUploaded

/-- What holds while two writes fail before they upload anything. -/
structure Idle (hasDirectory : Bool) (key : String) (start : Store) (stage otherStage : WriteStage) (store : Store) :
    Prop where
  early : stage.IsIdle hasDirectory (existing start key)
  otherEarly : otherStage.IsIdle hasDirectory (existing start key)
  same : store = start

section Idle

variable {hasDirectory : Bool} {key : String} {start store : Store} {stage otherStage : WriteStage}

theorem Idle.swap (idle : Idle hasDirectory key start stage otherStage store) :
    Idle hasDirectory key start otherStage stage store :=
  ⟨idle.otherEarly, idle.early, idle.same⟩

/-- Without a scratch directory, and where the write cannot be noted, no step changes the store. -/
theorem Idle.advance (idle : Idle hasDirectory key start stage otherStage store) {driver : Driver} {offset : Nat}
    (content : Bytes) (clock : Clock)
    (barred : hasDirectory = false ∨ ¬driver.host.Notes (existing start key) offset) :
    Idle hasDirectory key start (stage.advance driver offset content hasDirectory key clock store).1 otherStage
      (stage.advance driver offset content hasDirectory key clock store).2 := by
  obtain ⟨early, otherEarly, rfl⟩ := idle
  rcases early with rfl | rfl | ⟨rfl, rfl⟩ | uploaded
  · exact ⟨.inr (.inl rfl), otherEarly, rfl⟩
  · cases hasDirectory with
    | true => exact ⟨.inr (.inr (.inl ⟨rfl, rfl⟩)), otherEarly, rfl⟩
    | false => exact ⟨.inr (.inr (.inr (.inr rfl))), otherEarly, rfl⟩
  · have unnoted := barred.resolve_left Bool.true_eq_false.mp
    simp only [WriteStage.advance, if_neg unnoted]
    exact ⟨.inr (.inr (.inr (.inl rfl))), otherEarly, rfl⟩
  · obtain ⟨-, same, after⟩ := uploaded.advance clock driver key offset content hasDirectory store
    exact ⟨.inr (.inr (.inr after)), otherEarly, same⟩

end Idle

end WriteStage

section Turns

variable {driver : Driver} {path : String} {offset : Nat} {reader : Reader} {content : Bytes}
  (valid : Path.isValid path = true) (delivers : reader.Delivers content) (hasDirectory : Bool)

/-- A worker with one write before it has the whole of it to do. -/
theorem reached_ofTasks_write :
    (writeStages driver offset valid delivers hasDirectory).Reached .count .looking
      (.ofTasks hasDirectory driver [.writeStream path offset reader]) := .busy rfl

variable {valid delivers hasDirectory}

/-- A worker with nothing left to do has ended its write. -/
theorem WriteStage.ended_of_reached {stage : WriteStage} {worker : Worker}
    (reached : (writeStages driver offset valid delivers hasDirectory).Reached .count stage worker)
    (idle : worker.pending = []) : stage = .ended := by
  obtain ⟨outcome, left⟩ := reached.left_of_idle idle
  cases stage with
  | ended => rfl
  | tidying => obtain ⟨_, same⟩ := left; cases same
  | looking => cases (left.trans (writeStream_eq_act driver offset reader valid))
  | working seen phase =>
      cases phase with
      | opening => cases (left.trans (rangeWrite_eq_act driver offset reader seen))
      | spilling => cases (left.trans (fillScratch_eq_act driver offset seen))
      | uploading =>
          obtain ⟨notes, same⟩ := left
          obtain ⟨call, -, uploads⟩ := uploadScratch_eq_act driver offset content notes
          cases (same.trans uploads)

end Turns

/-- A write without a scratch directory fails and changes nothing. -/
theorem run_writeStream_without_directory (driver : Driver) {path : String} (valid : Path.isValid path = true)
    (offset : Nat) (reader : Reader) (clock : Clock) (store : Store) :
    (driver.writeStream path offset reader).run (Workspace.reply (Store.answer clock) false) store =
      (.error .noScratchDirectory, store) := by
  simp only [writeStream, rangeWrite, checkPath_of_isValid valid, checkOffset_natCast, pure_bind, Program.run_bind,
    run_lookUp, run_openScratch]
  rfl

/-- A single write leaves the object with the bytes spliced in, or as it is if there is no scratch directory or the
write cannot be noted. -/
theorem content_of_single_write (driver : Driver) {path : String} (valid : Path.isValid path = true) (offset : Nat)
    {reader : Reader} {content : Bytes} (delivers : reader.Delivers content) {store : Store}
    (calm : store.composeError = none) {held : StoredObject}
    (found : store.bucket.find? (driver.root.keyFor path) = some held) (hasDirectory : Bool) (clock : Clock) :
    ((Workspace.run (Store.answer clock) (driver.writeStream path offset reader)
        { store, hasDirectory }).2.store.bucket.find? (driver.root.keyFor path)).map StoredObject.content =
      some (if hasDirectory ∧ driver.host.writes offset = true then
        held.content.splice offset content else held.content) := by
  rw [(Workspace.run_alone (Store.answer clock) (driver.writeStream path offset reader) { store, hasDirectory }).2]
  cases hasDirectory with
  | true =>
      by_cases written : driver.host.writes offset = true
      · rw [if_pos ⟨rfl, written⟩,
          run_writeStream clock calm offset driver valid delivers ((Host.notes_iff found).mpr written),
          Bucket.rewritten, found, Bucket.put, Bucket.find?_insert, if_pos rfl]
        rfl
      · rw [if_neg fun both => written both.2,
          run_writeStream_unnoted clock calm offset driver valid delivers fun notes =>
            written ((Host.notes_iff found).mp notes), found]
        rfl
  | false =>
      rw [run_writeStream_without_directory driver valid, found]
      rfl

/-- Two writes of the same bytes at the same offset of a stored object leave what one of them leaves where no failure is
planned, in whatever order their calls reach the store, and no other object changes. The one exception is that no
failure is planned, the bytes go behind the end of the object at an offset that the host writes, and both look before
either composes it: then the gap and the bytes follow once more. -/
theorem overlapping_writes_leave_one_write (driver : Driver) (path : String) (valid : Path.isValid path = true)
    (offset : Nat) (reader otherReader : Reader) (content : Bytes) (delivers : reader.Delivers content)
    (otherDelivers : otherReader.Delivers content) (store : Store) (held : StoredObject)
    (found : store.bucket.find? (driver.root.keyFor path) = some held) (hasDirectory : Bool) (clock : Clock)
    (turns : List Turn) :
    let key := driver.root.keyFor path
    let start : Shared :=
      ⟨.ofTasks hasDirectory driver [.writeStream path offset reader],
        .ofTasks hasDirectory driver [.writeStream path offset otherReader], store⟩
    let ended := start.after turns
    let single := (Workspace.run (Store.answer clock) (driver.writeStream path offset reader)
      { store := { store with composeError := none }, hasDirectory }).2.store
    let bothUnseen := store.composeError.isNone ∧ hasDirectory ∧
      ¬Operation.putParts.Precedes .stat ((start.calls turns).map Call.operation)
    ended.own.pending = [] → ended.other.pending = [] →
      (∃ once, (single.bucket.find? key).map StoredObject.content = some once ∧
        (ended.store.bucket.find? key).map StoredObject.content =
          some (once ++
            if bothUnseen ∧ 0 < offset ∧ held.content.length ≤ offset ∧ driver.host.writes offset = true then
              Bytes.zeros (offset - held.content.length) ++ content else [])) ∧
      ∀ other, other ≠ key → ended.store.bucket.find? other = store.bucket.find? other := by
  intro key start ended single bothUnseen idle otherIdle
  have reached : (writeStages driver offset valid delivers hasDirectory).Reached _ _ start.own :=
    reached_ofTasks_write valid delivers hasDirectory
  have otherReached : (writeStages driver offset valid otherDelivers hasDirectory).Reached _ _ start.other :=
    reached_ofTasks_write valid otherDelivers hasDirectory
  have calm : ({ store with composeError := none } : Store).composeError = none := rfl
  have once := content_of_single_write driver valid offset delivers calm found hasDirectory clock
  by_cases writing : hasDirectory = true ∧ driver.host.writes offset = true
  · obtain ⟨rfl, written⟩ := writing
    obtain ⟨stage, otherStage, reached, otherReached, overlap⟩ :=
      Shared.after_stages
        (WriteStage.Overlap store.bucket key held.content offset content store.composeError)
        (fun clock _ _ _ _ overlap => (overlap.advance clock written).1)
        (fun clock _ _ _ _ overlap => (overlap.advance clock written).2)
        reached otherReached
        (.untouched List.not_mem_nil (.inl rfl) (.inl rfl) ⟨⟨held, found, rfl⟩, fun _ _ => rfl⟩) turns
    obtain ⟨⟨object, left, contained⟩, others⟩ :=
      overlap.outcome (WriteStage.ended_of_reached reached idle) (WriteStage.ended_of_reached otherReached otherIdle)
    rw [if_pos ⟨rfl, written⟩] at once
    refine ⟨⟨_, once, ?_⟩, others⟩
    rw [left, Option.map_some, contained, leftByTwo]
    simp [bothUnseen, and_assoc, written]
  · have barred : hasDirectory = false ∨ ¬driver.host.Notes (existing store key) offset := by
      rw [Host.notes_iff found]
      exact (Decidable.not_and_iff_or_not.mp writing).imp_left Bool.eq_false_iff.mpr
    obtain ⟨stage, otherStage, -, -, unchanged⟩ :=
      Shared.after_stages (fun _ => WriteStage.Idle hasDirectory key store)
        (fun clock _ _ _ _ idle => idle.advance content clock barred)
        (fun clock _ _ _ _ idle => (idle.swap.advance content clock barred).swap)
        reached otherReached ⟨.inl rfl, .inl rfl, rfl⟩ turns
    have same : ended.store = store := unchanged.same
    rw [if_neg writing] at once
    refine ⟨⟨_, once, ?_⟩, fun other _ => by rw [same]⟩
    rw [same, found, if_neg]
    · simp
    · rintro ⟨⟨-, directory, -⟩, -, -, written⟩
      exact writing ⟨directory, written⟩

/-- Two workers that each write the same bytes at the same offset of an object of three bytes. -/
def retriedWrite (offset : Nat) : Shared :=
  ⟨.ofTasks true ⟨.ofDirectory "/reg/", 1, 60, .standard⟩ [.writeStream "/a" offset (.chunks [[8, 9]] none)],
    .ofTasks true ⟨.ofDirectory "/reg/", 1, 60, .standard⟩ [.writeStream "/a" offset (.chunks [[8, 9]] none)],
    { bucket := .sample }⟩

/-- One turn of each after the other. -/
def alternateTurns : List Turn := (List.range 12).map fun index : Nat => ⟨index % 2 = 0, ⟨.ofInt index⟩⟩

/-- Where the bytes go over the object, a retry that overlaps the first attempt adds nothing. -/
theorem overlapping_overwrite_is_one :
    ((retriedWrite 1).after alternateTurns).own.pending = [] ∧
      ((retriedWrite 1).after alternateTurns).other.pending = [] ∧
      (((retriedWrite 1).after alternateTurns).store.bucket.find? "reg/a").map StoredObject.content =
        some [1, 8, 9] := by
  have idle : ((retriedWrite 1).after alternateTurns).own.pending = [] := List.isEmpty_iff.mp (by decide +kernel)
  have otherIdle : ((retriedWrite 1).after alternateTurns).other.pending = [] := List.isEmpty_iff.mp (by decide +kernel)
  obtain ⟨⟨once, single, left⟩, -⟩ :=
    overlapping_writes_leave_one_write ⟨.ofDirectory "/reg/", 1, 60, .standard⟩ "/a" (by decide) 1
      (.chunks [[8, 9]] none) (.chunks [[8, 9]] none) [8, 9] .chunked .chunked { bucket := .sample } ⟨[1, 2, 3], 0⟩
      (by decide) true ⟨.ofInt 0⟩ alternateTurns idle otherIdle
  have written : some [1, 8, 9] = some once := Eq.trans (by decide +kernel) single
  refine ⟨idle, otherIdle, left.trans ?_⟩
  rw [written]
  simp

/-- Where the bytes go behind the object, they are there twice, and one write has them there once. -/
theorem overlapping_append_is_doubled :
    Bucket.sample.find? "reg/a" = some ⟨[1, 2, 3], 0⟩ ∧
      ((retriedWrite 3).after alternateTurns).own.pending = [] ∧
      ((retriedWrite 3).after alternateTurns).other.pending = [] ∧
      (((retriedWrite 3).after alternateTurns).store.bucket.find? "reg/a").map StoredObject.content =
        some [1, 2, 3, 8, 9, 8, 9] ∧
      ((Workspace.run (Store.answer ⟨.ofInt 0⟩)
        (writeStream ⟨.ofDirectory "/reg/", 1, 60, .standard⟩ "/a" 3 (.chunks [[8, 9]] none))
        { store := { bucket := .sample } }).2.store.bucket.find? "reg/a").map StoredObject.content =
        some [1, 2, 3, 8, 9] :=
  ⟨by decide, List.isEmpty_iff.mp (by decide +kernel), List.isEmpty_iff.mp (by decide +kernel), by decide +kernel,
    by decide +kernel⟩

end PathStore.Driver

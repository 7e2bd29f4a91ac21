/-
This file shows what rows of writes build that append to a path. Each write without faults goes to the end of what is
stored, and between them attempts may fail; the content is then what the writes delivered, piece by piece.
-/
import PathStore.Proofs.Driver.Atomicity
import PathStore.Proofs.Driver.Writing
import PathStore.Proofs.Stream.Reading

namespace PathStore

/-- The number of bytes under a key; a missing object has none. -/
def Bucket.sizeAt (bucket : Bucket) (key : String) : Nat :=
  ((bucket.find? key).map fun object => object.content.length).getD 0

/-- Bytes written at the end of an object are appended to it; a missing object becomes them. -/
theorem Bucket.rewritten_sizeAt (bucket : Bucket) (key : String) (piece : Bytes) :
    bucket.rewritten key (bucket.sizeAt key) piece =
      ((bucket.find? key).map StoredObject.content).getD [] ++ piece := by
  rw [rewritten, sizeAt]
  cases found : bucket.find? key with
  | none => rfl
  | some object => exact Bytes.splice_length object.content piece

namespace Driver

/-- What a row of attempts to append to a path makes of a bucket, and the pieces that were written: a write that
succeeds without faults at the end of what is stored adds what its reader delivers, and an attempt of any kind that
fails where faults replace calls adds nothing. -/
inductive Appends (driver : Driver) (path : String) (start : Bucket) : List Bytes → Bucket → Prop where
  | nothing : Appends driver path start [] start
  | written {pieces : List Bytes} (clock : Clock) (workspace : Workspace Store)
      (earlier : Appends driver path start pieces workspace.store.bucket)
      (calm : workspace.store.composeError = none) (hasDirectory : workspace.hasDirectory = true) {offset : Nat}
      (atEnd : offset = workspace.store.bucket.sizeAt (driver.root.keyFor path)) {reader : Reader} {piece : Bytes}
      (delivers : reader.Delivers piece) {count : Nat}
      (succeeds : (Workspace.run (Store.answer clock) (driver.writeStream path offset reader) workspace).1 =
        .ok count) :
      Appends driver path start (pieces ++ [piece])
        (Workspace.run (Store.answer clock) (driver.writeStream path offset reader) workspace).2.store.bucket
  | failed {τ : Type} {pieces : List Bytes} (clock : Clock) {schedule : Disturbance.Schedule τ}
      (replaces : Disturbance.Replaces schedule) (workspace : Workspace (Store × τ))
      (earlier : Appends driver path start pieces workspace.store.1.bucket) (attempted : String) (offset : Int)
      (reader : Reader) {failure : Failure}
      (fails : (Workspace.run (Disturbance.disturb schedule (Store.answer clock))
        (driver.writeStream attempted offset reader) workspace).1 = .error failure) :
      Appends driver path start pieces
        (Workspace.run (Disturbance.disturb schedule (Store.answer clock))
          (driver.writeStream attempted offset reader) workspace).2.store.1.bucket

variable (clock : Clock) (hasDirectory : Bool) (driver : Driver) {path : String} (valid : Path.isValid path = true)
include valid

section Run

variable {store : Store} {object : StoredObject} (found : store.bucket.find? (driver.root.keyFor path) = some object)
include found

/-- The stream from the start of an object is that of all its content, also where this is empty. -/
theorem run_readStream_whole :
    (driver.readStream path 0).run (Workspace.reply (Store.answer clock) hasDirectory) store =
      (.ok (.ofBytes object.content), store) := by
  have described := answer_stat_found clock found
  have whole : object.content.slice 0 none = object.content := Bytes.slice_none object.content 0
  rw [run_readStream (Store.answer clock) hasDirectory store driver valid (Int.le_refl 0) described,
    answer_download_found clock found, whole]
  split
  · rename_i nothing
    have none : object.content.length = 0 := Nat.le_zero.mp (Int.ofNat_le.mp nothing)
    rw [List.eq_nil_of_length_eq_zero none]
  · rfl

/-- All content at a path is that of its object. -/
theorem run_getContent :
    (driver.getContent path).run (Workspace.reply (Store.answer clock) hasDirectory) store =
      (.ok object.content, store) := by
  rw [getContent, Program.run_bind, run_readStream_whole clock hasDirectory driver valid found]
  rfl

/-- A path with an object is described by its size and by the time at which it was stored. -/
theorem run_statPath :
    (driver.statPath path).run (Workspace.reply (Store.answer clock) hasDirectory) store =
      ((Instant.ofPutTime object.putTime).map fun modified =>
          { path, size := object.content.length, modified := some modified }, store) := by
  have named : driver.root.keyFor path ≠ "" := driver.root.keyFor_ne_empty valid
  rw [statPath, checkPath_of_isValid (Path.isValid_or_root.mpr (.inr valid)), pure_bind]
  simp only [describeObject, if_neg named, Program.run_bind, Program.run_andThen, run_stat,
    answer_stat_found clock found, ObjectInfo.modified, StoredObject.info, Program.run_ofExcept]
  cases Instant.ofPutTime object.putTime <;> rfl

end Run

/-- A path without an object has no content to get. -/
theorem run_getContent_missing {store : Store} (missing : store.bucket.find? (driver.root.keyFor path) = none) :
    (driver.getContent path).run (Workspace.reply (Store.answer clock) hasDirectory) store =
      (.error (.pathNotFound path), store) := by
  have offset : checkOffset driver.host path 0 = pure () := checkOffset_natCast driver.host path 0
  simp only [getContent, readStream, checkPath_of_isValid valid, offset, pure_bind, Program.run_bind,
    Program.run_recover, run_stat, answer_stat_missing clock missing]
  rfl

/-- Each piece is appended to those before it; until there is one, nothing is stored. -/
theorem Appends.find? {start bucket : Bucket} (absent : start.find? (driver.root.keyFor path) = none)
    {pieces : List Bytes} (appends : driver.Appends path start pieces bucket) :
    (bucket.find? (driver.root.keyFor path)).map StoredObject.content =
      if pieces = [] then none else some pieces.flatten := by
  induction appends with
  | nothing =>
      rw [absent]
      rfl
  | @written pieces clock workspace earlier calm directory offset atEnd reader piece delivers count succeeds ih =>
      subst atEnd
      obtain ⟨outcome, stored⟩ := Workspace.run_alone (Store.answer clock)
        (driver.writeStream path (workspace.store.bucket.sizeAt (driver.root.keyFor path)) reader) workspace
      have notes : driver.host.Notes (existing workspace.store (driver.root.keyFor path))
          (workspace.store.bucket.sizeAt (driver.root.keyFor path)) := by
        refine Decidable.byContradiction fun unnoted => ?_
        rw [directory, run_writeStream_unnoted clock calm _ driver valid delivers unnoted] at outcome
        cases succeeds.symm.trans outcome
      rw [directory, run_writeStream clock calm _ driver valid delivers notes] at stored
      have before : ((workspace.store.bucket.find? (driver.root.keyFor path)).map StoredObject.content).getD [] =
          pieces.flatten := by
        rw [ih]
        split
        · rename_i none
          rw [none]
          rfl
        · rfl
      have extended : (pieces ++ [piece]).flatten = pieces.flatten ++ piece := by simp
      rw [stored, Bucket.put, Bucket.find?_insert, if_pos rfl, Bucket.rewritten_sizeAt, before,
        if_neg (by simp : pieces ++ [piece] ≠ []), extended]
      rfl
  | @failed τ pieces clock schedule replaces workspace earlier attempted offset reader failure fails ih =>
      have kept := (run_writeStream_settles clock workspace replaces driver attempted offset reader).kept failure fails
      exact kept ▸ ih

/-- The size of what is stored is that of all pieces. -/
theorem Appends.sizeAt {start bucket : Bucket} (absent : start.find? (driver.root.keyFor path) = none)
    {pieces : List Bytes} (appends : driver.Appends path start pieces bucket) :
    bucket.sizeAt (driver.root.keyFor path) = pieces.flatten.length := by
  have content := appends.find? driver valid absent
  rw [Bucket.sizeAt]
  split at content
  · rename_i none
    rw [Option.map_eq_none_iff.mp content, none]
    rfl
  · obtain ⟨object, found, joined⟩ := Option.map_eq_some_iff.mp content
    rw [found, ← joined]
    rfl

/-- A write at the end of what was appended appends to it, if the host writes the offset. -/
theorem Appends.write {start : Bucket} (absent : start.find? (driver.root.keyFor path) = none) {pieces : List Bytes}
    (workspace : Workspace Store) (earlier : driver.Appends path start pieces workspace.store.bucket)
    (calm : workspace.store.composeError = none) (directory : workspace.hasDirectory = true)
    (written : driver.host.writes pieces.flatten.length = true) {reader : Reader} {piece : Bytes}
    (delivers : reader.Delivers piece) :
    driver.Appends path start (pieces ++ [piece])
      (Workspace.run (Store.answer clock) (driver.writeStream path pieces.flatten.length reader)
        workspace).2.store.bucket := by
  have atEnd : pieces.flatten.length = workspace.store.bucket.sizeAt (driver.root.keyFor path) :=
    (earlier.sizeAt driver valid absent).symm
  have succeeds : (Workspace.run (Store.answer clock) (driver.writeStream path pieces.flatten.length reader)
      workspace).1 = .ok piece.length := by
    rw [(Workspace.run_alone (Store.answer clock) _ workspace).1, directory,
      run_writeStream clock calm _ driver valid delivers fun _ => written]
  exact .written clock workspace earlier calm directory atEnd delivers succeeds

omit valid

/-- A path that was absent has, once pieces were appended to it and other attempts failed, just the pieces one after the
other as its content, however they were cut, and their total length as its size; without a piece it is still absent. An
attempt to append a piece succeeds where no fault meets it and the host writes the size. -/
theorem appended_pieces_are_content (workspace : Workspace Store) (path : String) (start : Bucket)
    (pieces : List Bytes) (valid : Path.isValid path = true)
    (absent : start.find? (driver.root.keyFor path) = none)
    (appends : driver.Appends path start pieces workspace.store.bucket) :
    let key := driver.root.keyFor path
    let size := workspace.store.bucket.sizeAt key
    let outcome {α : Type} (program : Program α) := (Workspace.run (Store.answer clock) program workspace).1
    (pieces = [] →
      workspace.store.bucket.find? key = none ∧ outcome (driver.getContent path) = .error (.pathNotFound path)) ∧
    (pieces ≠ [] →
      outcome (driver.getContent path) = .ok pieces.flatten ∧ size = pieces.flatten.length ∧
        ∃ info, (workspace.store.answer clock (.stat key)).1 = .ok info ∧ info.size = pieces.flatten.length ∧
          outcome (driver.statPath path) = info.modified.map fun modified =>
            { path, size := pieces.flatten.length, modified := some modified }) ∧
    (workspace.store.composeError = none → workspace.hasDirectory = true → driver.host.writes size = true →
      ∀ reader piece, reader.Delivers piece → outcome (driver.writeStream path size reader) = .ok piece.length) := by
  intro key size outcome
  have alone {α : Type} (program : Program α) : outcome program =
      (program.run (Workspace.reply (Store.answer clock) workspace.hasDirectory) workspace.store).1 :=
    (Workspace.run_alone (Store.answer clock) program workspace).1
  have content : (workspace.store.bucket.find? key).map StoredObject.content =
      if pieces = [] then none else some pieces.flatten := appends.find? driver valid absent
  refine ⟨fun none => ?_, fun some => ?_, fun calm directory written reader piece delivers => ?_⟩
  · rw [if_pos none] at content
    have missing := Option.map_eq_none_iff.mp content
    refine ⟨missing, ?_⟩
    rw [alone, run_getContent_missing clock _ driver valid missing]
  · rw [if_neg some] at content
    obtain ⟨object, found, joined⟩ := Option.map_eq_some_iff.mp content
    have length : (object.content.length : Int) = pieces.flatten.length := by rw [joined]
    refine ⟨?_, ?_, object.info key, congrArg Prod.fst (answer_stat_found clock found), length, ?_⟩
    · rw [alone, run_getContent clock _ driver valid found, joined]
    · exact appends.sizeAt driver valid absent
    · rw [alone, run_statPath clock _ driver valid found, length]
      rfl
  · rw [alone, directory, run_writeStream clock calm size driver valid delivers fun _ => written]

/-- An empty piece and two bytes are appended, with an attempt between them whose reader breaks off. A fault in place of
the next look-up leaves the two bytes as the content. -/
theorem appended_pieces_survive_fault :
    let driver : Driver := ⟨.ofDirectory "/reg/", 10, 60, .standard⟩
    let clock : Clock := ⟨.ofInt 1700000000⟩
    let answer := Disturbance.disturb (Fault.drawOf Disturbance.InPlace) (Store.answer clock)
    let fault : Fault := { operation := .stat, disturbance := { error := ⟨599, .text "timeout", none⟩ } }
    let plan : Fault.PlanOf Disturbance.InPlace := ⟨[fault], by simp [Disturbance.InPlace, fault]⟩
    ∃ bucket, driver.Appends "/new" .sample [[], [9, 8]] bucket ∧
      let faulty := Workspace.run answer (driver.writeStream "/new" 2 (.file [[7]] none))
        { store := ({ bucket }, plan) }
      (∃ failure, faulty.1 = .error failure) ∧
        (Workspace.run (Store.answer clock) (driver.getContent "/new") { store := faulty.2.store.1 }).1 =
          .ok [9, 8] := by
  intro driver clock answer fault plan
  have valid : Path.isValid "/new" = true := by decide
  have absent : Bucket.sample.find? (driver.root.keyFor "/new") = none := by decide
  have nothing : (Reader.chunks [[], []] none).Delivers [] := .chunked
  have middle : (Reader.chunks [[9], [], [8]] none).Delivers [9, 8] := .chunked
  -- Each bucket of the row is named by itself, since no step depends on how the one before it came about.
  have start : driver.Appends "/new" .sample [] .sample := .nothing
  obtain ⟨first, one⟩ : ∃ bucket, driver.Appends "/new" .sample ([] ++ [[]]) bucket :=
    ⟨_, Appends.write clock driver valid absent { store := { bucket := .sample } } start rfl rfl
      (Host.writes_of_lt (by decide : 1 ≤ 640) (by decide)) nothing⟩
  obtain ⟨second, stillOne⟩ : ∃ bucket, driver.Appends "/new" .sample ([] ++ [[]]) bucket := by
    obtain ⟨reason, breaks⟩ := ((run_writeStream_settles clock { store := ({ bucket := first }, plan) }
      Disturbance.drawOf_replaces driver "/new" 0 (.chunks [[1], [2]] (some "broken"))).unsent (.device "broken") rfl).1
    exact ⟨_, .failed clock Disturbance.drawOf_replaces _ one "/new" 0 _ breaks⟩
  obtain ⟨third, two⟩ : ∃ bucket, driver.Appends "/new" .sample ([[]] ++ [[9, 8]]) bucket :=
    ⟨_, Appends.write clock driver valid absent { store := { bucket := second } } stillOne rfl rfl
      (Host.writes_of_lt (by decide : 1 ≤ 640) (by decide)) middle⟩
  have fails : (Workspace.run answer (driver.writeStream "/new" 2 (.file [[7]] none))
      { store := ({ bucket := third }, plan) }).1 = .error (.service fault.disturbance.error) := rfl
  have stillTwo := Appends.failed clock Disturbance.drawOf_replaces { store := ({ bucket := third }, plan) } two
    "/new" 2 (.file [[7]] none) fails
  refine ⟨third, two, ⟨_, fails⟩, ?_⟩
  exact ((appended_pieces_are_content clock driver { store := _ } "/new" .sample _ valid absent stillTwo).2.1
    (by simp)).1

end Driver
end PathStore

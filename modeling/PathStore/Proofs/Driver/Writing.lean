/-
This file shows what a write leaves in a store. A write without faults gives the number of bytes that its reader
delivers, splices them into the object of the path, and leaves every other object alone.
-/
import PathStore.Part.Splice
import PathStore.Proofs.Driver.Steps

namespace PathStore

/-- What a reader delivers: the reads of a file before its first empty one, or all chunks. -/
inductive Reader.Delivers : Reader → Bytes → Prop where
  | ended {reads later : List Bytes} {failure : Option String} (filled : ∀ read ∈ reads, read ≠ []) :
      Delivers (.file (reads ++ [] :: later) failure) reads.flatten
  | exhausted {reads : List Bytes} (filled : ∀ read ∈ reads, read ≠ []) : Delivers (.file reads none) reads.flatten
  | chunked {delivered : List Bytes} : Delivers (.chunks delivered none) delivered.flatten

namespace Reader

/-- The reads of a file are taken up to the first empty one. -/
theorem takeWhile_filled {reads : List Bytes} (filled : ∀ read ∈ reads, read ≠ []) (later : List Bytes) :
    (reads ++ [] :: later).takeWhile (!·.isEmpty) = reads := by
  induction reads with
  | nil => rfl
  | cons read rest ih =>
      have kept : (!read.isEmpty) = true := by
        cases read with
        | nil => exact absurd rfl (filled [] List.mem_cons_self)
        | cons byte bytes => rfl
      rw [List.cons_append, List.takeWhile_cons, kept]
      exact congrArg (read :: ·) (ih fun other member => filled other (List.mem_cons_of_mem _ member))

theorem any_isEmpty_eq_false {reads : List Bytes} (filled : ∀ read ∈ reads, read ≠ []) :
    reads.any List.isEmpty = false := by
  rw [List.any_eq_false]
  intro read member isEmpty
  exact filled read member (List.isEmpty_iff.mp isEmpty)

/-- Draining a reader gives what it delivers. -/
theorem drain_of_delivers {reader : Reader} {content : Bytes} (delivers : reader.Delivers content) :
    reader.drain = .ok content := by
  cases delivers with
  | ended filled =>
      rename_i reads later failure
      have ends : (reads ++ [] :: later).any List.isEmpty = true := by simp
      rw [drain, if_pos ends, takeWhile_filled filled]
  | exhausted filled => simp [drain, any_isEmpty_eq_false filled, finish]
  | chunked => rfl

end Reader

namespace Bytes

end Bytes

/-- The content of a key once bytes are written into it; a missing object becomes the bytes. -/
def Bucket.rewritten (bucket : Bucket) (key : String) (offset : Nat) (written : Bytes) : Bytes :=
  match bucket.find? key with
  | some object => object.content.splice offset written
  | none => written

/-- Whether a write at an offset can be noted, given what is seen of its object. That of a missing object is noted
without the offset. -/
def Host.Notes (host : Host) (seen : Existing) (offset : Nat) : Prop :=
  seen.isStored = true → host.writes offset = true

instance (host : Host) (seen : Existing) (offset : Nat) : Decidable (host.Notes seen offset) :=
  inferInstanceAs (Decidable (_ → _))

namespace Host

variable {host : Host} {store : Store} {key : String} {offset : Nat}

theorem notes_of_missing (missing : store.bucket.find? key = none) : host.Notes (Driver.existing store key) offset := by
  rw [Driver.existing, missing]
  exact fun stored => absurd stored Bool.false_ne_true

theorem notes_iff {object : StoredObject} (found : store.bucket.find? key = some object) :
    host.Notes (Driver.existing store key) offset ↔ host.writes offset = true := by
  rw [Driver.existing, found]
  exact forall_prop_of_true rfl

end Host

namespace Driver

variable (clock : Clock) (hasDirectory : Bool) {store : Store} (calm : store.composeError = none) (key : String)
  (offset : Nat) (content : Bytes)

/-- The plan of a write can be composed in a store with an object, whatever size it was found to have. -/
theorem plan_composes {object : StoredObject} (found : store.bucket.find? key = some object) (size : Nat) :
    ∃ composition,
      (⟨key, size, true⟩ : Existing).plan offset (.ofBytes content) content.length = .ok composition ∧
      composition.evaluate (fun name => (store.bucket.find? name).map StoredObject.content) =
        .ok (Bytes.spliceFor size object.content offset content) := by
  let contentOf (name : String) : Option Bytes := (store.bucket.find? name).map StoredObject.content
  have contained : contentOf key = some object.content := congrArg (Option.map StoredObject.content) found
  have evaluated := Existing.evaluate_stored_plan contained size offset content
  cases planned : (⟨key, size, true⟩ : Existing).plan offset (.ofBytes content) content.length with
  | error failure =>
      rw [planned] at evaluated
      cases evaluated
  | ok composition =>
      rw [planned] at evaluated
      exact ⟨composition, rfl, evaluated⟩

/-- An upload to a stored object goes on if it can be noted. -/
theorem checkNoted_eq (host : Host) (size : Int) :
    checkNoted host offset =
      if host.Notes ⟨key, size, true⟩ offset then pure () else .fail (.value .unwritable) := by
  simp only [checkNoted, Host.Notes, forall_const]

include calm

/-- An upload that can be noted puts the written content under its key; any other changes nothing. -/
theorem run_upload (host : Host) :
    (host.Notes (existing store key) offset →
      (upload host (existing store key) offset content).run (Workspace.reply (Store.answer clock) hasDirectory) store =
        (.ok content.length,
          { store with bucket := store.bucket.put clock key (store.bucket.rewritten key offset content) })) ∧
      (¬host.Notes (existing store key) offset →
        (upload host (existing store key) offset content).run (Workspace.reply (Store.answer clock) hasDirectory)
            store =
          (.error (.value .unwritable), store)) := by
  cases found : store.bucket.find? key with
  | none =>
      have described : existing store key = ⟨key, 0, false⟩ := by rw [existing, found]
      refine ⟨fun _ => ?_, fun unnoted => absurd (Host.notes_of_missing found) unnoted⟩
      rw [described, upload]
      simp only [Bool.not_false, if_true, Program.run_bind, run_putFile, Store.answer_of_calm clock calm, Bucket.answer,
        Bucket.rewritten, found, Program.run_pure]
  | some object =>
      have described : existing store key = ⟨key, object.content.length, true⟩ := by rw [existing, found]
      obtain ⟨composition, planned, evaluated⟩ := plan_composes key offset content found object.content.length
      rw [Bytes.spliceFor_length] at evaluated
      rw [described, upload]
      simp only [Bool.not_true, Bool.false_eq_true, if_false, planned, Program.run_bind, Program.run_ofExcept,
        checkNoted_eq key offset host object.content.length]
      refine ⟨fun notes => ?_, fun unnoted => ?_⟩
      · simp only [if_pos notes, Program.run_pure, run_putParts, Store.answer_of_calm clock calm,
          Bucket.answer, evaluated, Bucket.rewritten, found]
      · simp only [if_neg unnoted, Program.run_fail]

/-- A write that can be noted gives the number of delivered bytes and puts the written content under the key of its
path. -/
theorem run_writeStream (driver : Driver) {path : String} (valid : Path.isValid path = true) {reader : Reader}
    {content : Bytes} (delivers : reader.Delivers content)
    (notes : driver.host.Notes (existing store (driver.root.keyFor path)) offset) :
    (driver.writeStream path offset reader).run (Workspace.reply (Store.answer clock) true) store =
      (.ok content.length,
        { store with
          bucket := store.bucket.put clock (driver.root.keyFor path)
            (store.bucket.rewritten (driver.root.keyFor path) offset content) }) := by
  simp only [writeStream, rangeWrite, checkPath_of_isValid valid, checkOffset_natCast, pure_bind, Program.run_bind,
    run_lookUp, run_openScratch, if_true, Program.run_followedBy, run_spill, Reader.drain_of_delivers delivers,
    (run_upload clock true calm _ offset content driver.host).1 notes]
  rfl

/-- A write that cannot be noted fails after its reader is read, and changes nothing. -/
theorem run_writeStream_unnoted (driver : Driver) {path : String} (valid : Path.isValid path = true) {reader : Reader}
    {content : Bytes} (delivers : reader.Delivers content)
    (unnoted : ¬driver.host.Notes (existing store (driver.root.keyFor path)) offset) :
    (driver.writeStream path offset reader).run (Workspace.reply (Store.answer clock) true) store =
      (.error (.value .unwritable), store) := by
  simp only [writeStream, rangeWrite, checkPath_of_isValid valid, checkOffset_natCast, pure_bind, Program.run_bind,
    run_lookUp, run_openScratch, if_true, Program.run_followedBy, run_spill, Reader.drain_of_delivers delivers,
    (run_upload clock true calm _ offset content driver.host).2 unnoted]
  rfl

omit calm

end Driver
end PathStore

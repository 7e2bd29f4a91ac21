/-
This file tells what the single steps of the driver give and leave, first for calls that are answered in any way and
then for a store in memory.
-/
import PathStore.Driver
import PathStore.Proofs.Bucket.Paging
import PathStore.Proofs.Program.Alone

namespace PathStore

namespace Bucket

/-- Removing a key under which nothing is stored changes nothing. -/
theorem erase_of_missing {bucket : Bucket} {key : String} (missing : bucket.find? key = none) :
    bucket.erase key = bucket := by
  apply ext_find?
  intro other
  rw [find?_erase]
  split
  · rename_i same
    exact same ▸ missing.symm
  · rfl

/-- An object, another whose key goes on with a hyphen, two below the first, and one outside their root. -/
def sample : Bucket :=
  ((((empty.insert "reg/a" ⟨[1, 2, 3], 0⟩).insert "reg/a-x" ⟨[4], 0⟩).insert "reg/a/b" ⟨[5], 0⟩).insert
    "reg/a/c/d" ⟨[6], 0⟩).insert "other" ⟨[7], 0⟩

end Bucket

namespace Driver

@[simp] theorem checkPath_of_isValid {path : String} {allowRoot : Bool} (valid : Path.isValid path allowRoot = true) :
    checkPath path allowRoot = pure () := by
  rw [checkPath, if_pos valid]

@[simp] theorem checkOffset_natCast (host : Host) (path : String) (offset : Nat) :
    checkOffset host path offset = pure () := by
  rw [checkOffset, if_neg (by omega)]

section Answer

variable {σ : Type} (answer : (call : Call) → σ → Except Failure call.Reply × σ) (hasDirectory : Bool) (state : σ)

theorem run_stat (key : String) :
    (stat key).run (Workspace.reply answer hasDirectory) state = answer (.stat key) state := rfl

theorem run_page (query : ListQuery) :
    (page query).run (Workspace.reply answer hasDirectory) state = answer (.list query) state := rfl

theorem run_putFile (key : String) (content : Bytes) :
    @Program.run Unit σ (Workspace.reply answer hasDirectory) (Program.call (.putFile key content)) state =
      answer (.putFile key content) state := rfl

theorem run_putParts (key : String) (composition : Composition) :
    @Program.run Unit σ (Workspace.reply answer hasDirectory) (Program.call (.putParts key composition)) state =
      answer (.putParts key composition) state := rfl

theorem run_delete (key : String) :
    @Program.run Unit σ (Workspace.reply answer hasDirectory) (Program.call (.delete key)) state =
      answer (.delete key) state := rfl

theorem run_move (source target : String) :
    @Program.run Unit σ (Workspace.reply answer hasDirectory) (Program.call (.move source target)) state =
      answer (.move source target) state := rfl

theorem run_openScratch :
    @Program.run Unit σ (Workspace.reply answer hasDirectory) (Program.perform .openScratch) state =
      (if hasDirectory then .ok () else .error .noScratchDirectory, state) := rfl

theorem run_spill (reader : Reader) :
    @Program.run Bytes σ (Workspace.reply answer hasDirectory) (Program.perform (.spill reader)) state =
      (reader.drain, state) := rfl

/-- Deleting a key succeeds also when the key is reported as missing. -/
theorem run_deleteIfPresent (key : String) :
    (deleteIfPresent key).run (Workspace.reply answer hasDirectory) state =
      match answer (.delete key) state with
      | (.ok (), after) => (.ok (), after)
      | (.error failure, after) => (if failure.isNoSuchKey then .ok () else .error failure, after) := by
  rw [deleteIfPresent, Program.run_recover, run_delete]
  rcases answer (.delete key) state with ⟨reply, after⟩
  cases reply with
  | ok value => rfl
  | error failure => cases missing : failure.isNoSuchKey <;> simp [missing]

/-- A read of an object that is described gives nothing from its end on, and before it what the download gives, where a
missing object is a missing path. -/
theorem run_readStream (driver : Driver) {path : String} (valid : Path.isValid path = true) {offset : Int}
    (natural : 0 ≤ offset) {info : ObjectInfo} {described : σ}
    (found : answer (.stat (driver.root.keyFor path)) state = (.ok info, described)) :
    (driver.readStream path offset).run (Workspace.reply answer hasDirectory) state =
      if info.size ≤ offset then (.ok (Stream.ofBytes []), described)
      else
        ((answer (.download (driver.root.keyFor path) offset) described).1.mapError fun failure =>
            if isMissingDownload failure then .pathNotFound path else failure,
          (answer (.download (driver.root.keyFor path) offset) described).2) := by
  have checked : checkOffset driver.host path offset = pure () := if_neg (Int.not_lt.mpr natural)
  simp only [readStream, checkPath_of_isValid valid, checked, pure_bind, Program.run_bind, Program.run_recover,
    run_stat, found]
  split
  · rfl
  · rw [Program.run_recover]
    have download : (Program.call (.download (driver.root.keyFor path) offset)).run
        (Workspace.reply answer hasDirectory) described =
          answer (.download (driver.root.keyFor path) offset) described := rfl
    rw [download]
    rcases answer (.download (driver.root.keyFor path) offset) described with ⟨reply, after⟩
    cases reply <;> rfl

/-- A move gives and leaves what its last call does, once its source is described and its target deleted; a failure of
either ends it before that. -/
theorem run_movePath (driver : Driver) {source target : String} (sourceValid : Path.isValid source = true)
    (targetValid : Path.isValid target = true) :
    let sourceKey := driver.root.keyFor source
    let targetKey := driver.root.keyFor target
    (driver.movePath source target).run (Workspace.reply answer hasDirectory) state =
      match answer (.stat sourceKey) state with
      | (.error failure, after) => (.error (missingPath source failure), after)
      | (.ok _, described) =>
          match (deleteIfPresent targetKey).run (Workspace.reply answer hasDirectory) described with
          | (.error failure, after) => (.error failure, after)
          | (.ok (), cleared) =>
              ((answer (.move sourceKey targetKey) cleared).1.mapError (missingPath source),
                (answer (.move sourceKey targetKey) cleared).2) := by
  intro sourceKey targetKey
  simp only [movePath, checkPath_of_isValid sourceValid, checkPath_of_isValid targetValid, pure_bind, Program.run_bind,
    Program.run_recover, run_stat, run_move]
  rcases answer (.stat sourceKey) state with ⟨description, described⟩
  cases description with
  | error failure => rfl
  | ok info =>
      dsimp only
      rcases (deleteIfPresent targetKey).run (Workspace.reply answer hasDirectory) described with ⟨deletion, cleared⟩
      cases deletion with
      | error failure => rfl
      | ok done =>
          dsimp only
          rcases answer (.move sourceKey targetKey) cleared with ⟨moving, moved⟩
          cases moving <;> rfl

end Answer

section Store

variable (clock : Clock) {key : String} {store : Store}

theorem answer_stat_found {object : StoredObject} (found : store.bucket.find? key = some object) :
    store.answer clock (.stat key) = (.ok (object.info key), store) := by
  rw [Store.answer_of_not_composing clock store (by simp [Call.operation]), Bucket.answer, found]

theorem answer_stat_missing (missing : store.bucket.find? key = none) :
    store.answer clock (.stat key) = (.error Composition.noSuchObject, store) := by
  rw [Store.answer_of_not_composing clock store (by simp [Call.operation]), Bucket.answer, missing]
  rfl

theorem answer_download_found {object : StoredObject} (found : store.bucket.find? key = some object) (offset : Int) :
    store.answer clock (.download key offset) = (.ok (.ofBytes (object.content.slice offset none)), store) := by
  rw [Store.answer_of_not_composing clock store (by simp [Call.operation]), Bucket.answer, found]

/-- A listing from a textual marker on gives a page of the bucket. -/
theorem answer_list (query : ListQuery) {marker : String} (text : query.marker = .text marker) (store : Store) :
    let found := store.bucket.page query.stem query.delimiter marker query.limit
    store.answer clock (.list query) =
      (.ok {
        items := (found.1.filterMap Bucket.Group.object?).map fun entry => entry.2.info entry.1
        stems := (found.1.filterMap Bucket.Group.stem?).map fun stem => .text (.whole stem)
        marker := .text found.2 }, store) := by
  rw [Store.answer_of_not_composing clock store (by simp [Call.operation]), Bucket.answer, Bucket.listPage, text]
  rfl

/-- A page gives the entries of a front of the keys that remain. Its marker counts as absent if nothing is left behind
the front, and otherwise is a key of the front and leaves just what is behind it. -/
theorem answer_list_cases (query : ListQuery) {marker : String} (text : query.marker = .text marker)
    (positive : 1 ≤ query.limit) (store : Store) :
    ∃ front back, ∃ next : String, store.bucket.entriesAfter query.stem marker = front ++ back ∧
      Bucket.groups query.stem query.delimiter (front ++ back) =
        Bucket.groups query.stem query.delimiter front ++ Bucket.groups query.stem query.delimiter back ∧
      store.answer clock (.list query) =
        (.ok {
          items := ((Bucket.groups query.stem query.delimiter front).filterMap Bucket.Group.object?).map
            fun entry => entry.2.info entry.1
          stems := ((Bucket.groups query.stem query.delimiter front).filterMap Bucket.Group.stem?).map
            fun stem => .text (.whole stem)
          marker := .text next }, store) ∧
      (Json.isTruthy (.text next : Reply) = false ∧ back = [] ∨
        Json.isTruthy (.text next : Reply) = true ∧ back.length < (store.bucket.entriesAfter query.stem marker).length ∧
          (∃ last ∈ front, last.1 = next) ∧ store.bucket.entriesAfter query.stem next = back) := by
  obtain ⟨front, back, split, listed, tiled, ends⟩ :=
    store.bucket.page_cases query.stem query.delimiter marker positive
  refine ⟨front, back, (store.bucket.page query.stem query.delimiter marker query.limit).2, split, tiled, ?_, ?_⟩
  · rw [answer_list clock query text, listed]
  · rcases ends with ⟨empty, last⟩ | ⟨⟨last, inFront, same⟩, rest⟩
    · exact .inl ⟨by rw [last, Json.isTruthy_whole]; rfl, empty⟩
    · have listed : last ∈ store.bucket.entriesAfter query.stem marker := split ▸ List.mem_append_left back inFront
      have above : marker < last.1 := ((Bucket.mem_entriesAfter_iff _ _ _ _).mp listed).2.2
      have shorter : back.length < (store.bucket.entriesAfter query.stem marker).length := by
        have := List.length_pos_of_mem inFront
        rw [split, List.length_append]
        omega
      have goesOn := (Json.isTruthy_whole _).trans (decide_eq_true (ne_empty_of_lt (same ▸ above)))
      exact .inr ⟨goesOn, shorter, ⟨last, inFront, same⟩, rest⟩

/-- What a store tells of a key that is looked up. -/
def existing (store : Store) (key : String) : Existing :=
  match store.bucket.find? key with
  | some object => ⟨key, object.content.length, true⟩
  | none => ⟨key, 0, false⟩

theorem run_lookUp (hasDirectory : Bool) (key : String) (store : Store) :
    (lookUp key).run (Workspace.reply (Store.answer clock) hasDirectory) store = (.ok (existing store key), store) := by
  rw [lookUp, Program.run_andThen, run_stat, existing]
  cases found : store.bucket.find? key with
  | none => rw [answer_stat_missing clock found]; rfl
  | some object => rw [answer_stat_found clock found]; rfl

/-- A delete leaves the store without the key. -/
theorem answer_delete (key : String) (store : Store) :
    store.answer clock (.delete key) =
      (if (store.bucket.find? key).isSome then .ok () else .error Composition.noSuchObject,
        { store with bucket := store.bucket.erase key }) := by
  rw [Store.answer_of_not_composing clock store (by simp [Call.operation]), Bucket.answer]
  cases found : store.bucket.find? key with
  | none => rw [Bucket.erase_of_missing found]; rfl
  | some object => rfl

/-- Deleting a key in a store succeeds and leaves the store without the key. -/
theorem run_deleteIfPresent_store (hasDirectory : Bool) (key : String) (store : Store) :
    (deleteIfPresent key).run (Workspace.reply (Store.answer clock) hasDirectory) store =
      (.ok (), { store with bucket := store.bucket.erase key }) := by
  rw [run_deleteIfPresent, answer_delete]
  cases (store.bucket.find? key).isSome <;> rfl

end Store
end Driver
end PathStore

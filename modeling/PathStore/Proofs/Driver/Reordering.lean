/-
This file shows when the order of writes does not matter. Each write of a row into one object splices its bytes in; so
writes that cover no byte together leave the same in any order, and a write made twice leaves what it left once.
-/
import Mathlib.Data.List.Pairwise
import PathStore.Proofs.Driver.Writing

namespace PathStore

/-- A write of what a reader delivers at an offset, at some reading of the clock. -/
structure Write where
  clock : Clock
  offset : Nat
  reader : Reader
  content : Bytes
  delivers : reader.Delivers content

namespace Write

/-- The positions that the bytes of a write take. -/
def Covers (write : Write) (position : Nat) : Prop :=
  write.offset ≤ position ∧ position < write.offset + write.content.length

/-- Whether two writes take no position together. -/
def IsApart (first second : Write) : Prop := ∀ position, ¬(first.Covers position ∧ second.Covers position)

instance : Std.Symm IsApart := ⟨fun _ _ apart position both => apart position both.symm⟩

/-- What a write makes of the bytes of an object. -/
def splice (held : Bytes) (write : Write) : Bytes := held.splice write.offset write.content

/-- Writes that are pairwise apart make the same of an object in any order. -/
theorem foldl_splice_of_perm {first second : List Write} (same : first.Perm second) (apart : first.Pairwise IsApart)
    (held : Bytes) : first.foldl splice held = second.foldl splice held := by
  refine same.foldl_eq' (fun write inFirst other inSecond held => ?_) held
  by_cases equal : write = other
  · rw [equal]
  · exact Bytes.splice_comm held (apart.forall inFirst inSecond equal)

end Write

namespace Driver

/-- The workspace once each of a row of writes was made into a path. -/
def afterWrites (driver : Driver) (path : String) (writes : List Write) (workspace : Workspace Store) :
    Workspace Store :=
  writes.foldl (fun workspace write =>
    (Workspace.run (Store.answer write.clock) (driver.writeStream path write.offset write.reader) workspace).2)
    workspace

/-- Whether a workspace holds the given bytes at a path, and nothing stands against a write into them. -/
structure Holds (driver : Driver) (path : String) (workspace : Workspace Store) (held : Bytes) : Prop where
  content : (workspace.store.bucket.find? (driver.root.keyFor path)).map StoredObject.content = some held
  calm : workspace.store.composeError = none
  hasDirectory : workspace.hasDirectory = true

/-- The writes of a row whose offsets the host writes. -/
def noted (driver : Driver) (writes : List Write) : List Write :=
  writes.filter fun write => driver.host.writes write.offset

section Held

variable {driver : Driver} {path : String} (valid : Path.isValid path = true) {workspace : Workspace Store}
  {held : Bytes} (holds : driver.Holds path workspace held)
include valid holds

/-- A write into an object gives the number of its bytes, and leaves them spliced into those of the object. -/
theorem Holds.write {write : Write} (written : driver.host.writes write.offset = true) :
    let result := Workspace.run (Store.answer write.clock) (driver.writeStream path write.offset write.reader) workspace
    result.1 = .ok write.content.length ∧ driver.Holds path result.2 (write.splice held) := by
  intro result
  obtain ⟨outcome, stored⟩ :=
    Workspace.run_alone (Store.answer write.clock) (driver.writeStream path write.offset write.reader) workspace
  obtain ⟨object, found, rfl⟩ := Option.map_eq_some_iff.mp holds.content
  rw [holds.hasDirectory, run_writeStream write.clock holds.calm write.offset driver valid write.delivers
    ((Host.notes_iff found).mpr written)] at outcome stored
  refine ⟨outcome, ?_, ?_, (Workspace.run_hasDirectory _ _ workspace).trans holds.hasDirectory⟩
  · rw [stored, Bucket.put, Bucket.find?_insert, if_pos rfl, Bucket.rewritten, found]
    rfl
  · rw [stored]
    exact holds.calm

/-- A write that cannot be noted leaves the object as it was. -/
theorem Holds.write_unnoted {write : Write} (unwritten : ¬driver.host.writes write.offset = true) :
    driver.Holds path
      (Workspace.run (Store.answer write.clock) (driver.writeStream path write.offset write.reader) workspace).2
      held := by
  have stored :=
    (Workspace.run_alone (Store.answer write.clock) (driver.writeStream path write.offset write.reader) workspace).2
  obtain ⟨object, found, rfl⟩ := Option.map_eq_some_iff.mp holds.content
  rw [holds.hasDirectory, run_writeStream_unnoted write.clock holds.calm write.offset driver valid write.delivers
    fun notes => unwritten ((Host.notes_iff found).mp notes)] at stored
  refine ⟨?_, ?_, (Workspace.run_hasDirectory _ _ workspace).trans holds.hasDirectory⟩
  · rw [stored]
    exact holds.content
  · rw [stored]
    exact holds.calm

/-- Each write of a row that can be noted splices its bytes into what those before it left. -/
theorem Holds.afterWrites (writes : List Write) :
    driver.Holds path (driver.afterWrites path writes workspace) ((driver.noted writes).foldl Write.splice held) := by
  induction writes generalizing workspace held with
  | nil => exact holds
  | cons write rest ih =>
      rw [noted, List.filter_cons]
      by_cases written : driver.host.writes write.offset = true
      · rw [if_pos written]
        exact ih (holds.write valid written).2
      · rw [if_neg written]
        exact ih (holds.write_unnoted valid written)

end Held

/-- Writes into a stored object splice their bytes in one after the other, and each gives the number of its bytes; those
whose offsets the host cannot note change nothing. Writes of which no two cover a byte together leave the same bytes in
any order. A write that is made again leaves what it left. -/
theorem disjoint_writes_commute (driver : Driver) {path : String} (valid : Path.isValid path = true)
    {workspace : Workspace Store} {held : Bytes} (holds : driver.Holds path workspace held) :
    let content (writes : List Write) :=
      ((driver.afterWrites path writes workspace).store.bucket.find? (driver.root.keyFor path)).map StoredObject.content
    (∀ writes, content writes = some ((driver.noted writes).foldl Write.splice held)) ∧
      (∀ writes (write : Write), driver.host.writes write.offset = true →
        (Workspace.run (Store.answer write.clock) (driver.writeStream path write.offset write.reader)
          (driver.afterWrites path writes workspace)).1 = .ok write.content.length) ∧
      (∀ first second : List Write, first.Perm second → first.Pairwise Write.IsApart →
        content first = content second) ∧
      ∀ writes (write again : Write), again.offset = write.offset → again.content = write.content →
        content (writes ++ [write, again]) = content (writes ++ [write]) := by
  intro content
  have spliced (writes : List Write) : content writes = some ((driver.noted writes).foldl Write.splice held) :=
    (holds.afterWrites valid writes).content
  refine ⟨spliced, fun writes write written => ((holds.afterWrites valid writes).write valid written).1, ?_, ?_⟩
  · intro first second same apart
    rw [spliced, spliced]
    exact congrArg some (Write.foldl_splice_of_perm (same.filter _) (apart.filter _) held)
  · intro writes write again sameOffset sameContent
    rw [spliced, spliced, noted, noted, List.filter_append, List.filter_append, List.foldl_append, List.foldl_append]
    have twice := Bytes.splice_splice ((driver.noted writes).foldl Write.splice held) write.offset write.content
    cases written : driver.host.writes write.offset with
    | true =>
        simp only [noted, List.filter_cons, List.filter_nil, List.foldl_cons, List.foldl_nil, Write.splice, sameOffset,
          sameContent, written, if_true] at twice ⊢
        rw [twice]
    | false => simp only [List.filter_cons, List.filter_nil, sameOffset, written, Bool.false_eq_true, if_false]

/-- A write that ends an object and one behind a gap leave the same in either order, where the first fills part of the
gap. -/
theorem gap_is_filled_in_either_order :
    let driver : Driver := ⟨.ofDirectory "/reg/", 10, 60, .standard⟩
    let clock : Clock := ⟨.ofInt 1700000000⟩
    let near : Write := ⟨clock, 2, .chunks [[9], [], [8]] none, [9, 8], .chunked⟩
    let far : Write := ⟨clock, 6, .chunks [[7]] none, [7], .chunked⟩
    let content (writes : List Write) :=
      ((driver.afterWrites "/a" writes { store := { bucket := .sample } }).store.bucket.find? "reg/a").map
        StoredObject.content
    content [near, far] = some [1, 2, 9, 8, 0, 0, 7] ∧ content [far, near] = content [near, far] := by
  intro driver clock near far content
  have valid : Path.isValid "/a" = true := by decide
  have key : driver.root.keyFor "/a" = "reg/a" := by decide
  have holds : driver.Holds "/a" { store := { bucket := .sample } } [1, 2, 3] := by
    refine ⟨?_, rfl, rfl⟩
    rw [key]
    decide
  have apart : [far, near].Pairwise Write.IsApart := by
    refine List.pairwise_pair.mpr fun position both => ?_
    obtain ⟨⟨farBegins, -⟩, -, nearEnds⟩ := both
    have : position < 2 + 2 := nearEnds
    have : 6 ≤ position := farBegins
    omega
  have written : ∀ write ∈ [far, near], driver.host.writes write.offset = true := by
    simp only [List.forall_mem_cons, List.not_mem_nil, false_imp_iff, implies_true, and_true]
    exact ⟨Host.writes_of_lt (by decide : 1 ≤ 640) (by decide), Host.writes_of_lt (by decide : 1 ≤ 640) (by decide)⟩
  have all : driver.noted [far, near] = [far, near] := List.filter_eq_self.mpr written
  obtain ⟨spliced, -, commute, -⟩ := disjoint_writes_commute driver valid holds
  rw [key] at spliced commute
  have same := commute [far, near] [near, far] (List.Perm.swap near far []) apart
  refine ⟨same.symm.trans ((spliced [far, near]).trans ?_), same⟩
  rw [all]
  rfl

end Driver
end PathStore

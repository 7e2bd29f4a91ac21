/-
This file tells what reads of a download give whose body does not break off. However the body is cut into chunks, each
read gives a front of what is left of it, and none gives nothing before the end.
-/
import PathStore.Stream

namespace PathStore

namespace Download

/-- Whether a download has still to deliver the given bytes, without an interruption. -/
def Holds (download : Download) (rest : Bytes) : Prop :=
  ∃ chunks : List Bytes, download.pending = chunks.map .ok ∧
    rest = download.buffer ++ chunks.flatten.drop download.skip

/-- Skipping bytes of a first chunk and the others skips them of all chunks. -/
theorem drop_flatten_cons (skip : Nat) (chunk : Bytes) (chunks : List Bytes) :
    (chunk :: chunks).flatten.drop skip = chunk.drop skip ++ chunks.flatten.drop (skip - chunk.length) := by
  rw [List.flatten_cons, List.drop_append]

/-- The chunk that is found has a front of what is left; it is empty only if nothing is left. -/
theorem fill_of_whole (skip : Nat) (chunks : List Bytes) :
    ∃ kept later left, fill skip (chunks.map .ok) = .ok (kept, later.map .ok, left) ∧
      chunks.flatten.drop skip = kept ++ later.flatten.drop left ∧ (kept = [] → later = []) := by
  induction chunks generalizing skip with
  | nil => exact ⟨[], [], skip, rfl, rfl, fun _ => rfl⟩
  | cons chunk chunks ih =>
      rw [List.map_cons, fill, drop_flatten_cons]
      cases kept : chunk.drop skip with
      | nil =>
          obtain ⟨found, later, left, filled, split, ends⟩ := ih (skip - chunk.length)
          exact ⟨found, later, left, filled, split, ends⟩
      | cons byte bytes =>
          exact ⟨byte :: bytes, chunks, skip - chunk.length, rfl, rfl, nofun⟩

/-- All chunks together are what is left. -/
theorem gather_of_whole (skip : Nat) (chunks : List Bytes) :
    gather skip (chunks.map .ok) = .ok (chunks.flatten.drop skip) := by
  induction chunks generalizing skip with
  | nil => rw [List.flatten_nil, List.drop_nil]; rfl
  | cons chunk chunks ih =>
      rw [List.map_cons, gather, ih, drop_flatten_cons]
      rfl

variable {download : Download} {rest : Bytes} (holds : download.Holds rest)
include holds

/-- A read of at most a number of bytes gives a front of what is left, and nothing only if it asks for nothing or
nothing is left. -/
theorem exists_readSome (size : Nat) :
    ∃ chunk after later, download.readSome size = (.ok chunk, after) ∧ after.Holds later ∧ rest = chunk ++ later ∧
      (0 < size → chunk = [] → rest = []) := by
  obtain ⟨chunks, pending, rfl⟩ := holds
  rw [readSome]
  cases arrived : download.buffer with
  | nil =>
      obtain ⟨kept, later, left, filled, split, ends⟩ := fill_of_whole download.skip chunks
      simp only [List.isEmpty_nil, if_true, pending, filled, List.nil_append]
      refine ⟨kept.take size, _, _, rfl, ⟨later, rfl, rfl⟩, ?_, ?_⟩
      · rw [split, ← List.append_assoc, List.take_append_drop]
      · intro positive nothing
        have none : kept = [] := (List.take_eq_nil_iff.mp nothing).resolve_left (Nat.ne_of_gt positive)
        rw [split, none, ends none, List.flatten_nil, List.drop_nil]
        rfl
  | cons byte bytes =>
      simp only [List.isEmpty_cons, Bool.false_eq_true, if_false]
      refine ⟨(byte :: bytes).take size, _, _, rfl, ⟨chunks, pending, rfl⟩, ?_, ?_⟩
      · rw [← List.append_assoc, List.take_append_drop]
      · intro positive nothing
        have none := (List.take_eq_nil_iff.mp nothing).resolve_left (Nat.ne_of_gt positive)
        cases none

/-- A read of all gives what is left. -/
theorem exists_readAll : ∃ after, download.readAll = (.ok rest, after) ∧ after.Holds [] := by
  obtain ⟨chunks, pending, rfl⟩ := holds
  rw [readAll, pending, gather_of_whole]
  exact ⟨_, rfl, [], rfl, List.drop_nil.symm⟩

end Download

namespace Stream

/-- Whether reads of a size can be served: it fits the size of an object and there is memory for it. -/
def CanServe (size : Int) : Prop := Source.fitsIndex size = true ∧ size < Source.memoryLimit

/-- The results of reads of the given sizes, and the stream after them. -/
def readEach : Stream → List Int → List (Except Failure Bytes) × Stream
  | stream, [] => ([], stream)
  | stream, size :: sizes =>
      let (result, after) := stream.read size
      let (results, last) := after.readEach sizes
      (result :: results, last)

/-- The bytes of the reads that succeed. -/
def delivered (results : List (Except Failure Bytes)) : Bytes := results.flatMap fun result => result.toOption.getD []

/-- What reads give of a stream, whatever sizes they ask for: always a front of the content, in reads that succeed if
their size can be served; a read of all gives what is left, and one of a positive size gives nothing only at the end. -/
structure Delivers (stream : Stream) (content : Bytes) : Prop where
  front : ∀ sizes, delivered (stream.readEach sizes).1 <+: content
  succeeds : ∀ sizes size, CanServe size → ∃ chunk, ((stream.readEach sizes).2.read size).1 = .ok chunk
  all : ∀ sizes size, CanServe size → size < 0 →
    ∃ rest, ((stream.readEach sizes).2.read size).1 = .ok rest ∧ delivered (stream.readEach sizes).1 ++ rest = content
  ends : ∀ sizes size, 0 < size → ((stream.readEach sizes).2.read size).1 = .ok [] →
    delivered (stream.readEach sizes).1 = content

theorem delivered_cons (result : Except Failure Bytes) (results : List (Except Failure Bytes)) :
    delivered (result :: results) = result.toOption.getD [] ++ delivered results := List.flatMap_cons

section Holds

variable {download : Download} {rest : Bytes} (holds : download.Holds rest)
include holds

/-- A read gives a front of what is left, or fails and takes nothing. If its size can be served, it succeeds and gives
all of it for a negative size; for a positive size it gives nothing only at the end. -/
theorem exists_read (size : Int) :
    ∃ result after later, (Stream.download download).read size = (result, .download after) ∧ after.Holds later ∧
      rest = result.toOption.getD [] ++ later ∧
      (CanServe size → ∃ chunk, result = .ok chunk ∧ (size < 0 → chunk = rest)) ∧
      (0 < size → result = .ok [] → rest = []) := by
  cases fits : Source.fitsIndex size with
  | false =>
      simp only [read, fits, Bool.not_false, if_true]
      exact ⟨_, download, rest, rfl, holds, rfl, fun served => absurd (fits ▸ served.1) nofun, nofun⟩
  | true =>
      simp only [read, fits, Bool.not_true, Bool.false_eq_true, if_false, Download.read]
      by_cases negative : size < 0
      · obtain ⟨after, given, holdsNothing⟩ := Download.exists_readAll holds
        simp only [negative, if_true, given]
        exact ⟨.ok rest, after, [], rfl, holdsNothing, (List.append_nil rest).symm, fun _ => ⟨rest, rfl, fun _ => rfl⟩,
          fun positive => by omega⟩
      · by_cases large : Source.memoryLimit ≤ size
        · simp only [negative, large, if_true, if_false]
          exact ⟨_, download, rest, rfl, holds, rfl, fun served => absurd served.2 (Int.not_lt.mpr large), nofun⟩
        · obtain ⟨chunk, after, later, given, holdsLater, split, ends⟩ := Download.exists_readSome holds size.toNat
          simp only [negative, large, if_false, given]
          refine ⟨.ok chunk, after, later, rfl, holdsLater, split, fun _ => ⟨chunk, rfl, False.elim⟩, ?_⟩
          exact fun positive nothing => ends (by omega) (Except.ok.inj nothing)

/-- After any reads what they gave and what is left make up the content. -/
theorem exists_readEach (sizes : List Int) :
    ∃ after later, ((Stream.download download).readEach sizes).2 = .download after ∧ after.Holds later ∧
      rest = delivered ((Stream.download download).readEach sizes).1 ++ later := by
  induction sizes generalizing download rest with
  | nil => exact ⟨download, rest, rfl, holds, rfl⟩
  | cons size sizes ih =>
      obtain ⟨result, between, left, given, holdsLeft, split, -⟩ := exists_read holds size
      obtain ⟨after, later, last, holdsLater, splitLeft⟩ := ih holdsLeft
      rw [readEach, given]
      refine ⟨after, later, last, holdsLater, ?_⟩
      dsimp only
      rw [delivered_cons, List.append_assoc, ← splitLeft, split]

/-- A download delivers what it holds. -/
theorem delivers_of_holds : (Stream.download download).Delivers rest where
  front sizes := by
    obtain ⟨after, later, -, -, split⟩ := exists_readEach holds sizes
    exact ⟨later, split.symm⟩
  succeeds sizes size served := by
    obtain ⟨after, later, last, holdsLater, -⟩ := exists_readEach holds sizes
    obtain ⟨_, _, _, given, -, -, succeeds, -⟩ := exists_read holdsLater size
    obtain ⟨chunk, rfl, -⟩ := succeeds served
    rw [last, given]
    exact ⟨chunk, rfl⟩
  all sizes size served negative := by
    obtain ⟨after, later, last, holdsLater, split⟩ := exists_readEach holds sizes
    obtain ⟨_, _, _, given, -, -, succeeds, -⟩ := exists_read holdsLater size
    obtain ⟨chunk, rfl, whole⟩ := succeeds served
    rw [last, given, whole negative]
    exact ⟨later, rfl, split.symm⟩
  ends sizes size positive nothing := by
    obtain ⟨after, later, last, holdsLater, split⟩ := exists_readEach holds sizes
    obtain ⟨_, _, _, given, -, -, -, ends⟩ := exists_read holdsLater size
    rw [last, given] at nothing
    rw [ends positive nothing, List.append_nil] at split
    exact split.symm

end Holds
end Stream
end PathStore

/-
This file tells what reads give that go on until one gives nothing: the front of what a source delivers, whatever the
sizes that are asked for and however short the reads are.
-/
import Mathlib.Algebra.Group.Int.Defs
import PathStore.Source.Bounded
import PathStore.Source.Exact

namespace PathStore

namespace Source

/-- All that a source delivers. -/
def content : Source → Bytes
  | .memory content position | .file content position => content.drop position
  | .zeros remaining => Bytes.zeros remaining.toNat
  | .pieces pending => pending.flatten

/-- A source once it has delivered a number of bytes; where the pieces are cut does not count. -/
def skip : Source → Nat → Source
  | .memory content position, count => .memory content (position + count)
  | .file content position, count => .file content (position + count)
  | .zeros remaining, count => .zeros (remaining - count)
  | .pieces pending, count => .pieces [pending.flatten.drop count]

/-- The size from which on a read asks a source for more than memory can hold, if there is one. -/
def limit? : Source → Option Int
  | .memory .. => some (2 ^ 63)
  | .file .. => some memoryLimit
  | .zeros _ | .pieces _ => none

/-- Whether reads may ask a source for as many bytes as a size. -/
def Grants (source : Source) (size : Int) : Prop := ∀ limit, source.limit? = some limit → size < limit

/-- Whether a source can be read at all: a gap has no fewer than no bytes. -/
def IsSound : Source → Prop
  | .zeros remaining => 0 ≤ remaining
  | _ => True

theorem content_skip (source : Source) (count : Nat) : (source.skip count).content = source.content.drop count := by
  cases source with
  | memory held position | file held position => rw [skip, content, content, List.drop_drop]
  | zeros remaining =>
      have left : (remaining - count).toNat = remaining.toNat - count := by omega
      rw [skip, content, content, left, Bytes.zeros, Bytes.zeros, List.drop_replicate]
  | pieces pending => simp [skip, content]

theorem skip_skip (source : Source) (first second : Nat) :
    (source.skip first).skip second = source.skip (first + second) := by
  cases source with
  | memory held position | file held position => rw [skip, skip, skip, Nat.add_assoc]
  | zeros remaining =>
      have left : remaining - first - second = remaining - (first + second : Nat) := by omega
      rw [skip, skip, skip, left]
  | pieces pending => simp [skip]

@[simp] theorem limit?_skip (source : Source) (count : Nat) : (source.skip count).limit? = source.limit? := by
  cases source <;> rfl

theorem Grants.of_le {source : Source} {size smaller : Int} (grants : source.Grants size) (le : smaller ≤ size) :
    source.Grants smaller :=
  fun limit limits => Int.lt_of_le_of_lt le (grants limit limits)

/-- Every source can be asked for less than a local file can give. -/
theorem grants_of_lt_memoryLimit (source : Source) {size : Int} (small : size < memoryLimit) : source.Grants size := by
  intro limit limits
  have less : memoryLimit < 2 ^ 63 := by decide
  cases source with
  | memory held position =>
      obtain rfl := Option.some.inj limits
      exact Int.lt_trans small less
  | file held position =>
      obtain rfl := Option.some.inj limits
      exact small
  | _ => cases limits

theorem isSound_skip_zero (source : Source) : (source.skip 0).IsSound ↔ source.IsSound := by
  cases source with
  | zeros remaining =>
      show 0 ≤ remaining - (0 : Nat) ↔ 0 ≤ remaining
      omega
  | _ => exact Iff.rfl

/-- Whether two sources differ in no more than where their pieces are cut. -/
def Alike (first second : Source) : Prop := first.skip 0 = second.skip 0

namespace Alike

variable {first second : Source} (alike : Alike first second)
include alike

theorem content_eq : first.content = second.content := by
  have same := congrArg content alike
  rwa [content_skip, content_skip, List.drop_zero, List.drop_zero] at same

theorem limit?_eq : first.limit? = second.limit? := by
  have same := congrArg limit? alike
  rwa [limit?_skip, limit?_skip] at same

theorem grants_iff (size : Int) : first.Grants size ↔ second.Grants size := by
  rw [Grants, Grants, alike.limit?_eq]

theorem isSound_iff : first.IsSound ↔ second.IsSound := by
  rw [← isSound_skip_zero, alike, isSound_skip_zero]

theorem skip_eq (count : Nat) : first.skip count = second.skip count := by
  rw [← Nat.zero_add count, ← skip_skip, alike, skip_skip]

end Alike

theorem flatten_dropWhile_isEmpty (pending : List Bytes) :
    (pending.dropWhile List.isEmpty).flatten = pending.flatten := by
  induction pending with
  | nil => rfl
  | cons piece rest ih =>
      cases piece with
      | nil => exact ih
      | cons byte more => rfl

/-- What a read that asks for some bytes gives: a front of what the source delivers, and nothing only at its end. -/
structure Delivers (source : Source) (size : Int) (chunk : Bytes) (after : Source) : Prop where
  front : source.content = chunk ++ after.content
  within : (chunk.length : Int) ≤ size
  ends : chunk = [] → source.content = []
  rest : after.skip 0 = source.skip chunk.length
  sound : source.IsSound
  soundAfter : after.IsSound

/-- What a source has delivered does not change how much it can be asked for. -/
theorem Delivers.grants {source after : Source} {size most : Int} {chunk : Bytes}
    (delivers : source.Delivers size chunk after) (grants : source.Grants most) : after.Grants most := by
  rwa [Grants, ← limit?_skip after 0, delivers.rest, limit?_skip]

section Read

variable {size : Int} {chunk : Bytes} {after : Source} (positive : 0 < size)
include positive

/-- A read that takes as much as it asks for delivers. -/
theorem delivers_take (source : Source) (sound : ∀ count, (source.skip count).IsSound) :
    source.Delivers size (source.content.take size.toNat)
      (source.skip (source.content.take size.toNat).length) := by
  refine ⟨?_, ?_, ?_, ?_, (isSound_skip_zero source).mp (sound 0), sound _⟩
  · rw [content_skip, List.length_take, List.take_eq_take_min, List.take_append_drop]
  · rw [List.length_take]
    omega
  · intro nothing
    exact (List.take_eq_nil_iff.mp nothing).resolve_left (by omega)
  · rw [skip_skip, Nat.add_zero]

theorem delivers_of_read_memory {held : Bytes} {position : Nat}
    (reading : (memory held position).read size = (.ok chunk, after)) :
    (memory held position).Delivers size chunk after := by
  have notNegative : ¬size < 0 := by omega
  simp only [read, notNegative, if_false] at reading
  split at reading
  · obtain ⟨given, rfl⟩ := Prod.mk.inj reading
    obtain rfl := Except.ok.inj given
    exact delivers_take positive (memory held position) fun _ => trivial
  · cases (Prod.mk.inj reading).1

theorem delivers_of_read_file {held : Bytes} {position : Nat}
    (reading : (file held position).read size = (.ok chunk, after)) :
    (file held position).Delivers size chunk after := by
  have notNegative : ¬size < 0 := by omega
  simp only [read, notNegative, if_false] at reading
  split at reading
  · cases (Prod.mk.inj reading).1
  · obtain ⟨given, rfl⟩ := Prod.mk.inj reading
    obtain rfl := Except.ok.inj given
    exact delivers_take positive (file held position) fun _ => trivial

/-- A gap that can be read at all gives as many zeros as are asked for, as are left and as one read gives. -/
theorem exists_count_of_read_zeros {remaining : Int} (reading : (zeros remaining).read size = (.ok chunk, after)) :
    ∃ count : Nat, (count : Int) = min (min size remaining) mebibyte ∧ chunk = Bytes.zeros count ∧
      after = zeros (remaining - count) := by
  have notNegative : ¬size < 0 := by omega
  simp only [read, notNegative, if_false] at reading
  split at reading
  · cases (Prod.mk.inj reading).1
  · split at reading
    · cases (Prod.mk.inj reading).1
    · rename_i notBelow
      have counted := Int.toNat_of_nonneg (Int.not_lt.mp notBelow)
      obtain ⟨given, rfl⟩ := Prod.mk.inj reading
      exact ⟨_, counted, (Except.ok.inj given).symm, by rw [counted]⟩

theorem delivers_of_read_zeros {remaining : Int} (reading : (zeros remaining).read size = (.ok chunk, after)) :
    (zeros remaining).Delivers size chunk after := by
  obtain ⟨count, counted, rfl, rfl⟩ := exists_count_of_read_zeros positive reading
  have inside : (count : Int) ≤ remaining := by omega
  refine ⟨?_, ?_, ?_, ?_, Int.le_trans (Int.natCast_nonneg count) inside, Int.sub_nonneg_of_le inside⟩
  · have whole : remaining.toNat = count + (remaining - count).toNat := by omega
    rw [content, content, whole, Bytes.zeros, Bytes.zeros, Bytes.zeros, List.replicate_append_replicate]
  · rw [Bytes.length_zeros]
    omega
  · intro nothing
    have none : count = 0 := (List.replicate_eq_nil_iff 0).mp nothing
    have atEnd : remaining.toNat = 0 := by
      simp only [mebibyte] at counted
      omega
    rw [content, atEnd]
    rfl
  · rw [skip, skip, Bytes.length_zeros, Int.natCast_zero, Int.sub_zero]

theorem delivers_of_read_pieces {pending : List Bytes} (reading : (pieces pending).read size = (.ok chunk, after)) :
    (pieces pending).Delivers size chunk after := by
  have notNegative : ¬size < 0 := by omega
  have same := flatten_dropWhile_isEmpty pending
  simp only [read, notNegative, if_false] at reading
  split at reading
  · rename_i finished
    obtain ⟨given, rfl⟩ := Prod.mk.inj reading
    obtain rfl := Except.ok.inj given
    have nothing : pending.flatten = [] := by
      rw [← same, finished]
      rfl
    refine ⟨nothing, Int.le_of_lt positive, fun _ => nothing, ?_, trivial, trivial⟩
    rw [skip, skip, nothing]
    rfl
  · rename_i piece rest first
    obtain ⟨given, rfl⟩ := Prod.mk.inj reading
    obtain rfl := Except.ok.inj given
    have filled : piece ≠ [] := by
      have head := List.head?_dropWhile_not List.isEmpty pending
      rw [first] at head
      exact List.isEmpty_eq_false_iff.mp head
    rw [first, List.flatten_cons] at same
    refine ⟨?_, ?_, ?_, ?_, trivial, trivial⟩
    · rw [content, content, ← same, List.flatten_cons, ← List.append_assoc, List.take_append_drop]
    · rw [List.length_take]
      omega
    · intro nothing
      exact absurd ((List.take_eq_nil_iff.mp nothing).resolve_left (by omega)) filled
    · have taken : piece.take size.toNat ++ (piece.drop size.toNat ++ rest.flatten) = pending.flatten := by
        rw [← List.append_assoc, List.take_append_drop, same]
      rw [skip, skip, ← taken, List.drop_left]
      rfl

/-- A read that succeeds delivers, from whatever kind of source. -/
theorem delivers_of_read {source : Source} (reading : source.read size = (.ok chunk, after)) :
    source.Delivers size chunk after := by
  cases source with
  | memory held position => exact delivers_of_read_memory positive reading
  | file held position => exact delivers_of_read_file positive reading
  | zeros remaining => exact delivers_of_read_zeros positive reading
  | pieces pending => exact delivers_of_read_pieces positive reading

end Read

/-- A sound source can be read, if it is not asked for more than memory can hold. -/
theorem exists_read {source : Source} (sound : source.IsSound) {size : Int} (positive : 0 < size)
    (grants : source.Grants size) : ∃ chunk after, source.read size = (.ok chunk, after) := by
  have bound : Int.pow 2 63 = 9223372036854775808 := rfl
  cases source with
  | memory held position =>
      have small : size < 2 ^ 63 := grants _ rfl
      have fits : fitsIndex size = true := by
        simp only [fitsIndex, bound, Bool.decide_and, Bool.and_eq_true, decide_eq_true_eq]
        omega
      simp only [read, fits, Bool.true_or, if_true]
      exact ⟨_, _, rfl⟩
  | file held position =>
      have small : size < memoryLimit := grants _ rfl
      have limit : memoryLimit = 1099511627776 := rfl
      have fits : fileFault? size = none := by
        rw [fileFault?, if_neg (by simp [fitsIndex]; omega), if_neg (by omega), if_neg (Int.not_le.mpr small)]
      simp only [read, fits]
      exact ⟨_, _, rfl⟩
  | zeros remaining =>
      obtain ⟨left, rfl⟩ := Int.eq_ofNat_of_zero_le sound
      exact ⟨_, _, read_zeros size rfl⟩
  | pieces pending =>
      simp only [read, Int.not_lt.mpr (Int.le_of_lt positive), if_false]
      split <;> exact ⟨_, _, rfl⟩

end Source

namespace Bounded

/-- All that a limited source delivers. -/
def content (bounded : Bounded) : Bytes := bounded.source.content.take bounded.remaining.toNat

/-- A read of a limited source gives a front of what it delivers, and nothing only at its end. -/
structure Delivers (bounded : Bounded) (chunk : Bytes) (after : Bounded) : Prop where
  front : bounded.content = chunk ++ after.content
  ends : chunk = [] → bounded.content = []
  rest : after.source.skip 0 = bounded.source.skip chunk.length
  left : after.remaining = bounded.remaining - chunk.length
  sound : 0 < bounded.remaining → bounded.source.IsSound
  soundAfter : bounded.source.IsSound → after.source.IsSound

theorem delivers_of_read {bounded after : Bounded} {size : Int} {chunk : Bytes} (positive : 0 < size)
    (reading : bounded.read size = (.ok chunk, after)) : bounded.Delivers chunk after := by
  rw [read] at reading
  by_cases finished : bounded.remaining ≤ 0
  · rw [if_pos finished] at reading
    obtain ⟨given, rfl⟩ := Prod.mk.inj reading
    obtain rfl := Except.ok.inj given
    have nothing : bounded.content = [] := by
      rw [content, Int.toNat_of_nonpos finished, List.take_zero]
    exact ⟨rfl, fun _ => nothing, rfl, (Int.sub_zero _).symm, fun left => absurd finished (Int.not_le.mpr left), id⟩
  · rw [if_neg finished] at reading
    dsimp only at reading
    obtain ⟨asked, chosen⟩ : ∃ asked, asked = if size < 0 ∨ bounded.remaining < size then bounded.remaining else size :=
      ⟨_, rfl⟩
    rw [← chosen] at reading
    have most : 0 < asked ∧ asked ≤ bounded.remaining := by
      split at chosen <;> omega
    split at reading
    · rename_i given used below
      obtain ⟨same, rfl⟩ := Prod.mk.inj reading
      obtain rfl := Except.ok.inj same
      have delivers := Source.delivers_of_read most.1 below
      have short := delivers.within
      refine ⟨?_, ?_, delivers.rest, rfl, fun _ => delivers.sound, fun _ => delivers.soundAfter⟩
      · have left : bounded.remaining.toNat = given.length + (bounded.remaining - given.length).toNat := by omega
        rw [content, content, delivers.front, left, List.take_length_add_append]
      · intro nothing
        rw [content, delivers.ends nothing, List.take_nil]
    · cases (Prod.mk.inj reading).1

theorem Delivers.shorter {bounded after : Bounded} {chunk : Bytes} (delivers : bounded.Delivers chunk after)
    (filled : chunk ≠ []) : after.remaining.toNat < bounded.remaining.toNat := by
  have some : 0 < chunk.length := List.length_pos_iff.mpr filled
  have front := congrArg List.length delivers.front
  have left := delivers.left
  rw [content, List.length_take, List.length_append] at front
  omega

/-- One way in which a limited source is sent: reads of any positive sizes, up to one that gives nothing. -/
inductive Sends : Bounded → Bytes → Bounded → Prop
  | finished {bounded after : Bounded} {size : Int} (positive : 0 < size)
      (reading : bounded.read size = (.ok [], after)) : Sends bounded [] after
  | more {bounded after last : Bounded} {size : Int} {chunk rest : Bytes} (positive : 0 < size)
      (reading : bounded.read size = (.ok chunk, after)) (filled : chunk ≠ []) (sends : Sends after rest last) :
      Sends bounded (chunk ++ rest) last

/-- Whatever the sizes of the reads, what is sent is all that the limited source delivers. -/
theorem Sends.delivers {bounded last : Bounded} {sent : Bytes} (sends : bounded.Sends sent last) :
    sent = bounded.content ∧ last.source.skip 0 = bounded.source.skip sent.length := by
  induction sends with
  | finished positive reading =>
      have delivers := delivers_of_read positive reading
      exact ⟨(delivers.ends rfl).symm, delivers.rest⟩
  | @more bounded after last size chunk rest positive reading filled sends ih =>
      have delivers := delivers_of_read positive reading
      have later : after.source.skip rest.length = bounded.source.skip (chunk.length + rest.length) := by
        rw [← Nat.zero_add rest.length, ← Source.skip_skip, delivers.rest, Source.skip_skip]
        simp
      refine ⟨?_, ?_⟩
      · rw [delivers.front, ih.1]
      · rw [ih.2, later, List.length_append]

theorem Sends.sound {bounded last : Bounded} {sent : Bytes} (sends : bounded.Sends sent last)
    (left : 0 < bounded.remaining) : bounded.source.IsSound := by
  cases sends with
  | finished positive reading => exact (delivers_of_read positive reading).sound left
  | more positive reading filled sends => exact (delivers_of_read positive reading).sound left

theorem exists_read {bounded : Bounded} (sound : bounded.source.IsSound) {size : Int} (positive : 0 < size)
    (grants : bounded.source.Grants size) : ∃ chunk after, bounded.read size = (.ok chunk, after) := by
  rw [read]
  by_cases finished : bounded.remaining ≤ 0
  · exact ⟨[], bounded, if_pos finished⟩
  · rw [if_neg finished]
    dsimp only
    obtain ⟨asked, chosen⟩ : ∃ asked, asked = if size < 0 ∨ bounded.remaining < size then bounded.remaining else size :=
      ⟨_, rfl⟩
    have most : 0 < asked ∧ asked ≤ size := by
      split at chosen <;> omega
    obtain ⟨chunk, after, reading⟩ := Source.exists_read sound most.1 (grants.of_le most.2)
    rw [← chosen, reading]
    exact ⟨_, _, rfl⟩

/-- Fuel for each byte that the limit lets through is enough to come to the end. -/
theorem sends_of_drainWith {fuel : Nat} {bounded last : Bounded} {sent : Bytes}
    (enough : bounded.remaining.toNat < fuel) (drained : bounded.drainWith fuel = (.ok sent, last)) :
    bounded.Sends sent last := by
  induction fuel generalizing bounded sent with
  | zero => omega
  | succ fuel ih =>
      rw [drainWith] at drained
      split at drained
      · cases (Prod.mk.inj drained).1
      · rename_i chunk after reading
        have positive : 0 < formChunk := by decide
        split at drained
        · rename_i nothing
          obtain ⟨given, rfl⟩ := Prod.mk.inj drained
          obtain rfl := Except.ok.inj given
          exact .finished positive (List.isEmpty_iff.mp nothing ▸ reading)
        · rename_i filled
          rw [List.isEmpty_iff] at filled
          have shorter := (delivers_of_read positive reading).shorter filled
          split at drained
          · rename_i rest ended later
            obtain ⟨given, rfl⟩ := Prod.mk.inj drained
            obtain rfl := Except.ok.inj given
            exact .more positive reading filled (ih (by omega) later)
          · cases (Prod.mk.inj drained).1

/-- What a form carries of a limited source is one way to send it. -/
theorem sends_of_drain {bounded last : Bounded} {sent : Bytes} (drained : bounded.drain = (.ok sent, last)) :
    bounded.Sends sent last := sends_of_drainWith (Nat.lt_succ_self _) drained

theorem exists_drainWith (fuel : Nat) (bounded : Bounded) (sound : bounded.source.IsSound) :
    ∃ sent last, bounded.drainWith fuel = (.ok sent, last) ∧ last.source.IsSound := by
  induction fuel generalizing bounded with
  | zero => exact ⟨[], bounded, rfl, sound⟩
  | succ fuel ih =>
      have positive : 0 < formChunk := by decide
      obtain ⟨chunk, after, reading⟩ := exists_read sound positive (Source.grants_of_lt_memoryLimit _ (by decide))
      have soundAfter := (delivers_of_read positive reading).soundAfter sound
      rw [drainWith, reading]
      dsimp only
      split
      · exact ⟨[], after, rfl, soundAfter⟩
      · obtain ⟨rest, last, later, soundLast⟩ := ih after soundAfter
        rw [later]
        exact ⟨_, _, rfl, soundLast⟩

theorem Sends.limit?_eq {bounded last : Bounded} {sent : Bytes} (sends : bounded.Sends sent last) :
    last.source.limit? = bounded.source.limit? := by
  rw [← Source.limit?_skip last.source 0, sends.delivers.2, Source.limit?_skip]

theorem Sends.length_le {bounded last : Bounded} {sent : Bytes} (sends : bounded.Sends sent last) :
    sent.length ≤ bounded.remaining.toNat := by
  rw [sends.delivers.1, content, List.length_take]
  exact Nat.min_le_left ..

end Bounded

namespace Source

/-- The chunks in which a source is read up to a length: each read asks for all that is missing, until nothing is
missing or a read gives nothing. -/
inductive Collects : Source → Nat → List Bytes → Source → Prop
  | full (source : Source) : Collects source 0 [] source
  | ended {source after : Source} {missing : Nat} (positive : 0 < missing)
      (reading : source.read missing = (.ok [], after)) : Collects source missing [] after
  | more {source after last : Source} {missing : Nat} {chunk : Bytes} {chunks : List Bytes} (positive : 0 < missing)
      (reading : source.read missing = (.ok chunk, after)) (filled : chunk ≠ [])
      (collects : Collects after (missing - chunk.length) chunks last) : Collects source missing (chunk :: chunks) last

/-- What is read up to a length is put together of such chunks. -/
theorem exists_collects {fuel : Nat} {source last : Source} {remaining : Nat} {content : Bytes}
    (enough : remaining ≤ fuel) (reading : source.readUpTo fuel remaining = (.ok content, last)) :
    ∃ chunks, source.Collects remaining chunks last ∧ chunks.flatten = content := by
  induction fuel generalizing source remaining content with
  | zero =>
      obtain rfl : remaining = 0 := by omega
      obtain ⟨given, rfl⟩ := Prod.mk.inj reading
      exact ⟨[], .full source, Except.ok.inj given⟩
  | succ fuel ih =>
      rw [readUpTo] at reading
      split at reading
      · rename_i none
        subst none
        obtain ⟨given, rfl⟩ := Prod.mk.inj reading
        exact ⟨[], .full source, Except.ok.inj given⟩
      · rename_i some
        have positive : 0 < remaining := Nat.pos_of_ne_zero some
        split at reading
        · cases (Prod.mk.inj reading).1
        · rename_i chunk after below
          split at reading
          · rename_i nothing
            obtain ⟨given, rfl⟩ := Prod.mk.inj reading
            exact ⟨[], .ended positive (List.isEmpty_iff.mp nothing ▸ below), Except.ok.inj given⟩
          · rename_i filled
            rw [List.isEmpty_iff] at filled
            have some : 0 < chunk.length := List.length_pos_iff.mpr filled
            split at reading
            · rename_i rest ended later
              obtain ⟨given, rfl⟩ := Prod.mk.inj reading
              obtain rfl := Except.ok.inj given
              obtain ⟨chunks, collects, rfl⟩ := ih (by omega) later
              exact ⟨chunk :: chunks, .more positive below filled collects, List.flatten_cons⟩
            · cases (Prod.mk.inj reading).1

/-- Chunks in which a source is read up to a length are one way to send the source limited to the length. -/
theorem Collects.sends {source last : Source} {missing : Nat} {chunks : List Bytes}
    (collects : source.Collects missing chunks last) :
    ∃ left, (Bounded.mk source missing).Sends chunks.flatten ⟨last, left⟩ := by
  have limited {source after : Source} {missing : Nat} {chunk : Bytes} (positive : 0 < missing)
      (reading : source.read missing = (.ok chunk, after)) :
      (Bounded.mk source missing).read missing = (.ok chunk, ⟨after, (missing - chunk.length : Nat)⟩) := by
    have some : 0 < (missing : Int) := by omega
    have within := (delivers_of_read some reading).within
    have less : (missing : Int) - chunk.length = (missing - chunk.length : Nat) := by omega
    have asked : ¬((missing : Int) < 0 ∨ (missing : Int) < missing) := by omega
    simp only [Bounded.read, Int.not_le.mpr some, asked, if_false, reading, less]
  induction collects with
  | full source => exact ⟨_, .finished Int.one_pos rfl⟩
  | ended positive reading => exact ⟨_, .finished (by omega) (limited positive reading)⟩
  | more positive reading filled _ ih =>
      obtain ⟨left, sends⟩ := ih
      exact ⟨left, .more (by omega) (limited positive reading) filled sends⟩

/-- What is read up to a length is one way to send a source that is limited to the length. -/
theorem sends_of_readUpTo {fuel : Nat} {source last : Source} {remaining : Nat} {content : Bytes}
    (enough : remaining ≤ fuel) (reading : source.readUpTo fuel remaining = (.ok content, last)) :
    ∃ left, (Bounded.mk source remaining).Sends content ⟨last, left⟩ := by
  obtain ⟨chunks, collects, rfl⟩ := exists_collects enough reading
  exact collects.sends

theorem exists_readUpTo (fuel : Nat) {source : Source} {remaining : Nat} (sound : source.IsSound)
    (grants : source.Grants remaining) :
    ∃ content last, source.readUpTo fuel remaining = (.ok content, last) := by
  induction fuel generalizing source remaining with
  | zero => exact ⟨[], source, rfl⟩
  | succ fuel ih =>
      rw [readUpTo]
      split
      · exact ⟨[], source, rfl⟩
      · rename_i some
        have positive : 0 < (remaining : Int) := by omega
        obtain ⟨chunk, after, reading⟩ := exists_read sound positive grants
        have delivers := delivers_of_read positive reading
        rw [reading]
        dsimp only
        split
        · exact ⟨[], after, rfl⟩
        · have fewer : after.Grants (remaining - chunk.length : Nat) := (delivers.grants grants).of_le (by omega)
          obtain ⟨rest, last, later⟩ := ih delivers.soundAfter fewer
          rw [later]
          exact ⟨_, _, rfl⟩

/-- What is sent of a source that is limited to a length is also what a like source gives that is read up to the length,
if memory can hold as much. -/
theorem readExactly_of_sends {source held : Source} {length : Int} {sent : Bytes} {last : Bounded}
    (sends : (Bounded.mk source length).Sends sent last) (alike : source.Alike held)
    (grants : held.Grants length) :
    ∃ used, held.readExactly length = (.ok sent, used) ∧ last.source.Alike used := by
  have whole := sends.delivers
  by_cases some : 0 < length
  · have same : ((length.toNat : Nat) : Int) = length := Int.toNat_of_nonneg (Int.le_of_lt some)
    have sound : held.IsSound := alike.isSound_iff.mp (sends.sound some)
    obtain ⟨content, used, reading⟩ := exists_readUpTo length.toNat sound (by rwa [same])
    obtain ⟨left, read⟩ := sends_of_readUpTo (Nat.le_refl _) reading
    have given := read.delivers
    rw [same] at given
    have agree : content = sent := by
      rw [given.1, whole.1, Bounded.content, Bounded.content, alike.content_eq]
    subst agree
    exact ⟨used, reading, whole.2.trans ((alike.skip_eq _).trans given.2.symm)⟩
  · have none : length.toNat = 0 := Int.toNat_of_nonpos (Int.not_lt.mp some)
    have nothing : sent = [] := by rw [whole.1, Bounded.content, none, List.take_zero]
    subst nothing
    refine ⟨held, ?_, whole.2.trans alike⟩
    rw [readExactly, none]
    rfl

end Source
end PathStore

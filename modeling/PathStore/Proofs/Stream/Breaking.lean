/-
This file tells what reads of a download give whose body breaks off. All that has arrived before the break is delivered;
then one read fails by the break itself, and only after that read does the stream end.
-/
import PathStore.Proofs.Stream.Reading

namespace PathStore

namespace Download

/-- Whether a download has still to deliver the given bytes before it breaks off. -/
def Breaks (download : Download) (rest : Bytes) (interruption : Interruption) : Prop :=
  ∃ (chunks : List Bytes) (later : List (Except Interruption Bytes)),
    download.pending = chunks.map .ok ++ .error interruption :: later ∧
      rest = download.buffer ++ chunks.flatten.drop download.skip

section Chunks

variable (skip : Nat) (chunks : List Bytes) (interruption : Interruption) (later : List (Except Interruption Bytes))

/-- Where all chunks before a break are skipped, the break is found. -/
theorem fill_of_skipped (nothing : chunks.flatten.drop skip = []) :
    fill skip (chunks.map .ok ++ .error interruption :: later) = .error interruption := by
  induction chunks generalizing skip with
  | nil => rfl
  | cons chunk chunks ih =>
      rw [drop_flatten_cons] at nothing
      obtain ⟨skipped, rest⟩ := List.append_eq_nil_iff.mp nothing
      rw [List.map_cons, List.cons_append, fill, skipped]
      exact ih (skip - chunk.length) rest

/-- Where chunks before a break bring bytes, the first of them are found. -/
theorem fill_of_brought (something : chunks.flatten.drop skip ≠ []) :
    ∃ (kept : Bytes) (others : List Bytes) (left : Nat), fill skip (chunks.map .ok ++ .error interruption :: later) =
        .ok (kept, others.map .ok ++ .error interruption :: later, left) ∧
      chunks.flatten.drop skip = kept ++ others.flatten.drop left ∧ kept ≠ [] := by
  induction chunks generalizing skip with
  | nil => exact absurd List.drop_nil something
  | cons chunk chunks ih =>
      rw [drop_flatten_cons] at something ⊢
      rw [List.map_cons, List.cons_append, fill]
      cases kept : chunk.drop skip with
      | nil =>
          rw [kept, List.nil_append] at something
          obtain ⟨found, others, left, filled, split, brings⟩ := ih (skip - chunk.length) something
          exact ⟨found, others, left, filled, split, brings⟩
      | cons byte bytes =>
          exact ⟨byte :: bytes, chunks, skip - chunk.length, rfl, rfl, List.cons_ne_nil byte bytes⟩

/-- All chunks together cannot be had across a break. -/
theorem gather_of_broken :
    gather skip (chunks.map .ok ++ .error interruption :: later) = .error interruption := by
  induction chunks generalizing skip with
  | nil => rfl
  | cons chunk chunks ih =>
      rw [List.map_cons, List.cons_append, gather, ih]
      rfl

end Chunks

variable {download : Download} {rest : Bytes} {interruption : Interruption}
  (breaks : download.Breaks rest interruption)
include breaks

/-- A read at the break fails, and nothing is left. -/
theorem readSome_of_broken (size : Nat) (nothing : rest = []) :
    ∃ after, download.readSome size = (.error (.interrupted interruption), after) ∧ after.Holds [] := by
  obtain ⟨chunks, later, pending, rfl⟩ := breaks
  obtain ⟨arrived, skipped⟩ := List.append_eq_nil_iff.mp nothing
  rw [readSome, arrived, pending, fill_of_skipped _ _ _ _ skipped]
  exact ⟨_, rfl, [], rfl, List.drop_nil.symm⟩

/-- A read before the break gives a front of what is left, and something if it asks for something. -/
theorem readSome_of_arrived (size : Nat) (something : rest ≠ []) :
    ∃ chunk after later, download.readSome size = (.ok chunk, after) ∧ after.Breaks later interruption ∧
      rest = chunk ++ later ∧ (0 < size → chunk ≠ []) := by
  obtain ⟨chunks, later, pending, rfl⟩ := breaks
  rw [readSome]
  cases arrived : download.buffer with
  | nil =>
      rw [arrived, List.nil_append] at something
      obtain ⟨kept, others, left, filled, split, brings⟩ :=
        fill_of_brought download.skip chunks interruption later something
      simp only [List.isEmpty_nil, if_true, pending, filled, List.nil_append]
      refine ⟨kept.take size, _, _, rfl, ⟨others, later, rfl, rfl⟩, ?_, fun positive none => ?_⟩
      · rw [split, ← List.append_assoc, List.take_append_drop]
      · exact (List.take_eq_nil_iff.mp none).elim (Nat.ne_of_gt positive) brings
  | cons byte bytes =>
      simp only [List.isEmpty_cons, Bool.false_eq_true, if_false]
      refine ⟨(byte :: bytes).take size, _, _, rfl, ⟨chunks, later, pending, rfl⟩, ?_, fun positive none => ?_⟩
      · rw [← List.append_assoc, List.take_append_drop]
      · exact (List.take_eq_nil_iff.mp none).elim (Nat.ne_of_gt positive) (List.cons_ne_nil byte bytes)

/-- A read of all fails, and nothing is left. -/
theorem readAll_of_broken :
    ∃ after, download.readAll = (.error (.interrupted interruption), after) ∧ after.Holds [] := by
  obtain ⟨chunks, later, pending, -⟩ := breaks
  rw [readAll, pending, gather_of_broken]
  exact ⟨_, rfl, [], rfl, List.drop_nil.symm⟩

end Download

namespace Stream

/-- What reads give of a stream that breaks off by a failure behind some content, whatever sizes they ask for: always a
front of the content; a read that can be served fails by nothing else, and the first time just where it asks for all or
no content is left before the break; and the stream ends only once a read has failed. -/
structure BreaksOff (stream : Stream) (content : Bytes) (failure : Failure) : Prop where
  front : ∀ sizes, delivered (stream.readEach sizes).1 <+: content
  fails : ∀ sizes size other, CanServe size → ((stream.readEach sizes).2.read size).1 = .error other → other = failure
  fails_iff : ∀ sizes size, CanServe size → .error failure ∉ (stream.readEach sizes).1 →
    (((stream.readEach sizes).2.read size).1 = .error failure ↔
      size < 0 ∨ delivered (stream.readEach sizes).1 = content)
  ends : ∀ sizes size, 0 < size → ((stream.readEach sizes).2.read size).1 = .ok [] →
    .error failure ∈ (stream.readEach sizes).1

/-- What one read of a size does where some bytes are left before a break. -/
inductive Meets (rest : Bytes) (interruption : Interruption) (size : Int) (download : Download) :
    Except Failure Bytes → Download → Prop where
  | refused {failure : Failure} (unserved : ¬CanServe size) (other : failure ≠ .interrupted interruption)
      (kept : download.Breaks rest interruption) : Meets rest interruption size download (.error failure) download
  | front {chunk later : Bytes} {after : Download} (natural : 0 ≤ size) (something : rest ≠ [])
      (split : rest = chunk ++ later) (brings : 0 < size → chunk ≠ []) (left : after.Breaks later interruption) :
      Meets rest interruption size download (.ok chunk) after
  | broken {after : Download} (reached : size < 0 ∨ rest = []) (left : after.Holds []) :
      Meets rest interruption size download (.error (.interrupted interruption)) after

section Breaks

variable {download : Download} {rest : Bytes} {interruption : Interruption}
  (breaks : download.Breaks rest interruption)
include breaks

theorem exists_meets (size : Int) :
    ∃ result after, (Stream.download download).read size = (result, .download after) ∧
      Meets rest interruption size download result after := by
  cases fits : Source.fitsIndex size with
  | false =>
      simp only [read, fits, Bool.not_false, if_true]
      have unserved : ¬CanServe size := fun served => Bool.false_ne_true (fits.symm.trans served.1)
      exact ⟨_, download, rfl, .refused unserved (by intro same; cases same) breaks⟩
  | true =>
      simp only [read, fits, Bool.not_true, Bool.false_eq_true, if_false, Download.read]
      by_cases negative : size < 0
      · obtain ⟨after, given, left⟩ := Download.readAll_of_broken breaks
        simp only [negative, if_true, given]
        exact ⟨_, after, rfl, .broken (.inl negative) left⟩
      · by_cases large : Source.memoryLimit ≤ size
        · simp only [negative, large, if_true, if_false]
          have unserved : ¬CanServe size := fun served => Int.not_lt.mpr large served.2
          exact ⟨_, download, rfl, .refused unserved (by intro same; cases same) breaks⟩
        · simp only [negative, large, if_false]
          by_cases nothing : rest = []
          · obtain ⟨after, given, left⟩ := Download.readSome_of_broken breaks size.toNat nothing
            rw [given]
            exact ⟨_, after, rfl, .broken (.inr nothing) left⟩
          · obtain ⟨chunk, after, later, given, left, split, brings⟩ :=
              Download.readSome_of_arrived breaks size.toNat nothing
            rw [given]
            have natural := Int.not_lt.mp negative
            exact ⟨_, after, rfl, .front natural nothing split (fun positive => brings (by omega)) left⟩

/-- After any reads either none has failed by the break, and what is left before it makes up the content with what they
gave, or one has, and nothing is left. -/
theorem readEach_of_breaks (sizes : List Int) :
    ∃ after, ((Stream.download download).readEach sizes).2 = .download after ∧
      ((.error (.interrupted interruption) ∉ ((Stream.download download).readEach sizes).1 ∧
          ∃ later, after.Breaks later interruption ∧
            rest = delivered ((Stream.download download).readEach sizes).1 ++ later) ∨
        (.error (.interrupted interruption) ∈ ((Stream.download download).readEach sizes).1 ∧ after.Holds [] ∧
          delivered ((Stream.download download).readEach sizes).1 <+: rest)) := by
  induction sizes generalizing download rest with
  | nil => exact ⟨download, rfl, .inl ⟨List.not_mem_nil, rest, breaks, rfl⟩⟩
  | cons size sizes ih =>
      obtain ⟨result, between, given, meets⟩ := exists_meets breaks size
      rw [readEach, given]
      dsimp only
      rw [delivered_cons]
      cases meets with
      | refused unserved other kept =>
          obtain ⟨after, last, ⟨intact, later, left, split⟩ | ⟨failed, left, front⟩⟩ := ih kept
          · refine ⟨after, last, .inl ⟨fun failed => ?_, later, left, split⟩⟩
            obtain same | failed := List.mem_cons.mp failed
            · exact other (Except.error.inj same).symm
            · exact intact failed
          · exact ⟨after, last, .inr ⟨List.mem_cons_of_mem _ failed, left, front⟩⟩
      | @front chunk left _ natural something split brings kept =>
          obtain ⟨after, last, ⟨intact, later, held, rest⟩ | ⟨failed, held, front⟩⟩ := ih kept
          · refine ⟨after, last, .inl ⟨fun failed => ?_, later, held, ?_⟩⟩
            · obtain same | failed := List.mem_cons.mp failed
              · cases same
              · exact intact failed
            · rw [List.append_assoc, ← rest, split]
              rfl
          · refine ⟨after, last, .inr ⟨List.mem_cons_of_mem _ failed, held, ?_⟩⟩
            rw [split]
            exact (List.prefix_append_right_inj chunk).mpr front
      | broken reached left =>
          obtain ⟨after, later, last, held, split⟩ := exists_readEach left sizes
          obtain ⟨nothing, rfl⟩ := List.append_eq_nil_iff.mp split.symm
          refine ⟨after, last, .inr ⟨List.mem_cons_self, held, ?_⟩⟩
          rw [nothing]
          exact List.nil_prefix

/-- A download that breaks off does so behind what arrives before the break. -/
theorem breaksOff_of_breaks : (Stream.download download).BreaksOff rest (.interrupted interruption) where
  front sizes := by
    obtain ⟨after, -, ⟨-, later, -, split⟩ | ⟨-, -, front⟩⟩ := readEach_of_breaks breaks sizes
    · exact ⟨later, split.symm⟩
    · exact front
  fails sizes size other served failed := by
    obtain ⟨after, last, ⟨-, later, left, -⟩ | ⟨-, held, -⟩⟩ := readEach_of_breaks breaks sizes
    · obtain ⟨result, next, given, meets⟩ := exists_meets left size
      rw [last, given] at failed
      cases meets with
      | refused unserved => exact absurd served unserved
      | front => cases failed
      | broken => exact (Except.error.inj failed).symm
    · obtain ⟨_, _, _, given, -, -, succeeds, -⟩ := exists_read held size
      obtain ⟨chunk, rfl, -⟩ := succeeds served
      rw [last, given] at failed
      cases failed
  fails_iff sizes size served intact := by
    obtain ⟨after, last, ⟨-, later, left, split⟩ | ⟨failed, -⟩⟩ := readEach_of_breaks breaks sizes
    · obtain ⟨result, next, given, meets⟩ := exists_meets left size
      have exhausted : delivered ((Stream.download download).readEach sizes).1 = rest ↔ later = [] := by
        rw [split]
        exact ⟨fun same => List.append_right_eq_self.mp same.symm, fun none => by rw [none, List.append_nil]⟩
      rw [last, given, exhausted]
      cases meets with
      | refused unserved => exact absurd served unserved
      | front natural something =>
          refine iff_of_false (fun failed => by cases failed) fun reached => ?_
          exact reached.elim (Int.not_lt.mpr natural) something
      | broken reached => exact iff_of_true rfl reached
    · exact absurd failed intact
  ends sizes size positive nothing := by
    obtain ⟨after, last, ⟨-, later, left, -⟩ | ⟨failed, -⟩⟩ := readEach_of_breaks breaks sizes
    · obtain ⟨result, next, given, meets⟩ := exists_meets left size
      rw [last, given] at nothing
      cases meets with
      | refused => cases nothing
      | front natural something split brings => exact absurd (Except.ok.inj nothing) (brings positive)
      | broken => cases nothing
    · exact failed

end Breaks
end Stream
end PathStore

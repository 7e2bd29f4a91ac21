/-
This file tells what reads through a limit give of a source of any kind, whatever the sizes that they ask for: a front
of the bytes up to the limit, nothing only once all of them are given, and never more. A gap gives just its zeros, and
no more than a mebibyte at once.
-/
import PathStore.Proofs.Source.Delivery

namespace PathStore

/-- How sources of one kind are read: the bytes of a read of at most a size, where a negative size means all, and the
source after it. -/
abbrev Reading (σ : Type) := σ → Int → Except Failure Bytes × σ

/-- A source of any kind of which no more than the remaining bytes are read. -/
structure Limited (σ : Type) where
  source : σ
  remaining : Int

/-- The bytes that a limited source has still to deliver, of those that its source has. -/
def Limited.rest {σ : Type} (rest : σ → Bytes) (limited : Limited σ) : Bytes :=
  (rest limited.source).take limited.remaining.toNat

/-- What a read of a size gives of a source: the next of its bytes, no more than the size, and nothing only at the end
or if it asks for nothing. -/
structure Gives {σ : Type} (rest : σ → Bytes) (source : σ) (size : Int) (chunk : Bytes) (after : σ) : Prop where
  front : rest source = chunk ++ rest after
  within : 0 ≤ size → (chunk.length : Int) ≤ size
  ends : size ≠ 0 → chunk = [] → rest source = []

/-- What reads of the given sizes give: a front of some content, and nothing for a size only once all of the content is
given. The source is left with what follows the front. -/
structure GivesFront {σ : Type} (left : σ → Bytes) (content : Bytes) (source : σ) (sizes : List Int)
    (chunks : List Bytes) (after : σ) : Prop where
  front : chunks.flatten <+: content
  ends : ∀ turn size, sizes[turn]? = some size → size ≠ 0 → chunks[turn]? = some [] →
    (chunks.take turn).flatten = content
  kept : left source = chunks.flatten ++ left after

namespace Reading

variable {σ τ : Type}

/-- The chunks of reads of the given sizes, one after the other, and the source after them. -/
def each (read : Reading σ) : σ → List Int → Except Failure (List Bytes) × σ
  | source, [] => (.ok [], source)
  | source, size :: sizes =>
      match read source size with
      | (.error failure, after) => (.error failure, after)
      | (.ok chunk, after) =>
          match each read after sizes with
          | (.ok chunks, last) => (.ok (chunk :: chunks), last)
          | (.error failure, last) => (.error failure, last)

/-- The chunks of reads of the given sizes, one after the other, up to the first read that gives nothing. -/
inductive Exhausts (read : Reading σ) : σ → (Nat → Int) → List Bytes → σ → Prop
  | ended {source after : σ} {sizes : Nat → Int} (reading : read source (sizes 0) = (.ok [], after)) :
      Exhausts read source sizes [] after
  | more {source after last : σ} {sizes : Nat → Int} {chunk : Bytes} {chunks : List Bytes}
      (reading : read source (sizes 0) = (.ok chunk, after)) (filled : chunk ≠ [])
      (exhausts : Exhausts read after (fun turn => sizes (turn + 1)) chunks last) :
      Exhausts read source sizes (chunk :: chunks) last

/-- Whether a read of a size gives what it should of every sound source, and leaves it sound. -/
def Serves (read : Reading σ) (rest : σ → Bytes) (sound : σ → Prop) (size : Int) : Prop :=
  ∀ source, sound source →
    ∃ chunk after, read source size = (.ok chunk, after) ∧ Gives rest source size chunk after ∧ sound after

/-- Whether no read of a sound source gives more than a number of bytes. -/
def Caps (read : Reading σ) (sound : σ → Prop) (most : Nat) : Prop :=
  ∀ source size chunk after, sound source → read source size = (.ok chunk, after) → chunk.length ≤ most

/-- How sources of one kind are read through a limit: a read never asks for more than what remains. -/
def limited (read : Reading σ) : Reading (Limited σ) := fun limited size =>
  if limited.remaining ≤ 0 then (.ok [], limited)
  else
    let asked := if size < 0 ∨ limited.remaining < size then limited.remaining else size
    match read limited.source asked with
    | (.ok chunk, after) => (.ok chunk, ⟨after, limited.remaining - chunk.length⟩)
    | (.error failure, after) => (.error failure, { limited with source := after })

section Runs

variable {read : Reading σ} {rest : σ → Bytes} {sound : σ → Prop}

theorem each_cons {source after last : σ} {size : Int} {sizes : List Int} {chunk : Bytes} {chunks : List Bytes}
    (reading : read source size = (.ok chunk, after)) (later : read.each after sizes = (.ok chunks, last)) :
    read.each source (size :: sizes) = (.ok (chunk :: chunks), last) := by
  rw [each, reading]
  dsimp only
  rw [later]

/-- Reads that ask for something come to an end, since each takes some of what is left. -/
theorem exists_exhausts {most : Nat} (serves : ∀ size, size ≠ 0 → read.Serves rest sound size)
    (caps : read.Caps sound most) {source : σ} (holds : sound source) {sizes : Nat → Int}
    (asking : ∀ turn, sizes turn ≠ 0) :
    ∃ chunks last, read.Exhausts source sizes chunks last ∧ chunks.flatten = rest source ∧
      ∀ chunk ∈ chunks, chunk.length ≤ most := by
  induction left : (rest source).length using Nat.strongRecOn generalizing source sizes with
  | ind count ih =>
      obtain ⟨chunk, after, reading, gives, holdsAfter⟩ := serves _ (asking 0) source holds
      -- A read that gives nothing has come to the end, and one that gives something leaves less.
      by_cases nothing : chunk = []
      · subst nothing
        exact ⟨[], after, .ended reading, (gives.ends (asking 0) rfl).symm, nofun⟩
      · have shorter : (rest after).length < count := by
          have some := List.length_pos_iff.mpr nothing
          rw [← left, gives.front, List.length_append]
          omega
        obtain ⟨chunks, last, exhausts, whole, small⟩ :=
          ih _ shorter holdsAfter (fun turn => asking (turn + 1)) rfl
        refine ⟨chunk :: chunks, last, .more reading nothing exhausts, ?_, ?_⟩
        · rw [List.flatten_cons, whole, gives.front]
        · exact List.forall_mem_cons.mpr ⟨caps _ _ _ _ holds reading, small⟩

end Runs

section View

variable {read : Reading σ} {other : Reading τ} {view : τ → σ}
  (same : ∀ reader size, Prod.map id view (other reader size) = read (view reader) size)
include same

/-- Where sources of one kind are seen as sources of another and each read as a read of these, the results of the reads
are the same. -/
theorem exists_of_view {reader : τ} {size : Int} {result : Except Failure Bytes} {after : σ}
    (reading : read (view reader) size = (result, after)) :
    ∃ later, other reader size = (result, later) ∧ view later = after := by
  obtain ⟨rfl, rfl⟩ := Prod.mk.inj ((same reader size).trans reading)
  exact ⟨(other reader size).2, rfl, rfl⟩

theorem exists_each_of_view {reader : τ} {sizes : List Int} {chunks : List Bytes} {after : σ}
    (reads : read.each (view reader) sizes = (.ok chunks, after)) :
    ∃ later, other.each reader sizes = (.ok chunks, later) ∧ view later = after := by
  induction sizes generalizing reader chunks with
  | nil =>
      obtain ⟨given, rfl⟩ := Prod.mk.inj reads
      exact ⟨reader, congrArg (·, reader) given, rfl⟩
  | cons size sizes ih =>
      rw [each] at reads
      split at reads
      · cases (Prod.mk.inj reads).1
      · rename_i chunk between reading
        obtain ⟨later, given, rfl⟩ := exists_of_view same reading
        split at reads
        · rename_i rest last others
          obtain ⟨joined, rfl⟩ := Prod.mk.inj reads
          obtain rfl := Except.ok.inj joined
          obtain ⟨final, further, rfl⟩ := ih others
          exact ⟨final, each_cons given further, rfl⟩
        · cases (Prod.mk.inj reads).1

theorem Exhausts.exists_of_view {reader : τ} {source : σ} {sizes : Nat → Int} {chunks : List Bytes} {last : σ}
    (exhausts : read.Exhausts source sizes chunks last) (seen : view reader = source) :
    ∃ final, other.Exhausts reader sizes chunks final ∧ view final = last := by
  induction exhausts generalizing reader with
  | ended reading =>
      obtain ⟨later, given, rfl⟩ := Reading.exists_of_view same (seen ▸ reading)
      exact ⟨later, .ended given, rfl⟩
  | more reading filled _ ih =>
      obtain ⟨later, given, rfl⟩ := Reading.exists_of_view same (seen ▸ reading)
      obtain ⟨final, exhausts, rfl⟩ := ih rfl
      exact ⟨final, .more given filled exhausts, rfl⟩

end View

section Limit

variable {read : Reading σ} {rest : σ → Bytes} {sound : σ → Prop} {length : Nat}

/-- A read through a limit gives what it should, and leaves its source where the next byte follows. -/
theorem exists_limited (serves : ∀ size : Int, 0 < size → size ≤ length → read.Serves rest sound size)
    {reader : Limited σ} (holds : sound reader.source) (inside : reader.remaining ≤ length) {size : Int}
    (still : size = 0 → read.Serves rest sound 0) :
    ∃ chunk after, read.limited reader size = (.ok chunk, after) ∧
      Gives (Limited.rest rest) reader size chunk after ∧ sound after.source ∧ after.remaining ≤ length ∧
      rest reader.source = chunk ++ rest after.source := by
  by_cases finished : reader.remaining ≤ 0
  · have nothing : Limited.rest rest reader = [] := by
      rw [Limited.rest, Int.toNat_of_nonpos finished, List.take_zero]
    exact ⟨[], reader, if_pos finished, ⟨rfl, id, fun _ _ => nothing⟩, holds, inside, rfl⟩
  · obtain ⟨asked, chosen⟩ : ∃ asked, asked = if size < 0 ∨ reader.remaining < size then reader.remaining else size :=
      ⟨_, rfl⟩
    -- The source is asked for no more than remains and than the read asks for, and for nothing only if the read does.
    have within : asked ≤ reader.remaining ∧ (0 ≤ size → asked ≤ size) ∧ (size = 0 ∧ asked = 0 ∨ 0 < asked) := by
      split at chosen <;> omega
    have served : read.Serves rest sound asked := by
      rcases within.2.2 with ⟨none, rfl⟩ | positive
      · exact still none
      · exact serves asked positive (Int.le_trans within.1 inside)
    obtain ⟨chunk, after, reading, gives, holdsAfter⟩ := served _ holds
    have short : (chunk.length : Int) ≤ asked := gives.within (by omega)
    refine ⟨chunk, ⟨after, reader.remaining - chunk.length⟩, ?_, ⟨?_, ?_, ?_⟩, holdsAfter, by dsimp only; omega,
      gives.front⟩
    · rw [limited, if_neg finished, ← chosen]
      dsimp only
      rw [reading]
    · have left : reader.remaining.toNat = chunk.length + (reader.remaining - chunk.length).toNat := by omega
      rw [Limited.rest, Limited.rest, gives.front, left, List.take_length_add_append]
    · intro notNegative
      exact Int.le_trans short (within.2.1 notNegative)
    · intro asking nothing
      rw [Limited.rest, gives.ends (by omega) nothing, List.take_nil]

/-- A limited source serves each size as its source serves the sizes up to the limit. -/
theorem limited_serves (serves : ∀ size : Int, 0 < size → size ≤ length → read.Serves rest sound size) {size : Int}
    (asking : size ≠ 0) :
    read.limited.Serves (Limited.rest rest) (fun reader => sound reader.source ∧ reader.remaining ≤ length) size := by
  intro reader holds
  obtain ⟨chunk, after, reading, gives, holdsAfter, insideAfter, -⟩ :=
    exists_limited serves holds.1 holds.2 (fun none => absurd none asking)
  exact ⟨chunk, after, reading, gives, holdsAfter, insideAfter⟩

theorem limited_caps {most : Nat} (caps : read.Caps sound most) :
    read.limited.Caps (fun reader => sound reader.source ∧ reader.remaining ≤ length) most := by
  intro reader size chunk after holds reading
  rw [limited] at reading
  split at reading
  · obtain rfl := Except.ok.inj (Prod.mk.inj reading).1
    exact Nat.zero_le _
  · dsimp only at reading
    split at reading
    · rename_i given used below
      obtain rfl := Except.ok.inj (Prod.mk.inj reading).1
      exact caps _ _ _ _ holds.1 below
    · cases (Prod.mk.inj reading).1

/-- Reads of any sizes through a limit give a front of what the source has up to the limit. -/
theorem limited_front (serves : ∀ size : Int, 0 < size → size ≤ length → read.Serves rest sound size)
    {reader : Limited σ} (holds : sound reader.source) (inside : reader.remaining ≤ length) {sizes : List Int}
    (still : 0 ∈ sizes → read.Serves rest sound 0) :
    ∃ chunks after, read.limited.each reader sizes = (.ok chunks, after) ∧
      GivesFront (fun reader => rest reader.source) (Limited.rest rest reader) reader sizes chunks after := by
  induction sizes generalizing reader with
  | nil => exact ⟨[], reader, rfl, List.nil_prefix, nofun, rfl⟩
  | cons size sizes ih =>
      obtain ⟨chunk, between, reading, gives, holdsBetween, insideBetween, keeps⟩ :=
        exists_limited serves holds inside (fun none => still (none ▸ List.mem_cons_self))
      obtain ⟨chunks, after, later, fronts⟩ :=
        ih holdsBetween insideBetween (fun asked => still (List.mem_cons_of_mem size asked))
      refine ⟨chunk :: chunks, after, each_cons reading later, ?_, ?_, ?_⟩
      · rw [List.flatten_cons, gives.front]
        exact (List.prefix_append_right_inj chunk).mpr fronts.front
      · intro turn
        cases turn with
        | zero =>
            intro asked chosen asking nothing
            obtain rfl := Option.some.inj chosen
            exact (gives.ends asking (Option.some.inj nothing)).symm
        | succ turn =>
            intro asked chosen asking nothing
            rw [List.take_succ_cons, List.flatten_cons, gives.front, fronts.ends turn asked chosen asking nothing]
      · rw [List.flatten_cons, List.append_assoc, ← fronts.kept, keeps]

end Limit
end Reading

/-- A limited source of the program as one of any kind. -/
def Bounded.limited (bounded : Bounded) : Limited Source := ⟨bounded.source, bounded.remaining⟩

/-- The program reads through a limit as sources of any kind are read through it. -/
theorem Bounded.read_limited (bounded : Bounded) (size : Int) :
    Prod.map id limited (bounded.read size) = Reading.limited Source.read bounded.limited size := by
  obtain ⟨source, remaining⟩ := bounded
  show _ = Reading.limited Source.read ⟨source, remaining⟩ size
  rw [read, Reading.limited]
  by_cases finished : remaining ≤ 0
  · rw [if_pos finished, if_pos finished]
    rfl
  · rw [if_neg finished, if_neg finished]
    dsimp only
    rcases source.read (if size < 0 ∨ remaining < size then remaining else size) with ⟨failure | chunk, after⟩ <;> rfl

namespace Source

/-- Whether a source can be asked for as many bytes as a length. -/
def CanGive (length : Int) (source : Source) : Prop :=
  source.IsSound ∧ source.Grants length

theorem Alike.canGive_iff {first second : Source} (alike : first.Alike second) (length : Int) :
    first.CanGive length ↔ second.CanGive length := by
  rw [CanGive, CanGive, alike.isSound_iff, alike.grants_iff]

/-- A read that asks for nothing gives nothing. -/
theorem exists_read_nothing {source : Source} (sound : source.IsSound) :
    ∃ after, source.read 0 = (.ok [], after) ∧ source.Alike after := by
  cases source with
  | memory held position | file held position => exact ⟨_, rfl, rfl⟩
  | zeros remaining =>
      have filled : 0 ≤ remaining := sound
      obtain ⟨count, rfl⟩ := Int.eq_ofNat_of_zero_le filled
      exact ⟨_, read_zeros 0 rfl, rfl⟩
  | pieces pending =>
      have same := flatten_dropWhile_isEmpty pending
      rw [read]
      split
      · rename_i finished
        rw [finished] at same
        exact ⟨_, rfl, by rw [Alike, skip, skip, ← same]⟩
      · rename_i piece rest first
        rw [first] at same
        exact ⟨_, rfl, by rw [Alike, skip, skip, ← same]; rfl⟩

/-- Sources of the program serve the sizes up to a length that they can be asked for. -/
theorem serves_read {length size : Int} (notNegative : 0 ≤ size) (inside : size ≤ length) :
    Reading.Serves Source.read content (CanGive length) size := by
  intro source canGive
  obtain ⟨sound, grants⟩ := canGive
  by_cases none : size = 0
  · subst none
    obtain ⟨after, reading, alike⟩ := exists_read_nothing sound
    exact ⟨[], after, reading, ⟨alike.content_eq, id, fun asking => absurd rfl asking⟩,
      (alike.canGive_iff length).mp ⟨sound, grants⟩⟩
  · have positive : 0 < size := by omega
    obtain ⟨chunk, after, reading⟩ := exists_read sound positive (grants.of_le inside)
    have delivers := delivers_of_read positive reading
    exact ⟨chunk, after, reading, ⟨delivers.front, fun _ => delivers.within, fun _ => delivers.ends⟩,
      delivers.soundAfter, delivers.grants grants⟩

/-- Whether a source is a gap. -/
def IsGap (source : Source) : Prop := ∃ count : Nat, source = .zeros count

/-- The zeros of a gap in chunks, none of which is too large to be read at once. -/
structure Fills (count : Nat) (chunks : List Bytes) : Prop where
  whole : chunks.flatten = Bytes.zeros count
  small : ∀ chunk ∈ chunks, chunk.length ≤ mebibyte

/-- A gap serves every size, and a negative one as if it asked for all that is left. -/
theorem gap_serves (size : Int) : Reading.Serves Source.read content IsGap size := by
  intro source gap
  obtain ⟨remaining, rfl⟩ := gap
  obtain ⟨count, most⟩ : ∃ count, count = min (if size < 0 then remaining else min size.toNat remaining) mebibyte :=
    ⟨_, rfl⟩
  refine ⟨_, _, read_zeros size most, ⟨?_, ?_, ?_⟩, _, rfl⟩
  · have inside : count ≤ remaining := by split at most <;> omega
    simp only [content, Int.toNat_natCast, Bytes.zeros, List.replicate_append_replicate, Nat.add_sub_cancel' inside]
  · intro notNegative
    rw [Bytes.length_zeros]
    rw [if_neg (Int.not_lt.mpr notNegative)] at most
    omega
  · intro asking nothing
    have none : count = 0 := (List.replicate_eq_nil_iff 0).mp nothing
    have atEnd : remaining = 0 := by
      simp only [mebibyte] at most
      split at most <;> omega
    rw [atEnd]
    rfl

theorem gap_caps : Reading.Caps Source.read IsGap mebibyte := by
  intro source size chunk after gap reading
  obtain ⟨remaining, rfl⟩ := gap
  rw [read_zeros size rfl] at reading
  obtain rfl := Except.ok.inj (Prod.mk.inj reading).1
  rw [Bytes.length_zeros]
  exact Nat.min_le_right ..

/-- Reading a gap up to its length takes no more at once than one read gives. -/
theorem Collects.small {source last : Source} {missing : Nat} {chunks : List Bytes}
    (collects : source.Collects missing chunks last) (gap : source.IsGap) :
    ∀ chunk ∈ chunks, chunk.length ≤ mebibyte := by
  induction collects with
  | full | ended => exact nofun
  | more positive reading filled _ ih =>
      obtain ⟨_, _, given, -, gapAfter⟩ := gap_serves _ _ gap
      obtain rfl := (Prod.mk.inj (reading.symm.trans given)).2
      exact List.forall_mem_cons.mpr ⟨gap_caps _ _ _ _ gap reading, ih gapAfter⟩

/-- Reading a gap up to its length takes it in small chunks. -/
theorem exists_collects_gap (count : Nat) :
    ∃ chunks, (Source.zeros count).Collects count chunks (.zeros 0) ∧ Fills count chunks := by
  obtain ⟨chunks, collects, whole⟩ := exists_collects (Nat.le_refl _) (readExactly_zeros count)
  exact ⟨chunks, collects, whole, collects.small ⟨count, rfl⟩⟩

/-- A gap comes to an end after its zeros, whatever sizes are asked for. -/
theorem exists_exhausts_gap (count : Nat) {sizes : Nat → Int} (asking : ∀ turn, sizes turn ≠ 0) :
    ∃ chunks last, Reading.Exhausts Source.read (.zeros count) sizes chunks last ∧ Fills count chunks := by
  have gap : (Source.zeros count).IsGap := ⟨count, rfl⟩
  obtain ⟨chunks, last, exhausts, whole, small⟩ :=
    Reading.exists_exhausts (fun size _ => gap_serves size) gap_caps gap asking
  exact ⟨chunks, last, exhausts, whole, small⟩

end Source

/-- A gap that is limited to its length comes to the same end. -/
theorem Bounded.exists_exhausts_gap (count : Nat) {sizes : Nat → Int} (asking : ∀ turn, sizes turn ≠ 0) :
    ∃ chunks last, Reading.Exhausts Bounded.read ⟨.zeros count, count⟩ sizes chunks last ∧
      Source.Fills count chunks := by
  let bounded : Bounded := ⟨.zeros count, count⟩
  have within : bounded.limited.source.IsGap ∧ bounded.limited.remaining ≤ count := ⟨⟨count, rfl⟩, Int.le_refl _⟩
  have serves (size : Int) (asked : size ≠ 0) :=
    Reading.limited_serves (fun size _ (_ : size ≤ count) => Source.gap_serves size) asked
  obtain ⟨chunks, last, exhausts, whole, small⟩ :=
    Reading.exists_exhausts serves (Reading.limited_caps Source.gap_caps) within asking
  obtain ⟨final, given, -⟩ := exhausts.exists_of_view Bounded.read_limited rfl
  have all : Limited.rest Source.content bounded.limited = Bytes.zeros count :=
    List.take_of_length_le (Nat.le_of_eq (Bytes.length_zeros count))
  exact ⟨chunks, final, given, whole.trans all, small⟩

/-- Reads of any sizes of a limited source of the program give a front of what its source has up to the limit. -/
theorem Bounded.exists_front {source : Source} {length : Nat} (canGive : source.CanGive length) (sizes : List Int) :
    ∃ chunks after, Reading.each Bounded.read ⟨source, length⟩ sizes = (.ok chunks, after) ∧
      GivesFront (fun reader => reader.source.content) (source.content.take length) ⟨source, length⟩ sizes chunks
        after := by
  let bounded : Bounded := ⟨source, length⟩
  have serves (size : Int) (positive : 0 < size) (inside : size ≤ length) :
      Reading.Serves Source.read Source.content (Source.CanGive length) size :=
    Source.serves_read (Int.le_of_lt positive) inside
  have still : Reading.Serves Source.read Source.content (Source.CanGive length) 0 :=
    Source.serves_read (Int.le_refl 0) (Int.natCast_nonneg length)
  have inside : bounded.limited.remaining ≤ length := Int.le_refl _
  obtain ⟨chunks, after, reads, fronts⟩ := Reading.limited_front serves canGive inside fun _ : 0 ∈ sizes => still
  obtain ⟨later, given, rfl⟩ := Reading.exists_each_of_view Bounded.read_limited reads
  exact ⟨chunks, later, given, fronts.front, fronts.ends, fronts.kept⟩

/-- Through a limit reads give a front of what the source has up to the limit, whatever kind of source it is and
whatever sizes they ask for. They give nothing only when this is exhausted, and all that follows the front is left to
the source; so it is with the limited sources of the program. A gap gives exactly its zeros, read by itself, through a
limit or up to its length, and no read gives more than a mebibyte. -/
theorem limits_and_gaps_are_exact :
    (∀ {σ : Type} (read : Reading σ) (rest : σ → Bytes) (sound : σ → Prop) (source : σ) (length : Nat)
      (sizes : List Int), sound source → (∀ size : Int, 0 < size → size ≤ length → read.Serves rest sound size) →
      (0 ∈ sizes → read.Serves rest sound 0) →
      ∃ chunks after, read.limited.each ⟨source, length⟩ sizes = (.ok chunks, after) ∧
        GivesFront (fun reader => rest reader.source) ((rest source).take length) ⟨source, length⟩ sizes chunks after) ∧
    (∀ (source : Source) (length : Nat) (sizes : List Int), source.CanGive length →
      ∃ chunks after, Reading.each Bounded.read ⟨source, length⟩ sizes = (.ok chunks, after) ∧
        GivesFront (fun reader => reader.source.content) (source.content.take length) ⟨source, length⟩ sizes chunks
          after) ∧
    ∀ (count : Nat) (sizes : Nat → Int), (∀ turn, sizes turn ≠ 0) →
      (∃ chunks last, Reading.Exhausts Source.read (.zeros count) sizes chunks last ∧ Source.Fills count chunks) ∧
      (∃ chunks last, Reading.Exhausts Bounded.read ⟨.zeros count, count⟩ sizes chunks last ∧
        Source.Fills count chunks) ∧
      (∃ chunks, (Source.zeros count).Collects count chunks (.zeros 0) ∧ Source.Fills count chunks) ∧
      (Source.zeros count).readExactly count = (.ok (Bytes.zeros count), .zeros 0) ∧
      (Source.zeros 0).readExactly count = (.ok [], .zeros 0) := by
  refine ⟨?_, ?_, ?_⟩
  · intro σ read rest sound source length sizes holds serves still
    exact Reading.limited_front serves holds (Int.le_refl _) still
  · intro source length sizes canGive
    exact Bounded.exists_front canGive sizes
  · intro count sizes asking
    exact ⟨Source.exists_exhausts_gap count asking, Bounded.exists_exhausts_gap count asking,
      Source.exists_collects_gap count, Source.readExactly_zeros count, Source.readExactly_zeros_end count⟩

/-- A source that gives less at once than it is asked for. -/
def shortPieces : Source := .pieces [[1, 2], [3], [4, 5]]

/-- Short reads do not end what a limit lets through, and the byte behind the limit stays in the source; a gap that is
asked for all of its bytes at once gives them. -/
theorem short_pieces_are_limited :
    (Reading.limited Source.read).each ⟨shortPieces, 4⟩ [1, -1, 0, 7, 2, -1] =
        (.ok [[1], [2], [], [3], [4], []], ⟨.pieces [[5]], 0⟩) ∧
      GivesFront (fun reader => reader.source.content) [1, 2, 3, 4] (Limited.mk shortPieces 4) [1, -1, 0, 7, 2, -1]
        [[1], [2], [], [3], [4], []] ⟨.pieces [[5]], 0⟩ ∧
      (∃ chunks after, Reading.each Bounded.read ⟨shortPieces, 4⟩ [-1, -1] = (.ok chunks, after) ∧
        chunks.flatten <+: [1, 2, 3, 4]) ∧
      ∃ chunks last, Reading.Exhausts Bounded.read ⟨.zeros 2, 2⟩ (fun _ => -1) chunks last ∧
        chunks.flatten = [0, 0] := by
  obtain ⟨anyKind, program, gaps⟩ := limits_and_gaps_are_exact
  have holds : shortPieces.CanGive (4 : Nat) := ⟨trivial, nofun⟩
  obtain ⟨chunks, after, reads, fronts⟩ := anyKind Source.read Source.content (Source.CanGive (4 : Nat)) shortPieces 4
    [1, -1, 0, 7, 2, -1] holds (fun size positive inside => Source.serves_read (Int.le_of_lt positive) inside)
    (fun _ => Source.serves_read (by decide) (by decide))
  have run : (Reading.limited Source.read).each ⟨shortPieces, 4⟩ [1, -1, 0, 7, 2, -1] =
      (.ok [[1], [2], [], [3], [4], []], ⟨.pieces [[5]], 0⟩) := rfl
  obtain ⟨given, rfl⟩ := Prod.mk.inj (reads.symm.trans run)
  obtain rfl := Except.ok.inj given
  obtain ⟨bounded, final, both, front⟩ := program shortPieces 4 [-1, -1] holds
  obtain ⟨-, ⟨zeros, last, exhausts, fills⟩, -⟩ := gaps 2 (fun _ => -1) (fun _ => by decide)
  exact ⟨run, fronts, ⟨bounded, final, both, front.front⟩, zeros, last, exhausts, fills.whole⟩

end PathStore

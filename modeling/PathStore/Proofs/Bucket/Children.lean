/-
This file shows what lies below a stem. A whole listing at the slash holds the files and the directories that are
children of the stem, each once and in ascending order.
-/
import Mathlib.Data.Set.List
import PathStore.Proofs.Bucket.Rolling

namespace PathStore.Bucket

/-- The names of the files and of the directories below a stem, without slashes and in the order of what they are listed
by. -/
structure Children (bucket : Bucket) (stem : String) (files directories : List String) : Prop where
  filesAscend : files.Pairwise (· < ·)
  mem_files : ∀ name, name ∈ files ↔ '/' ∉ name.toList ∧ (bucket.find? (stem ++ name)).isSome
  directoriesAscend : directories.Pairwise fun first second => first ++ "/" < second ++ "/"
  mem_directories : ∀ name, name ∈ directories ↔
    '/' ∉ name.toList ∧ ∃ key, Root.startsWith key (stem ++ name ++ "/") = true ∧ (bucket.find? key).isSome

section Whole

variable (bucket : Bucket) (stem : String)

/-- The keys of the objects of a whole listing. -/
def fileKeys : List String :=
  ((groups stem "/" (bucket.entriesAfter stem "")).filterMap Group.object?).map Prod.fst

/-- The stems of a whole listing. -/
def directoryStems : List String := (groups stem "/" (bucket.entriesAfter stem "")).filterMap Group.stem?

theorem fileKeys_ascend : (bucket.fileKeys stem).Pairwise (· < ·) :=
  filesOf_ascend (bucket.entriesAfter_sorted stem "")

theorem directoryStems_ascend : (bucket.directoryStems stem).Pairwise (· < ·) :=
  groups_stems_ascend stem (bucket.entriesAfter_sorted stem "") fun entry member =>
    ((mem_entriesAfter_iff stem bucket "" entry).mp member).2.1

/-- Where no key below a stem is empty, what lies below it is listed from the start on. -/
theorem mem_entriesAfter_start (named : ∀ key, Root.startsWith key stem = true → (bucket.find? key).isSome → key ≠ "")
    (entry : String × StoredObject) :
    entry ∈ bucket.entriesAfter stem "" ↔
      bucket.find? entry.1 = some entry.2 ∧ Root.startsWith entry.1 stem = true := by
  rw [mem_entriesAfter_iff]
  refine ⟨fun ⟨found, begins, _⟩ => ⟨found, begins⟩, fun ⟨found, begins⟩ => ⟨found, begins, ?_⟩⟩
  exact empty_lt_of_ne (named entry.1 begins (Option.isSome_iff_exists.mpr ⟨entry.2, found⟩))

variable (named : ∀ key, Root.startsWith key stem = true → (bucket.find? key).isSome → key ≠ "")

include named

theorem mem_fileKeys_iff (key : String) :
    key ∈ bucket.fileKeys stem ↔ ∃ name, '/' ∉ name.toList ∧ key = stem ++ name ∧ (bucket.find? key).isSome := by
  have listed := bucket.mem_entriesAfter_start stem named
  constructor
  · intro member
    obtain ⟨⟨name, free, same⟩, isStored⟩ := of_mem_filesOf (fun entry => (listed entry).mp) member
    exact ⟨name, free, same, isStored⟩
  · rintro ⟨name, free, rfl, isStored⟩
    obtain ⟨object, found⟩ := Option.isSome_iff_exists.mp isStored
    exact mem_filesOf free ((listed (stem ++ name, object)).mpr ⟨found, Root.startsWith_append stem name⟩)

theorem mem_directoryStems_iff (common : String) :
    common ∈ bucket.directoryStems stem ↔
      ∃ name, '/' ∉ name.toList ∧ common = stem ++ name ++ "/" ∧
        ∃ key, Root.startsWith key common = true ∧ (bucket.find? key).isSome := by
  have listed := bucket.mem_entriesAfter_start stem named
  constructor
  · intro member
    obtain ⟨⟨name, free, same⟩, stored⟩ := of_mem_stemsOf (fun entry => (listed entry).mp) member
    exact ⟨name, free, same, stored⟩
  · rintro ⟨name, free, rfl, key, below, isStored⟩
    obtain ⟨object, found⟩ := Option.isSome_iff_exists.mp isStored
    have begins : Root.startsWith key stem = true := Root.startsWith_of_append (Root.startsWith_of_append below)
    exact mem_stemsOf (fun entry => (listed entry).mp) free ((listed (key, object)).mpr ⟨found, begins⟩) below

/-- A whole listing holds the children below its stem. -/
theorem exists_children :
    ∃ files directories, bucket.Children stem files directories ∧ bucket.fileKeys stem = files.map (stem ++ ·) ∧
      bucket.directoryStems stem = directories.map (stem ++ · ++ "/") := by
  obtain ⟨files, keys⟩ : bucket.fileKeys stem ∈ Set.range (List.map (stem ++ ·)) := by
    rw [Set.range_list_map]
    intro key member
    obtain ⟨name, -, same, -⟩ := (bucket.mem_fileKeys_iff stem named key).mp member
    exact ⟨name, same.symm⟩
  obtain ⟨directories, stems⟩ : bucket.directoryStems stem ∈ Set.range (List.map (stem ++ · ++ "/")) := by
    rw [Set.range_list_map]
    intro common member
    obtain ⟨name, -, same, -⟩ := (bucket.mem_directoryStems_iff stem named common).mp member
    exact ⟨name, same.symm⟩
  have filesAscend := bucket.fileKeys_ascend stem
  have directoriesAscend := bucket.directoryStems_ascend stem
  rw [← keys, List.pairwise_map] at filesAscend
  rw [← stems, List.pairwise_map] at directoriesAscend
  refine ⟨files, directories, ⟨?_, fun name => ?_, ?_, fun name => ?_⟩, keys.symm, stems.symm⟩
  · simpa only [Root.stem_append_lt_iff] using filesAscend
  · have listed : name ∈ files ↔ stem ++ name ∈ bucket.fileKeys stem := by simp [← keys]
    rw [listed, bucket.mem_fileKeys_iff stem named]
    constructor
    · rintro ⟨other, free, same, isStored⟩
      rw [String.append_right_inj] at same
      subst same
      exact ⟨free, isStored⟩
    · rintro ⟨free, isStored⟩
      exact ⟨name, free, rfl, isStored⟩
  · simpa only [String.append_assoc, Root.stem_append_lt_iff] using directoriesAscend
  · have listed : name ∈ directories ↔ stem ++ name ++ "/" ∈ bucket.directoryStems stem := by simp [← stems]
    rw [listed, bucket.mem_directoryStems_iff stem named]
    constructor
    · rintro ⟨other, free, same, isStored⟩
      rw [String.append_left_inj, String.append_right_inj] at same
      subst same
      exact ⟨free, isStored⟩
    · rintro ⟨free, isStored⟩
      exact ⟨name, free, rfl, isStored⟩

end Whole

/-- A stem without children is one with which no key begins. -/
theorem Children.eq_nil_iff {bucket : Bucket} {stem : String} {files directories : List String}
    (children : bucket.Children stem files directories) :
    files = [] ∧ directories = [] ↔ ¬∃ key, Root.startsWith key stem = true ∧ (bucket.find? key).isSome := by
  constructor
  · rintro ⟨noFile, noDirectory⟩ ⟨key, begins, isStored⟩
    obtain ⟨text, rfl⟩ := Root.startsWith_iff.mp begins
    rcases split_slash text with free | ⟨name, rest, free, rfl⟩
    · exact List.ne_nil_of_mem ((children.mem_files text).mpr ⟨free, isStored⟩) noFile
    · refine List.ne_nil_of_mem ((children.mem_directories name).mpr ⟨free, _, ?_, isStored⟩) noDirectory
      rw [← String.append_assoc, ← String.append_assoc]
      exact Root.startsWith_append _ _
  · intro none
    refine ⟨List.eq_nil_iff_forall_not_mem.mpr fun name member => none ?_,
      List.eq_nil_iff_forall_not_mem.mpr fun name member => none ?_⟩
    · exact ⟨stem ++ name, Root.startsWith_append _ _, ((children.mem_files name).mp member).2⟩
    · obtain ⟨-, key, below, isStored⟩ := (children.mem_directories name).mp member
      exact ⟨key, Root.startsWith_of_append (Root.startsWith_of_append below), isStored⟩

end PathStore.Bucket

/-
This file shows how a listing rolls up keys at the slash. The stem of a key is what it holds through its next slash,
keys with one stem lie together, and the stems of a listing are those of its keys, each once and in ascending order.
-/
import PathStore.Proofs.Bucket.Paging

namespace PathStore.Bucket

section Stem

theorem throughFirst?_eq_none {characters : List Char} (free : '/' ∉ characters) :
    throughFirst? ['/'] characters = none := by
  induction characters with
  | nil => rfl
  | cons first rest ih =>
      have notSlash : '/' ≠ first := fun same => free (same ▸ List.mem_cons_self)
      simp [throughFirst?, notSlash, ih (List.not_mem_of_not_mem_cons free)]

/-- A text is read through its first slash. -/
theorem throughFirst?_slash {first : List Char} (free : '/' ∉ first) (later : List Char) :
    throughFirst? ['/'] (first ++ '/' :: later) = some (first ++ ['/']) := by
  induction first with
  | nil => simp [throughFirst?]
  | cons character rest ih =>
      have notSlash : '/' ≠ character := fun same => free (same ▸ List.mem_cons_self)
      simp [throughFirst?, notSlash, ih (List.not_mem_of_not_mem_cons free)]

variable (stem : String)

theorem commonStem?_slash (rest : String) :
    commonStem? stem "/" (stem ++ rest) =
      (throughFirst? ['/'] rest.toList).map fun characters => stem ++ String.ofList characters := by
  have below : (stem ++ rest).toList.drop stem.length = rest.toList := by
    rw [String.toList_append, ← String.length_toList, List.drop_left]
  rw [commonStem?, if_neg (by decide), below]
  rfl

/-- A key with no further slash is rolled up under no stem. -/
theorem commonStem?_file {name : String} (free : '/' ∉ name.toList) : commonStem? stem "/" (stem ++ name) = none := by
  rw [commonStem?_slash, throughFirst?_eq_none free]
  rfl

/-- A key is rolled up under what it holds through its next slash. -/
theorem commonStem?_directory {name : String} (free : '/' ∉ name.toList) (rest : String) :
    commonStem? stem "/" (stem ++ name ++ "/" ++ rest) = some (stem ++ name ++ "/") := by
  have characters : (name ++ ("/" ++ rest)).toList = name.toList ++ '/' :: rest.toList := by simp
  rw [String.append_assoc, String.append_assoc, commonStem?_slash, characters, throughFirst?_slash free,
    Option.map_some, String.append_assoc, String.ofList_append, String.ofList_toList]

/-- A text holds no slash, or a first one. -/
theorem split_slash (text : String) :
    '/' ∉ text.toList ∨ ∃ name rest, '/' ∉ name.toList ∧ text = name ++ "/" ++ rest := by
  by_cases slash : '/' ∈ text.toList
  · obtain ⟨name, rest, joined, free⟩ := List.eq_append_cons_of_mem slash
    refine .inr ⟨String.ofList name, String.ofList rest, ?_, String.ext ?_⟩
    · rwa [String.toList_ofList]
    · simp [joined]
  · exact .inl slash

theorem commonStem?_eq_none_iff (name : String) : commonStem? stem "/" (stem ++ name) = none ↔ '/' ∉ name.toList := by
  constructor
  · intro alone
    rcases split_slash name with free | ⟨first, rest, free, rfl⟩
    · exact free
    · rw [← String.append_assoc, ← String.append_assoc, commonStem?_directory stem free] at alone
      cases alone
  · exact commonStem?_file stem

/-- The stem of a key that begins with another. -/
theorem commonStem?_eq_some_iff {key common : String} (begins : Root.startsWith key stem = true) :
    commonStem? stem "/" key = some common ↔
      ∃ name, '/' ∉ name.toList ∧ common = stem ++ name ++ "/" ∧ Root.startsWith key common = true := by
  constructor
  · intro rolled
    obtain ⟨text, rfl⟩ := Root.startsWith_iff.mp begins
    rcases split_slash text with free | ⟨name, rest, free, rfl⟩
    · rw [commonStem?_file stem free] at rolled
      cases rolled
    · rw [← String.append_assoc, ← String.append_assoc, commonStem?_directory stem free] at rolled
      obtain rfl := Option.some.inj rolled
      refine ⟨name, free, rfl, ?_⟩
      rw [← String.append_assoc, ← String.append_assoc]
      exact Root.startsWith_append _ _
  · rintro ⟨name, free, rfl, below⟩
    obtain ⟨rest, rfl⟩ := Root.startsWith_iff.mp below
    exact commonStem?_directory stem free rest

/-- Ordered keys have one stem or ordered stems. -/
theorem commonStem?_lt {first second firstStem secondStem : String}
    (firstBegins : Root.startsWith first stem = true) (secondBegins : Root.startsWith second stem = true)
    (firstRolled : commonStem? stem "/" first = some firstStem)
    (secondRolled : commonStem? stem "/" second = some secondStem) (ordered : first < second) :
    firstStem = secondStem ∨ firstStem < secondStem := by
  obtain ⟨name, free, rfl, below⟩ := (commonStem?_eq_some_iff stem firstBegins).mp firstRolled
  obtain ⟨other, otherFree, rfl, otherBelow⟩ := (commonStem?_eq_some_iff stem secondBegins).mp secondRolled
  obtain ⟨rest, rfl⟩ := Root.startsWith_iff.mp below
  obtain ⟨later, rfl⟩ := Root.startsWith_iff.mp otherBelow
  simp only [String.append_assoc, Root.stem_append_lt_iff] at ordered ⊢
  rw [String.lt_iff, String.toList_append, String.toList_append, String.toList_append, String.toList_append] at ordered
  rcases throughSlash_lt free otherFree ordered with same | less
  · exact .inl (by rw [String.ext same])
  · exact .inr (String.lt_iff.mpr (by simpa using less))

/-- A key between two with one stem has that stem. -/
theorem commonStem?_between {first middle last common : String} (firstBegins : Root.startsWith first stem = true)
    (lastBegins : Root.startsWith last stem = true) (firstRolled : commonStem? stem "/" first = some common)
    (lastRolled : commonStem? stem "/" last = some common) (above : first < middle) (below : middle < last) :
    commonStem? stem "/" middle = some common := by
  obtain ⟨name, free, same, firstBelow⟩ := (commonStem?_eq_some_iff stem firstBegins).mp firstRolled
  obtain ⟨-, -, -, lastBelow⟩ := (commonStem?_eq_some_iff stem lastBegins).mp lastRolled
  have middleBegins : Root.startsWith middle stem = true :=
    Root.startsWith_of_between firstBegins lastBegins above below
  refine (commonStem?_eq_some_iff stem middleBegins).mpr ⟨name, free, same, ?_⟩
  exact Root.startsWith_of_between firstBelow lastBelow above below

end Stem

section Groups

variable (stem delimiter : String)

variable {stem delimiter} in
theorem groupOf_of_none {entry : String × StoredObject} (alone : commonStem? stem delimiter entry.1 = none) :
    groupOf stem delimiter entry = .object entry.1 entry.2 := by
  rw [groupOf, alone]

variable {stem delimiter} in
theorem groupOf_of_some {entry : String × StoredObject} {common : String}
    (rolled : commonStem? stem delimiter entry.1 = some common) :
    groupOf stem delimiter entry = .rolled common entry.1 := by
  rw [groupOf, rolled]

theorem groupOf_stem? (entry : String × StoredObject) :
    (groupOf stem delimiter entry).stem? = commonStem? stem delimiter entry.1 := by
  unfold groupOf
  cases commonStem? stem delimiter entry.1 <;> rfl

/-- The first entry of a listing has the stem of the first key. -/
theorem groups_head_stem? (entry : String × StoredObject) (rest : List (String × StoredObject)) :
    (groups stem delimiter (entry :: rest)).head?.bind Group.stem? = commonStem? stem delimiter entry.1 := by
  rw [groups_cons, joinGroup_eq]
  split
  · rename_i joins
    rw [joins.2, groupOf_stem?]
  · exact groupOf_stem? stem delimiter entry

/-- The objects of a listing are the keys that are not rolled up. -/
theorem groups_objects (entries : List (String × StoredObject)) :
    (groups stem delimiter entries).filterMap Group.object? =
      entries.filter fun entry => (commonStem? stem delimiter entry.1).isNone := by
  induction entries with
  | nil => rfl
  | cons entry rest ih =>
      rw [groups_cons, joinGroup_eq, groupOf_stem?]
      cases rolled : commonStem? stem delimiter entry.1 with
      | none => simp [groupOf_of_none rolled, rolled, Group.object?, ih]
      | some common =>
          rw [List.filter_cons_of_neg (by simp [rolled]), ← ih]
          split
          · rfl
          · rw [groupOf_of_some rolled]
            rfl

/-- The first key adds its stem to a listing unless the first entry of the others has it. -/
theorem groups_stems_cons (entry : String × StoredObject) (rest : List (String × StoredObject)) :
    (groups stem delimiter (entry :: rest)).filterMap Group.stem? =
      if (groups stem delimiter rest).head?.bind Group.stem? = commonStem? stem delimiter entry.1
      then (groups stem delimiter rest).filterMap Group.stem?
      else (commonStem? stem delimiter entry.1).toList ++ (groups stem delimiter rest).filterMap Group.stem? := by
  rw [groups_cons, joinGroup_eq, groupOf_stem?]
  cases rolled : commonStem? stem delimiter entry.1 with
  | none =>
      rw [groupOf_of_none rolled]
      cases (groups stem delimiter rest).head?.bind Group.stem? <;> rfl
  | some common =>
      simp only [Option.isSome_some, true_and]
      split
      · rfl
      · rw [groupOf_of_some rolled]
        rfl

/-- The stems of a listing are those of its keys. -/
theorem mem_groups_stems_iff (entries : List (String × StoredObject)) (common : String) :
    common ∈ (groups stem delimiter entries).filterMap Group.stem? ↔
      ∃ entry ∈ entries, commonStem? stem delimiter entry.1 = some common := by
  induction entries with
  | nil => simp [groups]
  | cons entry rest ih =>
      simp only [groups_stems_cons, List.mem_cons, exists_eq_or_imp, ← ih]
      split
      · rename_i joins
        refine ⟨.inr, fun either => either.elim (fun rolled => ?_) id⟩
        rw [rolled, Option.bind_eq_some_iff] at joins
        obtain ⟨group, first, sameStem⟩ := joins
        exact List.mem_filterMap.mpr ⟨group, List.mem_of_head? first, sameStem⟩
      · rw [List.mem_append, Option.mem_toList]

/-- The stems of a listing ascend strictly, for keys with a common stem lie together. -/
theorem groups_stems_ascend {entries : List (String × StoredObject)}
    (sorted : entries.Pairwise fun first second => first.1 < second.1)
    (allBegin : ∀ entry ∈ entries, Root.startsWith entry.1 stem = true) :
    ((groups stem "/" entries).filterMap Group.stem?).Pairwise (· < ·) := by
  induction entries with
  | nil => exact .nil
  | cons entry rest ih =>
      obtain ⟨above, restSorted⟩ := List.pairwise_cons.mp sorted
      have restAscends := ih restSorted fun other member => allBegin other (List.mem_cons_of_mem _ member)
      rw [groups_stems_cons]
      split
      · exact restAscends
      · rename_i apart
        cases rolled : commonStem? stem "/" entry.1 with
        | none => exact restAscends
        | some common =>
            refine List.pairwise_cons.mpr ⟨fun other member => ?_, restAscends⟩
            obtain ⟨later, inRest, laterRolled⟩ := (mem_groups_stems_iff stem "/" rest other).mp member
            have entryBegins := allBegin entry List.mem_cons_self
            have laterBegins := allBegin later (List.mem_cons_of_mem _ inRest)
            rcases commonStem?_lt stem entryBegins laterBegins rolled laterRolled (above later inRest) with same | less
            · -- Then the first of the other keys lies between two keys with the stem and has it too.
              subst same
              obtain ⟨next, more, rfl⟩ := List.exists_cons_of_ne_nil (List.ne_nil_of_mem inRest)
              refine absurd ?_ apart
              rw [groups_head_stem?, rolled]
              rcases List.mem_cons.mp inRest with rfl | inMore
              · exact laterRolled
              · exact commonStem?_between stem entryBegins laterBegins rolled laterRolled
                  (above next List.mem_cons_self) ((List.pairwise_cons.mp restSorted).1 later inMore)
            · exact less

end Groups

section Listed

/-- The keys of the objects that entries in order are listed with. -/
def filesOf (stem : String) (entries : List (String × StoredObject)) : List String :=
  ((groups stem "/" entries).filterMap Group.object?).map Prod.fst

/-- The stems that entries in order are listed with. -/
def stemsOf (stem : String) (entries : List (String × StoredObject)) : List String :=
  (groups stem "/" entries).filterMap Group.stem?

variable {stem : String} {entries : List (String × StoredObject)}

theorem mem_filesOf_iff (key : String) :
    key ∈ filesOf stem entries ↔ (∃ entry ∈ entries, entry.1 = key) ∧ commonStem? stem "/" key = none := by
  rw [filesOf, groups_objects, List.mem_map]
  constructor
  · rintro ⟨entry, member, rfl⟩
    obtain ⟨listed, alone⟩ := List.mem_filter.mp member
    exact ⟨⟨entry, listed, rfl⟩, Option.isNone_iff_eq_none.mp alone⟩
  · rintro ⟨⟨entry, listed, rfl⟩, alone⟩
    exact ⟨entry, List.mem_filter.mpr ⟨listed, Option.isNone_iff_eq_none.mpr alone⟩, rfl⟩

theorem filesOf_ascend (sorted : entries.Pairwise fun first second => first.1 < second.1) :
    (filesOf stem entries).Pairwise (· < ·) := by
  rw [filesOf, groups_objects, List.pairwise_map]
  exact sorted.filter _

/-- A key with no further slash is listed as a file. -/
theorem mem_filesOf {name : String} (free : '/' ∉ name.toList) {object : StoredObject}
    (member : (stem ++ name, object) ∈ entries) : stem ++ name ∈ filesOf stem entries :=
  (mem_filesOf_iff _).mpr ⟨⟨_, member, rfl⟩, commonStem?_file stem free⟩

variable {bucket : Bucket}
  (stored : ∀ entry ∈ entries, bucket.find? entry.1 = some entry.2 ∧ Root.startsWith entry.1 stem = true)
include stored

/-- A listed file is a stored key with no further slash. -/
theorem of_mem_filesOf {key : String} (member : key ∈ filesOf stem entries) :
    (∃ name, '/' ∉ name.toList ∧ key = stem ++ name) ∧ (bucket.find? key).isSome := by
  obtain ⟨⟨entry, listed, rfl⟩, alone⟩ := (mem_filesOf_iff key).mp member
  obtain ⟨found, begins⟩ := stored entry listed
  obtain ⟨name, same⟩ := Root.startsWith_iff.mp begins
  rw [same, commonStem?_eq_none_iff] at alone
  exact ⟨⟨name, alone, same⟩, Option.isSome_iff_exists.mpr ⟨entry.2, found⟩⟩

/-- A listed stem is that of a stored key. -/
theorem of_mem_stemsOf {common : String} (member : common ∈ stemsOf stem entries) :
    (∃ name, '/' ∉ name.toList ∧ common = stem ++ name ++ "/") ∧
      ∃ key, Root.startsWith key common = true ∧ (bucket.find? key).isSome := by
  obtain ⟨entry, listed, rolled⟩ := (mem_groups_stems_iff stem "/" entries common).mp member
  obtain ⟨found, begins⟩ := stored entry listed
  obtain ⟨name, free, same, below⟩ := (commonStem?_eq_some_iff stem begins).mp rolled
  exact ⟨⟨name, free, same⟩, entry.1, below, Option.isSome_iff_exists.mpr ⟨entry.2, found⟩⟩

/-- The stem of a key is listed. -/
theorem mem_stemsOf {name : String} (free : '/' ∉ name.toList) {entry : String × StoredObject}
    (member : entry ∈ entries) (below : Root.startsWith entry.1 (stem ++ name ++ "/") = true) :
    stem ++ name ++ "/" ∈ stemsOf stem entries := by
  have rolled := (commonStem?_eq_some_iff stem (stored entry member).2).mpr ⟨name, free, rfl, below⟩
  exact (mem_groups_stems_iff stem "/" entries _).mpr ⟨entry, member, rolled⟩

end Listed

end PathStore.Bucket

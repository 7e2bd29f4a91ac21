/-
This file shows what a listing gives where others change the store between its pages. It gives every child that is there
at each of its requests, and no file twice.
-/
import PathStore.Proofs.Driver.Listing
import PathStore.Proofs.Program.Visits

namespace PathStore

namespace Bucket

/-- What the pages of a listing from a marker on give of the stores that they meet. The keys of the files ascend, all
that is listed is met, and what is met on every page is listed. -/
structure Listed (stem marker : String) (met : List Store) (files stems : List String) : Prop where
  ascend : files.Pairwise (· < ·)
  behind : ∀ key ∈ files, marker < key
  fileMet : ∀ key ∈ files, (∃ name, '/' ∉ name.toList ∧ key = stem ++ name) ∧
    ∃ store ∈ met, (store.bucket.find? key).isSome
  stemMet : ∀ common ∈ stems, (∃ name, '/' ∉ name.toList ∧ common = stem ++ name ++ "/") ∧
    ∃ store ∈ met, ∃ key, Root.startsWith key common = true ∧ (store.bucket.find? key).isSome
  fileListed : ∀ name, '/' ∉ name.toList → marker < stem ++ name →
    (∀ store ∈ met, (store.bucket.find? (stem ++ name)).isSome) → stem ++ name ∈ files
  stemListed : ∀ name, '/' ∉ name.toList → marker < stem ++ name ++ "/" →
    (∀ store ∈ met, ∃ key, Root.startsWith key (stem ++ name ++ "/") = true ∧ (store.bucket.find? key).isSome) →
      stem ++ name ++ "/" ∈ stems

section Page

variable {store : Store} {stem marker : String} {front back : List (String × StoredObject)}
  (split : store.bucket.entriesAfter stem marker = front ++ back)
include split

theorem entry_of_front {entry : String × StoredObject} (member : entry ∈ front) :
    store.bucket.find? entry.1 = some entry.2 ∧ Root.startsWith entry.1 stem = true ∧ marker < entry.1 :=
  (mem_entriesAfter_iff stem store.bucket marker entry).mp (split ▸ List.mem_append_left back member)

theorem stored_of_front (entry : String × StoredObject) (member : entry ∈ front) :
    store.bucket.find? entry.1 = some entry.2 ∧ Root.startsWith entry.1 stem = true :=
  ⟨(entry_of_front split member).1, (entry_of_front split member).2.1⟩

theorem sorted_of_split : (front ++ back).Pairwise fun first second => first.1 < second.1 :=
  split ▸ store.bucket.entriesAfter_sorted stem marker

theorem marker_lt_file {key : String} (member : key ∈ filesOf stem front) : marker < key := by
  obtain ⟨⟨entry, inFront, rfl⟩, -⟩ := (mem_filesOf_iff key).mp member
  exact (entry_of_front split inFront).2.2

/-- A file on a page is a stored child. -/
theorem met_of_file {key : String} (member : key ∈ filesOf stem front) :
    (∃ name, '/' ∉ name.toList ∧ key = stem ++ name) ∧ ∃ other ∈ [store], (other.bucket.find? key).isSome :=
  (of_mem_filesOf (stored_of_front split) member).imp_right fun isStored => ⟨store, List.mem_cons_self, isStored⟩

/-- A stem on a page is that of a child with a stored key. -/
theorem met_of_stem {common : String} (member : common ∈ stemsOf stem front) :
    (∃ name, '/' ∉ name.toList ∧ common = stem ++ name ++ "/") ∧
      ∃ other ∈ [store], ∃ key, Root.startsWith key common = true ∧ (other.bucket.find? key).isSome :=
  (of_mem_stemsOf (stored_of_front split) member).imp_right fun stored => ⟨store, List.mem_cons_self, stored⟩

/-- The files of a page do not come after its marker. -/
theorem file_lt_of_marker_lt {next : String} (rest : store.bucket.entriesAfter stem next = back) {key : String}
    (member : key ∈ filesOf stem front) {other : String} (above : next < other) : key < other := by
  obtain ⟨⟨entry, listed, rfl⟩, -⟩ := (mem_filesOf_iff key).mp member
  obtain ⟨found, begins⟩ := stored_of_front split entry listed
  have notBehind : ¬next < entry.1 := by
    intro after
    have inBack := (mem_entriesAfter_iff stem store.bucket next entry).mpr ⟨found, begins, after⟩
    have frontBelow := (List.pairwise_append.mp (sorted_of_split split)).2.2
    exact String.lt_irrefl _ (frontBelow entry listed entry (rest ▸ inBack))
  by_cases same : next = entry.1
  · exact same ▸ above
  · exact String.lt_trans (lt_of_not_lt_of_ne notBehind same) above

/-- A stored file after the marker is on the page or behind it. -/
theorem file_cases {name : String} (free : '/' ∉ name.toList) (above : marker < stem ++ name)
    (isStored : (store.bucket.find? (stem ++ name)).isSome) :
    stem ++ name ∈ filesOf stem front ∨ ∃ entry ∈ back, entry.1 = stem ++ name := by
  obtain ⟨object, found⟩ := Option.isSome_iff_exists.mp isStored
  have listed := (mem_entriesAfter_iff stem store.bucket marker (stem ++ name, object)).mpr
    ⟨found, Root.startsWith_append stem name, above⟩
  rw [split] at listed
  rcases List.mem_append.mp listed with inFront | inBack
  · exact .inl (mem_filesOf free inFront)
  · exact .inr ⟨_, inBack, rfl⟩

/-- A stem after the marker with a stored key is on the page, or the key is behind it. -/
theorem stem_cases {name key : String} (free : '/' ∉ name.toList) (above : marker < stem ++ name ++ "/")
    (below : Root.startsWith key (stem ++ name ++ "/") = true) (isStored : (store.bucket.find? key).isSome) :
    stem ++ name ++ "/" ∈ stemsOf stem front ∨ ∃ entry ∈ back, entry.1 = key := by
  obtain ⟨object, found⟩ := Option.isSome_iff_exists.mp isStored
  have begins : Root.startsWith key stem = true := Root.startsWith_of_append (Root.startsWith_of_append below)
  have listed := (mem_entriesAfter_iff stem store.bucket marker (key, object)).mpr
    ⟨found, begins, Root.lt_of_startsWith above below⟩
  rw [split] at listed
  rcases List.mem_append.mp listed with inFront | inBack
  · exact .inl (mem_stemsOf (stored_of_front split) free inFront below)
  · exact .inr ⟨_, inBack, rfl⟩

/-- The last page lists what it meets. -/
theorem listed_last (ends : back = []) : Listed stem marker [store] (filesOf stem front) (stemsOf stem front) where
  ascend := filesOf_ascend (List.pairwise_append.mp (sorted_of_split split)).1
  behind key member := marker_lt_file split member
  fileMet _ member := met_of_file split member
  stemMet _ member := met_of_stem split member
  fileListed name free above always := by
    subst ends
    refine (file_cases split free above (always store List.mem_cons_self)).resolve_right ?_
    rintro ⟨entry, inBack, -⟩
    exact List.not_mem_nil inBack
  stemListed name free above always := by
    subst ends
    obtain ⟨key, below, isStored⟩ := always store List.mem_cons_self
    refine (stem_cases split free above below isStored).resolve_right ?_
    rintro ⟨entry, inBack, -⟩
    exact List.not_mem_nil inBack

/-- A page before others lists what it meets up to its marker. What it does not list of a directory comes after the
marker, for keys with a common stem lie together. -/
theorem Listed.page {next : String} (isLast : ∃ last ∈ front, last.1 = next)
    (rest : store.bucket.entriesAfter stem next = back) {met : List Store} {files stems : List String}
    (later : Listed stem next met files stems) :
    Listed stem marker (store :: met) (filesOf stem front ++ files) (stemsOf stem front ++ stems) := by
  obtain ⟨last, inFront, rfl⟩ := isLast
  have aboveMarker : marker < last.1 := (entry_of_front split inFront).2.2
  have behindNext : ∀ entry ∈ back, last.1 < entry.1 := fun entry member =>
    ((mem_entriesAfter_iff stem store.bucket last.1 entry).mp (rest ▸ member)).2.2
  have frontSorted := (List.pairwise_append.mp (sorted_of_split split)).1
  constructor
  case ascend =>
    refine List.pairwise_append.mpr ⟨filesOf_ascend frontSorted, later.ascend, fun first inFirst second inSecond => ?_⟩
    exact file_lt_of_marker_lt split rest inFirst (later.behind second inSecond)
  case behind =>
    intro key member
    rcases List.mem_append.mp member with onPage | onOther
    · exact marker_lt_file split onPage
    · exact String.lt_trans aboveMarker (later.behind key onOther)
  case fileMet =>
    intro key member
    rcases List.mem_append.mp member with onPage | onOther
    · obtain ⟨named, other, isMet, isStored⟩ := met_of_file split onPage
      exact ⟨named, other, List.mem_append_left met isMet, isStored⟩
    · obtain ⟨named, other, isMet, isStored⟩ := later.fileMet key onOther
      exact ⟨named, other, List.mem_cons_of_mem _ isMet, isStored⟩
  case stemMet =>
    intro common member
    rcases List.mem_append.mp member with onPage | onOther
    · obtain ⟨named, other, isMet, stored⟩ := met_of_stem split onPage
      exact ⟨named, other, List.mem_append_left met isMet, stored⟩
    · obtain ⟨named, other, isMet, stored⟩ := later.stemMet common onOther
      exact ⟨named, other, List.mem_cons_of_mem _ isMet, stored⟩
  case fileListed =>
    intro name free above always
    obtain ⟨now, others⟩ := List.forall_mem_cons.mp always
    rcases file_cases split free above now with onPage | ⟨entry, inBack, same⟩
    · exact List.mem_append_left _ onPage
    · exact List.mem_append_right _ (later.fileListed name free (same ▸ behindNext entry inBack) others)
  case stemListed =>
    intro name free above always
    obtain ⟨⟨key, below, isStored⟩, others⟩ := List.forall_mem_cons.mp always
    rcases stem_cases split free above below isStored with onPage | ⟨entry, inBack, rfl⟩
    · exact List.mem_append_left _ onPage
    · by_cases beyond : last.1 < stem ++ name ++ "/"
      · exact List.mem_append_right _ (later.stemListed name free beyond others)
      · -- Then the marker lies between the stem and a key that begins with it.
        have own : Root.startsWith (stem ++ name ++ "/") (stem ++ name ++ "/") = true :=
          Root.startsWith_iff.mpr ⟨"", String.append_empty.symm⟩
        refine List.mem_append_left _ (mem_stemsOf (stored_of_front split) free inFront ?_)
        by_cases same : last.1 = stem ++ name ++ "/"
        · rw [same, own]
        · exact Root.startsWith_of_between own below (lt_of_not_lt_of_ne beyond same) (behindNext entry inBack)

end Page

end Bucket

namespace Driver

variable (driver : Driver) (clock : Clock) (hasDirectory : Bool)

/-- Page by page the paths of what is listed are collected, each page from the store that it meets. -/
theorem run_collectPages_busy (positive : 1 ≤ driver.listLimit) (stem marker : String) (pages : Nat)
    (busy : BusyStore) :
    let result := (driver.collectPages stem pages (.text marker)).run
      (Workspace.reply (BusyStore.answer clock) hasDirectory) busy
    result.1 = .error .tooManyPages ∨
      ∃ met files stems, result.2.met = busy.met ++ met ∧ Bucket.Listed stem marker met files stems ∧
        result.1 = .ok ((files.map driver.root.pathFor).map .whole, (stems.map driver.root.pathFor).map .whole) := by
  induction pages generalizing marker busy with
  | zero => exact .inl rfl
  | succ pages ih =>
      obtain ⟨front, back, next, split, -, paged, ends⟩ := answer_list_cases clock
        { stem, delimiter := "/", marker := .text marker, limit := driver.listLimit } rfl positive busy.visited
      rw [collectPages, Program.run_bind, run_page, BusyStore.answer, paged]
      simp only [mapM_files, mapM_directories, Program.run_bind, Program.run_ofExcept]
      have files : ((Bucket.groups stem "/" front).filterMap Bucket.Group.object?).map
          (fun entry => LooseText.whole (driver.root.pathFor entry.1)) =
            ((Bucket.filesOf stem front).map driver.root.pathFor).map .whole := by
        rw [Bucket.filesOf, List.map_map, List.map_map]
        rfl
      have directories : ((Bucket.groups stem "/" front).filterMap Bucket.Group.stem?).map
          (fun common => LooseText.whole (driver.root.pathFor common)) =
            ((Bucket.stemsOf stem front).map driver.root.pathFor).map .whole := by
        rw [Bucket.stemsOf, List.map_map]
        rfl
      rw [files, directories]
      rcases ends with ⟨last, empty⟩ | ⟨more, -, isLast, rest⟩
      · rw [if_neg (Bool.eq_false_iff.mp last)]
        exact .inr ⟨[busy.visited], _, _, rfl, Bucket.listed_last split empty, rfl⟩
      · rw [if_pos more, Program.run_bind]
        have later := ih next ⟨busy.visited, busy.visits.tail, busy.met ++ [busy.visited]⟩
        generalize (driver.collectPages stem pages (.text next)).run _ _ = result at later ⊢
        obtain ⟨outcome, after⟩ := result
        rcases later with rfl | ⟨met, laterFiles, laterStems, metAll, listed, rfl⟩
        · exact .inl rfl
        · refine .inr ⟨busy.visited :: met, _, _, ?_, listed.page split isLast rest, ?_⟩
          · exact metAll.trans (List.append_assoc _ _ _)
          · rw [List.map_append, List.map_append, List.map_append, List.map_append]
            rfl

/-- A listing that succeeds gives the paths of what is listed on its pages. -/
theorem run_listPath_busy (positive : 1 ≤ driver.listLimit) {path : String} (wellFormed : Path.isValid path true = true)
    (pages : Nat) (busy : BusyStore) {paths : List LooseText} :
    let result := (driver.listPath path pages).run (Workspace.reply (BusyStore.answer clock) hasDirectory) busy
    result.1 = .ok paths → ∃ met files stems, result.2.met = busy.met ++ met ∧
      Bucket.Listed (Root.childStem (driver.root.keyFor path)) "" met files stems ∧
      paths = (files.map driver.root.pathFor ++ stems.map driver.root.pathFor).map .whole := by
  intro result succeeded
  have listing := driver.run_collectPages_busy clock hasDirectory positive (Root.childStem (driver.root.keyFor path)) ""
    pages busy
  simp only [result, listPath, checkPath_of_isValid wellFormed, pure_bind, Program.run_bind] at succeeded ⊢
  generalize (driver.collectPages _ pages (.text "")).run _ busy = collected at listing succeeded ⊢
  obtain ⟨outcome, after⟩ := collected
  rcases listing with rfl | ⟨met, files, stems, recorded, listed, rfl⟩
  · cases succeeded
  · dsimp only at succeeded ⊢
    split at succeeded
    · cases succeeded
    · rename_i found
      rw [if_neg found]
      exact ⟨met, files, stems, recorded, listed, (Except.ok.inj succeeded).symm.trans (List.map_append ..).symm⟩

/-- No two files that are listed below a path have one path, unless a file lies at the bare stem. -/
theorem nodup_paths {path : String} (wellFormed : Path.isValid path true = true) {met : List Store} {marker : String}
    {files stems : List String}
    (listed : Bucket.Listed (Root.childStem (driver.root.keyFor path)) marker met files stems)
    (named : ∀ store ∈ met, store.bucket.find? (Root.childStem (driver.root.keyFor path)) = none) :
    (files.map driver.root.pathFor).Nodup := by
  have child : ∀ key ∈ files, ∃ name, key = Root.childStem (driver.root.keyFor path) ++ name ∧
      driver.root.pathFor key = Path.child path name := by
    intro key member
    obtain ⟨⟨name, free, rfl⟩, store, isMet, isStored⟩ := listed.fileMet key member
    have filled : name ≠ "" := by
      rintro rfl
      rw [String.append_empty, named store isMet] at isStored
      cases isStored
    exact ⟨name, rfl, (driver.root.pathFor_child wellFormed filled free).1⟩
  refine List.pairwise_map.mpr (listed.ascend.imp_of_mem fun {first second} inFirst inSecond below same => ?_)
  obtain ⟨name, rfl, firstPath⟩ := child first inFirst
  obtain ⟨other, rfl, secondPath⟩ := child second inSecond
  rw [firstPath, secondPath, Path.child_eq wellFormed, Path.child_eq wellFormed, String.append_right_inj,
    String.append_right_inj] at same
  exact String.lt_irrefl _ (same ▸ below)

/-- Where others change the store between its pages, a listing that succeeds gives the paths of files and then of
directories, and no file twice. All that it gives is there at one of its requests at least, and it gives every child
that is there at each of them, where what lies in a directory may be another object each time. -/
theorem listPath_amid_visits (store : Store) (visits : List (List Visit)) (path : String) (pages : Nat)
    (wellFormed : Path.isValid path true = true) (positive : 1 ≤ driver.listLimit) :
    let stem := Root.childStem (driver.root.keyFor path)
    let result := Workspace.run (BusyStore.answer clock) (driver.listPath path pages)
      { store := ({ store, visits } : BusyStore), hasDirectory }
    let met := result.2.store.met
    ∀ paths, result.1 = .ok paths → ∃ files stems : List String,
      paths = (files.map driver.root.pathFor ++ stems.map driver.root.pathFor).map .whole ∧ files.Pairwise (· < ·) ∧
      ((∀ store ∈ met, store.bucket.find? stem = none) → (files.map driver.root.pathFor).Nodup) ∧
      (∀ key ∈ files, (∃ name, '/' ∉ name.toList ∧ key = stem ++ name) ∧
        ∃ store ∈ met, (store.bucket.find? key).isSome) ∧
      (∀ common ∈ stems, (∃ name, '/' ∉ name.toList ∧ common = stem ++ name ++ "/") ∧
        ∃ store ∈ met, ∃ key, Root.startsWith key common = true ∧ (store.bucket.find? key).isSome) ∧
      ∀ name, name ≠ "" → '/' ∉ name.toList →
        ((∀ store ∈ met, (store.bucket.find? (stem ++ name)).isSome) →
          Path.child path name ∈ files.map driver.root.pathFor) ∧
        ((∀ store ∈ met, ∃ key, Root.startsWith key (stem ++ name ++ "/") = true ∧ (store.bucket.find? key).isSome) →
          Path.child path name ∈ stems.map driver.root.pathFor) := by
  intro stem result met paths succeeded
  let start : BusyStore := { store, visits }
  obtain ⟨outcome, stored⟩ := Workspace.run_alone (BusyStore.answer clock) (driver.listPath path pages)
    { store := start, hasDirectory }
  obtain ⟨all, files, stems, recorded, listed, given⟩ := driver.run_listPath_busy clock hasDirectory positive wellFormed
    pages start (outcome.symm.trans succeeded)
  have same : met = all := (congrArg BusyStore.met stored).trans (recorded.trans (List.nil_append all))
  rw [same]
  refine ⟨files, stems, given, listed.ascend, driver.nodup_paths wellFormed listed, listed.fileMet, listed.stemMet, ?_⟩
  intro name filled free
  obtain ⟨filePath, stemPath⟩ := driver.root.pathFor_child wellFormed filled free
  constructor
  · intro always
    have above : "" < stem ++ name := empty_lt_of_ne fun empty => filled (String.append_eq_empty_iff.mp empty).2
    exact List.mem_map.mpr ⟨_, listed.fileListed name free above always, filePath⟩
  · intro always
    have above : "" < stem ++ name ++ "/" := empty_lt_of_ne fun empty =>
      absurd (String.append_eq_empty_iff.mp empty).2 (by decide)
    exact List.mem_map.mpr ⟨_, listed.stemListed name free above always, stemPath⟩

/-- Others move the only object of a directory elsewhere in it, store a file and take one away, while a listing goes on
page by page. -/
def listingVisits : List (List Visit) :=
  [[⟨⟨.ofInt 5⟩, .putFile "reg/a/0" [9]⟩], [⟨⟨.ofInt 6⟩, .move "reg/a/c/d" "reg/a/c/e"⟩],
    [⟨⟨.ofInt 7⟩, .delete "reg/a/0"⟩]]

/-- A listing among the visits of others gives the file and the directory that are there all the time. -/
theorem busy_listing_gives_lasting_children :
    let result := Workspace.run (BusyStore.answer ⟨.ofInt 0⟩) (listPath ⟨.ofDirectory "/reg/", 1, 60, .standard⟩ "/a" 9)
      { store := ({ store := { bucket := .sample }, visits := listingVisits } : BusyStore) }
    result.1 = .ok ["/a/0", "/a/b", "/a/c"] ∧ result.2.store.met.length = 3 ∧
      ∃ files stems : List String, ["/a/0", "/a/b", "/a/c"] =
        files.map (Root.ofDirectory "/reg/").pathFor ++ stems.map (Root.ofDirectory "/reg/").pathFor ∧
        "/a/b" ∈ files.map (Root.ofDirectory "/reg/").pathFor ∧
        "/a/c" ∈ stems.map (Root.ofDirectory "/reg/").pathFor := by
  intro result
  have succeeded : result.1 = .ok ["/a/0", "/a/b", "/a/c"] := rfl
  have requests : result.2.store.met.length = 3 := by decide +kernel
  obtain ⟨files, stems, given, -, -, -, -, complete⟩ := listPath_amid_visits
    ⟨.ofDirectory "/reg/", 1, 60, .standard⟩ ⟨.ofInt 0⟩ true { bucket := .sample } listingVisits "/a" 9 (by decide)
    (by decide) _ succeeded
  have stem : Root.childStem ((Root.ofDirectory "/reg/").keyFor "/a") = "reg/a/" := by decide
  have fileMet : ∀ store ∈ result.2.store.met, (store.bucket.find? "reg/a/b").isSome := by decide +kernel
  have eitherMet : ∀ store ∈ result.2.store.met,
      (store.bucket.find? "reg/a/c/d").isSome ∨ (store.bucket.find? "reg/a/c/e").isSome := by decide +kernel
  rw [stem] at complete
  refine ⟨succeeded, requests, files, stems, ?_, ?_, ?_⟩
  · exact (List.map_inj_right fun _ _ => LooseText.whole.inj).mp given
  · exact (complete "b" (by decide) (by decide)).1 fileMet
  · refine (complete "c" (by decide) (by decide)).2 fun store isMet => ?_
    rcases eitherMet store isMet with isStored | isStored
    · exact ⟨"reg/a/c/d", by decide, isStored⟩
    · exact ⟨"reg/a/c/e", by decide, isStored⟩

end Driver
end PathStore

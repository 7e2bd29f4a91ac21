/-
This file shows what a listing gives. It gives the paths of the files and then of the directories that are children of
its path, on pages of any size, and fails only where another path than the root has none.
-/
import PathStore.Proofs.Bucket.Children
import PathStore.Proofs.Driver.Tidiness

namespace PathStore.Driver

variable (driver : Driver) (clock : Clock) (hasDirectory : Bool)

theorem mapM_files (objects : List (String × StoredObject)) :
    ((objects.map fun entry => entry.2.info entry.1).mapM fun item => driver.pathOf item.key) =
      .ok (objects.map fun entry => (driver.root.pathFor entry.1 : LooseText)) := by
  rw [List.mapM_map]
  exact List.mapM_pure

theorem mapM_directories (stems : List String) :
    ((stems.map fun stem => Json.text (.whole stem)).mapM driver.pathOf) =
      .ok (stems.map fun stem => (driver.root.pathFor stem : LooseText)) := by
  rw [List.mapM_map]
  exact List.mapM_pure

/-- Page by page the paths of all entries after a marker are collected. -/
theorem run_collectPages (positive : 1 ≤ driver.listLimit) (stem marker : String) (store : Store) (pages : Nat)
    (enough : (store.bucket.entriesAfter stem marker).length < pages) :
    let found := Bucket.groups stem "/" (store.bucket.entriesAfter stem marker)
    (driver.collectPages stem pages (.text marker)).run (Workspace.reply (Store.answer clock) hasDirectory) store =
      (.ok ((found.filterMap Bucket.Group.object?).map fun entry => (driver.root.pathFor entry.1 : LooseText),
        (found.filterMap Bucket.Group.stem?).map fun stem => (driver.root.pathFor stem : LooseText)), store) := by
  induction pages generalizing marker with
  | zero => exact absurd enough (Nat.not_lt_zero _)
  | succ pages ih =>
      obtain ⟨front, back, next, split, tiled, paged, ends⟩ := answer_list_cases clock
        { stem, delimiter := "/", marker := .text marker, limit := driver.listLimit } rfl positive store
      rw [collectPages, Program.run_bind, run_page, paged]
      simp only [mapM_files, mapM_directories, Program.run_bind, Program.run_ofExcept]
      rw [split]
      rcases ends with ⟨last, rfl⟩ | ⟨more, shorter, -, rest⟩
      · rw [if_neg (Bool.eq_false_iff.mp last), List.append_nil]
        rfl
      · have fewer : (store.bucket.entriesAfter stem next).length < pages := by
          rw [rest]
          exact Nat.lt_of_lt_of_le shorter (Nat.le_of_lt_succ enough)
        rw [if_pos more, Program.run_bind, ih next fewer, rest, tiled]
        simp only [List.filterMap_append, List.map_append]
        rfl

/-- A listing gives the paths of what a whole listing of the store holds, and fails where that is nothing. -/
theorem run_listPath (positive : 1 ≤ driver.listLimit) {path : String} (wellFormed : Path.isValid path true = true)
    (store : Store) {pages : Nat} (enough : store.bucket.size < pages) :
    let stem := Root.childStem (driver.root.keyFor path)
    (driver.listPath path pages).run (Workspace.reply (Store.answer clock) hasDirectory) store =
      (if path ≠ "/" ∧ store.bucket.fileKeys stem = [] ∧ store.bucket.directoryStems stem = []
        then .error (.pathNotFound path)
        else .ok (((store.bucket.fileKeys stem).map driver.root.pathFor ++
          (store.bucket.directoryStems stem).map driver.root.pathFor).map .whole), store) := by
  intro stem
  have fewer : (store.bucket.entriesAfter stem "").length < pages :=
    Nat.lt_of_le_of_lt (List.length_filter_le _ _) enough
  rw [listPath, checkPath_of_isValid wellFormed, pure_bind, Program.run_bind,
    driver.run_collectPages clock hasDirectory positive stem "" store pages fewer, Bucket.fileKeys,
    Bucket.directoryStems]
  simp only [List.map_eq_nil_iff, List.map_map, List.map_append]
  split <;> rfl

section Tidy

variable {driver} {bucket : Bucket} (tidy : driver.root.Tidy bucket) {path : String}
  (wellFormed : Path.isValid path true = true)

include tidy wellFormed

/-- In a tidy store a key that begins like the children of a path goes on with components. -/
theorem row_of_stored {rest : String}
    (isStored : (bucket.find? (Root.childStem (driver.root.keyFor path) ++ rest)).isSome) :
    Path.IsRow (Path.leading path ++ rest) := by
  rw [driver.root.childStem_keyFor wellFormed, String.append_assoc] at isStored
  obtain ⟨child, valid, same⟩ := tidy _ (Root.startsWith_append _ _) isStored
  obtain ⟨names, rfl, row⟩ := (Path.isValid_iff child).mp valid
  rw [driver.root.keyFor_row row, String.append_right_inj] at same
  exact same ▸ row

/-- In a tidy store no key that begins like the children of a path is empty. -/
theorem key_ne_empty {key : String} (begins : Root.startsWith key (Root.childStem (driver.root.keyFor path)) = true)
    (isStored : (bucket.find? key).isSome) : key ≠ "" := by
  obtain ⟨rest, rfl⟩ := Root.startsWith_iff.mp begins
  have row := row_of_stored tidy wellFormed isStored
  rw [driver.root.childStem_keyFor wellFormed, String.append_assoc]
  intro empty
  exact row.ne_empty (String.append_eq_empty_iff.mp empty).2

/-- The path of a file comes back from its key. -/
theorem pathFor_file {name : String}
    (isStored : (bucket.find? (Root.childStem (driver.root.keyFor path) ++ name)).isSome) :
    driver.root.pathFor (Root.childStem (driver.root.keyFor path) ++ name) = Path.child path name := by
  have row := row_of_stored tidy wellFormed isStored
  rw [driver.root.childStem_keyFor wellFormed, String.append_assoc, driver.root.pathFor_row row,
    Path.child_eq wellFormed]

/-- The path of a directory comes back from the stem of what lies in it. -/
theorem pathFor_directory {name key : String}
    (below : Root.startsWith key (Root.childStem (driver.root.keyFor path) ++ name ++ "/") = true)
    (isStored : (bucket.find? key).isSome) :
    driver.root.pathFor (Root.childStem (driver.root.keyFor path) ++ name ++ "/") = Path.child path name := by
  obtain ⟨rest, rfl⟩ := Root.startsWith_iff.mp below
  rw [String.append_assoc, String.append_assoc] at isStored
  have row := row_of_stored tidy wellFormed isStored
  rw [← String.append_assoc, ← String.append_assoc] at row
  rw [driver.root.childStem_keyFor wellFormed, @String.append_assoc driver.root.stem,
    driver.root.pathFor_row_slash row.split.1, Path.child_eq wellFormed]

end Tidy

/-- Changes leave a store tidy, whatever fails. In a tidy store a listing without faults ends, on pages of any size,
and changes nothing. It fails where another path than the root has no children, and else gives the paths of the files
among them and then of the directories, each once and in ascending order. -/
theorem listPath_children {τ : Type} (positive : 1 ≤ driver.listLimit) :
    (∀ (start : Workspace (Store × τ)) (events : List (Event τ)), driver.root.Tidy start.store.1.bucket →
      driver.root.Tidy (driver.history start events).store.1.bucket) ∧
    ∀ (workspace : Workspace Store) (path : String) (pages : Nat), driver.root.Tidy workspace.store.bucket →
      Path.isValid path true = true → workspace.store.bucket.size < pages →
      let stem := Root.childStem (driver.root.keyFor path)
      let bucket := workspace.store.bucket
      let result := Workspace.run (Store.answer clock) (driver.listPath path pages) workspace
      let isMissing := path ≠ "/" ∧ ¬∃ key, Root.startsWith key stem = true ∧ (bucket.find? key).isSome
      result.2.store = workspace.store ∧ (isMissing → result.1 = .error (.pathNotFound path)) ∧
        (¬isMissing → ∃ files directories, bucket.Children stem files directories ∧
          result.1 = .ok ((files.map (Path.child path) ++ directories.map (Path.child path)).map .whole)) := by
  refine ⟨fun start events tidy => driver.tidy_history tidy events, ?_⟩
  intro workspace path pages tidy wellFormed enough stem bucket result isMissing
  obtain ⟨outcome, stored⟩ := Workspace.run_alone (Store.answer clock) (driver.listPath path pages) workspace
  rw [driver.run_listPath clock _ positive wellFormed workspace.store enough] at outcome stored
  obtain ⟨files, directories, children, fileKeys, directoryStems⟩ :=
    bucket.exists_children stem fun key begins isStored => key_ne_empty tidy wellFormed begins isStored
  have filePaths : (bucket.fileKeys stem).map driver.root.pathFor = files.map (Path.child path) := by
    rw [fileKeys, List.map_map]
    exact List.map_congr_left fun name member =>
      pathFor_file tidy wellFormed ((children.mem_files name).mp member).2
  have directoryPaths : (bucket.directoryStems stem).map driver.root.pathFor = directories.map (Path.child path) := by
    rw [directoryStems, List.map_map]
    apply List.map_congr_left
    intro name member
    obtain ⟨-, key, below, isStored⟩ := (children.mem_directories name).mp member
    exact pathFor_directory tidy wellFormed below isStored
  have missing : (path ≠ "/" ∧ bucket.fileKeys stem = [] ∧ bucket.directoryStems stem = []) ↔ isMissing := by
    rw [fileKeys, directoryStems, List.map_eq_nil_iff, List.map_eq_nil_iff, children.eq_nil_iff]
  refine ⟨stored, fun holds => outcome.trans (if_pos (missing.mpr holds)), fun fails => ?_⟩
  refine ⟨files, directories, children, (outcome.trans (if_neg (fails ∘ missing.mp))).trans ?_⟩
  rw [← filePaths, ← directoryPaths]

/-- A listing on pages of one entry gives a file and a directory, and not the sibling that begins like their
directory; a move that a fault interrupts leaves the store tidy. -/
theorem listPath_lists_file_and_directory :
    let fault : Fault := { operation := .move, disturbance := { error := ⟨599, .text "timeout", none⟩ } }
    let events : List (Event (List Fault)) := [⟨⟨.ofInt 1700000000⟩, Fault.draw, .move "/a" "/m"⟩]
    let result := Workspace.run (Store.answer ⟨.ofInt 1700000000⟩)
      (listPath ⟨.ofDirectory "/reg/", 1, 60, .standard⟩ "/a" 6)
      { store := { bucket := .sample } }
    (Root.ofDirectory "/reg/").Tidy
        (history ⟨.ofDirectory "/reg/", 1, 60, .standard⟩ { store := ({ bucket := .sample }, [fault]) }
          events).store.1.bucket ∧
      result.1 = .ok ["/a/b", "/a/c"] ∧
      ∃ files directories, Bucket.sample.Children "reg/a/" files directories ∧
        result.1 = .ok ((files.map (Path.child "/a") ++ directories.map (Path.child "/a")).map .whole) := by
  intro fault events result
  have tidy : (Root.ofDirectory "/reg/").Tidy Bucket.sample := by decide
  have stem : Root.childStem ((Root.ofDirectory "/reg/").keyFor "/a") = "reg/a/" := by decide
  have given : result.1 = .ok ["/a/b", "/a/c"] := rfl
  obtain ⟨kept, listed⟩ :=
    @listPath_children ⟨.ofDirectory "/reg/", 1, 60, .standard⟩ ⟨.ofInt 1700000000⟩ (List Fault) (by decide)
  have found := listed { store := { bucket := .sample } } "/a" 6 tidy (by decide) (by decide)
  rw [stem] at found
  refine ⟨kept { store := ({ bucket := .sample }, [fault]) } events tidy, given, found.2.2 ?_⟩
  rintro ⟨-, none⟩
  exact none ⟨"reg/a/b", by decide, by decide⟩

end PathStore.Driver

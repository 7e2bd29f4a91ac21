/-
This file shows which paths a listing gives twice. In a store that operations have filled a path is listed once, unless
an object has its key and other keys lie below it, which lists it once as a file and once as a directory.
-/
import Mathlib.Data.List.Count
import Mathlib.Data.List.Nodup
import PathStore.Proofs.Driver.Describing
import PathStore.Proofs.Root.RoundTrip

namespace PathStore

/-- In two lists without repetitions an item is met twice if it is in both. -/
theorem count_append_of_nodup {first second : List String} (firstOnce : first.Nodup) (secondOnce : second.Nodup)
    {item : String} (member : item ∈ first ++ second) :
    (first ++ second).count item = if item ∈ first ∧ item ∈ second then 2 else 1 := by
  rw [List.count_append, firstOnce.count, secondOnce.count]
  rw [List.mem_append] at member
  by_cases inFirst : item ∈ first
  · by_cases inSecond : item ∈ second
    · simp [inFirst, inSecond]
    · simp [inFirst, inSecond]
  · simp [inFirst, member.resolve_left inFirst]

namespace Root

/-- A slash at the end of a key makes no difference to its path. -/
theorem pathFor_slash (root : Root) (key : String) : root.pathFor (key ++ "/") = root.pathFor key := by
  simp only [pathFor, dropTrailingSlashes_slash]

/-- No slash ends the key of a well-formed path. -/
theorem keyFor_ne_append_slash (root : Root) {path : String} (valid : Path.isValid path = true) (rest : String) :
    root.keyFor path ≠ rest ++ "/" := by
  obtain ⟨names, rfl, row⟩ := (Path.isValid_iff path).mp valid
  rw [root.keyFor_row row, ← dropTrailingSlashes_append row.ne_append_slash row.ne_empty root.stem]
  exact dropTrailingSlashes_ne _ rest

end Root

namespace Path

/-- The path that is given for a name below another path, where the empty name stands for the other path itself. -/
def given (path name : String) : String := if name = "" then path else child path name

theorem child_ne {path name : String} (filled : name ≠ "") : child path name ≠ path := by
  intro same
  have lengths := congrArg String.length same
  have long : 0 < name.length := Nat.pos_of_ne_zero (String.length_eq_zero_iff.not.mpr filled)
  unfold child at lengths
  split at lengths
  · rename_i root
    rw [root, String.length_append] at lengths
    omega
  · rw [String.length_append, String.length_append] at lengths
    omega

theorem given_injective (path : String) : Function.Injective (given path) := by
  intro first second same
  unfold given at same
  split at same
  · rename_i empty
    split at same
    · rename_i alsoEmpty
      rw [empty, alsoEmpty]
    · rename_i filled
      exact absurd same.symm (child_ne filled)
  · rename_i filled
    split at same
    · exact absurd same (child_ne filled)
    · exact child_inj.mp same

theorem given_ne_iff {path name : String} : given path name ≠ path ↔ name ≠ "" := by
  constructor
  · rintro other rfl
    exact other (if_pos rfl)
  · intro filled
    rw [given, if_neg filled]
    exact child_ne filled

end Path

namespace Bucket

/-- Whether no key of a bucket is empty or ended by a slash. -/
def IsNamed (bucket : Bucket) : Prop :=
  ∀ key, (bucket.find? key).isSome → key ≠ "" ∧ ∀ rest, key ≠ rest ++ "/"

/-- The buckets that operations make of an empty one, whatever drivers carry them out, whatever clocks they read and
whatever disturbs them. -/
inductive Reachable : Bucket → Prop where
  | empty : Reachable .empty
  | after {τ : Type} (driver : Driver) (task : Driver.Task) (clock : Clock) (schedule : Disturbance.Schedule τ)
      (workspace : Workspace (Store × τ)) (earlier : Reachable workspace.store.1.bucket) :
      Reachable (Workspace.run (Disturbance.disturb schedule (Store.answer clock)) (task.program driver)
        workspace).2.store.1.bucket

/-- An action that puts objects only under the keys of well-formed paths leaves no other keys without a name. -/
theorem IsNamed.reply {root : Root} {τ : Type} (schedule : Disturbance.Schedule τ) (clock : Clock)
    (hasDirectory : Bool) (action : Action) (state : Store × τ) (permitted : root.Permits action)
    (named : state.1.bucket.IsNamed) :
    (Workspace.reply (Disturbance.disturb schedule (Store.answer clock)) hasDirectory action
      state).2.1.bucket.IsNamed := by
  intro key isStored
  rcases Disturbance.stored_of_reply schedule clock hasDirectory action state isStored with
    before | ⟨call, rfl, created⟩
  · exact named key before
  · obtain ⟨path, valid, rfl⟩ := permitted key created
    exact ⟨root.keyFor_ne_empty valid, root.keyFor_ne_append_slash valid⟩

theorem Reachable.isNamed {bucket : Bucket} (reachable : bucket.Reachable) : bucket.IsNamed := by
  induction reachable with
  | empty =>
      intro key isStored
      cases isStored
  | after driver task clock schedule workspace earlier ih =>
      rw [(Workspace.run_alone _ _ workspace).2]
      apply Program.run_preserves (IsNamed.reply schedule clock workspace.hasDirectory)
      · exact (driver.performs_task task).mono fun _ => Root.Confines.permits
      · exact ih

end Bucket

/-- What one driver reaches is reachable. -/
theorem Driver.Reaches.reachable {driver : Driver} {bucket : Bucket} (reached : driver.Reaches bucket) :
    bucket.Reachable := by
  induction reached with
  | empty => exact .empty
  | after task clock schedule workspace earlier ih => exact .after driver task clock schedule workspace ih

namespace Driver

section Named

variable {bucket : Bucket} {directory path : String} {files directories : List String}
  (children : bucket.Children (Root.childStem ((Root.ofDirectory directory).keyFor path)) files directories)
include children

/-- No file has the bare stem as its key. -/
theorem file_ne_empty (named : bucket.IsNamed) {name : String} (member : name ∈ files) : name ≠ "" := by
  rintro rfl
  obtain ⟨filled, ended⟩ := named _ ((children.mem_files "").mp member).2
  rw [String.append_empty] at filled ended
  unfold Root.childStem at filled ended
  split at filled
  · exact filled rfl
  · rename_i other
    rw [if_neg other] at ended
    exact ended _ rfl

variable (wellFormed : Path.isValid path true = true)
include wellFormed

/-- Each file has the path of its name. -/
theorem pathFor_listed_file (named : bucket.IsNamed) {name : String} (member : name ∈ files) :
    (Root.ofDirectory directory).pathFor (Root.childStem ((Root.ofDirectory directory).keyFor path) ++ name) =
      Path.given path name := by
  have filled := file_ne_empty children named member
  rw [Path.given, if_neg filled]
  exact (Root.pathFor_child _ wellFormed filled ((children.mem_files name).mp member).1).1

/-- Each directory has the path of its name, and one without a name has the path that is listed. -/
theorem pathFor_listed_directory {name : String} (member : name ∈ directories) :
    (Root.ofDirectory directory).pathFor
        (Root.childStem ((Root.ofDirectory directory).keyFor path) ++ name ++ "/") = Path.given path name := by
  unfold Path.given
  split
  · rename_i empty
    rw [empty, String.append_empty, Root.pathFor_slash]
    exact (Root.pathFor_keyFor directory wellFormed).2
  · rename_i filled
    exact (Root.pathFor_child _ wellFormed filled ((children.mem_directories name).mp member).1).2

/-- A name stands for a file and for a directory just if an object has the key of its path and others lie below it. -/
theorem mem_files_and_directories_iff (named : bucket.IsNamed) {name : String}
    (member : name ∈ files ∨ name ∈ directories) :
    let key := (Root.ofDirectory directory).keyFor (Path.given path name)
    name ∈ files ∧ name ∈ directories ↔ Path.given path name ≠ path ∧ (bucket.find? key).isSome ∧
      ∃ below, Root.startsWith below (key ++ "/") = true ∧ (bucket.find? below).isSome := by
  intro key
  rw [Path.given_ne_iff]
  by_cases filled : name = ""
  · apply iff_of_false
    · exact fun both => file_ne_empty children named both.1 filled
    · exact fun double => double.1 filled
  · have free : '/' ∉ name.toList := by
      rcases member with file | directory
      · exact ((children.mem_files name).mp file).1
      · exact ((children.mem_directories name).mp directory).1
    have same : key = Root.childStem ((Root.ofDirectory directory).keyFor path) ++ name := by
      simp only [key, Path.given, if_neg filled]
      exact Root.keyFor_named_child _ wellFormed filled free
    simp only [children.mem_files, children.mem_directories, same, ne_eq, filled, not_false_eq_true, free, true_and]

end Named

/-- A listing of a store that operations have filled changes nothing, on pages of any size. It gives files and then
directories, neither with a path twice, and fails only where another path than the root has none. A path that it gives
is given twice if it is not the listed one, an object has its key and other keys lie below that, and once if not. -/
theorem listPath_doubles (directory : String) (listLimit defaultExpiry : Int) (host : Host) (positive : 1 ≤ listLimit)
    (clock : Clock) (workspace : Workspace Store) (reachable : workspace.store.bucket.Reachable) {path : String}
    (wellFormed : Path.isValid path true = true) {pages : Nat} (enough : workspace.store.bucket.size < pages) :
    let driver : Driver := ⟨.ofDirectory directory, listLimit, defaultExpiry, host⟩
    let isStored (key : String) := (workspace.store.bucket.find? key).isSome
    let isDouble (child : String) : Prop := child ≠ path ∧ isStored (driver.root.keyFor child) ∧
      ∃ below, Root.startsWith below (driver.root.keyFor child ++ "/") = true ∧ isStored below
    let result := Workspace.run (Store.answer clock) (driver.listPath path pages) workspace
    result.2.store = workspace.store ∧
      ∃ files directories : List String, files.Nodup ∧ directories.Nodup ∧
        result.1 = (if path ≠ "/" ∧ files ++ directories = [] then .error (.pathNotFound path)
          else .ok ((files ++ directories).map .whole)) ∧
        ∀ child ∈ files ++ directories, (isDouble child → (files ++ directories).count child = 2) ∧
          (¬isDouble child → (files ++ directories).count child = 1) := by
  intro driver isStored isDouble result
  have named := reachable.isNamed
  obtain ⟨outcome, stored⟩ := Workspace.run_alone (Store.answer clock) (driver.listPath path pages) workspace
  rw [driver.run_listPath clock _ positive wellFormed workspace.store enough] at outcome stored
  obtain ⟨files, directories, children, fileKeys, directoryStems⟩ := workspace.store.bucket.exists_children
    (Root.childStem (driver.root.keyFor path)) fun key _ isStored => (named key isStored).1
  have filePaths : (workspace.store.bucket.fileKeys (Root.childStem (driver.root.keyFor path))).map
      driver.root.pathFor = files.map (Path.given path) := by
    rw [fileKeys, List.map_map]
    exact List.map_congr_left fun name member => pathFor_listed_file children wellFormed named member
  have directoryPaths : (workspace.store.bucket.directoryStems (Root.childStem (driver.root.keyFor path))).map
      driver.root.pathFor = directories.map (Path.given path) := by
    rw [directoryStems, List.map_map]
    exact List.map_congr_left fun name member => pathFor_listed_directory children wellFormed member
  have filesOnce : files.Nodup := children.filesAscend.nodup
  have directoriesOnce : directories.Nodup := children.directoriesAscend.nodup
  have injective := Path.given_injective path
  refine ⟨stored, files.map (Path.given path), directories.map (Path.given path), filesOnce.map injective,
    directoriesOnce.map injective, ?_, ?_⟩
  · rw [← filePaths, ← directoryPaths]
    refine outcome.trans ?_
    simp only [List.append_eq_nil_iff, List.map_eq_nil_iff]
  · rw [← List.map_append]
    intro child listed
    obtain ⟨name, member, rfl⟩ := List.mem_map.mp listed
    have double := mem_files_and_directories_iff children wellFormed named (List.mem_append.mp member)
    rw [List.count_map_of_injective _ _ injective, count_append_of_nodup filesOnce directoriesOnce member]
    exact ⟨fun holds => if_pos (double.mpr holds), fun fails => if_neg (fails ∘ double.mp)⟩

/-- Of three objects the listing of the root gives the first twice, below which the second lies, and the directory of
the third once. -/
theorem listPath_doubles_nested :
    let result := Workspace.run (Store.answer nestedClock) (nestedDriver.listPath "/" 4)
      { store := { bucket := nestedBucket } }
    result.1 = .ok ["/a", "/a", "/c"] ∧ ∃ files directories : List String, files.Nodup ∧ directories.Nodup ∧
      ["/a", "/a", "/c"] = files ++ directories ∧ (files ++ directories).count "/a" = 2 ∧
        (files ++ directories).count "/c" = 1 := by
  intro result
  have listed : result.1 = .ok ["/a", "/a", "/c"] := Outcome.toOption_eq_some_iff.mp (by decide +kernel)
  obtain ⟨-, files, directories, filesOnce, directoriesOnce, given, counted⟩ := listPath_doubles "/reg/" 1 60
    .standard (by decide) nestedClock { store := { bucket := nestedBucket } } reaches_nestedBucket.reachable
    (show Path.isValid "/" true = true by decide) (by decide : nestedBucket.size < 4)
  have same : ["/a", "/a", "/c"] = files ++ directories := by
    have both : result.1 = _ := given
    rw [listed] at both
    split at both
    · cases both
    · exact (List.map_inj_right fun _ _ => LooseText.whole.inj).mp (Except.ok.inj both)
  refine ⟨listed, files, directories, filesOnce, directoriesOnce, same, ?_, ?_⟩
  · apply (counted "/a" (same ▸ by decide)).1
    exact ⟨by decide, by decide +kernel, "reg/a/b", by decide, by decide +kernel⟩
  · apply (counted "/c" (same ▸ by decide)).2
    rintro ⟨-, isStored, -⟩
    exact absurd isStored (by decide +kernel)

/-- So a store that operations have filled may have a listing with a path twice. -/
theorem listPath_may_double :
    ¬∀ (driver : Driver) (clock : Clock) (workspace : Workspace Store) (path : String) (pages : Nat)
      (listed : List LooseText), workspace.store.bucket.Reachable → Path.isValid path true = true →
      1 ≤ driver.listLimit → driver.listLimit ≤ 1000 →
      (Workspace.run (Store.answer clock) (driver.listPath path pages) workspace).1 = .ok listed → listed.Nodup := by
  intro nodup
  have once := nodup nestedDriver nestedClock { store := { bucket := nestedBucket } } "/" 4 ["/a", "/a", "/c"]
    reaches_nestedBucket.reachable (by decide) (by decide) (by decide)
    (Outcome.toOption_eq_some_iff.mp (by decide +kernel))
  exact absurd once (by decide)

end Driver
end PathStore

/-
This file shows that what a driver tells of a path agrees with what it lists. In a store that only its operations have
filled, a path is described just if the directory in which it lies lists it, as a file if it is among the files there
and as a directory else.
-/
import PathStore.Proofs.Driver.Appending
import PathStore.Proofs.Driver.Isolation
import PathStore.Proofs.Driver.Listing
import PathStore.Proofs.Program.Outcomes

namespace PathStore

/-- The key of a path is what the keys of the children of its directory begin with, and its name. -/
theorem Root.keyFor_child (root : Root) {path parent name : String} (wellFormed : Path.isValid parent true = true)
    (valid : Path.isValid path = true) (split : path = Path.child parent name) :
    root.keyFor path = childStem (root.keyFor parent) ++ name := by
  obtain ⟨names, same, row⟩ := (Path.isValid_iff path).mp valid
  have parts := same.symm.trans split
  rw [Path.child_eq wellFormed, String.append_right_inj] at parts
  rw [same, root.keyFor_row row, root.childStem_keyFor wellFormed, String.append_assoc, parts]

theorem Path.child_inj {path first second : String} : child path first = child path second ↔ first = second := by
  unfold child
  split <;> simp only [String.append_right_inj]

/-- Whether every key of a bucket is the key of a well-formed path. -/
def Root.Fills (root : Root) (bucket : Bucket) : Prop :=
  ∀ key, (bucket.find? key).isSome → ∃ path, Path.isValid path = true ∧ key = root.keyFor path

section Fills

variable {root : Root} {bucket : Bucket}

theorem Root.Fills.tidy (fills : root.Fills bucket) : root.Tidy bucket := fun key _ isStored => fills key isStored

/-- No object has the key of the root itself, which is no key of a path. -/
theorem Root.Fills.find?_baseKey (fills : root.Fills bucket) : bucket.find? root.baseKey = none := by
  rw [← Option.not_isSome_iff_eq_none]
  intro isStored
  obtain ⟨path, valid, same⟩ := fills root.baseKey isStored
  obtain ⟨names, rfl, row⟩ := (Path.isValid_iff path).mp valid
  have lengths := congrArg (fun key : String => key.toList.length) same
  rw [root.keyFor_row row, stem, childStem] at lengths
  split at lengths
  · rename_i empty
    rw [empty, String.empty_append] at lengths
    exact row.ne_empty (String.ext (List.length_eq_zero_iff.mp lengths.symm))
  · simp only [String.toList_append, List.length_append] at lengths
    have slash : "/".toList.length = 1 := rfl
    omega

/-- An action that puts objects only under the keys of well-formed paths leaves no other keys, also where its call is
disturbed. -/
theorem Root.Fills.reply {τ : Type} (schedule : Disturbance.Schedule τ) (clock : Clock) (hasDirectory : Bool)
    (action : Action) (state : Store × τ) (permitted : root.Permits action) (fills : root.Fills state.1.bucket) :
    root.Fills (Workspace.reply (Disturbance.disturb schedule (Store.answer clock)) hasDirectory action
      state).2.1.bucket := by
  intro key isStored
  rcases Disturbance.stored_of_reply schedule clock hasDirectory action state isStored with
    before | ⟨call, rfl, created⟩
  · exact fills key before
  · exact permitted key created

end Fills

namespace Driver

/-- The buckets that operations of a driver make of an empty one, whatever clocks they read and whatever disturbs
them. -/
inductive Reaches (driver : Driver) : Bucket → Prop where
  | empty : Reaches driver .empty
  | after {τ : Type} (task : Task) (clock : Clock) (schedule : Disturbance.Schedule τ)
      (workspace : Workspace (Store × τ)) (earlier : Reaches driver workspace.store.1.bucket) :
      Reaches driver (Workspace.run (Disturbance.disturb schedule (Store.answer clock)) (task.program driver)
        workspace).2.store.1.bucket

variable {driver : Driver}

/-- Every key that the operations of a driver leave is the key of a well-formed path. -/
theorem Reaches.fills {bucket : Bucket} (reached : driver.Reaches bucket) : driver.root.Fills bucket := by
  induction reached with
  | empty =>
      intro key isStored
      cases isStored
  | after task clock schedule workspace earlier ih =>
      rw [(Workspace.run_alone _ _ workspace).2]
      apply Program.run_preserves (Root.Fills.reply schedule clock workspace.hasDirectory)
      · exact (driver.performs_task task).mono fun _ => Root.Confines.permits
      · exact ih

section Listed

variable {bucket : Bucket} (fills : driver.root.Fills bucket) {path : String}
include fills

/-- A path is among the files that its directory lists just if there is an object with its key. -/
theorem mem_listed_files_iff (valid : Path.isValid path = true) :
    path ∈ (bucket.fileKeys (Root.childStem (driver.root.keyFor (Path.parent path)))).map driver.root.pathFor ↔
      (bucket.find? (driver.root.keyFor path)).isSome := by
  obtain ⟨wellFormed, name, free, split⟩ := Path.exists_name valid
  have keys := bucket.mem_fileKeys_iff (Root.childStem (driver.root.keyFor (Path.parent path)))
    fun _ => key_ne_empty fills.tidy wellFormed
  rw [driver.root.keyFor_child wellFormed valid split, List.mem_map]
  constructor
  · rintro ⟨key, listed, same⟩
    obtain ⟨other, -, rfl, isStored⟩ := (keys key).mp listed
    rw [pathFor_file fills.tidy wellFormed isStored] at same
    exact Path.child_inj.mp (same.trans split) ▸ isStored
  · intro isStored
    refine ⟨_, (keys _).mpr ⟨name, free, rfl, isStored⟩, ?_⟩
    rw [pathFor_file fills.tidy wellFormed isStored, ← split]

/-- A path is among the directories that its directory lists just if there is a key below it. -/
theorem mem_listed_directories_iff (valid : Path.isValid path = true) :
    path ∈ (bucket.directoryStems (Root.childStem (driver.root.keyFor (Path.parent path)))).map driver.root.pathFor ↔
      ∃ key, Root.startsWith key (Root.childStem (driver.root.keyFor path)) = true ∧ (bucket.find? key).isSome := by
  obtain ⟨wellFormed, name, free, split⟩ := Path.exists_name valid
  have stems := bucket.mem_directoryStems_iff (Root.childStem (driver.root.keyFor (Path.parent path)))
    fun _ => key_ne_empty fills.tidy wellFormed
  have below : Root.childStem (driver.root.keyFor path) =
      Root.childStem (driver.root.keyFor (Path.parent path)) ++ name ++ "/" := by
    have filled := driver.root.keyFor_ne_empty valid
    rw [driver.root.keyFor_child wellFormed valid split] at filled ⊢
    rw [Root.childStem, if_neg filled]
  rw [below, List.mem_map]
  constructor
  · rintro ⟨common, listed, same⟩
    obtain ⟨other, -, rfl, key, begins, isStored⟩ := (stems common).mp listed
    rw [pathFor_directory fills.tidy wellFormed begins isStored] at same
    exact Path.child_inj.mp (same.trans split) ▸ ⟨key, begins, isStored⟩
  · rintro ⟨key, begins, isStored⟩
    refine ⟨_, (stems _).mpr ⟨name, free, rfl, key, begins, isStored⟩, ?_⟩
    rw [pathFor_directory fills.tidy wellFormed begins isStored, ← split]

variable (wellFormed : Path.isValid path true = true)
include wellFormed

/-- Nothing is listed for a directory just if no key lies below it. -/
theorem entriesAfter_eq_nil_iff :
    bucket.entriesAfter (Root.childStem (driver.root.keyFor path)) "" = [] ↔
      ¬∃ key, Root.startsWith key (Root.childStem (driver.root.keyFor path)) = true ∧ (bucket.find? key).isSome := by
  have listed := bucket.mem_entriesAfter_start (Root.childStem (driver.root.keyFor path))
    fun _ => key_ne_empty fills.tidy wellFormed
  rw [List.eq_nil_iff_forall_not_mem]
  constructor
  · rintro none ⟨key, begins, isStored⟩
    obtain ⟨object, found⟩ := Option.isSome_iff_exists.mp isStored
    exact none (key, object) ((listed (key, object)).mpr ⟨found, begins⟩)
  · rintro none entry member
    obtain ⟨found, begins⟩ := (listed entry).mp member
    exact none ⟨entry.1, begins, Option.isSome_iff_exists.mpr ⟨entry.2, found⟩⟩

/-- A listing is empty just if no key lies below its directory. -/
theorem listed_eq_nil_iff :
    bucket.fileKeys (Root.childStem (driver.root.keyFor path)) = [] ∧
        bucket.directoryStems (Root.childStem (driver.root.keyFor path)) = [] ↔
      bucket.entriesAfter (Root.childStem (driver.root.keyFor path)) "" = [] := by
  obtain ⟨files, directories, children, keys, stems⟩ :=
    bucket.exists_children (Root.childStem (driver.root.keyFor path)) fun _ => key_ne_empty fills.tidy wellFormed
  rw [entriesAfter_eq_nil_iff fills wellFormed, ← children.eq_nil_iff, keys, stems, List.map_eq_nil_iff,
    List.map_eq_nil_iff]

end Listed

section Run

variable (driver) (clock : Clock) (hasDirectory : Bool) (store : Store) {path : String}

/-- A path without an object is described as a directory just if keys are listed below it. -/
theorem run_statPath_missing (wellFormed : Path.isValid path true = true)
    (missing : driver.root.keyFor path = "" ∨ store.bucket.find? (driver.root.keyFor path) = none) :
    (driver.statPath path).run (Workspace.reply (Store.answer clock) hasDirectory) store =
      (if store.bucket.entriesAfter (Root.childStem (driver.root.keyFor path)) "" = [] then .error (.pathNotFound path)
        else .ok { path, isDirectory := true }, store) := by
  have undescribed : (describeObject path (driver.root.keyFor path)).run
      (Workspace.reply (Store.answer clock) hasDirectory) store = (.ok none, store) := by
    unfold describeObject
    split
    · rfl
    · rename_i filled
      rw [Program.run_andThen, run_stat, answer_stat_missing clock (missing.resolve_left filled)]
      rfl
  obtain ⟨front, back, next, split, -, paged, ends⟩ := answer_list_cases clock
    { stem := Root.childStem (driver.root.keyFor path), limit := 1 } rfl (Int.le_refl 1) store
  have none : front = [] ↔ store.bucket.entriesAfter (Root.childStem (driver.root.keyFor path)) "" = [] := by
    rw [split]
    rcases ends with ⟨-, rfl⟩ | ⟨-, -, ⟨last, inFront, -⟩, -⟩
    · rw [List.append_nil]
    · have filled := List.ne_nil_of_mem inFront
      exact iff_of_false filled (List.append_ne_nil_of_left_ne_nil filled back)
  rw [Bucket.objects_without_delimiter] at paged
  rw [statPath, checkPath_of_isValid wellFormed, pure_bind, Program.run_bind, undescribed]
  dsimp only
  rw [Program.run_bind, run_page, paged]
  simp only [List.isEmpty_map, List.isEmpty_iff, none]
  split <;> rfl

/-- A path is described by its object, or as a directory if it has none but keys lie below it, or not at all. -/
theorem statPath_cases (valid : Path.isValid path = true)
    (dated : ∀ key object, store.bucket.find? key = some object →
      ∃ modified, Instant.ofPutTime object.putTime = .ok modified) :
    let described := ((driver.statPath path).run (Workspace.reply (Store.answer clock) hasDirectory) store).1
    let listed := store.bucket.entriesAfter (Root.childStem (driver.root.keyFor path)) ""
    (∃ object modified, store.bucket.find? (driver.root.keyFor path) = some object ∧
        described = .ok { path, size := object.content.length, modified := some modified }) ∨
      store.bucket.find? (driver.root.keyFor path) = none ∧
        described = if listed = [] then .error (.pathNotFound path) else .ok { path, isDirectory := true } := by
  intro described listed
  cases found : store.bucket.find? (driver.root.keyFor path) with
  | none =>
      right
      refine ⟨rfl, congrArg Prod.fst (driver.run_statPath_missing clock hasDirectory store ?_ (.inr found))⟩
      exact Path.isValid_or_root.mpr (.inr valid)
  | some object =>
      obtain ⟨modified, date⟩ := dated _ object found
      left
      refine ⟨object, modified, rfl, ?_⟩
      show ((driver.statPath path).run _ store).1 = _
      rw [run_statPath clock hasDirectory driver valid found, date]
      rfl

/-- A path without an object is described just if keys are listed below it. -/
theorem statPath_missing_iff (wellFormed : Path.isValid path true = true)
    (missing : driver.root.keyFor path = "" ∨ store.bucket.find? (driver.root.keyFor path) = none) :
    (∃ info, ((driver.statPath path).run (Workspace.reply (Store.answer clock) hasDirectory) store).1 = .ok info) ↔
      store.bucket.entriesAfter (Root.childStem (driver.root.keyFor path)) "" ≠ [] := by
  rw [driver.run_statPath_missing clock hasDirectory store wellFormed missing]
  dsimp only
  split
  · rename_i none
    simp [none]
  · rename_i some
    exact iff_of_true ⟨_, rfl⟩ some

/-- A path without an object is described as a directory, if at all. -/
theorem eq_of_statPath_missing (wellFormed : Path.isValid path true = true)
    (missing : driver.root.keyFor path = "" ∨ store.bucket.find? (driver.root.keyFor path) = none) {info : FileInfo}
    (described : ((driver.statPath path).run (Workspace.reply (Store.answer clock) hasDirectory) store).1 = .ok info) :
    info = { path, isDirectory := true } := by
  rw [driver.run_statPath_missing clock hasDirectory store wellFormed missing] at described
  dsimp only at described
  split at described
  · cases described
  · exact (Except.ok.inj described).symm

section Dated

variable (valid : Path.isValid path = true) (dated : ∀ key object, store.bucket.find? key = some object →
  ∃ modified, Instant.ofPutTime object.putTime = .ok modified)
include valid dated

/-- A path is described just if it has an object or keys are listed below it. -/
theorem statPath_eq_ok_iff :
    (∃ info, ((driver.statPath path).run (Workspace.reply (Store.answer clock) hasDirectory) store).1 = .ok info) ↔
      (store.bucket.find? (driver.root.keyFor path)).isSome ∨
        store.bucket.entriesAfter (Root.childStem (driver.root.keyFor path)) "" ≠ [] := by
  rcases driver.statPath_cases clock hasDirectory store valid dated with
    ⟨object, modified, found, described⟩ | ⟨missing, -⟩
  · exact iff_of_true ⟨_, described⟩ (.inl (Option.isSome_iff_exists.mpr ⟨object, found⟩))
  · have wellFormed := Path.isValid_or_root.mpr (.inr valid)
    rw [driver.statPath_missing_iff clock hasDirectory store wellFormed (.inr missing), missing]
    simp

/-- A path has an object just if it is described by one. -/
theorem isSome_iff_described :
    (store.bucket.find? (driver.root.keyFor path)).isSome ↔
      ∃ object modified, store.bucket.find? (driver.root.keyFor path) = some object ∧
        ((driver.statPath path).run (Workspace.reply (Store.answer clock) hasDirectory) store).1 =
          .ok { path, size := object.content.length, modified := some modified } := by
  constructor
  · intro isStored
    rcases driver.statPath_cases clock hasDirectory store valid dated with ⟨object, modified, described⟩ | ⟨missing, -⟩
    · exact ⟨object, modified, described⟩
    · rw [missing] at isStored
      cases isStored
  · rintro ⟨object, modified, found, -⟩
    exact Option.isSome_iff_exists.mpr ⟨object, found⟩

end Dated

/-- What a listing gives are the paths of the files and then of the directories that it finds. -/
theorem run_listPath_eq_ok_iff (positive : 1 ≤ driver.listLimit) (wellFormed : Path.isValid path true = true)
    {pages : Nat} (enough : store.bucket.size < pages) (paths : List LooseText) :
    let stem := Root.childStem (driver.root.keyFor path)
    ((driver.listPath path pages).run (Workspace.reply (Store.answer clock) hasDirectory) store).1 = .ok paths ↔
      (path = "/" ∨ paths ≠ []) ∧ paths = ((store.bucket.fileKeys stem).map driver.root.pathFor ++
        (store.bucket.directoryStems stem).map driver.root.pathFor).map .whole := by
  intro stem
  rw [driver.run_listPath clock hasDirectory positive wellFormed store enough]
  dsimp only
  split
  · rename_i absent
    obtain ⟨below, noFile, noDirectory⟩ := absent
    constructor
    · exact nofun
    · rintro ⟨filled, rfl⟩
      simp [stem, below, noFile, noDirectory] at filled
  · rename_i present
    constructor
    · intro same
      obtain rfl := Except.ok.inj same
      refine ⟨?_, rfl⟩
      by_contra absent
      simp only [not_or, not_not, List.append_eq_nil_iff, List.map_eq_nil_iff] at absent
      exact present absent
    · rintro ⟨-, rfl⟩
      rfl

end Run

/-- The listing of its directory contains a path just if there is an object with its key or a key below it. -/
theorem mem_listPath_iff (driver : Driver) (positive : 1 ≤ driver.listLimit) (clock : Clock) (hasDirectory : Bool)
    (store : Store) (fills : driver.root.Fills store.bucket) {path : String} (valid : Path.isValid path = true)
    {pages : Nat} (enough : store.bucket.size < pages) :
    (∃ paths, ((driver.listPath (Path.parent path) pages).run (Workspace.reply (Store.answer clock) hasDirectory)
        store).1 = .ok paths ∧ ↑path ∈ paths) ↔
      (store.bucket.find? (driver.root.keyFor path)).isSome ∨
        store.bucket.entriesAfter (Root.childStem (driver.root.keyFor path)) "" ≠ [] := by
  have below := entriesAfter_eq_nil_iff fills (Path.isValid_or_root.mpr (.inr valid))
  have given := driver.run_listPath_eq_ok_iff clock hasDirectory store positive (Path.exists_name valid).1 enough
  rw [Ne, below, not_not, ← mem_listed_files_iff fills valid, ← mem_listed_directories_iff fills valid,
    ← List.mem_append, ← LooseText.whole_mem_map_whole]
  constructor
  · rintro ⟨paths, same, member⟩
    rwa [((given paths).mp same).2] at member
  · intro member
    exact ⟨_, (given _).mpr ⟨.inr (List.ne_nil_of_mem member), rfl⟩, member⟩

/-- The listing of a directory has items just if keys lie below it. -/
theorem listPath_filled_iff (driver : Driver) (positive : 1 ≤ driver.listLimit) (clock : Clock) (hasDirectory : Bool)
    (store : Store) (fills : driver.root.Fills store.bucket) {path : String}
    (wellFormed : Path.isValid path true = true) {pages : Nat} (enough : store.bucket.size < pages) :
    (∃ paths, ((driver.listPath path pages).run (Workspace.reply (Store.answer clock) hasDirectory) store).1 =
        .ok paths ∧ paths ≠ []) ↔
      store.bucket.entriesAfter (Root.childStem (driver.root.keyFor path)) "" ≠ [] := by
  have given := driver.run_listPath_eq_ok_iff clock hasDirectory store positive wellFormed enough
  have none : ((store.bucket.fileKeys (Root.childStem (driver.root.keyFor path))).map driver.root.pathFor ++
      (store.bucket.directoryStems (Root.childStem (driver.root.keyFor path))).map driver.root.pathFor).map
        LooseText.whole = [] ↔ store.bucket.entriesAfter (Root.childStem (driver.root.keyFor path)) "" = [] := by
    rw [List.map_eq_nil_iff, List.append_eq_nil_iff, List.map_eq_nil_iff, List.map_eq_nil_iff]
    exact listed_eq_nil_iff fills wellFormed
  rw [Ne, ← none]
  constructor
  · rintro ⟨paths, same, filled⟩
    rwa [((given paths).mp same).2] at filled
  · intro filled
    exact ⟨_, (given _).mpr ⟨.inr filled, rfl⟩, filled⟩

/-- In a store that a driver has filled by its operations, where the time of every object is one of the calendar, the
driver describes a path just if the listing of its directory contains it. It describes a file, with the size of the
object, just if the path is among the files of that listing, and otherwise a directory without a size and a time. It
describes the root just if the listing of the root is not empty, and always as a directory. -/
theorem statPath_agrees_with_listPath (driver : Driver) (positive : 1 ≤ driver.listLimit) (clock : Clock)
    (workspace : Workspace Store) (reached : driver.Reaches workspace.store.bucket)
    (dated : ∀ key object, workspace.store.bucket.find? key = some object →
      ∃ modified, Instant.ofPutTime object.putTime = .ok modified)
    {pages : Nat} (enough : workspace.store.bucket.size < pages) :
    let outcome {α : Type} (program : Program α) := (Workspace.run (Store.answer clock) program workspace).1
    (∀ path, Path.isValid path = true → ∃ files directories,
      outcome (driver.collectPages (Root.childStem (driver.root.keyFor (Path.parent path))) pages (.text "")) =
        .ok (files, directories) ∧
      (∀ paths, outcome (driver.listPath (Path.parent path) pages) = .ok paths → paths = files ++ directories) ∧
      ((∃ info, outcome (driver.statPath path) = .ok info) ↔
        ∃ paths, outcome (driver.listPath (Path.parent path) pages) = .ok paths ∧ ↑path ∈ paths) ∧
      (↑path ∈ files ↔ ∃ object modified, workspace.store.bucket.find? (driver.root.keyFor path) = some object ∧
        outcome (driver.statPath path) =
          .ok { path, size := object.content.length, modified := some modified, isDirectory := false }) ∧
      ∀ info, outcome (driver.statPath path) = .ok info → ↑path ∉ files →
        info = { path, size := 0, modified := none, isDirectory := true }) ∧
    ((∃ info, outcome (driver.statPath "/") = .ok info) ↔
      ∃ paths, outcome (driver.listPath "/" pages) = .ok paths ∧ paths ≠ []) ∧
    ∀ info, outcome (driver.statPath "/") = .ok info →
      info = { path := "/", size := 0, modified := none, isDirectory := true } := by
  intro outcome
  have alone {α : Type} (program : Program α) : outcome program =
      (program.run (Workspace.reply (Store.answer clock) workspace.hasDirectory) workspace.store).1 :=
    (Workspace.run_alone (Store.answer clock) program workspace).1
  have fills := reached.fills
  constructor
  · intro path valid
    have inFiles := mem_listed_files_iff fills valid
    have given := driver.run_listPath_eq_ok_iff clock workspace.hasDirectory workspace.store positive
      (Path.exists_name valid).1 enough
    have collected := driver.run_collectPages clock workspace.hasDirectory positive
      (Root.childStem (driver.root.keyFor (Path.parent path))) "" workspace.store pages
      (Nat.lt_of_le_of_lt (List.length_filter_le _ _) enough)
    have contains := driver.mem_listPath_iff positive clock workspace.hasDirectory workspace.store fills valid enough
    have told := driver.statPath_eq_ok_iff clock workspace.hasDirectory workspace.store valid dated
    have isFile := driver.isSome_iff_described clock workspace.hasDirectory workspace.store valid dated
    simp only [← alone] at given contains told isFile
    refine ⟨_, _, ?_, fun paths same => ((given paths).mp same).2.trans (List.map_append ..),
      told.trans contains.symm, LooseText.whole_mem_map_whole.trans (inFiles.trans isFile), ?_⟩
    · rw [alone, collected, Bucket.fileKeys, Bucket.directoryStems]
      simp only [List.map_map]
      rfl
    · intro info described notFile
      rw [LooseText.whole_mem_map_whole, inFiles, Option.not_isSome_iff_eq_none] at notFile
      exact driver.eq_of_statPath_missing clock workspace.hasDirectory workspace.store
        (Path.isValid_or_root.mpr (.inr valid)) (.inr notFile) ((alone _).symm.trans described)
  · have isAllowed : Path.isValid "/" true = true := rfl
    have missing : workspace.store.bucket.find? (driver.root.keyFor "/") = none := by
      rw [driver.root.keyFor_slash, fills.find?_baseKey]
    have told :=
      driver.statPath_missing_iff clock workspace.hasDirectory workspace.store isAllowed (.inr missing)
    have filled :=
      driver.listPath_filled_iff positive clock workspace.hasDirectory workspace.store fills isAllowed enough
    simp only [← alone] at told filled
    refine ⟨told.trans filled.symm, fun info described => ?_⟩
    exact driver.eq_of_statPath_missing clock workspace.hasDirectory workspace.store isAllowed (.inr missing)
      ((alone _).symm.trans described)

/-- A driver reaches the bucket that an operation of one call leaves. -/
theorem Reaches.call {bucket after : Bucket} (reached : driver.Reaches bucket) (task : Task) (clock : Clock)
    {call : Call} {next : Except Failure call.Reply → Program Task.Result} {reply : Except Failure call.Reply}
    {outcome : Except Failure Task.Result} (program : task.program driver = .act (.store call) next)
    (answered : bucket.answer clock call = (reply, after)) (last : next reply = .done outcome) :
    driver.Reaches after := by
  have calm : (⟨bucket, none⟩ : Store).composeError = none := rfl
  have stored := Reaches.after task clock Disturbance.none { store := (⟨bucket, none⟩, ()) } reached
  rw [(Workspace.run_alone _ _ _).2, program] at stored
  simp only [Program.run, Workspace.reply, Disturbance.disturb, Disturbance.none, Store.answer_of_calm clock calm,
    answered, last] at stored
  exact stored

/-- A driver reaches the buckets in which content is stored at a further path. -/
theorem Reaches.put {bucket : Bucket} (reached : driver.Reaches bucket) (clock : Clock) {path : String}
    (valid : Path.isValid path = true) (content : Bytes) :
    driver.Reaches (bucket.put clock (driver.root.keyFor path) content) := by
  have whole := Source.read_memory_rest content 0
  rw [Nat.sub_zero, List.drop_zero] at whole
  have answered : bucket.answer clock (.put (driver.root.keyFor path) (.ofBytes content) content.length) =
      (.ok (), bucket.put clock (driver.root.keyFor path) content) := by
    rw [Bucket.answer, Source.ofBytes, whole]
  have program : Task.program driver (.putContent path content) =
      (Program.call (.put (driver.root.keyFor path) (.ofBytes content) content.length) : Program Unit).bind fun _ =>
        pure .nothing := by
    rw [Task.program, putContent, checkPath_of_isValid valid, pure_bind]
    rfl
  exact reached.call (.putContent path content) clock program answered rfl

section Sample

/-- A driver that lists one item at a time. -/
def nestedDriver : Driver := ⟨.ofDirectory "/reg/", 1, 60, .standard⟩

def nestedClock : Clock := ⟨.ofInt 1700000000⟩

/-- Three objects below a root, of which the second lies below the first. -/
def nestedBucket : Bucket :=
  ((Bucket.empty.put nestedClock (nestedDriver.root.keyFor "/a") [1, 2]).put nestedClock
    (nestedDriver.root.keyFor "/a/b") [3]).put nestedClock (nestedDriver.root.keyFor "/c/d") []

theorem reaches_nestedBucket : nestedDriver.Reaches nestedBucket := by
  have first : nestedDriver.Reaches (Bucket.empty.put nestedClock (nestedDriver.root.keyFor "/a") [1, 2]) :=
    Reaches.empty.put nestedClock (by decide) [1, 2]
  have second := first.put nestedClock (by decide : Path.isValid "/a/b" = true) [3]
  exact second.put nestedClock (by decide : Path.isValid "/c/d" = true) []

/-- All of them have the time at which they were stored. -/
theorem dated_nestedBucket (key : String) (object : StoredObject) (found : nestedBucket.find? key = some object) :
    ∃ modified, Instant.ofPutTime object.putTime = .ok modified := by
  have date : ∃ modified, Instant.ofPutTime nestedClock.putTime = .ok modified :=
    ⟨⟨1700000000000000⟩, Outcome.toOption_eq_some_iff.mp (by decide +kernel)⟩
  have same : object.putTime = nestedClock.putTime := by
    simp only [nestedBucket, Bucket.put, Bucket.find?_insert, Bucket.find?_empty] at found
    split at found
    · exact (Option.some.inj found) ▸ rfl
    · split at found
      · exact (Option.some.inj found) ▸ rfl
      · split at found
        · exact (Option.some.inj found) ▸ rfl
        · cases found
  rw [same]
  exact date

/-- The first of them is described and listed as a file, although it is a directory as well. -/
theorem statPath_prefers_object :
    let outcome {α : Type} (program : Program α) :=
      (Workspace.run (Store.answer nestedClock) program { store := { bucket := nestedBucket } }).1
    ∃ files directories, outcome (nestedDriver.collectPages (Root.childStem (nestedDriver.root.keyFor "/")) 4
        (.text "")) = .ok (files, directories) ∧ ↑"/a" ∈ files ∧
      (∃ paths, outcome (nestedDriver.listPath "/" 4) = .ok paths ∧ ↑"/a" ∈ paths) ∧
      outcome (nestedDriver.statPath "/a") =
        .ok { path := "/a", size := 2, modified := some ⟨1700000000000000⟩, isDirectory := false } := by
  intro outcome
  have described : outcome (nestedDriver.statPath "/a") =
      .ok { path := "/a", size := 2, modified := some ⟨1700000000000000⟩, isDirectory := false } :=
    Outcome.toOption_eq_some_iff.mp (by decide +kernel)
  have stored : nestedBucket.find? (nestedDriver.root.keyFor "/a") = some ⟨[1, 2], nestedClock.putTime⟩ := by
    decide +kernel
  have valid : Path.isValid "/a" = true := by decide
  have parent : Path.parent "/a" = "/" := by decide
  obtain ⟨files, directories, paged, -, listed, isFile, -⟩ :=
    (nestedDriver.statPath_agrees_with_listPath (by decide) nestedClock { store := { bucket := nestedBucket } }
      reaches_nestedBucket dated_nestedBucket (by decide : nestedBucket.size < 4)).1 "/a" valid
  rw [parent] at paged listed
  exact ⟨files, directories, paged, isFile.mpr ⟨_, _, stored, described⟩, listed.mp ⟨_, described⟩, described⟩

end Sample

end Driver
end PathStore

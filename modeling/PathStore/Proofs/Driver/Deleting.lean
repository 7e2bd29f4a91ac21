/-
This file shows what a delete leaves in a store. A delete without faults removes the key of its path and all keys
below it, whatever the size of the pages, and fails without a change if there are none.
-/
import PathStore.Proofs.Driver.Steps
import PathStore.Proofs.Root.Keys

namespace PathStore

namespace Bucket

/-- The bucket without the keys of some entries. -/
def eraseAll (bucket : Bucket) (entries : List (String × StoredObject)) : Bucket :=
  bucket.filterKeys fun key => !entries.any (·.1 = key)

theorem find?_eraseAll (bucket : Bucket) (entries : List (String × StoredObject)) (key : String) :
    (bucket.eraseAll entries).find? key = if entries.any (·.1 = key) then none else bucket.find? key := by
  rw [eraseAll, find?_filterKeys]
  cases entries.any (·.1 = key) <;> rfl

theorem eraseAll_append (bucket : Bucket) (first second : List (String × StoredObject)) :
    bucket.eraseAll (first ++ second) = (bucket.eraseAll first).eraseAll second := by
  apply ext_find?
  intro key
  rw [find?_eraseAll, find?_eraseAll, find?_eraseAll, List.any_append]
  cases first.any (·.1 = key) <;> cases second.any (·.1 = key) <;> rfl

theorem eraseAll_nil (bucket : Bucket) : bucket.eraseAll [] = bucket :=
  ext_find? fun key => find?_eraseAll bucket [] key

theorem eraseAll_cons (bucket : Bucket) (entry : String × StoredObject) (rest : List (String × StoredObject)) :
    bucket.eraseAll (entry :: rest) = (bucket.erase entry.1).eraseAll rest := by
  have single : bucket.eraseAll [entry] = bucket.erase entry.1 :=
    ext_find? fun key => by simp [find?_eraseAll]
  rw [← single, ← eraseAll_append, List.singleton_append]

/-- A key names one entry. -/
theorem any_key_iff {bucket : Bucket} {entries : List (String × StoredObject)}
    (stored : ∀ entry ∈ entries, entry ∈ bucket.entries) {entry : String × StoredObject}
    (member : entry ∈ bucket.entries) : entries.any (·.1 = entry.1) = true ↔ entry ∈ entries := by
  rw [List.any_eq_true]
  constructor
  · rintro ⟨⟨key, object⟩, listed, same⟩
    obtain rfl : key = entry.1 := of_decide_eq_true same
    have found := (bucket.mem_entries_iff entry.1 object).mp (stored _ listed)
    rw [(bucket.mem_entries_iff entry.1 entry.2).mp member] at found
    obtain rfl := Option.some.inj found
    exact listed
  · exact fun listed => ⟨entry, listed, decide_eq_true rfl⟩

/-- Removing keys of a front does not change what lies behind it. -/
theorem entriesAfter_eraseAll {bucket : Bucket} {stem marker next : String} {front back : List (String × StoredObject)}
    (split : bucket.entriesAfter stem marker = front ++ back) (rest : bucket.entriesAfter stem next = back)
    {gone : List (String × StoredObject)} (inFront : ∀ entry ∈ gone, entry ∈ front) :
    (bucket.eraseAll gone).entriesAfter stem next = back := by
  have sorted := bucket.entriesAfter_sorted stem marker
  rw [split, List.pairwise_append] at sorted
  have stored : ∀ entry ∈ gone, entry ∈ bucket.entries := by
    intro entry member
    have listed := List.mem_append_left back (inFront entry member)
    rw [← split] at listed
    exact (List.mem_filter.mp listed).1
  rw [← rest]
  show (bucket.entries.filter _).filter _ = bucket.entries.filter _
  rw [List.filter_filter]
  apply List.filter_congr
  intro entry member
  by_cases after : (Root.startsWith entry.1 stem && decide (next < entry.1)) = true
  · have inBack : entry ∈ back := rest ▸ List.mem_filter.mpr ⟨member, after⟩
    have notGone : gone.any (·.1 = entry.1) = false := by
      rw [Bool.eq_false_iff, Ne, any_key_iff stored member]
      exact fun listed => String.lt_irrefl _ (sorted.2.2 entry (inFront entry listed) entry inBack)
    simp only [notGone, Bool.not_false, Bool.and_true]
  · rw [Bool.not_eq_true] at after
    rw [after, Bool.false_and]

/-- The objects at a key or below it, of those that a listing gives from the start on. -/
def tree (bucket : Bucket) (key : String) : List (String × StoredObject) :=
  (bucket.entriesAfter key "").filter (Root.isWithin key ·.1)

/-- Every object at a key or below it is listed. -/
theorem mem_tree_iff (bucket : Bucket) {key : String} (filled : key ≠ "") (entry : String × StoredObject) :
    entry ∈ bucket.tree key ↔ bucket.find? entry.1 = some entry.2 ∧ Root.isWithin key entry.1 = true := by
  rw [tree, List.mem_filter, mem_entriesAfter_iff]
  constructor
  · exact fun ⟨⟨found, _⟩, within⟩ => ⟨found, within⟩
  · rintro ⟨found, within⟩
    have begins : Root.startsWith entry.1 key = true := Root.startsWith_of_isWithin filled within
    refine ⟨⟨found, begins, empty_lt_of_ne fun empty => ?_⟩, within⟩
    obtain ⟨rest, joined⟩ := Root.startsWith_iff.mp begins
    rw [empty] at joined
    exact filled (String.append_eq_empty_iff.mp joined.symm).1

/-- Removing all that is listed at a key or below it leaves the other keys alone. -/
theorem find?_eraseAll_tree (bucket : Bucket) {key : String} (filled : key ≠ "") (other : String) :
    (bucket.eraseAll (bucket.tree key)).find? other =
      if Root.isWithin key other then none else bucket.find? other := by
  rw [find?_eraseAll]
  cases found : bucket.find? other with
  | none => rw [ite_self, ite_self]
  | some object =>
      have listed : ∀ entry ∈ bucket.tree key, entry ∈ bucket.entries := fun entry member =>
        (bucket.mem_entries_iff entry.1 entry.2).mpr ((bucket.mem_tree_iff filled entry).mp member).1
      have member := (bucket.mem_entries_iff other object).mpr found
      simp only [any_key_iff listed member, mem_tree_iff bucket filled, found, true_and]

end Bucket

namespace Driver

variable (clock : Clock) (hasDirectory : Bool)

/-- Deleting listed objects removes those of their keys that are at a key or below it. -/
theorem run_deleteItems (key : String) (entries : List (String × StoredObject)) (store : Store) :
    (deleteItems key (entries.map fun entry => entry.2.info entry.1)).run
        (Workspace.reply (Store.answer clock) hasDirectory) store =
      (.ok (entries.filter (Root.isWithin key ·.1)).length,
        { store with bucket := store.bucket.eraseAll (entries.filter (Root.isWithin key ·.1)) }) := by
  induction entries generalizing store with
  | nil =>
      rw [List.filter_nil, Bucket.eraseAll_nil]
      rfl
  | cons entry rest ih =>
      rw [List.map_cons, deleteItems, Program.run_bind, Program.run_ofExcept]
      have read : keyWithin key (entry.2.info entry.1).key =
          .ok (if Root.isWithin key entry.1 then some entry.1 else none) := rfl
      by_cases within : Root.isWithin key entry.1 = true
      · simp only [read, within, if_true, Program.run_bind, run_deleteIfPresent_store, ih, List.filter_cons,
          Bucket.eraseAll_cons]
        rfl
      · simp only [read, within, Bool.false_eq_true, if_false, ih, List.filter_cons]

/-- Deleting page by page removes those of the keys after a marker that are at the key or below it. -/
theorem run_deletePages (driver : Driver) (positive : 1 ≤ driver.listLimit) (key marker : String) (store : Store)
    (pages : Nat) (enough : (store.bucket.entriesAfter key marker).length < pages) :
    let found := (store.bucket.entriesAfter key marker).filter (Root.isWithin key ·.1)
    (driver.deletePages key pages (.text marker)).run (Workspace.reply (Store.answer clock) hasDirectory) store =
      (.ok found.length, { store with bucket := store.bucket.eraseAll found }) := by
  induction pages generalizing marker store with
  | zero => exact absurd enough (Nat.not_lt_zero _)
  | succ pages ih =>
      obtain ⟨front, back, next, split, -, paged, ends⟩ := answer_list_cases clock
        { stem := key, marker := .text marker, limit := driver.listLimit } rfl positive store
      rw [deletePages, Program.run_bind, run_page, paged]
      simp only [Bucket.objects_without_delimiter]
      rw [Program.run_bind, run_deleteItems]
      rw [split]
      rcases ends with ⟨last, rfl⟩ | ⟨more, shorter, -, rest⟩
      · simp only [last, Bool.false_eq_true, if_false, List.append_nil]
        rfl
      · have remaining : (store.bucket.eraseAll (front.filter (Root.isWithin key ·.1))).entriesAfter key next = back :=
          Bucket.entriesAfter_eraseAll split rest fun entry member => (List.mem_filter.mp member).1
        have fewer : ((store.bucket.eraseAll (front.filter (Root.isWithin key ·.1))).entriesAfter key next).length <
            pages := by
          rw [remaining]
          exact Nat.lt_of_lt_of_le shorter (Nat.le_of_lt_succ enough)
        simp only [more, if_true]
        rw [Program.run_bind, ih next _ fewer]
        simp only [remaining]
        rw [← Bucket.eraseAll_append, List.filter_append, List.length_append]
        rfl

/-- A delete removes what is stored at the key of its path and below it, and fails if that is nothing. -/
theorem run_deletePath (driver : Driver) (positive : 1 ≤ driver.listLimit) {path : String}
    (valid : Path.isValid path = true) (store : Store) {pages : Nat} (enough : store.bucket.size < pages) :
    (driver.deletePath path pages).run (Workspace.reply (Store.answer clock) hasDirectory) store =
      (if store.bucket.tree (driver.root.keyFor path) = [] then .error (.pathNotFound path) else .ok (),
        { store with bucket := store.bucket.eraseAll (store.bucket.tree (driver.root.keyFor path)) }) := by
  have fewer : (store.bucket.entriesAfter (driver.root.keyFor path) "").length < pages :=
    Nat.lt_of_le_of_lt (List.length_filter_le _ _) enough
  rw [deletePath, checkPath_of_isValid valid, pure_bind, Program.run_bind,
    run_deletePages clock hasDirectory driver positive _ "" store pages fewer, ← Bucket.tree]
  cases store.bucket.tree (driver.root.keyFor path) <;> rfl

/-- A delete without faults ends, on pages of any size. If something is stored at the key of its path or below it, the
delete succeeds and removes just those keys, else it fails and leaves the store as it was. -/
theorem deletePath_removes_tree (driver : Driver) (workspace : Workspace Store) (path : String) (pages : Nat)
    (valid : Path.isValid path = true) (positive : 1 ≤ driver.listLimit)
    (enough : workspace.store.bucket.size < pages) :
    let key := driver.root.keyFor path
    let isTree (other : String) : Prop := other = key ∨ Root.startsWith other (key ++ "/") = true
    let before := workspace.store.bucket
    let result := Workspace.run (Store.answer clock) (driver.deletePath path pages) workspace
    let after := result.2.store.bucket
    ((∃ other, isTree other ∧ (before.find? other).isSome) →
      result.1 = .ok () ∧
        ∀ other, (isTree other → after.find? other = none) ∧ (¬isTree other → after.find? other = before.find? other)) ∧
    ((¬∃ other, isTree other ∧ (before.find? other).isSome) →
      result.1 = .error (.pathNotFound path) ∧ result.2.store = workspace.store) := by
  intro key isTree before result after
  have filled : key ≠ "" := driver.root.keyFor_ne_empty valid
  have tree : ∀ other, Root.isWithin key other = true ↔ isTree other := Root.isWithin_iff filled
  obtain ⟨outcome, stored⟩ := Workspace.run_alone (Store.answer clock) (driver.deletePath path pages) workspace
  rw [run_deletePath clock _ driver positive valid workspace.store enough] at outcome stored
  constructor
  · rintro ⟨other, inTree, isStored⟩
    obtain ⟨object, found⟩ := Option.isSome_iff_exists.mp isStored
    have listed := (before.mem_tree_iff filled (other, object)).mpr ⟨found, (tree other).mpr inTree⟩
    have removed : after = before.eraseAll (before.tree key) := congrArg Store.bucket stored
    refine ⟨outcome.trans (if_neg (List.ne_nil_of_mem listed)), fun other => ⟨fun inTree => ?_, fun outside => ?_⟩⟩
    · rw [removed, before.find?_eraseAll_tree filled, if_pos ((tree other).mpr inTree)]
    · rw [removed, before.find?_eraseAll_tree filled, if_neg (outside ∘ (tree other).mp)]
  · intro none
    have empty : before.tree key = [] := by
      rw [List.eq_nil_iff_forall_not_mem]
      intro entry member
      obtain ⟨found, within⟩ := (before.mem_tree_iff filled entry).mp member
      exact none ⟨entry.1, (tree entry.1).mp within, Option.isSome_iff_exists.mpr ⟨entry.2, found⟩⟩
    refine ⟨outcome.trans (if_pos empty), stored.trans ?_⟩
    rw [show workspace.store.bucket.tree (driver.root.keyFor path) = [] from empty, Bucket.eraseAll_nil]

/-- A delete on pages of one key removes all below its path and spares a key that only begins like its own. -/
theorem deletePath_spares_sibling :
    let result := Workspace.run (Store.answer ⟨.ofInt 1700000000⟩)
      (deletePath ⟨.ofDirectory "/reg/", 1, 60, .standard⟩ "/a" 6)
      { store := { bucket := .sample } }
    result.1 = .ok () ∧ result.2.store.bucket.find? "reg/a" = none ∧
      result.2.store.bucket.find? "reg/a/c/d" = none ∧
      (result.2.store.bucket.find? "reg/a-x").map StoredObject.content = some [4] := by
  intro result
  have key : (Root.ofDirectory "/reg/").keyFor "/a" = "reg/a" := by decide
  have sibling : (Bucket.sample.find? "reg/a-x").map StoredObject.content = some [4] := by decide
  have removed := (deletePath_removes_tree ⟨.ofInt 1700000000⟩ ⟨.ofDirectory "/reg/", 1, 60, .standard⟩
    { store := { bucket := .sample } } "/a" 6 (by decide) (by decide) (by decide)).1
  rw [key] at removed
  obtain ⟨outcome, changes⟩ := removed ⟨"reg/a", .inl rfl, by decide⟩
  have spared : result.2.store.bucket.find? "reg/a-x" = Bucket.sample.find? "reg/a-x" :=
    (changes "reg/a-x").2 (by decide)
  refine ⟨outcome, (changes "reg/a").1 (.inl rfl), (changes "reg/a/c/d").1 (by decide), ?_⟩
  rw [spared, sibling]

end Driver
end PathStore

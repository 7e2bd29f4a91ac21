/-
This file shows what a delete leaves where others change the store between its calls. It deletes nothing but what lies
at its path or below it, and of that it leaves nothing that the others do not change.
-/
import PathStore.Proofs.Driver.Deleting
import PathStore.Proofs.Driver.Footprint
import PathStore.Proofs.Program.Visits

namespace PathStore.Driver

section Spared

variable (clock : Clock) (hasDirectory : Bool) {key other : String}

/-- Deleting a key succeeds, whether or not the call finds it. -/
theorem run_deleteIfPresent_busy (key : String) (busy : BusyStore) :
    (deleteIfPresent key).run (Workspace.reply (BusyStore.answer clock) hasDirectory) busy =
      (.ok (), (busy.answer clock (.delete key)).2) := by
  rw [run_deleteIfPresent, BusyStore.answer, answer_delete]
  cases (busy.visited.bucket.find? key).isSome <;> rfl

/-- A delete leaves the store that it meets without the key. -/
theorem bucket_answer_delete (key : String) (busy : BusyStore) :
    (busy.answer clock (.delete key)).2.store.bucket = busy.visited.bucket.erase key := by
  rw [BusyStore.answer, answer_delete]

/-- Deleting listed objects leaves none of those at the key or below it that no visit changes. -/
theorem run_deleteItems_busy (within : Root.isWithin key other = true) (entries : List (String × StoredObject))
    {busy : BusyStore} (spares : busy.Spares other) :
    let result := (deleteItems key (entries.map fun entry => entry.2.info entry.1)).run
      (Workspace.reply (BusyStore.answer clock) hasDirectory) busy
    (∃ count, result.1 = .ok count) ∧ result.2.Spares other ∧
      (busy.store.bucket.find? other = none ∨ other ∈ entries.map Prod.fst →
        result.2.store.bucket.find? other = none) := by
  induction entries generalizing busy with
  | nil => exact ⟨⟨0, rfl⟩, spares, fun either => either.resolve_right List.not_mem_nil⟩
  | cons entry rest ih =>
      have read : keyWithin key (entry.2.info entry.1).key =
          .ok (if Root.isWithin key entry.1 then some entry.1 else none) := rfl
      rw [List.map_cons, deleteItems, Program.run_bind, Program.run_ofExcept, read]
      by_cases deleted : Root.isWithin key entry.1 = true
      · simp only [deleted, if_true, Program.run_bind, run_deleteIfPresent_busy]
        obtain ⟨⟨count, counted⟩, kept, gone⟩ := ih (spares.answer clock (.delete entry.1))
        rw [bucket_answer_delete, Bucket.find?_erase, spares.find?_visited] at gone
        generalize (deleteItems key _).run _ _ = result at counted kept gone ⊢
        obtain ⟨outcome, after⟩ := result
        subst counted
        refine ⟨⟨count + 1, rfl⟩, kept, fun either => gone ?_⟩
        by_cases same : entry.1 = other
        · exact .inl (if_pos same)
        · rw [if_neg same]
          exact either.imp_right fun member => List.mem_of_ne_of_mem (Ne.symm same) member
      · have notSame : other ≠ entry.1 := fun same => deleted (same ▸ within)
        simp only [deleted, Bool.false_eq_true, if_false]
        obtain ⟨counted, kept, gone⟩ := ih spares
        exact ⟨counted, kept, fun either => gone (either.imp_right fun member => List.mem_of_ne_of_mem notSame member)⟩

/-- A key that is still ahead of the marker is on the page or behind it. -/
theorem missing_or_listed (filled : key ≠ "") (within : Root.isWithin key other = true) {marker : String}
    {busy : BusyStore} (spares : busy.Spares other) {front back : List (String × StoredObject)}
    (split : busy.visited.bucket.entriesAfter key marker = front ++ back)
    (ahead : busy.store.bucket.find? other = none ∨ marker < other) :
    busy.store.bucket.find? other = none ∨ other ∈ (front ++ back).map Prod.fst := by
  cases found : busy.store.bucket.find? other with
  | none => exact .inl rfl
  | some object =>
      have met : busy.visited.bucket.find? other = some object := spares.find?_visited.trans found
      have above : marker < other := ahead.resolve_left (by simp [found])
      have begins : Root.startsWith other key = true := Root.startsWith_of_isWithin filled within
      have member := (Bucket.mem_entriesAfter_iff key busy.visited.bucket marker (other, object)).mpr
        ⟨met, begins, above⟩
      exact .inr (List.mem_map.mpr ⟨_, split ▸ member, rfl⟩)

/-- Deleting page by page leaves none of the keys at the key or below it that no visit changes and that were not listed
before. -/
theorem run_deletePages_busy (driver : Driver) (positive : 1 ≤ driver.listLimit) (filled : key ≠ "")
    (within : Root.isWithin key other = true) (pages : Nat) (marker : String) {busy : BusyStore}
    (spares : busy.Spares other) (ahead : busy.store.bucket.find? other = none ∨ marker < other) :
    let result := (driver.deletePages key pages (.text marker)).run
      (Workspace.reply (BusyStore.answer clock) hasDirectory) busy
    (∃ count, result.1 = .ok count ∧ result.2.store.bucket.find? other = none) ∨ result.1 = .error .tooManyPages := by
  induction pages generalizing marker busy with
  | zero => exact .inr rfl
  | succ pages ih =>
      obtain ⟨front, back, next, split, -, paged, ends⟩ := answer_list_cases clock
        { stem := key, marker := .text marker, limit := driver.listLimit } rfl positive busy.visited
      have sparesAfter := spares.answer clock (.list { stem := key, marker := .text marker, limit := driver.listLimit })
      rw [deletePages, Program.run_bind, run_page]
      rw [BusyStore.answer, paged] at sparesAfter ⊢
      simp only [Bucket.objects_without_delimiter, Program.run_bind]
      obtain ⟨⟨count, counted⟩, kept, gone⟩ := run_deleteItems_busy clock hasDirectory within front sparesAfter
      generalize (deleteItems key _).run _ _ = result at counted kept gone ⊢
      obtain ⟨outcome, after⟩ := result
      subst counted
      have listed := missing_or_listed filled within spares split ahead
      rw [← spares.find?_visited] at listed
      rcases ends with ⟨last, rfl⟩ | ⟨more, -, -, rest⟩
      · rw [List.append_nil] at listed
        simp only [last, Bool.false_eq_true, if_false]
        exact .inl ⟨count, rfl, gone listed⟩
      · have aheadOfNext : after.store.bucket.find? other = none ∨ next < other := by
          rw [List.map_append, List.mem_append, ← or_assoc] at listed
          refine listed.imp gone fun behind => ?_
          obtain ⟨entry, inBack, rfl⟩ := List.mem_map.mp behind
          exact ((Bucket.mem_entriesAfter_iff _ _ _ _).mp (rest ▸ inBack)).2.2
        simp only [more, if_true, Program.run_bind]
        rcases ih next kept aheadOfNext with ⟨found, outcome, missing⟩ | failed
        · generalize (driver.deletePages key pages (.text next)).run _ _ = result at outcome missing ⊢
          obtain ⟨_, final⟩ := result
          subst outcome
          exact .inl ⟨count + found, rfl, missing⟩
        · generalize (driver.deletePages key pages (.text next)).run _ _ = result at failed ⊢
          obtain ⟨_, final⟩ := result
          subst failed
          exact .inr rfl

/-- A delete that ends leaves no key at its path or below it that no visit changes. -/
theorem run_deletePath_busy (driver : Driver) (positive : 1 ≤ driver.listLimit) {path : String}
    (valid : Path.isValid path = true) (within : Root.isWithin (driver.root.keyFor path) other = true) (pages : Nat)
    {busy : BusyStore} (spares : busy.Spares other) :
    let result := (driver.deletePath path pages).run (Workspace.reply (BusyStore.answer clock) hasDirectory) busy
    result.1 = .error .tooManyPages ∨ result.2.store.bucket.find? other = none := by
  have filled := driver.root.keyFor_ne_empty valid
  have named : other ≠ "" := by
    rintro rfl
    obtain ⟨rest, joined⟩ := Root.startsWith_iff.mp (Root.startsWith_of_isWithin filled within)
    exact filled (String.append_eq_empty_iff.mp joined.symm).1
  have ended := run_deletePages_busy clock hasDirectory driver positive filled within pages "" spares
    (.inr (empty_lt_of_ne named))
  rw [deletePath, checkPath_of_isValid valid, pure_bind, Program.run_bind]
  generalize (driver.deletePages _ pages (.text "")).run _ busy = result at ended ⊢
  obtain ⟨outcome, after⟩ := result
  rcases ended with ⟨count, rfl, missing⟩ | rfl
  · cases count with
    | zero => exact .inr missing
    | succ count => exact .inr missing
  · exact .inl rfl

end Spared

/-- Where others change the store between its calls, a delete still deletes nothing but what lies at its path or below
it. If it ends, with success or for lack of anything to delete, it leaves nothing there that no other one changes. -/
theorem deletePath_amid_visits (driver : Driver) (clock : Clock) (store : Store) (visits : List (List Visit))
    (hasDirectory : Bool) (path : String) (pages : Nat) (valid : Path.isValid path = true)
    (positive : 1 ≤ driver.listLimit) :
    let key := driver.root.keyFor path
    let isTree (other : String) : Prop := other = key ∨ Root.startsWith other (key ++ "/") = true
    let start : Workspace BusyStore := { store := { store, visits }, hasDirectory }
    let result := Workspace.run (BusyStore.answer clock) (driver.deletePath path pages) start
    (∀ other, .delete other ∈ result.2.calls → isTree other) ∧
      (result.1 = .ok () ∨ result.1 = .error (.pathNotFound path) →
        ∀ other, isTree other → (∀ before ∈ visits, ∀ visit ∈ before, other ∉ visit.call.changed) →
          result.2.store.store.bucket.find? other = none) := by
  intro key isTree start result
  have filled : key ≠ "" := driver.root.keyFor_ne_empty valid
  have tree : ∀ other, Root.isWithin key other = true ↔ isTree other := Root.isWithin_iff filled
  constructor
  · let allowed (action : Action) : Prop := ∀ other, action = .store (.delete other) → isTree other
    have performs : (driver.deletePath path pages).Performs allowed := by
      refine driver.performs_deletePath_within (fun _ query _ other same => ?_)
        (fun _ deleted within other same => ?_) pages
      · cases same
      · cases same
        exact (tree deleted).mp within
    intro other member
    obtain ⟨action, performed, isCall⟩ := List.mem_filterMap.mp member
    have permitted := performs.of_performed (BusyStore.answer clock) (List.forall_mem_nil _) action performed
    cases action with
    | store call => exact permitted other (congrArg Action.store (Option.some.inj isCall))
    | _ => cases isCall
  · intro ended other inTree spared
    obtain ⟨outcome, stored⟩ := Workspace.run_alone (BusyStore.answer clock) (driver.deletePath path pages) start
    have spares : start.store.Spares other := spared
    rcases run_deletePath_busy clock hasDirectory driver positive valid ((tree other).mpr inTree) pages spares
      with failed | missing
    · have same : result.1 = .error .tooManyPages := outcome.trans failed
      rw [same] at ended
      rcases ended with ended | ended <;> cases ended
    · exact (congrArg (fun busy : BusyStore => busy.store.bucket.find? other) stored).trans missing

/-- Others store one object and take another away while a delete goes on page by page. -/
def sampleVisits : List (List Visit) :=
  [[], [⟨⟨.ofInt 5⟩, .putFile "reg/a/0" [9]⟩], [⟨⟨.ofInt 6⟩, .delete "reg/a/b"⟩],
    [⟨⟨.ofInt 7⟩, .move "other" "reg/a/z"⟩]]

/-- A delete among the visits of others removes what they leave alone. -/
theorem busy_delete_removes_spared_keys :
    let result := Workspace.run (BusyStore.answer ⟨.ofInt 0⟩)
      (deletePath ⟨.ofDirectory "/reg/", 1, 60, .standard⟩ "/a" 9)
      { store := { store := { bucket := .sample }, visits := sampleVisits } }
    result.1 = .ok () ∧ result.2.store.store.bucket.find? "reg/a" = none ∧
      result.2.store.store.bucket.find? "reg/a/c/d" = none ∧ (result.2.store.store.bucket.find? "reg/a-x").isSome := by
  intro result
  have ended : result.1 = .ok () := rfl
  have removed := (deletePath_amid_visits ⟨.ofDirectory "/reg/", 1, 60, .standard⟩ ⟨.ofInt 0⟩ { bucket := .sample }
    sampleVisits true "/a" 9 (by decide) (by decide)).2 (.inl ended)
  exact ⟨ended, removed "reg/a" (.inl (by decide)) (by decide), removed "reg/a/c/d" (.inr (by decide)) (by decide),
    by decide +kernel⟩

end PathStore.Driver

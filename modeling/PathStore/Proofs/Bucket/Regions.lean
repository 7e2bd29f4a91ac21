/-
This file divides the keys of a bucket into regions. A call that names keys of one region only is answered from the
objects of this region, and leaves those of every other key as they are.
-/
import PathStore.Bucket.Store
import PathStore.Proofs.Program.Alone

namespace PathStore

/-- Whether a part takes its bytes from no object outside a region. -/
def Part.Within (region : String → Bool) : Part → Prop
  | .range key _ _ => region key = true
  | _ => True

/-- Whether all keys that a call names, lists or composes from are in a region. -/
def Call.Within (region : String → Bool) : Call → Prop
  | .stat key | .download key _ | .put key .. | .putFile key _ | .delete key | .sign key _ => region key = true
  | .list query => ∀ key, Root.startsWith key query.stem = true → region key = true
  | .putParts key composition => region key = true ∧ ∀ part ∈ composition.parts, part.Within region
  | .move source target => region source = true ∧ region target = true

/-- The keys that a call puts, deletes or moves. -/
def Call.changed : Call → List String
  | .put key .. | .putFile key _ | .putParts key _ | .delete key => [key]
  | .move source target => [source, target]
  | _ => []

/-- What a call within a region changes is in the region. -/
theorem Call.Within.of_changed {region : String → Bool} {call : Call} (within : call.Within region) {key : String}
    (changed : key ∈ call.changed) : region key = true := by
  cases call with
  | put | putFile | delete => exact List.mem_singleton.mp changed ▸ within
  | putParts => exact List.mem_singleton.mp changed ▸ within.1
  | move source target =>
      rcases List.mem_cons.mp changed with rfl | isTarget
      · exact within.1
      · exact List.mem_singleton.mp isTarget ▸ within.2
  | _ => cases changed

/-- Composed bytes depend only on the objects of a region from which all ranges are taken. -/
theorem Composition.evaluateParts_congr {region : String → Bool} {find other : String → Option Bytes}
    (agree : ∀ key, region key = true → find key = other key) {parts : List Part}
    (within : ∀ part ∈ parts, part.Within region) (sources : List Source) :
    evaluateParts find parts sources = evaluateParts other parts sources := by
  induction parts generalizing sources with
  | nil => rfl
  | cons part rest ih =>
      obtain ⟨first, later⟩ := List.forall_mem_cons.mp within
      cases part with
      | range key start stop => rw [evaluateParts, evaluateParts, agree key first, ih later]
      | bytes index length => simp only [evaluateParts, ih later]
      | foreign typeName => rfl

namespace Bucket

/-- Whether two buckets hold the same under every key of a region. -/
def AgreeOn (region : String → Bool) (first second : Bucket) : Prop :=
  ∀ key, region key = true → first.find? key = second.find? key

/-- Some key passes a test just if one with an object does. -/
theorem any_keys_iff (bucket : Bucket) (test : String → Bool) :
    bucket.keys.any test = true ↔ ∃ key, test key = true ∧ (bucket.find? key).isSome := by
  rw [keys, List.any_map, List.any_eq_true]
  constructor
  · rintro ⟨⟨key, object⟩, member, passes⟩
    exact ⟨key, passes, Option.isSome_iff_exists.mpr ⟨object, (bucket.mem_entries_iff key object).mp member⟩⟩
  · rintro ⟨key, passes, isStored⟩
    obtain ⟨object, found⟩ := Option.isSome_iff_exists.mp isStored
    exact ⟨(key, object), (bucket.mem_entries_iff key object).mpr found, passes⟩

section Agree

variable {region : String → Bool} {first second : Bucket} (agree : AgreeOn region first second)
include agree

theorem AgreeOn.insert (key : String) (object : StoredObject) :
    AgreeOn region (first.insert key object) (second.insert key object) := by
  intro other inside
  rw [find?_insert, find?_insert, agree other inside]

theorem AgreeOn.erase (key : String) : AgreeOn region (first.erase key) (second.erase key) := by
  intro other inside
  rw [find?_erase, find?_erase, agree other inside]

/-- A test that holds only inside the region keeps the same entries. -/
theorem AgreeOn.filter (test : String → Bool) (within : ∀ key, test key = true → region key = true) :
    first.entries.filter (test ·.1) = second.entries.filter (test ·.1) := by
  have same : first.filterKeys test = second.filterKeys test := by
    apply ext_find?
    intro key
    rw [find?_filterKeys, find?_filterKeys]
    cases passes : test key with
    | false => rfl
    | true => exact agree key (within key passes)
  exact congrArg entries same

theorem AgreeOn.filterKeys (keep : String → Bool) :
    AgreeOn region (first.filterKeys keep) (second.filterKeys keep) := by
  intro key inside
  rw [find?_filterKeys, find?_filterKeys, agree key inside]

theorem AgreeOn.pageAfter {query : ListQuery}
    (within : ∀ key, Root.startsWith key query.stem = true → region key = true) (marker : String) :
    first.pageAfter query marker = second.pageAfter query marker := by
  have listed : first.entriesAfter query.stem marker = second.entriesAfter query.stem marker :=
    agree.filter (fun key => Root.startsWith key query.stem && marker < key) fun key passes =>
      within key (Bool.and_eq_true_iff.mp passes).1
  simp only [Bucket.pageAfter, page, listed]

/-- A listing of keys of the region gives the same pages. -/
theorem AgreeOn.listPage {query : ListQuery}
    (within : ∀ key, Root.startsWith key query.stem = true → region key = true) :
    first.listPage query = second.listPage query := by
  have anyKey : first.keys.any (Root.startsWith · query.stem) = second.keys.any (Root.startsWith · query.stem) := by
    rw [Bool.eq_iff_iff, any_keys_iff, any_keys_iff]
    exact exists_congr fun key => and_congr_right fun begins => by rw [agree key (within key begins)]
  rw [Bucket.listPage, Bucket.listPage]
  split
  · rw [agree.pageAfter within]
  · rw [(agree.filterKeys _).pageAfter within]
  · rw [anyKey]

/-- A call within the region is answered alike by buckets that agree on it, and they still do after it. -/
theorem AgreeOn.answer (clock : Clock) {call : Call} (within : call.Within region) :
    (first.answer clock call).1 = (second.answer clock call).1 ∧
      AgreeOn region (first.answer clock call).2 (second.answer clock call).2 := by
  cases call with
  | stat key =>
      rw [Bucket.answer, Bucket.answer, agree key within]
      cases second.find? key <;> exact ⟨rfl, agree⟩
  | list query => exact ⟨agree.listPage within, agree⟩
  | download key offset =>
      rw [Bucket.answer, Bucket.answer, agree key within]
      cases second.find? key <;> exact ⟨rfl, agree⟩
  | put key data size =>
      rw [Bucket.answer, Bucket.answer]
      cases (data.read size).1 with
      | ok content => exact ⟨rfl, agree.insert key _⟩
      | error failure => exact ⟨rfl, agree⟩
  | putFile key content => exact ⟨rfl, agree.insert key _⟩
  | putParts key composition =>
      have composed : (composition.evaluate fun name => (first.find? name).map StoredObject.content) =
          composition.evaluate fun name => (second.find? name).map StoredObject.content :=
        Composition.evaluateParts_congr (fun name inside => by rw [agree name inside]) within.2 composition.sources
      rw [Bucket.answer, Bucket.answer, composed]
      cases composition.evaluate fun name => (second.find? name).map StoredObject.content with
      | ok content => exact ⟨rfl, agree.insert key _⟩
      | error failure => exact ⟨rfl, agree⟩
  | delete key =>
      rw [Bucket.answer, Bucket.answer, agree key within]
      cases second.find? key with
      | none => exact ⟨rfl, agree⟩
      | some object => exact ⟨rfl, agree.erase key⟩
  | move source target =>
      rw [Bucket.answer, Bucket.answer, agree source within.1, agree target within.2]
      cases second.find? source with
      | none => exact ⟨rfl, agree⟩
      | some object =>
          cases taken : (second.find? target).isSome with
          | true => exact ⟨rfl, agree⟩
          | false => exact ⟨rfl, (agree.erase source).insert target object⟩
  | sign key lifetime => exact ⟨rfl, agree⟩

end Agree

/-- A call changes only what it puts, deletes or moves. -/
theorem find?_answer_of_not_changed (bucket : Bucket) (clock : Clock) {call : Call} {key : String}
    (spared : key ∉ call.changed) : (bucket.answer clock call).2.find? key = bucket.find? key := by
  have inserted {named : String} (apart : key ≠ named) (base : Bucket) (object : StoredObject) :
      (base.insert named object).find? key = base.find? key := by
    rw [find?_insert, if_neg apart.symm]
  have erased {named : String} (apart : key ≠ named) : (bucket.erase named).find? key = bucket.find? key := by
    rw [find?_erase, if_neg apart.symm]
  cases call with
  | stat named =>
      rw [answer]
      split <;> rfl
  | list query => rfl
  | download named offset =>
      rw [answer]
      split <;> rfl
  | put named data size =>
      rw [answer]
      split
      · exact inserted (List.ne_of_not_mem_cons spared) bucket _
      · rfl
  | putFile named content => exact inserted (List.ne_of_not_mem_cons spared) bucket _
  | putParts named composition =>
      rw [answer]
      split
      · exact inserted (List.ne_of_not_mem_cons spared) bucket _
      · rfl
  | delete named =>
      rw [answer]
      split
      · exact erased (List.ne_of_not_mem_cons spared)
      · rfl
  | move source target =>
      have notTarget : key ≠ target := List.ne_of_not_mem_cons (List.not_mem_of_not_mem_cons spared)
      rw [answer]
      split
      · rfl
      · split
        · rfl
        · exact (inserted notTarget _ _).trans (erased (List.ne_of_not_mem_cons spared))
  | sign named lifetime => rfl

/-- A call within a region changes no key outside it. -/
theorem find?_answer_of_outside (bucket : Bucket) (clock : Clock) {region : String → Bool} {call : Call}
    (within : call.Within region) {key : String} (outside : region key = false) :
    (bucket.answer clock call).2.find? key = bucket.find? key := by
  apply find?_answer_of_not_changed
  intro changed
  exact Bool.false_ne_true (outside.symm.trans (within.of_changed changed))

end Bucket
end PathStore

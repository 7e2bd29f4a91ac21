/-
This file holds the objects of a bucket in the order of their keys; its laws tell what each change does to what a key
finds.
-/
import PathStore.Bytes

namespace PathStore

/-- The content of an object and the time at which it was stored. -/
structure StoredObject where
  content : Bytes
  putTime : Int
  deriving DecidableEq, Repr

/-- The objects of a bucket, with their keys in ascending order. -/
structure Bucket where
  entries : List (String × StoredObject)
  sorted : entries.Pairwise fun first second => first.1 < second.1

namespace Bucket

def empty : Bucket := ⟨[], .nil⟩

instance : Inhabited Bucket := ⟨empty⟩

/-- The object with the given key among some entries. -/
def findIn? (key : String) : List (String × StoredObject) → Option StoredObject
  | [] => none
  | (known, object) :: rest => if known = key then some object else findIn? key rest

/-- The object with the given key. -/
def find? (bucket : Bucket) (key : String) : Option StoredObject := findIn? key bucket.entries

/-- The entries once a key has the given object. -/
def insertEntry (key : String) (object : StoredObject) : List (String × StoredObject) → List (String × StoredObject)
  | [] => [(key, object)]
  | (known, held) :: rest =>
      if key < known then (key, object) :: (known, held) :: rest
      else if key = known then (key, object) :: rest
      else (known, held) :: insertEntry key object rest

theorem lt_of_not_lt_of_ne {first second : String} (notBelow : ¬first < second) (different : first ≠ second) :
    second < first := by
  rcases Decidable.em (second < first) with below | notAbove
  · exact below
  · exact absurd (String.le_antisymm (String.not_lt.mp notAbove) (String.not_lt.mp notBelow)) different

/-- An entry of the changed list is the new one or an old one. -/
theorem mem_insertEntry {key : String} {object : StoredObject} {entry : String × StoredObject}
    {entries : List (String × StoredObject)} (member : entry ∈ insertEntry key object entries) :
    entry = (key, object) ∨ entry ∈ entries := by
  induction entries with
  | nil => simpa [insertEntry] using member
  | cons head rest ih =>
      obtain ⟨known, held⟩ := head
      unfold insertEntry at member
      split at member
      · simpa using member
      · split at member
        · rcases List.mem_cons.mp member with isNew | isOld
          · exact .inl isNew
          · exact .inr (List.mem_cons_of_mem _ isOld)
        · rcases List.mem_cons.mp member with isHead | inRest
          · exact .inr (isHead ▸ List.mem_cons_self)
          · exact (ih inRest).imp_right (List.mem_cons_of_mem _)

theorem insertEntry_sorted {key : String} {object : StoredObject} {entries : List (String × StoredObject)}
    (sorted : entries.Pairwise fun first second => first.1 < second.1) :
    (insertEntry key object entries).Pairwise fun first second => first.1 < second.1 := by
  induction entries with
  | nil => simp [insertEntry]
  | cons head rest ih =>
      obtain ⟨known, held⟩ := head
      obtain ⟨above, restSorted⟩ := List.pairwise_cons.mp sorted
      unfold insertEntry
      split
      · rename_i below
        refine List.pairwise_cons.mpr ⟨fun entry member => ?_, sorted⟩
        rcases List.mem_cons.mp member with isHead | inRest
        · exact isHead ▸ below
        · exact String.lt_trans below (above entry inRest)
      · rename_i notBelow
        split
        · rename_i same
          exact List.pairwise_cons.mpr ⟨fun entry member => same ▸ above entry member, restSorted⟩
        · rename_i different
          refine List.pairwise_cons.mpr ⟨fun entry member => ?_, ih restSorted⟩
          rcases mem_insertEntry member with isNew | isOld
          · exact isNew ▸ lt_of_not_lt_of_ne notBelow different
          · exact above entry isOld

/-- The bucket once a key has the given object. -/
def insert (bucket : Bucket) (key : String) (object : StoredObject) : Bucket :=
  ⟨insertEntry key object bucket.entries, insertEntry_sorted bucket.sorted⟩

/-- The bucket once a key has no object. -/
def erase (bucket : Bucket) (key : String) : Bucket :=
  ⟨bucket.entries.filter (·.1 ≠ key), bucket.sorted.filter _⟩

theorem findIn?_insertEntry (key other : String) (object : StoredObject) (entries : List (String × StoredObject)) :
    findIn? other (insertEntry key object entries) =
      if key = other then some object else findIn? other entries := by
  induction entries with
  | nil => simp [insertEntry, findIn?]
  | cons head rest ih =>
      obtain ⟨known, held⟩ := head
      unfold insertEntry
      split
      · simp [findIn?]
      · split
        · rename_i same
          subst same
          by_cases found : key = other <;> simp [findIn?, found]
        · rename_i different
          by_cases found : known = other
          · subst found
            simp [findIn?, different]
          · simp [findIn?, found, ih]

/-- Storing an object changes what its own key finds. -/
@[simp] theorem find?_insert (bucket : Bucket) (key other : String) (object : StoredObject) :
    (bucket.insert key object).find? other = if key = other then some object else bucket.find? other :=
  findIn?_insertEntry key other object bucket.entries

theorem findIn?_filter_ne (key other : String) (entries : List (String × StoredObject)) :
    findIn? other (entries.filter (·.1 ≠ key)) = if key = other then none else findIn? other entries := by
  induction entries with
  | nil => simp [findIn?]
  | cons head rest ih =>
      obtain ⟨known, held⟩ := head
      by_cases removed : known = key
      · subst removed
        by_cases found : known = other
        · subst found
          simpa [findIn?] using ih
        · simpa [findIn?, found] using ih
      · by_cases found : known = other
        · subst found
          simp [findIn?, removed, Ne.symm removed]
        · simpa [findIn?, removed, found] using ih

/-- Removing a key changes what that key finds. -/
@[simp] theorem find?_erase (bucket : Bucket) (key other : String) :
    (bucket.erase key).find? other = if key = other then none else bucket.find? other :=
  findIn?_filter_ne key other bucket.entries

/-- The bucket with the keys that pass a test. -/
def filterKeys (bucket : Bucket) (keep : String → Bool) : Bucket :=
  ⟨bucket.entries.filter (keep ·.1), bucket.sorted.filter _⟩

theorem findIn?_filter (keep : String → Bool) (key : String) (entries : List (String × StoredObject)) :
    findIn? key (entries.filter (keep ·.1)) = if keep key then findIn? key entries else none := by
  induction entries with
  | nil => simp [findIn?]
  | cons head rest ih =>
      obtain ⟨known, held⟩ := head
      by_cases found : known = key
      · subst found
        cases kept : keep known <;> simp [findIn?, kept, ih]
      · cases kept : keep known <;> simp [findIn?, kept, found, ih]

/-- A key finds its object just if it passes the test. -/
@[simp] theorem find?_filterKeys (bucket : Bucket) (keep : String → Bool) (key : String) :
    (bucket.filterKeys keep).find? key = if keep key then bucket.find? key else none :=
  findIn?_filter keep key bucket.entries

@[simp] theorem find?_empty (key : String) : empty.find? key = none := rfl

/-- An entry is in the list just if its key finds its object. -/
theorem mem_entries_iff (bucket : Bucket) (key : String) (object : StoredObject) :
    (key, object) ∈ bucket.entries ↔ bucket.find? key = some object := by
  obtain ⟨entries, sorted⟩ := bucket
  show (key, object) ∈ entries ↔ findIn? key entries = some object
  induction entries with
  | nil => simp [findIn?]
  | cons head rest ih =>
      obtain ⟨known, held⟩ := head
      obtain ⟨above, restSorted⟩ := List.pairwise_cons.mp sorted
      by_cases found : known = key
      · subst found
        have absent : (known, object) ∉ rest := fun member => String.lt_irrefl known (above _ member)
        simp [findIn?, absent, eq_comm]
      · simp [findIn?, found, Ne.symm found, ih restSorted]

/-- The keys in ascending order. -/
def keys (bucket : Bucket) : List String := bucket.entries.map Prod.fst

def size (bucket : Bucket) : Nat := bucket.entries.length

/-- The entries are determined by what the keys find. -/
theorem ext_find? {first second : Bucket} (agree : ∀ key, first.find? key = second.find? key) : first = second := by
  obtain ⟨entries, sorted⟩ := first
  obtain ⟨others, otherSorted⟩ := second
  have sameMembers : ∀ entry, entry ∈ entries ↔ entry ∈ others := fun (key, object) => by
    rw [mem_entries_iff ⟨entries, sorted⟩, mem_entries_iff ⟨others, otherSorted⟩, agree]
  have same : entries = others := by
    clear agree
    induction entries generalizing others with
    | nil =>
        cases others with
        | nil => rfl
        | cons head rest => exact absurd ((sameMembers head).mpr List.mem_cons_self) (List.not_mem_nil)
    | cons head rest ih =>
        obtain ⟨above, restSorted⟩ := List.pairwise_cons.mp sorted
        cases others with
        | nil => exact absurd ((sameMembers head).mp List.mem_cons_self) (List.not_mem_nil)
        | cons other tail =>
            obtain ⟨otherAbove, tailSorted⟩ := List.pairwise_cons.mp otherSorted
            have headEqual : head = other := by
              rcases List.mem_cons.mp ((sameMembers head).mp List.mem_cons_self) with equal | inTail
              · exact equal
              · rcases List.mem_cons.mp ((sameMembers other).mpr List.mem_cons_self) with equal | inRest
                · exact equal.symm
                · exact absurd (String.lt_trans (otherAbove head inTail) (above other inRest)) (String.lt_irrefl _)
            subst headEqual
            refine congrArg (head :: ·)
              (ih restSorted tail tailSorted fun entry => ⟨fun member => ?_, fun member => ?_⟩)
            · rcases List.mem_cons.mp ((sameMembers entry).mp (List.mem_cons_of_mem _ member)) with equal | inTail
              · exact absurd (equal ▸ above entry member) (String.lt_irrefl _)
              · exact inTail
            · rcases List.mem_cons.mp ((sameMembers entry).mpr (List.mem_cons_of_mem _ member)) with equal | inRest
              · exact absurd (equal ▸ otherAbove entry member) (String.lt_irrefl _)
              · exact inRest
  subst same
  rfl

end Bucket
end PathStore

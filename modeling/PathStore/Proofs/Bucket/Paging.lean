/-
This file shows that the pages of a listing tile it. A page holds the entries of the first keys that remain, and its
marker leaves just the other keys to the next page.
-/
import PathStore.Bucket.Listing
import PathStore.Proofs.Root.Stem

namespace PathStore.Bucket

variable (stem delimiter : String)

/-- An entry in front of others joins them just if it stands for keys with the stem of the first of them. -/
theorem joinGroup_eq (group : Group) (groups : List Group) :
    joinGroup group groups =
      if group.stem?.isSome ∧ groups.head?.bind Group.stem? = group.stem? then groups else group :: groups := by
  cases group with
  | object key stored => rfl
  | rolled common last =>
      rcases groups with _ | ⟨_ | ⟨next, final⟩, rest⟩
      · rfl
      · rfl
      · by_cases same : common = next
        · simp [joinGroup, Group.stem?, same]
        · simp [joinGroup, Group.stem?, same, Ne.symm same]

theorem joinGroup_nil (group : Group) : joinGroup group [] = [group] := by
  cases group <;> rfl

theorem groups_cons (entry : String × StoredObject) (rest : List (String × StoredObject)) :
    groups stem delimiter (entry :: rest) = joinGroup (groupOf stem delimiter entry) (groups stem delimiter rest) := rfl

theorem groupOf_last (entry : String × StoredObject) : (groupOf stem delimiter entry).last = entry.1 := by
  unfold groupOf
  split <;> rfl

/-- Keys without a delimiter are listed one by one. -/
theorem groups_without_delimiter (entries : List (String × StoredObject)) :
    groups stem "" entries = entries.map fun entry => .object entry.1 entry.2 := by
  induction entries with
  | nil => rfl
  | cons entry rest ih => rw [groups_cons, ih]; rfl

/-- Without a delimiter every key is listed as an object. -/
theorem objects_without_delimiter (entries : List (String × StoredObject)) :
    (groups stem "" entries).filterMap Group.object? = entries := by
  rw [groups_without_delimiter, List.filterMap_map]
  exact List.filterMap_some

theorem groups_eq_nil_iff (entries : List (String × StoredObject)) :
    groups stem delimiter entries = [] ↔ entries = [] := by
  cases entries with
  | nil => exact iff_of_true rfl rfl
  | cons entry rest =>
      refine iff_of_false ?_ (List.cons_ne_nil _ _)
      rw [groups_cons, joinGroup_eq]
      split
      · rename_i joins
        intro empty
        rw [empty] at joins
        exact absurd joins.2 (by simpa [eq_comm] using Option.isSome_iff_ne_none.mp joins.1)
      · exact List.cons_ne_nil _ _

/-- The last key of the last entry is the last key. -/
theorem groups_last (entries : List (String × StoredObject)) :
    (groups stem delimiter entries).getLast?.map Group.last = entries.getLast?.map Prod.fst := by
  induction entries with
  | nil => rfl
  | cons entry rest ih =>
      rw [groups_cons]
      cases rest with
      | nil =>
          rw [show groups stem delimiter [] = [] from rfl, joinGroup_nil]
          exact congrArg some (groupOf_last stem delimiter entry)
      | cons next later =>
          rw [joinGroup_eq]
          have filled : groups stem delimiter (next :: later) ≠ [] := by
            rw [Ne, groups_eq_nil_iff]
            exact List.cons_ne_nil _ _
          split
          · rw [ih, List.getLast?_cons_cons]
          · rw [List.getLast?_cons_of_ne_nil filled, ih, List.getLast?_cons_cons]

/-- The first entries of a listing are those of its first keys, and the others those of the keys behind them. -/
theorem groups_split (entries : List (String × StoredObject)) (count : Nat) :
    ∃ front back, entries = front ++ back ∧
      groups stem delimiter front = (groups stem delimiter entries).take count ∧
      groups stem delimiter back = (groups stem delimiter entries).drop count := by
  induction entries generalizing count with
  | nil => exact ⟨[], [], rfl, by simp [groups], by simp [groups]⟩
  | cons entry rest ih =>
      cases count with
      | zero => exact ⟨[], entry :: rest, rfl, rfl, rfl⟩
      | succ count =>
          rw [groups_cons, joinGroup_eq]
          split
          · -- The entry joins the first of the others, which the front of the others begins with.
            rename_i joins
            obtain ⟨front, back, split, taken, dropped⟩ := ih (count + 1)
            refine ⟨entry :: front, back, by rw [split, List.cons_append], ?_, dropped⟩
            rw [groups_cons, joinGroup_eq, taken, List.head?_take, if_neg (Nat.succ_ne_zero count), if_pos joins]
          · rename_i apart
            obtain ⟨front, back, split, taken, dropped⟩ := ih count
            refine ⟨entry :: front, back, by rw [split, List.cons_append], ?_, dropped⟩
            rw [groups_cons, joinGroup_eq, taken, List.take_succ_cons, if_neg]
            rintro ⟨isRolled, same⟩
            refine apart ⟨isRolled, ?_⟩
            rw [← same, List.head?_take]
            split
            · rename_i none
              rw [none] at same
              simp [← same] at isRolled
            · rfl

variable (bucket : Bucket) (marker : String)

theorem mem_entriesAfter_iff (entry : String × StoredObject) :
    entry ∈ bucket.entriesAfter stem marker ↔
      bucket.find? entry.1 = some entry.2 ∧ Root.startsWith entry.1 stem = true ∧ marker < entry.1 := by
  rw [entriesAfter, List.mem_filter, Bool.and_eq_true, decide_eq_true_eq, ← mem_entries_iff]

theorem entriesAfter_sorted : (bucket.entriesAfter stem marker).Pairwise fun first second => first.1 < second.1 :=
  bucket.sorted.filter _

/-- A later marker leaves those of the keys that come after it. -/
theorem entriesAfter_of_lt {later : String} (above : marker < later) :
    bucket.entriesAfter stem later = (bucket.entriesAfter stem marker).filter (later < ·.1) := by
  rw [entriesAfter, entriesAfter, List.filter_filter]
  apply List.filter_congr
  intro entry _
  by_cases after : later < entry.1
  · simp [after, String.lt_trans above after]
  · simp [after]

/-- The last key of a front of the keys, taken as a marker, leaves just the keys behind the front. -/
theorem entriesAfter_of_split {front back : List (String × StoredObject)} {last : String × StoredObject}
    (split : bucket.entriesAfter stem marker = front ++ [last] ++ back) : bucket.entriesAfter stem last.1 = back := by
  have member : last ∈ bucket.entriesAfter stem marker := by simp [split]
  have above : marker < last.1 := ((mem_entriesAfter_iff stem bucket marker last).mp member).2.2
  have sorted := bucket.entriesAfter_sorted stem marker
  rw [split, List.pairwise_append, List.pairwise_append] at sorted
  obtain ⟨⟨-, -, frontBelow⟩, -, backAbove⟩ := sorted
  have frontGone : front.filter (fun entry => decide (last.1 < entry.1)) = [] := by
    rw [List.filter_eq_nil_iff]
    intro entry inFront
    have below : entry.1 < last.1 := frontBelow entry inFront last List.mem_cons_self
    rw [decide_eq_true_eq]
    exact fun after => String.lt_irrefl _ (String.lt_trans below after)
  have backKept : back.filter (fun entry => decide (last.1 < entry.1)) = back := by
    rw [List.filter_eq_self]
    intro entry inBack
    exact decide_eq_true (backAbove last (by simp) entry inBack)
  have lastGone : [last].filter (fun entry => decide (last.1 < entry.1)) = [] :=
    List.filter_cons_of_neg (by simp only [String.lt_irrefl, decide_false, Bool.false_eq_true, not_false_eq_true])
  rw [bucket.entriesAfter_of_lt stem marker above, split, List.filter_append, List.filter_append, frontGone, lastGone,
    backKept, List.nil_append, List.nil_append]

/-- A page lists a front of the keys that remain. The last page has no marker; the marker of any other page is one of
the keys in front and leaves just the keys behind the front. -/
theorem page_cases {limit : Int} (positive : 1 ≤ limit) :
    ∃ front back, bucket.entriesAfter stem marker = front ++ back ∧
      (bucket.page stem delimiter marker limit).1 = groups stem delimiter front ∧
      groups stem delimiter (front ++ back) = groups stem delimiter front ++ groups stem delimiter back ∧
      (back = [] ∧ (bucket.page stem delimiter marker limit).2 = "" ∨
        (∃ last ∈ front, last.1 = (bucket.page stem delimiter marker limit).2) ∧
          bucket.entriesAfter stem (bucket.page stem delimiter marker limit).2 = back) := by
  obtain ⟨front, back, split, taken, dropped⟩ :=
    groups_split stem delimiter (bucket.entriesAfter stem marker) limit.toNat
  refine ⟨front, back, split, taken.symm, ?_, ?_⟩
  · rw [← split, taken, dropped, List.take_append_drop]
  · have longer : ((groups stem delimiter (bucket.entriesAfter stem marker)).take limit.toNat).length <
        (groups stem delimiter (bucket.entriesAfter stem marker)).length ↔ ¬back = [] := by
      rw [← groups_eq_nil_iff stem delimiter back, dropped, List.drop_eq_nil_iff, List.length_take]
      omega
    simp only [page, longer]
    by_cases ended : back = []
    · exact .inl ⟨ended, if_neg (not_not_intro ended)⟩
    · right
      have frontFilled : front ≠ [] := by
        intro empty
        rw [empty] at split taken
        rcases List.take_eq_nil_iff.mp taken.symm with none | none
        · omega
        · rw [groups_eq_nil_iff, split] at none
          exact ended none
      obtain ⟨before, last, rfl⟩ : ∃ before last, front = before ++ [last] :=
        ⟨front.dropLast, front.getLast frontFilled, (List.dropLast_concat_getLast frontFilled).symm⟩
      rw [if_pos ended, ← taken, groups_last, List.getLast?_concat]
      exact ⟨⟨last, List.mem_concat_self, rfl⟩, bucket.entriesAfter_of_split stem marker split⟩

end PathStore.Bucket

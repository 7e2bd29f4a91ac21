/-
This file follows the markers of a listing from page to page. For every delimiter the pages end, are full but for the
last, and hold together the entries of the whole listing in order, each once. A page is what a loop over the keys takes
that rolls up a key with all that follow it and begin with its stem.
-/
import Mathlib.Data.List.Nodup
import Mathlib.Data.List.TakeWhile
import PathStore.Bucket.Store
import PathStore.Proofs.Bucket.Rolling

namespace PathStore.Bucket

section Stem

/-- What is read through a delimiter holds the delimiter and is the front of what it is read from. -/
theorem throughFirst?_cases {delimiter characters found : List Char}
    (read : throughFirst? delimiter characters = some found) :
    delimiter.length ≤ found.length ∧ found <+: characters := by
  induction characters generalizing found with
  | nil => cases read
  | cons first rest ih =>
      rw [throughFirst?] at read
      split at read
      · rename_i starts
        obtain rfl := Option.some.inj read
        exact ⟨Nat.le_refl _, List.isPrefixOf_iff_prefix.mp starts⟩
      · obtain ⟨later, laterRead, rfl⟩ := Option.map_eq_some_iff.mp read
        obtain ⟨longer, front⟩ := ih laterRead
        exact ⟨Nat.le_succ_of_le longer, List.cons_prefix_cons.mpr ⟨rfl, front⟩⟩

/-- What is read through a delimiter is read again whatever is put behind it. -/
theorem throughFirst?_append {delimiter characters found : List Char} (filled : delimiter ≠ [])
    (read : throughFirst? delimiter characters = some found) (later : List Char) :
    throughFirst? delimiter (found ++ later) = some found := by
  induction characters generalizing found with
  | nil => cases read
  | cons first rest ih =>
      rw [throughFirst?] at read
      split at read
      · obtain rfl := Option.some.inj read
        obtain ⟨head, tail, rfl⟩ := List.exists_cons_of_ne_nil filled
        rw [List.cons_append, throughFirst?, if_pos]
        exact List.isPrefixOf_iff_prefix.mpr (List.prefix_append (head :: tail) later)
      · rename_i notHere
        obtain ⟨through, throughRead, rfl⟩ := Option.map_eq_some_iff.mp read
        obtain ⟨longer, front⟩ := throughFirst?_cases throughRead
        have stillNotHere : ¬delimiter.isPrefixOf (first :: (through ++ later)) = true := by
          -- Otherwise the delimiter would end before what is put behind.
          rw [List.isPrefixOf_iff_prefix] at notHere ⊢
          intro starts
          have within : delimiter <+: first :: through :=
            List.prefix_of_prefix_length_le starts (List.prefix_append (first :: through) later)
              (Nat.le_succ_of_le longer)
          exact notHere (within.trans (List.cons_prefix_cons.mpr ⟨rfl, front⟩))
        rw [List.cons_append, throughFirst?, if_neg stillNotHere, ih throughRead]
        rfl

variable {stem delimiter key common : String}

/-- A key that is rolled up begins with the stem under which it is. -/
theorem startsWith_of_commonStem? (begins : Root.startsWith key stem = true)
    (rolled : commonStem? stem delimiter key = some common) : Root.startsWith key common = true := by
  obtain ⟨rest, rfl⟩ := Root.startsWith_iff.mp begins
  rw [commonStem?] at rolled
  split at rolled
  · cases rolled
  · obtain ⟨found, read, rfl⟩ := Option.map_eq_some_iff.mp rolled
    obtain ⟨later, joined⟩ := (throughFirst?_cases read).2
    rw [String.toList_append, ← String.length_toList, List.drop_left] at joined
    refine Root.startsWith_iff.mpr ⟨String.ofList later, String.ext ?_⟩
    simp [← joined]

/-- All keys that begin with the stem under which one is rolled up are rolled up under it. -/
theorem commonStem?_of_startsWith (begins : Root.startsWith key stem = true)
    (rolled : commonStem? stem delimiter key = some common) {other : String}
    (below : Root.startsWith other common = true) : commonStem? stem delimiter other = some common := by
  obtain ⟨rest, rfl⟩ := Root.startsWith_iff.mp begins
  obtain ⟨later, rfl⟩ := Root.startsWith_iff.mp below
  rw [commonStem?] at rolled ⊢
  split at rolled
  · cases rolled
  · rename_i filled
    obtain ⟨found, read, rfl⟩ := Option.map_eq_some_iff.mp rolled
    have visible : delimiter.toList ≠ [] := fun empty => filled (String.ext empty)
    have characters : (stem ++ String.ofList found ++ later).toList.drop stem.length = found ++ later.toList := by
      rw [String.append_assoc, String.toList_append, ← String.length_toList, List.drop_left]
      simp
    rw [if_neg filled, characters, throughFirst?_append visible read]
    rfl

end Stem

section Loop

/-- The entries that a page takes from keys in order, one after another, and the keys that it leaves. A key that is
rolled up takes all keys with it that follow and begin with its stem. -/
def takeEntries (stem delimiter : String) : Nat → List (String × StoredObject) →
    List Group × List (String × StoredObject)
  | 0, entries => ([], entries)
  | _ + 1, [] => ([], [])
  | count + 1, entry :: rest =>
      match commonStem? stem delimiter entry.1 with
      | none =>
          let (taken, left) := takeEntries stem delimiter count rest
          (.object entry.1 entry.2 :: taken, left)
      | some common =>
          let below := rest.takeWhile fun other => Root.startsWith other.1 common
          let (taken, left) :=
            takeEntries stem delimiter count (rest.dropWhile fun other => Root.startsWith other.1 common)
          (.rolled common (below.getLastD entry).1 :: taken, left)

variable {stem delimiter : String}

/-- Keys that are rolled up under one stem make up one entry unless the keys behind them go on with the stem. -/
theorem groups_rolled {common : String} (entry : String × StoredObject) {below back : List (String × StoredObject)}
    (rolled : ∀ other ∈ entry :: below, commonStem? stem delimiter other.1 = some common)
    (apart : (groups stem delimiter back).head?.bind Group.stem? ≠ some common) :
    groups stem delimiter (entry :: below ++ back) =
      .rolled common (below.getLastD entry).1 :: groups stem delimiter back := by
  induction below generalizing entry with
  | nil =>
      rw [List.singleton_append, groups_cons, joinGroup_eq, groupOf_of_some (rolled entry List.mem_cons_self), if_neg]
      · rfl
      · exact fun joins => apart joins.2
  | cons next below ih =>
      have laterRolled := ih next fun other member => rolled other (List.mem_cons_of_mem _ member)
      rw [List.cons_append, groups_cons, joinGroup_eq, laterRolled, groupOf_of_some (rolled entry List.mem_cons_self),
        if_pos ⟨rfl, rfl⟩, List.getLastD_cons]

/-- The loop takes the first entries of the listing and leaves the keys of the others. -/
theorem takeEntries_eq (delimiter : String) (count : Nat) {entries : List (String × StoredObject)}
    (begin : ∀ entry ∈ entries, Root.startsWith entry.1 stem = true) :
    (takeEntries stem delimiter count entries).1 = (groups stem delimiter entries).take count ∧
      groups stem delimiter (takeEntries stem delimiter count entries).2 =
        (groups stem delimiter entries).drop count := by
  induction count generalizing entries with
  | zero => exact ⟨rfl, rfl⟩
  | succ count ih =>
      cases entries with
      | nil => exact ⟨rfl, rfl⟩
      | cons entry rest =>
          obtain ⟨entryBegins, restBegin⟩ := List.forall_mem_cons.mp begin
          rw [takeEntries]
          cases alone : commonStem? stem delimiter entry.1 with
          | none =>
              obtain ⟨taken, left⟩ := ih restBegin
              have listed : groups stem delimiter (entry :: rest) =
                  .object entry.1 entry.2 :: groups stem delimiter rest := by
                rw [groups_cons, groupOf_of_none alone]
                rfl
              rw [listed]
              exact ⟨congrArg _ taken, left⟩
          | some common =>
              let begins := fun other : String × StoredObject => Root.startsWith other.1 common
              let below := rest.takeWhile begins
              let back := rest.dropWhile begins
              have split : below ++ back = rest := List.takeWhile_append_dropWhile
              have backBegin : ∀ other ∈ back, Root.startsWith other.1 stem = true := fun other member =>
                restBegin other (split ▸ List.mem_append_right below member)
              have rolled : ∀ other ∈ entry :: below, commonStem? stem delimiter other.1 = some common := by
                refine List.forall_mem_cons.mpr ⟨alone, fun other member => ?_⟩
                exact commonStem?_of_startsWith entryBegins alone (List.mem_takeWhile_imp (p := begins) member)
              have apart : (groups stem delimiter back).head?.bind Group.stem? ≠ some common := by
                intro same
                rcases none : back with _ | ⟨next, later⟩
                · rw [none] at same
                  cases same
                · rw [none, groups_head_stem?] at same
                  have nextBegins := backBegin next (none ▸ List.mem_cons_self)
                  have stops := List.head?_dropWhile_not begins rest
                  rw [show rest.dropWhile begins = next :: later from none] at stops
                  exact Bool.false_ne_true (stops.symm.trans (startsWith_of_commonStem? nextBegins same))
              obtain ⟨taken, left⟩ := ih backBegin
              have listed : groups stem delimiter (entry :: rest) =
                  .rolled common (below.getLastD entry).1 :: groups stem delimiter back := by
                rw [← split, ← List.cons_append, groups_rolled entry rolled apart]
              rw [listed]
              exact ⟨congrArg _ taken, left⟩

/-- A page is what the loop takes. Its marker is the last key taken if keys are left. -/
theorem page_eq_takeEntries (bucket : Bucket) (marker : String) (limit : Int) :
    bucket.page stem delimiter marker limit =
      let (taken, left) := takeEntries stem delimiter limit.toNat (bucket.entriesAfter stem marker)
      (taken, if left.isEmpty then "" else (taken.getLast?.map Group.last).getD "") := by
  have begin : ∀ entry ∈ bucket.entriesAfter stem marker, Root.startsWith entry.1 stem = true := fun entry member =>
    ((mem_entriesAfter_iff stem bucket marker entry).mp member).2.1
  obtain ⟨taken, left⟩ := takeEntries_eq delimiter limit.toNat begin
  have more : ((groups stem delimiter (bucket.entriesAfter stem marker)).take limit.toNat).length <
      (groups stem delimiter (bucket.entriesAfter stem marker)).length ↔
        ¬(takeEntries stem delimiter limit.toNat (bucket.entriesAfter stem marker)).2.isEmpty = true := by
    rw [List.isEmpty_iff, ← groups_eq_nil_iff stem delimiter, left, List.drop_eq_nil_iff, List.length_take]
    omega
  simp only [page, taken, more, ite_not]

end Loop

section Once

variable {stem delimiter : String} {entries : List (String × StoredObject)}

/-- Keys with one stem lie together, whatever the delimiter is, so a listing has every stem once. -/
theorem groups_stems_nodup (sorted : entries.Pairwise fun first second => first.1 < second.1)
    (begin : ∀ entry ∈ entries, Root.startsWith entry.1 stem = true) :
    ((groups stem delimiter entries).filterMap Group.stem?).Nodup := by
  induction entries with
  | nil => exact .nil
  | cons entry rest ih =>
      obtain ⟨above, restSorted⟩ := List.pairwise_cons.mp sorted
      obtain ⟨entryBegins, restBegin⟩ := List.forall_mem_cons.mp begin
      have restOnce := ih restSorted restBegin
      rw [groups_stems_cons]
      split
      · exact restOnce
      · rename_i apart
        cases rolled : commonStem? stem delimiter entry.1 with
        | none => exact restOnce
        | some common =>
            refine List.nodup_cons.mpr ⟨fun again => ?_, restOnce⟩
            obtain ⟨later, inRest, laterRolled⟩ := (mem_groups_stems_iff stem delimiter rest common).mp again
            obtain ⟨next, more, rfl⟩ := List.exists_cons_of_ne_nil (List.ne_nil_of_mem inRest)
            -- The next key is the later one or lies between the two, and begins with the stem either way.
            have nextBelow : Root.startsWith next.1 common = true := by
              have entryBelow := startsWith_of_commonStem? entryBegins rolled
              have laterBelow := startsWith_of_commonStem? (restBegin later inRest) laterRolled
              rcases List.mem_cons.mp inRest with rfl | inMore
              · exact laterBelow
              · exact Root.startsWith_of_between entryBelow laterBelow (above next List.mem_cons_self)
                  ((List.pairwise_cons.mp restSorted).1 later inMore)
            apply apart
            rw [groups_head_stem?, rolled]
            exact commonStem?_of_startsWith entryBegins rolled nextBelow

/-- A listing has every object once. -/
theorem groups_objects_nodup (sorted : entries.Pairwise fun first second => first.1 < second.1) :
    (((groups stem delimiter entries).filterMap Group.object?).map Prod.fst).Nodup := by
  rw [groups_objects]
  refine List.pairwise_map.mpr ((sorted.filter _).imp fun below same => ?_)
  exact String.lt_irrefl _ (same ▸ below)

theorem groups_length_le (stem delimiter : String) (entries : List (String × StoredObject)) :
    (groups stem delimiter entries).length ≤ entries.length := by
  induction entries with
  | nil => exact Nat.le_refl _
  | cons entry rest ih =>
      rw [groups_cons, joinGroup_eq]
      split
      · exact Nat.le_succ_of_le ih
      · exact Nat.succ_le_succ ih

end Once

section Pages

/-- The pages to which the markers lead from one on, of which the last alone has none. -/
inductive Follows (bucket : Bucket) (query : ListQuery) : String → List ListPage → Prop where
  | last {marker : String} {page : ListPage}
      (answered : bucket.listPage { query with marker := .text marker } = .ok page) (ends : page.marker = .text "") :
      Follows bucket query marker [page]
  | next {marker following : String} {page : ListPage} {pages : List ListPage}
      (answered : bucket.listPage { query with marker := .text marker } = .ok page)
      (goesOn : page.marker = .text following) (filled : following ≠ "")
      (follows : Follows bucket query following pages) : Follows bucket query marker (page :: pages)

/-- The page with some entries and a marker. -/
def pageOf (listed : List Group) (marker : String) : ListPage where
  items := (listed.filterMap Group.object?).map fun entry => entry.2.info entry.1
  stems := (listed.filterMap Group.stem?).map fun stem => .text (.whole stem)
  marker := .text marker

variable {bucket : Bucket} {query : ListQuery} {marker : String} {pages : List ListPage}

theorem listPage_of_page {listed : List Group} {following : String}
    (found : bucket.page query.stem query.delimiter marker query.limit = (listed, following)) :
    bucket.listPage { query with marker := .text marker } = .ok (pageOf listed following) := by
  obtain ⟨rfl, rfl⟩ := Prod.mk.inj found
  rfl

/-- An object or a stem stands for every entry. -/
theorem pageOf_length (listed : List Group) (marker : String) :
    (pageOf listed marker).items.length + (pageOf listed marker).stems.length = listed.length := by
  simp only [pageOf, List.length_map]
  induction listed with
  | nil => rfl
  | cons group rest ih =>
      cases group with
      | object key stored => simp only [List.filterMap_cons, Group.object?, Group.stem?, List.length_cons]; omega
      | rolled stem last => simp only [List.filterMap_cons, Group.object?, Group.stem?, List.length_cons]; omega

variable {listed : List Group} {following : String}

/-- A page with a marker is full. -/
theorem page_full (found : bucket.page query.stem query.delimiter marker query.limit = (listed, following))
    (goesOn : following ≠ "") : listed.length = query.limit.toNat := by
  obtain ⟨rfl, rfl⟩ := Prod.mk.inj found
  have longer : ((groups query.stem query.delimiter (bucket.entriesAfter query.stem marker)).take
      query.limit.toNat).length < (groups query.stem query.delimiter (bucket.entriesAfter query.stem marker)).length :=
    Decidable.not_not.mp fun short => goesOn (if_neg short)
  rw [List.length_take] at longer ⊢
  omega

/-- A page is the last and lists all that remains, or it is full and its marker leads to the rest. -/
theorem page_step (positive : 1 ≤ query.limit)
    (found : bucket.page query.stem query.delimiter marker query.limit = (listed, following)) :
    following = "" ∧ groups query.stem query.delimiter (bucket.entriesAfter query.stem marker) = listed ∨
      marker < following ∧ (listed.length : Int) = query.limit ∧
        groups query.stem query.delimiter (bucket.entriesAfter query.stem marker) =
          listed ++ groups query.stem query.delimiter (bucket.entriesAfter query.stem following) ∧
        (bucket.entriesAfter query.stem following).length < (bucket.entriesAfter query.stem marker).length := by
  obtain ⟨front, back, split, taken, tiled, ends⟩ :=
    page_cases query.stem query.delimiter bucket marker positive
  rw [found] at taken ends
  obtain rfl : listed = groups query.stem query.delimiter front := taken
  rcases ends with ⟨rfl, none⟩ | ⟨⟨last, inFront, rfl⟩, rest⟩
  · exact .inl ⟨none, by rw [split, List.append_nil]⟩
  · have remains : last ∈ bucket.entriesAfter query.stem marker := split ▸ List.mem_append_left back inFront
    have above : marker < last.1 := ((mem_entriesAfter_iff _ _ _ _).mp remains).2.2
    have count := page_full found (ne_empty_of_lt above)
    have inside := List.length_pos_of_mem inFront
    refine .inr ⟨above, by omega, ?_, ?_⟩
    · rw [split, tiled, rest]
    · rw [split, rest, List.length_append]
      omega

theorem exists_follows (bucket : Bucket) (positive : 1 ≤ query.limit) (marker : String) :
    ∃ pages, Follows bucket query marker pages := by
  induction remaining : (bucket.entriesAfter query.stem marker).length using Nat.strong_induction_on
    generalizing marker with
  | _ count ih =>
      rcases found : bucket.page query.stem query.delimiter marker query.limit with ⟨listed, following⟩
      have answered := listPage_of_page found
      rcases page_step positive found with ⟨rfl, -⟩ | ⟨above, -, -, shorter⟩
      · exact ⟨_, .last answered rfl⟩
      · obtain ⟨pages, follows⟩ := ih _ (remaining ▸ shorter) following rfl
        exact ⟨_, .next answered rfl (ne_empty_of_lt above) follows⟩

theorem Follows.unique (follows : Follows bucket query marker pages) {others : List ListPage}
    (also : Follows bucket query marker others) : others = pages := by
  induction follows generalizing others with
  | last answered ends =>
      cases also with
      | last again => exact congrArg (List.cons · []) (Except.ok.inj (again.symm.trans answered))
      | next again goesOn filled =>
          obtain rfl := Except.ok.inj (again.symm.trans answered)
          exact absurd (Json.whole_inj (goesOn.symm.trans ends)) filled
  | next answered goesOn filled _ ih =>
      cases also with
      | last again ends =>
          obtain rfl := Except.ok.inj (again.symm.trans answered)
          exact absurd (Json.whole_inj (goesOn.symm.trans ends)) filled
      | next again alsoGoesOn _ rest =>
          obtain rfl := Except.ok.inj (again.symm.trans answered)
          obtain rfl := Json.whole_inj (goesOn.symm.trans alsoGoesOn)
          exact congrArg _ (ih rest)

theorem Follows.ne_nil (follows : Follows bucket query marker pages) : pages ≠ [] := by
  cases follows <;> exact List.cons_ne_nil _ _

/-- What is known of pages to which the markers lead. -/
structure Tile (bucket : Bucket) (query : ListQuery) (marker : String) (pages : List ListPage) : Prop where
  full : ∀ page ∈ pages.dropLast, (page.items.length + page.stems.length : Int) = query.limit
  ascend : ∃ markers : List String, pages.dropLast.map ListPage.marker = markers.map (fun marker => .text marker) ∧
    (marker :: markers).Pairwise (· < ·)
  listed : let whole := pageOf (groups query.stem query.delimiter (bucket.entriesAfter query.stem marker)) ""
    pages.flatMap ListPage.items = whole.items ∧ pages.flatMap ListPage.stems = whole.stems

theorem Follows.tile (positive : 1 ≤ query.limit) (follows : Follows bucket query marker pages) :
    Tile bucket query marker pages := by
  induction follows with
  | @last marker page answered ends =>
      rcases found : bucket.page query.stem query.delimiter marker query.limit with ⟨listed, following⟩
      obtain rfl := Except.ok.inj ((listPage_of_page found).symm.trans answered)
      rcases page_step positive found with ⟨-, whole⟩ | ⟨above, -⟩
      · exact ⟨nofun, ⟨[], rfl, List.pairwise_singleton _ _⟩, by simp [whole, pageOf]⟩
      · exact absurd (Json.whole_inj ends) (ne_empty_of_lt above)
  | @next marker following page pages answered goesOn filled follows ih =>
      rcases found : bucket.page query.stem query.delimiter marker query.limit with ⟨listed, next⟩
      obtain rfl := Except.ok.inj ((listPage_of_page found).symm.trans answered)
      obtain rfl := Json.whole_inj goesOn
      rcases page_step positive found with ⟨none, -⟩ | ⟨above, count, tiled, -⟩
      · exact absurd none filled
      · obtain ⟨full, ⟨markers, same, ascend⟩, items, stems⟩ := ih
        constructor
        · rw [List.dropLast_cons_of_ne_nil follows.ne_nil]
          refine List.forall_mem_cons.mpr ⟨?_, full⟩
          rw [← Int.natCast_add, pageOf_length, count]
        · rw [List.dropLast_cons_of_ne_nil follows.ne_nil]
          refine ⟨next :: markers, congrArg (_ :: ·) same, List.pairwise_cons.mpr ⟨?_, ascend⟩⟩
          refine List.forall_mem_cons.mpr ⟨above, fun later member => ?_⟩
          exact String.lt_trans above ((List.pairwise_cons.mp ascend).1 later member)
        · rw [List.flatMap_cons, List.flatMap_cons, items, stems, tiled]
          simp only [pageOf, List.filterMap_append, List.map_append, and_self]

/-- The markers lead from the first page on through pages that are full to a last one, and upwards. Together these pages
hold just what one page for all keys holds, and no object and no stem twice. -/
theorem pages_tile_listing (bucket : Bucket) (query : ListQuery) (positive : 1 ≤ query.limit) :
    ∃ pages, Follows bucket query "" pages ∧ (∀ others, Follows bucket query "" others → others = pages) ∧
      (∀ page ∈ pages.dropLast, (page.items.length + page.stems.length : Int) = query.limit) ∧
      (∃ markers : List String, pages.dropLast.map ListPage.marker = markers.map (fun marker => .text marker) ∧
        ("" :: markers).Pairwise (· < ·)) ∧
      (∀ limit : Int, bucket.size ≤ limit → bucket.listPage { query with marker := .text "", limit } =
        .ok { items := pages.flatMap ListPage.items, stems := pages.flatMap ListPage.stems, marker := .text "" }) ∧
      ((pages.flatMap ListPage.items).map ObjectInfo.key).Nodup ∧ (pages.flatMap ListPage.stems).Nodup := by
  obtain ⟨pages, follows⟩ := exists_follows bucket positive ""
  obtain ⟨full, ascend, items, stems⟩ := follows.tile positive
  have sorted := bucket.entriesAfter_sorted query.stem ""
  have begin : ∀ entry ∈ bucket.entriesAfter query.stem "", Root.startsWith entry.1 query.stem = true :=
    fun entry member => ((mem_entriesAfter_iff _ _ _ entry).mp member).2.1
  have injective : Function.Injective fun text : String => (.text text : Reply) := fun _ _ => Json.whole_inj
  refine ⟨pages, follows, fun others => follows.unique, full, ascend, fun limit large => ?_, ?_, ?_⟩
  · have count : (groups query.stem query.delimiter (bucket.entriesAfter query.stem "")).length ≤ limit.toNat := by
      have fewer : (bucket.entriesAfter query.stem "").length ≤ bucket.size := List.length_filter_le _ _
      have := groups_length_le query.stem query.delimiter (bucket.entriesAfter query.stem "")
      omega
    rw [items, stems, listPage]
    simp [pageAfter, page, List.take_of_length_le count, pageOf]
  · rw [items]
    simpa [pageOf, List.map_map, Function.comp_def, StoredObject.info] using
      (groups_objects_nodup sorted).map injective
  · rw [stems]
    exact (groups_stems_nodup sorted begin).map injective

/-- A bucket with two keys below a directory and one beside it. -/
def nested : Bucket := ((empty.insert "a/x" ⟨[], 0⟩).insert "a/y" ⟨[], 0⟩).insert "b" ⟨[], 0⟩

/-- Two pages of one entry tile its listing; the first marker is the last key that is rolled up. -/
theorem nested_is_tiled : ∃ pages, Follows nested { stem := "", delimiter := "/", limit := 1 } "" pages ∧
    pages.map ListPage.marker = [.text "a/y", .text ""] ∧
      nested.listPage { stem := "", delimiter := "/", limit := 3 } =
        .ok { items := pages.flatMap ListPage.items, stems := pages.flatMap ListPage.stems, marker := .text "" } := by
  obtain ⟨pages, follows, unique, -, -, whole, -⟩ :=
    pages_tile_listing nested { stem := "", delimiter := "/", limit := 1 } (by decide)
  have explicit : Follows nested { stem := "", delimiter := "/", limit := 1 } ""
      [pageOf [.rolled "a/" "a/y"] "a/y", pageOf [.object "b" ⟨[], 0⟩] ""] :=
    .next (listPage_of_page (by decide)) rfl (by decide) (.last (listPage_of_page (by decide)) rfl)
  refine ⟨pages, follows, ?_, whole 3 (by decide)⟩
  rw [← unique _ explicit]
  rfl

end Pages
end PathStore.Bucket

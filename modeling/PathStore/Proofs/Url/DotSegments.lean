/-
This file tells what becomes of a path whose dot segments are removed. A path without them stays, and any other comes to
stand for fewer bytes, so it can never stand for the same text.
-/
import Mathlib.Algebra.Ring.Nat
import PathStore.Proofs.Url.Escaping

namespace PathStore

namespace Text

variable {separator : Char}

theorem splitList_ne_nil (characters : List Char) : splitList separator characters ≠ [] := by
  cases characters with
  | nil => simp [splitList]
  | cons character rest =>
      rw [splitList]
      split
      · simp
      · split <;> simp

/-- A list with a separator in it is split there. -/
theorem splitList_append (before after : List Char) :
    splitList separator (before ++ separator :: after) =
      splitList separator before ++ splitList separator after := by
  induction before with
  | nil => simp [splitList]
  | cons character rest ih =>
      rw [List.cons_append, splitList, splitList, ih]
      split
      · rfl
      · cases pieces : splitList separator rest with
        | nil => exact absurd pieces (splitList_ne_nil rest)
        | cons piece more => rfl

/-- Characters in front of a list go to its first piece if none of them is the separator. -/
theorem splitList_append_of_bare (written rest : List Char) (bare : separator ∉ written) :
    splitList separator (written ++ rest) =
      match splitList separator rest with
      | [] => []
      | piece :: pieces => (written ++ piece) :: pieces := by
  induction written with
  | nil => cases pieces : splitList separator rest <;> simp [pieces]
  | cons first more ih =>
      rw [List.mem_cons, not_or] at bare
      obtain ⟨different, bareMore⟩ := bare
      rw [List.cons_append, splitList, if_neg (Ne.symm different), ih bareMore]
      cases pieces : splitList separator rest with
      | nil => exact absurd pieces (splitList_ne_nil rest)
      | cons piece others => rfl

/-- Replacing the characters other than the separator, by others than the separator, replaces them in each piece. -/
theorem splitList_flatMap {replace : Char → List Char} (separates : replace separator = [separator])
    (within : ∀ character, character ≠ separator → separator ∉ replace character) (characters : List Char) :
    splitList separator (characters.flatMap replace) =
      (splitList separator characters).map fun piece => piece.flatMap replace := by
  induction characters with
  | nil => rfl
  | cons character rest ih =>
      rw [List.flatMap_cons, splitList]
      split
      · rename_i same
        subst same
        rw [separates, List.singleton_append, splitList, if_pos rfl, ih]
        rfl
      · rename_i different
        rw [splitList_append_of_bare _ _ (within character different), ih]
        cases pieces : splitList separator rest with
        | nil => exact absurd pieces (splitList_ne_nil rest)
        | cons piece others => rfl

end Text

namespace Url

/-- One dot or two, which a path does not keep as a segment. -/
def IsDots (segment : List Char) : Prop := segment = ['.'] ∨ segment = ['.', '.']

instance (segment : List Char) : Decidable (IsDots segment) := inferInstanceAs (Decidable (_ ∨ _))

/-- Whether a path has such a segment. -/
def HasDots (path : List Char) : Prop := ∃ segment ∈ Text.splitList '/' path, IsDots segment

instance (path : List Char) : Decidable (HasDots path) := inferInstanceAs (Decidable (∃ _ ∈ _, _))

theorem hasDots_append_slash (before after : List Char) :
    HasDots (before ++ '/' :: after) ↔ HasDots before ∨ HasDots after := by
  simp only [HasDots, Text.splitList_append, List.mem_append, or_and_right, exists_or]

/-- What is escaped begins with its first character as it is, or with the mark of an escape. -/
theorem escapeUnless_cons (isLeft : Char → Bool) (character : Char) (rest : List Char) :
    escapeUnless isLeft (character :: rest) = character :: escapeUnless isLeft rest ∨
      ∃ more, escapeUnless isLeft (character :: rest) = '%' :: more := by
  rw [escapeUnless, List.flatMap_cons]
  split
  · exact .inl rfl
  · right
    rw [escapeCharacter]
    cases bytes : String.utf8EncodeChar character with
    | nil => exact absurd bytes String.utf8EncodeChar_ne_nil
    | cons byte more => exact ⟨_, rfl⟩

/-- Escaping the characters of a segment neither makes it one of dots nor hides that it is one. -/
theorem isDots_escapeUnless {isLeft : Char → Bool} {segment : List Char} :
    IsDots (escapeUnless isLeft segment) ↔ IsDots segment := by
  have dot (rest : List Char) : escapeUnless isLeft ('.' :: rest) = '.' :: escapeUnless isLeft rest := by
    rw [escapeUnless, List.flatMap_cons, if_pos (by simp [isUnreserved])]
    rfl
  have ends {characters : List Char} (escaped : escapeUnless isLeft characters = []) : characters = [] := by
    cases characters with
    | nil => rfl
    | cons first later =>
        obtain stays | ⟨more, marked⟩ := escapeUnless_cons isLeft first later
        · rw [stays] at escaped
          cases escaped
        · rw [marked] at escaped
          cases escaped
  have starts {characters rest : List Char} (escaped : escapeUnless isLeft characters = '.' :: rest) :
      ∃ later, characters = '.' :: later ∧ escapeUnless isLeft later = rest := by
    cases characters with
    | nil => cases escaped
    | cons first later =>
        obtain stays | ⟨more, marked⟩ := escapeUnless_cons isLeft first later
        · rw [stays] at escaped
          obtain ⟨rfl, same⟩ := List.cons.inj escaped
          exact ⟨later, rfl, same⟩
        · rw [marked] at escaped
          exact absurd (List.cons.inj escaped).1 (by decide)
  constructor
  · rintro (escaped | escaped)
    · obtain ⟨later, rfl, rest⟩ := starts escaped
      exact .inl (by rw [ends rest])
    · obtain ⟨later, rfl, rest⟩ := starts escaped
      obtain ⟨last, rfl, final⟩ := starts rest
      exact .inr (by rw [ends final])
  · rintro (rfl | rfl)
    · exact .inl (dot [])
    · exact .inr (by rw [dot, dot]; rfl)

/-- A key has the dot segments of its escaped form, for its slashes are not escaped and no escape holds one. -/
theorem hasDots_escapeKey (key : String) : HasDots (escapeKey key).toList ↔ HasDots key.toList := by
  have split : Text.splitList '/' (escapeKey key).toList =
      (Text.splitList '/' key.toList).map (escapeUnless (· = '/')) := by
    rw [escapeKey, String.toList_ofList]
    refine Text.splitList_flatMap rfl (fun character different member => ?_) key.toList
    split at member
    · exact different (List.mem_singleton.mp member).symm
    · obtain ⟨byte, -, inByte⟩ := List.mem_flatMap.mp member
      have kept : isKept (· = '%') '/' = true := isKept_of_mem_escapeByte (by decide) inByte
      exact absurd kept (by decide)
  constructor
  · rintro ⟨segment, among, dots⟩
    rw [split] at among
    obtain ⟨plain, inKey, rfl⟩ := List.mem_map.mp among
    exact ⟨plain, inKey, isDots_escapeUnless.mp dots⟩
  · rintro ⟨segment, among, dots⟩
    have escaped : escapeUnless (· = '/') segment ∈ Text.splitList '/' (escapeKey key).toList := by
      rw [split]
      exact List.mem_map_of_mem among
    exact ⟨_, escaped, isDots_escapeUnless.mpr dots⟩

section Removing

open Reference (joinSegments)

/-- A path without dot segments stays. -/
theorem removeDots_of_not_hasDots {path : List Char} (none : ¬HasDots path) : removeDots path = path := by
  rw [removeDots, if_neg]
  rw [Bool.or_eq_true, List.contains_iff_mem, List.contains_iff_mem]
  rintro (member | member)
  · exact none ⟨_, member, .inl rfl⟩
  · exact none ⟨_, member, .inr rfl⟩

theorem removeDots_of_hasDots {path : List Char} (some : HasDots path) :
    removeDots path = joinSegments (resolveSegments [] (Text.splitList '/' path)) := by
  rw [removeDots, if_pos]
  rw [Bool.or_eq_true, List.contains_iff_mem, List.contains_iff_mem]
  obtain ⟨segment, member, rfl | rfl⟩ := some
  · exact .inl member
  · exact .inr member

/-- The pieces between slashes make the path they come from. -/
theorem joinSegments_splitList (path : List Char) : joinSegments (Text.splitList '/' path) = path := by
  induction path with
  | nil => rfl
  | cons character rest ih =>
      rw [Text.splitList]
      cases pieces : Text.splitList '/' rest with
      | nil => exact absurd pieces (Text.splitList_ne_nil rest)
      | cons piece more =>
          rw [pieces] at ih
          split
          · rename_i same
            rw [joinSegments, ih, List.nil_append, same]
            exact List.cons_ne_nil _ _
          · rw [← ih]
            cases more <;> rfl

/-- The segments that remain are among those that were there. -/
theorem mem_of_mem_resolveSegments {kept segments : List (List Char)} {segment : List Char}
    (member : segment ∈ resolveSegments kept segments) : segment ∈ kept ∨ segment ∈ segments := by
  induction kept, segments using resolveSegments.induct with
  | case1 kept => exact .inl (List.mem_reverse.mp member)
  | case2 kept rest ih =>
      rw [resolveSegments, if_pos rfl] at member
      exact (ih member).imp_right (List.mem_cons_of_mem _)
  | case3 kept rest different ih =>
      rw [resolveSegments, if_neg different, if_pos rfl] at member
      refine (ih member).imp (fun inKept => ?_) (List.mem_cons_of_mem _)
      split at inKept
      · exact inKept
      · exact List.mem_of_mem_tail inKept
  | case4 kept first rest notOne notTwo ih =>
      rw [resolveSegments, if_neg notOne, if_neg notTwo] at member
      obtain inKept | inRest := ih member
      · obtain rfl | inKept := List.mem_cons.mp inKept
        · exact .inr List.mem_cons_self
        · exact .inl inKept
      · exact .inr (List.mem_cons_of_mem _ inRest)

/-- A character of joined segments is a slash or stands in one of them. -/
theorem mem_joinSegments {segments : List (List Char)} {character : Char} (member : character ∈ joinSegments segments) :
    character = '/' ∨ ∃ segment ∈ segments, character ∈ segment := by
  fun_induction joinSegments segments with
  | case1 => cases member
  | case2 segment => exact .inr ⟨segment, List.mem_singleton_self _, member⟩
  | case3 segment rest filled ih =>
      rcases List.mem_append.mp member with inSegment | later
      · exact .inr ⟨segment, List.mem_cons_self, inSegment⟩
      · obtain rfl | inRest := List.mem_cons.mp later
        · exact .inl rfl
        · exact (ih inRest).imp_right fun ⟨other, among, within⟩ => ⟨other, List.mem_cons_of_mem _ among, within⟩

theorem mem_of_mem_splitList {path piece : List Char} {character : Char} (among : piece ∈ Text.splitList '/' path)
    (within : character ∈ piece) : character ∈ path := by
  induction path generalizing piece with
  | nil =>
      obtain rfl := List.mem_singleton.mp among
      exact within
  | cons first rest ih =>
      rw [Text.splitList] at among
      split at among
      · obtain rfl | among := List.mem_cons.mp among
        · cases within
        · exact List.mem_cons_of_mem _ (ih among within)
      · cases pieces : Text.splitList '/' rest with
        | nil => exact absurd pieces (Text.splitList_ne_nil rest)
        | cons next more =>
            rw [pieces] at among ih
            obtain rfl | among := List.mem_cons.mp among
            · obtain rfl | within := List.mem_cons.mp within
              · exact List.mem_cons_self
              · exact List.mem_cons_of_mem _ (ih List.mem_cons_self within)
            · exact List.mem_cons_of_mem _ (ih (List.mem_cons_of_mem _ among) within)

/-- Removing dot segments brings in no characters but slashes. -/
theorem mem_of_mem_removeDots {path : List Char} {character : Char} (member : character ∈ removeDots path) :
    character = '/' ∨ character ∈ path := by
  by_cases dots : HasDots path
  · rw [removeDots_of_hasDots dots] at member
    refine (mem_joinSegments member).imp_right fun ⟨segment, among, within⟩ => ?_
    have among := (mem_of_mem_resolveSegments among).resolve_left List.not_mem_nil
    exact mem_of_mem_splitList among within
  · rw [removeDots_of_not_hasDots dots] at member
    exact .inr member

/-- The number of bytes that segments stand for, with one for the slash after each. -/
def weight (segments : List (List Char)) : Nat := (segments.map fun segment => (unescapeBytes segment).length + 1).sum

theorem weight_cons (segment : List Char) (segments : List (List Char)) :
    weight (segment :: segments) = (unescapeBytes segment).length + 1 + weight segments := List.sum_cons

/-- Joined segments have no slash after the last. -/
theorem length_unescapeBytes_joinSegments {segments : List (List Char)} (filled : segments ≠ []) :
    (unescapeBytes (joinSegments segments)).length + 1 = weight segments := by
  fun_induction joinSegments segments with
  | case1 => exact absurd rfl filled
  | case2 segment => simp [weight]
  | case3 segment rest more ih =>
      rw [unescapeBytes_slash, List.length_append, List.length_cons, weight_cons, ← ih more]
      omega

theorem weight_reverse (segments : List (List Char)) : weight segments.reverse = weight segments := by
  rw [weight, List.map_reverse, List.sum_reverse, weight]

theorem weight_tail_le (segments : List (List Char)) : weight segments.tail ≤ weight segments := by
  cases segments with
  | nil => exact Nat.le_refl _
  | cons segment rest =>
      rw [weight_cons, List.tail_cons]
      omega

/-- Segments that remain weigh no more than those that were there, and less by two where one of dots was dropped. -/
theorem weight_resolveSegments (kept segments : List (List Char)) :
    weight (resolveSegments kept segments) + (if ∃ segment ∈ segments, IsDots segment then 2 else 0) ≤
      weight kept + weight segments := by
  induction kept, segments using resolveSegments.induct with
  | case1 kept =>
      rw [if_neg (by simp), resolveSegments, weight_reverse]
      exact Nat.le_add_right _ _
  | case2 kept rest ih =>
      rw [if_pos ⟨_, List.mem_cons_self, .inl rfl⟩, resolveSegments, if_pos rfl, weight_cons]
      change _ ≤ weight kept + (2 + weight rest)
      omega
  | case3 kept rest different ih =>
      rw [if_pos ⟨_, List.mem_cons_self, .inr rfl⟩, resolveSegments, if_neg different, if_pos rfl, weight_cons]
      change _ ≤ weight kept + (3 + weight rest)
      have dropped : weight (if kept = [] ∨ kept = [[]] then kept else kept.tail) ≤ weight kept := by
        split
        · exact Nat.le_refl _
        · exact weight_tail_le kept
      omega
  | case4 kept segment rest notOne notTwo ih =>
      have plain : ¬IsDots segment := fun dots => dots.elim notOne notTwo
      have same : (∃ other ∈ segment :: rest, IsDots other) ↔ ∃ other ∈ rest, IsDots other := by
        simp [plain]
      simp only [same]
      rw [resolveSegments, if_neg notOne, if_neg notTwo]
      rw [weight_cons] at ih ⊢
      omega

/-- A path stands for fewer bytes once its dot segments are gone. -/
theorem length_unescapeBytes_removeDots {path : List Char} (dots : HasDots path) :
    (unescapeBytes (removeDots path)).length < (unescapeBytes path).length := by
  have filled : Text.splitList '/' path ≠ [] := Text.splitList_ne_nil path
  have before := length_unescapeBytes_joinSegments filled
  rw [joinSegments_splitList] at before
  have lighter := weight_resolveSegments [] (Text.splitList '/' path)
  rw [if_pos (show ∃ segment ∈ _, IsDots segment from dots), ← before] at lighter
  change weight _ + 2 ≤ 0 + _ at lighter
  rw [removeDots_of_hasDots dots]
  by_cases filled : resolveSegments [] (Text.splitList '/' path) = []
  · rw [filled] at lighter ⊢
    change 0 + 2 ≤ _ at lighter
    change 0 < _
    omega
  · have after := length_unescapeBytes_joinSegments filled
    omega

/-- Only a path without dot segments stays. -/
theorem removeDots_eq_self_iff {path : List Char} : removeDots path = path ↔ ¬HasDots path := by
  constructor
  · intro same dots
    have shorter := length_unescapeBytes_removeDots dots
    rw [same] at shorter
    exact Nat.lt_irrefl _ shorter
  · exact removeDots_of_not_hasDots

end Removing

end Url
end PathStore

/-
This file compares well-formed paths with what is written of them: one or more segments, each a slash and one or more
characters of a fixed set. All such paths are well formed, and so is each of them with one line break behind it.
-/
import PathStore.Driver

namespace PathStore.Path

/-- The characters of which segments are made. -/
def segmentCharacters : String := "ABCDEFGHIJKLMNOPQRSTUVWXYZabcdefghijklmnopqrstuvwxyz0123456789._-"

theorem isComponentCharacter_iff (character : Char) :
    isComponentCharacter character = true ↔ character ∈ segmentCharacters.toList := by
  constructor
  · intro component
    have table : ∀ code < 128, isComponentCharacter (Char.ofNat code) = true →
        Char.ofNat code ∈ segmentCharacters.toList := by decide +kernel
    have small : character.toNat < 128 := by
      have order {first second : Char} : first ≤ second ↔ first.toNat ≤ second.toNat := Iff.rfl
      simp only [isComponentCharacter, order, Bool.or_eq_true, decide_eq_true_eq] at component
      rcases component with ((((⟨-, upper⟩ | ⟨-, lower⟩) | ⟨-, digit⟩) | rfl) | rfl) | rfl
      · exact Nat.lt_of_le_of_lt upper (by decide)
      · exact Nat.lt_of_le_of_lt lower (by decide)
      · exact Nat.lt_of_le_of_lt digit (by decide)
      all_goals decide
    have found := table character.toNat small
    rw [Char.ofNat_toNat] at found
    exact found component
  · exact List.all_eq_true.mp (by decide : segmentCharacters.toList.all isComponentCharacter = true) character

/-- Whether a name is one or more characters of the set. -/
def IsSegment (name : List Char) : Prop := name ≠ [] ∧ ∀ character ∈ name, character ∈ segmentCharacters.toList

instance (name : List Char) : Decidable (IsSegment name) :=
  decidable_of_iff (name ≠ [] ∧ name.all isComponentCharacter = true)
    (by simp only [IsSegment, List.all_eq_true, isComponentCharacter_iff])

/-- Whether a path is one or more segments, each behind a slash. -/
def IsSegmented (path : String) : Prop :=
  ∃ names, names ≠ [] ∧ (∀ name ∈ names, IsSegment name) ∧ path.toList = names.flatMap ('/' :: ·)

section Components

variable {filled : Bool} {name : List Char} {names : List (List Char)} {ending characters : List Char}

/-- Characters of a segment begin or go on with a component. -/
theorem componentsFollow_append (plain : ∀ character ∈ name, character ∈ segmentCharacters.toList)
    (begun : filled = true ∨ name ≠ []) (rest : List Char) :
    componentsFollow filled (name ++ rest) = componentsFollow true rest := by
  induction name generalizing filled with
  | nil => rw [begun.resolve_right (absurd rfl), List.nil_append]
  | cons character later ih =>
      obtain ⟨among, laterPlain⟩ := List.forall_mem_cons.mp plain
      have component := (isComponentCharacter_iff character).mpr among
      have noBreak : character ≠ '\n' := by rintro rfl; cases component
      have noSlash : character ≠ '/' := by rintro rfl; cases component
      rw [List.cons_append, componentsFollow, component, Bool.true_and, ih laterPlain (.inl rfl)]
      · exact noBreak
      · exact noSlash

/-- Whole segments and at most one line break may follow a component. -/
theorem componentsFollow_segments (segments : ∀ name ∈ names, IsSegment name) (ends : ending = [] ∨ ending = ['\n']) :
    componentsFollow true (names.flatMap ('/' :: ·) ++ ending) = true := by
  induction names with
  | nil => rcases ends with rfl | rfl <;> rfl
  | cons name later ih =>
      obtain ⟨⟨named, plain⟩, laterSegments⟩ := List.forall_mem_cons.mp segments
      rw [List.flatMap_cons, List.append_assoc, List.cons_append, componentsFollow, Bool.true_and,
        componentsFollow_append plain (.inr named), ih laterSegments]

/-- What follows is the rest of a component, whole segments and at most one line break. -/
theorem exists_of_componentsFollow (follow : componentsFollow filled characters = true) :
    ∃ (name : List Char) (names : List (List Char)) (ending : List Char),
      characters = name ++ names.flatMap ('/' :: ·) ++ ending ∧ (filled = true ∨ name ≠ []) ∧
      (∀ character ∈ name, character ∈ segmentCharacters.toList) ∧ (∀ name ∈ names, IsSegment name) ∧
      (ending = [] ∨ ending = ['\n']) := by
  fun_induction componentsFollow filled characters with
  | case1 filled => exact ⟨[], [], [], rfl, .inl follow, nofun, nofun, .inl rfl⟩
  | case2 filled rest =>
      obtain ⟨begun, last⟩ := Bool.and_eq_true_iff.mp follow
      obtain rfl := List.isEmpty_iff.mp last
      exact ⟨[], [], ['\n'], rfl, .inl begun, nofun, nofun, .inr rfl⟩
  | case3 filled rest ih =>
      obtain ⟨begun, more⟩ := Bool.and_eq_true_iff.mp follow
      obtain ⟨name, names, ending, rfl, named, plain, segments, ends⟩ := ih more
      -- The component behind the slash has not begun, so what is read of it is a whole segment.
      have segment : IsSegment name := ⟨named.resolve_left nofun, plain⟩
      refine ⟨[], name :: names, ending, ?_, .inl begun, nofun, List.forall_mem_cons.mpr ⟨segment, segments⟩, ends⟩
      simp
  | case4 filled character rest noBreak noSlash ih =>
      obtain ⟨component, more⟩ := Bool.and_eq_true_iff.mp follow
      obtain ⟨name, names, ending, rfl, -, plain, segments, ends⟩ := ih more
      have among := (isComponentCharacter_iff character).mp component
      exact ⟨character :: name, names, ending, by simp, .inr (List.cons_ne_nil _ _),
        List.forall_mem_cons.mpr ⟨among, plain⟩, segments, ends⟩

end Components

theorem hasComponents_iff (path : String) :
    hasComponents path.toList = true ↔ IsSegmented path ∨ ∃ front, IsSegmented front ∧ path = front ++ "\n" := by
  constructor
  · intro components
    unfold hasComponents at components
    split at components
    · rename_i rest started
      obtain ⟨name, names, ending, rfl, named, plain, segments, ends⟩ := exists_of_componentsFollow components
      have segment : IsSegment name := ⟨named.resolve_left nofun, plain⟩
      have all : ∀ other ∈ name :: names, IsSegment other := List.forall_mem_cons.mpr ⟨segment, segments⟩
      have whole : path.toList = (name :: names).flatMap ('/' :: ·) ++ ending := by rw [started]; simp
      rcases ends with rfl | rfl
      · exact .inl ⟨name :: names, List.cons_ne_nil _ _, all, by rw [whole, List.append_nil]⟩
      · refine .inr ⟨String.ofList ((name :: names).flatMap ('/' :: ·)), ?_, ?_⟩
        · exact ⟨name :: names, List.cons_ne_nil _ _, all, String.toList_ofList⟩
        · exact String.ext (by rw [whole, String.toList_append, String.toList_ofList]; rfl)
    · cases components
  · have components {names : List (List Char)} {ending : List Char} (filled : names ≠ [])
        (segments : ∀ name ∈ names, IsSegment name) (ends : ending = [] ∨ ending = ['\n']) :
        hasComponents (names.flatMap ('/' :: ·) ++ ending) = true := by
      obtain ⟨name, later, rfl⟩ := List.exists_cons_of_ne_nil filled
      obtain ⟨⟨named, plain⟩, laterSegments⟩ := List.forall_mem_cons.mp segments
      rw [List.flatMap_cons, List.append_assoc, List.cons_append, hasComponents,
        componentsFollow_append plain (.inr named), componentsFollow_segments laterSegments ends]
    rintro (⟨names, filled, segments, whole⟩ | ⟨front, ⟨names, filled, segments, whole⟩, rfl⟩)
    · have found := components filled segments (.inl rfl)
      rwa [List.append_nil, ← whole] at found
    · have found := components filled segments (.inr rfl)
      rw [String.toList_append, whole]
      exact found

/-- Whether a path is one or more segments, or the root where it is allowed. -/
def IsPath (path : String) (allowRoot : Bool) : Prop := IsSegmented path ∨ allowRoot = true ∧ path = "/"

/-- Whether a path is one or more segments with a line break behind them. -/
def IsBroken (path : String) : Prop := ∃ front, IsSegmented front ∧ path = front ++ "\n"

theorem isValid_iff_isPath_or_isBroken (path : String) (allowRoot : Bool) :
    isValid path allowRoot = true ↔ IsPath path allowRoot ∨ IsBroken path := by
  rw [isValid, Bool.or_eq_true, Bool.and_eq_true, decide_eq_true_eq, hasComponents_iff, IsPath, IsBroken]
  exact ⟨by rintro (root | segmented | broken) <;> simp [*], by rintro ((segmented | root) | broken) <;> simp [*]⟩

/-- No line break is part of a path. -/
theorem IsPath.not_isBroken {path : String} {allowRoot : Bool} (isPath : IsPath path allowRoot) : ¬IsBroken path := by
  rintro ⟨front, -, rfl⟩
  have last : '\n' ∈ (front ++ "\n").toList := by simp
  rcases isPath with ⟨names, -, segments, whole⟩ | ⟨-, root⟩
  · rw [whole] at last
    obtain ⟨name, among, inName⟩ := List.mem_flatMap.mp last
    rcases List.mem_cons.mp inName with slash | inside
    · cases slash
    · exact absurd ((segments name among).2 _ inside) (by decide)
  · rw [root] at last
    exact absurd last (by decide)

section Check

variable (path : String) (allowRoot : Bool)

/-- Whether a path is taken for well formed and passes the check. -/
def IsAdmitted : Prop := isValid path allowRoot = true ∧ Driver.checkPath path allowRoot = pure ()

/-- Whether a path is taken for malformed and fails the check as such. -/
def IsRefused : Prop :=
  isValid path allowRoot = false ∧ Driver.checkPath path allowRoot = .fail (.invalidPath path)

theorem isAdmitted_iff : IsAdmitted path allowRoot ↔ isValid path allowRoot = true := by
  refine ⟨And.left, fun valid => ⟨valid, ?_⟩⟩
  rw [Driver.checkPath, if_pos valid]

theorem isRefused_iff : IsRefused path allowRoot ↔ ¬isValid path allowRoot = true := by
  refine ⟨fun refused => Bool.eq_false_iff.mp refused.1, fun invalid => ⟨Bool.eq_false_iff.mpr invalid, ?_⟩⟩
  rw [Driver.checkPath, if_neg invalid]

/-- What is one or more segments, or the root where it is allowed, is admitted, and so are segments with a line break
behind them; all else is refused. So the check tells paths from all other texts except where such a break ends them. -/
theorem check_tells_paths_iff_unbroken :
    (IsPath path allowRoot ∨ IsBroken path → IsAdmitted path allowRoot) ∧
      (¬(IsPath path allowRoot ∨ IsBroken path) → IsRefused path allowRoot) ∧
      ((IsPath path allowRoot → IsAdmitted path allowRoot) ∧ (¬IsPath path allowRoot → IsRefused path allowRoot) ↔
        ¬IsBroken path) := by
  rw [isAdmitted_iff, isRefused_iff, isValid_iff_isPath_or_isBroken]
  refine ⟨id, id, fun told broken => ?_, fun unbroken => ⟨.inl, fun other => not_or.mpr ⟨other, unbroken⟩⟩⟩
  exact told.2 (fun isPath => isPath.not_isBroken broken) (.inr broken)

end Check

/-- A path of two segments is admitted. -/
theorem two_segments_are_admitted :
    IsPath "/docker/v2.0" false ∧ IsAdmitted "/docker/v2.0" false := by
  have isPath : IsPath "/docker/v2.0" false :=
    .inl ⟨["docker".toList, "v2.0".toList], by decide, by decide, by decide⟩
  exact ⟨isPath, (check_tells_paths_iff_unbroken "/docker/v2.0" false).1 (.inl isPath)⟩

/-- A segment with a line break behind it is no path and is admitted all the same. -/
theorem broken_segment_is_admitted : ¬IsPath "/a\n" false ∧ IsAdmitted "/a\n" false := by
  have broken : IsBroken "/a\n" := ⟨"/a", ⟨["a".toList], by decide, by decide, by decide⟩, by decide⟩
  exact ⟨fun isPath => isPath.not_isBroken broken, (isAdmitted_iff _ _).mpr (by decide)⟩

end PathStore.Path

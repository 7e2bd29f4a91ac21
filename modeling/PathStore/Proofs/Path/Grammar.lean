/-
This file takes well-formed paths apart. Behind its first slash a path is a row of components, and a slash inside such a
row leaves a row on either side. A well-formed path is a child of the directory that stands before its last slash.
-/
import PathStore.Path

namespace PathStore.Path

/-- What stands behind the first slash of a well-formed path. -/
def IsRow (names : String) : Prop := componentsFollow false names.toList = true

instance (names : String) : Decidable (IsRow names) := inferInstanceAs (Decidable (_ = true))

/-- A well-formed path is a slash and a row of components. -/
theorem isValid_iff (path : String) : isValid path = true ↔ ∃ names, path = "/" ++ names ∧ IsRow names := by
  simp only [isValid, Bool.false_and, Bool.false_or]
  constructor
  · intro valid
    cases characters : path.toList with
    | nil => simp [characters, hasComponents] at valid
    | cons first rest =>
        rw [characters] at valid
        by_cases slash : first = '/'
        · subst slash
          refine ⟨String.ofList rest, String.ext ?_, ?_⟩
          · simp [characters]
          · rwa [IsRow, String.toList_ofList]
        · simp [hasComponents, slash] at valid
  · rintro ⟨names, rfl, row⟩
    rw [String.toList_append]
    exact row

/-- Where the root is allowed, a path is the root or is well formed without it. -/
theorem isValid_or_root {path : String} : isValid path true = true ↔ path = "/" ∨ isValid path = true := by
  rw [isValid, isValid, Bool.true_and, Bool.false_and, Bool.false_or, Bool.or_eq_true, decide_eq_true_eq]

/-- A slash inside a row of components ends one component and begins the next. -/
theorem componentsFollow_append_slash {filled : Bool} {before after : List Char}
    (follow : componentsFollow filled (before ++ '/' :: after) = true) :
    componentsFollow filled before = true ∧ componentsFollow false after = true := by
  induction before generalizing filled with
  | nil => simpa [componentsFollow] using follow
  | cons character rest ih =>
      by_cases lineBreak : character = '\n'
      · subst lineBreak
        simp [componentsFollow] at follow
      · by_cases slash : character = '/'
        · subst slash
          simp only [List.cons_append, componentsFollow, Bool.and_eq_true] at follow ⊢
          exact ⟨⟨follow.1, (ih follow.2).1⟩, (ih follow.2).2⟩
        · simp only [List.cons_append, componentsFollow, Bool.and_eq_true] at follow ⊢
          exact ⟨⟨follow.1, (ih follow.2).1⟩, (ih follow.2).2⟩

namespace IsRow

theorem ne_empty {names : String} (row : IsRow names) : names ≠ "" := by
  rintro rfl
  exact absurd row (by decide)

/-- The rows on the two sides of a slash. -/
theorem split {before after : String} (row : IsRow (before ++ "/" ++ after)) : IsRow before ∧ IsRow after := by
  rw [IsRow, String.toList_append, String.toList_append, List.append_assoc] at row
  exact componentsFollow_append_slash row

/-- No row begins with a slash. -/
theorem ne_slash_append {names : String} (row : IsRow names) (rest : String) : names ≠ "/" ++ rest := by
  rintro rfl
  have parts : IsRow ("" ++ "/" ++ rest) := by rwa [String.empty_append]
  exact parts.split.1.ne_empty rfl

/-- No row ends with a slash. -/
theorem ne_append_slash {names : String} (row : IsRow names) (rest : String) : names ≠ rest ++ "/" := by
  rintro rfl
  have parts : IsRow (rest ++ "/" ++ "") := by rwa [String.append_empty]
  exact parts.split.2.ne_empty rfl

end IsRow

/-- The row of components that a directory puts before the names of its children. -/
def leading (path : String) : String := if path = "/" then "" else String.ofList (path.toList.drop 1) ++ "/"

/-- The path of a child of a directory. -/
def child (path name : String) : String := if path = "/" then "/" ++ name else path ++ "/" ++ name

theorem leading_of_row {names : String} (row : IsRow names) : leading ("/" ++ names) = names ++ "/" := by
  have notRoot : "/" ++ names ≠ "/" := by
    intro same
    have lengths := congrArg (fun text : String => text.toList.length) same
    simp only [String.toList_append, List.length_append] at lengths
    exact row.ne_empty (String.ext (List.length_eq_zero_iff.mp (by simpa using lengths)))
  rw [leading, if_neg notRoot, String.toList_append]
  exact congrArg (· ++ "/") String.ofList_toList

/-- The path of a child is a slash, the components of its directory and its name. -/
theorem child_eq {path : String} (wellFormed : isValid path true = true) (name : String) :
    child path name = "/" ++ (leading path ++ name) := by
  by_cases isRoot : path = "/"
  · subst isRoot
    rw [child, if_pos rfl, leading, if_pos rfl, String.empty_append]
  · have valid : isValid path = true := (isValid_or_root.mp wellFormed).resolve_left isRoot
    obtain ⟨names, rfl, row⟩ := (isValid_iff path).mp valid
    rw [child, if_neg isRoot, leading_of_row row, String.append_assoc, String.append_assoc, String.append_assoc]

/-- The path of the directory in which a path lies: what stands before its last slash. -/
def parent (path : String) : String :=
  let before := String.ofList ((path.toList.reverse.dropWhile (· ≠ '/')).drop 1).reverse
  if before = "" then "/" else before

theorem parent_append (before : String) {name : String} (free : '/' ∉ name.toList) :
    parent (before ++ "/" ++ name) = if before = "" then "/" else before := by
  have bare : ∀ character ∈ name.toList.reverse, (decide (character ≠ '/')) = true := by
    intro character member
    apply decide_eq_true
    rintro rfl
    exact free (List.mem_reverse.mp member)
  have slash : "/".toList = ['/'] := rfl
  have left : ((before ++ "/" ++ name).toList.reverse.dropWhile (· ≠ '/')).drop 1 = before.toList.reverse := by
    simp only [String.toList_append, List.reverse_append, slash, List.reverse_singleton, List.singleton_append]
    rw [List.dropWhile_append_of_pos bare]
    simp
  rw [parent, left, List.reverse_reverse, String.ofList_toList]

/-- A well-formed path is a child of its directory, which is the root or well formed too. -/
theorem exists_name {path : String} (valid : isValid path = true) :
    isValid (parent path) true = true ∧ ∃ name, '/' ∉ name.toList ∧ path = child (parent path) name := by
  obtain ⟨names, rfl, row⟩ := (isValid_iff path).mp valid
  by_cases inner : '/' ∈ names.toList.reverse
  · obtain ⟨after, before, split, free⟩ := List.eq_append_cons_of_mem inner
    have parts : names = String.ofList before.reverse ++ "/" ++ String.ofList after.reverse := by
      apply String.ext
      have reversed := congrArg List.reverse split
      simpa using reversed
    have bare : '/' ∉ (String.ofList after.reverse).toList := by simpa using free
    rw [parts] at row ⊢
    have front : "/" ++ String.ofList before.reverse ≠ "" := by
      intro empty
      exact absurd (String.append_eq_empty_iff.mp empty).1 (by decide)
    have above : parent ("/" ++ (String.ofList before.reverse ++ "/" ++ String.ofList after.reverse)) =
        "/" ++ String.ofList before.reverse := by
      rw [← String.append_assoc, ← String.append_assoc, parent_append _ bare, if_neg front]
    have isPath : isValid ("/" ++ String.ofList before.reverse) = true := (isValid_iff _).mpr ⟨_, rfl, row.split.1⟩
    have below : "/" ++ String.ofList before.reverse ≠ "/" := by
      intro same
      exact row.split.1.ne_empty (by simpa using same)
    rw [above]
    refine ⟨isValid_or_root.mpr (.inr isPath), String.ofList after.reverse, bare, ?_⟩
    rw [child, if_neg below, String.append_assoc, String.append_assoc, String.append_assoc]
  · have free : '/' ∉ names.toList := fun member => inner (List.mem_reverse.mpr member)
    have above : parent ("/" ++ names) = "/" := by
      have := parent_append "" free
      rwa [String.empty_append, if_pos rfl] at this
    rw [above]
    exact ⟨rfl, names, free, by rw [child, if_pos rfl]⟩

end PathStore.Path

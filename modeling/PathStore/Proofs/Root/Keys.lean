/-
This file shows where the keys of paths lie. The key of a well-formed path is the stem of the root with the components
of the path behind it, and the path comes back from the key and from the stem of its children.
-/
import PathStore.Proofs.Path.Grammar
import PathStore.Proofs.Root.Stem

namespace PathStore.Root

/-- A text that no slash begins keeps its start. -/
theorem dropLeadingSlashes_eq_self {text : String} (bare : ∀ rest, text ≠ "/" ++ rest) :
    dropLeadingSlashes text = text := by
  have kept : text.toList.dropWhile isSlash = text.toList := by
    cases characters : text.toList with
    | nil => rfl
    | cons first rest =>
        have notSlash : first ≠ '/' := by
          rintro rfl
          exact bare (String.ofList rest) (String.ext (by simp [characters]))
        simp [isSlash, notSlash]
  rw [dropLeadingSlashes, kept, String.ofList_toList]

theorem dropLeadingSlashes_slash (text : String) : dropLeadingSlashes ("/" ++ text) = dropLeadingSlashes text := by
  simp [dropLeadingSlashes, isSlash]

/-- Slashes are dropped from the second of two texts only if the first holds nothing else. -/
theorem dropLeadingSlashes_append (first second : String) :
    dropLeadingSlashes (first ++ second) =
      if dropLeadingSlashes first = "" then dropLeadingSlashes second else dropLeadingSlashes first ++ second := by
  have empty : dropLeadingSlashes first = "" ↔ (first.toList.dropWhile isSlash).isEmpty = true := by
    rw [dropLeadingSlashes, String.ofList_eq_empty_iff, List.isEmpty_iff]
  simp only [empty]
  rw [dropLeadingSlashes, String.toList_append, List.dropWhile_append]
  split
  · rfl
  · rw [String.ofList_append, String.ofList_toList]
    rfl

/-- A text that no slash ends keeps its end. -/
theorem dropTrailingSlashes_eq_self {text : String} (bare : ∀ rest, text ≠ rest ++ "/") :
    dropTrailingSlashes text = text := by
  have kept : text.toList.reverse.dropWhile isSlash = text.toList.reverse := by
    cases characters : text.toList.reverse with
    | nil => rfl
    | cons last before =>
        have notSlash : last ≠ '/' := by
          rintro rfl
          have forward : text.toList = before.reverse ++ ['/'] := by
            rw [← List.reverse_reverse text.toList, characters, List.reverse_cons]
          exact bare (String.ofList before.reverse) (String.ext (by simp [forward]))
        simp [isSlash, notSlash]
  rw [dropTrailingSlashes, Text.dropEndWhile, kept, List.reverse_reverse, String.ofList_toList]

theorem dropTrailingSlashes_slash (text : String) : dropTrailingSlashes (text ++ "/") = dropTrailingSlashes text := by
  simp [dropTrailingSlashes, Text.dropEndWhile, isSlash]

/-- A text keeps its start in front of one that is not empty and that no slash ends. -/
theorem dropTrailingSlashes_append {last : String} (bare : ∀ rest, last ≠ rest ++ "/") (filled : last ≠ "")
    (first : String) : dropTrailingSlashes (first ++ last) = first ++ last := by
  apply dropTrailingSlashes_eq_self
  intro rest same
  have characters := congrArg (fun text : String => text.toList.reverse) same
  simp only [String.toList_append, List.reverse_append] at characters
  cases reversed : last.toList.reverse with
  | nil => exact filled (String.ext (List.reverse_eq_nil_iff.mp reversed))
  | cons final before =>
      rw [reversed] at characters
      change final :: (before ++ first.toList.reverse) = '/' :: rest.toList.reverse at characters
      obtain ⟨rfl, -⟩ := List.cons.inj characters
      have forward : last.toList = before.reverse ++ ['/'] := by
        rw [← List.reverse_reverse last.toList, reversed, List.reverse_cons]
      exact bare (String.ofList before.reverse) (String.ext (by simp [forward]))

/-- What the keys below the root begin with. -/
def stem (root : Root) : String := childStem root.baseKey

theorem baseKey_eq (root : Root) : root.baseKey = dropLeadingSlashes root.directory := by
  rw [baseKey, keyFor, if_neg (by decide), String.append_empty]

theorem keyFor_slash (root : Root) : root.keyFor "/" = root.baseKey := by
  rw [baseKey_eq, keyFor, if_pos rfl, String.append_empty]

/-- What follows the slash of a path, if it is neither empty nor begun by a slash, follows the stem of the root in the
key. -/
theorem keyFor_slash_append (root : Root) {rest : String} (filled : rest ≠ "")
    (started : ∀ later, rest ≠ "/" ++ later) : root.keyFor ("/" ++ rest) = root.stem ++ rest := by
  have notRoot : "/" ++ rest ≠ "/" := by
    intro same
    exact filled (by simpa using same)
  have bare : dropLeadingSlashes rest = rest := dropLeadingSlashes_eq_self started
  rw [keyFor, if_neg notRoot, dropLeadingSlashes_append, ← baseKey_eq, dropLeadingSlashes_slash, bare, stem, childStem]
  split
  · rw [String.empty_append]
  · rw [String.append_assoc]

/-- The key of a path is the stem of the root with the components of the path behind it. -/
theorem keyFor_row (root : Root) {names : String} (row : Path.IsRow names) :
    root.keyFor ("/" ++ names) = root.stem ++ names :=
  root.keyFor_slash_append row.ne_empty row.ne_slash_append

/-- The keys of the children of a path begin with the stem of the root and the components of the path. -/
theorem childStem_keyFor (root : Root) {path : String} (wellFormed : Path.isValid path true = true) :
    childStem (root.keyFor path) = root.stem ++ Path.leading path := by
  rcases Path.isValid_or_root.mp wellFormed with rfl | valid
  · rw [keyFor_slash, Path.leading, if_pos rfl, String.append_empty]
    rfl
  · obtain ⟨names, rfl, row⟩ := (Path.isValid_iff path).mp valid
    have filled : root.stem ++ names ≠ "" := by
      intro empty
      exact row.ne_empty (String.append_eq_empty_iff.mp empty).2
    rw [root.keyFor_row row, childStem, if_neg filled, Path.leading_of_row row, String.append_assoc]

/-- The path of a key below the root that is not yet trimmed. -/
theorem pathFor_of_trimmed (root : Root) {key names : String} (started : ∀ rest, names ≠ "/" ++ rest)
    (trimmed : dropTrailingSlashes key = root.stem ++ names) : root.pathFor key = "/" ++ names := by
  have bare : dropLeadingSlashes names = names := dropLeadingSlashes_eq_self started
  simp only [pathFor, below, trimmed, stem, childStem]
  by_cases atTop : root.baseKey = ""
  · simp [atTop, bare]
  · have behind :
        String.ofList ((root.baseKey ++ "/" ++ names).toList.drop root.baseKey.toList.length) = "/" ++ names := by
      rw [String.append_assoc, String.toList_append, List.drop_left, String.ofList_toList]
    have begins : startsWith (root.baseKey ++ "/" ++ names) root.baseKey = true := by
      rw [String.append_assoc]
      exact startsWith_append _ _
    simp only [atTop, if_false, ne_eq, not_false_eq_true, decide_true, begins, Bool.and_self, if_true, behind,
      dropLeadingSlashes_slash, bare]

/-- The path of a key comes back from the key. -/
theorem pathFor_row (root : Root) {names : String} (row : Path.IsRow names) :
    root.pathFor (root.stem ++ names) = "/" ++ names :=
  root.pathFor_of_trimmed row.ne_slash_append (dropTrailingSlashes_append row.ne_append_slash row.ne_empty _)

/-- The path of a key comes back from the stem of its children. -/
theorem pathFor_row_slash (root : Root) {names : String} (row : Path.IsRow names) :
    root.pathFor (root.stem ++ names ++ "/") = "/" ++ names := by
  apply root.pathFor_of_trimmed row.ne_slash_append
  rw [dropTrailingSlashes_slash, dropTrailingSlashes_append row.ne_append_slash row.ne_empty]

/-- No slash begins what leads to a child of a path. -/
theorem leading_append_ne {path : String} (wellFormed : Path.isValid path true = true) {name : String}
    (free : '/' ∉ name.toList) (rest : String) : Path.leading path ++ name ≠ "/" ++ rest := by
  intro same
  rcases Path.isValid_or_root.mp wellFormed with rfl | valid
  · rw [Path.leading, if_pos rfl, String.empty_append] at same
    exact free (by simp [same])
  · obtain ⟨names, rfl, row⟩ := (Path.isValid_iff path).mp valid
    have characters := congrArg String.toList same
    rw [Path.leading_of_row row, String.append_assoc] at characters
    simp only [String.toList_append] at characters
    cases shape : names.toList with
    | nil => exact row.ne_empty (String.ext shape)
    | cons first later =>
        rw [shape] at characters
        change first :: _ = '/' :: _ at characters
        obtain rfl : first = '/' := (List.cons.inj characters).1
        exact row.ne_slash_append (String.ofList later) (String.ext (by simp [shape]))

/-- The key of a child goes on with its name, for any name without a slash. -/
theorem keyFor_named_child (root : Root) {path : String} (wellFormed : Path.isValid path true = true) {name : String}
    (filled : name ≠ "") (free : '/' ∉ name.toList) :
    root.keyFor (Path.child path name) = childStem (root.keyFor path) ++ name := by
  rw [Path.child_eq wellFormed, root.keyFor_slash_append _ (leading_append_ne wellFormed free),
    root.childStem_keyFor wellFormed, String.append_assoc]
  exact fun empty => filled (String.append_eq_empty_iff.mp empty).2

/-- The path of a child comes back from its key and from the stem of its own children, for any name without a slash. -/
theorem pathFor_child (root : Root) {path : String} (wellFormed : Path.isValid path true = true) {name : String}
    (filled : name ≠ "") (free : '/' ∉ name.toList) :
    root.pathFor (childStem (root.keyFor path) ++ name) = Path.child path name ∧
      root.pathFor (childStem (root.keyFor path) ++ name ++ "/") = Path.child path name := by
  have ended : ∀ rest, name ≠ rest ++ "/" := by
    rintro rest rfl
    exact free (by simp)
  have trimmed := dropTrailingSlashes_append ended filled (root.stem ++ Path.leading path)
  rw [String.append_assoc] at trimmed
  rw [root.childStem_keyFor wellFormed, Path.child_eq wellFormed, String.append_assoc]
  refine ⟨root.pathFor_of_trimmed (leading_append_ne wellFormed free) trimmed,
    root.pathFor_of_trimmed (leading_append_ne wellFormed free) ?_⟩
  rw [dropTrailingSlashes_slash, trimmed]

/-- Two well-formed paths with one key are one path. -/
theorem keyFor_inj (root : Root) {first second : String} (firstValid : Path.isValid first = true)
    (secondValid : Path.isValid second = true) : root.keyFor first = root.keyFor second ↔ first = second := by
  obtain ⟨names, rfl, row⟩ := (Path.isValid_iff first).mp firstValid
  obtain ⟨others, rfl, otherRow⟩ := (Path.isValid_iff second).mp secondValid
  constructor
  · intro same
    rw [root.keyFor_row row, root.keyFor_row otherRow] at same
    rw [← root.pathFor_row row, same, root.pathFor_row otherRow]
  · exact congrArg root.keyFor

/-- No well-formed path has the empty key. -/
theorem keyFor_ne_empty (root : Root) {path : String} (valid : Path.isValid path = true) : root.keyFor path ≠ "" := by
  obtain ⟨names, rfl, row⟩ := (Path.isValid_iff path).mp valid
  rw [root.keyFor_row row]
  intro empty
  exact row.ne_empty (String.append_eq_empty_iff.mp empty).2

end PathStore.Root

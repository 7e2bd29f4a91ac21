/-
This file shows that keys lead back to paths below every root directory, however many slashes stand around or inside it.
A path comes back from its key and from the stem of its children, and slashes around the directory make no difference.
-/
import PathStore.Proofs.Root.Keys

namespace PathStore.Root

/-- A text without the slashes at either end. -/
def trimSlashes (text : String) : String := dropLeadingSlashes (dropTrailingSlashes text)

theorem baseKey_ofDirectory (directory : String) : (ofDirectory directory).baseKey = trimSlashes directory :=
  baseKey_eq _

section Ends

theorem dropLeadingSlashes_ne (text rest : String) : dropLeadingSlashes text ≠ "/" ++ rest := by
  intro same
  have stops := List.head?_dropWhile_not isSlash text.toList
  have characters : text.toList.dropWhile isSlash = '/' :: rest.toList := by
    simpa [dropLeadingSlashes] using congrArg String.toList same
  simp [characters, isSlash] at stops

/-- Only the start of a text is dropped. -/
theorem exists_append_dropLeadingSlashes (text : String) : ∃ slashes, text = slashes ++ dropLeadingSlashes text := by
  refine ⟨String.ofList (text.toList.takeWhile isSlash), String.ext ?_⟩
  simp [dropLeadingSlashes, List.takeWhile_append_dropWhile]

theorem dropTrailingSlashes_ne (text rest : String) : dropTrailingSlashes text ≠ rest ++ "/" := by
  intro same
  have stops := List.head?_dropWhile_not isSlash text.toList.reverse
  have characters : text.toList.reverse.dropWhile isSlash = '/' :: rest.toList.reverse := by
    have reversed := congrArg (fun text : String => text.toList.reverse) same
    simpa [dropTrailingSlashes, Text.dropEndWhile] using reversed
  simp [characters, isSlash] at stops

/-- No slash ends the key of a configured directory. -/
theorem baseKey_ne (directory rest : String) : (ofDirectory directory).baseKey ≠ rest ++ "/" := by
  intro same
  rw [baseKey_ofDirectory, trimSlashes] at same
  obtain ⟨slashes, whole⟩ := exists_append_dropLeadingSlashes (dropTrailingSlashes directory)
  rw [same, ← String.append_assoc] at whole
  exact dropTrailingSlashes_ne directory _ whole

end Ends

/-- What is the key of the directory but for slashes at its end leads back to the root. -/
theorem pathFor_of_trimmed_baseKey (root : Root) {key : String} (trimmed : dropTrailingSlashes key = root.baseKey) :
    root.pathFor key = "/" := by
  simp only [pathFor, below, trimmed]
  by_cases atTop : root.baseKey = ""
  · simp [atTop, dropLeadingSlashes]
  · have begins : startsWith root.baseKey root.baseKey = true := by
      have whole := startsWith_append root.baseKey ""
      rwa [String.append_empty] at whole
    simp [atTop, begins, dropLeadingSlashes]

/-- The root comes back from the key of the directory and from the stem of what lies below it. -/
theorem pathFor_baseKey (directory : String) :
    (ofDirectory directory).pathFor (ofDirectory directory).baseKey = "/" ∧
      (ofDirectory directory).pathFor (childStem (ofDirectory directory).baseKey) = "/" := by
  have kept := dropTrailingSlashes_eq_self (baseKey_ne directory)
  refine ⟨pathFor_of_trimmed_baseKey _ kept, pathFor_of_trimmed_baseKey _ ?_⟩
  rw [childStem]
  split
  · rename_i atTop
    rw [atTop]
    rfl
  · rw [dropTrailingSlashes_slash, kept]

/-- A path comes back from its key and from the stem of its children. -/
theorem pathFor_keyFor (directory : String) {path : String} (wellFormed : Path.isValid path true = true) :
    (ofDirectory directory).pathFor ((ofDirectory directory).keyFor path) = path ∧
      (ofDirectory directory).pathFor (childStem ((ofDirectory directory).keyFor path)) = path := by
  rcases Path.isValid_or_root.mp wellFormed with rfl | valid
  · rw [keyFor_slash]
    exact pathFor_baseKey directory
  · obtain ⟨names, rfl, row⟩ := (Path.isValid_iff path).mp valid
    refine ⟨?_, ?_⟩
    · rw [keyFor_row _ row, pathFor_row _ row]
    · rw [childStem, if_neg (keyFor_ne_empty _ valid), keyFor_row _ row, pathFor_row_slash _ row]

/-- Roots with one key of the directory have the same key for every path. -/
theorem keyFor_congr {first second : Root} (same : first.baseKey = second.baseKey) (path : String) :
    first.keyFor path = second.keyFor path := by
  rw [baseKey_eq, baseKey_eq] at same
  rw [keyFor, keyFor, dropLeadingSlashes_append, dropLeadingSlashes_append, same]

/-- Roots with one key of the directory have the same path for every key. -/
theorem pathFor_congr {first second : Root} (same : first.baseKey = second.baseKey) (key : String) :
    first.pathFor key = second.pathFor key := by
  simp only [pathFor, below, same]

/-- Below every directory a path comes back from its key and from the stem of its children, keys begin with no slash,
and different paths have different keys. Directories that differ only in the slashes around them map paths and keys
alike. -/
theorem keys_lead_back_to_paths (directory : String) :
    let root := ofDirectory directory
    (∀ path, Path.isValid path true = true →
      root.pathFor (root.keyFor path) = path ∧ root.pathFor (childStem (root.keyFor path)) = path ∧
        startsWith (root.keyFor path) "/" = false) ∧
      (∀ first second, Path.isValid first true = true → Path.isValid second true = true →
        root.keyFor first = root.keyFor second → first = second) ∧
      ∀ other, trimSlashes other = trimSlashes directory →
        (∀ path, (ofDirectory other).keyFor path = root.keyFor path) ∧
          ∀ key, (ofDirectory other).pathFor key = root.pathFor key := by
  intro root
  refine ⟨fun path wellFormed => ?_, fun first second firstFormed secondFormed same => ?_, fun other trimmed => ?_⟩
  · obtain ⟨fromKey, fromStem⟩ := pathFor_keyFor directory wellFormed
    refine ⟨fromKey, fromStem, Bool.eq_false_iff.mpr fun begins => ?_⟩
    obtain ⟨rest, slashed⟩ := startsWith_iff.mp begins
    exact dropLeadingSlashes_ne _ rest slashed
  · rw [← (pathFor_keyFor directory firstFormed).1, same, (pathFor_keyFor directory secondFormed).1]
  · have same : (ofDirectory other).baseKey = root.baseKey := by
      rw [baseKey_ofDirectory, baseKey_ofDirectory, trimmed]
    exact ⟨keyFor_congr same, pathFor_congr same⟩

/-- A path that repeats the directory comes back, and its key is the same without the slashes around the directory. -/
theorem repeated_directory_comes_back :
    let root := ofDirectory "//a//b/"
    root.pathFor (root.keyFor "/a/b") = "/a/b" ∧ root.pathFor (childStem (root.keyFor "/a/b")) = "/a/b" ∧
      (ofDirectory "a//b").keyFor "/a/b" = root.keyFor "/a/b" := by
  intro root
  obtain ⟨back, -, alike⟩ := keys_lead_back_to_paths "//a//b/"
  obtain ⟨fromKey, fromStem, -⟩ := back "/a/b" (by decide)
  exact ⟨fromKey, fromStem, (alike "a//b" (by decide)).1 "/a/b"⟩

end PathStore.Root

/-
This file tells what a URL of a host is taken apart into as a reference. The signing of requests reads it so, while the
requests themselves go out by the other reading, as an address.
-/
import PathStore.Proofs.Url.Below

namespace PathStore.Url.Reference

/-- What is printable throughout and begins with no space counts as it stands. -/
theorem significant_eq_self {first : Char} {rest : List Char} (filled : ¬first ≤ ' ')
    (printable : ∀ character ∈ first :: rest, 0x20 ≤ character.toNat) :
    significant (first :: rest) = first :: rest := by
  rw [significant, List.dropWhile_cons_of_neg (by simpa using filled)]
  refine List.filter_eq_self.mpr fun character member => ?_
  have bound := printable character member
  have controls : ∀ control ∈ "\t\r\n".toList, control.toNat < 0x20 := by simp
  have apart : character ∉ "\t\r\n".toList := fun control => Nat.not_le.mpr (controls character control) bound
  simpa using apart

/-- A path without semicolons has no parameters. -/
theorem splitParameters_of_bare {path : List Char} (bare : ';' ∉ path) : splitParameters path = (path, []) := by
  let last := (path.reverse.takeWhile (· != '/')).reverse
  obtain ⟨above, whole⟩ : ∃ above, path = above ++ last := by
    refine ⟨(path.reverse.dropWhile (· != '/')).reverse, ?_⟩
    rw [← List.reverse_append, List.takeWhile_append_dropWhile, List.reverse_reverse]
  have lastBare : ∀ character ∈ last, decide (character = ';') = false := fun character member =>
    decide_eq_false fun same => bare (whole ▸ List.mem_append_right above (same ▸ member))
  have split : splitAt ';' last = (last, []) := by
    rw [splitAt, splitBefore_of_bare lastBare]
    rfl
  have above : path.take (path.length - last.length) = above := by
    rw [whole, List.length_append, Nat.add_sub_cancel, List.take_left]
  show (path.take (path.length - last.length) ++ (splitAt ';' last).1, (splitAt ';' last).2) = (path, [])
  rw [above, split, ← whole]

section Read

variable {name path : List Char} {query : Option String}

theorem not_mem_of_isUnreserved (plain : ∀ character ∈ name, isUnreserved character = true) {mark : Char}
    (reserved : isUnreserved mark = false) : mark ∉ name := by
  intro member
  rw [plain mark member] at reserved
  cases reserved

/-- A name of unreserved characters needs no brackets and is equivalent to itself alone. -/
theorem check_of_isUnreserved (plain : ∀ character ∈ name, isUnreserved character = true) :
    checkBrackets name = .ok () ∧ (name.any fun character => equivalentsOfMarks.contains character.toNat) = false := by
  have without (mark : Char) (reserved : isUnreserved mark = false) : name.contains mark = false := by
    rw [← Bool.not_eq_true, List.contains_iff_mem]
    exact not_mem_of_isUnreserved plain reserved
  constructor
  · rw [checkBrackets, without '[' rfl, without ']' rfl]
    rfl
  · refine List.any_eq_false.mpr fun character member => ?_
    have kept : isKept pathSafe character = true := by rw [isKept, plain character member, Bool.true_or]
    have bounds := bounds_of_isKept kept
    have marks : ∀ mark ∈ equivalentsOfMarks, 0x7F < mark := by decide
    intro equivalent
    have large := marks _ (List.contains_iff_mem.mp equivalent)
    omega

/-- The path and the query of a URL stand before and after its question mark. -/
theorem splitAt_marked (pathKept : ∀ character ∈ path, isKept pathSafe character = true)
    (queryKept : ∀ written ∈ query, ∀ character ∈ written.toList, isKept querySafe character = true) :
    splitAt '#' (path ++ marked (query.map String.toList)) = (path ++ marked (query.map String.toList), []) ∧
      splitAt '?' (path ++ marked (query.map String.toList)) = (path, (query.map String.toList).getD []) := by
  have noMark {mark : Char} (escaped : isKept pathSafe mark = false) :
      ∀ character ∈ path, decide (character = mark) = false := fun character member =>
    decide_eq_false fun same => not_mem_of_isKept pathKept escaped (same ▸ member)
  constructor
  · have noFragment : ∀ character ∈ marked (query.map String.toList), decide (character = '#') = false :=
      fun character member => decide_eq_false fun same =>
        not_mem_of_isKept (isKept_of_mem_marked queryKept) (by decide) (same ▸ member)
    rw [splitAt, splitBefore_of_bare (List.forall_mem_append.mpr ⟨noMark (by decide), noFragment⟩)]
    rfl
  · cases query with
    | none =>
        rw [splitAt, Option.map_none, marked, List.append_nil, splitBefore_of_bare (noMark (by decide))]
        rfl
    | some written =>
        rw [splitAt, Option.map_some, marked, splitBefore_append path (noMark (by decide)) rfl]
        rfl

/-- A query that is not empty stands behind its mark. -/
theorem led_of_ne_empty (filled : query ≠ some "") :
    led '?' ((query.map String.toList).getD []) = marked (query.map String.toList) := by
  cases query with
  | none => rfl
  | some written =>
      have notEmpty : written.toList.isEmpty = false := by
        rw [List.isEmpty_eq_false_iff]
        exact fun empty => filled (congrArg some (String.toList_eq_nil_iff.mp empty))
      rw [Option.map_some, Option.getD_some, led, notEmpty]
      rfl

/-- A URL of a host is read as the host, the path and the query that make it. -/
theorem read_http (plain : ∀ character ∈ name, isUnreserved character = true) (rooted : path.head? = some '/')
    (pathKept : ∀ character ∈ path, isKept pathSafe character = true) (noParameters : ';' ∉ path)
    (queryKept : ∀ written ∈ query, ∀ character ∈ written.toList, isKept querySafe character = true) :
    read [] ("http://".toList ++ (name ++ (path ++ marked (query.map String.toList)))) =
      .ok { scheme := "http".toList, authority := name, path, query := (query.map String.toList).getD [] } := by
  obtain ⟨below, rfl⟩ := List.head?_eq_some_iff.mp rooted
  obtain ⟨brackets, equivalents⟩ := check_of_isUnreserved plain
  obtain ⟨noFragment, queried⟩ := splitAt_marked pathKept queryKept
  have queryKept := isKept_of_mem_marked queryKept
  generalize marked (query.map String.toList) = behind at noFragment queried queryKept ⊢
  have printable : ∀ character ∈ "http://".toList ++ (name ++ ('/' :: below ++ behind)),
      0x20 ≤ character.toNat := by
    intro character member
    simp only [List.mem_append] at member
    obtain inScheme | inName | inPath | inQuery := member
    · have scheme : ∀ character ∈ "http://".toList, 0x20 ≤ character.toNat := by simp
      exact scheme character inScheme
    · have kept : isKept pathSafe character = true := by rw [isKept, plain character inName, Bool.true_or]
      exact (bounds_of_isKept kept).1
    · exact (bounds_of_isKept (pathKept character inPath)).1
    · exact (bounds_of_isKept (queryKept character inQuery)).1
  have scheme (rest : List Char) : takeScheme [] ("http:".toList ++ rest) = ("http".toList, rest) := rfl
  have authority : takeAuthority ('/' :: '/' :: (name ++ ('/' :: below ++ behind))) =
      (name, '/' :: below ++ behind) := by
    have bare : ∀ character ∈ name, "/?#".toList.contains character = false := by
      intro character member
      rw [← Bool.not_eq_true, List.contains_iff_mem]
      intro mark
      have reserved : "/?#".toList.all (!isUnreserved ·) = true := by decide
      have unkept : isUnreserved character = false := by simpa using List.all_eq_true.mp reserved character mark
      exact not_mem_of_isUnreserved plain unkept member
    exact splitBefore_append name bare rfl _
  have spelled : "http://".toList ++ (name ++ ('/' :: below ++ behind)) =
      "http:".toList ++ '/' :: '/' :: (name ++ ('/' :: below ++ behind)) := rfl
  have counts : significant ("http://".toList ++ (name ++ ('/' :: below ++ behind))) =
      "http://".toList ++ (name ++ ('/' :: below ++ behind)) := significant_eq_self (by decide) printable
  have parameters : isOneOf parameterSchemes "http".toList = true := by decide
  rw [read, counts, spelled, scheme]
  simp only [authority, brackets, noFragment, queried, equivalents, bind, Except.bind, parameters,
    splitParameters_of_bare noParameters]
  rfl

end Read
end PathStore.Url.Reference

/-
This file relates the order of texts to the stems with which they begin. Texts with a common stem lie together, and two
texts that go on through a first slash are ordered as what they hold through it.
-/
import PathStore.Root

namespace PathStore

/-- A text between two lists that begin with a stem begins with it too. -/
theorem prefix_of_between (stem : List Char) {left middle right : List Char} (above : stem ++ left < middle)
    (below : middle < stem ++ right) : stem <+: middle := by
  induction stem generalizing middle with
  | nil => exact List.nil_prefix
  | cons first rest ih =>
      cases middle with
      | nil => exact absurd above (List.not_lt_nil _)
      | cons character later =>
          rw [List.cons_append, List.cons_lt_cons_iff] at above below
          rcases above with higher | ⟨rfl, aboveRest⟩
          · rcases below with lower | ⟨same, _⟩
            · exact absurd (Char.lt_trans higher lower) (Char.lt_irrefl _)
            · exact absurd (same ▸ higher) (Char.lt_irrefl _)
          · rcases below with lower | ⟨_, belowRest⟩
            · exact absurd lower (Char.lt_irrefl _)
            · exact List.cons_prefix_cons.mpr ⟨rfl, ih aboveRest belowRest⟩

theorem append_lt_append_iff (stem : List Char) {first second : List Char} :
    stem ++ first < stem ++ second ↔ first < second := by
  induction stem with
  | nil => rfl
  | cons character rest ih => rw [List.cons_append, List.cons_append, List.cons_lt_cons_self, ih]

/-- What two ordered texts hold through their first slash is equal or in the same order. -/
theorem throughSlash_lt {first second later rest : List Char} (firstFree : '/' ∉ first) (secondFree : '/' ∉ second)
    (ordered : first ++ '/' :: later < second ++ '/' :: rest) :
    first = second ∨ first ++ ['/'] < second ++ ['/'] := by
  induction first generalizing second with
  | nil =>
      cases second with
      | nil => exact .inl rfl
      | cons head tail =>
          rcases List.cons_lt_cons_iff.mp ordered with below | ⟨same, _⟩
          · exact .inr (List.cons_lt_cons_iff.mpr (.inl below))
          · exact absurd (same ▸ List.mem_cons_self) secondFree
  | cons character tail ih =>
      cases second with
      | nil =>
          rcases List.cons_lt_cons_iff.mp ordered with below | ⟨same, _⟩
          · exact .inr (List.cons_lt_cons_iff.mpr (.inl below))
          · exact absurd (same ▸ List.mem_cons_self) firstFree
      | cons head rest =>
          rcases List.cons_lt_cons_iff.mp ordered with below | ⟨same, tailOrdered⟩
          · exact .inr (List.cons_lt_cons_iff.mpr (.inl below))
          · subst same
            rcases ih (List.not_mem_of_not_mem_cons firstFree) (List.not_mem_of_not_mem_cons secondFree) tailOrdered
              with equal | less
            · exact .inl (equal ▸ rfl)
            · exact .inr (List.cons_lt_cons_iff.mpr (.inr ⟨rfl, less⟩))

/-- A text that comes after another is not empty. -/
theorem ne_empty_of_lt {first second : String} (below : first < second) : second ≠ "" := by
  rintro rfl
  exact List.not_lt_nil _ (String.lt_iff.mp below)

theorem empty_lt_of_ne {text : String} (filled : text ≠ "") : "" < text := by
  rcases characters : text.toList with _ | ⟨first, rest⟩
  · exact absurd (String.ext characters) filled
  · rw [String.lt_iff, characters]
    exact List.nil_lt_cons first rest

namespace Root

/-- A text begins with a stem just if it is the stem with something behind it. -/
theorem startsWith_iff {text stem : String} : startsWith text stem = true ↔ ∃ rest, text = stem ++ rest := by
  rw [startsWith, List.isPrefixOf_iff_prefix]
  constructor
  · rintro ⟨rest, joined⟩
    exact ⟨String.ofList rest, String.ext (by rw [String.toList_append, String.toList_ofList, joined])⟩
  · rintro ⟨rest, rfl⟩
    exact ⟨rest.toList, String.toList_append.symm⟩

@[simp] theorem startsWith_append (stem rest : String) : startsWith (stem ++ rest) stem = true :=
  startsWith_iff.mpr ⟨rest, rfl⟩

/-- A text that begins with a longer stem begins with the shorter one. -/
theorem startsWith_of_append {text stem rest : String} (begins : startsWith text (stem ++ rest) = true) :
    startsWith text stem = true := by
  obtain ⟨later, rfl⟩ := startsWith_iff.mp begins
  rw [String.append_assoc]
  exact startsWith_append _ _

theorem stem_append_lt_iff (stem first second : String) : stem ++ first < stem ++ second ↔ first < second := by
  rw [String.lt_iff, String.lt_iff, String.toList_append, String.toList_append, append_lt_append_iff]

/-- What comes before a stem comes before all that begins with it. -/
theorem lt_of_startsWith {text stem other : String} (below : other < stem) (begins : startsWith text stem = true) :
    other < text := by
  obtain ⟨rest, rfl⟩ := startsWith_iff.mp begins
  by_cases alone : rest = ""
  · rwa [alone, String.append_empty]
  · have longer := (stem_append_lt_iff stem "" rest).mpr (empty_lt_of_ne alone)
    rw [String.append_empty] at longer
    exact String.lt_trans below longer

/-- Texts with a common stem lie together in the order of texts. -/
theorem startsWith_of_between {stem left middle right : String} (leftBegins : startsWith left stem = true)
    (rightBegins : startsWith right stem = true) (above : left < middle) (below : middle < right) :
    startsWith middle stem = true := by
  obtain ⟨leftRest, rfl⟩ := startsWith_iff.mp leftBegins
  obtain ⟨rightRest, rfl⟩ := startsWith_iff.mp rightBegins
  rw [String.lt_iff, String.toList_append] at above below
  exact List.isPrefixOf_iff_prefix.mpr (prefix_of_between stem.toList above below)

/-- A key is within another that is not empty just if it is the other or begins with the other and a slash. -/
theorem isWithin_iff {key : String} (filled : key ≠ "") (other : String) :
    isWithin key other = true ↔ other = key ∨ startsWith other (key ++ "/") = true := by
  rw [isWithin, childStem, if_neg filled, Bool.or_eq_true, decide_eq_true_eq]

/-- What is within a key begins with it. -/
theorem startsWith_of_isWithin {key : String} (filled : key ≠ "") {other : String}
    (within : isWithin key other = true) : startsWith other key = true := by
  rcases (isWithin_iff filled other).mp within with rfl | below
  · exact startsWith_iff.mpr ⟨"", String.append_empty.symm⟩
  · exact startsWith_of_append below

end Root
end PathStore

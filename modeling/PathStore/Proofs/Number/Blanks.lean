/-
This file shows that blanks spell no number. A blank is no digit of any script and no mark of a numeral, so a text of
blanks is refused wherever an integer or a floating-point number is read.
-/
import Mathlib.Data.List.TakeWhile
import PathStore.Number.Numeral

namespace PathStore

namespace Text

section Blank

variable {character mark : Char} (blank : isBlank character = true)
include blank

/-- A blank lies outside every row of characters that is apart from the blanks. -/
theorem outside_of_isBlank {low high : Nat} (apart : ∀ range ∈ blankRanges, range.2 < low ∨ high < range.1) :
    character.toNat < low ∨ high < character.toNat := by
  obtain ⟨range, listed, inside⟩ := List.any_eq_true.mp blank
  have bounds : range.1 ≤ character.toNat ∧ character.toNat ≤ range.2 := of_decide_eq_true inside
  have := apart range listed
  omega

/-- No blank is a decimal digit of a script. -/
theorem decimalValue?_of_isBlank : decimalValue? character = none := by
  have apart : ∀ first ∈ decimalZeros, ∀ range ∈ blankRanges, range.2 < first ∨ first + 9 < range.1 := by decide
  have noDigit : decimalZeros.find? (fun first => first ≤ character.toNat ∧ character.toNat ≤ first + 9) = none := by
    apply List.find?_eq_none.mpr
    intro first isZero
    have := outside_of_isBlank blank (apart first isZero)
    simp only [decide_eq_true_eq]
    omega
  rw [decimalValue?, noDigit]
  rfl

theorem ne_of_isBlank (marked : isBlank mark = false) : character ≠ mark := by
  rintro rfl
  rw [blank] at marked
  cases marked

/-- No blank is a capital letter. -/
theorem toLower_of_isBlank : character.toLower = character := by
  apply dif_neg
  intro capital
  have lower : 65 ≤ character.toNat := capital.1
  have upper : character.toNat ≤ 90 := capital.2
  have := outside_of_isBlank blank (by decide : ∀ range ∈ blankRanges, range.2 < 65 ∨ 90 < range.1)
  omega

end Blank

theorem mem_of_mem_dropAround {test : Char → Bool} {characters : List Char} {character : Char}
    (member : character ∈ dropAround test characters) : character ∈ characters := by
  have kept := List.mem_reverse.mp ((List.dropWhile_sublist test).subset (List.mem_reverse.mp member))
  exact (List.dropWhile_sublist test).subset kept

/-- Nothing is left of a trimmed text just if all its characters are blank. -/
theorem trim_eq_empty_iff {text : String} : trim text = "" ↔ ∀ character ∈ text.toList, isBlank character = true := by
  rw [trim, String.ofList_eq_empty_iff, dropAround, dropEndWhile, List.reverse_eq_nil_iff, List.dropWhile_eq_nil_iff]
  constructor
  · intro rest character member
    rw [← @List.takeWhile_append_dropWhile _ isBlank text.toList] at member
    rcases List.mem_append.mp member with front | back
    · exact List.mem_takeWhile_imp front
    · exact rest character (List.mem_reverse.mpr back)
  · intro all character member
    exact all character ((List.dropWhile_sublist isBlank).subset (List.mem_reverse.mp member))

end Text

namespace Numeral

section Blank

variable {characters : List Char} (blank : ∀ character ∈ characters, Text.isBlank character = true)
include blank

theorem splitSign_of_blank : splitSign characters = (false, characters) := by
  unfold splitSign
  split
  · exact absurd rfl (Text.ne_of_isBlank (blank '-' List.mem_cons_self) (by decide))
  · exact absurd rfl (Text.ne_of_isBlank (blank '+' List.mem_cons_self) (by decide))
  · rfl

theorem isDigitOrUnderscore_of_blank {character : Char} (member : character ∈ characters) :
    isDigit character = false ∧ isDigitOrUnderscore character = false := by
  have notDigit : isDigit character = false := by
    apply decide_eq_false
    intro digit
    have lower : 48 ≤ character.toNat := digit.1
    have upper : character.toNat ≤ 57 := digit.2
    have := Text.outside_of_isBlank (blank character member)
      (by decide : ∀ range ∈ Text.blankRanges, range.2 < 48 ∨ 57 < range.1)
    omega
  have notUnderscore : character ≠ '_' := Text.ne_of_isBlank (blank character member) (by decide)
  exact ⟨notDigit, by simp [isDigitOrUnderscore, notDigit, notUnderscore]⟩

theorem removeUnderscores?_of_blank (previous : Option Char) :
    removeUnderscores? previous characters = some characters := by
  induction characters generalizing previous with
  | nil => rfl
  | cons first rest ih =>
      obtain ⟨isBlank, others⟩ := List.forall_mem_cons.mp blank
      have notUnderscore : first ≠ '_' := Text.ne_of_isBlank isBlank (by decide)
      rw [removeUnderscores?, ih others (some first)]
      · rfl
      · exact notUnderscore

theorem readMagnitude_of_blank : readMagnitude characters = .error .malformed := by
  have noRun : characters.takeWhile isDigitOrUnderscore = [] := by
    cases characters with
    | nil => rfl
    | cons first rest => simp [(isDigitOrUnderscore_of_blank blank List.mem_cons_self).2]
  cases characters with
  | nil => rfl
  | cons first rest =>
      simp only [readMagnitude, noRun]
      rfl

theorem decimal?_of_blank (negative : Bool) : decimal? negative characters = none := by
  have whole : characters.takeWhile (fun character => character != 'e' && character != 'E') = characters := by
    apply List.takeWhile_eq_self_iff.mpr
    intro character member
    have small : character ≠ 'e' := Text.ne_of_isBlank (blank character member) (by decide)
    have capital : character ≠ 'E' := Text.ne_of_isBlank (blank character member) (by decide)
    simp [small, capital]
  cases characters with
  | nil => rfl
  | cons first rest =>
      have point : first ≠ '.' := Text.ne_of_isBlank (blank first List.mem_cons_self) (by decide)
      have noDigit := (isDigitOrUnderscore_of_blank blank (List.mem_cons_self : first ∈ first :: rest)).1
      simp [decimal?, whole, noDigit, point]

/-- Blanks spell no name. -/
theorem ofList_ne_of_blank {name : String} {mark : Char} (member : mark ∈ name.toList)
    (marked : Text.isBlank mark = false) : String.ofList (characters.map Char.toLower) ≠ name := by
  rintro rfl
  rw [String.toList_ofList] at member
  obtain ⟨character, inside, rfl⟩ := List.mem_map.mp member
  rw [Text.toLower_of_isBlank (blank character inside), blank character inside] at marked
  cases marked

end Blank

variable {text : String} (blank : Text.trim text = "")
include blank

theorem isBlank_of_mem_normalize : ∀ character ∈ normalize text, Text.isBlank character = true := by
  intro character member
  obtain ⟨kept, inside, rfl⟩ := List.mem_map.mp member
  have isBlank := Text.trim_eq_empty_iff.mp blank kept (Text.mem_of_mem_dropAround inside)
  rw [Text.decimalValue?_of_isBlank isBlank]
  exact isBlank

/-- No text of blanks spells an integer. -/
theorem readInteger_of_blank : readInteger text = .error .malformed := by
  have characters := isBlank_of_mem_normalize blank
  rw [readInteger, splitSign_of_blank characters]
  simp only [readMagnitude_of_blank characters]
  rfl

/-- No text of blanks spells a floating-point number. -/
theorem real?_of_blank : real? text = none := by
  have characters := isBlank_of_mem_normalize blank
  have notName {name : String} (named : 'n' ∈ name.toList) :
      String.ofList ((normalize text).map Char.toLower) ≠ name :=
    ofList_ne_of_blank characters named (by decide)
  rw [real?, removeUnderscores?_of_blank characters]
  simp only [Option.bind_eq_bind, Option.bind_some, splitSign_of_blank characters, decimal?_of_blank characters]
  have infinite := notName (by decide : 'n' ∈ "inf".toList)
  have infinity := notName (by decide : 'n' ∈ "infinity".toList)
  have nan := notName (by decide : 'n' ∈ "nan".toList)
  simp [infinite, infinity, nan]

end Numeral
end PathStore

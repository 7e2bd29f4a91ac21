/-
This file reads the fields of a query back, as a form is read: pieces between ampersands, each a name and a value around
an equals sign, with a space for each plus sign and a byte for each escape. What is written as a query reads as its
fields, whatever text they hold.
-/
import PathStore.Proofs.Bytes.Decoding
import PathStore.Proofs.Url.Below

namespace PathStore

namespace Text

/-- What is joined by separators is split into the pieces, if none of them holds the separator. -/
theorem splitList_intercalate {separator : Char} {pieces : List (List Char)} (filled : pieces ≠ [])
    (bare : ∀ piece ∈ pieces, separator ∉ piece) : splitList separator ([separator].intercalate pieces) = pieces := by
  have single (piece : List Char) (bare : separator ∉ piece) : splitList separator piece = [piece] := by
    have whole := splitList_append_of_bare piece [] bare
    rw [List.append_nil, splitList] at whole
    exact whole.trans (congrArg (fun whole => [whole]) (List.append_nil piece))
  induction pieces with
  | nil => exact absurd rfl filled
  | cons piece rest ih =>
      obtain ⟨bareHere, bareThere⟩ := List.forall_mem_cons.mp bare
      cases rest with
      | nil => rw [List.intercalate_singleton, single piece bareHere]
      | cons next more =>
          rw [List.intercalate_cons_cons, List.append_assoc, List.singleton_append, splitList_append,
            single piece bareHere, ih (List.cons_ne_nil _ _) bareThere]
          rfl

theorem mem_intercalate {separator : Char} {pieces : List (List Char)} {character : Char}
    (member : character ∈ [separator].intercalate pieces) :
    character = separator ∨ ∃ piece ∈ pieces, character ∈ piece := by
  induction pieces with
  | nil => cases member
  | cons piece rest ih =>
      cases rest with
      | nil =>
          rw [List.intercalate_singleton] at member
          exact .inr ⟨piece, List.mem_cons_self, member⟩
      | cons next more =>
          rw [List.intercalate_cons_cons, List.append_assoc, List.singleton_append, List.mem_append,
            List.mem_cons] at member
          obtain inPiece | isSeparator | later := member
          · exact .inr ⟨piece, List.mem_cons_self, inPiece⟩
          · exact .inl isSeparator
          · exact (ih later).imp_right fun ⟨found, among, inside⟩ => ⟨found, List.mem_cons_of_mem _ among, inside⟩

end Text

namespace Url

/-- The text that a name or a value of a form stands for. -/
def readField? (written : List Char) : Option String :=
  unescape? (String.ofList (written.map fun character => if character = '+' then ' ' else character))

/-- The name and the value that a piece of a form holds; without an equals sign the value is empty. -/
def readPair? (piece : List Char) : Option (String × String) := do
  let (name, value) := Reference.splitAt '=' piece
  return (← readField? name, ← readField? value)

/-- The fields that a query holds; empty pieces hold none. -/
def readQuery? (query : String) : Option (List (String × String)) :=
  ((Text.splitList '&' query.toList).filter (!·.isEmpty)).mapM readPair?

theorem isKept_of_mem_escapeSpaced {characters : List Char} {character : Char}
    (member : character ∈ escapeUnless (· = ' ') characters) :
    isKept (fun mark => mark = '%' || mark = ' ') character = true :=
  isKept_of_mem_escapeUnless rfl (fun _ space => Bool.or_eq_true _ _ ▸ .inr space) member

section Kept

variable {isSafe : Char → Bool} (mark : isSafe '%' = true) (plus : isSafe '+' = true)
include mark plus

/-- A written field is made of unreserved characters, escapes and plus signs. -/
theorem isKept_of_mem_escapeField {field : String} {character : Char}
    (member : character ∈ (escapeField field).toList) : isKept isSafe character = true := by
  rw [escapeField, String.toList_ofList] at member
  obtain ⟨written, inEscaped, same⟩ := List.mem_map.mp member
  have kept := isKept_of_mem_escapeSpaced inEscaped
  split at same
  · rw [← same, isKept, plus, Bool.or_true]
  · rename_i filled
    rw [← same]
    rw [isKept, decide_eq_false filled, Bool.or_false, Bool.or_eq_true] at kept
    rw [isKept, Bool.or_eq_true]
    exact kept.imp_right fun isMark => (of_decide_eq_true isMark : written = '%') ▸ mark

end Kept

/-- A text reads back from its written field. -/
theorem readField?_escapeField (field : String) : readField? (escapeField field).toList = some field := by
  have noPlus : '+' ∉ escapeUnless (· = ' ') field.toList := fun member =>
    absurd (isKept_of_mem_escapeSpaced member) (by decide)
  have spaces : ((escapeUnless (· = ' ') field.toList).map fun character =>
      if character = ' ' then '+' else character).map (fun character => if character = '+' then ' ' else character) =
        escapeUnless (· = ' ') field.toList := by
    rw [List.map_map]
    refine (List.map_congr_left fun character member => ?_).trans (List.map_id _)
    show (if (if character = ' ' then '+' else character) = '+' then ' ' else
      if character = ' ' then '+' else character) = character
    by_cases space : character = ' '
    · rw [if_pos space, if_pos rfl, space]
    · have plain : character ≠ '+' := fun same => noPlus (same ▸ member)
      rw [if_neg space, if_neg plain]
  rw [readField?, escapeField, String.toList_ofList, spaces, unescape?, String.toList_ofList,
    unescapeBytes?_escapeUnless (by decide)]
  exact Utf8.decode?_encode field

/-- The piece of a query that holds a field. -/
def writePair (pair : String × String) : List Char := (escapeField pair.1).toList ++ '=' :: (escapeField pair.2).toList

theorem isKept_of_mem_writePair {isSafe : Char → Bool} (safe : "%+=".toList.all isSafe = true)
    {pair : String × String} {character : Char} (member : character ∈ writePair pair) :
    isKept isSafe character = true := by
  have safe := List.all_eq_true.mp safe
  have mark := safe '%' (by decide)
  have plus := safe '+' (by decide)
  rw [writePair, List.mem_append, List.mem_cons] at member
  obtain inName | rfl | inValue := member
  · exact isKept_of_mem_escapeField mark plus inName
  · rw [isKept, safe '=' (by decide), Bool.or_true]
  · exact isKept_of_mem_escapeField mark plus inValue

theorem readPair?_writePair (pair : String × String) : readPair? (writePair pair) = some pair := by
  have bare : ∀ character ∈ (escapeField pair.1).toList, decide (character = '=') = false := by
    refine fun character member => decide_eq_false fun same => ?_
    have kept : isKept (fun mark => mark = '%' || mark = '+') '=' = true :=
      isKept_of_mem_escapeField rfl rfl (same ▸ member)
    exact absurd kept (by decide)
  have split : Reference.splitAt '=' (writePair pair) = ((escapeField pair.1).toList, (escapeField pair.2).toList) := by
    rw [Reference.splitAt, writePair, splitBefore_append _ bare (by decide)]
    simp only [List.drop_one, List.tail_cons]
  rw [readPair?, split]
  simp only [readField?_escapeField]
  rfl

theorem toList_writeQuery (fields : List (String × String)) :
    (writeQuery fields).toList = ['&'].intercalate (fields.map writePair) := by
  rw [writeQuery, String.toList_intercalate, List.map_map]
  refine congrArg _ (List.map_congr_left fun pair _ => ?_)
  simp [writePair]

/-- A query needs no more escapes. -/
theorem isKept_of_mem_writeQuery {fields : List (String × String)} {character : Char}
    (member : character ∈ (writeQuery fields).toList) : isKept querySafe character = true := by
  rw [toList_writeQuery] at member
  obtain rfl | ⟨piece, among, inPiece⟩ := Text.mem_intercalate member
  · decide
  · obtain ⟨pair, -, rfl⟩ := List.mem_map.mp among
    exact isKept_of_mem_writePair (by decide) inPiece

/-- Fields read back from the query that they make. -/
theorem readQuery?_writeQuery (fields : List (String × String)) : readQuery? (writeQuery fields) = some fields := by
  have pairs (fields : List (String × String)) : (fields.map writePair).mapM readPair? = some fields := by
    induction fields with
    | nil => rfl
    | cons pair rest ih =>
        rw [List.map_cons, List.mapM_cons, readPair?_writePair, ih]
        rfl
  have filled : (fields.map writePair).filter (!·.isEmpty) = fields.map writePair := by
    refine List.filter_eq_self.mpr fun piece among => ?_
    obtain ⟨pair, -, rfl⟩ := List.mem_map.mp among
    simp [writePair]
  have bare : ∀ piece ∈ fields.map writePair, '&' ∉ piece := by
    intro piece among member
    obtain ⟨pair, -, rfl⟩ := List.mem_map.mp among
    have kept : isKept (fun mark => mark = '%' || mark = '+' || mark = '=') '&' = true :=
      isKept_of_mem_writePair (by decide) member
    exact absurd kept (by decide)
  rw [readQuery?, toList_writeQuery]
  cases fields with
  | nil => rfl
  | cons pair rest =>
      rw [Text.splitList_intercalate (by simp) bare, filled, pairs]

/-- Fields make a query that is not empty. -/
theorem writeQuery_ne_empty {fields : List (String × String)} (filled : fields ≠ []) : writeQuery fields ≠ "" := by
  intro empty
  have read := readQuery?_writeQuery fields
  rw [empty] at read
  exact filled (Option.some.inj read).symm

end Url
end PathStore

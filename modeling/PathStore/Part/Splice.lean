/-
This file shows that the parts of a write add up to the object with the incoming bytes spliced in.
-/
import PathStore.Part.Plan
import PathStore.Source.Exact

namespace PathStore

namespace Composition

variable {find : String → Option Bytes} {key : String} {held : Bytes}

/-- A range gives a slice of the object, before what the other parts give. -/
theorem evaluateParts_range (found : find key = some held) (start stop : Int) (rest : List Part)
    (sources : List Source) :
    evaluateParts find (.range key start stop :: rest) sources =
      (evaluateParts find rest sources).map
        (held.slice start (if stop = Part.toEnd then none else some stop) ++ ·) := by
  rw [evaluateParts, found]
  cases evaluateParts find rest sources <;> rfl

/-- A part over a source that holds enough bytes gives them, before what the other parts give. -/
theorem evaluateParts_bytes {index : Nat} {length : Int} {sources : List Source} {chunk : Bytes} {used : Source}
    (reading : (source sources index).readExactly length = (.ok chunk, used)) (enough : (chunk.length : Int) = length)
    (rest : List Part) :
    evaluateParts find (.bytes index length :: rest) sources =
      (evaluateParts find rest (sources.set index used)).map (chunk ++ ·) := by
  rw [evaluateParts, reading]
  simp only [enough, ne_eq, not_true_eq_false, if_false]
  cases evaluateParts find rest (sources.set index used) <;> rfl

end Composition

namespace Existing

open PathStore.Composition

variable {find : String → Option Bytes} {key : String} {held : Bytes}

theorem evaluateParts_incoming (content : Bytes) (rest : List Part) (others : List Source) :
    evaluateParts find (.bytes incomingIndex content.length :: rest) (.ofBytes content :: others) =
      (evaluateParts find rest (.memory content content.length :: others)).map (content ++ ·) := by
  have reading : (source (.ofBytes content :: others) incomingIndex).readExactly content.length =
      (.ok content, .memory content content.length) := Source.readExactly_ofBytes content
  exact evaluateParts_bytes reading rfl rest

theorem evaluateParts_gap (count : Nat) (rest : List Part) (first : Source) :
    evaluateParts find (.bytes gapIndex count :: rest) [first, .zeros count] =
      (evaluateParts find rest [first, .zeros 0]).map (Bytes.zeros count ++ ·) := by
  have reading : (source [first, .zeros count] gapIndex).readExactly count = (.ok (Bytes.zeros count), .zeros 0) :=
    Source.readExactly_zeros count
  exact evaluateParts_bytes reading (by simp) rest

theorem evaluateParts_tail (found : find key = some held) (existing : Existing) (same : existing.key = key)
    (start : Nat) (sources : List Source) :
    evaluateParts find [existing.tail start] sources = .ok (held.drop start) := by
  subst same
  rw [tail, evaluateParts_range found, if_pos rfl, Bytes.slice_none]
  simp [evaluateParts, Except.map]

/-- The plan for a stored object may have been made when the object had another size. -/
theorem evaluate_stored_plan (found : find key = some held) (size offset : Nat) (content : Bytes) :
    ((⟨key, size, true⟩ : Existing).plan offset (.ofBytes content) content.length).bind (evaluate find) =
      .ok (Bytes.spliceFor size held offset content) := by
  have notNegative : ¬(offset : Int) < 0 := by omega
  simp only [plan, notNegative, if_false, Except.bind, evaluate, planParts, Bool.not_true, Bool.false_eq_true]
  by_cases atStart : offset = 0
  · subst atStart
    have notBehind : ¬(0 < 0 ∧ size ≤ 0) := by omega
    rw [Bytes.spliceFor, if_neg notBehind, Int.ofNat_zero, if_pos rfl, evaluateParts_incoming]
    simp only [Nat.zero_add, Int.ofNat_lt, List.take_zero, List.nil_append]
    split
    · rw [evaluateParts_tail found _ rfl]
      rfl
    · rfl
  · have notAtStart : ¬(offset : Int) = 0 := by omega
    rw [if_neg notAtStart]
    by_cases behind : size ≤ offset
    · have appends : 0 < offset ∧ size ≤ offset := ⟨by omega, behind⟩
      rw [Bytes.spliceFor, if_pos appends]
      by_cases atEnd : offset = size
      · subst atEnd
        rw [if_pos rfl, tail, evaluateParts_range found, if_pos rfl, ← Int.natCast_zero, Bytes.slice_none,
          evaluateParts_incoming, Nat.sub_self]
        simp [evaluateParts, Except.map, Bytes.zeros]
      · have notAtEnd : ¬(offset : Int) = size := by omega
        have notBefore : ¬(offset : Int) < size := by omega
        have gap : (offset : Int) - size = (offset - size : Nat) := by omega
        rw [if_neg notAtEnd, if_neg notBefore, tail, evaluateParts_range found, if_pos rfl, ← Int.natCast_zero,
          Bytes.slice_none, gap, evaluateParts_gap, evaluateParts_incoming]
        simp [evaluateParts, Except.map]
    · have notAtEnd : ¬(offset : Int) = size := by omega
      have before : (offset : Int) < size := by omega
      have stopInside : ¬(offset : Int) = Part.toEnd := by simp only [Part.toEnd]; omega
      have notBehind : ¬(0 < offset ∧ size ≤ offset) := fun both => behind both.2
      rw [Bytes.spliceFor, if_neg notBehind, if_neg notAtEnd, if_pos before, evaluateParts_range found,
        if_neg stopInside, Bytes.slice_zero_some, evaluateParts_incoming]
      simp only [← Int.natCast_add, Int.ofNat_lt]
      split
      · rw [evaluateParts_tail found _ rfl]
        simp [Except.map]
      · simp [evaluateParts, Except.map]

/-- A missing object becomes the incoming bytes, and a stored one has them spliced in. -/
theorem evaluate_plan (found : find key = some held) (offset : Nat) (content : Bytes) (isStored : Bool) :
    ((⟨key, held.length, isStored⟩ : Existing).plan offset (.ofBytes content) content.length).bind (evaluate find) =
      .ok (if isStored then held.splice offset content else content) := by
  cases isStored with
  | false =>
      have notNegative : ¬(offset : Int) < 0 := by omega
      simp only [plan, notNegative, if_false, Except.bind, evaluate]
      simp [planParts, evaluateParts_incoming, evaluateParts, Except.map]
  | true => rw [evaluate_stored_plan found, Bytes.spliceFor_length, if_pos rfl]

end Existing
end PathStore

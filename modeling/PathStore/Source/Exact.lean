/-
This file tells what reading a source up to a length gives: all bytes of a source in memory, and as many zeros as a gap
has.
-/
import PathStore.Bytes.Splice
import PathStore.Source

namespace PathStore.Source

/-- One read of memory for as many bytes as are left gives them. -/
theorem read_memory_rest (content : Bytes) (position : Nat) :
    (Source.memory content position).read (content.length - position : Nat) =
      (.ok (content.drop position), .memory content (position + (content.length - position))) := by
  have enough : (content.drop position).take (content.length - position) = content.drop position :=
    List.take_of_length_le (by simp)
  have notNegative : ¬((content.length - position : Nat) : Int) < 0 := by omega
  simp only [read, notNegative, if_false, Int.toNat_natCast, enough, List.length_drop, decide_true, Bool.or_true,
    if_true]

theorem readUpTo_nothing (fuel : Nat) (source : Source) : readUpTo fuel source 0 = (.ok [], source) := by
  cases fuel <;> rfl

/-- Reading all of a source in memory gives its content. -/
theorem readExactly_ofBytes (content : Bytes) :
    (ofBytes content).readExactly content.length = (.ok content, .memory content content.length) := by
  obtain ⟨size, length⟩ : ∃ size, size = content.length := ⟨_, rfl⟩
  have whole := read_memory_rest content 0
  rw [Nat.sub_zero, Nat.zero_add, List.drop_zero, ← length] at whole
  rw [readExactly, ofBytes, ← length, Int.toNat_natCast]
  cases size with
  | zero => rw [readUpTo_nothing, List.length_eq_zero_iff.mp length.symm]
  | succ count =>
      have filled : content.isEmpty = false := by
        cases content with
        | nil => simp at length
        | cons head tail => rfl
      rw [readUpTo, if_neg (Nat.succ_ne_zero count), whole]
      simp only [filled, Bool.false_eq_true, if_false, ← length, Nat.sub_self, readUpTo_nothing, List.append_nil]

/-- The zeros of one read fit the size of an object in memory. -/
theorem fitsIndex_of_le_mebibyte {count : Nat} (small : count ≤ mebibyte) : fitsIndex count = true := by
  have bound : Int.pow 2 63 = 9223372036854775808 := rfl
  simp only [fitsIndex, bound, Bool.decide_and, Bool.and_eq_true, decide_eq_true_eq]
  simp only [mebibyte] at small
  omega

/-- One read of a gap gives zeros: no more than it asks for, than are left or than the most that one read gives. -/
theorem read_zeros {remaining count : Nat} (size : Int)
    (most : count = min (if size < 0 then remaining else min size.toNat remaining) mebibyte) :
    (Source.zeros remaining).read size = (.ok (Bytes.zeros count), .zeros (remaining - count : Nat)) := by
  obtain ⟨asked, chosen⟩ : ∃ asked, asked = if size < 0 then (remaining : Int) else size := ⟨_, rfl⟩
  have taken : min (min asked remaining) mebibyte = count := by
    by_cases negative : size < 0
    · rw [if_pos negative] at chosen most
      omega
    · rw [if_neg negative] at chosen most
      omega
  have fits : fitsIndex count = true := fitsIndex_of_le_mebibyte (by omega)
  have notBelow : ¬(count : Int) < 0 := by omega
  have rest : (remaining : Int) - count = (remaining - count : Nat) := by
    split at most <;> omega
  simp only [read, ← chosen, taken, fits, Bool.not_true, Bool.false_eq_true, if_false, notBelow, Int.toNat_natCast,
    rest]

/-- One read of a gap for all that is left gives zeros, and no more than the most that one read gives. -/
theorem read_zeros_rest {remaining count : Nat} (most : count = min remaining mebibyte) :
    (Source.zeros remaining).read remaining = (.ok (Bytes.zeros count), .zeros (remaining - count : Nat)) := by
  have notNegative : ¬(remaining : Int) < 0 := by omega
  exact read_zeros remaining (by rw [if_neg notNegative, Int.toNat_natCast, Nat.min_self, most])

theorem readUpTo_zeros (fuel remaining : Nat) (enough : remaining ≤ fuel) :
    readUpTo fuel (.zeros remaining) remaining = (.ok (Bytes.zeros remaining), .zeros 0) := by
  induction fuel generalizing remaining with
  | zero =>
      have none : remaining = 0 := by omega
      subst none
      rfl
  | succ fuel ih =>
      by_cases none : remaining = 0
      · subst none
        rfl
      · obtain ⟨count, most⟩ : ∃ count, count = min remaining mebibyte := ⟨_, rfl⟩
        have positive : 0 < count := by simp only [most, mebibyte]; omega
        have bounded : count ≤ remaining := by omega
        have filled : (Bytes.zeros count).isEmpty = false := by
          cases count with
          | zero => omega
          | succ count => rfl
        have joined : Bytes.zeros count ++ Bytes.zeros (remaining - count) = Bytes.zeros remaining := by
          simp only [Bytes.zeros, List.replicate_append_replicate, Nat.add_sub_cancel' bounded]
        rw [readUpTo, if_neg none, read_zeros_rest most]
        simp only [filled, Bool.false_eq_true, if_false, Bytes.length_zeros, ih (remaining - count) (by omega), joined]

/-- Reading all of a gap gives its zeros. -/
theorem readExactly_zeros (count : Nat) :
    (Source.zeros count).readExactly count = (.ok (Bytes.zeros count), .zeros 0) :=
  readUpTo_zeros count count (Nat.le_refl _)

/-- A gap that has been read gives nothing more. -/
theorem readExactly_zeros_end (length : Nat) : (Source.zeros 0).readExactly length = (.ok [], .zeros 0) := by
  rw [readExactly, Int.toNat_natCast]
  cases length with
  | zero => rfl
  | succ length =>
      have none : 0 = min (if ((length + 1 : Nat) : Int) < 0 then 0 else min (length + 1) 0) mebibyte := by simp
      have nothing : (Source.zeros 0).read (length + 1 : Nat) = (.ok [], .zeros 0) := read_zeros _ none
      rw [readUpTo, if_neg (Nat.succ_ne_zero length), nothing]
      rfl

end PathStore.Source

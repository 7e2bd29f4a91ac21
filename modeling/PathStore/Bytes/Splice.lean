/-
This file tells what a byte string becomes when bytes are written into it at an offset.
-/
import PathStore.Bytes

namespace PathStore.Bytes

/-- The string with the written bytes at the offset; zeros fill a gap before them, and what lies behind them stays. -/
def splice (held : Bytes) (offset : Nat) (written : Bytes) : Bytes :=
  held.take offset ++ zeros (offset - held.length) ++ written ++ held.drop (offset + written.length)

@[simp] theorem length_zeros (count : Nat) : (zeros count).length = count := List.length_replicate ..

theorem zeros_zero : zeros 0 = [] := rfl

theorem length_splice (held : Bytes) (offset : Nat) (written : Bytes) :
    (held.splice offset written).length = max held.length (offset + written.length) := by
  simp only [splice, List.length_append, List.length_take, List.length_drop, length_zeros]
  omega

/-- Bytes written at the end are appended. -/
theorem splice_length (held written : Bytes) : held.splice held.length written = held ++ written := by
  simp [splice, zeros]

/-- The string once bytes are written into it at an offset by a plan for a string of the given size. -/
def spliceFor (size : Nat) (held : Bytes) (offset : Nat) (written : Bytes) : Bytes :=
  if 0 < offset ∧ size ≤ offset then held ++ zeros (offset - size) ++ written
  else held.take offset ++ written ++ if offset + written.length < size then held.drop (offset + written.length) else []

/-- A plan for the size that the string has splices the bytes in. -/
theorem spliceFor_length (held : Bytes) (offset : Nat) (written : Bytes) :
    spliceFor held.length held offset written = held.splice offset written := by
  unfold spliceFor splice
  split
  · rename_i behind
    have whole : held.take offset = held := List.take_of_length_le behind.2
    have nothing : held.drop (offset + written.length) = [] := List.drop_eq_nil_of_le (by omega)
    rw [whole, nothing, List.append_nil]
  · rename_i notBehind
    have noGap : offset - held.length = 0 := by omega
    rw [noGap, zeros_zero, List.append_nil]
    split
    · rfl
    · rw [List.drop_eq_nil_of_le (by omega)]

theorem take_splice (held : Bytes) (offset : Nat) (written : Bytes) :
    (held.splice offset written).take offset = held.take offset ++ zeros (offset - held.length) := by
  rw [splice, List.append_assoc _ written, List.take_left']
  rw [List.length_append, List.length_take, length_zeros]
  omega

theorem drop_splice (held : Bytes) (offset : Nat) (written : Bytes) :
    (held.splice offset written).drop (offset + written.length) = held.drop (offset + written.length) := by
  rw [splice, List.drop_left']
  rw [List.length_append, List.length_append, List.length_take, length_zeros]
  omega

/-- Bytes that are spliced in twice are there once. -/
theorem splice_splice (held : Bytes) (offset : Nat) (written : Bytes) :
    (held.splice offset written).splice offset written = held.splice offset written := by
  have noGap : offset - (held.splice offset written).length = 0 := by rw [length_splice]; omega
  rw [splice, take_splice, drop_splice, noGap, zeros_zero, List.append_nil]
  rfl

/-- A splice holds the written bytes where they are written, the bytes of the string elsewhere, and zeros between. -/
theorem getElem?_splice (held : Bytes) (offset : Nat) (written : Bytes) (position : Nat) :
    (held.splice offset written)[position]? =
      if offset ≤ position ∧ position < offset + written.length then written[position - offset]?
      else if position < held.length then held[position]?
      else if position < offset then some 0 else none := by
  have padded : (held.take offset ++ zeros (offset - held.length)).length = offset := by
    rw [List.length_append, List.length_take, length_zeros]
    omega
  rw [splice, List.append_assoc _ written]
  by_cases before : position < offset
  · rw [List.getElem?_append_left (padded.symm ▸ before), if_neg (by omega)]
    by_cases inside : position < held.length
    · rw [if_pos inside, List.getElem?_append_left (by rw [List.length_take]; omega), List.getElem?_take_of_lt before]
    · have gap : position - (held.take offset).length < offset - held.length := by rw [List.length_take]; omega
      rw [if_neg inside, if_pos before, List.getElem?_append_right (by rw [List.length_take]; omega), zeros,
        List.getElem?_replicate_of_lt gap]
  · rw [List.getElem?_append_right (padded.symm ▸ Nat.not_lt.mp before), padded]
    by_cases inside : position < offset + written.length
    · rw [if_pos ⟨Nat.not_lt.mp before, inside⟩, List.getElem?_append_left (by omega)]
    · have shifted : offset + written.length + (position - offset - written.length) = position := by omega
      rw [if_neg (by omega), if_neg before, List.getElem?_append_right (by omega), List.getElem?_drop, shifted]
      split
      · rfl
      · rw [List.getElem?_eq_none (by omega)]

/-- Two splices that write nowhere at the same place can be made in either order. -/
theorem splice_comm (held : Bytes) {firstOffset secondOffset : Nat} {first second : Bytes}
    (apart : ∀ position, ¬((firstOffset ≤ position ∧ position < firstOffset + first.length) ∧
      secondOffset ≤ position ∧ position < secondOffset + second.length)) :
    (held.splice firstOffset first).splice secondOffset second =
      (held.splice secondOffset second).splice firstOffset first := by
  apply List.ext_getElem?
  intro position
  have once := apart position
  simp only [getElem?_splice, length_splice]
  by_cases inFirst : firstOffset ≤ position ∧ position < firstOffset + first.length
  · have inside : position < max held.length (firstOffset + first.length) := by omega
    rw [if_neg fun inSecond => once ⟨inFirst, inSecond⟩, if_pos inside, if_pos inFirst, if_pos inFirst]
  · rw [if_neg inFirst, if_neg inFirst]
    by_cases inSecond : secondOffset ≤ position ∧ position < secondOffset + second.length
    · have inside : position < max held.length (secondOffset + second.length) := by omega
      rw [if_pos inSecond, if_pos inSecond, if_pos inside]
    · rw [if_neg inSecond, if_neg inSecond]
      -- Outside of both a byte was there before, or a gap before one of the two is filled with a zero.
      repeat' split
      all_goals first | rfl | omega

/-- A plan that was made before the bytes were spliced in changes nothing more where it writes over the string, and adds
the gap and the bytes once more where it writes behind it. -/
theorem spliceFor_splice (held : Bytes) (offset : Nat) (written : Bytes) :
    spliceFor held.length (held.splice offset written) offset written =
      held.splice offset written ++
        if 0 < offset ∧ held.length ≤ offset then zeros (offset - held.length) ++ written else [] := by
  by_cases behind : 0 < offset ∧ held.length ≤ offset
  · rw [spliceFor, if_pos behind, if_pos behind, List.append_assoc]
  · have noGap : offset - held.length = 0 := by omega
    have planned := spliceFor_length held offset written
    rw [spliceFor, if_neg behind] at planned
    rw [spliceFor, if_neg behind, if_neg behind, take_splice, drop_splice, noGap, zeros_zero, List.append_nil,
      List.append_nil, planned]

/-- A slice up to the end drops what lies before it. -/
theorem slice_none (bytes : Bytes) (start : Nat) : bytes.slice start none = bytes.drop start := by
  have first : clampIndex bytes.length (start : Int) = min start bytes.length := by
    unfold clampIndex
    split <;> omega
  simp only [slice, first, List.take_length]
  by_cases inside : start ≤ bytes.length
  · rw [Nat.min_eq_left inside]
  · have beyond : bytes.length ≤ start := by omega
    rw [Nat.min_eq_right beyond, List.drop_eq_nil_of_le (Nat.le_refl _), List.drop_eq_nil_of_le beyond]

/-- A slice from the start keeps what lies before its stop. -/
theorem slice_zero_some (bytes : Bytes) (stop : Nat) : bytes.slice 0 (some (stop : Int)) = bytes.take stop := by
  have last : clampIndex bytes.length (stop : Int) = min stop bytes.length := by
    unfold clampIndex
    split <;> omega
  have first : clampIndex bytes.length 0 = 0 := by simp [clampIndex]
  simp only [slice, first, last, List.drop_zero]
  rw [← List.take_take, List.take_length]

end PathStore.Bytes

/-
This file tells how integers are written: in digits of which the first is a zero only where it is the only one, and
which spell the integer.
-/
import Mathlib.Algebra.Group.Nat.Defs
import PathStore.Number.Numeral
import PathStore.Proofs.Program.Outcomes

namespace PathStore.Numeral

theorem isDigit_of_mem_toDigits {number : Nat} {digit : Char} (member : digit ∈ Nat.toDigits 10 number) :
    isDigit digit = true := by
  have numeric : digit.isDigit = true := Nat.isDigit_of_mem_toDigits (by decide) (by decide) member
  have bounds : '0' ≤ digit ∧ digit ≤ '9' := by
    simpa [Char.isDigit, Char.le_def] using numeric
  exact decide_eq_true bounds

theorem ne_of_isDigit {digit mark : Char} (found : isDigit digit = true) (notDigit : isDigit mark = false) :
    digit ≠ mark := by
  rintro rfl
  rw [found] at notDigit
  cases notDigit

/-- A number is written with a leading zero only if it is zero. -/
theorem eq_zero_of_head?_toDigits {number : Nat} (leading : (Nat.toDigits 10 number).head? = some '0') :
    number = 0 := by
  induction number using Nat.strongRecOn with
  | ind number ih =>
      by_cases small : number < 10
      · rw [Nat.toDigits_of_lt_base small] at leading
        exact Nat.digitChar_eq_zero.mp (Option.some.inj leading)
      · rw [Nat.toDigits_of_base_le (by decide) (Nat.not_lt.mp small)] at leading
        have front : (Nat.toDigits 10 (number / 10)).head? = some '0' := by
          cases digits : Nat.toDigits 10 (number / 10) with
          | nil => exact absurd digits Nat.toDigits_ne_nil
          | cons first more => rwa [digits] at leading
        have none := ih (number / 10) (by omega) front
        omega

/-- Written digits spell the number they were written for. -/
theorem digits?_toDigits (number : Nat) : digits? (Nat.toDigits 10 number) = some number := by
  have filled : (Nat.toDigits 10 number).isEmpty = false := List.isEmpty_eq_false_iff.mpr Nat.toDigits_ne_nil
  have all : (Nat.toDigits 10 number).all isDigit = true :=
    List.all_eq_true.mpr fun _ => isDigit_of_mem_toDigits
  rw [digits?, filled, all]
  exact congrArg some (Nat.ofDigitChars_toDigits (by decide) (by decide))

/-- An integer is written as the digits of its magnitude, with a sign in front if it is negative. -/
theorem toList_toString (number : Int) :
    (toString number).toList = (if number < 0 then ['-'] else []) ++ Nat.toDigits 10 number.natAbs := by
  rw [Int.toString_eq_repr, Int.repr_eq_if]
  by_cases negative : number < 0
  · have same : (-number).toNat = number.natAbs := by omega
    rw [if_neg (Int.not_le.mpr negative), if_pos negative, same, String.toList_append, Nat.toList_repr]
    rfl
  · have same : number.toNat = number.natAbs := by omega
    rw [if_pos (Int.not_lt.mp negative), if_neg negative, same, Nat.toList_repr, List.nil_append]

/-- The digits of a number begin with a digit. -/
theorem exists_head_toDigits (number : Nat) :
    ∃ first more, Nat.toDigits 10 number = first :: more ∧ isDigit first = true := by
  obtain ⟨first, more, digits⟩ := List.exists_cons_of_ne_nil (Nat.toDigits_ne_nil : Nat.toDigits 10 number ≠ [])
  exact ⟨first, more, digits, isDigit_of_mem_toDigits (digits ▸ List.mem_cons_self)⟩

/-- Digits spell a number below the power of ten of their count. -/
theorem lt_pow_of_digits? {characters : List Char} {number : Nat} (spelled : digits? characters = some number) :
    number < 10 ^ characters.length := by
  have below (digits : List Char) (all : digits.all isDigit = true) (start : Nat) :
      digits.foldl (fun value digit => 10 * value + (digit.toNat - 48)) start < (start + 1) * 10 ^ digits.length := by
    induction digits generalizing start with
    | nil => simp
    | cons digit rest ih =>
        obtain ⟨here, others⟩ := Bool.and_eq_true_iff.mp (List.all_cons.symm.trans all)
        have small : digit.toNat ≤ 57 := (of_decide_eq_true here).2
        have more := ih others (10 * start + (digit.toNat - 48))
        rw [List.foldl_cons, List.length_cons, Nat.pow_succ']
        apply Nat.lt_of_lt_of_le more
        rw [← Nat.mul_assoc]
        apply Nat.mul_le_mul_right
        omega
  rw [digits?] at spelled
  split at spelled
  · cases spelled
  · rename_i filled
    simp only [Bool.or_eq_true, not_or, Bool.not_eq_true, Bool.not_eq_false'] at filled
    have all := below characters filled.2 0
    rw [Option.some.inj spelled, Nat.zero_add, Nat.one_mul] at all
    exact all

theorem lt_pow_of_readMagnitude {characters : List Char} {magnitude : Nat}
    (spelled : readMagnitude characters = .ok magnitude) : magnitude < 10 ^ digitLimit := by
  obtain ⟨digits, -, spelled⟩ := Outcome.bind_eq_ok_iff.mp spelled
  dsimp only at spelled
  split at spelled
  · cases spelled
  · rename_i few
    split at spelled
    · cases spelled
    · cases found : digits? digits with
      | none =>
          rw [found] at spelled
          cases spelled
      | some number =>
          rw [found] at spelled
          obtain rfl : number = magnitude := Except.ok.inj spelled
          exact Nat.lt_of_lt_of_le (lt_pow_of_digits? found)
            (Nat.pow_le_pow_right (by decide) (Nat.not_lt.mp few))

/-- An integer with few enough digits is written. -/
theorem isWritable_of_lt {number : Int} {digits : Nat} (few : digits ≤ 4300)
    (short : number.natAbs < Nat.pow 10 digits) :
    isWritable number = true := by
  rw [← digitLimit_eq] at few
  rw [isWritable]
  generalize digitLimit = limit at few ⊢
  exact decide_eq_true (Nat.lt_of_lt_of_le short (Nat.pow_le_pow_right (by decide) few))

/-- An integer that is not greater than one that is written is written. -/
theorem isWritable_of_le {number bound : Int} (natural : 0 ≤ number) (le : number ≤ bound)
    (writable : isWritable bound = true) : isWritable number = true := by
  rw [isWritable] at writable ⊢
  exact decide_eq_true (Nat.lt_of_le_of_lt (by omega) (of_decide_eq_true writable))

/-- An integer that is read has no more digits than are written. -/
theorem isWritable_of_readInteger {text : String} {number : Int} (read : readInteger text = .ok number) :
    isWritable number = true := by
  obtain ⟨magnitude, spelled, signed⟩ := Outcome.bind_eq_ok_iff.mp read
  have small := lt_pow_of_readMagnitude spelled
  have unsigned (negative : Bool) : (if negative then -(magnitude : Int) else magnitude).natAbs = magnitude := by
    cases negative <;> simp
  have same : number.natAbs = magnitude := by
    rw [← Except.ok.inj signed]
    exact unsigned _
  generalize limited : digitLimit = limit at small
  rw [isWritable, same, limited]
  exact decide_eq_true small

end PathStore.Numeral

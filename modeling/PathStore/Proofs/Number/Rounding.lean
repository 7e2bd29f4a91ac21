/-
This file tells how near to a number the number of the format is that it is rounded to, and which numbers are kept as
they are.
-/
import Mathlib.Algebra.Order.Field.Power
import Mathlib.Data.Rat.Floor
import Mathlib.Tactic.FieldSimp
import Mathlib.Tactic.Linarith
import Mathlib.Tactic.NormNum
import Mathlib.Tactic.Positivity
import Mathlib.Tactic.Ring
import PathStore.Number.Binary64

namespace PathStore.Binary64

/-- A finite number is its significand times a power of two. -/
theorem toRat?_finite (negative : Bool) (significand : Nat) (exponent : Int) :
    (finite negative significand exponent).toRat? =
      some (if negative then -((significand : ℚ) * 2 ^ exponent) else (significand : ℚ) * 2 ^ exponent) := by
  have magnitude : (if 0 ≤ exponent then ((significand * Nat.pow 2 exponent.toNat : Nat) : ℚ)
      else mkRat significand (Nat.pow 2 (-exponent).toNat)) = (significand : ℚ) * 2 ^ exponent := by
    split
    · rename_i natural
      obtain ⟨power, rfl⟩ := Int.eq_ofNat_of_zero_le natural
      simp
    · rename_i negative
      obtain ⟨power, rfl⟩ := Int.exists_eq_neg_ofNat (show exponent ≤ 0 by omega)
      rw [Rat.mkRat_eq_div, zpow_neg, zpow_natCast, neg_neg, Int.toNat_natCast, ← div_eq_mul_inv]
      simp
  rw [toRat?, magnitude]

/-- The nearest integer to a quotient is at most a half away. -/
theorem abs_divideToEven_sub_le (numerator : Nat) {denominator : Nat} (filled : 0 < denominator) :
    |(divideToEven numerator denominator : ℚ) - numerator / denominator| ≤ 1 / 2 := by
  have positive : (0 : ℚ) < denominator := Nat.cast_pos.mpr filled
  have quotient : (numerator : ℚ) / denominator =
      (numerator / denominator : Nat) + (numerator % denominator : Nat) / denominator := by
    rw [eq_comm, add_div' _ _ _ positive.ne', div_left_inj' positive.ne']
    exact_mod_cast Nat.div_add_mod' numerator denominator
  have natural : (0 : ℚ) ≤ ((numerator % denominator : Nat) : ℚ) / denominator := by positivity
  have below : ((numerator % denominator : Nat) : ℚ) / denominator < 1 :=
    (div_lt_one positive).mpr (Nat.cast_lt.mpr (Nat.mod_lt _ filled))
  have half {rest : Nat} : (rest : ℚ) / denominator < 1 / 2 ↔ 2 * rest < denominator := by
    rw [div_lt_div_iff₀ positive two_pos, one_mul, mul_comm]
    exact_mod_cast Iff.rfl
  have half' {rest : Nat} : 1 / 2 < (rest : ℚ) / denominator ↔ denominator < 2 * rest := by
    rw [div_lt_div_iff₀ two_pos positive, one_mul, mul_comm]
    exact_mod_cast Iff.rfl
  rw [divideToEven, quotient, abs_le]
  split
  · rename_i less
    rw [← half] at less
    constructor <;> linarith
  · split
    · rename_i more
      rw [← half'] at more
      push_cast
      constructor <;> linarith
    · rename_i notLess notMore
      rw [← half] at notLess
      rw [← half'] at notMore
      obtain even | odd := Nat.mod_two_eq_zero_or_one (numerator / denominator)
      · rw [even]
        push_cast
        constructor <;> linarith
      · rw [odd]
        push_cast
        constructor <;> linarith

/-- The nearest integer to a quotient by a power of two is at most a half away. -/
theorem abs_divideByPower_sub_le (numerator : Nat) {denominator : Nat} (filled : 0 < denominator) (exponent : Int) :
    |(divideByPower numerator denominator exponent : ℚ) - (numerator / denominator : ℚ) / 2 ^ exponent| ≤ 1 / 2 := by
  rw [divideByPower]
  split
  · rename_i natural
    obtain ⟨power, rfl⟩ := Int.eq_ofNat_of_zero_le natural
    have nearest := abs_divideToEven_sub_le numerator (Nat.mul_pos filled (Nat.two_pow_pos power))
    rw [div_div, zpow_natCast]
    exact_mod_cast nearest
  · rename_i negative
    obtain ⟨power, rfl⟩ := Int.exists_eq_neg_ofNat (show exponent ≤ 0 by omega)
    have nearest := abs_divideToEven_sub_le (numerator * 2 ^ power) filled
    rw [neg_neg, Int.toNat_natCast, zpow_neg, zpow_natCast, div_inv_eq_mul, div_mul_eq_mul_div]
    exact_mod_cast nearest

section Normal

variable {numerator denominator : Nat} (filled : 0 < denominator)
include filled

/-- The logarithms of two numbers leave a factor of four for their quotient. -/
theorem log2_bounds (positive : 0 < numerator) :
    2 ^ ((numerator.log2 : Int) - denominator.log2 - 1) ≤ (numerator : ℚ) / denominator ∧
      (numerator : ℚ) / denominator < 2 ^ ((numerator.log2 : Int) - denominator.log2 + 1) := by
  have filledRat : (0 : ℚ) < denominator := Nat.cast_pos.mpr filled
  constructor
  · rw [sub_sub, zpow_sub₀ two_ne_zero, div_le_div_iff₀ (by positivity) filledRat]
    have lower : (2 : ℚ) ^ (numerator.log2 : Int) ≤ numerator := by exact_mod_cast Nat.log2_self_le positive.ne'
    have upper : (denominator : ℚ) < 2 ^ ((denominator.log2 : Int) + 1) := by exact_mod_cast Nat.lt_log2_self
    exact mul_le_mul lower upper.le (by positivity) (by positivity)
  · rw [sub_add_eq_add_sub, zpow_sub₀ two_ne_zero, div_lt_div_iff₀ filledRat (by positivity)]
    have upper : (numerator : ℚ) < 2 ^ ((numerator.log2 : Int) + 1) := by exact_mod_cast Nat.lt_log2_self
    have lower : (2 : ℚ) ^ (denominator.log2 : Int) ≤ denominator := by exact_mod_cast Nat.log2_self_le filled.ne'
    exact mul_lt_mul upper lower (by positivity) (by positivity)

/-- A quotient is compared with a power of two among the natural numbers, on the side where the power is one. -/
theorem scaled_lt_iff (exponent : Int) :
    (if 0 ≤ exponent then numerator else numerator * Nat.pow 2 (-exponent).toNat) <
        (if 0 ≤ exponent then denominator * Nat.pow 2 (exponent.toNat + 52) else denominator * Nat.pow 2 52) ↔
      (numerator : ℚ) / denominator < 2 ^ (52 + exponent) := by
  rw [div_lt_iff₀ (Nat.cast_pos.mpr filled), zpow_add₀ two_ne_zero]
  split
  · rename_i natural
    obtain ⟨power, rfl⟩ := Int.eq_ofNat_of_zero_le natural
    have regroup : (2 : ℚ) ^ (52 : Int) * 2 ^ (power : Int) * denominator = (denominator * 2 ^ (power + 52) : Nat) := by
      rw [zpow_natCast]
      push_cast
      ring
    rw [Int.toNat_natCast, regroup, Nat.cast_lt]
    rfl
  · rename_i negative
    obtain ⟨power, rfl⟩ := Int.exists_eq_neg_ofNat (show exponent ≤ 0 by omega)
    have regroup : (2 : ℚ) ^ (52 : Int) * 2 ^ (-(power : Int)) * denominator =
        (denominator * 2 ^ 52 : Nat) / 2 ^ power := by
      rw [zpow_neg, zpow_natCast]
      push_cast
      ring
    rw [neg_neg, Int.toNat_natCast, regroup, lt_div_iff₀ (by positivity)]
    exact_mod_cast Iff.rfl

/-- A quotient has fifty-three bits before the point at its normal exponent. -/
theorem normalExponent_bounds (positive : 0 < numerator) :
    2 ^ 52 * (2 : ℚ) ^ normalExponent numerator denominator ≤ (numerator : ℚ) / denominator ∧
      (numerator : ℚ) / denominator < 2 ^ 53 * (2 : ℚ) ^ normalExponent numerator denominator := by
  obtain ⟨below, above⟩ := log2_bounds filled positive
  have order {first second : Int} (le : first ≤ second) : (2 : ℚ) ^ first ≤ 2 ^ second :=
    zpow_le_zpow_right₀ one_le_two le
  rw [← zpow_natCast, ← zpow_natCast, ← zpow_add₀ two_ne_zero, ← zpow_add₀ two_ne_zero]
  let estimate : Int := (numerator.log2 : Int) - denominator.log2 - 52
  by_cases less : (numerator : ℚ) / denominator < 2 ^ (52 + estimate)
  · have found : normalExponent numerator denominator = estimate - 1 := if_pos ((scaled_lt_iff filled _).mpr less)
    rw [found]
    exact ⟨(order (by omega)).trans below, less.trans_le (order (by omega))⟩
  · have found : normalExponent numerator denominator = estimate := if_neg (less ∘ (scaled_lt_iff filled _).mp)
    rw [found]
    exact ⟨not_lt.mp less, above.trans_le (order (by omega))⟩

end Normal

/-- How a positive number is rounded: to the nearest multiple of a power of two that leaves it fifty-three bits, or as
many as the least exponent leaves. -/
structure Rounds (value : ℚ) (significand : Nat) (exponent : Int) : Prop where
  least : leastExponent ≤ exponent
  below : value < 2 ^ 53 * 2 ^ exponent
  full : exponent = leastExponent ∨ 2 ^ 52 * 2 ^ exponent ≤ value
  nearest : |(significand : ℚ) - value / 2 ^ exponent| ≤ 1 / 2

namespace Rounds

variable {value : ℚ} {significand : Nat} {exponent : Int} (rounds : Rounds value significand exponent)
include rounds

/-- No multiple of the power is crossed from above. -/
theorem le_significand {count : Int} (le : count * (2 : ℚ) ^ exponent ≤ value) : count ≤ significand := by
  have quotient : (count : ℚ) ≤ value / 2 ^ exponent := (le_div_iff₀ (by positivity)).mpr le
  have near := (abs_le.mp rounds.nearest).1
  have strict : (count : ℚ) < significand + 1 := by linarith
  exact Int.lt_add_one_iff.mp (by exact_mod_cast strict)

/-- No multiple of the power is crossed from below. -/
theorem significand_le {count : Int} (le : value ≤ count * (2 : ℚ) ^ exponent) : significand ≤ count := by
  have quotient : value / 2 ^ exponent ≤ (count : ℚ) := (div_le_iff₀ (by positivity)).mpr le
  have near := (abs_le.mp rounds.nearest).2
  have strict : (significand : ℚ) < count + 1 := by linarith
  exact Int.lt_add_one_iff.mp (by exact_mod_cast strict)

theorem significand_le_pow : significand ≤ 2 ^ 53 := by
  have below : value ≤ ((2 ^ 53 : Int) : ℚ) * 2 ^ exponent := by exact_mod_cast rounds.below.le
  exact_mod_cast rounds.significand_le below

/-- What is at least one stays so. -/
theorem one_le (one : 1 ≤ value) : 1 ≤ (significand : ℚ) * 2 ^ exponent := by
  by_cases fraction : exponent ≤ 0
  · obtain ⟨power, rfl⟩ := Int.exists_eq_neg_ofNat (show exponent ≤ 0 by omega)
    have unit : ((2 ^ power : Int) : ℚ) * 2 ^ (-(power : Int)) = 1 := by
      rw [zpow_neg, zpow_natCast]
      push_cast
      exact mul_inv_cancel₀ (by positivity)
    have counted := rounds.le_significand (unit.trans_le one)
    calc (1 : ℚ) = ((2 ^ power : Int) : ℚ) * 2 ^ (-(power : Int)) := unit.symm
      _ ≤ (significand : ℚ) * 2 ^ (-(power : Int)) :=
        mul_le_mul_of_nonneg_right (by exact_mod_cast counted) (by positivity)
  · have least : exponent ≠ leastExponent := by rw [leastExponent]; omega
    have counted : ((2 ^ 52 : Int) : ℚ) * 2 ^ exponent ≤ value := by exact_mod_cast rounds.full.resolve_left least
    have many : 1 ≤ (significand : ℚ) := by
      have all := rounds.le_significand counted
      exact_mod_cast (show 1 ≤ significand by omega)
    exact one_le_mul_of_one_le_of_one_le many (one_le_zpow₀ one_le_two (by omega))

/-- What is a multiple of a power of two with fifty-three bits stays as it is. -/
theorem eq_of_exact {count : Nat} {power : Int} (few : count < 2 ^ 53) (least : leastExponent ≤ power)
    (exact : value = count * 2 ^ power) : (significand : ℚ) * 2 ^ exponent = value := by
  have lower : exponent ≤ power := by
    obtain rfl | full := rounds.full
    · exact least
    · have fewer : (count : ℚ) < 2 ^ 53 := by exact_mod_cast few
      have strict : 2 ^ 52 * (2 : ℚ) ^ exponent < 2 ^ 53 * 2 ^ power := by
        rw [exact] at full
        exact full.trans_lt (mul_lt_mul_of_pos_right fewer (by positivity))
      have powers : (2 : ℚ) ^ (52 + exponent) < 2 ^ (53 + power) := by
        rw [zpow_add₀ two_ne_zero, zpow_add₀ two_ne_zero]
        exact_mod_cast strict
      have := (zpow_lt_zpow_iff_right₀ one_lt_two).mp powers
      omega
  obtain ⟨gap, rfl⟩ : ∃ gap : Nat, power = exponent + gap := ⟨(power - exponent).toNat, by omega⟩
  have multiple : ((count * 2 ^ gap : Int) : ℚ) * 2 ^ exponent = value := by
    rw [exact, zpow_add₀ two_ne_zero, zpow_natCast]
    push_cast
    ring
  have same : (significand : Int) = count * 2 ^ gap :=
    le_antisymm (rounds.significand_le multiple.ge) (rounds.le_significand multiple.le)
  rw [← multiple, ← same]
  rfl

/-- What is rounded beyond a whole number is rounded onto one. -/
theorem eq_floor {whole : Int} (floored : whole = ⌊(significand : ℚ) * 2 ^ exponent⌋) (beyond : value < whole) :
    (significand : ℚ) * 2 ^ exponent = whole := by
  subst floored
  by_cases natural : 0 ≤ exponent
  · obtain ⟨power, rfl⟩ := Int.eq_ofNat_of_zero_le natural
    have integral : (significand : ℚ) * 2 ^ (power : Int) = ((significand * 2 ^ power : Int) : ℚ) := by
      rw [zpow_natCast]
      push_cast
      rfl
    rw [integral, Int.floor_intCast]
  · obtain ⟨power, rfl⟩ := Int.exists_eq_neg_ofNat (show exponent ≤ 0 by omega)
    refine le_antisymm ?_ (Int.floor_le _)
    generalize ⌊(significand : ℚ) * 2 ^ (-(power : Int))⌋ = whole at beyond ⊢
    have multiple : ((whole * 2 ^ power : Int) : ℚ) * 2 ^ (-(power : Int)) = whole := by
      rw [zpow_neg, zpow_natCast]
      push_cast
      exact mul_inv_cancel_right₀ (by positivity) _
    have counted := rounds.significand_le (multiple.symm ▸ beyond.le)
    calc (significand : ℚ) * 2 ^ (-(power : Int)) ≤ ((whole * 2 ^ power : Int) : ℚ) * 2 ^ (-(power : Int)) :=
        mul_le_mul_of_nonneg_right (by exact_mod_cast counted) (by positivity)
      _ = whole := multiple

/-- What is not too great stays below the powers that the format does not have. -/
theorem lt_overflow (small : value + 2 ^ 970 < 2 ^ 1024) : (significand : ℚ) * 2 ^ exponent < 2 ^ 1024 := by
  have bounded : exponent ≤ 971 := by
    obtain rfl | full := rounds.full
    · decide
    · have powers : (2 : ℚ) ^ (52 + exponent) < 2 ^ (1024 : Int) := by
        rw [zpow_add₀ two_ne_zero]
        exact_mod_cast full.trans_lt ((le_add_of_nonneg_right (by positivity)).trans_lt small)
      have := (zpow_lt_zpow_iff_right₀ one_lt_two).mp powers
      omega
  have half : (2 : ℚ) ^ exponent / 2 ≤ 2 ^ 970 := by
    rw [div_le_iff₀ two_pos, ← pow_succ, ← zpow_natCast]
    exact zpow_le_zpow_right₀ one_le_two bounded
  have near : (significand : ℚ) ≤ value / 2 ^ exponent + 1 / 2 := by
    have := (abs_le.mp rounds.nearest).2
    linarith
  calc (significand : ℚ) * 2 ^ exponent ≤ (value / 2 ^ exponent + 1 / 2) * 2 ^ exponent :=
        mul_le_mul_of_nonneg_right near (by positivity)
    _ = value + 2 ^ exponent / 2 := by
        rw [add_mul, div_mul_cancel₀ _ (by positivity : (2 : ℚ) ^ exponent ≠ 0)]
        ring
    _ ≤ value + 2 ^ 970 := by gcongr
    _ < 2 ^ 1024 := small

end Rounds

/-- A quotient of positive numbers is rounded at its normal exponent, or at the least one. -/
theorem rounds_divideByPower {numerator denominator : Nat} (positive : 0 < numerator) (filled : 0 < denominator) :
    Rounds (numerator / denominator)
      (divideByPower numerator denominator (max leastExponent (normalExponent numerator denominator)))
      (max leastExponent (normalExponent numerator denominator)) := by
  obtain ⟨full, below⟩ := normalExponent_bounds filled positive
  refine ⟨le_max_left _ _, below.trans_le ?_, ?_, abs_divideByPower_sub_le numerator filled _⟩
  · exact mul_le_mul_of_nonneg_left (zpow_le_zpow_right₀ one_le_two (le_max_right _ _)) (by positivity)
  · obtain least | normal := max_choice leastExponent (normalExponent numerator denominator)
    · exact .inl least
    · exact .inr (normal.symm ▸ full)

/-- Whether a number is one of the format: its significand has at most fifty-three bits. -/
def IsProper : Binary64 → Prop
  | finite _ significand exponent =>
      significand < 2 ^ 53 ∧ leastExponent ≤ exponent ∧ exponent ≤ greatestExponent
  | _ => True

/-- A quotient of positive numbers becomes what it is rounded to, unless this is too great. -/
theorem ofRatio_cases (negative : Bool) {numerator denominator : Nat} (positive : 0 < numerator)
    (filled : 0 < denominator) :
    ∃ significand exponent, Rounds (numerator / denominator) significand exponent ∧
      ((ofRatio negative numerator denominator = .infinite negative ∧ 2 ^ 1024 ≤ (significand : ℚ) * 2 ^ exponent) ∨
        ∃ kept power, ofRatio negative numerator denominator = .finite negative kept power ∧
          (finite negative kept power).IsProper ∧ (kept : ℚ) * 2 ^ power = (significand : ℚ) * 2 ^ exponent) := by
  let exponent := max leastExponent (normalExponent numerator denominator)
  let significand := divideByPower numerator denominator exponent
  have rounds : Rounds (numerator / denominator) significand exponent := rounds_divideByPower positive filled
  refine ⟨significand, exponent, rounds, ?_⟩
  have overflow {power : Int} (beyond : 972 ≤ power) : (2 : ℚ) ^ 1024 ≤ 2 ^ 52 * 2 ^ power := by
    have powers := zpow_le_zpow_right₀ (one_le_two (α := ℚ)) (show (1024 : Int) ≤ 52 + power by omega)
    rw [zpow_add₀ two_ne_zero] at powers
    exact_mod_cast powers
  rw [ofRatio, if_neg positive.ne']
  dsimp only
  by_cases carried : significand = 2 ^ 53
  · have same : ((2 ^ 52 : Nat) : ℚ) * 2 ^ (exponent + 1) = significand * 2 ^ exponent := by
      rw [carried, zpow_add_one₀ two_ne_zero]
      push_cast
      ring
    rw [if_pos (show divideByPower numerator denominator _ = Nat.pow 2 53 from carried)]
    by_cases great : greatestExponent < exponent + 1
    · refine .inl ⟨if_pos great, ?_⟩
      rw [← same]
      exact_mod_cast overflow (show 972 ≤ exponent + 1 from great)
    · exact .inr ⟨2 ^ 52, exponent + 1, if_neg great, ⟨by decide, rounds.least.trans (by omega), not_lt.mp great⟩, same⟩
  · rw [if_neg (show ¬divideByPower numerator denominator _ = Nat.pow 2 53 from carried)]
    by_cases great : greatestExponent < exponent
    · refine .inl ⟨if_pos great, (overflow (show 972 ≤ exponent from great)).trans ?_⟩
      have normal : exponent ≠ leastExponent := by
        rw [greatestExponent] at great
        rw [leastExponent]
        omega
      have counted : ((2 ^ 52 : Int) : ℚ) * 2 ^ exponent ≤ numerator / denominator := by
        exact_mod_cast rounds.full.resolve_left normal
      exact mul_le_mul_of_nonneg_right (by exact_mod_cast rounds.le_significand counted) (by positivity)
    · have few : significand < 2 ^ 53 := lt_of_le_of_ne rounds.significand_le_pow carried
      exact .inr ⟨significand, exponent, if_neg great, ⟨few, rounds.least, not_lt.mp great⟩, rfl⟩

section OfRat

variable {value : ℚ} (positive : 0 < value)
include positive

/-- A positive number becomes what it is rounded to, if this is not too great. -/
theorem exists_toRat?_ofRat (small : value + 2 ^ 970 < 2 ^ 1024) :
    ∃ significand exponent, Rounds value significand exponent ∧
      (ofRat value).toRat? = some ((significand : ℚ) * 2 ^ exponent) := by
  have natural : (value.num.natAbs : ℚ) = value.num := by
    rw [← Int.cast_natCast, Int.natAbs_of_nonneg (Rat.num_nonneg.mpr positive.le)]
  have quotient : (value.num.natAbs : ℚ) / value.den = value := by rw [natural, Rat.num_div_den]
  have unsigned : decide (value.num < 0) = false := decide_eq_false (not_lt.mpr (Rat.num_nonneg.mpr positive.le))
  obtain ⟨significand, exponent, rounds, result⟩ :=
    ofRatio_cases false (Int.natAbs_pos.mpr (Rat.num_pos.mpr positive).ne') value.den_pos
  rw [quotient] at rounds
  refine ⟨significand, exponent, rounds, ?_⟩
  rw [ofRat, unsigned]
  obtain ⟨-, great⟩ | ⟨kept, power, finite, -, same⟩ := result
  · exact absurd great (not_le.mpr (rounds.lt_overflow small))
  · rw [finite, toRat?_finite, same]
    rfl

/-- A positive number of the format stays as it is. -/
theorem toRat?_ofRat_of_exact {count : Nat} {power : Int} (few : count < 2 ^ 53) (least : leastExponent ≤ power)
    (small : value + 2 ^ 970 < 2 ^ 1024) (exact : value = count * 2 ^ power) : (ofRat value).toRat? = some value := by
  obtain ⟨significand, exponent, rounds, found⟩ := exists_toRat?_ofRat positive small
  rw [found, rounds.eq_of_exact few least exact]

end OfRat

/-- The integer part of a number that is not negative is the greatest integer below it. -/
theorem truncate?_of_toRat? {number : Binary64} {value : ℚ} (found : number.toRat? = some value) (natural : 0 ≤ value) :
    number.truncate? = some ⌊value⌋ := by
  rw [truncate?, found, Option.map_some, Int.tdiv_eq_ediv_of_nonneg (Rat.num_nonneg.mpr natural), ← Rat.floor_def]
  rfl

/-- Whether a number is rounded up to a whole number that it does not reach. -/
def RoundsUpToWhole (value : ℚ) : Prop := ∃ whole : Int, value < whole ∧ (ofRat value).toRat? = some (whole : ℚ)

/-- A number from one on has an integer part of at least one once it is rounded, and one that is no greater than the
number unless this is rounded up to a whole number. -/
theorem exists_truncate?_ofRat {value : ℚ} (one : 1 ≤ value) (small : value + 2 ^ 970 < 2 ^ 1024) :
    ∃ whole : Int, (ofRat value).truncate? = some whole ∧ 1 ≤ whole ∧
      ((whole : ℚ) ≤ value ↔ ¬RoundsUpToWhole value) := by
  obtain ⟨significand, exponent, rounds, found⟩ := exists_toRat?_ofRat (one_pos.trans_le one) small
  have above := rounds.one_le one
  refine ⟨_, truncate?_of_toRat? found (zero_le_one.trans above), Int.le_floor.mpr (by exact_mod_cast above), ?_⟩
  constructor
  · rintro below ⟨whole, beyond, same⟩
    rw [found] at same
    rw [Option.some.inj same, Int.floor_intCast] at below
    exact absurd beyond (not_lt.mpr below)
  · intro stays
    by_contra beyond
    refine stays ⟨_, not_le.mp beyond, found.trans (congrArg some ?_)⟩
    exact rounds.eq_floor rfl (not_le.mp beyond)

/-- A finite number of the format is an integer of fifty-three bits times a power of two. -/
theorem IsProper.exists_multiple {number : Binary64} (proper : number.IsProper) {value : ℚ}
    (found : number.toRat? = some value) :
    ∃ (count power : Int), value = count * 2 ^ power ∧ |count| < 2 ^ 53 ∧ leastExponent ≤ power ∧
      power ≤ greatestExponent := by
  cases number with
  | finite negative significand exponent =>
      obtain ⟨few, least, greatest⟩ := proper
      rw [toRat?_finite] at found
      obtain rfl := Option.some.inj found
      have fewer : |(significand : Int)| < 2 ^ 53 := by
        rw [Nat.abs_cast]
        exact_mod_cast few
      cases negative with
      | false => exact ⟨significand, exponent, rfl, fewer, least, greatest⟩
      | true =>
          refine ⟨-significand, exponent, ?_, (abs_neg _).trans_lt fewer, least, greatest⟩
          rw [if_pos rfl]
          push_cast
          ring
  | infinite negative => cases found
  | nan => cases found

/-- A finite number of the format is below the powers that the format does not have by one unit at least. -/
theorem IsProper.abs_add_le {number : Binary64} (proper : number.IsProper) {value : ℚ}
    (found : number.toRat? = some value) : |value| + 2 ^ 971 ≤ 2 ^ 1024 := by
  obtain ⟨count, power, rfl, few, -, greatest⟩ := proper.exists_multiple found
  have unit : (2 : ℚ) ^ power ≤ 2 ^ 971 := by
    rw [← zpow_natCast]
    exact zpow_le_zpow_right₀ one_le_two greatest
  have fewer : |(count : ℚ)| ≤ 2 ^ 53 - 1 := by exact_mod_cast Int.le_sub_one_iff.mpr few
  calc |count * (2 : ℚ) ^ power| + 2 ^ 971 = |(count : ℚ)| * 2 ^ power + 2 ^ 971 := by
        rw [abs_mul, abs_of_pos (by positivity : (0 : ℚ) < 2 ^ power)]
    _ ≤ (2 ^ 53 - 1) * 2 ^ 971 + 2 ^ 971 :=
        add_le_add_left (mul_le_mul fewer unit (by positivity) ((abs_nonneg _).trans fewer)) _
    _ = 2 ^ 53 * 2 ^ 971 := by rw [sub_mul, one_mul, sub_add_cancel]
    _ = 2 ^ 1024 := by rw [← pow_add]

/-- The difference of two numbers of the format is one of the format, if neither is more than twice the other. -/
theorem IsProper.exists_sub {first second : Binary64} (firstProper : first.IsProper) (secondProper : second.IsProper)
    {greater lesser : ℚ} (firstFound : first.toRat? = some greater) (secondFound : second.toRat? = some lesser)
    (less : lesser ≤ greater) (near : greater ≤ 2 * lesser) :
    ∃ (count : Nat) (power : Int), count < 2 ^ 53 ∧ leastExponent ≤ power ∧ greater - lesser = count * 2 ^ power := by
  obtain ⟨firstCount, firstPower, firstSame, firstFew, firstLeast, -⟩ := firstProper.exists_multiple firstFound
  obtain ⟨secondCount, secondPower, secondSame, secondFew, secondLeast, -⟩ := secondProper.exists_multiple secondFound
  let power := min firstPower secondPower
  obtain ⟨firstGap, firstShift⟩ : ∃ gap : Nat, firstPower = power + gap := ⟨(firstPower - power).toNat, by omega⟩
  obtain ⟨secondGap, secondShift⟩ : ∃ gap : Nat, secondPower = power + gap := ⟨(secondPower - power).toNat, by omega⟩
  have common : greater - lesser =
      ((firstCount * 2 ^ firstGap - secondCount * 2 ^ secondGap : Int) : ℚ) * 2 ^ power := by
    rw [firstSame, secondSame, firstShift, secondShift, zpow_add₀ two_ne_zero, zpow_add₀ two_ne_zero, zpow_natCast,
      zpow_natCast]
    push_cast
    ring
  generalize firstCount * 2 ^ firstGap - secondCount * 2 ^ secondGap = count at common
  have unit : (0 : ℚ) < 2 ^ power := by positivity
  have natural : 0 ≤ count := by
    have product : 0 ≤ (count : ℚ) * 2 ^ power := common ▸ sub_nonneg.mpr less
    exact_mod_cast nonneg_of_mul_nonneg_left product unit
  -- The difference is at most either number, so it is below the powers behind the smaller one of their units.
  have below : greater - lesser < 2 ^ 53 * 2 ^ power := by
    have bounded {count power : Int} (few : |count| < 2 ^ 53) : (count : ℚ) * 2 ^ power < 2 ^ 53 * 2 ^ power :=
      mul_lt_mul_of_pos_right (by exact_mod_cast (abs_lt.mp few).2) (by positivity)
    obtain first | second := min_choice firstPower secondPower
    · rw [show power = firstPower from first]
      have := firstSame ▸ bounded firstFew
      linarith
    · rw [show power = secondPower from second]
      have := secondSame ▸ bounded secondFew
      linarith
  have few : count < 2 ^ 53 := by
    rw [common] at below
    exact_mod_cast lt_of_mul_lt_mul_right below unit.le
  obtain ⟨count, rfl⟩ := Int.eq_ofNat_of_zero_le natural
  exact ⟨count, power, by exact_mod_cast few, le_min firstLeast secondLeast, by exact_mod_cast common⟩

theorem isProper_zero (negative : Bool) : (finite negative 0 leastExponent).IsProper :=
  ⟨by decide, le_refl _, by decide⟩

/-- What is rounded is a number of the format. -/
theorem isProper_ofRatio (negative : Bool) (numerator : Nat) {denominator : Nat} (filled : 0 < denominator) :
    (ofRatio negative numerator denominator).IsProper := by
  by_cases zero : numerator = 0
  · rw [ofRatio, if_pos zero]
    exact isProper_zero negative
  · obtain ⟨significand, exponent, -, result⟩ := ofRatio_cases negative (Nat.pos_of_ne_zero zero) filled
    obtain ⟨infinite, -⟩ | ⟨kept, power, finite, proper, -⟩ := result
    · rw [infinite]
      trivial
    · rw [finite]
      exact proper

theorem isProper_ofRat (value : ℚ) : (ofRat value).IsProper := isProper_ofRatio _ _ value.den_pos

theorem isProper_ofDecimal (negative : Bool) (digits : Nat) (exponent : Int) :
    (ofDecimal negative digits exponent).IsProper := by
  rw [ofDecimal]
  split
  · exact isProper_zero negative
  split
  · trivial
  split
  · exact isProper_zero negative
  split
  · exact isProper_ofRatio negative _ Nat.one_pos
  · exact isProper_ofRatio negative _ (Nat.pow_pos (by decide))

/-- The integer part of a number of the format has at most a thousand and twenty-four bits. -/
theorem IsProper.natAbs_lt_of_truncate? {number : Binary64} (proper : number.IsProper) {whole : Int}
    (cut : number.truncate? = some whole) : whole.natAbs < 2 ^ 1024 := by
  obtain ⟨value, found, rfl⟩ := Option.map_eq_some_iff.mp cut
  have bounded : |value| < 2 ^ 1024 := (lt_add_of_pos_right _ (by positivity)).trans_le (proper.abs_add_le found)
  have quotient : |value| = (value.num.natAbs : ℚ) / value.den := by
    conv => lhs; rw [← value.num_div_den, abs_div, Nat.abs_cast, ← Int.cast_abs, Int.abs_eq_natAbs, Int.cast_natCast]
  rw [quotient, div_lt_iff₀ (Nat.cast_pos.mpr value.den_pos)] at bounded
  rw [Int.natAbs_tdiv, Int.natAbs_natCast]
  apply Nat.div_lt_of_lt_mul
  rw [Nat.mul_comm]
  exact_mod_cast bounded

/-- The difference of two finite numbers is rounded once. -/
theorem minus_of_toRat? {first second : Binary64} {left right : ℚ} (firstFound : first.toRat? = some left)
    (secondFound : second.toRat? = some right) : first.minus second = ofRat (left - right) := by
  cases first with
  | finite =>
      cases second with
      | finite =>
          rw [minus, firstFound, secondFound]
          all_goals nofun
      | infinite => cases secondFound
      | nan => cases secondFound
  | infinite => cases firstFound
  | nan => cases firstFound

end PathStore.Binary64

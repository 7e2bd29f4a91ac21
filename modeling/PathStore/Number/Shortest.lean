/-
This file writes a number of the 64-bit format with the fewest digits that read back as it.
-/
import PathStore.Number.Binary64

namespace PathStore.Binary64

/-- A decimal number: its digits as an integer, and the exponent of the last one. -/
structure Decimal where
  digits : Nat
  exponent : Int

def powerOfTen (exponent : Int) : Rat :=
  if 0 ≤ exponent then (Nat.pow 10 exponent.toNat : Rat) else mkRat 1 (Nat.pow 10 (-exponent).toNat)

/-- The exponent of the leading digit of a positive rational. -/
def leadingExponent (value : Rat) : Int :=
  let estimate : Int := (Nat.toDigits 10 value.num.natAbs).length - (Nat.toDigits 10 value.den).length
  if powerOfTen estimate ≤ value then estimate else estimate - 1

/--
The neighbour of a value, among the decimals with the given last exponent, that reads back as the number.
Of two such neighbours the nearer one is taken, and of two equally near ones the even one.
-/
def onGrid? (number : Binary64) (value : Rat) (exponent : Int) : Option Decimal :=
  let scaledValue := value / powerOfTen exponent
  let below := scaledValue.num.natAbs / scaledValue.den
  let reads (digits : Nat) : Bool := ofDecimal false digits exponent = number
  match reads below, reads (below + 1) with
  | true, true => some ⟨divideToEven scaledValue.num.natAbs scaledValue.den, exponent⟩
  | true, false => some ⟨below, exponent⟩
  | false, true => some ⟨below + 1, exponent⟩
  | false, false => none

/-- The first grid that has a hit, from the given one on toward finer ones. -/
def searchGrids (number : Binary64) (value : Rat) : Nat → Int → Decimal
  | 0, exponent => ⟨(value / powerOfTen exponent).num.natAbs, exponent⟩
  | count + 1, exponent =>
      match onGrid? number value exponent with
      | some decimal => decimal
      | none => searchGrids number value count (exponent - 1)

/-- The decimal with the fewest digits that reads back as a positive finite number. -/
def shortest (number : Binary64) (value : Rat) : Decimal :=
  searchGrids number value 17 (leadingExponent value)

/-- Positional between the exponents of a ten-thousandth and of ten to the fifteenth; otherwise with an exponent. -/
def writeDecimal (decimal : Decimal) : String :=
  let digits := Nat.toDigits 10 decimal.digits
  let leading := decimal.exponent + digits.length - 1
  if leading < -4 || 16 ≤ leading then
    let mantissa := match digits with
      | [] => []
      | [digit] => [digit]
      | digit :: rest => digit :: '.' :: rest
    let magnitude := Nat.toDigits 10 leading.natAbs
    let padded := if magnitude.length < 2 then '0' :: magnitude else magnitude
    String.ofList (mantissa ++ 'e' :: (if leading < 0 then '-' else '+') :: padded)
  else if leading < 0 then
    String.ofList ('0' :: '.' :: List.replicate (leading.natAbs - 1) '0' ++ digits)
  else
    let whole := leading.toNat + 1
    let integral := digits.take whole ++ List.replicate (whole - digits.length) '0'
    let fraction := digits.drop whole
    String.ofList (integral ++ '.' :: (if fraction.isEmpty then ['0'] else fraction))

/-- The decimal without zeros at its end. -/
def stripZeros : Nat → Decimal → Decimal
  | 0, decimal => decimal
  | count + 1, decimal =>
      if decimal.digits ≠ 0 ∧ decimal.digits % 10 = 0 then
        stripZeros count ⟨decimal.digits / 10, decimal.exponent + 1⟩
      else decimal

/-- The written form of a number, which keeps the sign of zero. -/
def toText : Binary64 → String
  | .nan => "nan"
  | .infinite negative => if negative then "-inf" else "inf"
  | .finite negative significand exponent =>
      let magnitude : Binary64 := .finite false significand exponent
      let body := match magnitude.toRat? with
        | some value => if significand = 0 then "0.0" else writeDecimal (stripZeros 20 (shortest magnitude value))
        | none => ""
      if negative then "-" ++ body else body

/-- The written form with one digit after the point; a half of a tenth goes to the even neighbour. -/
def toTextWithTenths : Binary64 → String
  | .nan => "nan"
  | .infinite negative => if negative then "-inf" else "inf"
  | .finite negative significand exponent =>
      let tenths := if 0 ≤ exponent then significand * 10 * Nat.pow 2 exponent.toNat
        else divideToEven (significand * 10) (Nat.pow 2 (-exponent).toNat)
      let body := toString (tenths / 10) ++ "." ++ toString (tenths % 10)
      if negative then "-" ++ body else body

end PathStore.Binary64

/-
This file reads integers and floating-point numbers from their written forms.
-/
import PathStore.Number.Binary64
import PathStore.Text.Blank
import PathStore.Text.DecimalDigit

namespace PathStore.Numeral

/-- The characters inside the blanks, with the digits of every script written as those of ASCII. -/
def normalize (text : String) : List Char :=
  (Text.dropAround Text.isNumeralBlank text.toList).map fun character =>
    match Text.decimalValue? character with
    | some value => Char.ofNat (48 + value)
    | none => character

def isDigit (character : Char) : Bool := '0' ≤ character ∧ character ≤ '9'

/-- The characters without underscores, if each of these stands between two digits. -/
def removeUnderscores? : Option Char → List Char → Option (List Char)
  | _, [] => some []
  | previous, '_' :: rest =>
      match previous, rest with
      | some left, right :: _ =>
          if isDigit left && isDigit right then removeUnderscores? none rest else none
      | _, _ => none
  | _, character :: rest => (removeUnderscores? (some character) rest).map (character :: ·)

/-- The number that decimal digits spell, if there are digits only and at least one. -/
def digits? (characters : List Char) : Option Nat :=
  if characters.isEmpty || !characters.all isDigit then none
  else some (characters.foldl (fun value digit => 10 * value + (digit.toNat - 48)) 0)

/-- An optional sign, and whether it is negative. -/
def splitSign : List Char → Bool × List Char
  | '-' :: rest => (true, rest)
  | '+' :: rest => (false, rest)
  | characters => (false, characters)

/-- The most digits that the numeral of an integer may have. No power of ten with as many digits is to be computed, so
the number stays folded. -/
@[irreducible] def digitLimit : Nat := 4300

theorem digitLimit_eq : digitLimit = 4300 := by
  rw [digitLimit]

/-- Whether an integer has no more digits than are written. -/
def isWritable (number : Int) : Bool := number.natAbs < Nat.pow 10 digitLimit

/-- Why a text spells no integer. -/
inductive Fault where
  | malformed
  | tooManyDigits (count : Nat)
  deriving DecidableEq, Repr

def isDigitOrUnderscore (character : Char) : Bool := isDigit character || character = '_'

/-- The number that digits and underscores spell; their count is limited whatever comes after them. -/
def readMagnitude (characters : List Char) : Except Fault Nat := do
  let run := characters.takeWhile isDigitOrUnderscore
  let digits ← (removeUnderscores? none run).getDM (throw .malformed)
  if digitLimit < digits.length then throw (.tooManyDigits digits.length)
  if run.length < characters.length then throw .malformed
  (digits? digits).getDM (throw .malformed)

/-- The integer that a numeral spells. -/
def readInteger (text : String) : Except Fault Int := do
  let (negative, unsigned) := splitSign (normalize text)
  let magnitude ← readMagnitude unsigned
  return if negative then -(magnitude : Int) else magnitude

/-- The integer that a numeral spells, if it spells one. -/
def integer? (text : String) : Option Int := (readInteger text).toOption

/-- The integer after the mark of an exponent. -/
def exponent? (characters : List Char) : Option Int := do
  let (negative, unsigned) := splitSign characters
  let magnitude ← digits? unsigned
  some (if negative then -(magnitude : Int) else magnitude)

/-- The number that digits with an optional point and an optional exponent spell. -/
def decimal? (negative : Bool) (characters : List Char) : Option Binary64 := do
  let mantissa := characters.takeWhile fun character => character != 'e' && character != 'E'
  let exponent ← match characters.drop mantissa.length with
    | [] => some 0
    | _ :: rest => exponent? rest
  let whole := mantissa.takeWhile isDigit
  let fraction ← match mantissa.drop whole.length with
    | [] => some []
    | '.' :: rest => some rest
    | _ => none
  let digits ← digits? (whole ++ fraction)
  some (Binary64.ofDecimal negative digits (exponent - fraction.length))

/-- The floating-point number that a numeral spells. -/
def real? (text : String) : Option Binary64 := do
  let plain ← removeUnderscores? none (normalize text)
  let (negative, unsigned) := splitSign plain
  let name := String.ofList (unsigned.map Char.toLower)
  if name = "inf" || name = "infinity" then some (.infinite negative)
  else if name = "nan" then some .nan
  else decimal? negative unsigned

end PathStore.Numeral

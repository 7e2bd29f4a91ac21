/-
This file holds instants to the microsecond, and the clock readings and upload times they come from.
-/
import PathStore.Failure

namespace PathStore

/-- An instant, in microseconds since the start of 1970 in universal time. -/
structure Instant where
  microseconds : Int
  deriving DecidableEq, Repr

/-- A day of the proleptic Gregorian calendar. -/
structure CalendarDay where
  year : Int
  month : Nat
  day : Nat
  deriving DecidableEq, Repr

/-- The day that is the given number of days after the first of 1970. -/
def CalendarDay.ofDayNumber (number : Int) : CalendarDay :=
  let shifted := number + 719468
  let era := shifted.fdiv 146097
  let dayOfEra := (shifted - era * 146097).toNat
  let yearOfEra := (dayOfEra - dayOfEra / 1460 + dayOfEra / 36524 - dayOfEra / 146096) / 365
  let dayOfYear := dayOfEra - (365 * yearOfEra + yearOfEra / 4 - yearOfEra / 100)
  let shiftedMonth := (5 * dayOfYear + 2) / 153
  let month := if shiftedMonth < 10 then shiftedMonth + 3 else shiftedMonth - 9
  { year := yearOfEra + era * 400 + (if month ≤ 2 then 1 else 0)
    month
    day := dayOfYear - (153 * shiftedMonth + 2) / 5 + 1 }

namespace Instant

/-- The first and the last second whose year fits a machine integer. -/
def leastSecond : Int := -67768040609740800
def greatestSecond : Int := 67768036191676799

/-- The nearest integer; a half goes to the even neighbour. -/
def roundToEven (value : Rat) : Int :=
  let magnitude := Binary64.divideToEven value.num.natAbs value.den
  if value.num < 0 then -(magnitude : Int) else magnitude

/-- The instant of a whole second and a number of microseconds, if its year has four digits. -/
def ofSecond (second microsecond : Int) : Except Failure Instant :=
  if second < -(Int.pow 2 63) ∨ Int.pow 2 63 ≤ second then .error (.overflow .timestamp)
  else if second < leastSecond ∨ greatestSecond < second then
    .error (.device "[Errno 75] Value too large for defined data type")
  else
    let year := (CalendarDay.ofDayNumber (second.fdiv 86400)).year
    if year < 1 ∨ 9999 < year then .error (.value (.year year))
    else .ok ⟨second * 1000000 + microsecond⟩

/-- The instant of a number of seconds, where the fraction is rounded to a microsecond. -/
def ofTimestamp (seconds : Binary64) : Except Failure Instant :=
  match seconds, seconds.toRat? with
  | .nan, _ => .error (.value .notANumber)
  | _, none => .error (.overflow .timestamp)
  | _, some value =>
      let whole := value.num.tdiv value.den
      let fraction := (Binary64.ofRat (value - whole)).scaled 1000000
      let microsecond := match fraction.toRat? with
        | some rest => roundToEven rest
        | none => 0
      if 1000000 ≤ microsecond then ofSecond (whole + 1) (microsecond - 1000000)
      else if microsecond < 0 then ofSecond (whole - 1) (microsecond + 1000000)
      else ofSecond whole microsecond

/-- The instant of a number of tenths of a microsecond. -/
def ofTenths (count : Binary64) : Except Failure Instant := ofTimestamp (count.scaled (mkRat 1 10000000))

/-- The instant of an upload time, which counts tenths of a microsecond. -/
def ofPutTime (putTime : Int) : Except Failure Instant :=
  if (Binary64.ofInt putTime).isFinite then ofTenths (.ofInt putTime) else .error (.overflow .integerAsReal)

/-- The seconds since the start of 1970, rounded once. -/
def timestamp (instant : Instant) : Binary64 := Binary64.ofRat (mkRat instant.microseconds 1000000)

/-- The given number of decimal digits of a number. -/
def padded (count value : Nat) : String :=
  let digits := Nat.toDigits 10 value
  String.ofList (List.replicate (count - digits.length) '0' ++ digits)

/-- The date, the time and the offset; microseconds are left out when they are zero. -/
def write (instant : Instant) : String :=
  let second := instant.microseconds.fdiv 1000000
  let microsecond := (instant.microseconds - second * 1000000).toNat
  let date := CalendarDay.ofDayNumber (second.fdiv 86400)
  let secondOfDay := (second - second.fdiv 86400 * 86400).toNat
  padded 4 date.year.toNat ++ "-" ++ padded 2 date.month ++ "-" ++ padded 2 date.day ++ "T" ++
    padded 2 (secondOfDay / 3600) ++ ":" ++ padded 2 (secondOfDay / 60 % 60) ++ ":" ++ padded 2 (secondOfDay % 60) ++
    (if microsecond = 0 then "" else "." ++ padded 6 microsecond) ++ "+00:00"

/-- The last instant of the year 9999. -/
def greatest : Instant := ⟨253402300799999999⟩

/-- The first instant of the year 1. -/
def least : Instant := ⟨-62135596800000000⟩

/-- The instant the given number of seconds later. -/
def after (instant : Instant) (seconds : Int) : Except Failure Instant :=
  let days := seconds.fdiv 86400
  let later := instant.microseconds + seconds * 1000000
  if days < -(Int.pow 2 31) ∨ Int.pow 2 31 ≤ days then .error (.overflow .dayCount)
  else if 999999999 < days.natAbs then .error (.overflow (.days days))
  else if later < least.microseconds ∨ greatest.microseconds < later then .error (.overflow .date)
  else .ok ⟨later⟩

end Instant

/-- A reading of the clock, in seconds since the start of 1970. -/
structure Clock where
  reading : Binary64
  deriving DecidableEq, Repr

namespace Clock

/-- The whole seconds of the reading. -/
def seconds (clock : Clock) : Except Failure Int := Failure.wholePart clock.reading

/-- The upload time of an object that is stored now. -/
def putTime (clock : Clock) : Int := (clock.reading.scaled 10000000).truncate?.getD 0

/-- The whole seconds until an instant, as the difference of two rounded timestamps. -/
def secondsUntil (clock : Clock) (instant : Instant) : Except Failure Int :=
  Failure.wholePart (instant.timestamp.minus clock.reading)

end Clock
end PathStore

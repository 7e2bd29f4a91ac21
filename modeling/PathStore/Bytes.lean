/-
This file holds byte strings, their slices and their hexadecimal form.
-/

namespace PathStore

/-- The content of an object, of a file or of a request. -/
abbrev Bytes := List UInt8

namespace Bytes

/-- The position that an index denotes in a string of the given length; a negative index counts from the end. -/
def clampIndex (length : Nat) (index : Int) : Nat :=
  if index < 0 then (index + length).toNat else min index.toNat length

/-- The bytes from one index up to another, where no second index means the end. -/
def slice (bytes : Bytes) (start : Int) (stop : Option Int) : Bytes :=
  let first := clampIndex bytes.length start
  let last := match stop with
    | none => bytes.length
    | some index => clampIndex bytes.length index
  (bytes.take last).drop first

/-- The string of the given number of zero bytes. -/
def zeros (count : Nat) : Bytes := List.replicate count 0

/-- The lowercase hexadecimal digit of a number below sixteen. -/
def hexDigit (value : Nat) : Char :=
  if value < 10 then Char.ofNat (48 + value) else Char.ofNat (87 + value)

/-- The uppercase hexadecimal digit of a number below sixteen. -/
def upperHexDigit (value : Nat) : Char :=
  if value < 10 then Char.ofNat (48 + value) else Char.ofNat (55 + value)

/-- The number that a hexadecimal digit of either case stands for. -/
def hexValue? (digit : Char) : Option Nat :=
  let code := digit.toNat
  if 48 ≤ code ∧ code ≤ 57 then some (code - 48)
  else if 97 ≤ code ∧ code ≤ 102 then some (code - 87)
  else if 65 ≤ code ∧ code ≤ 70 then some (code - 55)
  else none

/-- Two lowercase digits for each byte. -/
def toHex (bytes : Bytes) : String :=
  String.ofList (bytes.flatMap fun byte => [hexDigit (byte.toNat / 16), hexDigit (byte.toNat % 16)])

def ofHexDigits? : List Char → Option Bytes
  | [] => some []
  | [_] => none
  | high :: low :: rest => do
      let upper ← hexValue? high
      let lower ← hexValue? low
      let tail ← ofHexDigits? rest
      some (UInt8.ofNat (16 * upper + lower) :: tail)

/-- The bytes that pairs of hexadecimal digits spell. -/
def ofHex? (text : String) : Option Bytes := ofHexDigits? text.toList

/-- A byte string repeated end to end. -/
def repeated (bytes : Bytes) (count : Nat) : Bytes := (List.replicate count bytes).flatten

end Bytes
end PathStore

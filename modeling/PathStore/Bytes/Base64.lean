/-
This file writes bytes in the padded base64 alphabet that is safe in URLs and in the common one, and reads the first
back.
-/
import PathStore.Bytes

namespace PathStore.Base64

/-- The digit of a number below sixty-four. -/
def digit (value : Nat) : Char :=
  if value < 26 then Char.ofNat (65 + value)
  else if value < 52 then Char.ofNat (71 + value)
  else if value < 62 then Char.ofNat (value - 4)
  else if value = 62 then '-'
  else '_'

/-- The number below sixty-four that a digit stands for. -/
def digitValue? (character : Char) : Option Nat :=
  let code := character.toNat
  if 65 ≤ code ∧ code ≤ 90 then some (code - 65)
  else if 97 ≤ code ∧ code ≤ 122 then some (code - 71)
  else if 48 ≤ code ∧ code ≤ 57 then some (code + 4)
  else if character = '-' then some 62
  else if character = '_' then some 63
  else none

/-- Four characters for three bytes, with the last group padded. -/
def encodeBytes : Bytes → List Char
  | [] => []
  | [first] =>
      let a := first.toNat
      [digit (a / 4), digit (a % 4 * 16), '=', '=']
  | [first, second] =>
      let a := first.toNat
      let b := second.toNat
      [digit (a / 4), digit (a % 4 * 16 + b / 16), digit (b % 16 * 4), '=']
  | first :: second :: third :: rest =>
      let a := first.toNat
      let b := second.toNat
      let c := third.toNat
      digit (a / 4) :: digit (a % 4 * 16 + b / 16) :: digit (b % 16 * 4 + c / 64) :: digit (c % 64) ::
        encodeBytes rest

/-- The text of a byte string. -/
def encode (bytes : Bytes) : String := String.ofList (encodeBytes bytes)

/-- A digit of the common alphabet. -/
def commonDigit (character : Char) : Char :=
  if character = '-' then '+' else if character = '_' then '/' else character

/-- The text of a byte string in the common alphabet. -/
def encodeCommon (bytes : Bytes) : String := String.ofList ((encodeBytes bytes).map commonDigit)

/-- The bytes that groups of four characters spell. -/
def decodeDigits? : List Char → Option Bytes
  | [] => some []
  | [a, b, '=', '='] => do
      let first ← digitValue? a
      let second ← digitValue? b
      if second % 16 = 0 then some [UInt8.ofNat (first * 4 + second / 16)] else none
  | [a, b, c, '='] => do
      let first ← digitValue? a
      let second ← digitValue? b
      let third ← digitValue? c
      if third % 4 = 0 then
        some [UInt8.ofNat (first * 4 + second / 16), UInt8.ofNat (second % 16 * 16 + third / 4)]
      else none
  | a :: b :: c :: d :: rest => do
      let first ← digitValue? a
      let second ← digitValue? b
      let third ← digitValue? c
      let fourth ← digitValue? d
      let tail ← decodeDigits? rest
      some (UInt8.ofNat (first * 4 + second / 16) :: UInt8.ofNat (second % 16 * 16 + third / 4) ::
        UInt8.ofNat (third % 4 * 64 + fourth) :: tail)
  | _ => none

/-- The bytes that a text spells, or nothing if it is not the written form of any. -/
def decode? (text : String) : Option Bytes := decodeDigits? text.toList

end PathStore.Base64

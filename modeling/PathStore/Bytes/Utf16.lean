/-
This file reads text from units of two or of four bytes.
-/
import PathStore.Bytes

namespace PathStore

/-- Which byte of a unit comes first. -/
inductive ByteOrder where
  | little
  | big
  deriving DecidableEq, Repr

/-- The number that bytes spell in an order. -/
def ByteOrder.number (order : ByteOrder) (bytes : Bytes) : Nat :=
  let highFirst := match order with
    | little => bytes.reverse
    | big => bytes
  highFirst.foldl (fun value byte => 256 * value + byte.toNat) 0

namespace Utf16

/-- Whether a unit is the first half of a pair. -/
def isHigh (unit : Nat) : Bool := 0xD800 ≤ unit ∧ unit ≤ 0xDBFF

/-- Whether a unit is the second half of a pair. -/
def isLow (unit : Nat) : Bool := 0xDC00 ≤ unit ∧ unit ≤ 0xDFFF

/-- The character of a pair of halves. -/
def joined (high low : Nat) : Char := Char.ofNat (0x10000 + (high - 0xD800) * 0x400 + (low - 0xDC00))

/-- The characters that bytes spell after a first half, if one is pending; each half that stands alone and what is left
over at the end is replaced. -/
def scanLossy (order : ByteOrder) : Option Nat → Bytes → List Char
  | none, [] => []
  | some _, [] => ['\uFFFD']
  | _, [_] => ['\uFFFD']
  | pending, first :: second :: rest =>
      let unit := order.number [first, second]
      match pending with
      | some high =>
          if isLow unit then joined high unit :: scanLossy order none rest
          else if isHigh unit then '\uFFFD' :: scanLossy order (some unit) rest
          else '\uFFFD' :: Char.ofNat unit :: scanLossy order none rest
      | none =>
          if isHigh unit then scanLossy order (some unit) rest
          else if isLow unit then '\uFFFD' :: scanLossy order none rest
          else Char.ofNat unit :: scanLossy order none rest

/-- The text that units of two bytes spell, with replacements for what is no character. -/
def decodeLossy (order : ByteOrder) (bytes : Bytes) : String := String.ofList (scanLossy order none bytes)

end Utf16

namespace Utf32

/-- The character with a code, or the replacement character. -/
def scalar (code : Nat) : Char := if code.isValidChar then Char.ofNat code else '\uFFFD'

def scanLossy (order : ByteOrder) : Bytes → List Char
  | [] => []
  | first :: second :: third :: fourth :: rest =>
      scalar (order.number [first, second, third, fourth]) :: scanLossy order rest
  | _ => ['\uFFFD']

/-- The text that units of four bytes spell, with replacements for what is no character. -/
def decodeLossy (order : ByteOrder) (bytes : Bytes) : String := String.ofList (scanLossy order bytes)

end Utf32
end PathStore

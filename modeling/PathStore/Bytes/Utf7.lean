/-
This file reads text in which sections of base64 stand for all characters that are not plain.
-/
import PathStore.Bytes.Utf16
import PathStore.Text.Loose

namespace PathStore.Utf7

/-- The bits of a section that make no unit yet, and the first half of a pair that waits for its second one. -/
structure Section where
  value : Nat := 0
  count : Nat := 0
  half : Option Nat := none

/-- The six bits that a letter, a digit or a sign of a section stands for. -/
def sextet? (byte : UInt8) : Option Nat :=
  let code := byte.toNat
  if 0x41 ≤ code ∧ code ≤ 0x5A then some (code - 0x41)
  else if 0x61 ≤ code ∧ code ≤ 0x7A then some (code - 0x61 + 26)
  else if 0x30 ≤ code ∧ code ≤ 0x39 then some (code - 0x30 + 52)
  else if code = 0x2B then some 62
  else if code = 0x2F then some 63
  else none

namespace Section

/-- The symbols that a unit completes, and the half that waits after it. -/
def accept (half : Option Nat) (unit : Nat) : List Symbol × Option Nat :=
  match half with
  | some high =>
      if Utf16.isLow unit then ([.char (Utf16.joined high unit)], none)
      else if Utf16.isHigh unit then ([.ofCode high], some unit)
      else ([.ofCode high, .ofCode unit], none)
  | none => if Utf16.isHigh unit then ([], some unit) else ([.ofCode unit], none)

/-- The symbols that six more bits complete, and the section after them. -/
def push (found : Section) (bits : Nat) : List Symbol × Section :=
  let value := 64 * found.value + bits
  let count := found.count + 6
  if count < 16 then ([], { found with value, count })
  else
    let (symbols, half) := accept found.half (value / Nat.pow 2 (count - 16))
    (symbols, ⟨value % Nat.pow 2 (count - 16), count - 16, half⟩)

/-- Whether the bits that are left cannot be padding. -/
def isTorn (found : Section) : Bool := 6 ≤ found.count || found.value ≠ 0

end Section

/-- The replacement for what cannot be read. -/
def replacement : Symbol := .char '\uFFFD'

/-- The symbols that bytes spell within a section or outside of one; what cannot be read is replaced. -/
def scanLossy : Option Section → Bytes → List Symbol
  | none, [] => []
  | some found, [] => if found.half.isSome || found.isTorn then [replacement] else []
  | some found, byte :: rest =>
      match sextet? byte with
      | some bits =>
          let (symbols, found) := found.push bits
          symbols ++ scanLossy (some found) rest
      | none =>
          if found.isTorn then replacement :: scanLossy none rest
          else if byte = 0x2D then (found.half.map Symbol.ofCode).toList ++ scanLossy none rest
          else if byte < 0x80 then
            (found.half.map Symbol.ofCode).toList ++ .ofCode byte.toNat :: scanLossy none rest
          else replacement :: scanLossy none rest
  | none, [byte] => if byte = 0x2B then [] else if byte < 0x80 then [.ofCode byte.toNat] else [replacement]
  | none, byte :: next :: rest =>
      if byte = 0x2B then
        if next = 0x2D then .char '+' :: scanLossy none rest
        else if (sextet? next).isSome then scanLossy (some {}) (next :: rest)
        else replacement :: scanLossy none rest
      else if byte < 0x80 then .ofCode byte.toNat :: scanLossy none (next :: rest)
      else replacement :: scanLossy none (next :: rest)

/-- The text that bytes spell, with replacements for what cannot be read. -/
def decodeLossy (bytes : Bytes) : LooseText := .ofSymbols (scanLossy none bytes)

end PathStore.Utf7

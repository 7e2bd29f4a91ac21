/-
This file writes text as UTF-8 and reads it back, either strictly or with replacement characters.
-/
import PathStore.Bytes
import PathStore.Text.Loose

namespace PathStore.Utf8

/-- The UTF-8 bytes of a text. -/
def encode (text : String) : Bytes := text.toList.flatMap String.utf8EncodeChar

/-- A character of several bytes that has begun: its bits so far, the bytes owed and the range of the next one. -/
structure Pending where
  value : Nat
  owed : Nat
  low : UInt8
  high : UInt8

/-- What one byte does when no character is pending. -/
inductive Lead where
  | complete (character : Char)
  | opens (pending : Pending)
  | invalid

/-- The rule of the first byte, with the surrogate range admitted or not. -/
def lead (surrogates : Bool) (byte : UInt8) : Lead :=
  let code := byte.toNat
  if code < 0x80 then .complete (Char.ofNat code)
  else if code < 0xC2 then .invalid
  else if code < 0xE0 then .opens ⟨code - 0xC0, 1, 0x80, 0xBF⟩
  else if code = 0xE0 then .opens ⟨0, 2, 0xA0, 0xBF⟩
  else if code = 0xED then .opens ⟨0xD, 2, 0x80, if surrogates then 0xBF else 0x9F⟩
  else if code < 0xF0 then .opens ⟨code - 0xE0, 2, 0x80, 0xBF⟩
  else if code = 0xF0 then .opens ⟨0, 3, 0x90, 0xBF⟩
  else if code < 0xF4 then .opens ⟨code - 0xF0, 3, 0x80, 0xBF⟩
  else if code = 0xF4 then .opens ⟨4, 3, 0x80, 0x8F⟩
  else .invalid

/-- The symbols that bytes spell, with none for each longest run that begins one but does not finish it. -/
def scan (surrogates : Bool) : Option Pending → Bytes → List (Option Symbol)
  | none, [] => []
  | some _, [] => [none]
  | none, byte :: rest =>
      match lead surrogates byte with
      | .complete character => some (.char character) :: scan surrogates none rest
      | .opens pending => scan surrogates (some pending) rest
      | .invalid => none :: scan surrogates none rest
  | some pending, byte :: rest =>
      if pending.low ≤ byte ∧ byte ≤ pending.high then
        let value := 64 * pending.value + byte.toNat % 64
        if pending.owed ≤ 1 then some (.ofCode value) :: scan surrogates none rest
        else scan surrogates (some ⟨value, pending.owed - 1, 0x80, 0xBF⟩) rest
      else
        match lead surrogates byte with
        | .complete character => none :: some (.char character) :: scan surrogates none rest
        | .opens next => none :: scan surrogates (some next) rest
        | .invalid => none :: none :: scan surrogates none rest

/-- The text that bytes spell, or nothing if some run of them is not UTF-8. -/
def decode? (bytes : Bytes) : Option String :=
  ((scan false none bytes).mapM fun found => Option.bind found Symbol.char?).map String.ofList

/-- The same with encoded halves of surrogate pairs admitted, each of which stays alone. -/
def decodeWithSurrogates? (bytes : Bytes) : Option (List Symbol) := (scan true none bytes).mapM id

/-- The text with a replacement character for each run that is not UTF-8. -/
def decodeLossy (bytes : Bytes) : String :=
  String.ofList ((scan false none bytes).map fun found => (found.bind Symbol.char?).getD '\uFFFD')

end PathStore.Utf8

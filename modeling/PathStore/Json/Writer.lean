/-
This file writes JSON values in ASCII.
-/
import PathStore.Json
import PathStore.Number.Shortest
import PathStore.Text.Quoted

namespace PathStore.Json

/-- The separators of a written value. -/
structure Style where
  comma : String
  colon : String

def compact : Style := ⟨",", ":"⟩

def spaced : Style := ⟨", ", ": "⟩

/-- The sixteen-bit units of a character. -/
def unitsOf (character : Char) : List Nat :=
  let code := character.toNat
  if code < 0x10000 then [code] else [0xD800 + (code - 0x10000) / 0x400, 0xDC00 + (code - 0x10000) % 0x400]

/-- A character as it stands in a written text. -/
def escape (character : Char) : List Char :=
  if character = '"' || character = '\\' then ['\\', character]
  else if character = '\n' then ['\\', 'n']
  else if character = '\r' then ['\\', 'r']
  else if character = '\t' then ['\\', 't']
  else if character = '\x08' then ['\\', 'b']
  else if character = '\x0C' then ['\\', 'f']
  else if 0x20 ≤ character.toNat ∧ character.toNat < 0x7F then [character]
  else (unitsOf character).flatMap fun unit => '\\' :: 'u' :: Text.hexDigits 4 unit

/-- A symbol as it stands in a written text. -/
def escapeSymbol : Symbol → List Char
  | .char character => escape character
  | .half half => '\\' :: 'u' :: Text.hexDigits 4 half.code

/-- The names that stand for what is not a finite number. -/
def writeReal : Binary64 → String
  | .nan => "NaN"
  | .infinite negative => if negative then "-Infinity" else "Infinity"
  | number => number.toText

section Values

variable {τ : Type} [TextLike τ]

def writeText (value : τ) : List Char := '"' :: (TextLike.symbols value).flatMap escapeSymbol ++ ['"']

mutual

def writeValue (style : Style) : Json τ → List Char
  | .null => "null".toList
  | .bool value => (if value then "true" else "false").toList
  | .integer value => (toString value).toList
  | .real value => (writeReal value).toList
  | .text value => writeText value
  | .array items => '[' :: writeItems style items ++ [']']
  | .object members => '\x7b' :: writeMembers style members ++ ['\x7d']

def writeItems (style : Style) : List (Json τ) → List Char
  | [] => []
  | [item] => writeValue style item
  | item :: rest => writeValue style item ++ style.comma.toList ++ writeItems style rest

def writeMembers (style : Style) : List (τ × Json τ) → List Char
  | [] => []
  | [(name, value)] => writeText name ++ style.colon.toList ++ writeValue style value
  | (name, value) :: rest =>
      writeText name ++ style.colon.toList ++ writeValue style value ++ style.comma.toList ++ writeMembers style rest

end

/-- The written form of a value. -/
def write (style : Style) (value : Json τ) : String := String.ofList (writeValue style value)

end Values

end PathStore.Json

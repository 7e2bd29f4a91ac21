/-
This file writes text with percent escapes, as in URL paths and in queries, and reads it back.
-/
import PathStore.Bytes.Utf8

namespace PathStore.Url

def isAlphanumeric (character : Char) : Bool :=
  ('a' ≤ character ∧ character ≤ 'z') || ('A' ≤ character ∧ character ≤ 'Z') || ('0' ≤ character ∧ character ≤ '9')

/-- A letter, a digit or one of the four marks that never need an escape. -/
def isUnreserved (character : Char) : Bool :=
  isAlphanumeric character || character = '_' || character = '.' || character = '-' || character = '~'

/-- The escape of one byte. -/
def escapeByte (byte : UInt8) : List Char :=
  ['%', Bytes.upperHexDigit (byte.toNat / 16), Bytes.upperHexDigit (byte.toNat % 16)]

/-- The escapes of the bytes of a character. -/
def escapeCharacter (character : Char) : List Char := (String.utf8EncodeChar character).flatMap escapeByte

/-- The characters with an escape for each that is neither unreserved nor safe. -/
def escapeUnless (isSafe : Char → Bool) (characters : List Char) : List Char :=
  characters.flatMap fun character =>
    if isUnreserved character || isSafe character then [character] else escapeCharacter character

/-- A key as it stands in the path of a URL, where slashes stay. -/
def escapeKey (key : String) : String := String.ofList (escapeUnless (· = '/') key.toList)

/-- A field of a query, where a space becomes a plus sign. -/
def escapeField (field : String) : String :=
  String.ofList ((escapeUnless (· = ' ') field.toList).map fun character =>
    if character = ' ' then '+' else character)

/-- The query that the given fields make. -/
def writeQuery (fields : List (String × String)) : String :=
  "&".intercalate (fields.map fun (name, value) => escapeField name ++ "=" ++ escapeField value)

/-- The bytes that characters with escapes stand for. -/
def unescapeBytes? : List Char → Option Bytes
  | [] => some []
  | '%' :: high :: low :: rest => do
      let upper ← Bytes.hexValue? high
      let lower ← Bytes.hexValue? low
      let tail ← unescapeBytes? rest
      some (UInt8.ofNat (16 * upper + lower) :: tail)
  | character :: rest =>
      if character = '%' then none
      else (unescapeBytes? rest).map (String.utf8EncodeChar character ++ ·)

/-- The bytes that characters stand for, where what is no escape stands for itself. -/
def unescapeBytes : List Char → Bytes
  | [] => []
  | '%' :: high :: low :: rest =>
      match Bytes.hexValue? high, Bytes.hexValue? low with
      | some upper, some lower => UInt8.ofNat (16 * upper + lower) :: unescapeBytes rest
      | _, _ => String.utf8EncodeChar '%' ++ unescapeBytes (high :: low :: rest)
  | character :: rest => String.utf8EncodeChar character ++ unescapeBytes rest

/-- The text that characters stand for, with replacement characters for bytes that spell none. -/
def unescapeLossy (text : String) : String := Utf8.decodeLossy (unescapeBytes text.toList)

/-- The text that characters with escapes stand for. -/
def unescape? (text : String) : Option String := (unescapeBytes? text.toList).bind Utf8.decode?

end PathStore.Url

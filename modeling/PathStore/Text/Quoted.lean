/-
This file writes a text between quotes, with escapes for what cannot be shown.
-/
import PathStore.Bytes
import PathStore.Text.Loose
import PathStore.Text.Printable

namespace PathStore.Text

/-- The given number of lowercase hexadecimal digits of a number. -/
def hexDigits (count value : Nat) : List Char :=
  (List.range count).map fun index => Bytes.hexDigit (value / Nat.pow 16 (count - 1 - index) % 16)

/-- Double quotes if the text holds single quotes only, and single quotes otherwise. -/
def quoteFor (symbols : List Symbol) : Char :=
  if symbols.contains (.char '\'') && !symbols.contains (.char '"') then '"' else '\''

/-- A symbol as it stands between the given quotes. -/
def escapeQuoted (quote : Char) : Symbol → List Char
  | .half half => '\\' :: 'u' :: hexDigits 4 half.code
  | .char character =>
      let code := character.toNat
      if character = quote || character = '\\' then ['\\', character]
      else if character = '\n' then ['\\', 'n']
      else if character = '\r' then ['\\', 'r']
      else if character = '\t' then ['\\', 't']
      else if isPrintable character then [character]
      else if code < 0x100 then '\\' :: 'x' :: hexDigits 2 code
      else if code < 0x10000 then '\\' :: 'u' :: hexDigits 4 code
      else '\\' :: 'U' :: hexDigits 8 code

/-- The text between quotes. -/
def quoted {τ : Type} [TextLike τ] (text : τ) : String :=
  let symbols := TextLike.symbols text
  let quote := quoteFor symbols
  String.ofList (quote :: symbols.flatMap (escapeQuoted quote) ++ [quote])

end PathStore.Text

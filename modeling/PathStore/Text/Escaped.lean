/-
This file reads text in which a backslash begins a character that is told by its code or its letter.
-/
import PathStore.Bytes
import PathStore.Text.Loose

namespace PathStore.Text.Escaped

/-- The value of a hexadecimal digit. -/
def hexDigit? (byte : UInt8) : Option Nat :=
  let code := byte.toNat
  if 0x30 ≤ code ∧ code ≤ 0x39 then some (code - 0x30)
  else if 0x41 ≤ code ∧ code ≤ 0x46 then some (code - 0x37)
  else if 0x61 ≤ code ∧ code ≤ 0x66 then some (code - 0x57)
  else none

/-- The value of a number of hexadecimal digits, if there are so many, and how many of them there are. -/
def hexadecimal (count : Nat) (bytes : Bytes) : Option Nat × Nat :=
  let digits := (bytes.take count).takeWhile (hexDigit? · |>.isSome)
  let value := digits.foldl (fun value byte => 16 * value + (hexDigit? byte).getD 0) 0
  (if digits.length = count ∧ value < 0x110000 then some value else none, digits.length)

/-- The replacement for what cannot be read. -/
def replacement : Symbol := .char '\uFFFD'

/-- The symbol that hexadecimal digits after a letter tell, and how many bytes tell it. -/
def coded (count : Nat) (rest : Bytes) : List Symbol × Nat :=
  match hexadecimal count rest with
  | (some code, _) => ([.ofCode code], count)
  | (none, found) => ([replacement], found)

/-- The value of up to three octal digits, and how many there are. -/
def octal (bytes : Bytes) : Nat × Nat :=
  let digits := (bytes.take 3).takeWhile fun byte => 0x30 ≤ byte ∧ byte ≤ 0x37
  (digits.foldl (fun value byte => 8 * value + (byte.toNat - 0x30)) 0, digits.length)

/-- The characters that letters after a backslash stand for; a line break stands for none. -/
def letters : List (Char × List Char) :=
  [('\n', []), ('\\', ['\\']), ('\'', ['\'']), ('"', ['"']), ('a', ['\x07']), ('b', ['\x08']), ('f', ['\x0C']),
   ('n', ['\n']), ('r', ['\r']), ('t', ['\t']), ('v', ['\x0B'])]

/-- How many bytes a name between braces takes, if it is closed and not empty. -/
def nameLength (rest : Bytes) : Nat :=
  match rest with
  | 0x7B :: name =>
      let length := (name.takeWhile (· ≠ 0x7D)).length
      if length = name.length then length + 1
      else if length = 0 then 1
      else length + 2
  | _ => 0

/-- The symbols that the bytes after a backslash spell, and how many of the bytes belong to them. -/
def escape (byte : UInt8) (rest : Bytes) : List Symbol × Nat :=
  let letter := Char.ofNat byte.toNat
  match letters.lookup letter with
  | some characters => (characters.map .char, 0)
  | none =>
      if 0x30 ≤ byte ∧ byte ≤ 0x37 then
        let (code, length) := octal (byte :: rest)
        ([.ofCode code], length - 1)
      else
        match letter with
        | 'x' => coded 2 rest
        | 'u' => coded 4 rest
        | 'U' => coded 8 rest
        | 'N' => ([replacement], nameLength rest)
        | _ => ([.char '\\', .char letter], 0)

/-- The symbols that the bytes after a backslash spell where only codes are escaped. -/
def escapeCode (byte : UInt8) (rest : Bytes) : List Symbol × Nat :=
  match Char.ofNat byte.toNat with
  | 'u' => coded 4 rest
  | 'U' => coded 8 rest
  | letter => ([.char '\\', .char letter], 0)

/-- The symbols that bytes spell; a byte that is not escaped stands for its own code. -/
def scan (escape : UInt8 → Bytes → List Symbol × Nat) (last : Symbol) : Bytes → List Symbol
  | [] => []
  | [byte] => [if byte = 0x5C then last else .ofCode byte.toNat]
  | byte :: next :: rest =>
      if byte = 0x5C then (escape next rest).1 ++ scan escape last (rest.drop (escape next rest).2)
      else .ofCode byte.toNat :: scan escape last (next :: rest)
  termination_by bytes => bytes.length
  decreasing_by all_goals simp only [List.length_drop, List.length_cons]; omega

/-- The text that bytes spell with all escapes. -/
def decodeLossy (bytes : Bytes) : LooseText := .ofSymbols (scan escape replacement bytes)

/-- The text that bytes spell where only codes are escaped. -/
def decodeCodes (bytes : Bytes) : LooseText := .ofSymbols (scan escapeCode (.char '\\') bytes)

end PathStore.Text.Escaped

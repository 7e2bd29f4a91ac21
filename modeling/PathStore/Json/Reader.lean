/-
This file reads JSON values from text and from encoded bytes.
-/
import PathStore.Bytes.Utf8
import PathStore.Json
import PathStore.Number.Numeral

namespace PathStore.Json

def isSpace (symbol : Symbol) : Bool :=
  symbol = .char ' ' || symbol = .char '\t' || symbol = .char '\n' || symbol = .char '\r'

def skipSpace (input : List Symbol) : List Symbol := input.dropWhile isSpace

/-- The character that a letter after a backslash stands for. -/
def unescape? (letter : Char) : Option Char :=
  if letter = '"' || letter = '\\' || letter = '/' then some letter
  else if letter = 'b' then some '\x08'
  else if letter = 'f' then some '\x0C'
  else if letter = 'n' then some '\n'
  else if letter = 'r' then some '\r'
  else if letter = 't' then some '\t'
  else none

/-- The number that four hexadecimal digits spell. -/
def unit? (first second third fourth : Char) : Option Nat := do
  let a ← Bytes.hexValue? first
  let b ← Bytes.hexValue? second
  let c ← Bytes.hexValue? third
  let d ← Bytes.hexValue? fourth
  some (4096 * a + 256 * b + 16 * c + d)

/-- Why a text or bytes hold no value. -/
inductive Fault where
  | undecodable
  | malformed
  | tooManyDigits (count : Nat)
  | tooNested
  deriving DecidableEq, Repr

/-- The symbols read so far, after a leading half of a pair that no trailing one has followed. -/
def settle (high : Option Nat) (read : List Symbol) : List Symbol :=
  match high with
  | none => read
  | some half => .ofCode half :: read

/-- The state after the number of an escape: the leading half that waits, and the symbols read. -/
def acceptUnit (high : Option Nat) (unit : Nat) (read : List Symbol) : Option Nat × List Symbol :=
  if 0xD800 ≤ unit ∧ unit < 0xDC00 then (some unit, settle high read)
  else if 0xDC00 ≤ unit ∧ unit < 0xE000 then
    match high with
    | some leading => (none, .ofCode (0x10000 + (leading - 0xD800) * 0x400 + (unit - 0xDC00)) :: read)
    | none => (none, .ofCode unit :: read)
  else (none, .ofCode unit :: settle high read)

/-- The rest of a text after its opening quote, with the symbols read so far in reverse. -/
def readText (high : Option Nat) (read : List Symbol) : List Symbol → Option (LooseText × List Symbol)
  | [] => none
  | symbol :: rest =>
      if symbol = .char '"' then some (.ofSymbols (settle high read).reverse, rest)
      else if symbol = .char '\\' then
        match rest with
        | .char 'u' :: .char first :: .char second :: .char third :: .char fourth :: more =>
            match unit? first second third fourth with
            | some unit => readText (acceptUnit high unit read).1 (acceptUnit high unit read).2 more
            | none => none
        | .char letter :: more =>
            match unescape? letter with
            | some escaped => readText none (.char escaped :: settle high read) more
            | none => none
        | _ => none
      else if symbol.code < 0x20 then none
      else readText none (symbol :: settle high read) rest

/-- The digits at the front, and the rest. -/
def splitDigits : List Symbol → List Char × List Symbol
  | .char digit :: rest =>
      if Numeral.isDigit digit then (digit :: (splitDigits rest).1, (splitDigits rest).2) else ([], .char digit :: rest)
  | input => ([], input)

/-- The digits after a point, if there are any, and the rest. -/
def splitFraction (input : List Symbol) : List Char × List Symbol :=
  match input with
  | .char '.' :: more => if (splitDigits more).1.isEmpty then ([], input) else splitDigits more
  | _ => ([], input)

/-- Whether a minus stands at the front, and the rest after a sign. -/
def splitSign : List Symbol → Bool × List Symbol
  | .char '-' :: rest => (true, rest)
  | .char '+' :: rest => (false, rest)
  | input => (false, input)

/-- The number after the mark of an exponent, if there is one, and the rest. -/
def splitExponent (input : List Symbol) : Option Int × List Symbol :=
  match input with
  | .char mark :: more =>
      let (below, unsigned) := splitSign more
      let (digits, rest) := splitDigits unsigned
      match if mark = 'e' || mark = 'E' then Numeral.digits? digits else none with
      | some magnitude => (some (if below then -(magnitude : Int) else magnitude), rest)
      | none => (none, input)
  | _ => (none, input)

/-- A number after its sign. -/
def readNumber (negative : Bool) (input : List Symbol) : Except Fault (Reply × List Symbol) := do
  let (whole, rest) := splitDigits input
  if whole.head? = some '0' ∧ whole.length ≠ 1 then throw .malformed
  let (fraction, rest) := splitFraction rest
  let (exponent, rest) := splitExponent rest
  if fraction.isEmpty && exponent.isNone && Numeral.digitLimit < whole.length then
    throw (.tooManyDigits whole.length)
  let digits ←
    if whole.isEmpty then throw .malformed else (Numeral.digits? (whole ++ fraction)).getDM (throw .malformed)
  if fraction.isEmpty && exponent.isNone then return (.integer (if negative then -(digits : Int) else digits), rest)
  return (.real (.ofDecimal negative digits (exponent.getD 0 - fraction.length)), rest)

/-- The rest after the given word. -/
def dropWord (word : String) (value : Reply) (input : List Symbol) : Except Fault (Reply × List Symbol) :=
  if (word.toList.map Symbol.char).isPrefixOf input then .ok (value, input.drop word.length) else .error .malformed

/-- A value that is neither a text nor a container. -/
def readScalar (input : List Symbol) : Except Fault (Reply × List Symbol) :=
  match input with
  | .char 'n' :: _ => dropWord "null" .null input
  | .char 't' :: _ => dropWord "true" (.bool true) input
  | .char 'f' :: _ => dropWord "false" (.bool false) input
  | .char 'N' :: _ => dropWord "NaN" (.real .nan) input
  | .char 'I' :: _ => dropWord "Infinity" (.real (.infinite false)) input
  | .char '-' :: .char 'I' :: _ => dropWord "-Infinity" (.real (.infinite true)) input
  | .char '-' :: rest => readNumber true rest
  | _ => readNumber false input

/-- A text after its opening quote, and the rest. -/
def readQuoted (input : List Symbol) : Except Fault (LooseText × List Symbol) :=
  (readText none [] input).getDM (throw .malformed)

mutual

/-- The value at the front and the rest; the fuel bounds the values read, and the room how deep containers go. -/
def readValue : Nat → Nat → List Symbol → Except Fault (Reply × List Symbol)
  | 0, _, _ => .error .malformed
  | fuel + 1, room, input =>
      match input with
      | .char '"' :: rest => (readQuoted rest).map fun (value, rest) => (.text value, rest)
      | .char '[' :: rest =>
          match room with
          | 0 => .error .tooNested
          | room + 1 =>
              match skipSpace rest with
              | .char ']' :: rest => .ok (.array [], rest)
              | rest => readItems fuel room [] rest
      | .char '{' :: rest =>
          match room with
          | 0 => .error .tooNested
          | room + 1 =>
              match skipSpace rest with
              | .char '}' :: rest => .ok (.object [], rest)
              | rest => readMembers fuel room [] rest
      | _ => readScalar input

/-- The items that remain of an array, after those already read in reverse. -/
def readItems : Nat → Nat → List Reply → List Symbol → Except Fault (Reply × List Symbol)
  | 0, _, _, _ => .error .malformed
  | fuel + 1, room, items, input =>
      match readValue fuel room input with
      | .error fault => .error fault
      | .ok (value, rest) =>
          match skipSpace rest with
          | .char ',' :: rest => readItems fuel room (value :: items) (skipSpace rest)
          | .char ']' :: rest => .ok (.array (value :: items).reverse, rest)
          | _ => .error .malformed

/-- The members that remain of an object, after those already read in reverse. -/
def readMembers : Nat → Nat → List (LooseText × Reply) → List Symbol → Except Fault (Reply × List Symbol)
  | 0, _, _, _ => .error .malformed
  | fuel + 1, room, members, input =>
      match input with
      | .char '"' :: rest =>
          match readQuoted rest with
          | .error fault => .error fault
          | .ok (name, rest) =>
              match skipSpace rest with
              | .char ':' :: rest =>
                  match readValue fuel room (skipSpace rest) with
                  | .error fault => .error fault
                  | .ok (value, rest) =>
                      match skipSpace rest with
                      | .char ',' :: rest => readMembers fuel room ((name, value) :: members) (skipSpace rest)
                      | .char '}' :: rest => .ok (ofMembers ((name, value) :: members).reverse, rest)
                      | _ => .error .malformed
              | _ => .error .malformed
      | _ => .error .malformed

end

/-- The value that symbols spell, with spaces around it and nothing else; as many containers as the room may stand one
inside the other. -/
def read (room : Nat) (symbols : List Symbol) : Except Fault Reply := do
  let input := skipSpace symbols
  let (value, rest) ← readValue (input.length + 1) room input
  if (skipSpace rest).isEmpty then return value else throw .malformed

/-- The symbols of sixteen-bit units, in which halves of pairs may stand alone. -/
def symbolsOfUnits (high : Option Nat) (read : List Symbol) : List Nat → List Symbol
  | [] => (settle high read).reverse
  | unit :: rest => symbolsOfUnits (acceptUnit high unit read).1 (acceptUnit high unit read).2 rest

/-- The numbers that groups of bytes of a width spell, if the groups come out even. -/
def groups? (width : Nat) (bigEndian : Bool) : Nat → Bytes → Option (List Nat)
  | 0, _ => none
  | fuel + 1, bytes =>
      if bytes.isEmpty then some []
      else if bytes.length < width then none
      else
        let group := if bigEndian then bytes.take width else (bytes.take width).reverse
        (groups? width bigEndian fuel (bytes.drop width)).map
          (group.foldl (fun value byte => 256 * value + byte.toNat) 0 :: ·)

def decodeWide? (width : Nat) (bigEndian : Bool) (bytes : Bytes) : Option (List Symbol) := do
  let numbers ← groups? width bigEndian (bytes.length + 1) bytes
  if width = 2 then some (symbolsOfUnits none [] numbers)
  else if numbers.all (· < 0x110000) then some (numbers.map Symbol.ofCode)
  else none

/-- The symbols of bytes whose encoding shows in a byte order mark or in where the zero bytes are. -/
def decode? (bytes : Bytes) : Option (List Symbol) :=
  match bytes with
  | 0xFF :: 0xFE :: 0 :: 0 :: rest => decodeWide? 4 false rest
  | 0 :: 0 :: 0xFE :: 0xFF :: rest => decodeWide? 4 true rest
  | 0xFF :: 0xFE :: rest => decodeWide? 2 false rest
  | 0xFE :: 0xFF :: rest => decodeWide? 2 true rest
  | 0xEF :: 0xBB :: 0xBF :: rest => Utf8.decodeWithSurrogates? rest
  | 0 :: 0 :: _ :: _ :: _ => decodeWide? 4 true bytes
  | 0 :: _ :: _ :: _ :: _ => decodeWide? 2 true bytes
  | _ :: 0 :: 0 :: 0 :: _ => decodeWide? 4 false bytes
  | _ :: 0 :: _ :: _ :: _ => decodeWide? 2 false bytes
  | [0, _] => decodeWide? 2 true bytes
  | [_, 0] => decodeWide? 2 false bytes
  | _ => Utf8.decodeWithSurrogates? bytes

/-- The value that encoded bytes hold; as many containers as the room may stand one inside the other. -/
def ofBytes (room : Nat) (bytes : Bytes) : Except Fault Reply :=
  match decode? bytes with
  | none => .error .undecodable
  | some symbols => read room symbols

end PathStore.Json

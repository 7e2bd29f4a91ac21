/-
This file reads plain bytes in which some sequences switch between sets of characters.
-/
import PathStore.Text.CodePage.Iso
import PathStore.Text.Multibyte

namespace PathStore.Text

/-- The charsets that switch between sets of characters. -/
inductive Shifted where
  /-- Japanese with escape sequences. -/
  | iso2022Jp
  /-- The same with the supplement of the Japanese standard. -/
  | iso2022Jp1
  /-- The same with Korean, simplified Chinese, and characters of western Europe and Greek one at a time. -/
  | iso2022Jp2
  /-- Japanese with both planes of the extended standard. -/
  | iso2022Jp3 (edition : Kanji.Edition)
  /-- Japanese with the supplement and the narrow syllabary. -/
  | iso2022JpExt
  /-- Korean with escape sequences and two shifts. -/
  | iso2022Kr
  /-- Simplified Chinese between tildes with braces. -/
  | hz
  deriving DecidableEq, Repr

namespace Shifted

/-- The sets of characters that bytes are read in. -/
inductive CharacterSet where
  | ascii
  /-- ASCII with two signs of its own for Japan. -/
  | roman
  | japanese
  | japaneseSupplement
  | syllabary
  | firstPlane (edition : Kanji.Edition)
  /-- The second plane as the later edition has it. -/
  | secondPlane
  | korean
  | chinese
  /-- Characters of western Europe, which are called for one at a time. -/
  | western
  /-- Greek characters, which are called for one at a time. -/
  | greek
  deriving DecidableEq, Repr

/-- The sets in use, which of them is read, and whether a sequence for something else is passed on as it is. The third
set is for single characters. -/
structure Mode where
  first : CharacterSet := .ascii
  second : CharacterSet := .ascii
  third : CharacterSet := .ascii
  isShifted : Bool := false
  isPassing : Bool := false
  deriving DecidableEq, Repr

/-- What the next bytes are: characters and how many bytes after the first one belong to them, a break, or a call for a
single character from a set that has none to give so. -/
inductive Step where
  | read (characters : List Char) (mode : Mode) (used : Nat)
  | broken
  | unready

namespace CharacterSet

/-- The number of bytes that make a character. -/
def width : CharacterSet → Nat
  | ascii | roman | syllabary | western | greek => 1
  | _ => 2

/-- The characters that bytes of the width make. -/
def characters? : CharacterSet → List Nat → Option (List Char)
  | ascii, [byte] => some [Char.ofNat byte]
  | roman, [byte] => some [if byte = 0x5C then '\u00A5' else if byte = 0x7E then '\u203E' else Char.ofNat byte]
  | syllabary, [byte] => (Multibyte.narrow? (byte + 0x80)).map ([·])
  | japanese, [lead, trail] => upper lead trail fun lead trail => (Grid.japanese.pair? lead trail).map ([·])
  | japaneseSupplement, [lead, trail] =>
      upper lead trail fun lead trail => (Grid.japaneseSupplement.pair? lead trail).map ([·])
  | firstPlane edition, [lead, trail] => upper lead trail (Kanji.firstPlane? edition)
  | secondPlane, [lead, trail] => upper lead trail (Kanji.secondPlane? .of2004)
  | korean, [lead, trail] => upper lead trail fun lead trail => (Multibyte.koreanPair? lead trail).map ([·])
  | chinese, [lead, trail] => upper lead trail fun lead trail => (Multibyte.basicPair? lead trail).map ([·])
  | _, _ => none
where
  upper (lead trail : Nat) (pair? : Nat → Nat → Option (List Char)) : Option (List Char) :=
    if lead < 0x80 ∧ trail < 0x80 then pair? (lead + 0x80) (trail + 0x80) else none

/-- The Greek character of an upper byte. -/
def greek? (byte : Nat) : Option Char :=
  if byte < 0xA0 then some (Char.ofNat byte)
  else if [0xA4, 0xA5, 0xAA].contains byte then none
  else do
    let page ← CodePage.isoPages.find? (·.name = "iso8859_7")
    let character ← (page.decode [byte.toUInt8]).toList.head?
    if character = '\uFFFD' then none else some character

/-- The character of a byte that is called for on its own, or nothing if the set has none for it. The byte is a lower
one that stands for an upper one; Greek takes an upper one for a lower one, too. -/
def single? : CharacterSet → Nat → Option (Option Char)
  | western, byte => some (if byte < 0x80 then some (Char.ofNat (byte + 0x80)) else none)
  | greek, byte => some (if byte < 0x80 then greek? (byte + 0x80) else some (Char.ofNat (byte - 0x80)))
  | ascii, byte => some (if byte < 0x80 then some (Char.ofNat byte) else none)
  | _, _ => none

/-- The sets of a charset beside ASCII, with the last byte of the sequence that calls for each and whether the sequence
is one for pairs. -/
def sets : Shifted → List (Bool × UInt8 × CharacterSet)
  | .iso2022Jp => japaneseSets
  | .iso2022Jp1 => (true, 0x44, japaneseSupplement) :: japaneseSets
  | .iso2022Jp2 =>
      [(true, 0x44, japaneseSupplement), (true, 0x43, korean), (true, 0x41, chinese), (false, 0x41, western),
       (false, 0x46, greek)] ++ japaneseSets
  | .iso2022Jp3 edition =>
      [(true, 0x42, japanese), (true, if edition = .of2000 then 0x4F else 0x51, firstPlane edition),
       (true, 0x50, secondPlane)]
  | .iso2022JpExt => [(true, 0x44, japaneseSupplement), (false, 0x49, syllabary)] ++ japaneseSets
  | .iso2022Kr => [(true, 0x43, korean)]
  | .hz => []
where
  japaneseSets : List (Bool × UInt8 × CharacterSet) :=
    [(false, 0x4A, roman), (true, 0x40, japanese), (true, 0x42, japanese)]

/-- The set that an escape sequence calls for by its last byte. -/
def called? (charset : Shifted) (isWide : Bool) (final : UInt8) : Option CharacterSet :=
  ((false, 0x42, ascii) :: sets charset).findSome? fun (wide, last, set) =>
    if wide = isWide ∧ last = final then some set else none

end CharacterSet

/-- Whether a byte ends an escape sequence. -/
def isFinal (byte : UInt8) : Bool := 0x40 ≤ byte ∧ byte ≤ 0x5A

/-- The greatest number of bytes after an escape. -/
def greatestLength : Nat := 15

/-- How many bytes after the escape a sequence has, counted on; a mark of a revision does not end it, and one that is
too long has none. -/
def sequenceLength? (isRevised : Bool) (count : Nat) (bytes : Bytes) : Option Nat :=
  if greatestLength ≤ count then some 0
  else
    match bytes with
    | [] => none
    | byte :: rest =>
        if isFinal byte then some (count + 1)
        else if isRevised && byte = 0x26 && rest.head? = some 0x40 then
          sequenceLength? isRevised (count + 3) (rest.drop 2)
        else sequenceLength? isRevised (count + 1) rest
  termination_by greatestLength - count

/-- The mode after an escape sequence, given by what follows the escape. -/
def switched? (charset : Shifted) (mode : Mode) (sequence : Bytes) : Option Mode :=
  let first (isWide : Bool) (final : UInt8) : Option Mode :=
    (CharacterSet.called? charset isWide final).map fun set => { mode with first := set }
  let second (isWide : Bool) (final : UInt8) : Option Mode :=
    (CharacterSet.called? charset isWide final).map fun set => { mode with second := set }
  let third (final : UInt8) : Option Mode :=
    (CharacterSet.called? charset false final).map fun set => { mode with third := set }
  match sequence with
  | [0x28, final] => first false final
  | [0x29, final] => second false final
  | [0x24, final] | [0x24, 0x28, final] => first true final
  | [0x24, 0x29, final] => second true final
  | [0x2E, final] => if charset = .iso2022Jp2 then third final else none
  | [_, _, 0x1B, 0x24, 0x42] => if charset = .iso2022Kr then none else first true 0x42
  | _ => none

/-- The next step where a single character is called for, by what follows the call. -/
def callSingle (mode : Mode) (rest : Bytes) : Step :=
  match rest with
  | [] => .broken
  | byte :: _ =>
      match mode.third.single? byte.toNat with
      | some (some character) => .read [character] mode 2
      | some none => .read ['\uFFFD'] mode 2
      | none => .unready

/-- The next step where an escape begins; one that calls for no set is passed on until it ends. -/
def escape (charset : Shifted) (mode : Mode) (rest : Bytes) : Step :=
  match rest with
  | [] => .broken
  | next :: behind =>
      if [0x28, 0x29, 0x24, 0x2E, 0x26].contains next then
        match sequenceLength? (charset != .iso2022Kr) 0 rest with
        | none => .broken
        | some length =>
            match switched? charset mode (rest.take length) with
            | some mode => .read [] mode length
            | none => .read ['\uFFFD'] mode length
      else if next = 0x4E ∧ charset = .iso2022Jp2 then callSingle mode behind
      else .read ['\x1B'] { mode with isPassing := true } 0

/-- The next character of a set. -/
def stepIn (set : CharacterSet) (mode : Mode) (wrong : Nat) (byte : UInt8) (rest : Bytes) : Step :=
  if rest.length + 1 < set.width then .broken
  else
    match set.characters? ((byte :: rest.take (set.width - 1)).map UInt8.toNat) with
    | some characters => .read characters mode (set.width - 1)
    | none => .read ['\uFFFD'] mode wrong

/-- The next step of a charset with escape sequences. -/
def stepEscaped (charset : Shifted) (mode : Mode) (byte : UInt8) (rest : Bytes) : Step :=
  let plain (mode : Mode) : Step := .read [Char.ofNat byte.toNat] mode 0
  if mode.isPassing then plain { mode with isPassing := !isFinal byte }
  else if byte = 0x1B then escape charset mode rest
  else if byte = 0x0F ∧ charset = .iso2022Kr then .read [] { mode with isShifted := false } 0
  else if byte = 0x0E ∧ charset = .iso2022Kr then .read [] { mode with isShifted := true } 0
  else if byte = 0x0A then plain { mode with isShifted := false }
  else if byte < 0x20 then plain mode
  else if 0x80 ≤ byte then .read ['\uFFFD'] mode 0
  else
    let set := if mode.isShifted then mode.second else mode.first
    stepIn set mode (set.width - 1) byte rest

/-- The next step of a charset with tildes, which has two modes. -/
def stepTilde (mode : Mode) (byte : UInt8) (rest : Bytes) : Step :=
  if byte = 0x7E then
    match rest, mode.isShifted with
    | [], _ => .broken
    | 0x7E :: _, false => .read ['~'] mode 1
    | 0x7B :: _, false => .read [] { mode with isShifted := true } 1
    | 0x0A :: _, false => .read [] mode 1
    | 0x7D :: _, true => .read [] { mode with isShifted := false } 1
    | _, _ => .read ['\uFFFD'] mode 0
  else if 0x80 ≤ byte then .read ['\uFFFD'] mode 0
  else stepIn (if mode.isShifted then .chinese else .ascii) mode 0 byte rest

def step (charset : Shifted) (mode : Mode) (byte : UInt8) (rest : Bytes) : Step :=
  if charset = .hz then stepTilde mode byte rest else stepEscaped charset mode byte rest

/-- Why bytes spell no text. -/
inductive Fault where
  /-- Too many bytes break off at the end. -/
  | unfinished
  /-- A single character is called for from a set that has none to give so. -/
  | unready
  deriving DecidableEq, Repr

/-- The characters that bytes spell, and the bytes that break off at the end. -/
def scan (charset : Shifted) (mode : Mode) : Bytes → Except Fault (List Char × Bytes)
  | [] => .ok ([], [])
  | byte :: rest =>
      match step charset mode byte rest with
      | .broken => .ok ([], byte :: rest)
      | .unready => .error .unready
      | .read characters after used => do
          let (found, left) ← scan charset after (rest.drop used)
          return (characters ++ found, left)
  termination_by bytes => bytes.length
  decreasing_by simp only [List.length_drop, List.length_cons]; omega

/-- How many bytes may break off. -/
def greatestBreak : Nat := 8

/-- The text that bytes spell, with replacements for what cannot be read, unless too many bytes break off. -/
def decodeLossy (charset : Shifted) (bytes : Bytes) : Except Fault String := do
  let (characters, left) ← scan charset {} bytes
  if greatestBreak < left.length then throw .unfinished
  return String.ofList (characters ++ if left.isEmpty then [] else ['\uFFFD'])

end Shifted
end PathStore.Text

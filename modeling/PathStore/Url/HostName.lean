/-
This file writes the names of hosts in ASCII, and reads them back.
-/
import PathStore.Text.Case
import PathStore.Text.Composition
import PathStore.Text.Direction
import PathStore.Text.NameLetter
import PathStore.Text.Punycode
import PathStore.Text.Script

namespace PathStore.Url.HostName

/-- Why a text is no name of a host. -/
inductive Fault where
  | malformed
  /-- A character that no name holds. -/
  | character
  /-- A character that names hold only beside certain others. -/
  | context
  /-- Characters that run in different directions. -/
  | direction
  deriving DecidableEq, Repr

/-- The dots that stand between labels. -/
def isDot (character : Char) : Bool :=
  character = '.' || character.toNat = 0x3002 || character.toNat = 0xFF0E || character.toNat = 0xFF61

/-- The labels between dots. -/
def splitLabels : List Char → List (List Char)
  | [] => [[]]
  | character :: rest =>
      if isDot character then [] :: splitLabels rest
      else
        match splitLabels rest with
        | [] => [[character]]
        | label :: labels => (character :: label) :: labels

def isVirama (character : Option Char) : Bool := character.any (Text.combiningClass · = Text.viramaClass)

/-- Whether a joiner may stand between what comes before it, in reverse, and what comes after it. -/
def mayJoin (joiner : Char) (before after : List Char) : Bool :=
  isVirama before.head? ||
    (joiner.toNat = 0x200C && (before.dropWhile Text.isPassed).head?.any Text.joinsAfter &&
      (after.dropWhile Text.isPassed).head?.any Text.joinsBefore)

def isJoiner (character : Char) : Bool := character.toNat = 0x200C || character.toNat = 0x200D

def isArabicDigit (character : Char) : Bool := 0x660 ≤ character.toNat ∧ character.toNat ≤ 0x669

def isEasternDigit (character : Char) : Bool := 0x6F0 ≤ character.toNat ∧ character.toNat ≤ 0x6F9

/-- Whether a sign that depends on its neighbours may stand in a label; no answer for all other characters. -/
def mayStand? (label : List Char) (sign : Char) (before after : List Char) : Option Bool :=
  let code := sign.toNat
  if code = 0xB7 then some (before.head? = some 'l' && after.head? = some 'l')
  else if code = 0x375 then some (after.head?.any Text.isGreek)
  else if code = 0x5F3 ∨ code = 0x5F4 then some (before.head?.any Text.isHebrew)
  else if code = 0x30FB then some (label.any fun character => character ≠ sign && Text.isJapanese character)
  else if isArabicDigit sign then some (!label.any isEasternDigit)
  else if isEasternDigit sign then some (!label.any isArabicDigit)
  else none

/-- Fails at the first character that may not stand where it does; those before it are in reverse. -/
def checkCharacters (label before : List Char) : List Char → Except Fault Unit
  | [] => .ok ()
  | character :: rest => do
      if !Text.isNameLetter character then
        if isJoiner character then
          if !mayJoin character before rest then throw .malformed
        else
          match mayStand? label character before rest with
          | some true => pure ()
          | some false => throw .context
          | none => throw .character
      checkCharacters label (character :: before) rest

def turnsRight (direction : Text.Direction) : Bool :=
  direction = .right || direction = .rightArabic || direction = .numberArabic

/-- The direction of the last character that is no mark. -/
def finalDirection (directions : List Text.Direction) : Option Text.Direction :=
  (directions.reverse.dropWhile (· = .mark)).head?

/-- Whether the directions of a label that begins with a letter from right to left agree. -/
def isRightToLeft (directions : List Text.Direction) : Bool :=
  !directions.contains .left && !(directions.contains .number && directions.contains .numberArabic) &&
    (finalDirection directions).any fun direction => turnsRight direction || direction = .number

/-- Whether the directions of a label that begins with a letter from left to right agree. -/
def isLeftToRight (directions : List Text.Direction) : Bool :=
  !directions.any turnsRight &&
    (finalDirection directions).any fun direction => direction = .left || direction = .number

/-- Fails if the characters of a label run in directions that do not agree. -/
def checkDirections (label : List Char) : Except Fault Unit :=
  let directions := label.map Text.direction
  let agree :=
    match directions.head? with
    | some .right | some .rightArabic => isRightToLeft directions
    | some .left => isLeftToRight directions
    | _ => false
  if directions.any turnsRight && !agree then .error .direction else .ok ()

/-- The most characters of a name. -/
def longestName : Nat := 253

/-- The most characters of a label in ASCII. -/
def longestLabel : Nat := 63

/-- Fails unless a text may be a label. -/
def checkLabel (label : List Char) : Except Fault Unit := do
  if label.isEmpty || longestName + 1 < label.length || !Text.isComposed label then throw .malformed
  if (label.drop 2).take 2 = ['-', '-'] || label.head? = some '-' || label.getLast? = some '-' then throw .malformed
  if label.head?.any Text.isMark then throw .malformed
  checkCharacters label [] label
  checkDirections label

/-- What a label in ASCII begins with if it stands for one beyond ASCII. -/
def mark : List Char := ['x', 'n', '-', '-']

/-- The label for which a label in ASCII stands. -/
def decodeLabel (label : List Char) : Except Fault (List Char) := do
  let small := label.map Char.toLower
  if mark.isPrefixOf small then
    let digits := small.drop mark.length
    if digits.isEmpty || digits.getLast? = some '-' then throw .malformed
    let decoded ← (Punycode.decode? digits).getDM (throw .malformed)
    checkLabel decoded
    return decoded
  else
    checkLabel small
    return small

/-- A label in ASCII. -/
def encodeLabel (label : List Char) : Except Fault (List Char) := do
  let isPlain := label.all (·.toNat < 0x80)
  if isPlain then
    let _ ← decodeLabel label
  else checkLabel label
  let encoded := if isPlain then label else mark ++ Punycode.encode label
  if longestLabel < encoded.length then throw .malformed
  return encoded

/-- The labels with a dot between neighbours. -/
def joinLabels : List (List Char) → List Char
  | [] => []
  | [label] => label
  | label :: rest => label ++ '.' :: joinLabels rest

/-- The labels of a name without the empty one that a dot at the end leaves, and whether there is such a dot. -/
def labels (name : List Char) : List (List Char) × Bool :=
  let all := splitLabels name
  if all.getLast? = some [] then (all.dropLast, true) else (all, false)

/-- A name in ASCII. -/
def encode (name : List Char) : Except Fault (List Char) := do
  if longestName + 1 < name.length then throw .malformed
  let (labels, hasDot) := labels name
  let encoded ← labels.mapM encodeLabel
  let joined := joinLabels (if hasDot then encoded ++ [[]] else encoded)
  if (if hasDot then longestName + 1 else longestName) < joined.length then throw .malformed
  return joined

/-- The name for which a name in ASCII stands. -/
def decode (name : List Char) : Except Fault (List Char) := do
  if longestName + 1 < name.length then throw .malformed
  let (labels, hasDot) := labels name
  let decoded ← labels.mapM decodeLabel
  return joinLabels (if hasDot then decoded ++ [[]] else decoded)

end PathStore.Url.HostName

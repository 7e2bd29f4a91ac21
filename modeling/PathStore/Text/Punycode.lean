/-
This file writes the characters beyond ASCII of a name with letters and digits, and reads them back.
-/
import PathStore.Bytes
import PathStore.Text.Loose

namespace PathStore.Punycode

/-- The digit of a number below thirty-six. -/
def digit (value : Nat) : Char := if value < 26 then Char.ofNat (97 + value) else Char.ofNat (22 + value)

/-- The number that a digit of either case stands for. -/
def digitValue? (character : Char) : Option Nat :=
  let code := character.toNat
  if 97 ≤ code ∧ code ≤ 122 then some (code - 97)
  else if 65 ≤ code ∧ code ≤ 90 then some (code - 65)
  else if 48 ≤ code ∧ code ≤ 57 then some (code - 22)
  else none

/-- The least digit at a place after which more digits come. -/
def threshold (place bias : Nat) : Nat := min 26 (max 1 (36 * (place + 1) - bias))

theorem threshold_pos (place bias : Nat) : 1 ≤ threshold place bias := by simp only [threshold]; omega

theorem threshold_le (place bias : Nat) : threshold place bias ≤ 26 := by simp only [threshold]; omega

/-- The bias that suits a distance, with what earlier steps add. -/
def settleBias (distance steps : Nat) : Nat :=
  if 455 < distance then settleBias (distance / 35) (steps + 36) else steps + 36 * distance / (distance + 38)
termination_by distance

/-- The bias after a distance, given how many characters there are then. -/
def adapt (distance count : Nat) (isFirst : Bool) : Nat :=
  let scaled := if isFirst then distance / 700 else distance / 2
  settleBias (scaled + scaled / count) 0

/-- The digits of a distance, from a place on. -/
def writeDistance (bias place distance : Nat) : List Char :=
  let least := threshold place bias
  if distance < least then [digit distance]
  else
    digit (least + (distance - least) % (36 - least)) ::
      writeDistance bias (place + 1) ((distance - least) / (36 - least))
termination_by distance
decreasing_by
  have positive := threshold_pos place bias
  have bounded := threshold_le place bias
  exact Nat.lt_of_le_of_lt (Nat.div_le_self _ _) (by omega)

/-- The digits so far, the distance since the last character was placed, the bias and how many characters are placed. -/
structure Progress where
  digits : List Char
  distance : Nat
  bias : Nat
  count : Nat

/-- What has been written once a character of a name is passed in the search for one with the given code. -/
def pass (basic code : Nat) (progress : Progress) (character : Nat) : Progress :=
  if character < code then { progress with distance := progress.distance + 1 }
  else if character = code then
    { digits := progress.digits ++ writeDistance progress.bias 0 progress.distance
      distance := 0
      bias := adapt progress.distance (progress.count + 1) (progress.count = basic)
      count := progress.count + 1 }
  else progress

/-- What has been written once the characters with the given ascending codes are placed. -/
def placeAll (basic : Nat) (name : List Nat) : Nat → Progress → List Nat → Progress
  | _, progress, [] => progress
  | next, progress, code :: rest =>
      let reached := { progress with distance := progress.distance + (code - next) * (progress.count + 1) }
      let placed := name.foldl (pass basic code) reached
      placeAll basic name (code + 1) { placed with distance := placed.distance + 1 } rest

/-- A name in letters and digits: its characters of ASCII, a hyphen, and where the others go. -/
def encode (name : List Char) : List Char :=
  let basic := name.filter (·.toNat < 0x80)
  let codes := name.map Char.toNat
  let others := ((codes.filter (0x80 ≤ ·)).mergeSort (· ≤ ·)).eraseDups
  let placed := placeAll basic.length codes 0x80 ⟨[], 0, 72, basic.length⟩ others
  basic ++ (if basic.isEmpty then [] else ['-']) ++ placed.digits

/-- The distance that digits spell from a place on, and the rest. -/
def readDistance? (bias place weight sum : Nat) : List Char → Option (Nat × List Char)
  | [] => none
  | character :: rest => do
      let value ← digitValue? character
      let least := threshold place bias
      let total := sum + value * weight
      if value < least then some (total, rest)
      else readDistance? bias (place + 1) (weight * (36 - least)) total rest

theorem length_lt_of_readDistance? {bias : Nat} {digits rest : List Char} {distance : Nat} :
    ∀ {place weight sum : Nat}, readDistance? bias place weight sum digits = some (distance, rest) →
      rest.length < digits.length := by
  induction digits with
  | nil => exact fun read => nomatch read
  | cons character behind ih =>
      intro place weight sum read
      rw [readDistance?] at read
      obtain ⟨value, -, read⟩ := Option.bind_eq_some_iff.mp read
      dsimp only at read
      split at read
      · obtain ⟨-, rfl⟩ := Prod.mk.inj (Option.some.inj read)
        exact Nat.lt_succ_self _
      · exact Nat.lt_succ_of_lt (ih read)

/-- The character with a code. No name may hold a half of a surrogate pair, nor the character that stands for it. -/
def character? (code : Nat) : Option Char :=
  if code.isValidChar then some (Char.ofNat code)
  else if code < 0x110000 then some '\uFFFF'
  else none

/-- The name once all distances are read. -/
def insertAll? (code position bias : Nat) (name digits : List Char) : Option (List Char) :=
  if digits.isEmpty then some name
  else
    match read : readDistance? bias 0 1 0 digits with
    | none => none
    | some (distance, rest) => do
        let reached := position + distance
        let places := name.length + 1
        let found := code + reached / places
        let character ← character? found
        let inserted := name.take (reached % places) ++ character :: name.drop (reached % places)
        insertAll? found (reached % places + 1) (adapt distance places (position = 0)) inserted rest
  termination_by digits.length
  decreasing_by exact length_lt_of_readDistance? read

/-- The name that letters and digits spell. -/
def decode? (text : List Char) : Option (List Char) :=
  let digits := (text.reverse.takeWhile (· != '-')).reverse
  let basic := if text.contains '-' then text.take (text.length - digits.length - 1) else []
  insertAll? 0x80 0 72 basic digits

/-- The text once all distances are read, up to one that is not spelled out. A code beyond all characters begins anew at
a question mark. -/
def insertSymbols (code position bias : Nat) (text : List Symbol) (digits : List Char) : List Symbol :=
  match read : readDistance? bias 0 1 0 digits with
  | none => text
  | some (distance, rest) =>
      let reached := position + distance
      let places := text.length + 1
      let found := if code + reached / places < 0x110000 then code + reached / places else '?'.toNat
      let inserted := text.take (reached % places) ++ .ofCode found :: text.drop (reached % places)
      insertSymbols found (reached % places + 1) (adapt distance places (position = 0)) inserted rest
  termination_by digits.length
  decreasing_by exact length_lt_of_readDistance? read

/-- The text that letters and digits spell, as far as they do; replacements stand for bytes before the last hyphen that
are no characters of ASCII, and behind it there may be none. -/
def decodeLossy? (bytes : Bytes) : Option LooseText :=
  let digits := (bytes.reverse.takeWhile (· != 0x2D)).reverse
  let basic := if bytes.contains 0x2D then bytes.take (bytes.length - digits.length - 1) else []
  let symbol (byte : UInt8) : Symbol := .char (if byte < 0x80 then Char.ofNat byte.toNat else '\uFFFD')
  if digits.all (· < 0x80) then
    some (.ofSymbols (insertSymbols 0x80 0 72 (basic.map symbol)
      (digits.map fun digit => Char.ofNat digit.toNat)))
  else none

end PathStore.Punycode

/-
This file puts syllables of Korean together from their letters.
-/
import PathStore.Text.Grid

namespace PathStore.Text.Hangul

/-- The letters that open a syllable. -/
def openings : List Char := "ㄱㄲㄴㄷㄸㄹㅁㅂㅃㅅㅆㅇㅈㅉㅊㅋㅌㅍㅎ".toList

/-- The letters that close a syllable. -/
def closings : List Char := "ㄱㄲㄳㄴㄵㄶㄷㄹㄺㄻㄼㄽㄾㄿㅀㅁㅂㅄㅅㅆㅇㅈㅊㅋㅌㅍㅎ".toList

/-- How many vowels there are. -/
def vowelCount : Nat := 21

/-- The vowel with a number. -/
def vowel (number : Nat) : Char := Char.ofNat (0x314F + number)

/-- The syllable with the numbers of an opening letter and a vowel, and with the number of a closing letter where there
is one. -/
def syllable (opening vowel : Nat) (closing : Option Nat) : Char :=
  Char.ofNat (0xAC00 + (opening * vowelCount + vowel) * (closings.length + 1) + closing.elim 0 (· + 1))

/-- What five bits tell of a syllable. -/
inductive Slot where
  | filler
  | letter (number : Nat)
  deriving DecidableEq, Repr

/-- The slot of five bits, by those of the filler and the ranges of the letters. -/
def slot? (filler : Nat) (letters : List (Nat × Nat)) (bits : Nat) : Option Slot :=
  if bits = filler then some .filler else (Grid.place? letters bits).map .letter

/-- The syllable or the letter of a pair of bytes with five bits for each of three letters. -/
def combined? (lead trail : Nat) : Option Char := do
  let bits := 256 * lead + trail
  let opening ← slot? 1 [(2, 20)] (bits / 1024 % 32)
  let middle ← slot? 2 [(3, 7), (10, 15), (18, 23), (26, 29)] (bits / 32 % 32)
  let closing ← slot? 1 [(2, 17), (19, 29)] (bits % 32)
  match opening, middle, closing with
  | .letter opening, .letter middle, .letter closing => some (syllable opening middle (some closing))
  | .letter opening, .letter middle, .filler => some (syllable opening middle none)
  | .letter opening, .filler, .filler => openings[opening]?
  | .filler, .letter middle, .filler => some (vowel middle)
  | .filler, .filler, .letter closing => closings[closing]?
  | .filler, .filler, .filler => some '\u3000'
  | _, _, _ => none

/-- The consonant at a place among all of them. -/
def consonant? (place : Nat) : Option Char := if place < 30 then some (Char.ofNat (0x3131 + place)) else none

/-- The syllable of an opening letter, a vowel and a closing letter or a filler, each by its place among the letters. -/
def madeUp? (opening middle closing : Nat) : Option Char := do
  let opening ← consonant? opening >>= openings.idxOf?
  let middle ← Grid.place? [(30, 50)] middle
  if closing = 51 then some (syllable opening middle none)
  else
    let closing ← consonant? closing >>= closings.idxOf?
    some (syllable opening middle (some closing))

end PathStore.Text.Hangul

/-
This file tells which characters are blank and trims them.
-/

namespace PathStore.Text

/-- The characters with the Unicode property of white space, and the four information separators. -/
def blankRanges : List (Nat × Nat) :=
  [(0x9, 0xD), (0x1C, 0x20), (0x85, 0x85), (0xA0, 0xA0), (0x1680, 0x1680), (0x2000, 0x200A),
   (0x2028, 0x2029), (0x202F, 0x202F), (0x205F, 0x205F), (0x3000, 0x3000)]

def inRanges (ranges : List (Nat × Nat)) (code : Nat) : Bool :=
  ranges.any fun (low, high) => low ≤ code ∧ code ≤ high

def isBlank (character : Char) : Bool := inRanges blankRanges character.toNat

/-- A blank that may surround a numeral, which an information separator may not. -/
def isNumeralBlank (character : Char) : Bool :=
  isBlank character ∧ ¬(0x1C ≤ character.toNat ∧ character.toNat ≤ 0x1F)

/-- The characters without those at the end that satisfy a test. -/
def dropEndWhile (test : Char → Bool) (characters : List Char) : List Char :=
  (characters.reverse.dropWhile test).reverse

/-- The characters without those at either end that satisfy a test. -/
def dropAround (test : Char → Bool) (characters : List Char) : List Char :=
  dropEndWhile test (characters.dropWhile test)

/-- The text without its blanks at either end. -/
def trim (text : String) : String := String.ofList (dropAround isBlank text.toList)

/-- The pieces of a list between the occurrences of a separator. -/
def splitList (separator : Char) : List Char → List (List Char)
  | [] => [[]]
  | character :: rest =>
      if character = separator then [] :: splitList separator rest
      else
        match splitList separator rest with
        | [] => [[character]]
        | piece :: pieces => (character :: piece) :: pieces

/-- The pieces of a text between the occurrences of a separator. -/
def split (separator : Char) (text : String) : List String :=
  (splitList separator text.toList).map String.ofList

end PathStore.Text

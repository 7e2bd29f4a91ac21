/-
This file breaks lines that are wider than the device.
-/
import PathStore.Text.Blank

namespace PathStore.Console

/-- The words of a line with the blanks after them; blanks before the first word belong to it. -/
def words (line : List Char) : List (List Char) :=
  match line.splitBy fun before after => !(Text.isBlank before && !Text.isBlank after) with
  | first :: second :: rest => if first.all Text.isBlank then (first ++ second) :: rest else first :: second :: rest
  | groups => groups

/-- The pieces of a word, all but the last of which are as wide as a line. -/
def pieces (width : Nat) (word : List Char) : List (List Char) :=
  if width = 0 ∨ word.length ≤ width then [word]
  else word.take width :: pieces width (word.drop width)
  termination_by word.length

/-- Lines with a word added: to the last one if it fits, in pieces if it fits none, and on a new line otherwise. -/
def addWord (width : Nat) (lines : List (List Char) × List Char) (word : List Char) : List (List Char) × List Char :=
  let (finished, current) := lines
  let visible := (Text.dropEndWhile Text.isBlank word).length
  if visible ≤ width - current.length then (finished, current ++ word)
  else if width < visible then
    let before := if current.isEmpty then finished else finished ++ [current]
    (before ++ (pieces width word).dropLast, (pieces width word).getLastD [])
  else (finished ++ [current], word)

/-- A line without those blanks at its end that are beyond the width. -/
def crop (width : Nat) (line : List Char) : List Char :=
  line.take (max width (Text.dropEndWhile Text.isBlank line).length)

/-- The lines of a width that a line makes. -/
def wrapLine (width : Nat) (line : List Char) : List (List Char) :=
  let (finished, last) := (words line).foldl (addWord width) ([], [])
  (finished ++ [last]).map (crop width)

/-- The lines of a width that a text makes. -/
def wrap (width : Nat) (text : String) : List String :=
  (Text.splitList '\n' text.toList).flatMap fun line => (wrapLine width line).map String.ofList

end PathStore.Console

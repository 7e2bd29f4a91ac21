/-
This file finds characters in tables with a row for each first byte and a cell for each second one.
-/

namespace PathStore.Text

/-- A table of characters for pairs of bytes; a space marks a cell that is open. -/
structure Grid where
  firstLead : Nat
  /-- The ranges of the second bytes in the order of the cells. -/
  trails : List (Nat × Nat)
  rows : List String

namespace Grid

/-- The place of a byte in the ranges, counted through all of them. -/
def place? : List (Nat × Nat) → Nat → Option Nat
  | [], _ => none
  | (low, high) :: rest, byte =>
      if low ≤ byte ∧ byte ≤ high then some (byte - low)
      else (place? rest byte).map (· + (high + 1 - low))

/-- The character of a pair of bytes. -/
def pair? (grid : Grid) (lead trail : Nat) : Option Char := do
  if lead < grid.firstLead then none
  let row ← grid.rows[lead - grid.firstLead]?
  let place ← place? grid.trails trail
  let character ← row.toList[place]?
  if character = ' ' then none else some character

end Grid
end PathStore.Text

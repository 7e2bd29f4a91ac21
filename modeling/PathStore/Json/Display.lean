/-
This file writes values as they stand in messages.
-/
import PathStore.Json
import PathStore.Number.Numeral
import PathStore.Number.Shortest
import PathStore.Text.Quoted

namespace PathStore

/-- The bounds that a host sets to the texts of messages. -/
structure Host where
  /-- The most digits of an integer, if there is a limit. -/
  digits : Option Nat
  /-- How many containers may stand one inside the other, which depends on how deep the stack is. -/
  nesting : Nat
  /-- No lower limit can be set. -/
  least : ∀ limit ∈ digits, 640 ≤ limit
  deriving DecidableEq, Repr

namespace Host

/-- How many containers may stand one inside the other where little else is on the stack. -/
def usualNesting : Nat := 985

/-- The bounds that apply unless others are set. -/
def standard : Host := ⟨some Numeral.digitLimit, usualNesting, by simp [Numeral.digitLimit_eq]⟩

/-- Whether an integer is written. -/
def writes (host : Host) (number : Int) : Bool := host.digits.all fun limit => number.natAbs < Nat.pow 10 limit

/-- A host without a limit writes every integer. -/
theorem writes_of_unlimited {host : Host} (unlimited : host.digits = none) (number : Int) :
    host.writes number = true := by
  rw [writes, unlimited]
  rfl

/-- Every host writes integers of at most 640 digits. -/
theorem writes_of_lt {host : Host} {number : Int} {digits : Nat} (few : digits ≤ 640)
    (short : number.natAbs < Nat.pow 10 digits) : host.writes number = true := by
  rw [writes, Option.all_eq_true]
  intro limit set
  exact decide_eq_true
    (Nat.lt_of_lt_of_le short (Nat.pow_le_pow_right (by decide) (Nat.le_trans few (host.least limit set))))

end Host

namespace Json

variable {τ : Type} [TextLike τ]

mutual

/-- A value inside a container, where texts are quoted. -/
def inspect : Json τ → String
  | .null => "None"
  | .bool value => if value then "True" else "False"
  | .integer value => toString value
  | .real value => value.toText
  | .text value => Text.quoted value
  | .array items => "[" ++ inspectItems items ++ "]"
  | .object members => "\x7b" ++ inspectMembers members ++ "\x7d"

def inspectItems : List (Json τ) → String
  | [] => ""
  | [item] => inspect item
  | item :: rest => inspect item ++ ", " ++ inspectItems rest

def inspectMembers : List (τ × Json τ) → String
  | [] => ""
  | [(name, value)] => Text.quoted name ++ ": " ++ inspect value
  | (name, value) :: rest => Text.quoted name ++ ": " ++ inspect value ++ ", " ++ inspectMembers rest

end

/-- Why a value has no text. -/
inductive Unshown where
  /-- An integer has more digits than are written. -/
  | digits
  /-- Containers stand too deep one inside the other. -/
  | depth
  deriving DecidableEq, Repr

mutual

/-- What keeps a value from being written on a host; so many containers may stand one inside the other. -/
def unshownIn? (host : Host) : Nat → Json τ → Option Unshown
  | _, .integer number => if host.writes number then none else some .digits
  | 0, .array _ | 0, .object _ => some .depth
  | room + 1, .array items => unshownItem? host room items
  | room + 1, .object members => unshownMember? host room members
  | _, _ => none

def unshownItem? (host : Host) : Nat → List (Json τ) → Option Unshown
  | _, [] => none
  | room, item :: rest => (unshownIn? host room item).or (unshownItem? host room rest)

def unshownMember? (host : Host) : Nat → List (τ × Json τ) → Option Unshown
  | _, [] => none
  | room, (_, value) :: rest => (unshownIn? host room value).or (unshownMember? host room rest)

end

/-- What keeps a value from being written in a message on a host. -/
def unshown? (host : Host) (value : Json τ) : Option Unshown := value.unshownIn? host host.nesting

/-- A value in a message; a text stands as it is. -/
def display : Json τ → τ
  | .text value => value
  | value => TextLike.ofString (inspect value)

/-- The text of several values together: nothing, the one value, or all of them in parentheses. -/
def displayAll : List (Json τ) → τ
  | [] => TextLike.ofString ""
  | [value] => value.display
  | values => TextLike.ofString ("(" ++ inspectItems values ++ ")")

end Json
end PathStore

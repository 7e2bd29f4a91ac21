/-
This file holds the values of JSON, with integers kept apart from floating-point numbers.
-/
import PathStore.Number.Binary64
import PathStore.Text.Loose

namespace PathStore

/-- A JSON value over texts of a kind; an object holds each name once, in the order in which the names first came. -/
inductive Json (τ : Type := String) where
  | null
  | bool (value : Bool)
  | integer (value : Int)
  | real (value : Binary64)
  | text (value : τ)
  | array (items : List (Json τ))
  | object (members : List (τ × Json τ))
  deriving Repr

/-- A value that a service sends, in whose texts halves of surrogate pairs may stand alone. -/
abbrev Reply := Json LooseText

namespace Json

/-- Texts without lone halves are told apart by their values. -/
theorem whole_inj {first second : String} (same : (.text first : Reply) = .text second) : first = second :=
  LooseText.whole.inj (Json.text.inj same)

variable {τ : Type}

instance : Inhabited (Json τ) := ⟨.null⟩

section Members

variable [DecidableEq τ]

/-- The members after a name is given a value; a known name keeps its place. -/
def setMember (name : τ) (value : Json τ) : List (τ × Json τ) → List (τ × Json τ)
  | [] => [(name, value)]
  | (known, held) :: rest =>
      if known = name then (name, value) :: rest else (known, held) :: setMember name value rest

/-- The object of the given members; the last value of a name counts. -/
def ofMembers (members : List (τ × Json τ)) : Json τ :=
  .object (members.foldl (fun collected (name, value) => setMember name value collected) [])

/-- The value of a name, in an object that has it. -/
def member? (name : τ) : Json τ → Option (Json τ)
  | .object members => members.lookup name
  | _ => none

end Members

def text? : Json τ → Option τ
  | .text value => some value
  | _ => none

mutual

/-- A value as a service could send it. -/
def loose : Json → Reply
  | .null => .null
  | .bool value => .bool value
  | .integer value => .integer value
  | .real value => .real value
  | .text value => .text value
  | .array items => .array (looseItems items)
  | .object members => .object (looseMembers members)

def looseItems : List Json → List Reply
  | [] => []
  | item :: rest => item.loose :: looseItems rest

def looseMembers : List (String × Json) → List (LooseText × Reply)
  | [] => []
  | (name, value) :: rest => (.whole name, value.loose) :: looseMembers rest

end

variable [TextLike τ]

/-- Null, false, zeros, and what is empty count as absent. -/
def isTruthy : Json τ → Bool
  | .null => false
  | .bool value => value
  | .integer value => value ≠ 0
  | .real value => !value.isZero
  | .text value => !TextLike.isEmpty value
  | .array items => !items.isEmpty
  | .object members => !members.isEmpty

@[simp] theorem isTruthy_whole (text : String) : isTruthy (.text text : Reply) = decide (text ≠ "") := by
  simp [isTruthy, TextLike.isEmpty]

/-- The items of an array, the names of an object or the symbols of a text. -/
def elements? : Json τ → Option (List (Json τ))
  | .array items => some items
  | .object members => some (members.map fun (name, _) => .text name)
  | .text value => some ((TextLike.singles value).map .text)
  | _ => none

end Json
end PathStore

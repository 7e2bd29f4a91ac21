/-
This file reads the charset of a text from the header that tells what a body holds.
-/
import PathStore.Failure
import PathStore.Url.Escape

namespace PathStore.MediaType

/-- The pieces between the semicolons that stand outside quotes; a quote after a backslash neither opens nor closes. -/
def split (isQuoted : Bool) (previous : Char) : List Char → List (List Char)
  | [] => [[]]
  | ';' :: rest =>
      if isQuoted then extend ';' (split isQuoted ';' rest) else [] :: split false ';' rest
  | character :: rest =>
      extend character (split (isQuoted != (character = '"' && previous ≠ '\\')) character rest)
where
  extend (character : Char) : List (List Char) → List (List Char)
    | [] => [[character]]
    | piece :: pieces => (character :: piece) :: pieces

/-- The text within quotes, where a backslash keeps a quote or a backslash, or within angle brackets. -/
def unquote (value : String) : String :=
  match value.toList with
  | '"' :: rest => if rest.getLast? = some '"' then String.ofList (unescape rest.dropLast) else value
  | '<' :: rest => if rest.getLast? = some '>' then String.ofList rest.dropLast else value
  | _ => value
where
  unescape : List Char → List Char
    | '\\' :: '\\' :: rest => '\\' :: unescape rest
    | '\\' :: '"' :: rest => '"' :: unescape rest
    | character :: rest => character :: unescape rest
    | [] => []

/-- The name of a parameter and its value; a name without a value keeps its case. -/
def parameter (piece : List Char) : String × String :=
  let name := piece.takeWhile (· != '=')
  let trimmed := Text.dropAround Text.isBlank name
  if name.length < piece.length then
    (String.ofList (trimmed.map Char.toLower), Text.trim (String.ofList (piece.drop (name.length + 1))))
  else (String.ofList trimmed, "")

/-- A part of a value that is spread over several parameters. -/
structure Fragment where
  name : String
  number : Option Nat
  value : String
  /-- Whether bytes are written as escapes. -/
  isEscaped : Bool
  deriving DecidableEq, Repr

namespace Fragment

def isWord (character : Char) : Bool := character.isAlphanum || character = '_'

/-- The fragment that a parameter holds, if an asterisk ends the name of the whole. -/
def ofParameter? (name value : String) : Option Fragment :=
  let whole := name.toList.takeWhile isWord
  let number := (name.toList.drop (whole.length + 1)).takeWhile Char.isDigit
  let rest := name.toList.drop whole.length
  let fragment (number : Option Nat) (isEscaped : Bool) : Option Fragment :=
    some ⟨String.ofList whole, number, value, isEscaped⟩
  if whole.isEmpty then none
  else if rest = ['*'] then fragment none true
  else if number.isEmpty then none
  else if rest = '*' :: number then fragment (Numeral.digits? number) false
  else if rest = '*' :: number ++ ['*'] then fragment (Numeral.digits? number) true
  else none

/-- Whether a fragment may stand before another one: numbers decide first, then values, then escapes. -/
def precedes (first second : Fragment) : Bool :=
  if first.number ≠ second.number then first.number.getD 0 ≤ second.number.getD 0
  else if first.value ≠ second.value then first.value < second.value
  else !first.isEscaped || second.isEscaped

/-- The characters of a fragment; each escape stands for the character with its code. -/
def characters (fragment : Fragment) : List Char :=
  if fragment.isEscaped then
    (Url.unescapeBytes fragment.value.toList).map fun byte => Char.ofNat byte.toNat
  else fragment.value.toList

/-- The value that the fragments of a name make; before an escaped one a charset and a language may be told. -/
def join (fragments : List Fragment) : String :=
  let value := (fragments.mergeSort precedes).flatMap characters
  if fragments.any isEscaped then
    match Text.splitList '\'' value with
    | _ :: _ :: first :: rest => String.ofList (List.intercalate ['\''] (first :: rest))
    | _ => String.ofList value
  else String.ofList value

/-- Whether some fragments have a number and others do not, so that they have no order. -/
def isMixed (fragments : List Fragment) : Bool :=
  fragments.any (·.number.isSome) && fragments.any (·.number.isNone)

end Fragment

/-- The fragments of a header by name. -/
def groups (fragments : List Fragment) : List (String × List Fragment) :=
  (fragments.map Fragment.name).eraseDups.map fun name => (name, fragments.filter (·.name = name))

/-- The parameters of a header, the type itself among them; values in fragments come last. -/
def parameters (header : String) : Except Failure (List (String × String)) := do
  let found := (split false ';' header.toList).map parameter
  let rest := (found.drop 1).map fun (name, value) => (name, unquote value)
  let fragments := groups (rest.filterMap fun (name, value) => Fragment.ofParameter? name value)
  if fragments.any fun (_, fragments) => Fragment.isMixed fragments then throw .wrongType
  let plain := rest.filter fun (name, value) => (Fragment.ofParameter? name value).isNone
  return (found.take 1).map (fun (name, value) => (name, unquote value)) ++ plain ++
    fragments.map fun (name, fragments) => (name, unquote (Fragment.join fragments))

/-- The name of the charset that a header tells. -/
def charset? (header : String) : Except Failure (Option String) := do
  let found := (← parameters header).find? fun (name, _) => name.toLower = "charset"
  return (found.map Prod.snd).filter (·.toList.all (·.toNat < 0x80))

end PathStore.MediaType

/-
This file tells which paths a registry may name.
-/

namespace PathStore.Path

/-- Letters and digits of ASCII, the dot, the underscore and the hyphen. -/
def isComponentCharacter (character : Char) : Bool :=
  ('A' ≤ character ∧ character ≤ 'Z') || ('a' ≤ character ∧ character ≤ 'z') ||
    ('0' ≤ character ∧ character ≤ '9') || character = '.' || character = '_' || character = '-'

/-- Whether components follow, given whether the present one has begun; one line break may end the path. -/
def componentsFollow : Bool → List Char → Bool
  | filled, [] => filled
  | filled, '\n' :: rest => filled && rest.isEmpty
  | filled, '/' :: rest => filled && componentsFollow false rest
  | _, character :: rest => isComponentCharacter character && componentsFollow true rest

/-- One or more components, each after a slash. -/
def hasComponents : List Char → Bool
  | '/' :: rest => componentsFollow false rest
  | _ => false

/-- Whether a path is well formed; the root alone is so only where it is allowed. -/
def isValid (path : String) (allowRoot : Bool := false) : Bool :=
  (allowRoot && path = "/") || hasComponents path.toList

end PathStore.Path

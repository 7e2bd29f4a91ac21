/-
This file maps paths to the keys below a root directory, and keys back to paths.
-/
import PathStore.Text.Blank
import PathStore.Text.Loose

namespace PathStore

/-- A directory of the store below which all paths lie, written without a slash at its end. -/
structure Root where
  directory : String
  deriving DecidableEq, Repr

namespace Root

def isSlash (character : Char) : Bool := character = '/'

/-- A text without the slashes at its start. -/
def dropLeadingSlashes (text : String) : String := String.ofList (text.toList.dropWhile isSlash)

/-- A text without the slashes at its end. -/
def dropTrailingSlashes (text : String) : String := String.ofList (Text.dropEndWhile isSlash text.toList)

/-- The root of a configured directory. -/
def ofDirectory (directory : String) : Root := ⟨dropTrailingSlashes directory⟩

/-- The key of a path; the path of the root itself has the key of the directory. -/
def keyFor (root : Root) (path : String) : String :=
  dropLeadingSlashes (root.directory ++ if path = "/" then "" else path)

/-- The key of the directory itself. -/
def baseKey (root : Root) : String := root.keyFor ""

/-- What the keys of the children of a key begin with. -/
def childStem (key : String) : String := if key = "" then "" else key ++ "/"

/-- Whether a text begins with another. -/
def startsWith (text stem : String) : Bool := stem.toList.isPrefixOf text.toList

/-- Whether another key is the given one or lies below it. -/
def isWithin (key other : String) : Bool := other = key || startsWith other (childStem key)

/-- What comes after the key of the directory, in a text that begins with it. -/
def below (root : Root) (text : String) : String :=
  let base := root.baseKey
  if base ≠ "" && startsWith text base then String.ofList (text.toList.drop base.toList.length) else text

/-- The path of a key. -/
def pathFor (root : Root) (key : String) : String :=
  "/" ++ dropLeadingSlashes (root.below (dropTrailingSlashes key))

/-- The path of a key that a service sent. The directory has no lone halves, and slashes that are dropped stand either
before the first of these or behind the last one. -/
def loosePathFor (root : Root) : LooseText → LooseText
  | .whole key => .whole (root.pathFor key)
  | .broken front half rest =>
      .broken ("/" ++ dropLeadingSlashes (root.below front)) half (rest.mapLast dropTrailingSlashes)

end Root
end PathStore

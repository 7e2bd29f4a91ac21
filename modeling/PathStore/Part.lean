/-
This file holds the parts from which an object is composed, and what they add up to.
-/
import PathStore.Source

namespace PathStore

/-- A range of a stored object, a number of bytes from a source, or a value that is no part. -/
inductive Part where
  | range (key : String) (start stop : Int)
  | bytes (source : Nat) (length : Int)
  | foreign (typeName : String)
  deriving DecidableEq, Repr

/-- The stop of a range that goes on to the end of the object. -/
def Part.toEnd : Int := -1

/-- Parts in order, with the sources that they name by position. -/
structure Composition where
  parts : List Part
  sources : List Source
  deriving DecidableEq, Repr

namespace Composition

/-- A source by its position; one that is not there is empty. -/
def source (sources : List Source) (index : Nat) : Source := sources.getD index (.pieces [])

/-- The error of a local part that ends before its length; a length with too many digits cannot be named. -/
def shortPart (expected : Int) (found : Nat) : Failure :=
  if Numeral.isWritable expected then
    .service ⟨400, .text ("short part: expected " ++ toString expected ++ " bytes, got " ++ toString found : String),
      none⟩
  else .value .unwritable

/-- The error of a missing object. -/
def noSuchObject : Failure := .service ⟨ServiceError.noSuchKey, .text "no such file or directory", none⟩

/-- The bytes that parts add up to, read in order from the stored objects and the sources. -/
def evaluateParts (find : String → Option Bytes) : List Part → List Source → Except Failure Bytes
  | [], _ => .ok []
  | .range key start stop :: rest, sources =>
      match find key with
      | none => .error noSuchObject
      | some content => do
          let after ← evaluateParts find rest sources
          return content.slice start (if stop = Part.toEnd then none else some stop) ++ after
  | .bytes index length :: rest, sources =>
      match (source sources index).readExactly length with
      | (.error failure, _) => .error failure
      | (.ok chunk, used) =>
          if (chunk.length : Int) ≠ length then .error (shortPart length chunk.length)
          else do
            let after ← evaluateParts find rest (sources.set index used)
            return chunk ++ after
  | .foreign typeName :: _, _ => .error (.unsupportedPart typeName)

/-- The bytes that a composition adds up to. -/
def evaluate (find : String → Option Bytes) (composition : Composition) : Except Failure Bytes :=
  evaluateParts find composition.parts composition.sources

end Composition
end PathStore

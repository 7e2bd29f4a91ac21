/-
This file plans the parts that write bytes at an offset into an object.
-/
import PathStore.Part

namespace PathStore

/-- What is known of the object that is written to. -/
structure Existing where
  key : String
  size : Int := 0
  isStored : Bool := false
  deriving DecidableEq, Repr

namespace Existing

/-- The positions of the incoming bytes and of the gap among the sources of a plan. -/
def incomingIndex : Nat := 0
def gapIndex : Nat := 1

/-- The rest of the object from a position on. -/
def tail (existing : Existing) (start : Int) : Part := .range existing.key start Part.toEnd

/-- The parts whose bytes make up the object after a write; a missing object becomes just the incoming bytes. -/
def planParts (existing : Existing) (offset written : Int) : List Part :=
  let incoming := Part.bytes incomingIndex written
  if !existing.isStored then [incoming]
  else if offset = 0 then
    incoming :: if written < existing.size then [existing.tail written] else []
  else if offset = existing.size then [existing.tail 0, incoming]
  else if offset < existing.size then
    .range existing.key 0 offset :: incoming ::
      if offset + written < existing.size then [existing.tail (offset + written)] else []
  else [existing.tail 0, .bytes gapIndex (offset - existing.size), incoming]

/-- The plan of a write of the given number of bytes from a source. -/
def plan (existing : Existing) (offset : Int) (incoming : Source) (written : Int) : Except Failure Composition :=
  if offset < 0 then .error (.ofOffset .standard existing.key offset)
  else .ok ⟨existing.planParts offset written, [incoming, .zeros (offset - existing.size)]⟩

end Existing
end PathStore

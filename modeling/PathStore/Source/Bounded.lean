/-
This file limits a source to a number of bytes.
-/
import PathStore.Source

namespace PathStore

/-- A source of which no more than the remaining bytes are read. -/
structure Bounded where
  source : Source
  remaining : Int
  deriving DecidableEq, Repr

namespace Bounded

/-- The bytes of one read, which never goes past the limit. -/
def read (bounded : Bounded) (size : Int) : Except Failure Bytes × Bounded :=
  if bounded.remaining ≤ 0 then (.ok [], bounded)
  else
    let asked := if size < 0 ∨ bounded.remaining < size then bounded.remaining else size
    match bounded.source.read asked with
    | (.ok chunk, after) => (.ok chunk, ⟨after, bounded.remaining - chunk.length⟩)
    | (.error failure, after) => (.error failure, { bounded with source := after })

/-- The size of the reads with which a form is sent. -/
def formChunk : Int := 65536

/-- The bytes that reads of the size of a form chunk give until one gives none. -/
def drainWith : Nat → Bounded → Except Failure Bytes × Bounded
  | 0, bounded => (.ok [], bounded)
  | fuel + 1, bounded =>
      match bounded.read formChunk with
      | (.error failure, after) => (.error failure, after)
      | (.ok chunk, after) =>
          if chunk.isEmpty then (.ok [], after)
          else
            match drainWith fuel after with
            | (.ok rest, last) => (.ok (chunk ++ rest), last)
            | (.error failure, last) => (.error failure, last)

/-- All that the limit lets through. -/
def drain (bounded : Bounded) : Except Failure Bytes × Bounded := bounded.drainWith (bounded.remaining.toNat + 1)

end Bounded
end PathStore

/-
This file holds the sources of bytes that are stored or sent, and how they are read.
-/
import PathStore.Bytes
import PathStore.Failure

namespace PathStore

/-- The most zero bytes that one read of a gap gives, which is also the most that one read of an upload asks for. -/
def mebibyte : Nat := 1048576

/-- What is read from one position on: bytes in memory or in a local file, a run of zeros, or bytes that come in
pieces. -/
inductive Source where
  | memory (content : Bytes) (position : Nat)
  | file (content : Bytes) (position : Nat)
  | zeros (remaining : Int)
  | pieces (pending : List Bytes)
  deriving DecidableEq, Repr

namespace Source

def ofBytes (content : Bytes) : Source := .memory content 0

/-- Whether a size fits the size of an object in memory. -/
def fitsIndex (size : Int) : Bool := -(Int.pow 2 63) ≤ size ∧ size < Int.pow 2 63

/-- Bytes in memory that are read from a position on, which may be beyond their end. -/
def ofBytesFrom (content : Bytes) (position : Int) : Except Failure Source :=
  if !fitsIndex position then .error (.overflow .readSize)
  else if position < 0 then .error (.value (.negativePosition position))
  else .ok (.memory content position.toNat)

/-- From this size on there is no memory for what a read may give. -/
def memoryLimit : Int := Int.pow 2 40

/-- The failure of a read of a local file, which needs memory for all that it may give. -/
def fileFault? (size : Int) : Option Failure :=
  if !fitsIndex size || Int.pow 2 63 - 33 ≤ size then some (.overflow .readSize)
  else if size < -1 then some (.value .readLength)
  else if memoryLimit ≤ size then some .outOfMemory
  else none

/-- The bytes of one read of at most the given size, where a negative size means all, and the source after it; memory
refuses a size that no object can have unless the source holds as many bytes. -/
def read (source : Source) (size : Int) : Except Failure Bytes × Source :=
  match source with
  | .memory content position =>
      let left := content.drop position
      if fitsIndex size || size = left.length then
        let taken := if size < 0 then left else left.take size.toNat
        (.ok taken, .memory content (position + taken.length))
      else (.error (.overflow .readSize), source)
  | .file content position =>
      match fileFault? size with
      | some failure => (.error failure, source)
      | none =>
          let left := content.drop position
          let taken := if size < 0 then left else left.take size.toNat
          (.ok taken, .file content (position + taken.length))
  | .zeros remaining =>
      let asked := if size < 0 then remaining else size
      let count := min (min asked remaining) mebibyte
      let after := Source.zeros (remaining - count)
      if !fitsIndex count then (.error (.overflow .readSize), after)
      else if count < 0 then (.error (.value .negativeCount), after)
      else (.ok (Bytes.zeros count.toNat), after)
  | .pieces pending =>
      match pending.dropWhile List.isEmpty with
      | [] => (.ok [], .pieces [])
      | piece :: rest =>
          if size < 0 then (.ok piece, .pieces rest)
          else (.ok (piece.take size.toNat), .pieces (piece.drop size.toNat :: rest))

/-- The position of bytes in memory or in a file, or what is left of a run of zeros. -/
def position : Source → Int
  | .memory _ position | .file _ position => position
  | .zeros remaining => remaining
  | .pieces pending => pending.flatten.length

/-- The bytes that reads of what is missing give until the length is reached or a read gives none. -/
def readUpTo : Nat → Source → Nat → Except Failure Bytes × Source
  | 0, source, _ => (.ok [], source)
  | fuel + 1, source, remaining =>
      if remaining = 0 then (.ok [], source)
      else
        match source.read remaining with
        | (.error failure, after) => (.error failure, after)
        | (.ok chunk, after) =>
            if chunk.isEmpty then (.ok [], after)
            else
              match readUpTo fuel after (remaining - chunk.length) with
              | (.ok rest, last) => (.ok (chunk ++ rest), last)
              | (.error failure, last) => (.error failure, last)

/-- The bytes up to the given length, in as many reads as that takes. -/
def readExactly (source : Source) (length : Int) : Except Failure Bytes × Source :=
  source.readUpTo length.toNat length.toNat

end Source
end PathStore

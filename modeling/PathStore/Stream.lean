/-
This file holds the streams in which the content of an object is delivered.
-/
import PathStore.Source

namespace PathStore

/-- The body of an answer: what has still to arrive, what has arrived, and how much of it is to be skipped. -/
structure Download where
  pending : List (Except Interruption Bytes)
  buffer : Bytes := []
  skip : Nat := 0
  /-- Whether all of the body is there from the start. -/
  isWhole : Bool := true
  hasStarted : Bool := false
  deriving Repr

namespace Download

/-- The first chunk that is not empty once the bytes to skip are gone, what comes after it, and what is left to skip. -/
def fill : Nat → List (Except Interruption Bytes) → Except Interruption (Bytes × List (Except Interruption Bytes) × Nat)
  | skip, [] => .ok ([], [], skip)
  | _, .error interruption :: _ => .error interruption
  | skip, .ok chunk :: rest =>
      let kept := chunk.drop skip
      if kept.isEmpty then fill (skip - chunk.length) rest else .ok (kept, rest, skip - chunk.length)

/-- At most the given number of bytes of what has arrived, or of the next chunk; an interruption ends the body. -/
def readSome (download : Download) (size : Nat) : Except Failure Bytes × Download :=
  if download.buffer.isEmpty then
    match fill download.skip download.pending with
    | .error interruption =>
        (.error (.interrupted interruption), { download with pending := [], hasStarted := true })
    | .ok (chunk, rest, skip) =>
        (.ok (chunk.take size),
          { download with pending := rest, buffer := chunk.drop size, skip := skip, hasStarted := true })
  else (.ok (download.buffer.take size), { download with buffer := download.buffer.drop size })

/-- All chunks together, without the bytes to skip. -/
def gather : Nat → List (Except Interruption Bytes) → Except Interruption Bytes
  | _, [] => .ok []
  | _, .error interruption :: _ => .error interruption
  | skip, .ok chunk :: rest => (gather (skip - chunk.length) rest).map (chunk.drop skip ++ ·)

/-- All that is left of the body. -/
def readAll (download : Download) : Except Failure Bytes × Download :=
  let after := { download with pending := [], buffer := [], hasStarted := true }
  match gather download.skip download.pending with
  | .error interruption => (.error (.interrupted interruption), after)
  | .ok rest => (.ok (download.buffer ++ rest), after)

def read (download : Download) (size : Int) : Except Failure Bytes × Download :=
  if size < 0 then download.readAll
  else if Source.memoryLimit ≤ size then (.error .outOfMemory, download)
  else download.readSome size.toNat

/-- The error of a body that is read only after its stream was closed. -/
def closedEarly : Interruption := ⟨"StreamClosed", ""⟩

/-- The body once its stream is closed; one that comes in pieces must have been started. -/
def close (download : Download) : Download :=
  if download.isWhole || download.hasStarted then download
  else { download with pending := [.error closedEarly] }

end Download

/-- A stream over bytes in memory or over the body of an answer. -/
inductive Stream where
  | memory (source : Source) (isClosed : Bool)
  | download (body : Download)
  deriving Repr

namespace Stream

def ofBytes (content : Bytes) : Stream := .memory (.ofBytes content) false

/-- One read of at most the given size, where a negative size means all that is left; a size that no object can have is
refused first. -/
def read (stream : Stream) (size : Int) : Except Failure Bytes × Stream :=
  if !Source.fitsIndex size then (.error (.overflow .readSize), stream)
  else match stream with
  | .memory source true => (.error (.value .closedStream), .memory source true)
  | .memory source false =>
      let (result, after) := source.read size
      (result, .memory after false)
  | .download body =>
      let (result, after) := body.read size
      (result, .download after)

/-- All that is left of a stream. -/
def readAll (stream : Stream) : Except Failure Bytes := (stream.read (-1)).1

def close : Stream → Stream
  | .memory source _ => .memory source true
  | .download body => .download body.close

/-- Whether a stream can be asked to read. -/
def checkReadable : Stream → Except Failure Bool
  | .memory _ true => .error (.value .closedStream)
  | _ => .ok true

end Stream
end PathStore

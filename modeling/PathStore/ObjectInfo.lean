/-
This file holds what a store tells about objects and what the driver tells about paths.
-/
import PathStore.Instant

namespace PathStore

/-- What a store tells about an object; a service may send any value where a text is expected. -/
structure ObjectInfo where
  key : Reply
  size : Int
  putTime : Int := 0
  hash : Reply := .text ""
  mimeType : Reply := .text ""
  deriving Repr

/-- The instant at which an object was stored. -/
def ObjectInfo.modified (info : ObjectInfo) : Except Failure Instant := Instant.ofPutTime info.putTime

/-- One page of a listing; a marker that counts as absent ends the listing. -/
structure ListPage where
  items : List ObjectInfo := []
  stems : List Reply := []
  marker : Reply := .text ""
  deriving Repr

/-- What the driver tells about a path. -/
structure FileInfo where
  path : String
  size : Int := 0
  modified : Option Instant := none
  isDirectory : Bool := false
  deriving DecidableEq, Repr

end PathStore

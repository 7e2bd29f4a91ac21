/-
This file holds the driver, which offers a tree of paths on top of a store of keys.
-/
import PathStore.Part.Plan
import PathStore.Path
import PathStore.Program
import PathStore.Settings

namespace PathStore

/-- What a driver needs of its settings. -/
structure Driver where
  root : Root
  listLimit : Int
  defaultExpiry : Int
  host : Host := .standard
  deriving DecidableEq, Repr

/-- What a signed URL is asked for. -/
structure UrlOptions where
  method : Json := .text "GET"
  expiry : Option Instant := none
  deriving Repr

namespace Driver

def ofSettings (settings : Settings) : Driver where
  root := settings.root
  listLimit := settings.listLimit
  defaultExpiry := settings.defaultExpiry

/-- Fails unless the path is well formed. -/
def checkPath (path : String) (allowRoot : Bool := false) : Program Unit :=
  if Path.isValid path allowRoot then pure () else .fail (.invalidPath path)

/-- Fails if the offset is negative. -/
def checkOffset (host : Host) (path : String) (offset : Int) : Program Unit :=
  if offset < 0 then .fail (.ofOffset host path offset) else pure ()

def stat (key : String) : Program ObjectInfo := Program.call (.stat key)

def page (query : ListQuery) : Program ListPage := Program.call (.list query)

/-- The failure of a path, in place of the one that a service reports for its key. -/
def missingPath (path : String) (failure : Failure) : Failure :=
  if failure.isNoSuchKey then .pathNotFound path else failure

/-- Whether a failed download means that the object is not there. -/
def isMissingDownload : Failure → Bool
  | .service error => error.code = ServiceError.notFound || error.code = ServiceError.noSuchKey
  | _ => false

/-- Deletes a key; a key that is not there is no failure. -/
def deleteIfPresent (key : String) : Program Unit :=
  (Program.call (.delete key) : Program Unit).recover fun failure =>
    if failure.isNoSuchKey then pure () else .fail failure

/-- The stream of the content at a path from an offset on, which is empty at the end and beyond. -/
def readStream (driver : Driver) (path : String) (offset : Int) : Program Stream := do
  checkPath path
  checkOffset driver.host path offset
  let key := driver.root.keyFor path
  let info ← (stat key).recover fun failure => .fail (missingPath path failure)
  if info.size ≤ offset then return Stream.ofBytes []
  else
    (Program.call (.download key offset) : Program Stream).recover fun failure =>
      .fail (if isMissingDownload failure then .pathNotFound path else failure)

/-- All content at a path. -/
def getContent (driver : Driver) (path : String) : Program Bytes := do
  let stream ← driver.readStream path 0
  Program.ofExcept stream.readAll

/-- Stores content at a path, in place of what is there. -/
def putContent (driver : Driver) (path : String) (content : Bytes) : Program Unit := do
  checkPath path
  Program.call (.put (driver.root.keyFor path) (.ofBytes content) content.length)

/-- What is stored under a key; that nothing is stored is no failure. -/
def lookUp (key : String) : Program Existing :=
  (stat key).andThen fun
    | .ok info => pure ⟨key, info.size, true⟩
    | .error failure => if failure.isNoSuchKey then pure ⟨key, 0, false⟩ else .fail failure

/-- Fails if the offset of a composition cannot be written into the log. -/
def checkNoted (host : Host) (offset : Int) : Program Unit :=
  if host.writes offset then pure () else .fail (.value .unwritable)

/-- Stores the bytes in the scratch file, as they are or composed with what exists, and gives their number. -/
def upload (host : Host) (existing : Existing) (offset : Int) (content : Bytes) : Program Nat := do
  if !existing.isStored then
    (Program.call (.putFile existing.key content) : Program Unit)
  else
    let composition ← Program.ofExcept (existing.plan offset (.ofBytes content) content.length)
    checkNoted host offset
    (Program.call (.putParts existing.key composition) : Program Unit)
  return content.length

/-- Writes what a reader delivers at an offset into an object, by way of a scratch file. -/
def rangeWrite (host : Host) (existing : Existing) (offset : Int) (reader : Reader) : Program Nat := do
  checkOffset host existing.key offset
  (Program.perform .openScratch : Program Unit)
  Program.followedBy (do
    let content ← (Program.perform (.spill reader) : Program Bytes)
    upload host existing offset content) .removeScratch

/-- Writes what a reader delivers at an offset into the content at a path, and gives the number of bytes. -/
def writeStream (driver : Driver) (path : String) (offset : Int) (reader : Reader) : Program Nat := do
  checkPath path
  checkOffset driver.host path offset
  let existing ← lookUp (driver.root.keyFor path)
  rangeWrite driver.host existing offset reader

/-- The description of the object with the given key, or nothing if there is none. -/
def describeObject (path key : String) : Program (Option FileInfo) :=
  if key = "" then pure none
  else
    (stat key).andThen fun
      | .ok info => do
          let modified ← Program.ofExcept info.modified
          return some { path, size := info.size, modified := some modified }
      | .error failure => if failure.isNoSuchKey then pure none else .fail failure

/-- The description of the object at a path, or of the directory if keys lie below it. -/
def statPath (driver : Driver) (path : String) : Program FileInfo := do
  checkPath path true
  let key := driver.root.keyFor path
  match ← describeObject path key with
  | some info => return info
  | none =>
      let found ← page { stem := Root.childStem key, limit := 1 }
      if found.items.isEmpty then Program.fail (.pathNotFound path)
      else return { path, isDirectory := true }

/-- The path of a key that a service sent. -/
def pathOf (driver : Driver) (key : Reply) : Except Failure LooseText :=
  match key.text? with
  | some text => .ok (driver.root.loosePathFor text)
  | none => .error .notAnObject

/-- The files and the directories of the pages from a marker on. -/
def collectPages (driver : Driver) (stem : String) : Nat → Reply → Program (List LooseText × List LooseText)
  | 0, _ => .fail .tooManyPages
  | pages + 1, marker => do
      let found ← page { stem, delimiter := "/", marker, limit := driver.listLimit }
      let files ← Program.ofExcept (found.items.mapM fun item => driver.pathOf item.key)
      let directories ← Program.ofExcept (found.stems.mapM driver.pathOf)
      if found.marker.isTruthy then
        let (moreFiles, moreDirectories) ← driver.collectPages stem pages found.marker
        return (files ++ moreFiles, directories ++ moreDirectories)
      else return (files, directories)

/-- The children of a path, files first; the number of pages bounds the listing. -/
def listPath (driver : Driver) (path : String) (pages : Nat) : Program (List LooseText) := do
  checkPath path true
  let (files, directories) ← driver.collectPages (Root.childStem (driver.root.keyFor path)) pages (.text "")
  if path ≠ "/" ∧ files = [] ∧ directories = [] then Program.fail (.pathNotFound path)
  else return files ++ directories

/-- Moves the object at one path to another, in place of what is there. -/
def movePath (driver : Driver) (source target : String) : Program Unit := do
  checkPath source
  checkPath target
  let sourceKey := driver.root.keyFor source
  let targetKey := driver.root.keyFor target
  let _ ← (stat sourceKey).recover fun failure => .fail (missingPath source failure)
  deleteIfPresent targetKey
  (Program.call (.move sourceKey targetKey) : Program Unit).recover fun failure => .fail (missingPath source failure)

/-- The listed key if it is the given one or lies below it. One with a lone half cannot be asked for. -/
def keyWithin (key : String) (listed : Reply) : Except Failure (Option String) :=
  match listed.text? with
  | some (.whole text) => .ok (if Root.isWithin key text then some text else none)
  | some (.broken front _ _) => if Root.startsWith front (Root.childStem key) then .error .unencodable else .ok none
  | none => .error .notAnObject

/-- Deletes the listed objects that are at a key or below it, and gives their number. -/
def deleteItems (key : String) : List ObjectInfo → Program Nat
  | [] => pure 0
  | item :: rest => do
      match ← Program.ofExcept (keyWithin key item.key) with
      | none => deleteItems key rest
      | some text =>
          deleteIfPresent text
          let count ← deleteItems key rest
          return count + 1

/-- Deletes what the pages from a marker on list at a key or below it, and gives the number of objects. -/
def deletePages (driver : Driver) (key : String) : Nat → Reply → Program Nat
  | 0, _ => .fail .tooManyPages
  | pages + 1, marker => do
      let found ← page { stem := key, marker, limit := driver.listLimit }
      let count ← deleteItems key found.items
      if found.marker.isTruthy then
        let more ← driver.deletePages key pages found.marker
        return count + more
      else return count

/-- Deletes the object at a path and all below it; the number of pages bounds the listing. -/
def deletePath (driver : Driver) (path : String) (pages : Nat) : Program Unit := do
  checkPath path
  let count ← driver.deletePages (driver.root.keyFor path) pages (.text "")
  if count = 0 then Program.fail (.pathNotFound path)

/-- Fails unless the method is one of the two that a signed URL serves. -/
def checkMethod (driver : Driver) (method : Json) : Program Unit :=
  match method with
  | .text "GET" | .text "HEAD" => pure ()
  | _ => .fail (.ofMethod driver.host method)

/-- The seconds for which a signed URL is valid; an expiry that is not in the future is ignored. -/
def lifetime (driver : Driver) (clock : Clock) (expiry : Option Instant) : Except Failure Int :=
  match expiry with
  | none => .ok driver.defaultExpiry
  | some instant =>
      (clock.secondsUntil instant).map fun remaining => if 0 < remaining then remaining else driver.defaultExpiry

/-- A signed URL for the content at a path. -/
def urlFor (driver : Driver) (clock : Clock) (path : String) (options : UrlOptions) : Program String := do
  checkPath path
  driver.checkMethod options.method
  let lifetime ← Program.ofExcept (driver.lifetime clock options.expiry)
  Program.call (.sign (driver.root.keyFor path) lifetime)

end Driver
end PathStore

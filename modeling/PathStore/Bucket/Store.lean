/-
This file answers the calls of the driver from the objects of a bucket.
-/
import PathStore.Bucket.Listing
import PathStore.Digest.Sha1
import PathStore.Program

namespace PathStore

/-- The description of an object under a key. -/
def StoredObject.info (object : StoredObject) (key : String) : ObjectInfo where
  key := .text key
  size := object.content.length
  putTime := object.putTime
  hash := .text (Sha1.digest object.content).toHex

namespace Bucket

/-- The failure of a download of a missing object. -/
def noSuchDocument : Failure := .service ⟨ServiceError.notFound, .text "Document not found", none⟩

/-- The failure of a move onto a key that is taken. -/
def keyTaken : Failure := .service ⟨ServiceError.keyTaken, .text "file exists", none⟩

/-- The failure of a call for a missing object. -/
def noSuchObject : Failure := Composition.noSuchObject

/-- The page of a query after a marker. -/
def pageAfter (bucket : Bucket) (query : ListQuery) (marker : String) : ListPage :=
  let (groups, next) := bucket.page query.stem query.delimiter marker query.limit
  { items := (groups.filterMap Group.object?).map fun (key, object) => object.info key
    stems := (groups.filterMap Group.stem?).map fun stem => .text (.whole stem)
    marker := .text next }

/-- The page that answers a query; a marker that is no text cannot be compared with a key. A key comes after a marker
with a lone half if it begins with what stands before the half and goes on with a character above all halves, or is
greater than that. -/
def listPage (bucket : Bucket) (query : ListQuery) : Except Failure ListPage :=
  match query.marker with
  | .text (.whole marker) => .ok (bucket.pageAfter query marker)
  | .text (.broken front _ _) => .ok ((bucket.filterKeys fun key => !(key < front ++ "\uE000")).pageAfter query "")
  | _ => if bucket.keys.any (Root.startsWith · query.stem) then .error .wrongType else .ok {}

/-- The bucket once a key has the given content. -/
def put (bucket : Bucket) (clock : Clock) (key : String) (content : Bytes) : Bucket :=
  bucket.insert key ⟨content, clock.putTime⟩

/-- The bucket once an object has another key. -/
def rename (bucket : Bucket) (source target : String) (object : StoredObject) : Bucket :=
  (bucket.erase source).insert target object

/-- The signed URL of a key, which names its lifetime unless this has too many digits. -/
def signedUrl (key : String) (lifetime : Int) : Except Failure String :=
  if Numeral.isWritable lifetime then
    .ok ("http://cdn.example.com/" ++ key ++ "?expires_in=" ++ toString lifetime)
  else .error (.value .unwritable)

/-- The answer to a call, and the bucket after it. -/
def answer (clock : Clock) (call : Call) (bucket : Bucket) : Except Failure call.Reply × Bucket :=
  match call with
  | .stat key =>
      match bucket.find? key with
      | some object => (.ok (object.info key), bucket)
      | none => (.error noSuchObject, bucket)
  | .list query => (bucket.listPage query, bucket)
  | .download key offset =>
      match bucket.find? key with
      | some object => (.ok (.ofBytes (object.content.slice offset none)), bucket)
      | none => (.error noSuchDocument, bucket)
  | .put key data size =>
      match (data.read size).1 with
      | .ok content => (.ok (), bucket.put clock key content)
      | .error failure => (.error failure, bucket)
  | .putFile key content => (.ok (), bucket.put clock key content)
  | .putParts key composition =>
      match composition.evaluate fun name => (bucket.find? name).map StoredObject.content with
      | .ok content => (.ok (), bucket.put clock key content)
      | .error failure => (.error failure, bucket)
  | .delete key =>
      match bucket.find? key with
      | some _ => (.ok (), bucket.erase key)
      | none => (.error noSuchObject, bucket)
  | .move source target =>
      match bucket.find? source with
      | none => (.error noSuchObject, bucket)
      | some object =>
          if (bucket.find? target).isSome then (.error keyTaken, bucket)
          else (.ok (), bucket.rename source target object)
  | .sign key lifetime => (signedUrl key lifetime, bucket)

end Bucket
end PathStore

/-
This file lays out uploads as forms: the manifest of a composition and the files that it names.
-/
import PathStore.Http.Message
import PathStore.Json.Writer
import PathStore.Part
import PathStore.Service.Credentials
import PathStore.Source.Bounded

namespace PathStore.UploadForm

/-- The name of the file of a part. -/
def partName (index : Nat) : String := "part" ++ toString index

/-- The entry of a part in the manifest. -/
def manifestEntry (index : Nat) : Part → Except Failure Json
  | .range key start stop =>
      .ok (.object [("key", .text key), ("from", .integer start), ("to", .integer stop)])
  | .bytes _ length => .ok (.object [("file", .text (partName index)), ("size", .integer length)])
  | .foreign typeName => .error (.unsupportedPart typeName)

/-- The entries of parts that are numbered from an index on. -/
def manifestEntries : Nat → List Part → Except Failure (List Json)
  | _, [] => .ok []
  | index, part :: rest => do
      let entry ← manifestEntry index part
      let entries ← manifestEntries (index + 1) rest
      return entry :: entries

/-- Whether the integers of a part have no more digits than are written. -/
def isWritable : Part → Bool
  | .range _ start stop => Credentials.isWritable start && Credentials.isWritable stop
  | .bytes _ length => Credentials.isWritable length
  | .foreign _ => true

/-- The text that describes the parts in order, of which the entries are given. -/
def manifest (parts : List Part) (entries : List Json) : Except Failure String :=
  if parts.all isWritable then .ok ((Json.array entries).write Json.spaced) else .error (.value .unwritable)

/-- The files of the parts that send bytes; each is read up to the length of its part. -/
def partFiles : Nat → List Part → List Source → Except Failure (List FormField)
  | _, [], _ => .ok []
  | index, .bytes source length :: rest, sources =>
      match (Bounded.mk (Composition.source sources source) length).drain with
      | (.error failure, _) => .error failure
      | (.ok content, after) =>
          (partFiles (index + 1) rest (sources.set source after.source)).map
            (.file (partName index) (partName index) content :: ·)
  | index, _ :: rest, sources => partFiles (index + 1) rest sources

/-- The form of a composition. -/
def ofComposition (token key manifest : String) (composition : Composition) : Except Failure (List FormField) := do
  let files ← partFiles 0 composition.parts composition.sources
  return [.text "token" token, .text "key" key, .text "parts" manifest] ++ files

/-- The name of the file of a key: what comes after its last slash. -/
def fileName (key : String) : String :=
  let name := String.ofList (key.toList.reverse.takeWhile (· != '/')).reverse
  if name = "" then "file" else name

/-- The form of a whole object, of which at most the given number of bytes are read. -/
def ofObject (token key : String) (data : Source) (size : Int) : Except Failure (List FormField) := do
  let content ← (Bounded.mk data size).drain.1
  return [.text "token" token, .text "key" key, .file "file" (fileName key) content]

/-- The body that a form makes: its texts alone are written like a query, and files make it a multipart form. -/
def body (fields : List FormField) : Body :=
  if fields.any FormField.isFile then .form fields
  else .bytes (Utf8.encode (Url.writeQuery (fields.filterMap FormField.text?)))

end PathStore.UploadForm

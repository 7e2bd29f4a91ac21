/-
This file reads what services answer: descriptions of objects, pages of listings and refusals.
-/
import PathStore.Http.MediaType
import PathStore.Http.Message
import PathStore.Json.Reader
import PathStore.ObjectInfo

namespace PathStore

/-- What the host of a program decides of how answers are read. -/
structure Platform where
  /-- The most containers that may stand one inside the other in JSON, which depends on how deep the stack is. -/
  nesting : Nat
  /-- How bytes are read in the charset with a name, where it is known. -/
  codec? : String → Option (Bytes → Except Text.Charset.Fault LooseText)

/-- The platform with the charsets of this library. -/
def Platform.standard : Platform := ⟨Host.usualNesting, fun name => (Text.Charset.named? name).map Text.Charset.decode⟩

namespace Answer

/-- The integer that a value stands for; a fraction is cut off. A half that stands alone is no digit. -/
def integer : Reply → Except Failure Int
  | .integer value => .ok value
  | .bool value => .ok (if value then 1 else 0)
  | .text text => (Numeral.readInteger (text.mended '?')).mapError (Failure.ofNumeral text)
  | .real value => Failure.wholePart value
  | _ => .error .wrongType

/-- The member of an object, or a default if the object lacks it. -/
def member (value : Reply) (name : String) (default : Reply) : Except Failure Reply :=
  match value with
  | .object members => .ok ((members.lookup (name : LooseText)).getD default)
  | _ => .error .notAnObject

/-- The description that an object gives of what is stored under a key. -/
def objectInfo (key value : Reply) : Except Failure ObjectInfo := do
  let size ← integer (← member value "fsize" (.integer 0))
  let putTime ← integer (← member value "putTime" (.integer 0))
  let hash ← member value "hash" (.text "")
  let mimeType ← member value "mimeType" (.text "")
  return { key, size, putTime, hash, mimeType }

/-- The description of a listed object, which names its key. -/
def listedObject (value : Reply) : Except Failure ObjectInfo :=
  match value with
  | .object members =>
      match members.lookup ("key" : LooseText) with
      | some key => objectInfo key value
      | none => .error (.missingMember "key")
  | _ => .error .wrongType

/-- The values in a member, which may be absent. -/
def elements (value : Reply) (name : String) : Except Failure (List Reply) := do
  let held ← member value name .null
  if held.isTruthy then
    match held.elements? with
    | some items => .ok items
    | none => .error .wrongType
  else return []

/-- The page of a listing. -/
def listPage (value : Reply) : Except Failure ListPage := do
  let items ← (← elements value "items").mapM listedObject
  let stems ← elements value "commonPrefixes"
  let marker ← member value "marker" .null
  return { items, stems, marker := if marker.isTruthy then marker else .text "" }

/-- The value in the body of a success; an empty body stands for an empty object. -/
def value (nesting status : Nat) (content : Bytes) : Except Failure Reply :=
  if content.isEmpty then .ok (.object [])
  else
    (Json.ofBytes nesting content).mapError fun
      | .undecodable => .undecodable
      | .malformed => .service ⟨status, .text "Invalid JSON response", none⟩
      | .tooManyDigits count => .value (.tooManyDigits count)
      | .tooNested => .tooNested

/-- The error that the body of a refusal names, if it names one. -/
def namedError? (nesting : Nat) (content : Bytes) : Except Failure (Option Reply) :=
  match Json.ofBytes nesting content with
  | .ok (.object members) => .ok ((members.lookup ("error" : LooseText)).filter Json.isTruthy)
  | .ok _ | .error .undecodable | .error .malformed => .ok none
  | .error (.tooManyDigits count) => .error (.value (.tooManyDigits count))
  | .error .tooNested => .error .tooNested

/-- The name of the charset that a response tells. -/
def charset? (response : Response) : Except Failure (Option String) :=
  match response.header? "Content-Type" with
  | some header => MediaType.charset? header
  | none => .ok none

/-- The text of a body in the charset that the response tells, or else in UTF-8. -/
def text (platform : Platform) (response : Response) (content : Bytes) : Except Failure LooseText :=
  if content.isEmpty then .ok ""
  else do
    let name ← charset? response
    match name.bind platform.codec? with
    | some codec => (codec content).mapError .charset
    | none => return Utf8.decodeLossy content

/-- The service error that a refusal reports: the error that its body names, or the body itself. -/
def refusedWith (platform : Platform) (response : Response) (content : Bytes) : Except Failure ServiceError := do
  let text ← text platform response content
  let named ← namedError? platform.nesting content
  return ⟨response.status, named.getD (.text text), response.header? "X-Reqid"⟩

/-- The failure that a refusal reports. -/
def refusal (platform : Platform) (response : Response) (content : Bytes) : Failure :=
  match refusedWith platform response content with
  | .ok error => .service error
  | .error failure => failure

end Answer
end PathStore

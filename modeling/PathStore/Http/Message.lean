/-
This file holds the requests and the responses of HTTP that services exchange with the driver.
-/
import PathStore.Bytes.Base64
import PathStore.Failure
import PathStore.Url.Address

namespace PathStore

inductive Method where
  | get
  | post
  deriving DecidableEq, Repr

def Method.name : Method → String
  | get => "GET"
  | post => "POST"

/-- The kinds of body that a request announces. -/
inductive ContentType where
  | urlEncoded
  | multipart
  deriving DecidableEq, Repr

def ContentType.name : ContentType → String
  | urlEncoded => "application/x-www-form-urlencoded"
  | multipart => "multipart/form-data"

/-- One part of a form. -/
inductive FormField where
  | text (name value : String)
  | file (name fileName : String) (content : Bytes)
  deriving DecidableEq, Repr

namespace FormField

/-- A character of a name between quotes; line breaks and other controls are escaped. -/
def escapeName (character : Char) : List Char :=
  if character = '"' then "%22".toList
  else if character = '\\' then ['\\', '\\']
  else if character.toNat < 0x20 ∧ character ≠ '\x1B' then
    ['%', Bytes.upperHexDigit (character.toNat / 16), Bytes.upperHexDigit (character.toNat % 16)]
  else [character]

def quoteName (name : String) : String := "\"" ++ String.ofList (name.toList.flatMap escapeName) ++ "\""

/-- The lines above the content of a part. -/
def head : FormField → List String
  | .text name _ => ["Content-Disposition: form-data; name=" ++ quoteName name]
  | .file name fileName _ =>
      ["Content-Disposition: form-data; name=" ++ quoteName name ++ "; filename=" ++ quoteName fileName,
        "Content-Type: application/octet-stream"]

def isFile : FormField → Bool
  | .text .. => false
  | .file .. => true

/-- The name and the value of a part that is no file. -/
def text? : FormField → Option (String × String)
  | .text name value => some (name, value)
  | .file .. => none

/-- A part with what is left of the content of its file. -/
def reread (left : Bytes → Bytes) : FormField → FormField
  | .text name value => .text name value
  | .file name fileName content => .file name fileName (left content)

end FormField

/-- What a request carries: the parts of a multipart form, or bytes as they are. -/
inductive Body where
  | bytes (content : Bytes)
  | form (fields : List FormField)
  deriving DecidableEq, Repr

namespace Body

def empty : Body := .bytes []

/-- The parts of a form; bytes have none. -/
def fields : Body → List FormField
  | .bytes _ => []
  | .form fields => fields

/-- The bytes that are no form. -/
def content : Body → Bytes
  | .bytes content => content
  | .form _ => []

/-- A body that is sent once more: bytes as they are, and of each file of a form what is left at its place. -/
def reread (left : Nat → Bytes → Bytes) : Body → Body
  | .bytes content => .bytes content
  | .form fields => .form (fields.mapIdx fun place field => field.reread (left place))

/-- The type with which a body is announced. -/
def type : Body → ContentType
  | .bytes _ => .urlEncoded
  | .form _ => .multipart

end Body

structure Request where
  method : Method
  address : Url.Address
  authorization : Option String := none
  contentType : Option ContentType := none
  range : Option String := none
  body : Body := .empty
  deriving DecidableEq, Repr

namespace Request

/-- The program as which requests introduce themselves. -/
def userAgent : String := "kodo-storage-driver/0.1.0"

/-- The user and the password that stand before the host. -/
def user (request : Request) : String × String :=
  let (name, password) := Url.Reference.splitAt ':' request.address.userInfo.toList
  (Url.unescapeLossy (String.ofList name), Url.unescapeLossy (String.ofList password))

/-- The request once a user in its URL is its authorization, in place of any other. -/
def withUser (request : Request) : Request :=
  let (name, password) := request.user
  if name = "" && password = "" then request
  else
    { request with
      authorization := some ("Basic " ++ Base64.encodeCommon (Utf8.encode (name ++ ":" ++ password))) }

end Request

/-- A response; its body may break off. -/
structure Response where
  status : Nat
  headers : List (String × String) := []
  body : List (Except Interruption Bytes) := []
  /-- Whether the body arrives at once. -/
  isWhole : Bool := true
  deriving Repr

namespace Response

def isSuccess (response : Response) : Bool := 200 ≤ response.status ∧ response.status ≤ 299

/-- The value of a header, whose name may be written in any case. -/
def header? (response : Response) (name : String) : Option String :=
  match response.headers.filter fun (known, _) => known.toLower = name.toLower with
  | [] => none
  | found => some (", ".intercalate (found.map Prod.snd))

/-- All bytes of a body, unless it breaks off. -/
def gather : List (Except Interruption Bytes) → Except Interruption Bytes
  | [] => .ok []
  | .error interruption :: _ => .error interruption
  | .ok chunk :: rest => (gather rest).map (chunk ++ ·)

/-- The bytes of the body, unless it breaks off. -/
def content (response : Response) : Except Interruption Bytes := gather response.body

end Response
end PathStore

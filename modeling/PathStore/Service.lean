/-
This file answers the calls of the driver by requests to the services that manage, list, receive and deliver objects.
-/
import PathStore.Http.Exchange
import PathStore.Program
import PathStore.Service.Answer
import PathStore.Service.Credentials
import PathStore.Service.Form
import PathStore.Settings

namespace PathStore

/-- The services of one bucket, with the keys that sign the requests. -/
structure Service where
  bucket : String
  baseUrl : String
  credentials : Credentials
  hosts : Hosts
  defaultExpiry : Int
  platform : Platform := .standard

namespace Service

variable {σ : Type}

def ofSettings (settings : Settings) : Service where
  bucket := settings.bucket
  baseUrl := settings.baseUrl
  credentials := ⟨settings.accessKey, settings.secretKey⟩
  hosts := settings.hosts
  defaultExpiry := settings.defaultExpiry

/-- The name of a key in the URLs of the managing service. -/
def entry (service : Service) (key : String) : String := Base64.encode (Utf8.encode (service.bucket ++ ":" ++ key))

def statUrl (service : Service) (key : String) : String := service.hosts.management ++ "/stat/" ++ service.entry key

def deleteUrl (service : Service) (key : String) : String := service.hosts.management ++ "/delete/" ++ service.entry key

def moveUrl (service : Service) (source target : String) (force : Bool) : String :=
  service.hosts.management ++ "/move/" ++ service.entry source ++ "/" ++ service.entry target ++
    if force then "/force/true" else ""

/-- The marker as a query holds it: nothing for one that counts as absent. -/
def markerText (marker : Reply) : Except Failure String :=
  if marker.isTruthy then (marker.display.whole?).elim (.error .unencodable) .ok else .ok ""

/-- The fields of a query for a page; what is empty is left out. -/
def listFields (service : Service) (query : ListQuery) (marker : String) : List (String × String) :=
  [("bucket", service.bucket), ("limit", toString query.limit)] ++
    [("marker", marker), ("prefix", query.stem), ("delimiter", query.delimiter)].filter (·.2 ≠ "")

/-- The URL of a page; the limit is written before the marker. -/
def listUrl (service : Service) (query : ListQuery) : Except Failure String := do
  if !Credentials.isWritable query.limit then throw (.value .unwritable)
  let marker ← markerText query.marker
  return service.hosts.listing ++ "/list?" ++ Url.writeQuery (service.listFields query marker)

/-- The signed URL under which a key can be downloaded. -/
def privateUrl (service : Service) (clock : Clock) (key : String) (lifetime : Int) : Except Failure String := do
  service.credentials.privateUrl (service.baseUrl ++ Url.escapeKey key) ((← clock.seconds) + lifetime)

/-- The seconds for which an upload token is valid. -/
def tokenLifetime : Int := 3600

def uploadToken (service : Service) (clock : Clock) (key : String) : Except Failure String :=
  clock.seconds.map fun now => service.credentials.uploadToken service.bucket key (now + tokenLifetime)

/-- The URL of the receiving service with the given path. -/
def uploadUrl (service : Service) (path : String) : Except Failure String :=
  match service.hosts.upload with
  | .text host :: _ => .ok (Root.dropTrailingSlashes host ++ path)
  | _ => .error .notAnObject

/-- The failure of a request for a URL that breaks off. -/
def networkFailure (url : String) (interruption : Interruption) : Failure :=
  .service ⟨0, .text ("Network error for POST " ++ url ++ ": " ++ interruption.message : String), none⟩

/-- The failure of a download that breaks off before its body. -/
def downloadFailure (key : String) (interruption : Interruption) : Failure :=
  .service ⟨0, .text ("Network error downloading " ++ key ++ ": " ++ interruption.message : String), none⟩

/-- The URL of a request in normal form. -/
def address (url : String) : Except Failure Url.Address := do
  let read ← (Url.Address.read url).mapError .ofInvalid
  let found ← read.rooted.mapError .ofInvalid
  Request.checkHost found
  return found

/-- The status and the content of the success that a request for a URL brings. -/
def post (service : Service) (wire : Wire σ) (url : String) (build : Url.Address → Except Failure Request)
    (state : σ) : Except Failure (Nat × Bytes) × σ :=
  match address url >>= build with
  | .error failure => (.error failure, state)
  | .ok request =>
      match wire.send request state with
      | (.error (.failed failure), after) => (.error failure, after)
      | (.error (.interrupted interruption), after) => (.error (networkFailure url interruption), after)
      | (.ok response, after) =>
          match response.content with
          | .error interruption => (.error (networkFailure url interruption), after)
          | .ok content =>
              if response.isSuccess then (.ok (response.status, content), after)
              else (.error (Answer.refusal service.platform response content), after)

/-- A signed request of the managing service; its headers are written in ASCII. -/
def signedRequest (authorization : String) (address : Url.Address) : Except Failure Request :=
  if authorization.toList.all (·.toNat < 0x80) then
    .ok { method := .post, address, authorization := some authorization, contentType := some .urlEncoded }
  else .error .unencodable

/-- The value that a service answers to a signed request for a URL. -/
def manage (service : Service) (wire : Wire σ) (url : Except Failure String) (state : σ) : Except Failure Reply × σ :=
  match do let url ← url; return (url, ← service.credentials.authorization url) with
  | .error failure => (.error failure, state)
  | .ok (url, authorization) =>
      let (result, after) := service.post wire url (signedRequest authorization) state
      (result.bind fun (status, content) => Answer.value service.platform.nesting status content, after)

def stat (service : Service) (wire : Wire σ) (key : String) (state : σ) : Except Failure ObjectInfo × σ :=
  let (result, after) := service.manage wire (.ok (service.statUrl key)) state
  (result.bind (Answer.objectInfo (.text key)), after)

def list (service : Service) (wire : Wire σ) (query : ListQuery) (state : σ) : Except Failure ListPage × σ :=
  let (result, after) := service.manage wire (service.listUrl query) state
  (result.bind Answer.listPage, after)

def delete (service : Service) (wire : Wire σ) (key : String) (state : σ) : Except Failure Unit × σ :=
  let (result, after) := service.manage wire (.ok (service.deleteUrl key)) state
  (result.map fun _ => (), after)

/-- Gives an object another key, where the force decides whether that key may be taken. -/
def move (service : Service) (wire : Wire σ) (source target : String) (force : Bool) (state : σ) :
    Except Failure Unit × σ :=
  let (result, after) := service.manage wire (.ok (service.moveUrl source target force)) state
  (result.map fun _ => (), after)

/-- Sends a form to the receiving service. -/
def upload (service : Service) (wire : Wire σ) (path : String) (form : Except Failure (List FormField)) (state : σ) :
    Except Failure Unit × σ :=
  match service.uploadUrl path with
  | .error failure => (.error failure, state)
  | .ok url =>
      let build (address : Url.Address) : Except Failure Request := form.map fun fields =>
        let body := UploadForm.body fields
        { method := .post, address, contentType := some body.type, body }
      let (result, after) := service.post wire url build state
      (result.map fun _ => (), after)

/-- Fails if a number has more digits than are written. -/
def checkWritable (number : Int) : Except Failure Unit :=
  if Numeral.isWritable number then .ok () else .error (.value .unwritable)

/-- Stores at most the given number of bytes from a source as a whole object. -/
def put (service : Service) (wire : Wire σ) (clock : Clock) (key : String) (data : Source) (size : Int) (state : σ) :
    Except Failure Unit × σ :=
  match do
      checkWritable size
      service.uploadToken clock key with
  | .error failure => (.error failure, state)
  | .ok token => service.upload wire "/" (UploadForm.ofObject token key data size) state

/-- Stores what parts add up to. -/
def putParts (service : Service) (wire : Wire σ) (clock : Clock) (key : String) (composition : Composition)
    (state : σ) : Except Failure Unit × σ :=
  match do
      let entries ← UploadForm.manifestEntries 0 composition.parts
      let token ← service.uploadToken clock key
      return (token, ← UploadForm.manifest composition.parts entries) with
  | .error failure => (.error failure, state)
  | .ok (token, manifest) =>
      service.upload wire "/putparts" (UploadForm.ofComposition token key manifest composition) state

/-- Fails if the header that asks for the bytes from an offset on cannot be written. -/
def checkRange (offset : Int) : Except Failure Unit := if 0 < offset then checkWritable offset else .ok ()

/-- The request for the content at a URL from an offset on. -/
def downloadRequest (address : Url.Address) (offset : Int) : Request where
  method := .get
  address
  range := if 0 < offset then some ("bytes=" ++ toString offset ++ "-") else none

/-- The body of a success; bytes before the offset are skipped unless the response leaves them out. -/
def bodyFrom (response : Response) (offset : Int) : Download where
  pending := response.body
  skip := if 0 < offset ∧ response.status ≠ 206 then offset.toNat else 0
  isWhole := response.isWhole

/-- The signed URL of a download in normal form; its header is written after the signature. -/
def downloadUrl (service : Service) (clock : Clock) (key : String) (offset : Int) : Except Failure Url.Address := do
  let url ← service.privateUrl clock key service.defaultExpiry
  checkRange offset
  address url

/-- The content under a key from an offset on. -/
def download (service : Service) (wire : Wire σ) (clock : Clock) (key : String) (offset : Int) (state : σ) :
    Except Failure Stream × σ :=
  match service.downloadUrl clock key offset with
  | .error failure => (.error failure, state)
  | .ok address =>
      match wire.send (downloadRequest address offset) state with
      | (.error (.failed failure), after) => (.error failure, after)
      | (.error (.interrupted interruption), after) => (.error (downloadFailure key interruption), after)
      | (.ok response, after) =>
          if response.isSuccess then (.ok (.download (bodyFrom response offset)), after)
          else
            match response.content with
            | .error interruption => (.error (.interrupted interruption), after)
            | .ok content => (.error (Answer.refusal service.platform response content), after)

/-- The answer to a call, and the state that its requests leave. -/
def answer (service : Service) (wire : Wire σ) (clock : Clock) (call : Call) (state : σ) :
    Except Failure call.Reply × σ :=
  match call with
  | .stat key => service.stat wire key state
  | .list query => service.list wire query state
  | .download key offset => service.download wire clock key offset state
  | .put key data size => service.put wire clock key data size state
  | .putFile key content => service.put wire clock key (.ofBytes content) content.length state
  | .putParts key composition => service.putParts wire clock key composition state
  | .delete key => service.delete wire key state
  | .move source target => service.move wire source target false state
  | .sign key lifetime => (service.privateUrl clock key lifetime, state)

end Service
end PathStore

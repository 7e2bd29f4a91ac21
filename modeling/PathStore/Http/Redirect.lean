/-
This file tells which responses redirect a request, and what request follows.
-/
import PathStore.Http.Message

namespace PathStore

/-- Why a request is not answered. -/
inductive Unanswered where
  | interrupted (interruption : Interruption)
  | failed (failure : Failure)
  deriving Repr

/-- The failure of a text that is no URL. -/
def Failure.ofInvalid (fault : Url.Invalid) : Failure := .invalidUrl fault.message

namespace Response

/-- The statuses that redirect, if a location comes with them. -/
def redirectStatuses : List Nat := [301, 302, 303, 307, 308]

/-- Where a response redirects to. -/
def location? (response : Response) : Option String :=
  if redirectStatuses.contains response.status then response.header? "Location" else none

end Response

namespace Request

/-- The method after a redirect: a post that has moved is asked for, unless the status keeps the method. -/
def methodAfter (request : Request) (status : Nat) : Method :=
  if status = 301 ∨ status = 302 ∨ status = 303 then .get else request.method

/-- A failure that ends a request whatever answers it. -/
def failing (fault : Url.Invalid) : Unanswered := .failed (.ofInvalid fault)

/-- The failure of a location that is no URL. -/
def invalidLocation (fault : Url.Invalid) : Unanswered :=
  .interrupted ⟨"RemoteProtocolError", "Invalid URL in location header: " ++ fault.message ++ "."⟩

/-- The name of a host, which a request must be able to tell. -/
def hostName (address : Url.Address) : Except Unanswered String :=
  address.hostName.mapError fun fault => .failed (.hostName fault)

/-- Whether a redirect goes from the plain to the secure service of one host. -/
def isUpgrade (source target : Url.Address) : Except Unanswered Bool := do
  if (← hostName source) ≠ (← hostName target) then return false
  return source.scheme = "http" && source.servicePort = some 80 && target.scheme = "https" &&
    target.servicePort = some 443

/-- The URL with the host of the request, if it has a scheme and no host of its own. -/
def placed (request : Request) (reference : Url.Address) : Except Unanswered Url.Address := do
  if reference.scheme ≠ "" then
    if (← hostName reference) = "" then
      return ← (reference.withHost (← hostName request.address)).mapError failing
  return reference

/-- The URL that a reference denotes at the URL of the request. -/
def resolved (request : Request) (reference : Url.Address) : Except Unanswered Url.Address := do
  if reference.isAbsolute then return reference
  match Url.Reference.resolve request.address.write.toList reference.write.toList with
  | .ok text => (Url.Address.read (String.ofList text)).mapError failing
  | .error fault => throw (.failed (.value (.reference fault.message)))

/-- The target with the fragment of the request, if it has none of its own. -/
def carryFragment (request : Request) (target : Url.Address) : Except Unanswered Url.Address :=
  let fragment := request.address.fragment.getD ""
  if fragment ≠ "" && target.fragment.getD "" = "" then
    (target.withFragment (Url.unescapeLossy fragment)).mapError failing
  else .ok target

/-- The URL that a location denotes. -/
def target (request : Request) (location : String) : Except Unanswered Url.Address := do
  let reference ← (Url.Address.read location).mapError invalidLocation
  request.carryFragment (← request.resolved (← request.placed reference))

/-- Whether the authorization of a request is good for a target: for its own origin and for the secure service. -/
def trusts (request : Request) (target : Url.Address) : Except Unanswered Bool := do
  let same ← (target.sameOrigin request.address).mapError fun fault => .failed (.hostName fault)
  if same then return true else isUpgrade request.address target

/-- Fails if a header would hold a host beyond ASCII. -/
def checkHost (address : Url.Address) : Except Failure Unit :=
  if address.host.toList.all (·.toNat < 0x80) then .ok () else .error .unencodable

/-- The request for a target, given what is left of the files of a form that was sent; credentials stay with their
origin and a body with its method. -/
def redirected (request : Request) (left : Nat → Bytes → Bytes) (status : Nat) (target : Url.Address) :
    Except Unanswered Request := do
  let method := request.methodAfter status
  let trusted ← request.trusts target
  (checkHost target).mapError .failed
  return { request with
    method
    address := target
    authorization := if trusted then request.authorization else none
    body := if method = request.method then request.body.reread left else .empty }

/-- The request that follows a response, if it redirects. -/
def next? (request : Request) (left : Nat → Bytes → Bytes) (response : Response) :
    Except Unanswered (Option Request) :=
  match response.location? with
  | none => .ok none
  | some location => do return some (← request.redirected left response.status (← request.target location))

end Request
end PathStore

/-
This file signs requests, uploads and URLs with the keys of an account.
-/
import PathStore.Bytes.Base64
import PathStore.Bytes.Utf8
import PathStore.Digest.Keyed
import PathStore.Failure
import PathStore.Json.Writer
import PathStore.Url.Reference

namespace PathStore

/-- The keys of an account: one that names it and one that signs. -/
structure Credentials where
  accessKey : String
  secretKey : String
  deriving DecidableEq

namespace Credentials

/-- The signature of a text, after the name of the account. -/
def sign (credentials : Credentials) (text : String) : String :=
  credentials.accessKey ++ ":" ++
    Base64.encode (KeyedDigest.code (Utf8.encode credentials.secretKey) (Utf8.encode text))

/-- What a request for a URL signs: its path and its query, and a line break. -/
def requestText (url : String) : Except Failure String :=
  match Url.Reference.read [] url.toList with
  | .ok reference => .ok (String.ofList (reference.path ++ Url.Reference.led '?' reference.query ++ ['\n']))
  | .error fault => .error (.value (.reference fault.message))

/-- The authorization of a request for a URL. -/
def authorization (credentials : Credentials) (url : String) : Except Failure String := do
  return "QBox " ++ credentials.sign (← requestText url)

/-- What an upload token permits: one key of one bucket until a deadline. -/
def uploadPolicy (bucket key : String) (deadline : Int) : Json :=
  .object [("scope", .text (bucket ++ ":" ++ key)), ("deadline", .integer deadline)]

/-- The token of an upload, which is the signed policy with the policy after it. -/
def uploadToken (credentials : Credentials) (bucket key : String) (deadline : Int) : String :=
  let policy := Base64.encode (Utf8.encode ((uploadPolicy bucket key deadline).write Json.compact))
  credentials.sign policy ++ ":" ++ policy

/-- The URL with the deadline in its query. -/
def dated (url : String) (deadline : Int) : String :=
  url ++ (if url.toList.contains '?' then "&" else "?") ++ "e=" ++ toString deadline

/-- Whether an integer can be written into what is signed and sent. -/
def isWritable (number : Int) : Bool := Numeral.isWritable number

/-- The URL with its deadline and the signature of both. -/
def privateUrl (credentials : Credentials) (url : String) (deadline : Int) : Except Failure String := do
  if !isWritable deadline then throw (.value .unwritable)
  return dated url deadline ++ "&token=" ++ credentials.sign (dated url deadline)

end Credentials
end PathStore

/-
This file sends a request and follows the redirects that answer it.
-/
import PathStore.Http.Redirect

namespace PathStore

/-- What carries one request to a service and brings back its response. Files are read while their form is sent, so that
a form that is sent once more holds what is left of them. -/
structure Wire (σ : Type) where
  carry : Request → σ → Except Interruption Response × σ
  /-- What the file at a place of a form still gives once the form is carried, in place of all its content. -/
  left : Nat → Bytes → σ → Bytes

namespace Wire

variable {σ : Type}

instance : CoeFun (Wire σ) fun _ => Request → σ → Except Interruption Response × σ := ⟨carry⟩

/-- The wire that reads all of a form before it is sent, and keeps it. -/
def keeping (carry : Request → σ → Except Interruption Response × σ) : Wire σ := ⟨carry, fun _ content _ => content⟩

/-- The wire that reads each file of a form to its end and keeps none of it. -/
def draining (carry : Request → σ → Except Interruption Response × σ) : Wire σ := ⟨carry, fun _ _ _ => []⟩

/-- The interruption of a request that is redirected too often. -/
def tooManyRedirects : Interruption := ⟨"TooManyRedirects", "Exceeded maximum allowed redirects."⟩

/-- Fails if a response cannot belong to a request, the URL of which has no scheme. -/
def accept (request : Request) : Except Failure Unit :=
  if request.address.scheme = "" then .error (.value (.urlType request.address.write)) else .ok ()

/-- The request that follows a response, or nothing if the response is the answer. -/
def next? (wire : Wire σ) (request : Request) (response : Response) (state : σ) :
    Except Unanswered (Option Request) := do
  (accept request).mapError .failed
  match ← request.next? (fun place content => wire.left place content state) response with
  | none => return none
  | some next =>
      let _ ← response.content.mapError .interrupted
      return some next

/-- The response to a request or to the last of those that follow it; the number bounds the redirects. -/
def follow (wire : Wire σ) (count : Nat) (request : Request) (state : σ) : Except Unanswered Response × σ :=
  match wire request state with
  | (.error interruption, after) => (.error (.interrupted interruption), after)
  | (.ok response, after) =>
      match wire.next? request response after with
      | .error fault => (.error fault, after)
      | .ok none => (.ok response, after)
      | .ok (some next) =>
          match count with
          | 0 => (.error (.interrupted tooManyRedirects), after)
          | count + 1 => wire.follow count next after

/-- The most redirects that are followed. -/
def redirectLimit : Nat := 20

/-- The response to a request once all redirects are followed. -/
def send (wire : Wire σ) (request : Request) (state : σ) : Except Unanswered Response × σ :=
  wire.follow redirectLimit request.withUser state

end Wire
end PathStore

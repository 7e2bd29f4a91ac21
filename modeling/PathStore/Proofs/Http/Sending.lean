/-
This file notes the requests that go out. A request that is sent goes out first, and the redirects that follow it only
add to what is noted.
-/
import PathStore.Service

namespace PathStore

variable {σ : Type}

/-- A user in the URL of a request changes its authorization alone. -/
theorem Request.withUser_eq (request : Request) :
    ∃ authorization, request.withUser = { request with authorization } := by
  rw [withUser]
  split
  split
  · exact ⟨request.authorization, rfl⟩
  · exact ⟨_, rfl⟩

namespace Wire

/-- The wire that notes each request and then carries it. -/
def noting (wire : Wire σ) : Wire (σ × List Request) where
  carry request state := ((wire request state.1).1, (wire request state.1).2, state.2 ++ [request])
  left place content state := wire.left place content state.1

theorem next?_noting (wire : Wire σ) (request : Request) (response : Response) (state : σ) (sent : List Request) :
    wire.noting.next? request response (state, sent) = wire.next? request response state := rfl

/-- The first of a row of redirected requests goes out as it is. -/
theorem follow_noting (wire : Wire σ) (count : Nat) (request : Request) (state : σ) (sent : List Request) :
    ∃ later, (wire.noting.follow count request (state, sent)).2.2 = sent ++ request :: later := by
  have carries : wire.noting request (state, sent) =
      ((wire request state).1, (wire request state).2, sent ++ [request]) := rfl
  induction count generalizing request state sent with
  | zero =>
      refine ⟨[], ?_⟩
      rw [follow, carries]
      rcases wire request state with ⟨interruption | response, after⟩
      · rfl
      · dsimp only
        rw [next?_noting]
        rcases wire.next? request response after with fault | _ | redirected <;> rfl
  | succ count ih =>
      rw [follow, carries]
      rcases wire request state with ⟨interruption | response, after⟩
      · exact ⟨[], rfl⟩
      · dsimp only
        rw [next?_noting]
        rcases wire.next? request response after with fault | _ | redirected
        · exact ⟨[], rfl⟩
        · exact ⟨[], rfl⟩
        · obtain ⟨later, rest⟩ := ih redirected after (sent ++ [request]) rfl
          rw [List.append_assoc, List.singleton_append] at rest
          exact ⟨redirected :: later, rest⟩

/-- A request that is sent goes out with the user of its URL as its authorization. -/
theorem send_noting (wire : Wire σ) (request : Request) (state : σ) (sent : List Request) :
    ∃ later, (wire.noting.send request (state, sent)).2.2 = sent ++ request.withUser :: later :=
  wire.follow_noting redirectLimit request.withUser state sent

/-- A request that no response redirects is the only one that goes out. -/
theorem send_noting_of_stays (wire : Wire σ) {request : Request} {state : σ} (sent : List Request)
    (stays : ∀ response, (wire request.withUser state).1 = .ok response → response.location? = none) :
    (wire.noting.send request (state, sent)).2.2 = sent ++ [request.withUser] := by
  have carries : wire.noting request.withUser (state, sent) =
      ((wire request.withUser state).1, (wire request.withUser state).2, sent ++ [request.withUser]) := rfl
  rw [send, follow, carries]
  cases answered : (wire request.withUser state).1 with
  | error interruption => rfl
  | ok response =>
      dsimp only
      rw [next?_noting, next?, Request.next?, stays response answered]
      cases accept request.withUser <;> rfl

theorem accept_eq_ok {request : Request} (absolute : request.address.scheme ≠ "") : accept request = .ok () :=
  if_neg absolute

/-- Nothing follows a response that redirects nowhere. -/
theorem next?_eq_none (wire : Wire σ) {request : Request} {response : Response} (state : σ)
    (absolute : request.address.scheme ≠ "") (stays : response.location? = none) :
    wire.next? request response state = .ok none := by
  rw [next?, accept_eq_ok absolute, Request.next?, stays]
  rfl

/-- A response that redirects nowhere is the answer. -/
theorem send_of_answer {wire : Wire σ} {request : Request} {state after : σ} {response : Response}
    (carried : wire request.withUser state = (.ok response, after)) (absolute : request.address.scheme ≠ "")
    (stays : response.location? = none) : wire.send request state = (.ok response, after) := by
  obtain ⟨authorization, same⟩ := request.withUser_eq
  have answered : wire.next? request.withUser response after = .ok none :=
    wire.next?_eq_none after (by rwa [same]) stays
  rw [send, follow, carried]
  dsimp only
  rw [answered]

/-- A break while a request is carried ends it. -/
theorem send_of_break {wire : Wire σ} {request : Request} {state after : σ} {interruption : Interruption}
    (carried : wire request.withUser state = (.error interruption, after)) :
    wire.send request state = (.error (.interrupted interruption), after) := by
  rw [send, follow, carried]

end Wire

/-- A download sends the request for the signed URL of its key, and nothing where there is no such URL. -/
theorem Service.download_state (service : Service) (wire : Wire σ) (clock : Clock) (key : String) (offset : Int)
    (state : σ) :
    (service.download wire clock key offset state).2 =
      match service.downloadUrl clock key offset with
      | .error _ => state
      | .ok found => (wire.send (downloadRequest found offset) state).2 := by
  rw [download]
  cases service.downloadUrl clock key offset with
  | error failure => rfl
  | ok found =>
      dsimp only
      cases sent : wire.send (downloadRequest found offset) state with
      | mk reply after =>
          cases reply with
          | error fault => cases fault <;> rfl
          | ok response =>
              dsimp only
              split
              · rfl
              · cases response.content <;> rfl

end PathStore

/-
This file follows a request along the redirects that lead to its answer. A post is asked for in another way as soon as
one of them has a status that does not keep the method, and its body is then gone. Otherwise it is sent once more with
what is left of its files.
-/
import PathStore.Proofs.Program.Outcomes
import PathStore.Proofs.Http.Sending

namespace PathStore

variable {σ : Type}

/-- A body of which all files are left is sent as it was. -/
theorem Body.reread_whole (body : Body) : body.reread (fun _ content => content) = body := by
  have whole (field : FormField) : field.reread (fun content => content) = field := by cases field <;> rfl
  cases body with
  | bytes content => rfl
  | form fields =>
      refine congrArg form (List.ext_getElem (List.length_mapIdx) fun place _ _ => ?_)
      rw [List.getElem_mapIdx, whole]

/-- Whether a status turns a post into a request without a body. -/
def Request.dropsBody (status : Nat) : Bool := status = 301 || status = 302 || status = 303

namespace Request

variable {request next : Request} {response : Response} {left : Nat → Bytes → Bytes}

/-- A redirect changes the address, the authorization, and of a post the method and the body. -/
theorem redirected_eq {status : Nat} {target : Url.Address}
    (redirected : request.redirected left status target = .ok next) :
    ∃ authorization, next = { request with
      method := request.methodAfter status, address := target, authorization
      body := if request.methodAfter status = request.method then request.body.reread left else .empty } := by
  obtain ⟨trusted, -, rest⟩ := Outcome.bind_eq_ok_iff.mp redirected
  obtain ⟨-, -, same⟩ := Outcome.bind_eq_ok_iff.mp rest
  exact ⟨_, (Except.ok.inj same).symm⟩

/-- Where a request is redirected to depends on its address alone. -/
theorem target_congr {other : Request} (same : request.address = other.address) (location : String) :
    request.target location = other.target location := by
  simp only [target, carryFragment, resolved, placed, same]

theorem trusts_congr {other : Request} (same : request.address = other.address) (address : Url.Address) :
    request.trusts address = other.trusts address := by
  simp only [trusts, same]

/-- Whether a request is the same post for a server, wherever it goes: its body and the type of its body are those of
another. -/
structure IsLike (request other : Request) : Prop where
  method : request.method = other.method
  contentType : request.contentType = other.contentType
  body : request.body = other.body

/-- What follows a redirected post is the post with what is left of its body, or asks without a body, by the status. -/
theorem next_of_post (post : request.method = .post) (follows : request.next? left response = .ok (some next)) :
    if dropsBody response.status then next.method = .get ∧ next.body = .empty
    else next.IsLike { request with body := request.body.reread left } := by
  rw [next?] at follows
  split at follows
  · cases follows
  · obtain ⟨target, -, rest⟩ := Outcome.bind_eq_ok_iff.mp follows
    obtain ⟨found, redirected, same⟩ := Outcome.bind_eq_ok_iff.mp rest
    obtain rfl := Option.some.inj (Except.ok.inj same)
    obtain ⟨authorization, rfl⟩ := redirected_eq redirected
    have after : request.methodAfter response.status = if dropsBody response.status then .get else .post := by
      simp [methodAfter, dropsBody, post, or_assoc]
    cases drops : dropsBody response.status with
    | true =>
        rw [drops] at after
        simp [after, post]
    | false =>
        rw [drops] at after
        simp only [Bool.false_eq_true, if_false] at after ⊢
        exact ⟨after.trans post.symm, rfl, by simp [after, post]⟩

/-- What follows a redirected request for a resource is such a request, and it still brings no body. -/
theorem next_of_get (get : request.method = .get) (bare : request.body = .empty)
    (follows : request.next? left response = .ok (some next)) : next.method = .get ∧ next.body = .empty := by
  rw [next?] at follows
  split at follows
  · cases follows
  · obtain ⟨target, -, rest⟩ := Outcome.bind_eq_ok_iff.mp follows
    obtain ⟨found, redirected, same⟩ := Outcome.bind_eq_ok_iff.mp rest
    obtain rfl := Option.some.inj (Except.ok.inj same)
    obtain ⟨authorization, rfl⟩ := redirected_eq redirected
    simp [methodAfter, get, bare, Body.empty, Body.reread]

end Request

/-- A redirect that is followed: its status, and the state in which the request that follows is made. -/
structure Redirect (σ : Type) where
  status : Nat
  state : σ

namespace Wire

variable {wire : Wire σ}

/-- Whether a request leads by redirects to a last request and its answer. -/
inductive Leads (wire : Wire σ) : Request → σ → List (Redirect σ) → Request → Response → σ → Prop where
  | answer {request : Request} {state after : σ} {response : Response}
      (carried : wire request state = (.ok response, after)) (stays : wire.next? request response after = .ok none) :
      Leads wire request state [] request response after
  | redirect {request next last : Request} {state between after : σ} {response final : Response}
      {redirects : List (Redirect σ)} (carried : wire request state = (.ok response, between))
      (follows : wire.next? request response between = .ok (some next))
      (leads : Leads wire next between redirects last final after) :
      Leads wire request state (⟨response.status, between⟩ :: redirects) last final after

/-- What is left of a body once it has been sent before each of some redirects. -/
def resent (wire : Wire σ) (body : Body) (redirects : List (Redirect σ)) : Body :=
  redirects.foldl (fun body redirect => body.reread fun place content => wire.left place content redirect.state) body

/-- A wire that keeps the files of a form sends them as they are. -/
theorem resent_of_keeps (keeps : ∀ place content state, wire.left place content state = content) (body : Body)
    (redirects : List (Redirect σ)) : wire.resent body redirects = body := by
  induction redirects generalizing body with
  | nil => rfl
  | cons redirect rest ih =>
      have same : (fun place content => wire.left place content redirect.state) = fun _ content => content :=
        funext fun place => funext fun content => keeps place content redirect.state
      rw [resent, List.foldl_cons, same, Body.reread_whole]
      exact ih body

/-- A request that is redirected goes on with the request that follows. -/
theorem next?_eq_some {request next : Request} {response : Response} {state : σ}
    (follows : wire.next? request response state = .ok (some next)) :
    request.next? (fun place content => wire.left place content state) response = .ok (some next) := by
  obtain ⟨-, -, rest⟩ := Outcome.bind_eq_ok_iff.mp follows
  obtain ⟨found, same, rest⟩ := Outcome.bind_eq_ok_iff.mp rest
  cases found with
  | none => cases rest
  | some found =>
      obtain ⟨-, -, last⟩ := Outcome.bind_eq_ok_iff.mp rest
      rw [same, Option.some.inj (Except.ok.inj last)]

/-- A request is answered if redirects lead to the answer, and no more of them than are followed. -/
theorem follow_eq_ok_iff {count : Nat} {request : Request} {state after : σ} {response : Response} :
    wire.follow count request state = (.ok response, after) ↔
      ∃ redirects last, redirects.length ≤ count ∧ wire.Leads request state redirects last response after := by
  constructor
  · intro answered
    induction count generalizing request state with
    | zero =>
        rw [follow] at answered
        split at answered
        · cases answered
        · rename_i found between carried
          split at answered
          · cases answered
          · obtain ⟨same, rfl⟩ := Prod.mk.inj answered
            obtain rfl := Except.ok.inj same
            exact ⟨[], request, Nat.le_refl _, .answer carried ‹_›⟩
          · cases answered
    | succ count ih =>
        rw [follow] at answered
        split at answered
        · cases answered
        · rename_i found between carried
          split at answered
          · cases answered
          · obtain ⟨same, rfl⟩ := Prod.mk.inj answered
            obtain rfl := Except.ok.inj same
            exact ⟨[], request, Nat.zero_le _, .answer carried ‹_›⟩
          · obtain ⟨redirects, last, few, leads⟩ := ih answered
            exact ⟨⟨found.status, between⟩ :: redirects, last, Nat.succ_le_succ few, .redirect carried ‹_› leads⟩
  · rintro ⟨redirects, last, few, leads⟩
    induction leads generalizing count with
    | answer carried stays =>
        rw [follow.eq_def, carried]
        dsimp only
        rw [stays]
    | redirect carried follows leads ih =>
        obtain ⟨less, rfl⟩ : ∃ less, count = less + 1 := ⟨count - 1, by simp at few; omega⟩
        rw [follow, carried]
        dsimp only
        rw [follows]
        exact ih (Nat.le_of_succ_le_succ few)

namespace Leads

variable {request last : Request} {state after : σ} {response : Response} {redirects : List (Redirect σ)}

theorem eq_of_nil (leads : wire.Leads request state redirects last response after) (direct : redirects = []) :
    last = request := by
  cases leads with
  | answer carried stays => rfl
  | redirect carried follows leads => cases direct

theorem of_get (leads : wire.Leads request state redirects last response after) (get : request.method = .get)
    (bare : request.body = .empty) : last.method = .get ∧ last.body = .empty := by
  induction leads with
  | answer carried stays => exact ⟨get, bare⟩
  | redirect carried follows leads ih =>
      obtain ⟨method, body⟩ := Request.next_of_get get bare (next?_eq_some follows)
      exact ih method body

/-- The request that is answered is the post that was sent, with what is left of its body, if no redirect has dropped
the body, and else it asks for something without a body. -/
theorem of_post (leads : wire.Leads request state redirects last response after) (post : request.method = .post) :
    if redirects.any (Request.dropsBody ·.status) then last.method = .get ∧ last.body = .empty
    else last.IsLike { request with body := wire.resent request.body redirects } := by
  induction leads with
  | answer carried stays => exact ⟨rfl, rfl, rfl⟩
  | @redirect request next last state between after response final redirects carried follows leads ih =>
      have step := Request.next_of_post post (next?_eq_some follows)
      cases drops : Request.dropsBody response.status with
      | true =>
          rw [drops, if_pos rfl] at step
          rw [List.any_cons, drops, Bool.true_or, if_pos rfl]
          exact leads.of_get step.1 step.2
      | false =>
          rw [drops, if_neg Bool.false_ne_true] at step
          have rest := ih (step.method.trans post)
          rw [List.any_cons, drops, Bool.false_or]
          split
          · rwa [if_pos ‹_›] at rest
          · rw [if_neg ‹_›] at rest
            refine ⟨rest.method.trans step.method, rest.contentType.trans step.contentType, ?_⟩
            rw [rest.body, step.body]
            rfl

end Leads
end Wire
end PathStore

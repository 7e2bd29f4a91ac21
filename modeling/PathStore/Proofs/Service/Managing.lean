/-
This file names what is asked of the service that manages and lists objects. Each request has its URL and its reading of
the value that is answered, and is carried out as any other.
-/
import PathStore.Proofs.Service.Requesting

namespace PathStore

/-- What is asked of the service that manages and lists objects. -/
inductive Management where
  | stat (key : String)
  | list (query : ListQuery)
  | delete (key : String)
  | move (source target : String) (force : Bool)

namespace Management

@[reducible]
def Reply : Management → Type
  | .stat _ => ObjectInfo
  | .list _ => ListPage
  | .delete _ | .move .. => Unit

/-- The URL that is asked for. -/
def url (service : Service) : Management → Except Failure String
  | .stat key => .ok (service.statUrl key)
  | .list query => service.listUrl query
  | .delete key => .ok (service.deleteUrl key)
  | .move source target force => .ok (service.moveUrl source target force)

/-- What is made of the value that is answered; changes ignore it. -/
def reply (asked : Management) (value : PathStore.Reply) : Except Failure asked.Reply :=
  match asked with
  | .stat key => Answer.objectInfo (.text key) value
  | .list _ => Answer.listPage value
  | .delete _ | .move .. => .ok ()

end Management

namespace Service

variable {σ : Type} (service : Service) (wire : Wire σ) (asked : Management) (state : σ)

/-- The outcome of what is asked, and the state that its requests leave. -/
def carryOut : Except Failure asked.Reply × σ :=
  match asked with
  | .stat key => service.stat wire key state
  | .list query => service.list wire query state
  | .delete key => service.delete wire key state
  | .move source target force => service.move wire source target force state

theorem carryOut_eq :
    service.carryOut wire asked state =
      ((service.manage wire (asked.url service) state).1 >>= asked.reply,
        (service.manage wire (asked.url service) state).2) := by
  have ignored (managed : Except Failure Reply) :
      (managed.map fun _ => ()) = managed >>= fun _ => (.ok () : Except Failure Unit) := by
    cases managed <;> rfl
  cases asked with
  | stat key => rfl
  | list query => rfl
  | delete key =>
      rw [carryOut, delete, Management.url]
      generalize service.manage wire (.ok (service.deleteUrl key)) state = managed
      exact congrArg (·, managed.2) (ignored managed.1)
  | move source target force =>
      rw [carryOut, move, Management.url]
      generalize service.manage wire (.ok (service.moveUrl source target force)) state = managed
      exact congrArg (·, managed.2) (ignored managed.1)

/-- What is asked leaves what sending its request leaves. -/
theorem carryOut_state :
    (service.carryOut wire asked state).2 = sentState wire state ((service.managing (asked.url service)).map some) := by
  rw [carryOut_eq, manage_state]

section Answered

variable {service wire asked state} {request : Request} {response : Response} {content : Bytes} {after : σ}

/-- A success that answers the request is read for what is asked. -/
theorem carryOut_of_success (made : service.managing (asked.url service) = .ok request)
    (carried : wire.send request state = (.ok response, after)) (whole : response.content = .ok content)
    (success : response.isSuccess = true) :
    service.carryOut wire asked state =
      (Answer.value service.platform.nesting response.status content >>= asked.reply, after) := by
  obtain ⟨url, written, rest⟩ := Outcome.bind_eq_ok_iff.mp made
  obtain ⟨authorization, signed, built⟩ := Outcome.bind_eq_ok_iff.mp rest
  have posted : service.post wire url (signedRequest authorization) state = (.ok (response.status, content), after) :=
    post_eq_ok_iff.mpr ⟨request, response, built, carried, whole, success, rfl⟩
  rw [carryOut_eq, written, manage_eq_post wire state signed, posted]
  rfl

end Answered
end Service
end PathStore

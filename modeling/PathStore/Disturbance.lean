/-
This file disturbs the calls to a store: some fail in place of being run, and some after they were run.
-/
import PathStore.Program

namespace PathStore

/-- An error that a call meets, either in place of being run or after it. -/
structure Disturbance where
  error : ServiceError
  isAfter : Bool := false
  deriving Repr

namespace Disturbance

variable {σ τ : Type}

/-- What decides call by call whether it is disturbed. -/
abbrev Schedule (τ : Type) := Call → τ → Option Disturbance × τ

/-- The schedule that disturbs nothing. -/
def none : Schedule Unit := fun _ plan => (.none, plan)

/-- The reply to a disturbed call that was run; its own failure comes first. -/
def spoil {α : Type} (disturbance : Disturbance) : Except Failure α → Except Failure α
  | .ok _ => .error (.service disturbance.error)
  | .error failure => .error failure

/-- The answers of a store whose calls are disturbed. -/
def disturb (schedule : Schedule τ) (answer : (call : Call) → σ → Except Failure call.Reply × σ) (call : Call)
    (state : σ × τ) : Except Failure call.Reply × (σ × τ) :=
  match schedule call state.2 with
  | (.none, plan) =>
      let (reply, store) := answer call state.1
      (reply, (store, plan))
  | (some disturbance, plan) =>
      if disturbance.isAfter then
        let (reply, store) := answer call state.1
        (disturbance.spoil reply, (store, plan))
      else (.error (.service disturbance.error), (state.1, plan))

end Disturbance

/-- The operations of a store. -/
inductive Operation where
  | stat | list | download | put | putFile | putParts | delete | move | sign
  deriving DecidableEq, Repr

namespace Call

def operation : Call → Operation
  | .stat _ => .stat
  | .list _ => .list
  | .download .. => .download
  | .put .. => .put
  | .putFile .. => .putFile
  | .putParts .. => .putParts
  | .delete _ => .delete
  | .move .. => .move
  | .sign .. => .sign

/-- The key that a call names first, or the stem of a listing. -/
def subject : Call → String
  | .stat key | .download key _ | .put key .. | .putFile key _ | .putParts key _ | .delete key | .move key _
  | .sign key _ => key
  | .list query => query.stem

end Call

/-- An error planned for the next calls of an operation. -/
structure Fault where
  operation : Operation
  subject : Option String := none
  disturbance : Disturbance
  times : Nat := 1
  deriving Repr

namespace Fault

/-- Whether a fault is planned for a call. -/
def isFor (fault : Fault) (call : Call) : Bool :=
  0 < fault.times && fault.operation = call.operation && fault.subject.all (· = call.subject)

/-- The first fault for a call, which is then used up by one. -/
def draw : Disturbance.Schedule (List Fault)
  | _, [] => (none, [])
  | call, fault :: rest =>
      if fault.isFor call then (some fault.disturbance, { fault with times := fault.times - 1 } :: rest)
      else
        let (drawn, after) := draw call rest
        (drawn, fault :: after)

end Fault
end PathStore

/-
This file holds the calls that the driver makes to a store and to its scratch directory, and programs of such calls.
-/
import PathStore.ObjectInfo
import PathStore.Part
import PathStore.Stream

namespace PathStore

/-- A request for one page of the keys that begin with a stem. -/
structure ListQuery where
  stem : String
  delimiter : String := ""
  marker : Reply := .text ""
  limit : Int := 1000
  deriving Repr

/-- A call to a store. -/
inductive Call where
  | stat (key : String)
  | list (query : ListQuery)
  | download (key : String) (offset : Int)
  | put (key : String) (data : Source) (size : Int)
  | putFile (key : String) (content : Bytes)
  | putParts (key : String) (composition : Composition)
  | delete (key : String)
  | move (source target : String)
  | sign (key : String) (lifetime : Int)
  deriving Repr

/-- What a store answers to a call that succeeds. -/
@[reducible] def Call.Reply : Call → Type
  | .stat _ => ObjectInfo
  | .list _ => ListPage
  | .download .. => Stream
  | .sign .. => String
  | _ => Unit

/-- What delivers incoming bytes: reads of which an empty one is the end, or chunks that all count. -/
inductive Reader where
  | file (reads : List Bytes) (failure : Option String)
  | chunks (delivered : List Bytes) (failure : Option String)
  deriving DecidableEq, Repr

namespace Reader

/-- All bytes of the chunks, unless a failure follows them. -/
def finish (delivered : List Bytes) (failure : Option String) : Except Failure Bytes :=
  match failure with
  | none => .ok delivered.flatten
  | some text => .error (.device text)

/-- All bytes that a reader delivers. -/
def drain : Reader → Except Failure Bytes
  | .chunks delivered failure => finish delivered failure
  | .file reads failure =>
      if reads.any List.isEmpty then .ok (reads.takeWhile (!·.isEmpty)).flatten else finish reads failure

end Reader

/-- A call to the store, or a step with the scratch file. -/
inductive Action where
  | store (call : Call)
  | openScratch
  | spill (reader : Reader)
  | removeScratch
  deriving Repr

/-- What follows from an action that succeeds; spilling a reader gives the bytes in the scratch file. -/
@[reducible] def Action.Reply : Action → Type
  | .store call => call.Reply
  | .spill _ => Bytes
  | _ => Unit

/-- A program of actions, each of which decides how to go on. -/
inductive Program (α : Type) where
  | done (outcome : Except Failure α)
  | act (action : Action) (next : Except Failure action.Reply → Program α)

namespace Program

variable {α β σ : Type}

/-- What follows an outcome. -/
def andThen (program : Program α) (next : Except Failure α → Program β) : Program β :=
  match program with
  | .done outcome => next outcome
  | .act action rest => .act action fun reply => (rest reply).andThen next

/-- The program that goes on only after a success. -/
def bind (program : Program α) (next : α → Program β) : Program β :=
  program.andThen fun outcome =>
    match outcome with
    | .ok value => next value
    | .error failure => .done (.error failure)

instance : Monad Program where
  pure value := .done (.ok value)
  bind := bind

/-- The program that fails at once. -/
def fail (failure : Failure) : Program α := .done (.error failure)

def ofExcept (outcome : Except Failure α) : Program α := .done outcome

/-- One action. -/
def perform (action : Action) : Program action.Reply := .act action .done

/-- One call to the store. -/
def call (request : Call) : Program request.Reply := perform (.store request)

/-- The program that goes on by another way after a failure. -/
def recover (program : Program α) (handler : Failure → Program α) : Program α :=
  program.andThen fun outcome =>
    match outcome with
    | .ok value => .done (.ok value)
    | .error failure => handler failure

/-- The program followed by a last action, which does not change its outcome. -/
def followedBy (program : Program α) (action : Action) : Program α :=
  program.andThen fun outcome => .act action fun _ => .done outcome

theorem andThen_andThen {γ : Type} (program : Program α) (next : Except Failure α → Program β)
    (last : Except Failure β → Program γ) :
    (program.andThen next).andThen last = program.andThen fun outcome => (next outcome).andThen last := by
  induction program with
  | done outcome => rfl
  | act action rest ih => exact congrArg (Program.act action) (funext fun reply => ih reply)

theorem andThen_done (program : Program α) : program.andThen .done = program := by
  induction program with
  | done outcome => rfl
  | act action rest ih => exact congrArg (Program.act action) (funext fun reply => ih reply)

/-- Sequencing is associative, and doing nothing is neutral. -/
instance : LawfulMonad Program := LawfulMonad.mk' Program
  (fun program => by
    show program.andThen _ = program
    conv => rhs; rw [← andThen_done program]
    congr 1
    funext outcome
    cases outcome <;> rfl)
  (fun _ _ => rfl)
  (fun program next last => by
    show (program.andThen _).andThen _ = program.andThen _
    rw [andThen_andThen]
    congr 1
    funext outcome
    cases outcome <;> rfl)

/-- The outcome of a program when a handler answers its actions, and the state that they leave. -/
def run (handler : (action : Action) → σ → Except Failure action.Reply × σ) : Program α → σ → Except Failure α × σ
  | .done outcome, state => (outcome, state)
  | .act action next, state =>
      let (reply, after) := handler action state
      (next reply).run handler after

section Run

variable (handler : (action : Action) → σ → Except Failure action.Reply × σ) (state : σ)

@[simp] theorem run_pure (value : α) : (pure value : Program α).run handler state = (.ok value, state) := rfl

@[simp] theorem run_fail (failure : Failure) : (fail failure : Program α).run handler state = (.error failure, state) :=
  rfl

@[simp] theorem run_ofExcept (outcome : Except Failure α) :
    (ofExcept outcome).run handler state = (outcome, state) := rfl

@[simp] theorem run_perform (action : Action) : (perform action).run handler state = handler action state := rfl

@[simp] theorem run_call (request : Call) : (call request).run handler state = handler (.store request) state := rfl

/-- What follows an outcome starts in the state that the program leaves. -/
@[simp] theorem run_andThen (program : Program α) (next : Except Failure α → Program β) :
    (program.andThen next).run handler state =
      (next (program.run handler state).1).run handler (program.run handler state).2 := by
  induction program generalizing state with
  | done outcome => rfl
  | act action rest ih => exact ih _ _

/-- After a success the run goes on; a failure ends it. -/
theorem run_bind (program : Program α) (next : α → Program β) :
    (program >>= next).run handler state =
      match program.run handler state with
      | (.ok value, after) => (next value).run handler after
      | (.error failure, after) => (.error failure, after) := by
  show (program.andThen _).run handler state = _
  rw [run_andThen]
  generalize program.run handler state = result
  obtain ⟨outcome, after⟩ := result
  cases outcome <;> rfl

/-- A failure is handed to what recovers from it. -/
theorem run_recover (program : Program α) (rescue : Failure → Program α) :
    (program.recover rescue).run handler state =
      match program.run handler state with
      | (.ok value, after) => (.ok value, after)
      | (.error failure, after) => (rescue failure).run handler after := by
  show (program.andThen _).run handler state = _
  rw [run_andThen]
  generalize program.run handler state = result
  obtain ⟨outcome, after⟩ := result
  cases outcome <;> rfl

/-- The last action changes the state and not the outcome. -/
@[simp] theorem run_followedBy (program : Program α) (action : Action) :
    (program.followedBy action).run handler state =
      ((program.run handler state).1, (handler action (program.run handler state).2).2) := by
  show (program.andThen _).run handler state = _
  rw [run_andThen]
  rfl

end Run
end Program
end PathStore

/-
This file performs the actions of the driver: its calls to a store, and its steps with a scratch file.
-/
import PathStore.Program

namespace PathStore

/-- A store beside a scratch directory, with the actions performed so far. -/
structure Workspace (σ : Type) where
  store : σ
  hasDirectory : Bool := true
  scratchFiles : Nat := 0
  performed : List Action := []

namespace Workspace

variable {σ α : Type}

/-- The workspace once an action is noted. -/
def note (workspace : Workspace σ) (action : Action) : Workspace σ :=
  { workspace with performed := workspace.performed ++ [action] }

/-- The reply to an action, and the workspace after it; an action is noted before it is performed. -/
def perform (answer : (call : Call) → σ → Except Failure call.Reply × σ) (action : Action)
    (workspace : Workspace σ) : Except Failure action.Reply × Workspace σ :=
  let noted := workspace.note action
  match action with
  | .store call =>
      let (reply, store) := answer call noted.store
      (reply, { noted with store })
  | .openScratch =>
      if noted.hasDirectory then (.ok (), { noted with scratchFiles := noted.scratchFiles + 1 })
      else (.error .noScratchDirectory, noted)
  | .spill reader => (reader.drain, noted)
  | .removeScratch => (.ok (), { noted with scratchFiles := noted.scratchFiles - 1 })

/-- The outcome of a program in a workspace, and the workspace after it. -/
def run (answer : (call : Call) → σ → Except Failure call.Reply × σ) (program : Program α)
    (workspace : Workspace σ) : Except Failure α × Workspace σ :=
  program.run (perform answer) workspace

/-- The call of an action, if it is one. -/
def callOf? : Action → Option Call
  | .store call => some call
  | _ => none

/-- The calls to the store, in order. -/
def calls (workspace : Workspace σ) : List Call := workspace.performed.filterMap callOf?

end Workspace
end PathStore

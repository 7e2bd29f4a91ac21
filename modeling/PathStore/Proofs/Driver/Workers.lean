/-
This file lets two workers, each with operations of a driver before it, take turns on one store. What a turn keeps holds
after any turns, and a worker whose program goes through stages is seen by its stage alone.
-/
import PathStore.Driver
import PathStore.Program.Interleaving
import PathStore.Proofs.Program.Alone

namespace PathStore

/-- The call that a program makes next, if its next action is one. -/
def Program.call? {α : Type} : Program α → Option Call
  | .done _ => none
  | .act action _ => Workspace.callOf? action

namespace Operation

/-- Whether the second operation comes at some time after the first. -/
def Precedes (first second : Operation) (operations : List Operation) : Prop := [first, second].Sublist operations

instance (first second : Operation) (operations : List Operation) : Decidable (first.Precedes second operations) :=
  inferInstanceAs (Decidable (List.Sublist _ _))

/-- A further operation comes after all that came before. -/
theorem precedes_concat_iff {first second last : Operation} {operations : List Operation} :
    first.Precedes second (operations ++ [last]) ↔
      first.Precedes second operations ∨ first ∈ operations ∧ second = last := by
  have reversed : first.Precedes second operations ↔ [second, first].Sublist operations.reverse :=
    List.reverse_sublist.symm
  rw [reversed, Precedes, ← List.reverse_sublist, List.reverse_concat, List.reverse_cons, List.reverse_singleton,
    List.singleton_append, List.sublist_cons_iff]
  refine or_congr_right ⟨?_, ?_⟩
  · rintro ⟨rest, same, below⟩
    obtain ⟨rfl, rfl⟩ := List.cons.inj same
    exact ⟨List.mem_reverse.mp (List.singleton_sublist.mp below), rfl⟩
  · rintro ⟨member, rfl⟩
    exact ⟨[first], rfl, List.singleton_sublist.mpr (List.mem_reverse.mpr member)⟩

end Operation

namespace Driver

/-- An operation of a driver on paths; the number of pages bounds what it lists. -/
inductive Task where
  | putContent (path : String) (content : Bytes)
  | writeStream (path : String) (offset : Int) (reader : Reader)
  | getContent (path : String)
  | readStream (path : String) (offset : Int)
  | stat (path : String)
  | list (path : String) (pages : Nat)
  | move (source target : String)
  | delete (path : String) (pages : Nat)

namespace Task

/-- What an operation gives. -/
inductive Result where
  | nothing
  | count (written : Nat)
  | content (bytes : Bytes)
  | stream (stream : Stream)
  | info (info : FileInfo)
  | paths (paths : List LooseText)

/-- The program of an operation. -/
def program (driver : Driver) : Task → Program Result
  | .putContent path content => do
      driver.putContent path content
      return .nothing
  | .writeStream path offset reader => return .count (← driver.writeStream path offset reader)
  | .getContent path => return .content (← driver.getContent path)
  | .readStream path offset => return .stream (← driver.readStream path offset)
  | .stat path => return .info (← driver.statPath path)
  | .list path pages => return .paths (← driver.listPath path pages)
  | .move source target => do
      driver.movePath source target
      return .nothing
  | .delete path pages => do
      driver.deletePath path pages
      return .nothing

end Task

/-- One who works on a store: the outcomes of the operations that have ended, and what the others have still to do. -/
structure Worker where
  hasDirectory : Bool
  outcomes : List (Except Failure Task.Result) := []
  pending : List (Program Task.Result)

namespace Worker

/-- A worker with the operations of a driver before it. -/
def ofTasks (hasDirectory : Bool) (driver : Driver) (tasks : List Task) : Worker :=
  { hasDirectory, pending := tasks.map (Task.program driver) }

/-- One turn: the next action of the present operation, or its end. -/
def turn (clock : Clock) (worker : Worker) (store : Store) : Worker × Store :=
  match worker.pending with
  | [] => (worker, store)
  | program :: later =>
      match program.outcome? with
      | some outcome => ({ worker with outcomes := worker.outcomes ++ [outcome], pending := later }, store)
      | none =>
          let (next, after) := program.step (Workspace.reply (Store.answer clock) worker.hasDirectory) store
          ({ worker with pending := next :: later }, after)

/-- The call that the next turn makes, if it makes one. -/
def call? (worker : Worker) : Option Call := worker.pending.head?.bind Program.call?

end Worker

/-- Two workers on one store. -/
structure Shared where
  own : Worker
  other : Worker
  store : Store

/-- Who takes the next turn, and the clock that is read in it. -/
structure Turn where
  isOwn : Bool
  clock : Clock

namespace Shared

/-- The workers and the store once one of them has taken a turn. -/
def take (shared : Shared) (turn : Turn) : Shared :=
  if turn.isOwn then
    let (own, store) := shared.own.turn turn.clock shared.store
    { shared with own, store }
  else
    let (other, store) := shared.other.turn turn.clock shared.store
    { shared with other, store }

/-- The workers and the store after turns in a row. -/
def after (shared : Shared) (turns : List Turn) : Shared := turns.foldl take shared

/-- Turns of one worker in a row run its present operation as a whole. -/
theorem exists_turns (clock : Clock) (hasDirectory : Bool) (outcomes : List (Except Failure Task.Result))
    (program : Program Task.Result) (later : List (Program Task.Result)) (other : Worker) (store : Store) :
    ∃ count, after ⟨⟨hasDirectory, outcomes, program :: later⟩, other, store⟩ (List.replicate count ⟨true, clock⟩) =
      ⟨⟨hasDirectory, outcomes ++ [(program.run (Workspace.reply (Store.answer clock) hasDirectory) store).1], later⟩,
        other, (program.run (Workspace.reply (Store.answer clock) hasDirectory) store).2⟩ := by
  induction program generalizing store with
  | done outcome => exact ⟨1, rfl⟩
  | act action next ih =>
      obtain ⟨count, reached⟩ := ih (Workspace.reply (Store.answer clock) hasDirectory action store).1
        (Workspace.reply (Store.answer clock) hasDirectory action store).2
      exact ⟨count + 1, reached⟩

/-- The call that a turn makes, if it makes one. -/
def call? (shared : Shared) (turn : Turn) : Option Call :=
  if turn.isOwn then shared.own.call? else shared.other.call?

/-- The calls that turns in a row make, in their order. -/
def calls (shared : Shared) : List Turn → List Call
  | [] => []
  | turn :: later => (shared.call? turn).toList ++ (shared.take turn).calls later

/-- What every turn keeps of the calls so far and of those who made them holds after any turns. -/
theorem after_keeps (invariant : List Call → Shared → Prop)
    (keeps : ∀ earlier shared turn, invariant earlier shared →
      invariant (earlier ++ (shared.call? turn).toList) (shared.take turn))
    (earlier : List Call) {shared : Shared} (holds : invariant earlier shared) (turns : List Turn) :
    invariant (earlier ++ shared.calls turns) (shared.after turns) := by
  induction turns generalizing earlier shared with
  | nil => rwa [calls, List.append_nil]
  | cons turn later ih =>
      rw [calls, ← List.append_assoc]
      exact ih _ (keeps earlier shared turn holds)

end Shared

/-- A program by its stages: what is left to do at each of them, the operation that comes next, and the stage and the
store to which the next action leads. -/
structure Stages (Stage α : Type) (hasDirectory : Bool) where
  IsLeft : Stage → Program α → Prop
  operation? : Stage → Option Operation
  advance : Clock → Stage → Store → Stage × Store
  operation_eq : ∀ {stage program}, IsLeft stage program → program.call?.map Call.operation = operation? stage
  step_left : ∀ (clock : Clock) {stage : Stage} {program : Program α} (store : Store), IsLeft stage program →
    let stepped := program.step (Workspace.reply (Store.answer clock) hasDirectory) store
    IsLeft (advance clock stage store).1 stepped.1 ∧ stepped.2 = (advance clock stage store).2

namespace Stages

variable {Stage α : Type} {hasDirectory : Bool} (stages : Stages Stage α hasDirectory) (pack : α → Task.Result)

/-- Whether a worker has reached a stage of its one operation: what is left at the stage is before it, or has ended. -/
inductive Reached (stage : Stage) : Worker → Prop where
  | busy {program : Program α} (left : stages.IsLeft stage program) :
      Reached stage ⟨hasDirectory, [], [program >>= fun value => pure (pack value)]⟩
  | finished {outcome : Except Failure α} (left : stages.IsLeft stage (.done outcome)) :
      Reached stage ⟨hasDirectory, [outcome.map pack], []⟩

variable {stages pack} {stage : Stage} {worker : Worker} (reached : stages.Reached pack stage worker)
include reached

/-- The next call of a worker is that of its stage. -/
theorem Reached.operation_eq : worker.call?.map Call.operation = stages.operation? stage := by
  cases reached with
  | @busy program left =>
      rw [← stages.operation_eq left]
      rcases program with outcome | ⟨action, next⟩
      · cases outcome <;> rfl
      · rfl
  | finished left => exact stages.operation_eq left

/-- A turn leads to the next stage and to the store of it. -/
theorem Reached.turn (clock : Clock) (store : Store) :
    stages.Reached pack (stages.advance clock stage store).1 (worker.turn clock store).1 ∧
      (worker.turn clock store).2 = (stages.advance clock stage store).2 := by
  cases reached with
  | @busy program left =>
      obtain ⟨stepped, stored⟩ := stages.step_left clock store left
      rcases program with outcome | ⟨action, next⟩
      · cases outcome <;> exact ⟨.finished stepped, stored⟩
      · exact ⟨.busy stepped, stored⟩
  | finished left =>
      obtain ⟨stepped, stored⟩ := stages.step_left clock store left
      exact ⟨.finished stepped, stored⟩

/-- A worker with nothing left to do has reached a stage at which its operation has ended. -/
theorem Reached.left_of_idle (idle : worker.pending = []) : ∃ outcome, stages.IsLeft stage (.done outcome) := by
  cases reached with
  | busy => exact absurd idle (List.cons_ne_nil _ _)
  | finished left => exact ⟨_, left⟩

end Stages

/-- What every step of two programs keeps of the operations so far, of their stages and of the store holds after any
turns of two workers who have reached these stages. -/
theorem Shared.after_stages {Stage α OtherStage β : Type} {hasDirectory otherHasDirectory : Bool}
    {stages : Stages Stage α hasDirectory} {otherStages : Stages OtherStage β otherHasDirectory}
    {pack : α → Task.Result} {otherPack : β → Task.Result}
    (invariant : List Operation → Stage → OtherStage → Store → Prop)
    (keeps : ∀ clock earlier stage otherStage store, invariant earlier stage otherStage store →
      invariant (earlier ++ (stages.operation? stage).toList) (stages.advance clock stage store).1 otherStage
        (stages.advance clock stage store).2)
    (otherKeeps : ∀ clock earlier stage otherStage store, invariant earlier stage otherStage store →
      invariant (earlier ++ (otherStages.operation? otherStage).toList) stage
        (otherStages.advance clock otherStage store).1 (otherStages.advance clock otherStage store).2)
    {start : Shared} {stage : Stage} {otherStage : OtherStage} (reached : stages.Reached pack stage start.own)
    (otherReached : otherStages.Reached otherPack otherStage start.other)
    (holds : invariant [] stage otherStage start.store) (turns : List Turn) :
    ∃ stage otherStage, stages.Reached pack stage (start.after turns).own ∧
      otherStages.Reached otherPack otherStage (start.after turns).other ∧
      invariant ((start.calls turns).map Call.operation) stage otherStage (start.after turns).store := by
  refine after_keeps (fun earlier shared => ∃ stage otherStage, stages.Reached pack stage shared.own ∧
    otherStages.Reached otherPack otherStage shared.other ∧
      invariant (earlier.map Call.operation) stage otherStage shared.store) ?_ []
    ⟨stage, otherStage, reached, otherReached, holds⟩ turns
  rintro earlier ⟨own, other, store⟩ ⟨isOwn, clock⟩ ⟨stage, otherStage, reached, otherReached, holds⟩
  have joined (call : Option Call) :
      (earlier ++ call.toList).map Call.operation = earlier.map Call.operation ++ (call.map Call.operation).toList := by
    rw [List.map_append, Option.toList_map]
  cases isOwn with
  | true =>
      obtain ⟨turned, stored⟩ := reached.turn clock store
      refine ⟨_, otherStage, turned, otherReached, ?_⟩
      have next := keeps clock _ stage otherStage store holds
      rw [← stored, ← reached.operation_eq, ← joined] at next
      exact next
  | false =>
      obtain ⟨turned, stored⟩ := otherReached.turn clock store
      refine ⟨stage, _, reached, turned, ?_⟩
      have next := otherKeeps clock _ stage otherStage store holds
      rw [← stored, ← otherReached.operation_eq, ← joined] at next
      exact next

end Driver
end PathStore

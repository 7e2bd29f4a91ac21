/-
This file opens a store to others. Before each call that is answered others may have made calls of their own, and what
none of them changes stays as it is.
-/
import PathStore.Proofs.Bucket.Regions

namespace PathStore

/-- A call that another one makes, and the clock that is read for it. -/
structure Visit where
  clock : Clock
  call : Call

/-- A store, the visits of others before each of the calls to come, and the stores that the calls so far have met. -/
structure BusyStore where
  store : Store
  visits : List (List Visit)
  met : List Store := []

namespace BusyStore

/-- The store as the next call meets it. -/
def visited (busy : BusyStore) : Store :=
  (busy.visits.headD []).foldl (fun store visit => (store.answer visit.clock visit.call).2) busy.store

/-- The answer to a call, and the store after it. -/
def answer (clock : Clock) (call : Call) (busy : BusyStore) : Except Failure call.Reply × BusyStore :=
  let (reply, store) := busy.visited.answer clock call
  (reply, ⟨store, busy.visits.tail, busy.met ++ [busy.visited]⟩)

/-- Whether no visit changes a key. -/
def Spares (key : String) (busy : BusyStore) : Prop :=
  ∀ visits ∈ busy.visits, ∀ visit ∈ visits, key ∉ visit.call.changed

section Spares

variable {key : String} {busy : BusyStore} (spares : busy.Spares key)
include spares

/-- A key that no visit changes is met as it was left. -/
theorem Spares.find?_visited : busy.visited.bucket.find? key = busy.store.bucket.find? key := by
  obtain ⟨store, visits, met⟩ := busy
  cases visits with
  | nil => rfl
  | cons next later =>
      have spared : ∀ visit ∈ next, key ∉ visit.call.changed := spares next List.mem_cons_self
      clear spares
      show (next.foldl _ store).bucket.find? key = store.bucket.find? key
      induction next generalizing store with
      | nil => rfl
      | cons visit rest ih =>
          obtain ⟨first, others⟩ := List.forall_mem_cons.mp spared
          have unchanged : (store.answer visit.clock visit.call).2.bucket.find? key = store.bucket.find? key := by
            rcases store.answer_bucket visit.clock visit.call with same | same
            · rw [same, Bucket.find?_answer_of_not_changed store.bucket visit.clock first]
            · rw [same]
          exact (ih _ others).trans unchanged

theorem Spares.answer (clock : Clock) (call : Call) : (busy.answer clock call).2.Spares key :=
  fun visits member => spares visits (List.mem_of_mem_tail member)

end Spares
end BusyStore
end PathStore

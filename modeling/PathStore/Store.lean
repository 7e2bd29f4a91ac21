/-
This file holds a store in memory, with the failure that is planned for its next composition.
-/
import PathStore.Bucket.Store

namespace PathStore

/-- A bucket and the error that its next composition meets. -/
structure Store where
  bucket : Bucket := .empty
  composeError : Option ServiceError := none

namespace Store

/-- The answer to a call, and the store after it; a planned error comes before anything is read. -/
def answer (clock : Clock) (call : Call) (store : Store) : Except Failure call.Reply × Store :=
  match call, store.composeError with
  | .putParts .., some error => (.error (.service error), { store with composeError := none })
  | call, _ =>
      let (reply, bucket) := Bucket.answer clock call store.bucket
      (reply, { store with bucket })

end Store
end PathStore

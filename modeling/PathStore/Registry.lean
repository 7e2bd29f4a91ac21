/-
This file holds the registry of drivers, from which a host takes a driver by name.
-/
import PathStore.Settings.Loader

namespace PathStore

/-- The constructors of drivers by their names. -/
structure Registry (δ : Type) where
  constructors : List (String × (Settings.Parameters → Except Failure δ))

namespace Registry

variable {δ : Type}

/-- The names in ascending order. -/
def names (registry : Registry δ) : List String :=
  (registry.constructors.map Prod.fst).mergeSort fun first second => !(second < first)

/-- The registry with one more constructor, whose name is neither empty nor taken. -/
def register (registry : Registry δ) (name : String) (constructor : Settings.Parameters → Except Failure δ) :
    Except Failure (Registry δ) :=
  if name = "" then .error (.value .emptyName)
  else if (registry.constructors.map Prod.fst).contains name then .error (.value (.nameTaken name))
  else .ok ⟨(name, constructor) :: registry.constructors⟩

/-- The driver that the constructor with a name makes of parameters. -/
def make (registry : Registry δ) (name : String) (parameters : Settings.Parameters) : Except Failure δ :=
  match registry.constructors.lookup name with
  | some constructor => constructor parameters
  | none => .error (.value (.unknownName name registry.names))

/-- The registry that knows the one driver of this library, given how it is made of settings. -/
def standard (ofSettings : Settings → δ) : Registry δ :=
  ⟨[(Failure.driverName, fun parameters => (Settings.ofParameters parameters).map ofSettings)]⟩

end Registry
end PathStore

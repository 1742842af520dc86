import Template.Value.Entries

/-!
Loaders give the sources of other templates by name.
-/

namespace Template

inductive LoaderError where
  | notFound (name : String)
  | failed (name reason : String)
deriving DecidableEq, Repr

namespace LoaderError

def message : LoaderError → String
  | notFound name => "resource not found: " ++ name
  | failed name reason => "failed to load resource " ++ name ++ ": " ++ reason

end LoaderError

/-- The source of a name, or why there is none. The answer may depend on the names that the render
has asked for before. -/
abbrev Loader := (before : Array String) → (name : String) → Except LoaderError String

namespace Loader

/-- The loader that has nothing. -/
def none : Loader := fun _ name => .error (.notFound name)

end Loader

/-- Sources held in memory, and names that fail with a reason whatever is held. -/
structure Resources where
  sources : Entries String
  failures : Entries String

namespace Resources

def insert (name source : String) (r : Resources) : Resources :=
  { r with sources := r.sources.put name source }

/-- Is the name looked up among the sources at all? -/
def serves (name : String) (r : Resources) : Bool := !r.failures.contains name

def loader (r : Resources) : Loader := fun _ name =>
  match r.failures.get? name with
  | some reason => .error (.failed name reason)
  | .none =>
    match r.sources.get? name with
    | some source => .ok source
    | .none => .error (.notFound name)

def contains (name : String) (r : Resources) : Bool :=
  r.failures.contains name || r.sources.contains name

end Resources

end Template

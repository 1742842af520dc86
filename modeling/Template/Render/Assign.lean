import Template.Render.State

/-!
Assignment to a name, or to a property that is reached from it.
-/

namespace Template.Rendering

variable {ω : Type}

/-- Follows properties from a value. Where one is missing there is null. -/
def follow (env : Observed ω) : List String → Value → Rendering ω Value
  | [], v => return v
  | name :: names, v => do
    let next ← onStore (v.property? env.hosts name)
    follow env names (next.getD .null)

/-- Writes a property: an entry of a map, or what the setter of an object writes. Other values have
no properties that can be written. -/
def writeProperty (hosts : Hosts) (target : Value) (name : String) (value : Value) :
    Action Unit := do
  match target with
  | .map a => Store.setEntries a (((← get).entries a).put name value)
  | .object id =>
    let _ ← id.invoke? hosts (Accessor.setter name) [value]
    return ()
  | _ => return ()

/-- The names before the last one, and the last one. -/
def splitLast : String → List String → List String × String
  | name, [] => ([], name)
  | name, next :: names =>
    let (front, last) := splitLast next names
    (name :: front, last)

def assign (env : Observed ω) (name : String) (path : List String) (value : Value) :
    Rendering ω Unit := do
  match path with
  | [] => modify (State.set name value)
  | first :: more =>
    let (parents, last) := splitLast first more
    let start := ((← get).scopes.get? name).getD .null
    let target ← follow env parents start
    use env (.write target last value) (writeProperty env.hosts target last value)

end Template.Rendering

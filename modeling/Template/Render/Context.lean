import Template.Value.Copy

/-!
What templates are rendered with: plain values, and the objects of the program around them. No
render writes to the values, since each gets copies of its own.
-/

namespace Template

structure Context where
  values : Entries Value
  /-- The numbers of the host objects by the names they are known by. -/
  providers : Entries Nat

namespace Context

def empty : Context := ⟨[], []⟩

def insert (name : String) (value : Value) (c : Context) : Context :=
  { c with values := c.values.put name value }

def register (name : String) (host : Nat) (c : Context) : Context :=
  { c with providers := c.providers.put name host }

/-- The values that the entries of a map give; anything else gives none. -/
def ofPlain : Plain → Action Context
  | .map entries => do
    let pairs ← Plain.entryValues entries
    return { values := Entries.ofPairs pairs, providers := [] }
  | _ => return empty

def copyValues : Entries Value → Action (List (String × Value))
  | [] => return []
  | (name, v) :: rest => do
    let copy ← v.deepCopy
    return (name, copy) :: (← copyValues rest)

/-- The global scope of a render. A value hides the object of the same name. -/
def globalScope (c : Context) : Action (Entries Value) := do
  let objects := c.providers.map fun (name, host) => (name, Value.object (.host host))
  return Entries.ofPairs (objects ++ (← copyValues c.values))

end Context

end Template

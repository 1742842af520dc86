import Template.Value.Basic

/-!
Plain data, and copies of values that share no list or map with the value they are made from.
-/

namespace Template

/-- Data without sharing or identity. -/
inductive Plain where
  | null
  | bool (value : Bool)
  | number (value : Float)
  | text (value : String)
  | list (items : List Plain)
  | map (entries : List (String × Plain))
deriving Inhabited

namespace Plain

mutual

/-- Puts plain data into the store. -/
def toValue : Plain → Action Value
  | .null => return .null
  | .bool b => return .bool b
  | .number x => return .number x
  | .text t => return .text t
  | .list items => do Store.newList (← itemValues items)
  | .map entries => do Store.newMap (Entries.ofPairs (← entryValues entries))

def itemValues : List Plain → Action (List Value)
  | [] => return []
  | item :: items => do
    let v ← toValue item
    return v :: (← itemValues items)

def entryValues : List (String × Plain) → Action (List (String × Value))
  | [] => return []
  | (name, item) :: items => do
    let v ← toValue item
    return (name, v) :: (← entryValues items)

end

end Plain

namespace Value

/-- Copies lists and maps that are nested less than `depth` deep. -/
def copyWithin : Nat → Value → Action Value
  | depth + 1, .list a => do
    let items ← (← get).items a |>.mapM (copyWithin depth)
    Store.newList items
  | depth + 1, .map a => do
    let entries ← (← get).entries a |>.mapM fun (name, v) => do
      return (name, ← copyWithin depth v)
    Store.newMap entries
  | _, v => return v

/-- A copy in new cells. Objects are not copied. -/
def deepCopy (v : Value) : Action Value := do
  copyWithin (← get).depthBound v

end Value

end Template

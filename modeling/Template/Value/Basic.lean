import Template.Pattern.Engine
import Template.Value.Entries

/-!
Values and the store. Scalars are plain data; lists and maps are cells of the store, so that a
change through one alias is seen through every other. Objects are known by their identity alone.
-/

namespace Template

/-- The number of a cell of the store. -/
abbrev Address := Nat

/-- What an object is: the loop with that number, or a host object. -/
inductive ObjectId where
  | loop (number : Nat)
  | host (number : Nat)
deriving DecidableEq, Repr

inductive Value where
  | null
  | bool (value : Bool)
  | number (value : Float)
  | text (value : String)
  | list (cell : Address)
  | map (cell : Address)
  | object (id : ObjectId)
deriving DecidableEq, Inhabited

inductive Cell where
  | list (items : List Value)
  | map (entries : Entries Value)
deriving DecidableEq, Inhabited

/-- What a loop tells about itself. -/
structure LoopState where
  index : Nat
  hasNext : Bool
  stopped : Bool
  /-- The object of the loop around it, or null. -/
  parent : Value
deriving DecidableEq, Inhabited

/-- A call of a host method, with the texts of its arguments at that time. -/
structure Call where
  object : String
  method : String
  arguments : List String
deriving DecidableEq, Repr

/-- All that values can reach: the cells, the loops, and a record of the host methods called. -/
structure Store where
  cells : Array Cell
  loops : Array LoopState
  calls : Array Call

namespace Call

def describe (c : Call) : String :=
  c.object ++ "." ++ c.method ++ "(" ++ "|".intercalate c.arguments ++ ")"

end Call

namespace LoopState

def start (parent : Value) : LoopState := ⟨0, false, false, parent⟩

def count (l : LoopState) : Nat := l.index + 1

/-- Moves to iteration `index`; `hasNext` tells whether another one follows. -/
def advance (l : LoopState) (index : Nat) (hasNext : Bool) : LoopState :=
  { l with index, hasNext }

def describe (l : LoopState) : String := s!"foreach[{l.index}]"

end LoopState

/-- Steps that may read and change the store. -/
abbrev Action := StateM Store

namespace Store

def empty : Store := ⟨#[], #[], #[]⟩

/-- The items of a list cell; no other cell has any. -/
def items (s : Store) (a : Address) : List Value :=
  match s.cells[a]? with
  | some (.list items) => items
  | _ => []

/-- The entries of a map cell; no other cell has any. -/
def entries (s : Store) (a : Address) : Entries Value :=
  match s.cells[a]? with
  | some (.map entries) => entries
  | _ => []

/-- The values in a list or a map. -/
def contents (s : Store) (a : Address) : List Value := s.items a ++ (s.entries a).map Prod.snd

def loop (s : Store) (number : Nat) : LoopState := s.loops.getD number (.start .null)

def setCell (s : Store) (a : Address) (cell : Cell) : Store :=
  { s with cells := s.cells.setIfInBounds a cell }

/-- No chain of lists and maps that do not contain themselves is longer than this. -/
def depthBound (s : Store) : Nat := s.cells.size + 1

/-- There are no more pairs of lists and of maps than this. -/
def pairBound (s : Store) : Nat := 2 * (s.cells.size * s.cells.size) + 1

/-- Puts a cell into the store and answers its address. -/
def allocate (cell : Cell) : Action Address :=
  fun s => (s.cells.size, { s with cells := s.cells.push cell })

def newList (items : List Value) : Action Value := do
  return .list (← allocate (.list items))

def newMap (entries : Entries Value) : Action Value := do
  return .map (← allocate (.map entries))

def setItems (a : Address) (items : List Value) : Action Unit :=
  modify (·.setCell a (.list items))

def setEntries (a : Address) (entries : Entries Value) : Action Unit :=
  modify (·.setCell a (.map entries))

def newLoop (parent : Value) : Action Nat :=
  fun s => (s.loops.size, { s with loops := s.loops.push (.start parent) })

def updateLoop (number : Nat) (f : LoopState → LoopState) : Action Unit :=
  modify fun s => { s with loops := s.loops.modify number f }

def recordCall (call : Call) : Action Unit :=
  modify fun s => { s with calls := s.calls.push call }

end Store

/-- A method of a host object: it gets the arguments and may use the store. -/
abbrev HostMethod := List Value → Action Value

/-- An object of the program around the templates. -/
structure HostObject where
  name : String
  properties : Entries Value
  methods : Entries HostMethod

/-- What the program around the templates brings along: its objects, by number, and the engine for
the patterns that the methods of texts are given. -/
structure Hosts where
  objects : Array HostObject
  patterns : PatternEngine

namespace Value

def isNull : Value → Bool
  | null => true
  | _ => false

/-- The cell of a list or a map. -/
def cell? : Value → Option Address
  | list a | map a => some a
  | _ => none

def kind : Value → String
  | null => "null"
  | bool _ => "boolean"
  | number _ => "number"
  | text _ => "string"
  | list _ => "list"
  | map _ => "map"
  | object _ => "object"

def text? : Value → Option String
  | text s => some s
  | _ => none

def ofNat (n : Nat) : Value := number (Float.ofNat n)

def ofInt (n : Int) : Value := number (Float.ofInt n)

/-- False, null, zero, the empty text and the empty list do not hold, nor does a number that is
none; everything else does. -/
def isTruthy (s : Store) : Value → Bool
  | null => false
  | bool b => b
  | number x => !(x == 0) && x == x
  | text t => !t.isEmpty
  | list a => !(s.items a).isEmpty
  | map _ | object _ => true

end Value

end Template

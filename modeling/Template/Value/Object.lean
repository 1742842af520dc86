import Template.Pattern.Search
import Template.Value.Accessor
import Template.Value.Text

/-!
Objects: the object of a loop, and the objects of the program around the templates. A property that
does not exist may be served by a reading method, and the other way round.
-/

namespace Template

namespace LoopState

def property? (l : LoopState) (name : String) : Option Value :=
  match name with
  | "index" => some (.ofNat l.index)
  | "count" => some (.ofNat l.count)
  | "hasNext" => some (.bool l.hasNext)
  | "first" => some (.bool (l.index == 0))
  | "last" => some (.bool (!l.hasNext))
  | "parent" => some l.parent
  | _ => none

/-- The property that a method without arguments reads. -/
def readBy? (method : String) : Option String :=
  match method with
  | "hasNext" => some "hasNext"
  | "getIndex" => some "index"
  | "getCount" => some "count"
  | "getParent" => some "parent"
  | "isFirst" => some "first"
  | "isLast" => some "last"
  | _ => none

end LoopState

namespace Hosts

/-- Objects, and the engine for regular expressions. -/
def ofObjects (objects : Array HostObject) : Hosts := ⟨objects, .regex⟩

/-- No objects. -/
def none : Hosts := ofObjects #[]

end Hosts

namespace HostObject

/-- Calls a method and records the call. -/
def run (hosts : Hosts) (o : HostObject) (name : String) (method : HostMethod)
    (arguments : List Value) : Action Value := do
  let texts := arguments.map (Value.display hosts (← get))
  Store.recordCall ⟨o.name, name, texts⟩
  method arguments

def property? (hosts : Hosts) (o : HostObject) (name : String) : Action (Option Value) := do
  match o.properties.get? name with
  | some v => return some v
  | none =>
    let getter := Accessor.getter name
    match o.methods.get? getter with
    | some method => return some (← o.run hosts getter method [])
    | none => return none

def invoke? (hosts : Hosts) (o : HostObject) (name : String) (arguments : List Value) :
    Action (Option Value) := do
  match o.methods.get? name with
  | some method => return some (← o.run hosts name method arguments)
  | none =>
    if arguments.isEmpty then return (Accessor.property? name).bind (o.properties.get? ·)
    else return none

end HostObject

namespace HostMethod

/-- Answers the same value every time. -/
def constant (v : Value) : HostMethod := fun _ => return v

/-- Answers a new list of its arguments. -/
def arguments : HostMethod := fun args => Store.newList args

/-- Answers the number of its arguments. -/
def count : HostMethod := fun args => return .ofNat args.length

/-- Answers the texts of its arguments, one after the other. -/
def concat (hosts : Hosts) : HostMethod := fun args => do
  return .text (String.join (args.map (Value.display hosts (← get))))

/-- Answers its first argument, or null. -/
def first : HostMethod := fun args => return args.headD .null

end HostMethod

namespace ObjectId

def property? (hosts : Hosts) (id : ObjectId) (name : String) : Action (Option Value) := do
  match id with
  | .loop n => return ((← get).loop n).property? name
  | .host n =>
    match hosts.objects[n]? with
    | some o => o.property? hosts name
    | none => return none

def invoke? (hosts : Hosts) (id : ObjectId) (name : String) (arguments : List Value) :
    Action (Option Value) := do
  match id with
  | .loop n =>
    if name = "stop" then
      Store.updateLoop n fun l => { l with stopped := true }
      return some .null
    else if arguments.isEmpty then
      return (LoopState.readBy? name).bind ((← get).loop n).property?
    else return none
  | .host n =>
    match hosts.objects[n]? with
    | some o => o.invoke? hosts name arguments
    | none => return none

end ObjectId

end Template

import Template.Value.Member
import Template.Value.Operation

/-!
What using values may come to instead of an end. Members and operators print values and compare
them. A map is held for writing while the key is printed that is to be put into it or removed from
it, so the key must not lead to the map.
-/

namespace Template

namespace Value

/-- What comparing items with a value comes to, up to the first that is equal to it. -/
def searchFault? (hosts : Hosts) (s : Store) (items : List Value) (v : Value) : Option Fault :=
  match items.allM fun item => (item.compared? hosts s v).map (!·) with
  | none => some .endless
  | some _ => none

/-- What printing one of the arguments comes to. -/
def argumentFault? (s : Store) (held : Option Address) (arguments : List Value) (n : Nat) :
    Option Fault :=
  arguments[n]?.bind (printFault? s held)

/-- Methods of texts print the arguments that they take as texts. A replacement is not printed if
there is nothing to look for. -/
def textFault? (hosts : Hosts) (s : Store) (name : String) (arguments : List Value) :
    Option Fault :=
  let fault? := argumentFault? s none arguments
  match name with
  | "contains" | "startsWith" | "endsWith" | "indexOf" | "lastIndexOf" | "concat" | "matches"
  | "split" => fault? 0
  | "replace" =>
    fault? 0 <|> if (textArgument? hosts s arguments 0).isSome then fault? 1 else none
  | "replaceAll" | "replaceFirst" =>
    fault? 0 <|> if (patternArgument? hosts s arguments 0).isSome then fault? 1 else none
  | _ => none

/-- Methods of lists compare items, and print the list as a whole. -/
def listFault? (hosts : Hosts) (s : Store) (a : Address) (name : String)
    (arguments : List Value) : Option Fault :=
  match name with
  | "toString" => (list a).printFault? s none
  | "contains" | "indexOf" => arguments[0]?.bind (searchFault? hosts s (s.items a))
  | "remove" =>
    match arguments with
    | [] | .number _ :: _ => none
    | v :: _ => searchFault? hosts s (s.items a) v
  | _ => none

/-- Methods of maps print the key. Those that change the map hold it for writing before they do. -/
def mapFault? (s : Store) (a : Address) (name : String) (arguments : List Value) : Option Fault :=
  match name with
  | "toString" => (map a).printFault? s none
  | "get" | "containsKey" => argumentFault? s none arguments 0
  | "put" | "remove" => argumentFault? s (some a) arguments 0
  | _ => none

/-- The call of a host method is recorded with the texts of all its arguments. -/
def objectFault? (hosts : Hosts) (s : Store) (id : ObjectId) (name : String)
    (arguments : List Value) : Option Fault :=
  match id with
  | .loop _ => none
  | .host n =>
    if (hosts.objects[n]?.bind (HostObject.methods · |>.get? name)).isSome then
      arguments.findSome? (printFault? s none)
    else none

/-- `value.name(arguments)` -/
def invokeFault? (hosts : Hosts) (s : Store) (v : Value) (name : String)
    (arguments : List Value) : Option Fault :=
  match v with
  | .text _ => textFault? hosts s name arguments
  | .list a => listFault? hosts s a name arguments
  | .map a => mapFault? s a name arguments
  | .object id => objectFault? hosts s id name arguments
  | _ => none

end Value

/-- What a render does with values that may follow them down. -/
inductive Use where
  /-- The value is printed. -/
  | display (v : Value)
  /-- `target.name(arguments)` -/
  | invoke (target : Value) (name : String) (arguments : List Value)
  /-- `target[key]` -/
  | index (target key : Value)
  | binary (op : BinaryOp) (a b : Value)
  /-- `target.name` is written. -/
  | write (target : Value) (name : String) (value : Value)

/-- What kills the program at a use, if anything does. -/
def Use.fault? (hosts : Hosts) (s : Store) : Use → Option Fault
  | display v => v.printFault? s none
  | invoke target name arguments => target.invokeFault? hosts s name arguments
  | index target key =>
    match target with
    | .map _ | .object _ => key.printFault? s none
    | _ => none
  | binary op a b =>
    match op with
    | .equal | .notEqual => if (a.compared? hosts s b).isNone then some .endless else none
    | .add => if a.isText || b.isText then a.printFault? s none <|> b.printFault? s none else none
    | _ => none
  | write target name value =>
    match target with
    | .object id => Value.objectFault? hosts s id (Accessor.setter name) [value]
    | _ => none

end Template

import Template.Text.Search
import Template.Value.Equality
import Template.Value.Object

/-!
What values answer: properties, methods and indexes. A member that does not exist answers nothing,
which is not the same as null.
-/

namespace Template.Value

/-- The text of an argument, if it is there and not null. -/
def textArgument? (hosts : Hosts) (s : Store) (arguments : List Value) (n : Nat) :
    Option (List Char) :=
  match arguments[n]? with
  | none | some .null => none
  | some v => some (v.display hosts s).toList

/-- The pattern that an argument is, if it is there and the engine knows it as one. -/
def patternArgument? (hosts : Hosts) (s : Store) (arguments : List Value) (n : Nat) :
    Option ReadyPattern :=
  (textArgument? hosts s arguments n).bind fun p => hosts.patterns.ready? (String.ofList p)

def ofChars (cs : List Char) : Value := .text (String.ofList cs)

/-- A place in a text, or minus one. -/
def ofPlace : Option Nat → Value
  | some n => .ofNat n
  | none => .ofInt (-1)

/-- A place counted from the end if it is negative. -/
def place? (length : Nat) (key : Value) : Option Nat :=
  match key.index? with
  | none => none
  | some n =>
    let n := if n < 0 then length + n else n
    if 0 ≤ n ∧ n < length then some n.toNat else none

/-- The characters from one place to another; places outside are moved to the nearest end. -/
def substring (cs : List Char) (start : Int) (stop : Option Int) : List Char :=
  let length : Int := cs.length
  let start := max 0 (min start length)
  let stop := match stop with
    | some stop => max start (min stop length)
    | none => length
  (cs.drop start.toNat).take (stop - start).toNat

/-- Empty pieces at the end do not count. -/
def withoutTrailingEmpty (pieces : List (List Char)) : List (List Char) :=
  (pieces.reverse.dropWhile List.isEmpty).reverse

/-- The methods of texts. Only `split` makes something new. -/
def textMethod? (hosts : Hosts) (cs : List Char) (name : String) (arguments : List Value) :
    Action (Option Value) := do
  let s ← get
  let text? := textArgument? hosts s arguments
  let pattern? := patternArgument? hosts s arguments
  match name with
  | "length" | "size" => return some (.ofNat cs.length)
  | "isEmpty" => return some (.bool cs.isEmpty)
  | "toUpperCase" => return some (ofChars (Text.upper cs))
  | "toLowerCase" => return some (ofChars (Text.lower cs))
  | "trim" => return some (ofChars (Text.trim cs))
  | "toString" => return some (ofChars cs)
  | "contains" => return (text? 0).map fun t => .bool (Text.contains t cs)
  | "startsWith" => return (text? 0).map fun t => .bool (t.isPrefixOf cs)
  | "endsWith" => return (text? 0).map fun t => .bool (t.isSuffixOf cs)
  | "indexOf" => return (text? 0).map fun t => ofPlace (Text.indexOf? t cs)
  | "lastIndexOf" => return (text? 0).map fun t => ofPlace (Text.lastIndexOf? t cs)
  | "concat" => return (text? 0).map fun t => ofChars (cs ++ t)
  | "equals" =>
    return arguments[0]?.map fun v => .bool (v.text? == some (String.ofList cs))
  | "equalsIgnoreCase" =>
    return arguments[0]?.map fun v =>
      match v with
      | .text t => .bool (Text.lower t.toList == Text.lower cs)
      | _ => .bool false
  | "charAt" =>
    return do
      let n ← (← arguments[0]?).index?
      if n < 0 then none else (cs[n.toNat]?).map fun c => ofChars [c]
  | "substring" =>
    return do
      let start ← (← arguments[0]?).index?
      match arguments[1]? with
      | none => some (ofChars (substring cs start none))
      | some v => (v.index?).map fun stop => ofChars (substring cs start (some stop))
  | "replace" =>
    return (text? 0).map fun t => ofChars (Text.replace t ((text? 1).getD []) cs)
  | "replaceAll" =>
    return (pattern? 0).map fun m => ofChars (m.replaceAll cs ((text? 1).getD []))
  | "replaceFirst" =>
    return (pattern? 0).map fun m => ofChars (m.replaceFirst cs ((text? 1).getD []))
  | "matches" =>
    return do
      let p ← text? 0
      let m ← hosts.patterns.ready? ("^(?:" ++ String.ofList p ++ ")$")
      some (.bool (m.found cs))
  | "split" =>
    match pattern? 0 with
    | none => return none
    | some m => return some (← Store.newList ((withoutTrailingEmpty (m.split cs)).map ofChars))
  | _ => return none

/-- Puts an item before the one at a place. -/
def insertAt (items : List Value) (n : Nat) (v : Value) : List Value :=
  items.take n ++ v :: items.drop n

/-- The methods of lists. -/
def listMethod? (hosts : Hosts) (a : Address) (name : String) (arguments : List Value) :
    Action (Option Value) := do
  let s ← get
  let items := s.items a
  let find := fun (v : Value) => items.findIdx? fun item => item.looseEq hosts s v
  match name with
  | "size" => return some (.ofNat items.length)
  | "isEmpty" => return some (.bool items.isEmpty)
  | "toString" => return some (.text ((Value.list a).display hosts s))
  | "get" => return do items[← place? items.length (← arguments[0]?)]?
  | "contains" => return arguments[0]?.map fun v => .bool (find v).isSome
  | "indexOf" => return arguments[0]?.map fun v => ofPlace (find v)
  | "add" =>
    match arguments with
    | [v] =>
      Store.setItems a (items ++ [v])
      return some (.bool true)
    | [place, v] =>
      match place.index? with
      | some n =>
        if 0 ≤ n ∧ n ≤ items.length then
          Store.setItems a (insertAt items n.toNat v)
          return some .null
        else return none
      | none => return none
    | _ => return none
  | "remove" =>
    match arguments with
    | [] => return none
    | key :: _ =>
      match key with
      | .number _ =>
        match place? items.length key with
        | some n =>
          Store.setItems a (items.eraseIdx n)
          return items[n]?
        | none => return none
      | _ =>
        match find key with
        | some n =>
          Store.setItems a (items.eraseIdx n)
          return some (.bool true)
        | none => return some (.bool false)
  | _ => return none

/-- A map of a key and its value. -/
def newEntry (entry : String × Value) : Action Value :=
  Store.newMap [("key", .text entry.1), ("value", entry.2)]

/-- The methods of maps. While a key is printed to put or remove an entry, the map is held for
writing already: a key that leads to the map cannot be printed then. -/
def mapMethod? (hosts : Hosts) (a : Address) (name : String) (arguments : List Value) :
    Action (Option Value) := do
  let s ← get
  let entries := s.entries a
  let key? := arguments[0]?.map (Value.display hosts s)
  match name with
  | "size" => return some (.ofNat entries.length)
  | "isEmpty" => return some (.bool entries.isEmpty)
  | "toString" => return some (.text ((Value.map a).display hosts s))
  | "get" => return key?.map fun key => (entries.get? key).getD .null
  | "containsKey" => return key?.map fun key => .bool (entries.contains key)
  | "put" =>
    match key? with
    | none => return none
    | some key =>
      Store.setEntries a (entries.put key (arguments[1]?.getD .null))
      return some ((entries.get? key).getD .null)
  | "remove" =>
    match key? with
    | none => return none
    | some key =>
      Store.setEntries a (entries.erase key)
      return some ((entries.get? key).getD .null)
  | "keySet" => return some (← Store.newList (entries.keys.map .text))
  | "values" => return some (← Store.newList entries.values)
  | "entrySet" => return some (← Store.newList (← entries.mapM newEntry))
  | _ => return none

/-- `value.name(arguments)` -/
def invoke? (hosts : Hosts) (v : Value) (name : String) (arguments : List Value) :
    Action (Option Value) :=
  match v with
  | .null => return none
  | .bool b =>
    match name with
    | "toString" => return some (.text (if b then "true" else "false"))
    | "booleanValue" => return some (.bool b)
    | _ => return none
  | .number x =>
    match name with
    | "intValue" | "longValue" => return some (.number (Number.truncate x))
    | "doubleValue" => return some (.number x)
    | "toString" => return some (.text (Number.printed x))
    | _ => return none
  | .text t => textMethod? hosts t.toList name arguments
  | .list a => listMethod? hosts a name arguments
  | .map a => mapMethod? hosts a name arguments
  | .object id => id.invoke? hosts name arguments

/-- `value.name`. Scalars and lists answer by their methods that read or test the property. -/
def property? (hosts : Hosts) (v : Value) (name : String) : Action (Option Value) := do
  match v with
  | .null => return none
  | .map a => return ((← get).entries a).get? name
  | .object id => id.property? hosts name
  | _ =>
    if name.isEmpty then return none
    match ← v.invoke? hosts (Accessor.getter name) [] with
    | some found => return some found
    | none => v.invoke? hosts (Accessor.tester name) []

/-- `value[key]` -/
def index (hosts : Hosts) (v key : Value) : Action (Option Value) := do
  let s ← get
  match v with
  | .list a => return do (s.items a)[← place? (s.items a).length key]?
  | .map a => return (s.entries a).get? (key.display hosts s)
  | .object id =>
    match ← id.invoke? hosts "get" [key] with
    | some found => return some found
    | none => id.property? hosts (key.display hosts (← get))
  | _ => return none

end Template.Value

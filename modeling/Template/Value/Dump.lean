import Template.Text.Quoted
import Template.Value.Text

/-!
Dumps of values, which show their kinds, in contrast to the text that templates print.
-/

namespace Template.Value

def boolText (b : Bool) : String := if b then "true" else "false"

def listed (texts : List String) : String := "[" ++ ", ".intercalate texts ++ "]"

def mapped (pairs : List (String × String)) : String :=
  let texts := pairs.map fun (key, shown) => Text.quoted key ++ ": " ++ shown
  "\x7b" ++ ", ".intercalate texts ++ "\x7d"

/-- Field names with their dumps in braces. -/
def record (name : String) (fields : List (String × String)) : String :=
  name ++ " \x7b " ++ ", ".intercalate (fields.map fun (field, shown) => field ++ ": " ++ shown) ++
    " \x7d"

def held (text : String) : String := record "Cell" [("value", text)]

/-- The dump of a value nested less than `depth` deep, through lists, maps and objects. -/
def dumpWithin (hosts : Hosts) (s : Store) : Nat → Value → String
  | _, null => "Null"
  | _, bool b => "Bool(" ++ boolText b ++ ")"
  | _, number x => "Number(" ++ Number.exactText x ++ ")"
  | _, text t => "String(" ++ Text.quoted t ++ ")"
  | 0, _ => ""
  | depth + 1, list a => listed ((s.items a).map (dumpWithin hosts s depth))
  | depth + 1, map a => mapped ((s.entries a).map fun (key, v) => (key, dumpWithin hosts s depth v))
  | depth + 1, object id =>
    let inner :=
      match id with
      | .loop n =>
        let l := s.loop n
        record "LoopState"
          [("index", held (toString l.index)), ("has_next", held (boolText l.hasNext)),
            ("stopped", held (boolText l.stopped)), ("parent", dumpWithin hosts s depth l.parent)]
      | .host n =>
        match hosts.objects[n]? with
        | some o =>
          record "FnObject"
            [("name", Text.quoted o.name),
              ("properties", mapped (o.properties.map fun (key, v) =>
                (key, dumpWithin hosts s depth v))),
              ("methods", listed (o.methods.keys.map Text.quoted))]
        | none => ""
    "Object(" ++ inner ++ ")"

/-- The dump of a value. -/
def dump (hosts : Hosts) (s : Store) (v : Value) : String :=
  dumpWithin hosts s (s.depthBound + s.loops.size + hosts.objects.size) v

end Template.Value

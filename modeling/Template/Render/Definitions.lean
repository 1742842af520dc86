import Template.Tree.Basic
import Template.Value.Entries

/-!
Definitions that templates make for calls by name. A definition belongs to no scope; the first of
a name stays, unless later ones may replace it.
-/

namespace Template

structure Definition where
  name : String
  parameters : List String
  body : List Tree.Node

structure Definitions where
  replaceable : Bool
  entries : Entries Definition

namespace Definitions

def empty (replaceable : Bool) : Definitions := ⟨replaceable, []⟩

def get? (name : String) (t : Definitions) : Option Definition := t.entries.get? name

/-- Would a definition of the name become the valid one? -/
def accepts (name : String) (t : Definitions) : Bool := t.replaceable || !t.entries.contains name

def define (d : Definition) (t : Definitions) : Definitions :=
  if t.accepts d.name then { t with entries := t.entries.put d.name d } else t

def defineAll (ds : List Definition) (t : Definitions) : Definitions :=
  ds.foldl (fun t d => t.define d) t

end Definitions

namespace Tree

mutual

/-- The definitions in a node, in document order: also those in branches and loops, not those in
the body of another definition. -/
def Node.definitions : Node → List Definition
  | .define name parameters body _ => [⟨name, parameters, body⟩]
  | .conditional branches otherwise _ =>
    branchDefinitions branches ++ otherwiseDefinitions otherwise
  | .loop _ _ body otherwise _ => nodeDefinitions body ++ otherwiseDefinitions otherwise
  | _ => []

def Branch.definitions : Branch → List Definition
  | .mk _ body => nodeDefinitions body

def branchDefinitions : List Branch → List Definition
  | [] => []
  | b :: bs => Branch.definitions b ++ branchDefinitions bs

def otherwiseDefinitions : Option (List Node) → List Definition
  | none => []
  | some body => nodeDefinitions body

def nodeDefinitions : List Node → List Definition
  | [] => []
  | n :: ns => Node.definitions n ++ nodeDefinitions ns

end

end Tree

end Template

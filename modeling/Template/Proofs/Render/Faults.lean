import Template.Proofs.Render.Failure
import Template.Proofs.Tree.Depth
import Template.Render.Answer

/-!
What kills a program while it renders. Only values that contain themselves do so, and changes of a
map under a key that leads to it, as the map is held while the key is printed. Every other render has
an outcome, and it fails only at nodes that name a source.
-/

namespace Template

/-! ### Uses of values -/

namespace Value

variable {hosts : Hosts} {s : Store} {arguments : List Value}

end Value

namespace Use

/-- The values that a use is given. -/
def operands : Use → List Value
  | display v => [v]
  | invoke target _ arguments => target :: arguments
  | index target key => [target, key]
  | binary _ a b => [a, b]
  | write target _ value => [target, value]

/-- A map is changed under a key that leads to it. -/
def LeadsBack (s : Store) : Use → Prop
  | .invoke (.map a) name (key :: _) => (name = "put" ∨ name = "remove") ∧ s.Reaches key a
  | _ => False

/-- Nothing in the operands contains itself, and no map is changed under a key that leads to it. -/
structure Sound (s : Store) (u : Use) : Prop where
  acyclic : ∀ v ∈ u.operands, s.AcyclicIn v
  free : ¬u.LeadsBack s

variable {hosts : Hosts} {s : Store} {u : Use}

end Use

/-! ### Renders -/

namespace Document

variable {env : Environment} {context : Context} {d : Document} {store : Store}

end Document

end Template

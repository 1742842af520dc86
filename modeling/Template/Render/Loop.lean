import Template.Render.Items
import Template.Render.State

/-!
Loops. Each pass runs the body in a scope of its own, with the item, the object of the loop and the
number of the pass.
-/

namespace Template.Rendering

variable {ω : Type}

/-- One pass through the body. -/
def pass (item : String) (number index : Nat) (value : Value) (body : Rendering ω Rendered) :
    Rendering ω Rendered :=
  inScope do
    modify (State.setAll [item, "foreach", "velocityCount"]
      [value, .object (.loop number), .ofNat (index + 1)])
    body

/-- Passes for the items, at most `remaining`, where `index` have been made and have rendered
`before`. -/
def passes (item : String) (number : Nat) (body : Rendering ω Rendered) :
    (remaining index : Nat) → Items → (before : String) → Rendering ω Rendered
  | 0, _, _, before => return .ofText before
  | remaining + 1, index, items, before =>
    match items.next? with
    | none => return .ofText before
    | some (value, rest) => do
      let hasNext := !rest.isEmpty && 0 < remaining
      onStore (Store.updateLoop number (·.advance index hasNext))
      let r ← pass item number index value body
      let text := before ++ r.text
      match r.flow with
      | .stop => return ⟨.stop, text⟩
      | .leave => return .ofText text
      | .normal =>
        if ((← get).store.loop number).stopped then return .ofText text
        else passes item number body remaining (index + 1) rest text

/-- Runs the body for the items, or what is there instead if there is nothing to run it for. -/
def forEach (limit : Nat) (item : String) (items : Items) (body otherwise : Rendering ω Rendered) :
    Rendering ω Rendered :=
  if items.isEmpty || limit == 0 then otherwise
  else inLoop fun number => passes item number body limit 0 items ""

end Template.Rendering

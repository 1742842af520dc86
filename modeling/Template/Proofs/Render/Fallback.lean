import Template.Proofs.Render.Observer
import Template.Proofs.Value.Footprint

/-!
Documents that are one expression. If its value is null the nodes are rendered instead, from the
state that the evaluation left: what it did to the store stays done.
-/

namespace Template

namespace Tree

mutual

/-- All that the expression may do to the store is allowed, and it does nothing else to a state. -/
def Expr.Within (F : Footprint) (hosts : Hosts) : Expr → Prop
  | .literal _ _ | .reference _ _ _ => True
  | .interpolated nodes _ => nodesWithin F hosts nodes
  | .member object name _ => object.Within F hosts ∧ F.AllowsHosts hosts (Accessor.getter name)
  | .call (.member object name _) arguments _ =>
    object.Within F hosts ∧ allWithin F hosts arguments ∧ F.AllowsMethod hosts name
  | .call _ _ _ => True
  | .index container key _ =>
    container.Within F hosts ∧ key.Within F hosts ∧ F.AllowsMethod hosts "get" ∧
      ∀ name, F.AllowsHosts hosts (Accessor.getter name)
  | .map entries _ => entriesWithin F hosts entries ∧ ∀ cell, F.Covers (Store.allocate cell)
  | .list elements _ => allWithin F hosts elements ∧ ∀ cell, F.Covers (Store.allocate cell)
  | .range first last _ =>
    first.Within F hosts ∧ last.Within F hosts ∧ ∀ cell, F.Covers (Store.allocate cell)
  | .binary _ left right _ => left.Within F hosts ∧ right.Within F hosts
  | .unary _ operand _ => operand.Within F hosts
  | .ternary condition thenCase elseCase _ =>
    condition.Within F hosts ∧ thenCase.Within F hosts ∧ elseCase.Within F hosts

def allWithin (F : Footprint) (hosts : Hosts) : List Expr → Prop
  | [] => True
  | e :: es => e.Within F hosts ∧ allWithin F hosts es

def entriesWithin (F : Footprint) (hosts : Hosts) : List (String × Expr) → Prop
  | [] => True
  | (_, e) :: rest => e.Within F hosts ∧ entriesWithin F hosts rest

/-- Of the directives only those that choose, leave and stop do nothing to a state. -/
def Node.Within (F : Footprint) (hosts : Hosts) : Node → Prop
  | .text _ _ | .leave _ | .stop _ => True
  | .interpolation e _ _ _ => e.Within F hosts
  | .conditional branches otherwise _ =>
    branchesWithin F hosts branches ∧ otherwiseWithin F hosts otherwise
  | _ => False

def nodesWithin (F : Footprint) (hosts : Hosts) : List Node → Prop
  | [] => True
  | n :: ns => n.Within F hosts ∧ nodesWithin F hosts ns

def branchesWithin (F : Footprint) (hosts : Hosts) : List Branch → Prop
  | [] => True
  | .mk condition body :: rest =>
    condition.Within F hosts ∧ nodesWithin F hosts body ∧ branchesWithin F hosts rest

def otherwiseWithin (F : Footprint) (hosts : Hosts) : Option (List Node) → Prop
  | none => True
  | some body => nodesWithin F hosts body

end

end Tree

namespace Rendering

variable {ω α β : Type} {F : Footprint}

/-- Every run ends with a result and leaves the state as it was, but for allowed changes to the
store. -/
def Settles (F : Footprint) (c : Rendering ω α) : Prop :=
  ∀ s w, ∃ a store, (c s w).1 = (.ok a, { s with store }) ∧ F.Allows s.store store

namespace Settles

theorem unchanged {c : Rendering ω α} (h : ∀ s w, ∃ a, (c s w).1 = (.ok a, s)) : Settles F c :=
  fun s w => (h s w).imp fun _ he => ⟨s.store, he, F.refl _⟩

theorem pure (a : α) : Settles F (Pure.pure a : Rendering ω α) := unchanged fun _ _ => ⟨a, rfl⟩

theorem get : Settles F (MonadState.get : Rendering ω State) := unchanged fun s _ => ⟨s, rfl⟩

theorem report {env : Observed ω} (event : State → Event) :
    Settles F (Rendering.report env event) := unchanged fun _ _ => ⟨(), rfl⟩

theorem onStore {action : Action α} (h : F.Covers action) :
    Settles F (Rendering.onStore action : Rendering ω α) :=
  fun s _ => ⟨(action s.store).1, (action s.store).2, rfl, h s.store⟩

theorem bind {c : Rendering ω α} {f : α → Rendering ω β} (hc : Settles F c)
    (hf : ∀ a, Settles F (f a)) : Settles F (c >>= f) := by
  intro s w
  obtain ⟨a, store, ended, allowed⟩ := hc s w
  rw [bind_run]
  generalize c s w = out at ended ⊢
  obtain ⟨_, v⟩ := out
  cases ended
  obtain ⟨b, store', ended, allowed'⟩ := hf a { s with store } v
  exact ⟨b, store', ended, F.trans allowed allowed'⟩

variable {env : Observed ω}

theorem isTruthy (v : Value) : Settles F (Rendering.isTruthy v : Rendering ω Bool) :=
  bind get fun _ => pure _

theorem use (use : Use) {action : Action α} (h : F.Covers action) :
    Settles F (Rendering.use env use action) :=
  bind (report _) fun _ => onStore h

theorem display (v : Value) : Settles F (Rendering.display env v) := use _ (Footprint.read _)

theorem lookUp (name : String) : Settles F (Rendering.lookUp env name) :=
  bind (report _) fun _ => bind get fun _ => pure _

theorem print (text : String) : Settles F (Rendering.print env text) :=
  bind (report _) fun _ => pure _

theorem inString {c : Rendering ω α} (hc : Settles F c) : Settles F (Rendering.inString env c) :=
  bind (report _) fun _ => bind hc fun _ => bind (report _) fun _ => pure _

theorem andThen {a b : Rendering ω Rendered} (ha : Settles F a) (hb : Settles F b) :
    Settles F (Rendering.andThen a b) := by
  refine bind ha fun r => ?_
  split
  · exact bind hb fun _ => pure _
  · exact pure _

variable {deeper : Frame → Rendering ω Rendered}

mutual

theorem evaluate : (e : Tree.Expr) → e.Within F env.hosts →
    Settles F (Rendering.evaluate env deeper e)
  | .literal _ _, _ => by
      simp only [Rendering.evaluate]
      exact pure _
  | .interpolated nodes _, h => by
      simp only [Rendering.evaluate]
      exact bind (inString (renderNodes nodes h)) fun _ => pure _
  | .reference name _ _, _ => by
      simp only [Rendering.evaluate]
      exact lookUp name
  | .member object name _, h => by
      simp only [Rendering.evaluate]
      exact bind (evaluate object h.1) fun v => bind (onStore (Footprint.property h.2 v)) fun _ =>
        pure _
  | .call callee arguments _, h => by
      cases callee with
      | member object name _ =>
          simp only [Rendering.evaluate]
          exact bind (evaluate object h.1) fun v => bind (evaluateAll arguments h.2.1) fun _ =>
            bind (use _ (Footprint.invoke h.2.2 v _)) fun _ => pure _
      | _ =>
          simp only [Rendering.evaluate]
          exact pure _
  | .index container key _, h => by
      simp only [Rendering.evaluate]
      exact bind (evaluate container h.1) fun v => bind (evaluate key h.2.1) fun k =>
        bind (use _ (Footprint.index h.2.2.1.host h.2.2.2 v k)) fun _ => pure _
  | .map entries _, h => by
      simp only [Rendering.evaluate]
      exact bind (evaluateEntries entries h.1) fun _ => onStore (Footprint.newMap h.2 _)
  | .list elements _, h => by
      simp only [Rendering.evaluate]
      exact bind (evaluateAll elements h.1) fun _ => onStore (Footprint.newList h.2 _)
  | .range first last _, h => by
      simp only [Rendering.evaluate]
      exact bind (evaluate first h.1) fun _ => bind (evaluate last h.2.1) fun _ =>
        onStore (Footprint.newList h.2.2 _)
  | .binary op left right _, h => by
      have hl := evaluate left h.1
      have hr := evaluate right h.2
      cases op with
      | conj | disj =>
          simp only [Rendering.evaluate]
          refine bind hl fun _ => bind (isTruthy _) fun _ => ?_
          split
          all_goals first
            | exact pure _
            | exact bind hr fun _ => bind (isTruthy _) fun _ => pure _
      | _ =>
          simp only [Rendering.evaluate]
          exact bind hl fun _ => bind hr fun _ => use _ (Footprint.read _)
  | .unary _ operand _, h => by
      simp only [Rendering.evaluate]
      exact bind (evaluate operand h) fun _ => bind get fun _ => pure _
  | .ternary condition thenCase elseCase _, h => by
      simp only [Rendering.evaluate]
      refine bind (evaluate condition h.1) fun _ => bind (isTruthy _) fun _ => ?_
      split
      · exact evaluate thenCase h.2.1
      · exact evaluate elseCase h.2.2

theorem evaluateAll : (es : List Tree.Expr) → Tree.allWithin F env.hosts es →
    Settles F (Rendering.evaluateAll env deeper es)
  | [], _ => by
      simp only [Rendering.evaluateAll]
      exact pure _
  | e :: es, h => by
      simp only [Rendering.evaluateAll]
      exact bind (evaluate e h.1) fun _ => bind (evaluateAll es h.2) fun _ => pure _

theorem evaluateEntries : (entries : List (String × Tree.Expr)) →
    Tree.entriesWithin F env.hosts entries → Settles F (Rendering.evaluateEntries env deeper entries)
  | [], _ => by
      simp only [Rendering.evaluateEntries]
      exact pure _
  | (_, e) :: rest, h => by
      simp only [Rendering.evaluateEntries]
      exact bind (evaluate e h.1) fun _ => bind (evaluateEntries rest h.2) fun _ => pure _

theorem renderNode : (n : Tree.Node) → n.Within F env.hosts →
    Settles F (Rendering.renderNode env deeper n)
  | .text content _, _ => by
      simp only [Rendering.renderNode]
      exact print content
  | .interpolation e _ _ _, h => by
      simp only [Rendering.renderNode]
      refine bind (evaluate e h) fun v => ?_
      split
      · exact bind (pure _) print
      · exact bind (display v) print
  | .conditional branches otherwise _, h => by
      simp only [Rendering.renderNode]
      exact renderBranches (renderOtherwise otherwise h.2) branches h.1
  | .leave _, _ | .stop _, _ => by
      simp only [Rendering.renderNode]
      exact pure _

theorem renderNodes : (ns : List Tree.Node) → Tree.nodesWithin F env.hosts ns →
    Settles F (Rendering.renderNodes env deeper ns)
  | [], _ => by
      simp only [Rendering.renderNodes]
      exact pure _
  | n :: ns, h => by
      simp only [Rendering.renderNodes]
      exact andThen (bind (report _) fun _ => renderNode n h.1) (renderNodes ns h.2)

theorem renderBranches {otherwise : Rendering ω Rendered} (ho : Settles F otherwise) :
    (branches : List Tree.Branch) → Tree.branchesWithin F env.hosts branches →
      Settles F (Rendering.renderBranches env deeper otherwise branches)
  | [], _ => by
      simp only [Rendering.renderBranches]
      exact ho
  | .mk condition body :: rest, h => by
      simp only [Rendering.renderBranches]
      refine bind (evaluate condition h.1) fun _ => bind (isTruthy _) fun _ => ?_
      split
      · exact renderNodes body h.2.1
      · exact renderBranches ho rest h.2.2

theorem renderOtherwise : (otherwise : Option (List Tree.Node)) →
    Tree.otherwiseWithin F env.hosts otherwise →
      Settles F (Rendering.renderOtherwise env deeper otherwise)
  | none, _ => by
      simp only [Rendering.renderOtherwise]
      exact pure _
  | some body, h => by
      simp only [Rendering.renderOtherwise]
      exact renderNodes body h

end

end Settles

/-- Every run leaves the state as it was, but for allowed changes to the store. -/
def Still (F : Footprint) (c : Rendering ω α) : Prop :=
  ∀ s w, ∃ store, (c s w).1.2 = { s with store } ∧ F.Allows s.store store

theorem Still.evaluate {env : Observed ω} {deeper : Frame → Rendering ω Rendered} (e : Tree.Expr)
    (he : e.Within F env.hosts) : Still F (Rendering.evaluate env deeper e) := by
  intro s w
  have settles : Settles F (Rendering.evaluate env deeper e) := Settles.evaluate e he
  obtain ⟨_, store, ended, allowed⟩ := settles s w
  exact ⟨store, congrArg Prod.snd ended, allowed⟩

theorem renderDocument_of_none (env : Observed ω) (deeper : Frame → Rendering ω Rendered)
    (nodes : List Tree.Node) (s : State) (w : ω) :
    renderDocument env deeper ⟨nodes, none⟩ s w =
      (do return (← renderNodes env deeper nodes).absorbLeave : Rendering ω Rendered)
        (s.define (Tree.nodeDefinitions nodes)) w := by
  simp only [renderDocument, wholeValue, pure_bind]
  rw [bind_run, modify_run]
  rfl

theorem renderDocument_of_null {env : Observed ω} {deeper : Frame → Rendering ω Rendered}
    {nodes : List Tree.Node} {e : Tree.Expr} {s t : State} {w v : ω}
    (h : evaluate env deeper e (s.define (Tree.nodeDefinitions nodes)) w = ((.ok .null, t), v)) :
    renderDocument env deeper ⟨nodes, some e⟩ s w =
      (do return (← renderNodes env deeper nodes).absorbLeave : Rendering ω Rendered) t v := by
  simp only [renderDocument, wholeValue]
  rw [bind_run, modify_run]
  dsimp only
  rw [bind_run, h]
  rfl

end Rendering

open Rendering in
/-- A document whose expression is null renders its nodes from the state that the evaluation has
left. That differs from the state before in the store alone, and there by what the parts of the
expression may do. If they do nothing to the store, the document renders as it would without the
expression. -/
theorem render_of_null_expression {ω : Type} (env : Observed ω) (frames : Nat)
    (nodes : List Tree.Node) (e : Tree.Expr) (s t : State) (w v : ω)
    (h : evaluate env (renderFrame env frames) e (s.define (Tree.nodeDefinitions nodes)) w =
      ((.ok .null, t), v)) :
    let deeper := renderFrame env frames
    let hoisted := s.define (Tree.nodeDefinitions nodes)
    renderDocument env deeper ⟨nodes, some e⟩ s w =
      (do return (← renderNodes env deeper nodes).absorbLeave : Rendering ω Rendered) t v ∧
    (∀ F, e.Within F env.hosts →
      ∃ store, t = { hoisted with store } ∧ F.Allows s.store store) ∧
    (e.Within .untouched env.hosts →
      (renderDocument env deeper ⟨nodes, some e⟩ s w).1 =
        (renderDocument env deeper ⟨nodes, none⟩ s w).1) := by
  intro deeper hoisted
  have still (F : Footprint) (he : e.Within F env.hosts) :
      ∃ store, t = { hoisted with store } ∧ F.Allows s.store store := by
    obtain ⟨store, left, allowed⟩ := Still.evaluate e he hoisted w
    exact ⟨store, left ▸ (congrArg (fun out => out.1.2) h).symm, allowed⟩
  refine ⟨renderDocument_of_null h, still, fun he => ?_⟩
  obtain ⟨store, rfl, same⟩ := still .untouched he
  obtain rfl : store = s.store := same
  have alike := agreement_alike (show env.toEnvironment = env.toEnvironment from rfl)
  rw [renderDocument_of_null h, renderDocument_of_none]
  exact alike.absorbLeave (alike.nodes frames nodes) hoisted v w

/-- `$a*$b` -/
def Document.product : Document :=
  { nodes :=
      [.interpolation (.reference "a" false default) false "$a" default, .text "*" default,
        .interpolation (.reference "b" false default) false "$b" default]
    expression :=
      some (.binary .multiply (.reference "a" false default) (.reference "b" false default)
        default) }

theorem render_of_null_expression_product :
    let env : Observed Unit := Environment.unobserved ⟨.standard, .none, .none⟩
    let s := State.initial .standard [("a", .text "x")] .empty
    let plain := Rendering.renderDocument env (Rendering.renderFrame env 1)
      ⟨Document.product.nodes, none⟩ s ()
    (Rendering.renderDocument env (Rendering.renderFrame env 1) .product s ()).1 = plain.1 ∧
      plain.1 = (.ok (.ofText "x*$b"), s) := by
  intro env s plain
  obtain ⟨-, -, same⟩ := render_of_null_expression env 1 Document.product.nodes
    (.binary .multiply (.reference "a" false default) (.reference "b" false default) default)
    s s () () rfl
  exact ⟨same ⟨trivial, trivial⟩, rfl⟩

/-- `$m.put('k','v')*$x` -/
def Document.putProduct : Document :=
  let put : Tree.Expr := .call (.member (.reference "m" false default) "put" default)
    [.literal (.text "k") default, .literal (.text "v") default] default
  { nodes :=
      [.interpolation put false "$m.put('k','v')" default, .text "*" default,
        .interpolation (.reference "x" false default) false "$x" default]
    expression := some (.binary .multiply put (.reference "x" false default) default) }

/-- The entry that the expression has put into the map is still there when the nodes are rendered;
they would not find it without the expression. -/
example :
    let env : Observed Unit := Environment.unobserved ⟨.standard, .none, .none⟩
    let s := State.initial .standard [("m", .map 0)] ⟨#[.map []], #[], #[]⟩
    let render := fun d => (Rendering.renderDocument env (Rendering.renderFrame env 1) d s ()).1.1
    render .putProduct = .ok (.ofText "v*$x") ∧
      render ⟨Document.putProduct.nodes, none⟩ = .ok (.ofText "$m.put('k','v')*$x") := by
  exact ⟨rfl, rfl⟩

end Template

import Template.Render.Assign
import Template.Render.Context
import Template.Render.Loop

/-!
Rendering of documents. Expressions and nodes are followed along their structure. A call of a
definition and a template that is parsed on the way lead out of it, one frame deeper; the depths of
both are limited, so the limits bound the frames.
-/

namespace Template

/-- What is rendered one frame deeper. -/
inductive Frame where
  | body (nodes : List Tree.Node)
  | document (d : Document)

def Tree.Literal.value : Tree.Literal → Value
  | null => .null
  | bool b => .bool b
  | number x => .number x
  | text t => .text t

namespace Rendering

variable {ω : Type}

/-- Calls a definition, unless calls are nested too deep already. -/
def call (env : Observed ω) (deeper : Frame → Rendering ω Rendered) (d : Definition)
    (arguments : Rendering ω (List Value)) : Rendering ω Rendered := do
  if env.options.maxCallDepth ≤ (← get).callDepth then return .empty
  else
    let values ← arguments
    inScope do
      modify (State.setAll d.parameters values)
      let r ← inCall (deeper (.body d.body))
      return r.absorbLeave

/-- Renders a template that is parsed on the way, unless such templates are nested too deep. -/
def ifMayParse (env : Observed ω) (body : Rendering ω Rendered) : Rendering ω Rendered := do
  if (← get).parseDepth < env.options.maxParseDepth then body else return .empty

/-- Renders a source as a template of its own in the current scope. -/
def nested (env : Observed ω) (deeper : Frame → Rendering ω Rendered) (source : String) :
    Rendering ω Rendered := do
  match Document.compile env.options source with
  | .error e => throw (.source e)
  | .ok d => inParse (deeper (.document d))

/-- Renders a resource as a template, if it is there. -/
def nestedResource (env : Observed ω) (deeper : Frame → Rendering ω Rendered) (name : String) :
    Rendering ω Rendered := do
  match ← load env name with
  | some source => nested env deeper source
  | none => return .empty

/-- Prints a resource as it is, if it is there. -/
def embedResource (env : Observed ω) (name : String) : Rendering ω Rendered := do
  match ← load env name with
  | some source => print env source
  | none => return .empty

/-- Runs the second part only if the first ended normally. -/
def andThen (first second : Rendering ω Rendered) : Rendering ω Rendered := do
  let r ← first
  match r.flow with
  | .normal =>
    let s ← second
    return { s with text := r.text ++ s.text }
  | _ => return r

/-- Renders a node, of which the observer is told first. -/
def visit (env : Observed ω) (node : Tree.Node) (body : Rendering ω Rendered) :
    Rendering ω Rendered := do
  report env (.node node)
  body

mutual

def evaluate (env : Observed ω) (deeper : Frame → Rendering ω Rendered) :
    Tree.Expr → Rendering ω Value
  | .literal literal _ => return literal.value
  | .interpolated nodes _ => do
    let r ← inString env (renderNodes env deeper nodes)
    return .text r.text
  | .reference name _ _ => lookUp env name
  | .member object name _ => do
    let target ← evaluate env deeper object
    let found ← onStore (target.property? env.hosts name)
    return found.getD .null
  | .call (.member object name _) arguments _ => do
    let target ← evaluate env deeper object
    let arguments ← evaluateAll env deeper arguments
    let result ← use env (.invoke target name arguments) (target.invoke? env.hosts name arguments)
    return result.getD .null
  | .call _ _ _ => return .null
  | .index container key _ => do
    let target ← evaluate env deeper container
    let key ← evaluate env deeper key
    let found ← use env (.index target key) (target.index env.hosts key)
    return found.getD .null
  | .map entries _ => do
    let pairs ← evaluateEntries env deeper entries
    onStore (Store.newMap (Entries.ofPairs pairs))
  | .list elements _ => do
    let values ← evaluateAll env deeper elements
    onStore (Store.newList values)
  | .range first last _ => do
    let a ← evaluate env deeper first
    let b ← evaluate env deeper last
    onStore (Store.newList (Items.between a b).toList)
  | .binary .conj left right _ => do
    let a ← evaluate env deeper left
    if ← isTruthy a then
      let b ← evaluate env deeper right
      return .bool (← isTruthy b)
    else return .bool false
  | .binary .disj left right _ => do
    let a ← evaluate env deeper left
    if ← isTruthy a then return .bool true
    else
      let b ← evaluate env deeper right
      return .bool (← isTruthy b)
  | .binary op left right _ => do
    let a ← evaluate env deeper left
    let b ← evaluate env deeper right
    use env (.binary op a b) do return .binary env.hosts (← get) op a b
  | .unary op operand _ => do
    let v ← evaluate env deeper operand
    return .unary (← get).store op v
  | .ternary condition thenCase elseCase _ => do
    let c ← evaluate env deeper condition
    if ← isTruthy c then evaluate env deeper thenCase
    else evaluate env deeper elseCase

def evaluateAll (env : Observed ω) (deeper : Frame → Rendering ω Rendered) :
    List Tree.Expr → Rendering ω (List Value)
  | [] => return []
  | e :: es => do
    let v ← evaluate env deeper e
    let vs ← evaluateAll env deeper es
    return v :: vs

def evaluateEntries (env : Observed ω) (deeper : Frame → Rendering ω Rendered) :
    List (String × Tree.Expr) → Rendering ω (List (String × Value))
  | [] => return []
  | (name, e) :: rest => do
    let v ← evaluate env deeper e
    let vs ← evaluateEntries env deeper rest
    return (name, v) :: vs

def renderNode (env : Observed ω) (deeper : Frame → Rendering ω Rendered) :
    Tree.Node → Rendering ω Rendered
  | .text content _ => print env content
  | .interpolation e quiet source _ => do
    let v ← evaluate env deeper e
    let text ← if v.isNull then pure (if quiet then "" else source) else display env v
    print env text
  | .conditional branches otherwise _ =>
    renderBranches env deeper (renderOtherwise env deeper otherwise) branches
  | .assign name path e _ => do
    let v ← evaluate env deeper e
    assign env name path v
    return .empty
  | .loop item (.range first last _) body otherwise _ => do
    let a ← evaluate env deeper first
    let b ← evaluate env deeper last
    forEach env.options.maxPasses item (Items.between a b) (renderNodes env deeper body)
      (renderOtherwise env deeper otherwise)
  | .loop item iterable body otherwise _ => do
    let v ← evaluate env deeper iterable
    forEach env.options.maxPasses item (Items.ofValue (← get).store v)
      (renderNodes env deeper body) (renderOtherwise env deeper otherwise)
  | .leave _ => return ⟨.leave, ""⟩
  | .stop _ => return ⟨.stop, ""⟩
  | .define name parameters body _ => do
    modify (State.define [⟨name, parameters, body⟩])
    return .empty
  | .macroCall name arguments source _ => do
    match (← get).definitions.get? name with
    | some d => call env deeper d (evaluateAll env deeper arguments)
    | none => print env source
  | .evaluate argument _ => do
    let source ← evaluate env deeper argument >>= display env
    ifMayParse env (nested env deeper source)
  | .parse argument _ => do
    let name ← evaluate env deeper argument >>= display env
    ifMayParse env (nestedResource env deeper name)
  | .embed arguments _ => embedAll env deeper arguments

def renderNodes (env : Observed ω) (deeper : Frame → Rendering ω Rendered) :
    List Tree.Node → Rendering ω Rendered
  | [] => return .empty
  | n :: ns => andThen (visit env n (renderNode env deeper n)) (renderNodes env deeper ns)

/-- The first branch whose condition holds, or what is there if none does. -/
def renderBranches (env : Observed ω) (deeper : Frame → Rendering ω Rendered)
    (otherwise : Rendering ω Rendered) : List Tree.Branch → Rendering ω Rendered
  | [] => otherwise
  | .mk condition body :: rest => do
    let c ← evaluate env deeper condition
    if ← isTruthy c then renderNodes env deeper body
    else renderBranches env deeper otherwise rest

def renderOtherwise (env : Observed ω) (deeper : Frame → Rendering ω Rendered) :
    Option (List Tree.Node) → Rendering ω Rendered
  | none => return .empty
  | some body => renderNodes env deeper body

/-- The sources of resources, one after the other, as they are. -/
def embedAll (env : Observed ω) (deeper : Frame → Rendering ω Rendered) :
    List Tree.Expr → Rendering ω Rendered
  | [] => return .empty
  | e :: es =>
    andThen (do embedResource env (← evaluate env deeper e >>= display env))
      (embedAll env deeper es)

end

/-- The value of the expression that a whole document is; null if it is none. -/
def wholeValue (env : Observed ω) (deeper : Frame → Rendering ω Rendered) :
    Option Tree.Expr → Rendering ω Value
  | some e => evaluate env deeper e
  | none => return .null

/-- A document that is one expression prints its value, unless that is null. -/
def renderDocument (env : Observed ω) (deeper : Frame → Rendering ω Rendered) (d : Document) :
    Rendering ω Rendered := do
  modify (State.define (Tree.nodeDefinitions d.nodes))
  let value ← wholeValue env deeper d.expression
  if value.isNull then
    let r ← renderNodes env deeper d.nodes
    return r.absorbLeave
  else print env (← display env value)

/-- Renders a frame with at most `frames` frames inside one another. -/
def renderFrame (env : Observed ω) : (frames : Nat) → Frame → Rendering ω Rendered
  | 0, _ => return .empty
  | frames + 1, .body nodes => renderNodes env (renderFrame env frames) nodes
  | frames + 1, .document d => renderDocument env (renderFrame env frames) d

/-- The limits allow no more frames inside one another than this. -/
def frameBound (options : Options) : Nat := options.maxCallDepth + options.maxParseDepth + 1

end Rendering

/-- What a render leaves: its text or why it failed, the store, and the names that the loader was
asked for. -/
structure RenderOutcome where
  result : Except RenderError String
  store : Store
  requests : Array String

namespace Document

variable {ω : Type}

/-- Runs a document with values and objects that are in the store. The observer starts with
`start`. -/
def run (env : Observed ω) (start : ω) (context : Context) (d : Document) (store : Store) :
    (Except RenderError Rendered × State) × ω :=
  let (global, store) := context.globalScope store
  Rendering.renderFrame env (Rendering.frameBound env.options) (.document d)
    (.initial env.options global store) start

/-- Renders a document while an observer looks on. -/
def renderObserved (env : Observed ω) (start : ω) (context : Context) (d : Document)
    (store : Store) : RenderOutcome × ω :=
  let ((result, s), seen) := d.run env start context store
  ({ result := result.map Rendered.text, store := s.store, requests := s.requests }, seen)

/-- Renders a document with nobody looking on. -/
def render (env : Environment) (context : Context) (d : Document) (store : Store) :
    RenderOutcome :=
  (d.renderObserved env.unobserved () context store).1

/-- All that happens in a render. -/
def events (env : Environment) (context : Context) (d : Document) (store : Store) : List Event :=
  (d.renderObserved env.recorded [] context store).2

end Document

end Template

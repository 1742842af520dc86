import Template.Render.Evaluate

/-!
Rendering part by part. If the parts that renderings are put together from are related, so are the
renderings of expressions and nodes. Four kinds of nodes lead out of the tree that is rendered:
calls of definitions, and templates and resources that are named on the way. What is rendered for
these is a part of its own, so two renderings may differ in what they render one frame deeper.
-/

namespace Template

namespace Tree

mutual

/-- All nodes inside an expression: those of the templates in its strings, and the nodes in them. -/
def Expr.nodes : Expr → List Node
  | .literal _ _ | .reference _ _ _ => []
  | .interpolated nodes _ => allNodes nodes
  | .member object _ _ => object.nodes
  | .call callee arguments _ => callee.nodes ++ nodesOfAll arguments
  | .index container key _ => container.nodes ++ key.nodes
  | .map entries _ => nodesOfEntries entries
  | .list elements _ => nodesOfAll elements
  | .range first last _ => first.nodes ++ last.nodes
  | .binary _ left right _ => left.nodes ++ right.nodes
  | .unary _ operand _ => operand.nodes
  | .ternary condition thenCase elseCase _ =>
    condition.nodes ++ (thenCase.nodes ++ elseCase.nodes)

def nodesOfAll : List Expr → List Node
  | [] => []
  | e :: es => e.nodes ++ nodesOfAll es

def nodesOfEntries : List (String × Expr) → List Node
  | [] => []
  | (_, e) :: rest => e.nodes ++ nodesOfEntries rest

/-- All nodes inside a node: in its expressions, branches and bodies. -/
def Node.inner : Node → List Node
  | .text _ _ | .leave _ | .stop _ => []
  | .interpolation e _ _ _ | .assign _ _ e _ | .evaluate e _ | .parse e _ => e.nodes
  | .conditional branches otherwise _ => nodesOfBranches branches ++ nodesOfOtherwise otherwise
  | .loop _ iterable body otherwise _ =>
    iterable.nodes ++ (allNodes body ++ nodesOfOtherwise otherwise)
  | .define _ _ body _ => allNodes body
  | .macroCall _ arguments _ _ | .embed arguments _ => nodesOfAll arguments

/-- The nodes of a list, and all nodes inside them. -/
def allNodes : List Node → List Node
  | [] => []
  | n :: ns => n :: (n.inner ++ allNodes ns)

def nodesOfBranches : List Branch → List Node
  | [] => []
  | .mk condition body :: rest => condition.nodes ++ (allNodes body ++ nodesOfBranches rest)

def nodesOfOtherwise : Option (List Node) → List Node
  | none => []
  | some body => allNodes body

end

mutual

/-- A definition in a node is made by a node in it, and so is all that its body has. -/
theorem Node.definitions_subset : (n : Node) → ∀ d ∈ n.definitions,
    (∃ place, .define d.name d.parameters d.body place ∈ n :: n.inner) ∧
      allNodes d.body ⊆ n.inner
  | .define name parameters body place => by
      intro d hd
      obtain rfl : d = ⟨name, parameters, body⟩ := by simpa [Node.definitions] using hd
      exact ⟨⟨place, List.mem_cons_self⟩, fun _ hm => hm⟩
  | .conditional branches otherwise _ => by
      intro d hd
      rcases List.mem_append.1 hd with hd | hd
      · obtain ⟨⟨place, made⟩, inside⟩ := branchDefinitions_subset branches d hd
        exact ⟨⟨place, .tail _ (List.mem_append_left _ made)⟩,
          fun _ hm => List.mem_append_left _ (inside hm)⟩
      · obtain ⟨⟨place, made⟩, inside⟩ := otherwiseDefinitions_subset otherwise d hd
        exact ⟨⟨place, .tail _ (List.mem_append_right _ made)⟩,
          fun _ hm => List.mem_append_right _ (inside hm)⟩
  | .loop _ _ body otherwise _ => by
      intro d hd
      rcases List.mem_append.1 hd with hd | hd
      · obtain ⟨⟨place, made⟩, inside⟩ := nodeDefinitions_subset body d hd
        exact ⟨⟨place, .tail _ (List.mem_append_right _ (List.mem_append_left _ made))⟩,
          fun _ hm => List.mem_append_right _ (List.mem_append_left _ (inside hm))⟩
      · obtain ⟨⟨place, made⟩, inside⟩ := otherwiseDefinitions_subset otherwise d hd
        exact ⟨⟨place, .tail _ (List.mem_append_right _ (List.mem_append_right _ made))⟩,
          fun _ hm => List.mem_append_right _ (List.mem_append_right _ (inside hm))⟩
  | .text .. | .interpolation .. | .assign .. | .leave .. | .stop .. | .macroCall ..
  | .evaluate .. | .parse .. | .embed .. => by simp [Node.definitions]

theorem branchDefinitions_subset : (branches : List Branch) → ∀ d ∈ branchDefinitions branches,
    (∃ place, .define d.name d.parameters d.body place ∈ nodesOfBranches branches) ∧
      allNodes d.body ⊆ nodesOfBranches branches
  | [] => by simp [branchDefinitions]
  | .mk _ body :: rest => by
      intro d hd
      rcases List.mem_append.1 hd with hd | hd
      · obtain ⟨⟨place, made⟩, inside⟩ := nodeDefinitions_subset body d hd
        exact ⟨⟨place, List.mem_append_right _ (List.mem_append_left _ made)⟩,
          fun _ hm => List.mem_append_right _ (List.mem_append_left _ (inside hm))⟩
      · obtain ⟨⟨place, made⟩, inside⟩ := branchDefinitions_subset rest d hd
        exact ⟨⟨place, List.mem_append_right _ (List.mem_append_right _ made)⟩,
          fun _ hm => List.mem_append_right _ (List.mem_append_right _ (inside hm))⟩

theorem otherwiseDefinitions_subset : (otherwise : Option (List Node)) →
    ∀ d ∈ otherwiseDefinitions otherwise,
      (∃ place, .define d.name d.parameters d.body place ∈ nodesOfOtherwise otherwise) ∧
        allNodes d.body ⊆ nodesOfOtherwise otherwise
  | none => by simp [otherwiseDefinitions]
  | some body => nodeDefinitions_subset body

theorem nodeDefinitions_subset : (ns : List Node) → ∀ d ∈ nodeDefinitions ns,
    (∃ place, .define d.name d.parameters d.body place ∈ allNodes ns) ∧
      allNodes d.body ⊆ allNodes ns
  | [] => by simp [nodeDefinitions]
  | n :: ns => by
      intro d hd
      rcases List.mem_append.1 hd with hd | hd
      · obtain ⟨⟨place, made⟩, inside⟩ := n.definitions_subset d hd
        exact ⟨⟨place, List.mem_append_left (allNodes ns) made⟩,
          fun _ hm => .tail _ (List.mem_append_left _ (inside hm))⟩
      · obtain ⟨⟨place, made⟩, inside⟩ := nodeDefinitions_subset ns d hd
        exact ⟨⟨place, .tail _ (List.mem_append_right _ made)⟩,
          fun _ hm => .tail _ (List.mem_append_right _ (inside hm))⟩

end

end Tree

/-- All nodes of a document, those in its strings and definitions included. -/
def Document.allNodes (d : Document) : List Tree.Node :=
  Tree.allNodes d.nodes ++ (d.expression.map Tree.Expr.nodes).getD []

/-- All nodes of a frame. -/
def Frame.allNodes : Frame → List Tree.Node
  | .body nodes => Tree.allNodes nodes
  | .document d => d.allNodes

namespace Rendering

variable {ω ω₁ ω₂ : Type}

/-- What uses of values come to. -/
inductive Does (hosts : Hosts) : Use → {α : Type} → Action α → Prop where
  | display (v : Value) : Does hosts (.display v) do return v.display hosts (← get)
  | invoke (v : Value) (name : String) (arguments : List Value) :
      Does hosts (.invoke v name arguments) (v.invoke? hosts name arguments)
  | index (v key : Value) : Does hosts (.index v key) (v.index hosts key)
  | binary (op : BinaryOp) (a b : Value) :
      Does hosts (.binary op a b) do return Value.binary hosts (← get) op a b
  | write (target : Value) (name : String) (value : Value) :
      Does hosts (.write target name value) (writeProperty hosts target name value)

/-- The steps on the store that expressions and assignments make. -/
inductive StoreStep (hosts : Hosts) : {α : Type} → Action α → Prop where
  | newList (items : List Value) : StoreStep hosts (Store.newList items)
  | newMap (pairs : List (String × Value)) : StoreStep hosts (Store.newMap (.ofPairs pairs))
  | property (v : Value) (name : String) : StoreStep hosts (v.property? hosts name)
  | use {use : Use} {α : Type} {action : Action α} (h : Does hosts use action) :
      StoreStep hosts action

/-- What values and names are made of. -/
def view : Rendering ω (Store × Scopes) := do
  let s ← get
  return (s.store, s.scopes)

/-- The items of a loop as it goes through them. -/
def startItems (env : Observed ω) (deeper : Frame → Rendering ω Rendered) :
    Tree.Expr → Rendering ω Items
  | .range first last _ => do
    let a ← evaluate env deeper first
    let b ← evaluate env deeper last
    return .between a b
  | iterable => do
    let v ← evaluate env deeper iterable
    return .ofValue (← get).store v

theorem renderNode_loop {env : Observed ω} {deeper : Frame → Rendering ω Rendered} {item : String}
    {iterable : Tree.Expr} {body : List Tree.Node} {otherwise : Option (List Tree.Node)}
    {place : Region} :
    renderNode env deeper (.loop item iterable body otherwise place) =
      startItems env deeper iterable >>= fun items =>
        forEach env.options.maxPasses item items (renderNodes env deeper body)
          (renderOtherwise env deeper otherwise) := by
  cases iterable <;> simp only [renderNode, startItems, bind_assoc, pure_bind]

/-- `R` relates computations of values and `Q` those of output. These are the parts that do not lead
out of the tree, but for its loops. Of the state they know no more than the store and the scopes. -/
structure Elements (env₁ : Observed ω₁) (env₂ : Observed ω₂)
    (R : {α : Type} → Rendering ω₁ α → Rendering ω₂ α → Prop)
    (Q : Rendering ω₁ Rendered → Rendering ω₂ Rendered → Prop) : Prop where
  hosts : env₁.hosts = env₂.hosts
  pure {α : Type} (a : α) : R (Pure.pure a) (Pure.pure a)
  bind {α β : Type} {c₁ : Rendering ω₁ α} {c₂ : Rendering ω₂ α} {f₁ : α → Rendering ω₁ β}
    {f₂ : α → Rendering ω₂ β} (hc : R c₁ c₂) (hf : ∀ a, R (f₁ a) (f₂ a)) :
    R (c₁ >>= f₁) (c₂ >>= f₂)
  after {α : Type} {c₁ : Rendering ω₁ α} {c₂ : Rendering ω₂ α} {f₁ : α → Rendering ω₁ Rendered}
    {f₂ : α → Rendering ω₂ Rendered} (hc : R c₁ c₂) (hf : ∀ a, Q (f₁ a) (f₂ a)) :
    Q (c₁ >>= f₁) (c₂ >>= f₂)
  view : R view view
  onStore {α : Type} (action : Action α) (ha : StoreStep env₂.hosts action) :
    R (onStore action) (onStore action)
  use {use : Use} {α : Type} {action : Action α} (ha : Does env₂.hosts use action) :
    R (Rendering.use env₁ use action) (Rendering.use env₂ use action)
  set (name : String) (value : Value) :
    R (modify (State.set name value)) (modify (State.set name value))
  lookUp (name : String) : R (lookUp env₁ name) (lookUp env₂ name)
  inString {c₁ : Rendering ω₁ Rendered} {c₂ : Rendering ω₂ Rendered} (h : Q c₁ c₂) :
    R (inString env₁ c₁) (inString env₂ c₂)
  print (text : String) : Q (print env₁ text) (print env₂ text)
  done : Q (Pure.pure .empty) (Pure.pure .empty)
  leave : Q (Pure.pure ⟨.leave, ""⟩) (Pure.pure ⟨.leave, ""⟩)
  stop (place : Region) :
    Q (visit env₁ (.stop place) (Pure.pure ⟨.stop, ""⟩))
      (visit env₂ (.stop place) (Pure.pure ⟨.stop, ""⟩))
  visit {c₁ : Rendering ω₁ Rendered} {c₂ : Rendering ω₂ Rendered} (n : Tree.Node)
    (hn : ∀ place, n ≠ .stop place) (h : Q c₁ c₂) : Q (visit env₁ n c₁) (visit env₂ n c₂)
  andThen {a₁ b₁ : Rendering ω₁ Rendered} {a₂ b₂ : Rendering ω₂ Rendered} (ha : Q a₁ a₂)
    (hb : Q b₁ b₂) : Q (andThen a₁ b₁) (andThen a₂ b₂)
  absorbLeave {c₁ : Rendering ω₁ Rendered} {c₂ : Rendering ω₂ Rendered} (h : Q c₁ c₂) :
    Q (do return (← c₁).absorbLeave) (do return (← c₂).absorbLeave)

/-- All parts that do not lead out of the tree. They may know the whole state. -/
structure Parts (env₁ : Observed ω₁) (env₂ : Observed ω₂)
    (R : {α : Type} → Rendering ω₁ α → Rendering ω₂ α → Prop)
    (Q : Rendering ω₁ Rendered → Rendering ω₂ Rendered → Prop) : Prop extends
    Elements env₁ env₂ R Q where
  get : R MonadState.get MonadState.get
  forEach {body₁ otherwise₁ : Rendering ω₁ Rendered} {body₂ otherwise₂ : Rendering ω₂ Rendered}
    (item : String) (items : Items) (hb : Q body₁ body₂) (ho : Q otherwise₁ otherwise₂) :
    Q (forEach env₁.options.maxPasses item items body₁ otherwise₁)
      (forEach env₂.options.maxPasses item items body₂ otherwise₂)
  view := bind get fun _ => pure _

/-- The rendering of a node, of which the observer is told first. -/
abbrev visitNode {ω : Type} (env : Observed ω) (deeper : Frame → Rendering ω Rendered)
    (n : Tree.Node) : Rendering ω Rendered :=
  Rendering.visit env n (renderNode env deeper n)

/-- The parts of renderings of nodes of the kind `P`, where frames are rendered by `deeper₁` and
`deeper₂`: besides those that stay in the tree its loops, and the nodes that lead out of it. -/
structure Walk (env₁ : Observed ω₁) (env₂ : Observed ω₂) (deeper₁ : Frame → Rendering ω₁ Rendered)
    (deeper₂ : Frame → Rendering ω₂ Rendered) (P : Tree.Node → Prop)
    (R : {α : Type} → Rendering ω₁ α → Rendering ω₂ α → Prop)
    (Q : Rendering ω₁ Rendered → Rendering ω₂ Rendered → Prop) : Prop extends
    Elements env₁ env₂ R Q where
  define (ds : List Definition)
    (made : ∀ d ∈ ds, ∃ place, P (.define d.name d.parameters d.body place))
    (hp : ∀ d ∈ ds, ∀ n ∈ Tree.allNodes d.body, P n) :
    R (modify (State.define ds)) (modify (State.define ds))
  loop (item : String) {iterable : Tree.Expr} {body : List Tree.Node}
    {otherwise : Option (List Tree.Node)} (place : Region)
    (hp : P (.loop item iterable body otherwise place))
    (hi : R (startItems env₁ deeper₁ iterable) (startItems env₂ deeper₂ iterable))
    (hb : Q (renderNodes env₁ deeper₁ body) (renderNodes env₂ deeper₂ body))
    (ho : Q (renderOtherwise env₁ deeper₁ otherwise) (renderOtherwise env₂ deeper₂ otherwise)) :
    Q (visitNode env₁ deeper₁ (.loop item iterable body otherwise place))
      (visitNode env₂ deeper₂ (.loop item iterable body otherwise place))
  macroCall (name : String) {arguments : List Tree.Expr} (source : String) (place : Region)
    (hp : P (.macroCall name arguments source place))
    (ha : R (evaluateAll env₁ deeper₁ arguments) (evaluateAll env₂ deeper₂ arguments)) :
    Q (visitNode env₁ deeper₁ (.macroCall name arguments source place))
      (visitNode env₂ deeper₂ (.macroCall name arguments source place))
  evaluateNode {argument : Tree.Expr} (place : Region) (hp : P (.evaluate argument place))
    (ha : R (evaluate env₁ deeper₁ argument) (evaluate env₂ deeper₂ argument)) :
    Q (visitNode env₁ deeper₁ (.evaluate argument place))
      (visitNode env₂ deeper₂ (.evaluate argument place))
  parse {argument : Tree.Expr} (place : Region) (hp : P (.parse argument place))
    (ha : R (evaluate env₁ deeper₁ argument) (evaluate env₂ deeper₂ argument)) :
    Q (visitNode env₁ deeper₁ (.parse argument place))
      (visitNode env₂ deeper₂ (.parse argument place))
  embed {arguments : List Tree.Expr} (place : Region) (hp : P (.embed arguments place))
    (ha : ∀ e ∈ arguments, R (evaluate env₁ deeper₁ e) (evaluate env₂ deeper₂ e)) :
    Q (visitNode env₁ deeper₁ (.embed arguments place))
      (visitNode env₂ deeper₂ (.embed arguments place))

namespace Elements

variable {env₁ : Observed ω₁} {env₂ : Observed ω₂}
  {R : {α : Type} → Rendering ω₁ α → Rendering ω₂ α → Prop}
  {Q : Rendering ω₁ Rendered → Rendering ω₂ Rendered → Prop}

/-- What is done depends on the store and the scopes. -/
theorem viewing (h : Elements env₁ env₂ R Q) {α : Type} (f₁ : Store → Scopes → Rendering ω₁ α)
    (f₂ : Store → Scopes → Rendering ω₂ α)
    (hf : ∀ store scopes, R (f₁ store scopes) (f₂ store scopes)) :
    R (get >>= fun s => f₁ s.store s.scopes) (get >>= fun s => f₂ s.store s.scopes) := by
  have viewed := h.bind h.view fun p => hf p.1 p.2
  simpa only [Rendering.view, bind_assoc, pure_bind] using viewed

theorem reading (h : Elements env₁ env₂ R Q) {α : Type} (f : Store → α) :
    R (do return f (← get).store) (do return f (← get).store) :=
  h.viewing (fun store _ => Pure.pure (f store)) _ fun _ _ => h.pure _

theorem isTruthy (h : Elements env₁ env₂ R Q) (v : Value) :
    R (Rendering.isTruthy v) (Rendering.isTruthy v) :=
  h.reading v.isTruthy

theorem display (h : Elements env₁ env₂ R Q) (v : Value) :
    R (Rendering.display env₁ v) (Rendering.display env₂ v) := by
  simp only [Rendering.display, h.hosts]
  exact h.use (.display v)

theorem follow (h : Elements env₁ env₂ R Q) (names : List String) (v : Value) :
    R (Rendering.follow env₁ names v) (Rendering.follow env₂ names v) := by
  induction names generalizing v with
  | nil => exact h.pure v
  | cons name names ih =>
      simp only [Rendering.follow, h.hosts]
      exact h.bind (h.onStore _ (.property v name)) fun _ => ih _

theorem assign (h : Elements env₁ env₂ R Q) (name : String) (path : List String) (v : Value) :
    R (Rendering.assign env₁ name path v) (Rendering.assign env₂ name path v) := by
  cases path with
  | nil => exact h.set name v
  | cons first more =>
      simp only [Rendering.assign, h.hosts]
      let (parents, last) := splitLast first more
      exact h.viewing
        (fun _ scopes => Rendering.follow env₁ parents ((scopes.get? name).getD .null) >>=
          fun target => Rendering.use env₁ (.write target last v)
            (writeProperty env₂.hosts target last v))
        (fun _ scopes => Rendering.follow env₂ parents ((scopes.get? name).getD .null) >>=
          fun target => Rendering.use env₂ (.write target last v)
            (writeProperty env₂.hosts target last v))
        fun _ _ => h.bind (h.follow _ _) fun _ => h.use (.write _ _ v)

variable {deeper₁ : Frame → Rendering ω₁ Rendered} {deeper₂ : Frame → Rendering ω₂ Rendered}

/-- The bounds of a range are evaluated, and no range. -/
theorem startItems (h : Elements env₁ env₂ R Q) {e : Tree.Expr}
    (whole : R (Rendering.evaluate env₁ deeper₁ e) (Rendering.evaluate env₂ deeper₂ e))
    (bounds : ∀ first last place, e = .range first last place →
      R (Rendering.evaluate env₁ deeper₁ first) (Rendering.evaluate env₂ deeper₂ first) ∧
        R (Rendering.evaluate env₁ deeper₁ last) (Rendering.evaluate env₂ deeper₂ last)) :
    R (Rendering.startItems env₁ deeper₁ e) (Rendering.startItems env₂ deeper₂ e) := by
  cases e with
  | range first last place =>
      obtain ⟨hf, hl⟩ := bounds first last place rfl
      simp only [Rendering.startItems]
      exact h.bind hf fun _ => h.bind hl fun _ => h.pure _
  | _ =>
      simp only [Rendering.startItems]
      exact h.bind whole fun v => h.reading (Items.ofValue · v)

theorem embed (h : Elements env₁ env₂ R Q)
    (hembed : ∀ name, Q (embedResource env₁ name) (embedResource env₂ name))
    {arguments : List Tree.Expr} {place : Region}
    (ha : ∀ e ∈ arguments,
      R (Rendering.evaluate env₁ deeper₁ e) (Rendering.evaluate env₂ deeper₂ e)) :
    Q (visitNode env₁ deeper₁ (.embed arguments place))
      (visitNode env₂ deeper₂ (.embed arguments place)) := by
  refine h.visit _ (by simp) ?_
  simp only [Rendering.renderNode]
  induction arguments with
  | nil =>
      simp only [Rendering.embedAll]
      exact h.done
  | cons e es ih =>
      obtain ⟨he, hes⟩ := List.forall_mem_cons.1 ha
      simp only [Rendering.embedAll]
      exact h.andThen (h.after (h.bind he h.display) hembed) (ih hes)

end Elements

namespace Parts

variable {env₁ : Observed ω₁} {env₂ : Observed ω₂}
  {R : {α : Type} → Rendering ω₁ α → Rendering ω₂ α → Prop}
  {Q : Rendering ω₁ Rendered → Rendering ω₂ Rendered → Prop}

theorem loop (h : Parts env₁ env₂ R Q) (deeper₁ : Frame → Rendering ω₁ Rendered)
    (deeper₂ : Frame → Rendering ω₂ Rendered) (item : String) {iterable : Tree.Expr}
    {body : List Tree.Node} {otherwise : Option (List Tree.Node)} (place : Region)
    (hi : R (startItems env₁ deeper₁ iterable) (startItems env₂ deeper₂ iterable))
    (hb : Q (Rendering.renderNodes env₁ deeper₁ body) (Rendering.renderNodes env₂ deeper₂ body))
    (ho : Q (Rendering.renderOtherwise env₁ deeper₁ otherwise)
      (Rendering.renderOtherwise env₂ deeper₂ otherwise)) :
    Q (visitNode env₁ deeper₁ (.loop item iterable body otherwise place))
      (visitNode env₂ deeper₂ (.loop item iterable body otherwise place)) := by
  refine h.visit _ (by simp) ?_
  rw [renderNode_loop, renderNode_loop]
  exact h.after hi fun items => h.forEach item items hb ho

variable {deeper₁ : Frame → Rendering ω₁ Rendered} {deeper₂ : Frame → Rendering ω₂ Rendered}

theorem macroCall (h : Parts env₁ env₂ R Q) {arguments : List Tree.Expr}
    (hc : ∀ d, Q (Rendering.call env₁ deeper₁ d (Rendering.evaluateAll env₁ deeper₁ arguments))
      (Rendering.call env₂ deeper₂ d (Rendering.evaluateAll env₂ deeper₂ arguments)))
    (name source : String) (place : Region) :
    Q (visitNode env₁ deeper₁ (.macroCall name arguments source place))
      (visitNode env₂ deeper₂ (.macroCall name arguments source place)) := by
  refine h.visit _ (by simp) ?_
  simp only [Rendering.renderNode]
  refine h.after h.get fun s => ?_
  split
  · exact hc _
  · exact h.print source

/-- What leads out of the tree is put together from its parts. -/
theorem walk (h : Parts env₁ env₂ R Q)
    (hdef : ∀ ds, R (modify (State.define ds)) (modify (State.define ds)))
    (hcall : ∀ d {arguments₁ : Rendering ω₁ (List Value)} {arguments₂ : Rendering ω₂ (List Value)},
      R arguments₁ arguments₂ → Q (call env₁ deeper₁ d arguments₁) (call env₂ deeper₂ d arguments₂))
    (hnested : ∀ source, Q (ifMayParse env₁ (nested env₁ deeper₁ source))
      (ifMayParse env₂ (nested env₂ deeper₂ source)))
    (hresource : ∀ name, Q (ifMayParse env₁ (nestedResource env₁ deeper₁ name))
      (ifMayParse env₂ (nestedResource env₂ deeper₂ name)))
    (hembed : ∀ name, Q (embedResource env₁ name) (embedResource env₂ name)) :
    Walk env₁ env₂ deeper₁ deeper₂ (fun _ => True) R Q where
  toElements := h.toElements
  define ds _ _ := hdef ds
  loop item _ _ _ place _ hi hb ho := h.loop _ _ item place hi hb ho
  macroCall name _ source place _ ha := h.macroCall (fun d => hcall d ha) name source place
  evaluateNode _ _ ha := by
    refine h.visit _ (by simp) ?_
    simp only [Rendering.renderNode]
    exact h.after (h.bind ha h.display) hnested
  parse _ _ ha := by
    refine h.visit _ (by simp) ?_
    simp only [Rendering.renderNode]
    exact h.after (h.bind ha h.display) hresource
  embed _ _ ha := h.embed hembed ha

end Parts

/-- `R` is kept by the steps that renderings are put together from in the end. -/
structure Steps (env₁ : Observed ω₁) (env₂ : Observed ω₂)
    (R : {α : Type} → Rendering ω₁ α → Rendering ω₂ α → Prop) : Prop where
  hosts : env₁.hosts = env₂.hosts
  maxPasses : env₁.options.maxPasses = env₂.options.maxPasses
  pure {α : Type} (a : α) : R (Pure.pure a) (Pure.pure a)
  bind {α β : Type} {c₁ : Rendering ω₁ α} {c₂ : Rendering ω₂ α} {f₁ : α → Rendering ω₁ β}
    {f₂ : α → Rendering ω₂ β} (hc : R c₁ c₂) (hf : ∀ a, R (f₁ a) (f₂ a)) :
    R (c₁ >>= f₁) (c₂ >>= f₂)
  get : R MonadState.get MonadState.get
  onStore {α : Type} (action : Action α) : R (onStore action) (onStore action)
  setAll (names : List String) (values : List Value) :
    R (modify (State.setAll names values)) (modify (State.setAll names values))
  report (event : State → Event) : R (report env₁ event) (report env₂ event)
  inScope {c₁ : Rendering ω₁ Rendered} {c₂ : Rendering ω₂ Rendered} (h : R c₁ c₂) :
    R (inScope c₁) (inScope c₂)
  inLoop {body₁ : Nat → Rendering ω₁ Rendered} {body₂ : Nat → Rendering ω₂ Rendered}
    (h : ∀ number, R (body₁ number) (body₂ number)) : R (inLoop body₁) (inLoop body₂)

namespace Steps

variable {env₁ : Observed ω₁} {env₂ : Observed ω₂}
  {R : {α : Type} → Rendering ω₁ α → Rendering ω₂ α → Prop}

theorem print (h : Steps env₁ env₂ R) (text : String) :
    R (Rendering.print env₁ text) (Rendering.print env₂ text) :=
  h.bind (h.report _) fun _ => h.pure _

variable {c₁ c₁' : Rendering ω₁ Rendered} {c₂ c₂' : Rendering ω₂ Rendered}

theorem visit (h : Steps env₁ env₂ R) (n : Tree.Node) (hc : R c₁ c₂) :
    R (Rendering.visit env₁ n c₁) (Rendering.visit env₂ n c₂) :=
  h.bind (h.report _) fun _ => hc

theorem andThen (h : Steps env₁ env₂ R) (hc : R c₁ c₂) (hc' : R c₁' c₂') :
    R (Rendering.andThen c₁ c₁') (Rendering.andThen c₂ c₂') := by
  refine h.bind hc fun r => ?_
  split
  · exact h.bind hc' fun _ => h.pure _
  · exact h.pure _

theorem passes (h : Steps env₁ env₂ R) (item : String) (number remaining index : Nat)
    (items : Items) (before : String) (hb : R c₁ c₂) :
    R (Rendering.passes item number c₁ remaining index items before)
      (Rendering.passes item number c₂ remaining index items before) := by
  induction remaining generalizing index items before with
  | zero => exact h.pure _
  | succ remaining ih =>
      simp only [Rendering.passes]
      split
      · exact h.pure _
      · refine h.bind (h.onStore _) fun _ => h.bind ?_ fun r => ?_
        · exact h.inScope (h.bind (h.setAll _ _) fun _ => hb)
        · split
          · exact h.pure _
          · exact h.pure _
          · refine h.bind h.get fun s => ?_
            split
            · exact h.pure _
            · exact ih _ _ _

theorem forEach (h : Steps env₁ env₂ R) (limit : Nat) (item : String) (items : Items)
    (hb : R c₁ c₂) (ho : R c₁' c₂') :
    R (Rendering.forEach limit item items c₁ c₁') (Rendering.forEach limit item items c₂ c₂') := by
  simp only [Rendering.forEach]
  split
  · exact ho
  · exact h.inLoop fun number => h.passes item number limit 0 items "" hb

theorem parts (h : Steps env₁ env₂ R) : Parts env₁ env₂ R R where
  hosts := h.hosts
  pure := h.pure
  bind := h.bind
  after := h.bind
  get := h.get
  onStore action _ := h.onStore action
  use _ := h.bind (h.report _) fun _ => h.onStore _
  set name value := h.setAll [name] [value]
  lookUp _ := h.bind (h.report _) fun _ => h.bind h.get fun _ => h.pure _
  inString hc :=
    h.bind (h.report _) fun _ => h.bind hc fun _ => h.bind (h.report _) fun _ => h.pure _
  print := h.print
  done := h.pure _
  leave := h.pure _
  stop _ := h.visit _ (h.pure _)
  visit n _ hc := h.visit n hc
  andThen := h.andThen
  absorbLeave hc := h.bind hc fun _ => h.pure _
  forEach item items hb ho := h.maxPasses ▸ h.forEach _ item items hb ho

end Steps

namespace Walk

variable {env₁ : Observed ω₁} {env₂ : Observed ω₂} {deeper₁ : Frame → Rendering ω₁ Rendered}
  {deeper₂ : Frame → Rendering ω₂ Rendered} {P : Tree.Node → Prop}
  {R : {α : Type} → Rendering ω₁ α → Rendering ω₂ α → Prop}
  {Q : Rendering ω₁ Rendered → Rendering ω₂ Rendered → Prop}

mutual

theorem evaluate (h : Walk env₁ env₂ deeper₁ deeper₂ P R Q) :
    (e : Tree.Expr) → (∀ n ∈ e.nodes, P n) →
      R (Rendering.evaluate env₁ deeper₁ e) (Rendering.evaluate env₂ deeper₂ e)
  | .literal _ _, _ => by
      simp only [Rendering.evaluate]
      exact h.pure _
  | .interpolated nodes _, hp => by
      simp only [Rendering.evaluate]
      exact h.bind (h.inString (h.renderNodes nodes hp)) fun _ => h.pure _
  | .reference name _ _, _ => by
      simp only [Rendering.evaluate]
      exact h.lookUp name
  | .member object name _, hp => by
      simp only [Rendering.evaluate, h.hosts]
      exact h.bind (h.evaluate object hp) fun _ =>
        h.bind (h.onStore _ (.property _ name)) fun _ => h.pure _
  | .call callee arguments _, hp => by
      obtain ⟨hc, ha⟩ := List.forall_mem_append.1 hp
      cases callee with
      | member object name _ =>
          simp only [Rendering.evaluate, h.hosts]
          exact h.bind (h.evaluate object hc) fun _ =>
            h.bind (h.evaluateAll arguments ha) fun _ =>
              h.bind (h.use (.invoke _ name _)) fun _ => h.pure _
      | _ =>
          simp only [Rendering.evaluate]
          exact h.pure _
  | .index container key _, hp => by
      obtain ⟨hc, hk⟩ := List.forall_mem_append.1 hp
      simp only [Rendering.evaluate, h.hosts]
      exact h.bind (h.evaluate container hc) fun _ =>
        h.bind (h.evaluate key hk) fun _ => h.bind (h.use (.index _ _)) fun _ => h.pure _
  | .map entries _, hp => by
      simp only [Rendering.evaluate]
      exact h.bind (h.evaluateEntries entries hp) fun _ => h.onStore _ (.newMap _)
  | .list elements _, hp => by
      simp only [Rendering.evaluate]
      exact h.bind (h.evaluateAll elements hp) fun _ => h.onStore _ (.newList _)
  | .range first last _, hp => by
      obtain ⟨hf, hl⟩ := List.forall_mem_append.1 hp
      simp only [Rendering.evaluate]
      exact h.bind (h.evaluate first hf) fun _ =>
        h.bind (h.evaluate last hl) fun _ => h.onStore _ (.newList _)
  | .binary op left right _, hp => by
      obtain ⟨hpl, hpr⟩ := List.forall_mem_append.1 hp
      have hl := h.evaluate left hpl
      have hr := h.evaluate right hpr
      cases op with
      | conj | disj =>
          simp only [Rendering.evaluate]
          refine h.bind hl fun _ => h.bind (h.isTruthy _) fun _ => ?_
          split
          all_goals first
            | exact h.pure _
            | exact h.bind hr fun _ => h.bind (h.isTruthy _) fun _ => h.pure _
      | _ =>
          simp only [Rendering.evaluate, h.hosts]
          exact h.bind hl fun _ => h.bind hr fun _ => h.use (.binary _ _ _)
  | .unary op operand _, hp => by
      simp only [Rendering.evaluate]
      exact h.bind (h.evaluate operand hp) fun v => h.reading (Value.unary · op v)
  | .ternary condition thenCase elseCase _, hp => by
      obtain ⟨hc, hp⟩ := List.forall_mem_append.1 hp
      obtain ⟨ht, he⟩ := List.forall_mem_append.1 hp
      simp only [Rendering.evaluate]
      refine h.bind (h.evaluate condition hc) fun _ => h.bind (h.isTruthy _) fun _ => ?_
      split
      · exact h.evaluate thenCase ht
      · exact h.evaluate elseCase he

theorem evaluateAll (h : Walk env₁ env₂ deeper₁ deeper₂ P R Q) :
    (es : List Tree.Expr) → (∀ n ∈ Tree.nodesOfAll es, P n) →
      R (Rendering.evaluateAll env₁ deeper₁ es) (Rendering.evaluateAll env₂ deeper₂ es)
  | [], _ => by
      simp only [Rendering.evaluateAll]
      exact h.pure _
  | e :: es, hp => by
      obtain ⟨he, hes⟩ := List.forall_mem_append.1 hp
      simp only [Rendering.evaluateAll]
      exact h.bind (h.evaluate e he) fun _ => h.bind (h.evaluateAll es hes) fun _ => h.pure _

theorem evaluateEntries (h : Walk env₁ env₂ deeper₁ deeper₂ P R Q) :
    (entries : List (String × Tree.Expr)) → (∀ n ∈ Tree.nodesOfEntries entries, P n) →
      R (Rendering.evaluateEntries env₁ deeper₁ entries)
        (Rendering.evaluateEntries env₂ deeper₂ entries)
  | [], _ => by
      simp only [Rendering.evaluateEntries]
      exact h.pure _
  | (_, e) :: rest, hp => by
      obtain ⟨he, hr⟩ := List.forall_mem_append.1 hp
      simp only [Rendering.evaluateEntries]
      exact h.bind (h.evaluate e he) fun _ => h.bind (h.evaluateEntries rest hr) fun _ => h.pure _

theorem evaluateEach (h : Walk env₁ env₂ deeper₁ deeper₂ P R Q) :
    (es : List Tree.Expr) → (∀ n ∈ Tree.nodesOfAll es, P n) →
      ∀ e ∈ es, R (Rendering.evaluate env₁ deeper₁ e) (Rendering.evaluate env₂ deeper₂ e)
  | [], _ => nofun
  | e :: es, hp => by
      obtain ⟨he, hes⟩ := List.forall_mem_append.1 hp
      exact List.forall_mem_cons.2 ⟨h.evaluate e he, h.evaluateEach es hes⟩

theorem renderNode (h : Walk env₁ env₂ deeper₁ deeper₂ P R Q) :
    (n : Tree.Node) → P n → (∀ m ∈ n.inner, P m) →
      Q (visitNode env₁ deeper₁ n) (visitNode env₂ deeper₂ n)
  | .text content _, _, _ => by
      refine h.visit _ (by simp) ?_
      simp only [Rendering.renderNode]
      exact h.print content
  | .interpolation e _ _ _, _, hp => by
      refine h.visit _ (by simp) ?_
      simp only [Rendering.renderNode]
      refine h.after (h.evaluate e hp) fun v => ?_
      split
      · exact h.after (h.pure _) h.print
      · exact h.after (h.display v) h.print
  | .conditional branches otherwise _, _, hp => by
      obtain ⟨hb, ho⟩ := List.forall_mem_append.1 hp
      refine h.visit _ (by simp) ?_
      simp only [Rendering.renderNode]
      exact h.renderBranches (h.renderOtherwise otherwise ho) branches hb
  | .assign name path e _, _, hp => by
      refine h.visit _ (by simp) ?_
      simp only [Rendering.renderNode]
      exact h.after (h.evaluate e hp) fun v => h.after (h.assign name path v) fun _ => h.done
  | .loop item iterable body otherwise place, hn, hp => by
      obtain ⟨hi, hp⟩ := List.forall_mem_append.1 hp
      obtain ⟨hpb, hpo⟩ := List.forall_mem_append.1 hp
      refine h.loop item place hn (h.toElements.startItems (h.evaluate iterable hi) ?_)
        (h.renderNodes body hpb) (h.renderOtherwise otherwise hpo)
      cases iterable with
      | range first last _ =>
          obtain ⟨hpf, hpl⟩ := List.forall_mem_append.1 hi
          have bounds := And.intro (h.evaluate first hpf) (h.evaluate last hpl)
          exact fun _ _ _ same => by cases same; exact bounds
      | _ => nofun
  | .leave _, _, _ => by
      refine h.visit _ (by simp) ?_
      simp only [Rendering.renderNode]
      exact h.leave
  | .stop place, _, _ => by
      simp only [visitNode, Rendering.renderNode]
      exact h.stop place
  | .define name parameters body place, hn, hp => by
      refine h.visit _ (by simp) ?_
      simp only [Rendering.renderNode]
      exact h.after (h.define _ (List.forall_mem_singleton.2 ⟨place, hn⟩)
        (List.forall_mem_singleton.2 hp)) fun _ => h.done
  | .macroCall name arguments source place, hn, hp =>
      h.macroCall name source place hn (h.evaluateAll arguments hp)
  | .evaluate argument place, hn, hp => h.evaluateNode place hn (h.evaluate argument hp)
  | .parse argument place, hn, hp => h.parse place hn (h.evaluate argument hp)
  | .embed arguments place, hn, hp => h.embed place hn (h.evaluateEach arguments hp)

theorem renderNodes (h : Walk env₁ env₂ deeper₁ deeper₂ P R Q) :
    (ns : List Tree.Node) → (∀ n ∈ Tree.allNodes ns, P n) →
      Q (Rendering.renderNodes env₁ deeper₁ ns) (Rendering.renderNodes env₂ deeper₂ ns)
  | [], _ => by
      simp only [Rendering.renderNodes]
      exact h.done
  | n :: ns, hp => by
      obtain ⟨hn, hp⟩ := List.forall_mem_cons.1 hp
      obtain ⟨hi, hs⟩ := List.forall_mem_append.1 hp
      simp only [Rendering.renderNodes]
      exact h.andThen (h.renderNode n hn hi) (h.renderNodes ns hs)

theorem renderBranches (h : Walk env₁ env₂ deeper₁ deeper₂ P R Q)
    {otherwise₁ : Rendering ω₁ Rendered} {otherwise₂ : Rendering ω₂ Rendered}
    (ho : Q otherwise₁ otherwise₂) :
    (branches : List Tree.Branch) → (∀ n ∈ Tree.nodesOfBranches branches, P n) →
      Q (Rendering.renderBranches env₁ deeper₁ otherwise₁ branches)
        (Rendering.renderBranches env₂ deeper₂ otherwise₂ branches)
  | [], _ => by
      simp only [Rendering.renderBranches]
      exact ho
  | .mk condition body :: rest, hp => by
      obtain ⟨hc, hp⟩ := List.forall_mem_append.1 hp
      obtain ⟨hb, hr⟩ := List.forall_mem_append.1 hp
      simp only [Rendering.renderBranches]
      refine h.after (h.evaluate condition hc) fun _ => h.after (h.isTruthy _) fun _ => ?_
      split
      · exact h.renderNodes body hb
      · exact h.renderBranches ho rest hr

theorem renderOtherwise (h : Walk env₁ env₂ deeper₁ deeper₂ P R Q) :
    (otherwise : Option (List Tree.Node)) → (∀ n ∈ Tree.nodesOfOtherwise otherwise, P n) →
      Q (Rendering.renderOtherwise env₁ deeper₁ otherwise)
        (Rendering.renderOtherwise env₂ deeper₂ otherwise)
  | none, _ => by
      simp only [Rendering.renderOtherwise]
      exact h.done
  | some body, hp => by
      simp only [Rendering.renderOtherwise]
      exact h.renderNodes body hp

end

theorem startItems (h : Walk env₁ env₂ deeper₁ deeper₂ P R Q) (e : Tree.Expr)
    (hp : ∀ n ∈ e.nodes, P n) :
    R (Rendering.startItems env₁ deeper₁ e) (Rendering.startItems env₂ deeper₂ e) := by
  refine h.toElements.startItems (h.evaluate e hp) ?_
  rintro first last _ rfl
  obtain ⟨hpf, hpl⟩ := List.forall_mem_append.1 hp
  exact ⟨h.evaluate first hpf, h.evaluate last hpl⟩

theorem wholeValue (h : Walk env₁ env₂ deeper₁ deeper₂ P R Q) (e : Option Tree.Expr)
    (hp : ∀ n ∈ (e.map Tree.Expr.nodes).getD [], P n) :
    R (Rendering.wholeValue env₁ deeper₁ e) (Rendering.wholeValue env₂ deeper₂ e) := by
  cases e with
  | none => exact h.pure _
  | some e => exact h.evaluate e hp

theorem renderDocument (h : Walk env₁ env₂ deeper₁ deeper₂ P R Q) (d : Document)
    (hp : ∀ n ∈ d.allNodes, P n) :
    Q (Rendering.renderDocument env₁ deeper₁ d) (Rendering.renderDocument env₂ deeper₂ d) := by
  obtain ⟨hn, he⟩ := List.forall_mem_append.1 hp
  have hoisted := Tree.nodeDefinitions_subset d.nodes
  have made : ∀ a ∈ Tree.nodeDefinitions d.nodes,
      ∃ place, P (.define a.name a.parameters a.body place) :=
    fun a ha => (hoisted a ha).1.imp fun _ hm => hn _ hm
  simp only [Rendering.renderDocument]
  refine h.after (h.define _ made fun a ha n hm => hn n ((hoisted a ha).2 hm)) fun _ =>
    h.after (h.wholeValue d.expression he) fun v => ?_
  split
  · exact h.absorbLeave (h.renderNodes d.nodes hn)
  · exact h.after (h.display v) h.print

end Walk

end Rendering

end Template

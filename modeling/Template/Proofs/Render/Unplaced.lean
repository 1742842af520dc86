import Template.Proofs.Render.Follow
import Template.Proofs.Tree.Printing

/-!
Rendering does not ask for places. Trees that are the same but for the places of their parts render
alike, also where the definitions that they call differ in no more than that. The definitions that
they make are the same but for the places.
-/

namespace Template

namespace Entries

variable {α β : Type} (f : α → β)

theorem get?_map (name : String) (entries : Entries α) :
    get? name (entries.map fun p => (p.1, f p.2)) = (get? name entries).map f := by
  induction entries with
  | nil => rfl
  | cons p rest ih =>
      simp only [List.map_cons, get?]
      split
      · rfl
      · exact ih

theorem put_map (name : String) (value : α) (entries : Entries α) :
    put name (f value) (entries.map fun p => (p.1, f p.2)) =
      (put name value entries).map fun p => (p.1, f p.2) := by
  induction entries with
  | nil => rfl
  | cons p rest ih =>
      simp only [List.map_cons, put]
      split
      · rfl
      · rw [ih, List.map_cons]

end Entries

/-! ### Definitions at no particular place -/

def Definition.unplaced (d : Definition) : Definition :=
  { d with body := Tree.unplacedNodes d.body }

namespace Definitions

def unplaced (t : Definitions) : Definitions :=
  { t with entries := t.entries.map fun p => (p.1, p.2.unplaced) }

theorem get?_unplaced (name : String) (t : Definitions) :
    t.unplaced.get? name = (t.get? name).map Definition.unplaced :=
  Entries.get?_map ..

theorem unplaced_define (d : Definition) (t : Definitions) :
    (t.define d).unplaced = t.unplaced.define d.unplaced := by
  have accepted : t.unplaced.accepts d.name = t.accepts d.name := by
    have known := congrArg Option.isSome (t.get?_unplaced d.name)
    rw [Option.isSome_map] at known
    simp only [accepts, Entries.contains]
    exact congrArg (fun b => t.replaceable || !b) known
  simp only [define, show d.unplaced.name = d.name from rfl, accepted]
  split
  · simp only [unplaced, ← Entries.put_map]
  · rfl

theorem unplaced_defineAll (ds : List Definition) (t : Definitions) :
    (t.defineAll ds).unplaced = t.unplaced.defineAll (ds.map Definition.unplaced) := by
  induction ds generalizing t with
  | nil => rfl
  | cons d ds ih =>
      rw [List.map_cons, defineAll, defineAll, List.foldl_cons, List.foldl_cons, ← unplaced_define]
      exact ih (t.define d)

/-- The same definitions, but for the places in them. -/
def SameButPlaces (t t' : Definitions) : Prop := t.unplaced = t'.unplaced

theorem SameButPlaces.defineAll {t t' : Definitions} (h : t.SameButPlaces t')
    {ds ds' : List Definition} (hd : ds.map Definition.unplaced = ds'.map Definition.unplaced) :
    (t.defineAll ds).SameButPlaces (t'.defineAll ds') := by
  rw [SameButPlaces, unplaced_defineAll, unplaced_defineAll, h, hd]

theorem SameButPlaces.get? {t t' : Definitions} (h : t.SameButPlaces t') (name : String) :
    Option.Rel (fun d d' : Definition => d.unplaced = d'.unplaced) (t.get? name)
      (t'.get? name) := by
  have same : (t.get? name).map Definition.unplaced = (t'.get? name).map Definition.unplaced := by
    rw [← get?_unplaced, ← get?_unplaced, h]
  revert same
  cases t.get? name <;> cases t'.get? name <;> simp

end Definitions

namespace Tree

mutual

theorem Expr.unplaced_unplaced : (e : Expr) → e.unplaced.unplaced = e.unplaced
  | .literal .. | .reference .. => rfl
  | .interpolated nodes _ => by simp [unplacedNodes_unplaced nodes]
  | .member object _ _ => by simp [object.unplaced_unplaced]
  | .call callee arguments _ => by
      simp [callee.unplaced_unplaced, unplacedExprs_unplaced arguments]
  | .index container key _ => by simp [container.unplaced_unplaced, key.unplaced_unplaced]
  | .map entries _ => by simp [unplacedEntries_unplaced entries]
  | .list elements _ => by simp [unplacedExprs_unplaced elements]
  | .range first last _ => by simp [first.unplaced_unplaced, last.unplaced_unplaced]
  | .binary _ left right _ => by simp [left.unplaced_unplaced, right.unplaced_unplaced]
  | .unary _ operand _ => by simp [operand.unplaced_unplaced]
  | .ternary condition thenCase elseCase _ => by
      simp [condition.unplaced_unplaced, thenCase.unplaced_unplaced, elseCase.unplaced_unplaced]

theorem unplacedExprs_unplaced : (es : List Expr) →
    unplacedExprs (unplacedExprs es) = unplacedExprs es
  | [] => rfl
  | e :: es => by simp [e.unplaced_unplaced, unplacedExprs_unplaced es]

theorem unplacedEntries_unplaced : (entries : List (String × Expr)) →
    unplacedEntries (unplacedEntries entries) = unplacedEntries entries
  | [] => rfl
  | (_, e) :: rest => by simp [e.unplaced_unplaced, unplacedEntries_unplaced rest]

theorem Node.unplaced_unplaced : (n : Node) → n.unplaced.unplaced = n.unplaced
  | .text .. | .leave .. | .stop .. => rfl
  | .interpolation e _ _ _ | .assign _ _ e _ | .evaluate e _ | .parse e _ => by
      simp [e.unplaced_unplaced]
  | .conditional branches otherwise _ => by
      simp [unplacedBranches_unplaced branches, unplacedOtherwise_unplaced otherwise]
  | .loop _ iterable body otherwise _ => by
      simp [iterable.unplaced_unplaced, unplacedNodes_unplaced body,
        unplacedOtherwise_unplaced otherwise]
  | .define _ _ body _ => by simp [unplacedNodes_unplaced body]
  | .macroCall _ arguments _ _ | .embed arguments _ => by
      simp [unplacedExprs_unplaced arguments]

theorem unplacedNodes_unplaced : (ns : List Node) →
    unplacedNodes (unplacedNodes ns) = unplacedNodes ns
  | [] => rfl
  | n :: ns => by simp [n.unplaced_unplaced, unplacedNodes_unplaced ns]

theorem unplacedOtherwise_unplaced : (otherwise : Option (List Node)) →
    unplacedOtherwise (unplacedOtherwise otherwise) = unplacedOtherwise otherwise
  | none => rfl
  | some body => by simp [unplacedNodes_unplaced body]

theorem unplacedBranches_unplaced : (branches : List Branch) →
    unplacedBranches (unplacedBranches branches) = unplacedBranches branches
  | [] => rfl
  | .mk condition body :: rest => by
      simp [condition.unplaced_unplaced, unplacedNodes_unplaced body,
        unplacedBranches_unplaced rest]

end

mutual

theorem Node.definitions_unplaced : (n : Node) →
    n.unplaced.definitions = n.definitions.map Definition.unplaced
  | .conditional branches otherwise _ => by
      simp only [Node.unplaced, Node.definitions, List.map_append,
        branchDefinitions_unplaced branches, otherwiseDefinitions_unplaced otherwise]
  | .loop _ _ body otherwise _ => by
      simp only [Node.unplaced, Node.definitions, List.map_append, nodeDefinitions_unplaced body,
        otherwiseDefinitions_unplaced otherwise]
  | .define .. | .text .. | .interpolation .. | .assign .. | .leave .. | .stop ..
  | .macroCall .. | .evaluate .. | .parse .. | .embed .. => rfl

theorem branchDefinitions_unplaced : (branches : List Branch) →
    branchDefinitions (unplacedBranches branches) =
      (branchDefinitions branches).map Definition.unplaced
  | [] => rfl
  | .mk _ body :: rest => by
      simp only [unplacedBranches, Branch.unplaced, branchDefinitions, Branch.definitions,
        List.map_append, nodeDefinitions_unplaced body, branchDefinitions_unplaced rest]

theorem otherwiseDefinitions_unplaced : (otherwise : Option (List Node)) →
    otherwiseDefinitions (unplacedOtherwise otherwise) =
      (otherwiseDefinitions otherwise).map Definition.unplaced
  | none => rfl
  | some body => nodeDefinitions_unplaced body

theorem nodeDefinitions_unplaced : (ns : List Node) →
    nodeDefinitions (unplacedNodes ns) = (nodeDefinitions ns).map Definition.unplaced
  | [] => rfl
  | n :: ns => by
      simp only [unplacedNodes, nodeDefinitions, List.map_append, n.definitions_unplaced,
        nodeDefinitions_unplaced ns]

end

end Tree

def Frame.unplaced : Frame → Frame
  | body nodes => body (Tree.unplacedNodes nodes)
  | document d => document d.unplaced

/-! ### Following without places -/

namespace State.Beside

variable {D : Definitions → Definitions → Prop} {s t u : State}

theorem symm (hD : ∀ {ds ds'}, D ds ds' → D ds' ds) (h : s.Beside D t) : t.Beside D s := by
  obtain ⟨ds, same, rfl⟩ := h
  exact ⟨s.definitions, hD same, rfl⟩

theorem trans (hD : ∀ {ds ds' ds''}, D ds ds' → D ds' ds'' → D ds ds'') (h : s.Beside D t)
    (h' : t.Beside D u) : s.Beside D u := by
  obtain ⟨ds, same, rfl⟩ := h
  obtain ⟨ds', same', rfl⟩ := h'
  exact ⟨ds', hD same same', rfl⟩

end State.Beside

namespace Rendering

/-- Nothing is checked, and so everything passes. -/
abbrev passing (env : Environment) : Observed Prop := env.checking fun _ _ => True

theorem passing_passes (env : Environment) (f : Frame) (s : State) :
    ∃ passed, (renderWhole (passing env) f s passed).2 := by
  have mapped := (Environment.checking_maps (fun _ _ => True) env).renderFrame
    (frameBound env.options) f s []
  have passes : (renderWhole (passing env) f s (Event.AllPass (fun _ _ => True) [])).2 ↔
      Event.AllPass (fun _ _ => True) (renderWhole env.recorded f s []).2 :=
    iff_of_eq (congrArg Prod.snd mapped)
  exact ⟨_, passes.2 fun _ _ _ => trivial⟩

/-- The second computation follows the first, where definitions are the same but for places. -/
abbrev Unmoved {α : Type} (env : Environment) (k : Nat) (c : Rendering Prop α)
    (c' : Rendering Unit α) : Prop :=
  Follows env.options k Definitions.SameButPlaces Eq c c'

/-- As above, for what is printed. -/
abbrev UnmovedText (env : Environment) (k : Nat) (c : Rendering Prop Rendered)
    (c' : Rendering Unit Rendered) : Prop :=
  Follows env.options k Definitions.SameButPlaces (Rendered.Like Eq) c c'

/-- Frames that are the same but for places are followed where less than `k` of them can be inside
one another. -/
def FramesUnmoved (env : Environment) (k : Nat) : Prop :=
  ∀ f f', f.unplaced = f'.unplaced → ∀ j < k,
    UnmovedText env j (renderWhole (passing env) f) (renderWhole env.unobserved f')

namespace FramesUnmoved

variable {env : Environment} {k : Nat}

theorem elements :
    Elements (passing env) env.unobserved (Unmoved env k) (UnmovedText env k) :=
  Follows.elements rfl

/-- The items of a loop, whose iterable may be a range. -/
theorem startItems_unplaced {e : Tree.Expr}
    (whole : Unmoved env k (Rendering.evaluate (passing env) (renderWhole (passing env)) e)
      (Rendering.evaluate env.unobserved (renderWhole env.unobserved) e.unplaced))
    (bounds : ∀ first last place, e = .range first last place →
      Unmoved env k (Rendering.evaluate (passing env) (renderWhole (passing env)) first)
          (Rendering.evaluate env.unobserved (renderWhole env.unobserved) first.unplaced) ∧
        Unmoved env k (Rendering.evaluate (passing env) (renderWhole (passing env)) last)
          (Rendering.evaluate env.unobserved (renderWhole env.unobserved) last.unplaced)) :
    Unmoved env k (startItems (passing env) (renderWhole (passing env)) e)
      (startItems env.unobserved (renderWhole env.unobserved) e.unplaced) := by
  cases e with
  | range first last place =>
      obtain ⟨hf, hl⟩ := bounds first last place rfl
      simp only [Tree.Expr.unplaced, startItems]
      exact hf.using_value fun _ => hl.using_value fun _ => .pure rfl
  | _ =>
      simp only [Tree.Expr.unplaced, startItems] at whole ⊢
      exact whole.using_value fun v => elements.reading (Items.ofValue · v)

theorem callsAlike (h : FramesUnmoved env k) {s : State} {t : Definitions}
    (same : s.definitions.SameButPlaces t) (name : String) :
    Option.Rel (CallsAlike (fun _ _ => True) env env k Definitions.SameButPlaces
      (Rendered.Like Eq) s) (s.definitions.get? name) (t.get? name) := by
  have found := same.get? name
  generalize s.definitions.get? name = d, t.get? name = d' at found ⊢
  cases found with
  | none => exact .none
  | some alike =>
      obtain ⟨-, parameters, body⟩ := Definition.mk.inj alike
      exact .some ⟨Iff.rfl, parameters, h _ _ (congrArg Frame.body body)⟩

theorem compilesAlike (h : FramesUnmoved env k) (source : String) :
    CompilesAlike (fun _ _ => True) env env k Definitions.SameButPlaces (Rendered.Like Eq)
      source := by
  unfold CompilesAlike
  cases Document.compile env.options source with
  | error e => exact .error e
  | ok d => exact .ok (h (.document d) (.document d) rfl)

mutual

theorem evaluate (h : FramesUnmoved env k) : (e : Tree.Expr) →
    Unmoved env k (Rendering.evaluate (passing env) (renderWhole (passing env)) e)
      (Rendering.evaluate env.unobserved (renderWhole env.unobserved) e.unplaced)
  | .literal _ _ => by
      simp only [Tree.Expr.unplaced, Rendering.evaluate]
      exact .pure rfl
  | .interpolated nodes _ => by
      simp only [Tree.Expr.unplaced, Rendering.evaluate]
      exact (elements.inString (h.renderNodes nodes)).using_value fun _ => .pure rfl
  | .reference name _ _ => by
      simp only [Tree.Expr.unplaced, Rendering.evaluate]
      exact .lookUp name
  | .member object name _ => by
      simp only [Tree.Expr.unplaced, Rendering.evaluate]
      exact (h.evaluate object).using_value fun _ =>
        (Follows.onStore _).using_value fun _ => .pure rfl
  | .call (.member object name _) arguments _ => by
      simp only [Tree.Expr.unplaced, Rendering.evaluate]
      exact (h.evaluate object).using_value fun _ => (h.evaluateAll arguments).using_value fun _ =>
        (elements.use (.invoke _ name _)).using_value fun _ => .pure rfl
  | .call (.literal ..) _ _ | .call (.interpolated ..) _ _ | .call (.reference ..) _ _
  | .call (.call ..) _ _ | .call (.index ..) _ _ | .call (.map ..) _ _ | .call (.list ..) _ _
  | .call (.range ..) _ _ | .call (.binary ..) _ _ | .call (.unary ..) _ _
  | .call (.ternary ..) _ _ => by
      simp only [Tree.Expr.unplaced, Rendering.evaluate]
      exact .pure rfl
  | .index container key _ => by
      simp only [Tree.Expr.unplaced, Rendering.evaluate]
      exact (h.evaluate container).using_value fun _ => (h.evaluate key).using_value fun _ =>
        (elements.use (.index _ _)).using_value fun _ => .pure rfl
  | .map entries _ => by
      simp only [Tree.Expr.unplaced, Rendering.evaluate]
      exact (h.evaluateEntries entries).using_value fun _ => .onStore _
  | .list items _ => by
      simp only [Tree.Expr.unplaced, Rendering.evaluate]
      exact (h.evaluateAll items).using_value fun _ => .onStore _
  | .range first last _ => by
      simp only [Tree.Expr.unplaced, Rendering.evaluate]
      exact (h.evaluate first).using_value fun _ => (h.evaluate last).using_value fun _ =>
        .onStore _
  | .binary op left right _ => by
      have hl := h.evaluate left
      have hr := h.evaluate right
      cases op with
      | conj | disj =>
          simp only [Tree.Expr.unplaced, Rendering.evaluate]
          refine hl.using_value fun a => (elements.isTruthy a).using_value fun _ => ?_
          split
          all_goals first
            | exact .pure rfl
            | exact hr.using_value fun b =>
                (elements.isTruthy b).using_value fun _ => .pure rfl
      | _ =>
          simp only [Tree.Expr.unplaced, Rendering.evaluate]
          exact hl.using_value fun a => hr.using_value fun b =>
            elements.use (.binary _ a b)
  | .unary op operand _ => by
      simp only [Tree.Expr.unplaced, Rendering.evaluate]
      exact (h.evaluate operand).using_value fun v => elements.reading (Value.unary · op v)
  | .ternary condition thenCase elseCase _ => by
      simp only [Tree.Expr.unplaced, Rendering.evaluate]
      refine (h.evaluate condition).using_value fun c =>
        (elements.isTruthy c).using_value fun _ => ?_
      split
      · exact h.evaluate thenCase
      · exact h.evaluate elseCase

theorem evaluateAll (h : FramesUnmoved env k) : (es : List Tree.Expr) →
    Unmoved env k (Rendering.evaluateAll (passing env) (renderWhole (passing env)) es)
      (Rendering.evaluateAll env.unobserved (renderWhole env.unobserved) (Tree.unplacedExprs es))
  | [] => by
      simp only [Tree.unplacedExprs, Rendering.evaluateAll]
      exact .pure rfl
  | e :: es => by
      simp only [Tree.unplacedExprs, Rendering.evaluateAll]
      exact (h.evaluate e).using_value fun _ => (h.evaluateAll es).using_value fun _ => .pure rfl

theorem evaluateEntries (h : FramesUnmoved env k) : (entries : List (String × Tree.Expr)) →
    Unmoved env k (Rendering.evaluateEntries (passing env) (renderWhole (passing env)) entries)
      (Rendering.evaluateEntries env.unobserved (renderWhole env.unobserved)
        (Tree.unplacedEntries entries))
  | [] => by
      simp only [Tree.unplacedEntries, Rendering.evaluateEntries]
      exact .pure rfl
  | (_, e) :: rest => by
      simp only [Tree.unplacedEntries, Rendering.evaluateEntries]
      exact (h.evaluate e).using_value fun _ =>
        (h.evaluateEntries rest).using_value fun _ => .pure rfl

theorem renderNode (h : FramesUnmoved env k) : (n : Tree.Node) →
    UnmovedText env k (visitNode (passing env) (renderWhole (passing env)) n)
      (visitNode env.unobserved (renderWhole env.unobserved) n.unplaced)
  | .text content _ => by
      simp only [Tree.Node.unplaced, visitNode, Rendering.renderNode]
      exact .visit _ _ (.print rfl)
  | .interpolation e quiet source _ => by
      simp only [Tree.Node.unplaced, visitNode, Rendering.renderNode]
      refine .visit _ _ ((h.evaluate e).using_value fun v => ?_)
      split
      · exact (Follows.pure rfl).using_value fun _ => .print rfl
      · exact (elements.display v).using_value fun _ => .print rfl
  | .conditional branches otherwise _ => by
      simp only [Tree.Node.unplaced, visitNode, Rendering.renderNode]
      exact .visit _ _ (h.renderBranches (h.renderOtherwise otherwise) branches)
  | .assign name path e _ => by
      simp only [Tree.Node.unplaced, visitNode, Rendering.renderNode]
      exact .visit _ _ ((h.evaluate e).using_value fun v =>
        (elements.assign name path v).using_value fun _ => elements.done)
  | .loop item iterable body otherwise _ => by
      have whole := h.evaluate iterable
      have bounds : ∀ first last place, iterable = .range first last place →
          Unmoved env k (Rendering.evaluate (passing env) (renderWhole (passing env)) first)
              (Rendering.evaluate env.unobserved (renderWhole env.unobserved) first.unplaced) ∧
            Unmoved env k (Rendering.evaluate (passing env) (renderWhole (passing env)) last)
              (Rendering.evaluate env.unobserved (renderWhole env.unobserved) last.unplaced) := by
        cases iterable with
        | range first last place =>
            have parts := And.intro (h.evaluate first) (h.evaluate last)
            rintro _ _ _ ⟨⟩
            exact parts
        | _ => nofun
      simp only [Tree.Node.unplaced, visitNode, renderNode_loop]
      exact .visit _ _ ((startItems_unplaced whole bounds).using_value fun items =>
        .forEach .eq _ item items (h.renderNodes body) (h.renderOtherwise otherwise))
  | .leave _ => by
      simp only [Tree.Node.unplaced, visitNode, Rendering.renderNode]
      exact .visit _ _ elements.leave
  | .stop _ => by
      simp only [Tree.Node.unplaced, visitNode, Rendering.renderNode]
      exact .visit _ _ (.pure (Texts.eq.like _))
  | .define name parameters body _ => by
      simp only [Tree.Node.unplaced, visitNode, Rendering.renderNode]
      refine .visit _ _ ((Follows.define fun t t' same => same.defineAll ?_).using_value
        fun _ => elements.done)
      simp only [List.map_cons, List.map_nil, Definition.unplaced, Tree.unplacedNodes_unplaced]
  | .macroCall name arguments source _ => by
      simp only [Tree.Node.unplaced]
      exact .macroCall .eq (h.evaluateAll arguments) fun _ _ _ same => h.callsAlike same name
  | .evaluate argument _ => by
      simp only [Tree.Node.unplaced]
      exact .evaluateNode (Texts.eq.like _) rfl (h.evaluate argument) (fun _ _ _ _ _ => Iff.rfl)
        fun _ source _ _ _ _ => h.compilesAlike source
  | .parse argument _ => by
      simp only [Tree.Node.unplaced]
      exact .parseNode (Texts.eq.like _) rfl (h.evaluate argument) rfl rfl
        (fun _ _ _ _ _ => Iff.rfl) fun _ _ source _ _ _ _ _ => h.compilesAlike source
  | .embed arguments _ => by
      simp only [Tree.Node.unplaced, visitNode, Rendering.renderNode]
      exact .visit _ _ (h.embedAll arguments)

theorem renderNodes (h : FramesUnmoved env k) : (ns : List Tree.Node) →
    UnmovedText env k (Rendering.renderNodes (passing env) (renderWhole (passing env)) ns)
      (Rendering.renderNodes env.unobserved (renderWhole env.unobserved) (Tree.unplacedNodes ns))
  | [] => by
      simp only [Tree.unplacedNodes, Rendering.renderNodes]
      exact elements.done
  | n :: ns => by
      simp only [Tree.unplacedNodes, Rendering.renderNodes]
      exact elements.andThen (h.renderNode n) (h.renderNodes ns)

theorem renderBranches (h : FramesUnmoved env k) {otherwise : Rendering Prop Rendered}
    {otherwise' : Rendering Unit Rendered} (ho : UnmovedText env k otherwise otherwise') :
    (branches : List Tree.Branch) →
      UnmovedText env k
        (Rendering.renderBranches (passing env) (renderWhole (passing env)) otherwise branches)
        (Rendering.renderBranches env.unobserved (renderWhole env.unobserved) otherwise'
          (Tree.unplacedBranches branches))
  | [] => by
      simp only [Tree.unplacedBranches, Rendering.renderBranches]
      exact ho
  | .mk condition body :: rest => by
      simp only [Tree.unplacedBranches, Tree.Branch.unplaced, Rendering.renderBranches]
      refine (h.evaluate condition).using_value fun c =>
        (elements.isTruthy c).using_value fun _ => ?_
      split
      · exact h.renderNodes body
      · exact h.renderBranches ho rest

theorem renderOtherwise (h : FramesUnmoved env k) : (otherwise : Option (List Tree.Node)) →
    UnmovedText env k
      (Rendering.renderOtherwise (passing env) (renderWhole (passing env)) otherwise)
      (Rendering.renderOtherwise env.unobserved (renderWhole env.unobserved)
        (Tree.unplacedOtherwise otherwise))
  | none => by
      simp only [Tree.unplacedOtherwise, Rendering.renderOtherwise]
      exact elements.done
  | some body => by
      simp only [Tree.unplacedOtherwise, Rendering.renderOtherwise]
      exact h.renderNodes body

theorem embedAll (h : FramesUnmoved env k) : (es : List Tree.Expr) →
    UnmovedText env k (Rendering.embedAll (passing env) (renderWhole (passing env)) es)
      (Rendering.embedAll env.unobserved (renderWhole env.unobserved) (Tree.unplacedExprs es))
  | [] => by
      simp only [Tree.unplacedExprs, Rendering.embedAll]
      exact elements.done
  | e :: es => by
      simp only [Tree.unplacedExprs, Rendering.embedAll]
      exact elements.andThen (((h.evaluate e).using_value elements.display).using_value
        (.embedResource .eq rfl rfl)) (h.embedAll es)

end

theorem renderDocument (h : FramesUnmoved env k) (d : Document) :
    UnmovedText env k (Rendering.renderDocument (passing env) (renderWhole (passing env)) d)
      (Rendering.renderDocument env.unobserved (renderWhole env.unobserved) d.unplaced) := by
  have hoisted : (Tree.nodeDefinitions d.nodes).map Definition.unplaced =
      (Tree.nodeDefinitions d.unplaced.nodes).map Definition.unplaced := by
    rw [← Tree.nodeDefinitions_unplaced, ← Tree.nodeDefinitions_unplaced, Document.unplaced,
      Tree.unplacedNodes_unplaced]
  have whole : Unmoved env k
      (wholeValue (passing env) (renderWhole (passing env)) d.expression)
      (wholeValue env.unobserved (renderWhole env.unobserved) d.unplaced.expression) := by
    simp only [Document.unplaced]
    cases d.expression with
    | none => exact .pure rfl
    | some e => exact h.evaluate e
  simp only [Rendering.renderDocument]
  refine (Follows.define fun t t' same => same.defineAll hoisted).using_value fun _ =>
    whole.using_value fun v => ?_
  split
  · exact elements.absorbLeave (h.renderNodes d.nodes)
  · exact (elements.display v).using_value fun _ => .print rfl

theorem runFrame (h : FramesUnmoved env k) (f : Frame) :
    UnmovedText env k (Rendering.runFrame (passing env) (renderWhole (passing env)) f)
      (Rendering.runFrame env.unobserved (renderWhole env.unobserved) f.unplaced) := by
  cases f with
  | body nodes => exact h.renderNodes nodes
  | document d => exact h.renderDocument d

end FramesUnmoved

/-- Two frames that are followed by the same one end alike. -/
theorem unmoved_of_unplaced {env : Environment} {k : Nat} {f f' : Frame}
    {c : Rendering Unit Rendered} (hf : UnmovedText env k (renderWhole (passing env) f) c)
    (hf' : UnmovedText env k (renderWhole (passing env) f') c) :
    UnmovedText env k (renderWhole (passing env) f) (renderWhole env.unobserved f') where
  persists := hf.persists
  follows s t room beside := by
    intro passed held
    have first := hf.follows s t room beside passed held
    obtain ⟨passed', held'⟩ := passing_passes env f' t
    have same : t.room env.options = s.room env.options := by
      obtain ⟨_, _, rfl⟩ := beside
      rfl
    have second := hf'.follows t t (same ▸ room) ⟨t.definitions, rfl, rfl⟩ passed' held'
    have alike : (renderWhole (passing env) f' t passed').1 =
        (renderWhole env.unobserved f' t ()).1 :=
      (unobserved_alike (passing env)).renderFrame _ f' t passed' ()
    rw [alike] at second
    refine ⟨first.returns, ?_, first.beside.trans Eq.trans (second.beside.symm Eq.symm)⟩
    have ended := first.ended
    have ended' := second.ended
    generalize (renderWhole (passing env) f s passed).1.1 = r at ended ⊢
    generalize (renderWhole env.unobserved f' t ()).1.1 = r' at ended' ⊢
    generalize (c t ()).1.1 = shared at ended ended'
    cases ended with
    | error e =>
        cases ended'
        exact .error e
    | ok like =>
        cases ended' with
        | ok like' => exact .ok ⟨like.flow.trans like'.flow.symm, like.text.trans like'.text.symm⟩

/-- Frames are followed by those in other places, however many there are inside one another. -/
theorem frame_unmoved {env : Environment} (k : Nat) (f f' : Frame)
    (same : f.unplaced = f'.unplaced) :
    UnmovedText env k (renderWhole (passing env) f) (renderWhole env.unobserved f') := by
  have h : FramesUnmoved env k := fun f f' same j _ => frame_unmoved j f f' same
  have whole (f : Frame) :
      UnmovedText env k (renderWhole (passing env) f) (renderWhole env.unobserved f.unplaced) := by
    rw [renderWhole_eq (passing env), renderWhole_eq env.unobserved]
    exact h.runFrame f
  exact unmoved_of_unplaced (whole f) (same ▸ whole f')
termination_by k

/-- From every state, nodes in other places end in the same way and leave the same state, but for
the places in definitions. -/
theorem renderNodes_unmoved (env : Environment) {ns ns' : List Tree.Node}
    (same : Tree.unplacedNodes ns = Tree.unplacedNodes ns') (s : State) :
    (renderNodes env.unobserved (renderWhole env.unobserved) ns s ()).1.1 =
        (renderNodes env.unobserved (renderWhole env.unobserved) ns' s ()).1.1 ∧
      (renderNodes env.unobserved (renderWhole env.unobserved) ns s ()).1.2.Beside
        Definitions.SameButPlaces
        (renderNodes env.unobserved (renderWhole env.unobserved) ns' s ()).1.2 := by
  obtain ⟨passed, held⟩ := passing_passes env (.body ns) s
  have followed := (frame_unmoved (s.room env.options) (.body ns) (.body ns')
    (congrArg Frame.body same)).follows s s le_rfl ⟨s.definitions, rfl, rfl⟩ passed held
  have alike : (renderWhole (passing env) (.body ns) s passed).1 =
      (renderWhole env.unobserved (.body ns) s ()).1 :=
    (unobserved_alike (passing env)).renderFrame _ (.body ns) s passed ()
  rw [alike, renderWhole_eq env.unobserved] at followed
  exact ⟨(followed.ended.mono fun _ _ => Rendered.Like.eq).eq, followed.beside⟩

end Rendering

end Template

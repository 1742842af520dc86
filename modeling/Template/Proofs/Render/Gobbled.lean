import Template.Proofs.Render.Follow
import Template.Proofs.Tree.Places

/-!
What gobbling changes of a render. The blanks that it takes are printed or not, but nothing can
depend on them: no text becomes a value, unless a string calls or opens what has been gobbled.
-/

namespace Template

/-- The same text, but for blanks and line breaks. -/
def Text.SameButBlanks (a b : String) : Prop := bare a.toList = bare b.toList

theorem Text.texts_sameButBlanks : Texts SameButBlanks where
  refl _ := rfl
  append ha hb := by
    simp only [SameButBlanks, String.toList_append, bare_append] at ha hb ⊢
    rw [ha, hb]

/-- The same environment, in which blanks are gobbled in another way. -/
def Environment.gobbling (mode : Gobbling) (env : Environment) : Environment :=
  { env with options := { env.options with gobbling := mode } }

theorem Environment.gobbling_hosts (env : Environment) (mode mode' : Gobbling) :
    (env.gobbling mode).hosts = (env.gobbling mode').hosts := rfl

theorem Environment.gobbling_loader (env : Environment) (mode mode' : Gobbling) :
    (env.gobbling mode).loader = (env.gobbling mode').loader := rfl

theorem Environment.gobbling_tolerant (env : Environment) (mode mode' : Gobbling) :
    (env.gobbling mode).options.tolerant = (env.gobbling mode').options.tolerant := rfl

namespace Tree

/-- Nodes that render or define something outside of where they stand. -/
def Node.reachesOut : Node → Bool
  | .macroCall _ _ _ _ | .evaluate _ _ | .parse _ _ | .define _ _ _ _ => true
  | _ => false

/-- No string in the expressions of the nodes reaches out. -/
def Sober (ns : List Node) : Prop :=
  ∀ n ∈ ns, ∀ e ∈ n.exprs, ∀ m ∈ e.nodes, m.reachesOut = false

instance (ns : List Node) : Decidable (Sober ns) :=
  inferInstanceAs (Decidable (∀ n ∈ ns, ∀ e ∈ n.exprs, ∀ m ∈ e.nodes, m.reachesOut = false))

theorem sober_append {ms ns : List Node} : Sober (ms ++ ns) ↔ Sober ms ∧ Sober ns :=
  List.forall_mem_append

theorem sober_cons {n : Node} {ns : List Node} :
    Sober (n :: ns) ↔ (∀ e ∈ n.exprs, ∀ m ∈ e.nodes, m.reachesOut = false) ∧ Sober ns :=
  List.forall_mem_cons

theorem sober_allNodes_cons {n : Node} {ns : List Node} :
    Sober (allNodes (n :: ns)) ↔ Sober (n :: n.inner) ∧ Sober (allNodes ns) :=
  show Sober ((n :: n.inner) ++ allNodes ns) ↔ _ from sober_append

theorem exists_of_mem_nodesOfAll {es : List Expr} {m : Node} (h : m ∈ nodesOfAll es) :
    ∃ e ∈ es, m ∈ e.nodes := by
  induction es with
  | nil => cases h
  | cons e es ih =>
      rcases List.mem_append.1 h with h | h
      · exact ⟨e, List.mem_cons_self, h⟩
      · obtain ⟨e, he, h⟩ := ih h
        exact ⟨e, List.mem_cons_of_mem _ he, h⟩

/-- All that is inside a node without bodies is in its expressions. -/
theorem Node.exists_of_mem_inner {n m : Node} (hb : n.bodies = []) (h : m ∈ n.inner) :
    ∃ e ∈ n.exprs, m ∈ e.nodes := by
  cases n with
  | text | leave | stop => cases h
  | interpolation e | assign _ _ e | evaluate e | parse e => exact ⟨e, List.mem_singleton_self e, h⟩
  | macroCall | embed => exact exists_of_mem_nodesOfAll h
  | loop | define => cases hb
  | conditional branches otherwise =>
      obtain ⟨none, none'⟩ := List.append_eq_nil_iff.1 hb
      obtain rfl := List.map_eq_nil_iff.1 none
      obtain rfl := Option.toList_eq_nil_iff.1 none'
      cases h

theorem Node.definitions_of_bodies {n : Node} (hb : n.bodies = []) : n.definitions = [] := by
  cases n with
  | loop | define => cases hb
  | conditional branches otherwise =>
      obtain ⟨none, none'⟩ := List.append_eq_nil_iff.1 hb
      obtain rfl := List.map_eq_nil_iff.1 none
      obtain rfl := Option.toList_eq_nil_iff.1 none'
      rfl
  | _ => rfl

end Tree

/-- No string of the document has a call, a definition, or a template that is evaluated or parsed.
-/
def Document.Sober (d : Document) : Prop :=
  Tree.Sober d.allNodes ∧ ∀ e ∈ d.expression, ∀ m ∈ e.nodes, m.reachesOut = false

instance (d : Document) : Decidable d.Sober :=
  inferInstanceAs (Decidable (Tree.Sober d.allNodes ∧
    ∀ e ∈ d.expression, ∀ m ∈ e.nodes, m.reachesOut = false))

open Template.Tree

/-- The first definition is the second with some blanks less. -/
structure Definition.Gobbled (d' d : Definition) : Prop where
  name : d'.name = d.name
  parameters : d'.parameters = d.parameters
  body : ThinnedNodes d.body d'.body
  sober : Sober (allNodes d'.body)

structure Definitions.Gobbled (t' t : Definitions) : Prop where
  replaceable : t'.replaceable = t.replaceable
  entries : ∀ name, Option.Rel Definition.Gobbled (t'.get? name) (t.get? name)

inductive Frame.Gobbled : Frame → Frame → Prop where
  | body {ns ns' : List Node} (h : ThinnedNodes ns ns') (sober : Sober (Tree.allNodes ns')) :
      Gobbled (.body ns') (.body ns)
  | document {d d' : Document} (h : ThinnedNodes d.nodes d'.nodes)
      (same : d'.expression = d.expression) (sober : d'.Sober) :
      Gobbled (.document d') (.document d)

namespace Definitions

variable {t t' : Definitions}

theorem gobbled_empty (replaceable : Bool) : (empty replaceable).Gobbled (empty replaceable) :=
  ⟨rfl, fun _ => .none⟩

theorem Gobbled.define (h : t'.Gobbled t) {d d' : Definition} (hd : d'.Gobbled d) :
    (t'.define d').Gobbled (t.define d) := by
  have accepts : t'.accepts d'.name = t.accepts d.name := by
    have found := h.entries d.name
    simp only [Definitions.accepts, Entries.contains, h.replaceable, hd.name]
    simp only [get?] at found
    generalize t'.entries.get? d.name = old', t.entries.get? d.name = old at found ⊢
    cases found <;> rfl
  simp only [Definitions.define, accepts]
  split
  · refine ⟨h.replaceable, fun name => ?_⟩
    simp only [get?, Entries.get?_put, hd.name]
    split
    · exact .some hd
    · exact h.entries name
  · exact h

theorem Gobbled.defineAll (h : t'.Gobbled t) {ds ds' : List Definition}
    (hd : List.Forall₂ Definition.Gobbled ds' ds) :
    (t'.defineAll ds').Gobbled (t.defineAll ds) := by
  induction hd generalizing t t' with
  | nil => exact h
  | cons hd _ ih => exact ih (h.define hd)

end Definitions

namespace Tree

mutual

theorem Node.Thinned.definitions {n n' : Node} (h : n.Thinned n') (hs : Sober (n' :: n'.inner)) :
    List.Forall₂ Definition.Gobbled n'.definitions n.definitions :=
  match h with
  | .text _ => .nil
  | .conditional hb ho =>
      have ⟨hsb, hso⟩ := sober_append.1 (sober_cons.1 hs).2
      List.rel_append (hb.definitions hsb) (ho.definitions hso)
  | .loop hb ho =>
      have ⟨_, hs⟩ := sober_append.1 (sober_cons.1 hs).2
      have ⟨hsb, hso⟩ := sober_append.1 hs
      List.rel_append (hb.definitions hsb) (ho.definitions hso)
  | .define hb => .cons ⟨rfl, rfl, hb, (sober_cons.1 hs).2⟩ .nil
  | .same bare => by
      rw [Node.definitions_of_bodies bare]
      exact .nil

theorem ThinnedNodes.definitions {ns ns' : List Node} (h : ThinnedNodes ns ns')
    (hs : Sober (allNodes ns')) :
    List.Forall₂ Definition.Gobbled (nodeDefinitions ns') (nodeDefinitions ns) :=
  match h with
  | .nil => .nil
  | .blank _ h => h.definitions hs
  | .cons hn h =>
      have ⟨hsn, hs⟩ := sober_allNodes_cons.1 hs
      List.rel_append (hn.definitions hsn) (h.definitions hs)

theorem ThinnedBranches.definitions {bs bs' : List Branch} (h : ThinnedBranches bs bs')
    (hs : Sober (nodesOfBranches bs')) :
    List.Forall₂ Definition.Gobbled (branchDefinitions bs') (branchDefinitions bs) :=
  match h with
  | .nil => .nil
  | .cons hb h =>
      have ⟨_, hs⟩ := sober_append.1 hs
      have ⟨hsb, hs⟩ := sober_append.1 hs
      List.rel_append (hb.definitions hsb) (h.definitions hs)

theorem ThinnedOtherwise.definitions {o o' : Option (List Node)} (h : ThinnedOtherwise o o')
    (hs : Sober (nodesOfOtherwise o')) :
    List.Forall₂ Definition.Gobbled (otherwiseDefinitions o') (otherwiseDefinitions o) :=
  match h with
  | .none => .nil
  | .some hb => hb.definitions hs

end

end Tree

/-- Gobbling takes blanks from a document and changes nothing else; whether a source is a template
does not depend on it. -/
theorem Document.compile_gobbling (env : Environment) (mode : Gobbling) (source : String) :
    Rendering.Ended (fun d' d => ThinnedNodes d.nodes d'.nodes ∧ d'.expression = d.expression)
      (compile (env.gobbling mode).options source)
      (compile (env.gobbling .none).options source) := by
  simp only [compile, segments, Environment.gobbling]
  cases tokenize source with
  | error e => exact .error _
  | ok tokens =>
      dsimp only
      cases Markup.parseSegments source tokens env.options.maxNesting with
      | error e => exact .error _
      | ok body => exact .ok ⟨Builder.thinned_gobble _ mode body, rfl⟩

namespace Rendering

/-- The document that the node opens from the state. -/
inductive Opens (env : Environment) (s : State) : Node → Document → Prop where
  | evaluate {argument : Expr} {source : String} {t : State} {d : Document} (place : Region)
      (reads : Reads env s argument source t) (free : s.parseDepth < env.options.maxParseDepth)
      (compiled : Document.compile env.options source = .ok d) :
      Opens env s (.evaluate argument place) d
  | parse {argument : Expr} {name source : String} {t : State} {d : Document} (place : Region)
      (reads : Reads env s argument name t) (free : s.parseDepth < env.options.maxParseDepth)
      (found : env.loader t.requests name = .ok source)
      (compiled : Document.compile env.options source = .ok d) :
      Opens env s (.parse argument place) d

/-- What the node opens from the state is sober. -/
def OpensSober (env : Environment) (n : Node) (s : State) : Prop :=
  ∀ d, Opens env s n d → d.Sober

/-- Some blanks are gobbled, and it is checked that all that is opened is sober. -/
abbrev gobbled (mode : Gobbling) (env : Environment) : Observed Prop :=
  (env.gobbling mode).checking (OpensSober (env.gobbling mode))

/-- All blanks stay. -/
abbrev entire (env : Environment) : Observed Unit := (env.gobbling .none).unobserved

/-- The render in which all blanks stay follows the other, up to blanks. -/
abbrev GobbledFollows (mode : Gobbling) (env : Environment) (k : Nat) :
    Rendering Prop Rendered → Rendering Unit Rendered → Prop :=
  Follows (env.gobbling mode).options k Definitions.Gobbled (Rendered.Like Text.SameButBlanks)

/-- Frames are followed where less than `k` of them can be inside one another. -/
def FramesFollow (mode : Gobbling) (env : Environment) (k : Nat) : Prop :=
  ∀ f' f, f'.Gobbled f → ∀ j < k,
    GobbledFollows mode env j (renderWhole (gobbled mode env) f') (renderWhole (entire env) f)

section

variable {mode : Gobbling} {env : Environment} {k : Nat}

/-- What is in an expression that does not reach out is the same in both renders. -/
theorem gobbled_walk :
    Walk (gobbled mode env) (entire env) (renderWhole (gobbled mode env)) (renderWhole (entire env))
      (fun n => n.reachesOut = false)
      (Follows (env.gobbling mode).options k Definitions.Gobbled Eq)
      (Follows (env.gobbling mode).options k Definitions.Gobbled (Rendered.Like Eq)) :=
  have elements : Elements (gobbled mode env) (entire env)
      (Follows (env.gobbling mode).options k Definitions.Gobbled Eq)
      (Follows (env.gobbling mode).options k Definitions.Gobbled (Rendered.Like Eq)) :=
    Follows.elements (env.gobbling_hosts mode .none)
  { elements with
    define := fun ds made _ => by
      cases ds with
      | nil => exact .define fun _ _ same => same
      | cons d ds =>
          obtain ⟨_, reaches⟩ := made d List.mem_cons_self
          cases reaches
    loop := fun item {iterable body otherwise} place _ hi hb ho => by
      simp only [visitNode, renderNode_loop]
      exact .visit _ _ (hi.using_value fun items => .forEach .eq _ item items hb ho)
    macroCall := fun _ _ _ _ reaches => nomatch reaches
    evaluateNode := fun _ reaches => nomatch reaches
    parse := fun _ reaches => nomatch reaches
    embed := fun place _ ha =>
      elements.embed (.embedResource .eq (env.gobbling_loader mode .none)
        (env.gobbling_tolerant mode .none)) ha }

/-- Blanks that are printed do not count. -/
theorem follows_of_blank {content : String} (blank : Text.SameButBlanks "" content)
    {c : Rendering Prop Rendered} {c' : Rendering Unit Rendered} {place : Region}
    {deeper : Frame → Rendering Unit Rendered}
    (h : GobbledFollows mode env k c c') :
    GobbledFollows mode env k c
      (andThen (visitNode (entire env) deeper (.text content place)) c') where
  persists := h.persists
  follows s t room beside := by
    intro passed held
    obtain ⟨returns, ended, beside⟩ := h.follows s t room beside passed held
    have run : (andThen (visitNode (entire env) deeper (.text content place)) c' t ()).1 =
        ((c' t ()).1.1.map fun r => { r with text := content ++ r.text }, (c' t ()).1.2) := by
      simp only [andThen, visitNode, visit, renderNode, print, bind_run, report, pure_run,
        Rendered.ofText]
      obtain ⟨⟨r, t'⟩, ⟨⟩⟩ := c' t ()
      cases r <;> rfl
    rw [run]
    refine ⟨returns, ?_, beside⟩
    generalize (c s passed).1.1 = r at ended ⊢
    generalize (c' t ()).1.1 = r' at ended ⊢
    cases ended with
    | error e => exact .error e
    | ok like =>
        have text := Text.texts_sameButBlanks.append blank like.text
        rw [String.empty_append] at text
        exact .ok ⟨like.flow, text⟩

theorem Like.sameButBlanks {r r' : Rendered} (h : r.Like Eq r') :
    r.Like Text.SameButBlanks r' :=
  ⟨h.flow, congrArg (fun text : String => Text.bare text.toList) h.text⟩

theorem callsAlike_of_gobbled (hd : FramesFollow mode env k) {s : State} {d d' : Option Definition}
    (h : Option.Rel Definition.Gobbled d' d) :
    Option.Rel (CallsAlike (OpensSober (env.gobbling mode)) (env.gobbling mode) (env.gobbling .none)
      k Definitions.Gobbled (Rendered.Like Text.SameButBlanks) s) d' d := by
  cases h with
  | none => exact .none
  | some same => exact .some ⟨Iff.rfl, same.parameters, hd _ _ (.body same.body same.sober)⟩

theorem compilesAlike_of_gobbled (hd : FramesFollow mode env k) {source : String}
    (hs : ∀ d, Document.compile (env.gobbling mode).options source = .ok d → d.Sober) :
    CompilesAlike (OpensSober (env.gobbling mode)) (env.gobbling mode) (env.gobbling .none) k
      Definitions.Gobbled (Rendered.Like Text.SameButBlanks) source := by
  have compiled := Document.compile_gobbling env mode source
  unfold CompilesAlike
  revert hs
  generalize Document.compile (env.gobbling mode).options source = r' at compiled ⊢
  generalize Document.compile (env.gobbling .none).options source = r at compiled ⊢
  cases compiled with
  | error e => exact fun _ => .error e
  | ok thinned => exact fun hs => .ok (hd _ _ (.document thinned.1 thinned.2 (hs _ rfl)))

mutual

theorem gobbled_node (hd : FramesFollow mode env k) {n n' : Node} (h : n.Thinned n')
    (hs : Sober (n' :: n'.inner)) :
    GobbledFollows mode env k
      (visitNode (gobbled mode env) (renderWhole (gobbled mode env)) n')
      (visitNode (entire env) (renderWhole (entire env)) n) :=
  match h with
  | .text same => by
      simp only [visitNode, renderNode]
      exact .visit _ _ (.print same)
  | .conditional hb ho => by
      obtain ⟨conditions, hs⟩ := sober_cons.1 hs
      obtain ⟨hsb, hso⟩ := sober_append.1 hs
      simp only [visitNode, renderNode]
      exact .visit _ _ (gobbled_branches hd hb conditions hsb (gobbled_otherwise hd ho hso))
  | .loop hb ho => by
      obtain ⟨iterable, hs⟩ := sober_cons.1 hs
      obtain ⟨-, hs⟩ := sober_append.1 hs
      obtain ⟨hsb, hso⟩ := sober_append.1 hs
      simp only [visitNode, renderNode_loop]
      refine .visit _ _ ((gobbled_walk.startItems _ (iterable _ (List.mem_singleton_self _)))
        |>.using_value fun items => ?_)
      exact .forEach Text.texts_sameButBlanks _ _ items (gobbled_nodes hd hb hsb)
        (gobbled_otherwise hd ho hso)
  | .define hb => by
      simp only [visitNode, renderNode]
      refine .visit _ _ ((Follows.define fun _ _ same => same.defineAll (.cons ?_ .nil)).using_value
        fun _ => .pure (Text.texts_sameButBlanks.like _))
      exact ⟨rfl, rfl, hb, (sober_cons.1 hs).2⟩
  | .same bare => by
      have inside : ∀ m ∈ n'.inner, m.reachesOut = false := by
        intro m hm
        obtain ⟨e, he, hm⟩ := Node.exists_of_mem_inner bare hm
        exact (sober_cons.1 hs).1 e he m hm
      cases reaches : n'.reachesOut with
      | false =>
          exact (gobbled_walk.renderNode n' reaches inside).mono fun _ _ => Like.sameButBlanks
      | true =>
          cases n' with
          | macroCall name arguments source place =>
              refine .macroCall Text.texts_sameButBlanks
                (gobbled_walk.evaluateAll arguments inside) ?_
              exact fun s ds _ same => callsAlike_of_gobbled hd (same.entries name)
          | evaluate argument place =>
              refine .evaluateNode (Text.texts_sameButBlanks.like _) (env.gobbling_hosts ..)
                (gobbled_walk.evaluate argument inside) (fun _ _ _ _ _ => Iff.rfl) ?_
              intro s source _ sober reads free
              exact compilesAlike_of_gobbled hd fun d compiled =>
                sober d (.evaluate place reads free compiled)
          | parse argument place =>
              refine .parseNode (Text.texts_sameButBlanks.like _) (env.gobbling_hosts ..)
                (gobbled_walk.evaluate argument inside) (env.gobbling_loader ..)
                (env.gobbling_tolerant ..) (fun _ _ _ _ _ => Iff.rfl) ?_
              intro s name source _ sober reads free found
              exact compilesAlike_of_gobbled hd fun d compiled =>
                sober d (.parse place reads free found compiled)
          | define => cases bare
          | _ => cases reaches

theorem gobbled_nodes (hd : FramesFollow mode env k) {ns ns' : List Node} (h : ThinnedNodes ns ns')
    (hs : Sober (allNodes ns')) :
    GobbledFollows mode env k
      (renderNodes (gobbled mode env) (renderWhole (gobbled mode env)) ns')
      (renderNodes (entire env) (renderWhole (entire env)) ns) :=
  match h with
  | .nil => by
      simp only [renderNodes]
      exact .pure (Text.texts_sameButBlanks.like _)
  | .blank blank h => by
      have rest := gobbled_nodes hd h hs
      rw [renderNodes]
      exact follows_of_blank blank.symm rest
  | .cons hn h => by
      obtain ⟨hsn, hs⟩ := sober_allNodes_cons.1 hs
      simp only [renderNodes]
      exact .andThen Text.texts_sameButBlanks (gobbled_node hd hn hsn) (gobbled_nodes hd h hs)

theorem gobbled_branches (hd : FramesFollow mode env k) {bs bs' : List Branch}
    (h : ThinnedBranches bs bs')
    (conditions : ∀ e ∈ bs'.map Branch.condition, ∀ m ∈ e.nodes, m.reachesOut = false)
    (hs : Sober (nodesOfBranches bs')) {c : Rendering Prop Rendered} {c' : Rendering Unit Rendered}
    (ho : GobbledFollows mode env k c c') :
    GobbledFollows mode env k
      (renderBranches (gobbled mode env) (renderWhole (gobbled mode env)) c bs')
      (renderBranches (entire env) (renderWhole (entire env)) c' bs) :=
  match h with
  | .nil => by
      simp only [renderBranches]
      exact ho
  | .cons hb h => by
      obtain ⟨condition, conditions⟩ := List.forall_mem_cons.1 conditions
      obtain ⟨-, hs⟩ := sober_append.1 hs
      obtain ⟨hsb, hs⟩ := sober_append.1 hs
      simp only [renderBranches]
      refine (gobbled_walk.evaluate _ condition).using_value fun v =>
        (gobbled_walk.isTruthy v).using_value fun holds => ?_
      split
      · exact gobbled_nodes hd hb hsb
      · exact gobbled_branches hd h conditions hs ho

theorem gobbled_otherwise (hd : FramesFollow mode env k) {o o' : Option (List Node)}
    (h : ThinnedOtherwise o o')
    (hs : Sober (nodesOfOtherwise o')) :
    GobbledFollows mode env k
      (renderOtherwise (gobbled mode env) (renderWhole (gobbled mode env)) o')
      (renderOtherwise (entire env) (renderWhole (entire env)) o) :=
  match h with
  | .none => by
      simp only [renderOtherwise]
      exact .pure (Text.texts_sameButBlanks.like _)
  | .some hb => by
      simp only [renderOtherwise]
      exact gobbled_nodes hd hb hs

end

theorem gobbled_document (hd : FramesFollow mode env k) {d d' : Document}
    (h : ThinnedNodes d.nodes d'.nodes) (same : d'.expression = d.expression) (hs : d'.Sober) :
    GobbledFollows mode env k
      (renderDocument (gobbled mode env) (renderWhole (gobbled mode env)) d')
      (renderDocument (entire env) (renderWhole (entire env)) d) := by
  obtain ⟨hs, whole⟩ := hs
  have sober := (sober_append.1 hs).1
  have inside : ∀ m ∈ (d.expression.map Expr.nodes).getD [], m.reachesOut = false := by
    rw [same] at whole
    cases found : d.expression with
    | none => nofun
    | some e => exact whole e found
  simp only [renderDocument, same]
  refine (Follows.define fun _ _ same => same.defineAll (h.definitions sober)).using_value
    fun _ => (gobbled_walk.wholeValue d.expression inside).using_value fun v => ?_
  split
  · exact .absorbLeave Text.texts_sameButBlanks (gobbled_nodes hd h sober)
  · exact (gobbled_walk.display v).using_value fun _ => .print rfl

end

/-- What is left of the depths decreases from frame to frame. -/
theorem gobbled_frame {mode : Gobbling} {env : Environment} (k : Nat) (f' f : Frame)
    (h : f'.Gobbled f) :
    GobbledFollows mode env k (renderWhole (gobbled mode env) f') (renderWhole (entire env) f) := by
  have hd : FramesFollow mode env k := fun f' f h j _ => gobbled_frame j f' f h
  rw [renderWhole_eq (gobbled mode env), renderWhole_eq (entire env)]
  cases h with
  | body h sober => exact gobbled_nodes hd h sober
  | document h same sober => exact gobbled_document hd h same sober
termination_by k

end Rendering

/-- The outcomes are the same, but for blanks and line breaks in the texts. -/
structure RenderOutcome.SameButBlanks (o o' : RenderOutcome) : Prop where
  result : o.result.map (fun text => Text.bare text.toList) =
    o'.result.map (fun text => Text.bare text.toList)
  store : o.store = o'.store
  requests : o.requests = o'.requests

namespace Document

/-- All templates are sober that are compiled for a render: the document and what is opened on the
way. -/
structure AllSober (env : Environment) (context : Context) (store : Store) (d : Document) :
    Prop where
  first : d.Sober
  opened : ∀ n s, .node n s ∈ d.events env context store → Rendering.OpensSober env n s

theorem sameButBlanks_entire {env : Environment} {mode : Gobbling} {context : Context}
    {store : Store} {d d' : Document} (h : ThinnedNodes d.nodes d'.nodes)
    (same : d'.expression = d.expression) (sober : d'.AllSober (env.gobbling mode) context store) :
    (d'.render (env.gobbling mode) context store).SameButBlanks
      (d.render (env.gobbling .none) context store) := by
  have start : (Definitions.empty (env.gobbling mode).options.allowRedefinition).Gobbled
      (.empty (env.gobbling .none).options.allowRedefinition) := Definitions.gobbled_empty _
  obtain ⟨s, -, ended, ds, -, state⟩ := run_followed sober.opened start fun k =>
    Rendering.gobbled_frame k _ _ (.document h same sober.first)
  refine ⟨?_, (congrArg State.store state).symm, (congrArg State.requests state).symm⟩
  have texts {r r' : Except RenderError Rendered}
      (h : Rendering.Ended (Rendered.Like Text.SameButBlanks) r r') :
      (r.map Rendered.text).map (fun text => Text.bare text.toList) =
        (r'.map Rendered.text).map (fun text => Text.bare text.toList) := by
    cases h with
    | error e => rfl
    | ok like => exact congrArg Except.ok like.text
  exact texts ended

end Document

/-- Gobbling changes nothing but blanks. Whether a source is a template does not depend on how
blanks are gobbled, nor does why it is none. If no string of a template that is compiled for a
render has a call, a definition, or a template that is evaluated or parsed, then two ways to gobble
lead to the same error, or to texts that are the same but for blanks and line breaks; the same
methods are called, and the loader is asked for the same. -/
theorem render_gobbled_alike (env : Environment) (mode mode' : Gobbling) (source : String) :
    (∀ e, Document.compile (env.gobbling mode).options source = .error e ↔
      Document.compile (env.gobbling mode').options source = .error e) ∧
    ∀ d d', Document.compile (env.gobbling mode).options source = .ok d →
      Document.compile (env.gobbling mode').options source = .ok d' →
      ∀ (context : Context) (store : Store), d.AllSober (env.gobbling mode) context store →
        d'.AllSober (env.gobbling mode') context store →
        (d.render (env.gobbling mode) context store).SameButBlanks
          (d'.render (env.gobbling mode') context store) := by
  have compiled := Document.compile_gobbling env mode source
  have compiled' := Document.compile_gobbling env mode' source
  generalize Document.compile (env.gobbling .none).options source = entire at compiled compiled'
  refine ⟨fun e => ?_, fun d d' hd hd' context store sober sober' => ?_⟩
  · revert compiled compiled'
    generalize Document.compile (env.gobbling mode).options source = r
    generalize Document.compile (env.gobbling mode').options source = r'
    rintro (_ | _) (_ | _) <;> simp
  · rw [hd] at compiled
    rw [hd'] at compiled'
    cases compiled with
    | ok thinned =>
        cases compiled' with
        | ok thinned' =>
            have first := Document.sameButBlanks_entire thinned.1 thinned.2 sober
            have second := Document.sameButBlanks_entire thinned'.1 thinned'.2 sober'
            exact ⟨first.result.trans second.result.symm, first.store.trans second.store.symm,
              first.requests.trans second.requests.symm⟩

/-- Not a node that opens a template. -/
def Event.opensNothing : Event → Bool
  | .node (.evaluate _ _) _ | .node (.parse _ _) _ => false
  | _ => true

theorem Document.allSober_of_opensNothing {env : Environment} {context : Context} {store : Store}
    {d : Document} (sober : d.Sober)
    (h : (d.events env context store).all Event.opensNothing = true) :
    d.AllSober env context store := by
  refine ⟨sober, fun n s seen d' opens => ?_⟩
  have nothing := List.all_eq_true.1 h _ seen
  cases opens <;> cases nothing

/-- Two lines of directives, with a string in one of them. -/
theorem render_gobbled_alike_lines :
    let env : Environment := ⟨.standard, .none, .none⟩
    let source := "#if(\"$x\")\n  a\n#end\n"
    ∃ d d', Document.compile (env.gobbling .none).options source = .ok d ∧
      Document.compile (env.gobbling .lines).options source = .ok d' ∧
      (d.render (env.gobbling .none) .empty .empty).result.toOption = some "\n  a\n\n" ∧
      (d'.render (env.gobbling .lines) .empty .empty).result.toOption = some "  a\n" ∧
      (d.render (env.gobbling .none) .empty .empty).SameButBlanks
        (d'.render (env.gobbling .lines) .empty .empty) := by
  intro env source
  let measure (mode : Gobbling) (d : Document) :=
    (decide d.Sober, (d.events (env.gobbling mode) .empty .empty).all Event.opensNothing,
      (d.render (env.gobbling mode) .empty .empty).result.toOption)
  have entire : ((Document.compile (env.gobbling .none).options source).map
      (measure .none)).toOption = some (true, true, some "\n  a\n\n") := by decide +kernel
  have gobbled : ((Document.compile (env.gobbling .lines).options source).map
      (measure .lines)).toOption = some (true, true, some "  a\n") := by decide +kernel
  obtain ⟨d, hd, found⟩ := Document.exists_of_measure _ entire
  obtain ⟨d', hd', found'⟩ := Document.exists_of_measure _ gobbled
  obtain ⟨sober, found⟩ := Prod.mk.inj found
  obtain ⟨opens, text⟩ := Prod.mk.inj found
  obtain ⟨sober', found'⟩ := Prod.mk.inj found'
  obtain ⟨opens', text'⟩ := Prod.mk.inj found'
  exact ⟨d, d', hd, hd', text, text', (render_gobbled_alike env .none .lines source).2 d d' hd hd'
    .empty .empty (Document.allSober_of_opensNothing (of_decide_eq_true sober) opens)
    (Document.allSober_of_opensNothing (of_decide_eq_true sober') opens')⟩

end Template

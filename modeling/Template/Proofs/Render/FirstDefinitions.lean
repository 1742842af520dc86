import Template.Proofs.Render.Gobbled

/-!
Definitions that stay. Where later definitions do not replace the first, a name that is defined
keeps its definition to the end of the render, in whatever order documents, loops and calls define
it. If all definitions of a document stand where they are made on the way in, they are those that
come first in the document, from the first node on.
-/

namespace Template

namespace Definitions

/-- What is defined in the first table is so in the second, and neither or both may be replaced. -/
structure Keeps (t u : Definitions) : Prop where
  replaceable : u.replaceable = t.replaceable
  defined : ∀ name d, t.get? name = some d → u.get? name = some d

variable {t u v : Definitions} {d : Definition} {ds : List Definition} {name : String}

theorem Keeps.refl (t : Definitions) : t.Keeps t := ⟨rfl, fun _ _ h => h⟩

theorem Keeps.trans (h : t.Keeps u) (h' : u.Keeps v) : t.Keeps v :=
  ⟨h'.replaceable.trans h.replaceable, fun name d hd => h'.defined name d (h.defined name d hd)⟩

theorem replaceable_defineAll (ds : List Definition) (t : Definitions) :
    (t.defineAll ds).replaceable = t.replaceable := by
  induction ds generalizing t with
  | nil => rfl
  | cons d ds ih =>
      refine (ih (t.define d)).trans ?_
      simp only [define]
      split <;> rfl

theorem define_of_defined (ht : t.replaceable = false) (h : (t.get? d.name).isSome) :
    t.define d = t := by
  have kept : t.accepts d.name = false := by
    rw [accepts, ht, Entries.contains]
    exact congrArg not h
  simp [define, kept]

/-- Where the first definition of a name stays, it is found before those that came later. -/
theorem get?_define (ht : t.replaceable = false) :
    (t.define d).get? name = (t.get? name).or (if d.name = name then some d else none) := by
  by_cases defined : (t.get? d.name).isSome
  · rw [define_of_defined ht defined]
    by_cases same : d.name = name
    · subst same
      rw [Option.or_of_isSome defined]
    · simp [same]
  · have accepted : t.accepts d.name = true := by
      rw [accepts, ht, Entries.contains, Bool.false_or, Bool.not_eq_true']
      exact Bool.eq_false_of_not_eq_true defined
    simp only [define, accepted, if_true, get?, Entries.get?_put]
    split
    next same =>
      subst same
      simp only [get?] at defined
      simp [Option.not_isSome_iff_eq_none.1 defined]
    next => simp

theorem get?_defineAll (ht : t.replaceable = false) :
    (t.defineAll ds).get? name = (t.get? name).or (ds.find? (·.name = name)) := by
  induction ds generalizing t with
  | nil => simp [defineAll]
  | cons d ds ih =>
      have ht' : (t.define d).replaceable = false := (replaceable_defineAll [d] t).trans ht
      refine (ih ht').trans ?_
      rw [get?_define ht, List.find?_cons, Option.or_assoc]
      by_cases same : d.name = name <;> simp [same]

theorem keeps_defineAll (ht : t.replaceable = false) (ds : List Definition) :
    t.Keeps (t.defineAll ds) := by
  refine ⟨replaceable_defineAll ds t, fun name d hd => ?_⟩
  rw [get?_defineAll ht, hd]
  rfl

theorem defineAll_of_defined (ht : t.replaceable = false)
    (h : ∀ d ∈ ds, (t.get? d.name).isSome) : t.defineAll ds = t := by
  induction ds with
  | nil => rfl
  | cons d ds ih =>
      obtain ⟨hd, hs⟩ := List.forall_mem_cons.1 h
      change (t.define d).defineAll ds = t
      rw [define_of_defined ht hd]
      exact ih hs

theorem defineAll_twice (ht : t.replaceable = false) :
    (t.defineAll ds).defineAll ds = t.defineAll ds := by
  refine defineAll_of_defined ((replaceable_defineAll ds t).trans ht) fun d hd => ?_
  rw [get?_defineAll ht, Option.isSome_or]
  simp only [Bool.or_eq_true]
  exact .inr (List.find?_isSome.2 ⟨d, hd, by simp⟩)

end Definitions

/-! ### Tables in a run -/

/-- The table of definitions that a node is rendered with. -/
def Event.table? : Event → Option Definitions
  | .node _ s => some s.definitions
  | _ => none

/-- From one table to another, over those of the events in between: each is related to all later
ones. -/
def Ordered (K : Definitions → Definitions → Prop) (first : Definitions) (events : List Event)
    (last : Definitions) : Prop :=
  (first :: (events.filterMap Event.table? ++ [last])).Pairwise K

namespace Ordered

variable {K : Definitions → Definitions → Prop} {t u v : Definitions} {events events' : List Event}

theorem quiet (h : K t u) : Ordered K t [] u := by
  simpa [Ordered] using h

theorem ends (h : Ordered K t events u) : K t u :=
  (List.pairwise_cons.1 h).1 u (by simp)

theorem append (trans : ∀ {t u v}, K t u → K u v → K t v) (h : Ordered K t events u)
    (h' : Ordered K u events' v) : Ordered K t (events ++ events') v := by
  have front : (t :: events.filterMap Event.table?).Pairwise K ∧
      ∀ x ∈ t :: events.filterMap Event.table?, K x u := by
    rw [Ordered, ← List.cons_append, List.pairwise_append] at h
    exact ⟨h.1, fun x hx => h.2.2 x hx u (by simp)⟩
  obtain ⟨later, rest⟩ := List.pairwise_cons.1 h'
  rw [Ordered, List.filterMap_append, List.append_assoc, ← List.cons_append, List.pairwise_append]
  exact ⟨front.1, rest, fun x hx y hy => trans (front.2 x hx) (later y hy)⟩

/-- The table of an event is related to those of later events, and to the last one. -/
theorem after {before : List Event} {n : Tree.Node} {s : State}
    (h : Ordered K t (before ++ .node n s :: events) u) :
    (∀ m s', .node m s' ∈ events → K s.definitions s'.definitions) ∧ K s.definitions u := by
  have tables : (before ++ .node n s :: events).filterMap Event.table? ++ [u] =
      before.filterMap Event.table? ++
        s.definitions :: (events.filterMap Event.table? ++ [u]) := by
    simp [Event.table?]
  rw [Ordered, tables, ← List.cons_append, List.pairwise_append] at h
  obtain ⟨-, behind, -⟩ := h
  obtain ⟨later, -⟩ := List.pairwise_cons.1 behind
  refine ⟨fun m s' hm => later _ ?_, later u (by simp)⟩
  exact List.mem_append_left _ (List.mem_filterMap.2 ⟨_, hm, rfl⟩)

theorem first {n : Tree.Node} {s : State} (h : Ordered K t events u) (hm : .node n s ∈ events) :
    K t s.definitions :=
  (List.pairwise_cons.1 h).1 _ (List.mem_append_left _ (List.mem_filterMap.2 ⟨_, hm, rfl⟩))

end Ordered

namespace Rendering

/-- Every run from a table with the property `B` sees tables that are in order. -/
def Lasts (B : Definitions → Prop) (K : Definitions → Definitions → Prop) {α : Type}
    (c : Rendering (List Event) α) : Prop :=
  ∀ s w, B s.definitions → ∃ new, (c s w).2 = w ++ new ∧
    Ordered K s.definitions new (c s w).1.2.definitions

end Rendering

/-- What is kept of the tables in a render of nodes with the property `P`: each table that has the
property `B` is related by `K` to those that come later. -/
structure Standing (P : Tree.Node → Prop) (B : Definitions → Prop)
    (K : Definitions → Definitions → Prop) : Prop where
  refl (t : Definitions) : K t t
  trans {t u v : Definitions} (h : K t u) (h' : K u v) : K t v
  keep {t u : Definitions} (ht : B t) (h : K t u) : B u
  define {t : Definitions} {ds : List Definition} (ht : B t)
    (hd : ∀ d ∈ ds, ∃ place, P (.define d.name d.parameters d.body place)) : K t (t.defineAll ds)
  body {t : Definitions} {name : String} {d : Definition} (ht : B t) (hd : t.get? name = some d) :
    ∀ n ∈ Tree.allNodes d.body, P n
  source {argument : Tree.Expr} {place : Region}
    (h : P (.evaluate argument place) ∨ P (.parse argument place)) : ∀ n, P n

namespace Standing

open Rendering

variable {P : Tree.Node → Prop} {B : Definitions → Prop} {K : Definitions → Definitions → Prop}
  {α β : Type} {env : Environment} {deeper : Frame → Rendering (List Event) Rendered}

/-- What nobody sees, and what leaves the table as it is. -/
theorem unseen (h : Standing P B K) {f : State → Except RenderError α × State}
    (hf : ∀ s, (f s).2.definitions = s.definitions) :
    Lasts B K (fun s w => (f s, w) : Rendering (List Event) α) := by
  intro s w _
  refine ⟨[], (List.append_nil w).symm, .quiet ?_⟩
  rw [hf]
  exact h.refl _

theorem pure (h : Standing P B K) (a : α) : Lasts B K (Pure.pure a : Rendering (List Event) α) :=
  h.unseen fun _ => rfl

theorem throw (h : Standing P B K) (e : RenderError) :
    Lasts B K (MonadExcept.throw e : Rendering (List Event) α) :=
  h.unseen fun _ => rfl

theorem get (h : Standing P B K) : Lasts B K (MonadState.get : Rendering (List Event) State) :=
  h.unseen (f := fun s => (.ok s, s)) fun _ => rfl

theorem update (h : Standing P B K) {f : State → State}
    (hf : ∀ s, (f s).definitions = s.definitions) :
    Lasts B K (modify f : Rendering (List Event) PUnit) :=
  h.unseen (f := fun s => (.ok PUnit.unit, f s)) hf

theorem onStore (h : Standing P B K) (action : Action α) :
    Lasts B K (Rendering.onStore action : Rendering (List Event) α) :=
  h.unseen (f := fun s => (.ok (action s.store).1, { s with store := (action s.store).2 }))
    fun _ => rfl

theorem report (h : Standing P B K) {event : State → Event}
    (he : ∀ s, (event s).table? = none ∨ (event s).table? = some s.definitions) :
    Lasts B K (Rendering.report env.recorded event) := by
  intro s w _
  refine ⟨[event s], rfl, ?_⟩
  change Ordered K s.definitions [event s] s.definitions
  rcases he s with none | here
  · simpa [Ordered, none] using h.refl s.definitions
  · simpa [Ordered, here] using h.refl s.definitions

theorem bind (h : Standing P B K) {c : Rendering (List Event) α} {f : α → Rendering (List Event) β}
    (hc : Lasts B K c) (hf : ∀ a, Lasts B K (f a)) : Lasts B K (c >>= f) := by
  intro s w hs
  obtain ⟨new, seen, ordered⟩ := hc s w hs
  rw [bind_run]
  generalize c s w = out at seen ordered ⊢
  obtain ⟨⟨r, t⟩, w'⟩ := out
  cases r with
  | error e => exact ⟨new, seen, ordered⟩
  | ok a =>
      obtain ⟨new', seen', ordered'⟩ := hf a t w' (h.keep hs ordered.ends)
      refine ⟨new ++ new', ?_, ordered.append h.trans ordered'⟩
      rw [← List.append_assoc, ← seen]
      exact seen'

theorem around (_ : Standing P B K) {enter exit : State → State} {c : Rendering (List Event) α}
    (enters : ∀ s, (enter s).definitions = s.definitions)
    (exits : ∀ s, (exit s).definitions = s.definitions) (hc : Lasts B K c) :
    Lasts B K (Rendering.around enter exit c) := by
  intro s w hs
  obtain ⟨new, seen, ordered⟩ := hc (enter s) w (enters s ▸ hs)
  refine ⟨new, seen, ?_⟩
  rw [enters] at ordered
  rw [around_run]
  exact (exits _).symm ▸ ordered

theorem inScope (_ : Standing P B K) {c : Rendering (List Event) α} (hc : Lasts B K c) :
    Lasts B K (Rendering.inScope c) := by
  intro s w hs
  obtain ⟨new, seen, ordered⟩ := hc { s with scopes := s.scopes.push } w hs
  have closes (out : Except RenderError α × State) :
      (closeScope out).2.definitions = out.2.definitions := by
    obtain ⟨result, t⟩ := out
    simp only [closeScope]
    split <;> rfl
  refine ⟨new, seen, ?_⟩
  rw [inScope_run]
  exact (closes _).symm ▸ ordered

/-- The steps that an observer is not told of: here nobody is told of any. -/
theorem steps (h : Standing P B K) :
    let silent : Observed (List Event) := ⟨⟨.standard, .none, .none⟩, fun _ w => w⟩
    Steps silent silent (fun c _ => Lasts B K c) where
  hosts := rfl
  maxPasses := rfl
  pure := h.pure
  bind := h.bind
  get := h.get
  onStore := h.onStore
  setAll names values := h.update (State.definitions_setAll names values)
  report _ := h.unseen (f := fun s => (.ok (), s)) fun _ => rfl
  inScope := h.inScope
  inLoop hb := h.bind h.get fun _ => h.bind (h.onStore _) fun number =>
    h.around (fun _ => rfl) (fun _ => rfl) (hb number)

theorem andThen (h : Standing P B K) {a b : Rendering (List Event) Rendered} (ha : Lasts B K a)
    (hb : Lasts B K b) : Lasts B K (Rendering.andThen a b) :=
  @Steps.andThen _ _ _ _ _ a b a b h.steps ha hb

theorem forEach (h : Standing P B K) (limit : Nat) (item : String) (items : Items)
    {body otherwise : Rendering (List Event) Rendered} (hb : Lasts B K body)
    (ho : Lasts B K otherwise) : Lasts B K (Rendering.forEach limit item items body otherwise) :=
  @Steps.forEach _ _ _ _ _ body otherwise body otherwise h.steps limit item items hb ho

theorem visit (h : Standing P B K) (n : Tree.Node) {c : Rendering (List Event) Rendered}
    (hc : Lasts B K c) : Lasts B K (Rendering.visit env.recorded n c) :=
  h.bind (h.report fun _ => .inr rfl) fun _ => hc

theorem parts (h : Standing P B K) (env : Environment) :
    Parts env.recorded env.recorded (fun c _ => Lasts B K c) (fun c _ => Lasts B K c) where
  hosts := rfl
  pure := h.pure
  bind := h.bind
  after := h.bind
  get := h.get
  onStore action _ := h.onStore action
  use _ := h.bind (h.report fun _ => .inl rfl) fun _ => h.onStore _
  set name value := h.steps.setAll [name] [value]
  lookUp _ := h.bind (h.report fun _ => .inl rfl) fun _ => h.bind h.get fun _ => h.pure _
  inString hc := h.bind (h.report fun _ => .inl rfl) fun _ => h.bind hc fun _ =>
    h.bind (h.report fun _ => .inl rfl) fun _ => h.pure _
  print _ := h.bind (h.report fun _ => .inl rfl) fun _ => h.pure _
  done := h.pure _
  leave := h.pure _
  stop _ := h.visit _ (h.pure _)
  visit n _ hc := h.visit n hc
  andThen := h.andThen
  absorbLeave hc := h.bind hc fun _ => h.pure _
  forEach item items hb ho := h.forEach _ item items hb ho

theorem call (h : Standing P B K) (hd : ∀ f, (∀ n ∈ f.allNodes, P n) → Lasts B K (deeper f))
    {d : Definition} (hp : ∀ n ∈ Tree.allNodes d.body, P n)
    {arguments : Rendering (List Event) (List Value)} (ha : Lasts B K arguments) :
    Lasts B K (Rendering.call env.recorded deeper d arguments) := by
  refine h.bind h.get fun s => ?_
  split
  · exact h.pure _
  · refine h.bind ha fun values => h.inScope (h.bind ?_ fun _ => h.bind ?_ fun _ => h.pure _)
    · exact h.update (State.definitions_setAll d.parameters values)
    · exact h.around (fun _ => rfl) (fun _ => rfl) (hd (.body d.body) hp)

theorem ifMayParse (h : Standing P B K) {c : Rendering (List Event) Rendered} (hc : Lasts B K c) :
    Lasts B K (Rendering.ifMayParse env.recorded c) := by
  refine h.bind h.get fun s => ?_
  split
  · exact hc
  · exact h.pure _

theorem nested (h : Standing P B K) (hd : ∀ f, (∀ n ∈ f.allNodes, P n) → Lasts B K (deeper f))
    (hp : ∀ n, P n) (source : String) :
    Lasts B K (Rendering.nested env.recorded deeper source) := by
  simp only [Rendering.nested]
  split
  · exact h.throw _
  · exact h.around (fun _ => rfl) (fun _ => rfl) (hd _ fun n _ => hp n)

theorem load (h : Standing P B K) (name : String) :
    Lasts B K (Rendering.load env.recorded name) := by
  refine h.bind (h.report fun _ => .inl rfl) fun _ => h.bind (h.parts env).get fun _ =>
    h.bind (h.update fun _ => rfl) fun _ => ?_
  split
  · exact h.pure _
  · split
    · exact h.pure _
    · exact h.throw _

theorem embedResource (h : Standing P B K) (name : String) :
    Lasts B K (Rendering.embedResource env.recorded name) := by
  refine h.bind (h.load name) fun source => ?_
  split
  · exact (h.parts env).print _
  · exact h.pure _

theorem walk (h : Standing P B K) (hd : ∀ f, (∀ n ∈ f.allNodes, P n) → Lasts B K (deeper f)) :
    Walk env.recorded env.recorded deeper deeper P (fun c _ => Lasts B K c)
      (fun c _ => Lasts B K c) where
  toElements := (h.parts env).toElements
  define ds made _ := by
    intro s w hs
    exact ⟨[], (List.append_nil w).symm, .quiet (h.define hs made)⟩
  loop item _ _ _ place _ hi hb ho := (h.parts env).loop _ deeper item place hi hb ho
  macroCall name arguments source place _ ha := by
    refine h.visit _ ?_
    simp only [Rendering.renderNode]
    intro s w hs
    rw [bind_run, get_run]
    dsimp only
    cases found : s.definitions.get? name with
    | some d => exact h.call hd (h.body hs found) ha s w hs
    | none => exact (h.parts env).print source s w hs
  evaluateNode place hp ha := by
    refine h.visit _ ?_
    simp only [Rendering.renderNode]
    exact h.bind (h.bind ha (h.parts env).display) fun source =>
      h.ifMayParse (h.nested hd (h.source (.inl hp)) source)
  parse place hp ha := by
    refine h.visit _ ?_
    simp only [Rendering.renderNode]
    refine h.bind (h.bind ha (h.parts env).display) fun name => h.ifMayParse ?_
    refine h.bind (h.load name) fun source => ?_
    split
    · exact h.nested hd (h.source (.inr hp)) _
    · exact h.pure _
  embed _ _ ha :=
    @Elements.embed _ _ _ _ _ _ deeper deeper (h.parts env).toElements h.embedResource _ _ ha

theorem frame (env : Environment) (h : Standing P B K) (frames : Nat) (f : Frame)
    (hf : ∀ n ∈ f.allNodes, P n) : Lasts B K (renderFrame env.recorded frames f) := by
  induction frames generalizing f with
  | zero => exact h.pure _
  | succ frames ih =>
      rw [renderFrame_succ]
      exact (h.walk ih).runFrame f hf

end Standing

/-! ### Definitions in document order -/

namespace Tree

/-- The definition that a node makes. -/
def Node.definition? : Node → Option Definition
  | .define name parameters body _ => some ⟨name, parameters, body⟩
  | _ => none

/-- No definitions in the strings of a node, and none in the body of the one that it makes. -/
structure Node.Flat (n : Node) : Prop where
  strings : ∀ e ∈ n.exprs, ∀ m ∈ e.nodes, m.definition? = none
  body : ∀ d ∈ n.definition?, ∀ m ∈ allNodes d.body, m.definition? = none

instance (n : Node) : Decidable n.Flat :=
  decidable_of_iff ((∀ e ∈ n.exprs, ∀ m ∈ e.nodes, m.definition? = none) ∧
      ∀ d ∈ n.definition?, ∀ m ∈ allNodes d.body, m.definition? = none)
    ⟨fun h => ⟨h.1, h.2⟩, fun h => ⟨h.strings, h.body⟩⟩

/-- Nodes that render a template on the way. -/
def Node.nests : Node → Bool
  | .evaluate _ _ | .parse _ _ => true
  | _ => false

theorem filterMap_nodesOfAll {es : List Expr} (h : ∀ e ∈ es, ∀ m ∈ e.nodes, m.definition? = none) :
    (nodesOfAll es).filterMap Node.definition? = [] := by
  refine List.filterMap_eq_nil_iff.2 fun m hm => ?_
  obtain ⟨e, he, hm⟩ := exists_of_mem_nodesOfAll hm
  exact h e he m hm

mutual

/-- What is hoisted from flat nodes are the definitions that they make, in document order. -/
theorem Node.filterMap_definition? : (n : Node) → (∀ m ∈ n :: n.inner, m.Flat) →
    (n :: n.inner).filterMap Node.definition? = n.definitions
  | .define name parameters body _, h => by
      have none : (allNodes body).filterMap Node.definition? = [] :=
        List.filterMap_eq_nil_iff.2 ((h _ List.mem_cons_self).body _ rfl)
      simp only [Node.inner, List.filterMap_cons, Node.definition?, none, Node.definitions]
  | .conditional branches otherwise _, h => by
      obtain ⟨hn, h⟩ := List.forall_mem_cons.1 h
      obtain ⟨hb, ho⟩ := List.forall_mem_append.1 h
      simp only [Node.inner, List.filterMap_cons, Node.definition?, List.filterMap_append,
        Node.definitions]
      rw [filterMap_branchDefinitions branches (List.forall_mem_map.1 hn.strings) hb,
        filterMap_otherwiseDefinitions otherwise ho]
  | .loop _ iterable body otherwise _, h => by
      obtain ⟨hn, h⟩ := List.forall_mem_cons.1 h
      obtain ⟨-, h⟩ := List.forall_mem_append.1 h
      obtain ⟨hb, ho⟩ := List.forall_mem_append.1 h
      have none : iterable.nodes.filterMap Node.definition? = [] :=
        List.filterMap_eq_nil_iff.2 (hn.strings iterable List.mem_cons_self)
      simp only [Node.inner, List.filterMap_cons, Node.definition?, List.filterMap_append, none,
        List.nil_append, Node.definitions]
      rw [filterMap_nodeDefinitions body hb, filterMap_otherwiseDefinitions otherwise ho]
  | .text .., _ | .leave .., _ | .stop .., _ => rfl
  | .interpolation e _ _ _, h | .assign _ _ e _, h | .evaluate e _, h | .parse e _, h => by
      have none := (h _ List.mem_cons_self).strings e List.mem_cons_self
      exact List.filterMap_eq_nil_iff.2 (List.forall_mem_cons.2 ⟨rfl, none⟩)
  | .macroCall _ arguments _ _, h | .embed arguments _, h =>
      filterMap_nodesOfAll (h _ List.mem_cons_self).strings

theorem filterMap_branchDefinitions : (branches : List Branch) →
    (∀ b ∈ branches, ∀ m ∈ b.condition.nodes, m.definition? = none) →
      (∀ m ∈ nodesOfBranches branches, m.Flat) →
        (nodesOfBranches branches).filterMap Node.definition? = branchDefinitions branches
  | [], _, _ => rfl
  | .mk condition body :: rest, hc, h => by
      obtain ⟨here, later⟩ := List.forall_mem_cons.1 hc
      obtain ⟨-, h⟩ := List.forall_mem_append.1 h
      obtain ⟨hb, hr⟩ := List.forall_mem_append.1 h
      have none : condition.nodes.filterMap Node.definition? = [] :=
        List.filterMap_eq_nil_iff.2 here
      simp only [nodesOfBranches, List.filterMap_append, none, List.nil_append, branchDefinitions,
        Branch.definitions]
      rw [filterMap_nodeDefinitions body hb, filterMap_branchDefinitions rest later hr]

theorem filterMap_otherwiseDefinitions : (otherwise : Option (List Node)) →
    (∀ m ∈ nodesOfOtherwise otherwise, m.Flat) →
      (nodesOfOtherwise otherwise).filterMap Node.definition? = otherwiseDefinitions otherwise
  | none, _ => rfl
  | some body, h => filterMap_nodeDefinitions body h

theorem filterMap_nodeDefinitions : (ns : List Node) → (∀ m ∈ allNodes ns, m.Flat) →
    (allNodes ns).filterMap Node.definition? = nodeDefinitions ns
  | [], _ => rfl
  | n :: ns, h => by
      obtain ⟨hn, hs⟩ := List.forall_mem_append.1
        (show ∀ m ∈ (n :: n.inner) ++ allNodes ns, m.Flat from h)
      have split : allNodes (n :: ns) = (n :: n.inner) ++ allNodes ns := rfl
      rw [split, List.filterMap_append, n.filterMap_definition? hn, filterMap_nodeDefinitions ns hs,
        nodeDefinitions]

end

end Tree

namespace Document

/-- The first definition with the name among those that the nodes of the document make, from its
beginning on. -/
def firstDefinition? (d : Document) (name : String) : Option Definition :=
  ((Tree.allNodes d.nodes).filterMap Tree.Node.definition?).find? (·.name = name)

/-- A document whose definitions stand neither in other ones nor in strings, and which renders no
templates on the way. -/
structure Flat (d : Document) : Prop where
  nodes : ∀ n ∈ d.allNodes, n.Flat
  expression : ∀ e ∈ d.expression, ∀ m ∈ e.nodes, m.definition? = none
  nests : ∀ n ∈ d.allNodes, n.nests = false

namespace Flat

variable {d : Document}

/-- The table that a flat document makes on the way in. -/
def table (d : Document) : Definitions :=
  (Definitions.empty false).defineAll (Tree.nodeDefinitions d.nodes)

theorem get?_table (h : d.Flat) (name : String) :
    (table d).get? name = d.firstDefinition? name := by
  have hoisted := Tree.filterMap_nodeDefinitions d.nodes fun n hn =>
    h.nodes n (List.mem_append_left _ hn)
  rw [table, Definitions.get?_defineAll rfl, firstDefinition?, hoisted]
  rfl

theorem isSome_table (h : d.Flat) {n : Tree.Node} (hn : n ∈ d.allNodes) {made : Definition}
    (hm : n.definition? = some made) : ((table d).get? made.name).isSome := by
  rw [h.get?_table]
  rcases List.mem_append.1 hn with hn | hn
  · exact List.find?_isSome.2 ⟨made, List.mem_filterMap.2 ⟨n, hn, hm⟩, by simp⟩
  · cases he : d.expression with
    | none => simp [he] at hn
    | some e =>
        rw [he] at hn
        simp [h.expression e he n hn] at hm

/-- The table of a flat document stays as it is while the document is rendered. -/
theorem standing (h : d.Flat) :
    Standing (· ∈ d.allNodes) (fun t => t = table d) (fun t u => t = u) where
  refl _ := rfl
  trans := Eq.trans
  keep ht same := same ▸ ht
  define ht made := by
    subst ht
    refine (Definitions.defineAll_of_defined (Definitions.replaceable_defineAll _ _)
      fun d hd => ?_).symm
    obtain ⟨place, there⟩ := made d hd
    exact h.isSome_table there rfl
  body := by
    intro t name found ht hd n hn
    subst ht
    rw [table, Definitions.get?_defineAll rfl] at hd
    have there := Tree.nodeDefinitions_subset d.nodes found (List.mem_of_find?_eq_some hd)
    exact List.mem_append_left _ (there.2 hn)
  source there := there.elim (nomatch h.nests _ ·) (nomatch h.nests _ ·)

end Flat

end Document

/-- Where the first definition of a name stays, it does so whatever is rendered. -/
theorem Definitions.standing :
    Standing (fun _ => True) (fun t => t.replaceable = false) Definitions.Keeps where
  refl := .refl
  trans := .trans
  keep ht h := h.replaceable.trans ht
  define ht _ := keeps_defineAll ht _
  body _ _ _ _ := trivial
  source _ _ := trivial

/-- Definitions made on the way in are there already if they have been made before. -/
theorem Rendering.renderDocument_defined {ω : Type} (env : Observed ω)
    (deeper : Frame → Rendering ω Rendered) (d : Document) (s : State) (w : ω)
    (hs : (s.define (Tree.nodeDefinitions d.nodes)).define (Tree.nodeDefinitions d.nodes) =
      s.define (Tree.nodeDefinitions d.nodes)) :
    renderDocument env deeper d s w =
      renderDocument env deeper d (s.define (Tree.nodeDefinitions d.nodes)) w := by
  simp only [renderDocument]
  rw [bind_run, bind_run, modify_run, modify_run, hs]

open Rendering in
/-- Where later definitions do not replace the first, what a name is defined as at any time of a
render it is until the end. If a document is flat then every call of a name in its render calls the
first definition of the name in the document, or prints its own source if there is none. -/
theorem definitions_stay (env : Environment) (context : Context) (d : Document) (store : Store)
    (stays : env.options.allowRedefinition = false) :
    (∀ before n s later, d.events env context store = before ++ .node n s :: later →
      (∀ m t, .node m t ∈ later → s.definitions.Keeps t.definitions) ∧
        s.definitions.Keeps (d.run env.recorded [] context store).1.2.definitions) ∧
    (d.Flat → ∀ name arguments source place s,
      .node (.macroCall name arguments source place) s ∈ d.events env context store →
        s.definitions.get? name = d.firstDefinition? name ∧
        ∀ {ω : Type} (env' : Observed ω) deeper w,
          renderNode env' deeper (.macroCall name arguments source place) s w =
            match d.firstDefinition? name with
            | some first => call env' deeper first (evaluateAll env' deeper arguments) s w
            | none => print env' source s w) := by
  let start := (d.entry env.recorded [] context store).state
  let ds := Tree.nodeDefinitions d.nodes
  refine ⟨fun before n s later split => ?_, fun flat name arguments source place s called => ?_⟩
  · obtain ⟨new, seen, ordered⟩ := Definitions.standing.frame env (frameBound env.options)
      (.document d) (fun _ _ => trivial) start [] stays
    obtain rfl : new = before ++ .node n s :: later := seen.symm.trans split
    exact ordered.after
  · have table : (start.define ds).definitions = Document.Flat.table d := by
      change (Definitions.empty env.options.allowRedefinition).defineAll ds = _
      rw [stays]
      rfl
    have again : (start.define ds).define ds = start.define ds := by
      rw [State.define, table, Document.Flat.table, Definitions.defineAll_twice rfl]
      exact congrArg (fun t => { start with definitions := t }) table.symm
    obtain ⟨new, seen, ordered⟩ := flat.standing.frame env (frameBound env.options)
      (.document d) (fun _ hn => hn) (start.define ds) [] table
    have run : d.run env.recorded [] context store =
        renderFrame env.recorded (frameBound env.options) (.document d) (start.define ds) [] :=
      renderDocument_defined env.recorded _ d start [] again
    have here : Event.node (.macroCall name arguments source place) s ∈ new := by
      rw [List.nil_append, ← run] at seen
      exact seen ▸ called
    have found : s.definitions.get? name = d.firstDefinition? name := by
      rw [← ordered.first here, table, flat.get?_table]
    refine ⟨found, fun env' deeper w => ?_⟩
    simp only [renderNode]
    rw [bind_run, get_run]
    dsimp only
    rw [found]
    cases d.firstDefinition? name <;> rfl

/-- `#if(false)#macro(m)a#end#end#m()#macro(m)b#end` -/
def Document.definedTwice : Document :=
  { nodes :=
      [.conditional [.mk (.literal (.bool false) default)
          [.define "m" [] [.text "a" default] default]] none default,
        .macroCall "m" [] "#m()" default,
        .define "m" [] [.text "b" default] default]
    expression := none }

theorem definitions_stay_definedTwice :
    let env : Environment := ⟨.standard, .none, .none⟩
    let d := Document.definedTwice
    (d.render env .empty .empty).result = .ok "a" ∧
      ∃ s, .node (.macroCall "m" [] "#m()" default) s ∈ d.events env .empty .empty ∧
        s.definitions.get? "m" = some ⟨"m", [], [.text "a" default]⟩ ∧
        s.definitions.Keeps (d.run env.recorded [] .empty .empty).1.2.definitions := by
  intro env d
  obtain ⟨stays, calls⟩ := definitions_stay env .empty d .empty rfl
  have flat : d.Flat := ⟨by decide, by simp [d, Document.definedTwice], by decide⟩
  obtain ⟨before, s, later, split⟩ : ∃ before s later, d.events env .empty .empty =
      before ++ .node (.macroCall "m" [] "#m()" default) s :: later := by
    refine ⟨(d.events env .empty .empty).take 1, _, (d.events env .empty .empty).drop 2, rfl⟩
  refine ⟨rfl, s, ?_, ?_, (stays _ _ _ _ split).2⟩
  · rw [split]
    simp
  · exact (calls flat "m" [] "#m()" default s (by rw [split]; simp)).1

end Template

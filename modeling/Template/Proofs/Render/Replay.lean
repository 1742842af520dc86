import Template.Proofs.Value.Replay
import Template.Render.Evaluate

/-!
The same render at other places. From states that differ only in where things stand, a render goes
the same way: it prints the same, asks the loader for the same, fails with the same error, and leaves
such states again.
-/

namespace Template.Placement

variable {p : Placement} {ω α β γ δ : Type}

structure SameScopes (p : Placement) (s t : Scopes) : Prop where
  inner : List.Forall₂ p.SameEntries s.inner t.inner
  global : p.SameEntries s.global t.global

structure States (p : Placement) (s t : State) : Prop where
  store : p.Stores s.store t.store
  scopes : p.SameScopes s.scopes t.scopes
  definitions : s.definitions = t.definitions
  loops : List.Forall₂ p.loops.At s.loops t.loops
  callDepth : s.callDepth = t.callDepth
  parseDepth : s.parseDepth = t.parseDepth
  requests : s.requests = t.requests

inductive Outcomes (p : Placement) (R : α → β → Prop) :
    Except RenderError α × State → Except RenderError β × State → Prop where
  | ok {a : α} {b : β} {s t : State} (h : R a b) (hs : p.States s t) :
      p.Outcomes R (.ok a, s) (.ok b, t)
  | error (e : RenderError) {s t : State} (hs : p.States s t) :
      p.Outcomes R (.error e, s) (.error e, t)

/-- From states that hold the same, the renderings get to outcomes in the relation and to states that
hold the same, whatever their observers have seen. -/
def Renders (p : Placement) (R : α → β → Prop) (c : Rendering ω α) (d : Rendering ω β) : Prop :=
  ∀ s t w w', p.States s t → p.Outcomes R (c s w).1 (d t w').1

theorem Acts.writeProperty {hosts : Hosts} (hh : p.Serves hosts) {v u value value' : Value}
    (h : p.Same v u) (name : String) (hv : p.Same value value') :
    Acts p.Stores Eq (Rendering.writeProperty hosts v name value)
      (Rendering.writeProperty hosts u name value') := by
  cases h with
  | map h => exact .get fun s t hs => setEntries h ((hs.entries h).put name hv)
  | loop h =>
      exact bind (objectMethod hh (.loop h) _ (.cons hv .nil)) fun _ _ _ => pure rfl
  | host h =>
      exact bind (objectMethod hh (.host h) _ (.cons hv .nil)) fun _ _ _ => pure rfl
  | _ => exact pure rfl

/-- The same items, or the same range. -/
inductive SameRun (p : Placement) : Items → Items → Prop where
  | values {vs us : List Value} (h : p.SameItems vs us) : p.SameRun (.values vs) (.values us)
  | range (next last : Int) : p.SameRun (.range next last) (.range next last)

namespace SameRun

theorem ofValue {s t : Store} (hs : p.Stores s t) {v u : Value} (h : p.Same v u) :
    p.SameRun (Items.ofValue s v) (Items.ofValue t u) := by
  cases h with
  | null => exact .values .nil
  | list h => exact .values (hs.items h)
  | map h => exact .values (hs.entries h).values
  | bool b => exact .values (.cons (.bool b) .nil)
  | number x => exact .values (.cons (.number x) .nil)
  | text t => exact .values (.cons (.text t) .nil)
  | loop h => exact .values (.cons (.loop h) .nil)
  | host h => exact .values (.cons (.host h) .nil)

theorem between {v u v' u' : Value} (h : p.Same v u) (h' : p.Same v' u') :
    p.SameRun (Items.between v v') (Items.between u u') := by
  simp only [Items.between, h.index?, h'.index?]
  split
  · exact .range _ _
  · exact .values .nil

variable {items items' : Items}

theorem next? (h : p.SameRun items items') :
    Option.Rel (fun x y => p.Same x.1 y.1 ∧ p.SameRun x.2 y.2) items.next? items'.next? := by
  cases h with
  | values h =>
      cases h with
      | nil => exact .none
      | cons h hr => exact .some ⟨h, .values hr⟩
  | range next last =>
      refine .some ⟨.number _, ?_⟩
      dsimp only
      split
      · exact .values .nil
      · exact .range _ _

theorem isEmpty (h : p.SameRun items items') : items.isEmpty = items'.isEmpty := by
  have next := h.next?
  simp only [Items.isEmpty]
  generalize items.next? = x at next
  generalize items'.next? = y at next
  cases next <;> rfl

theorem toList (h : p.SameRun items items') : p.SameItems items.toList items'.toList := by
  cases h with
  | values h => exact h
  | range first last =>
      simp only [Items.toList]
      generalize Items.integers first last = ns
      induction ns with
      | nil => exact .nil
      | cons n ns ih => exact .cons (.number _) ih

end SameRun

/-! ### Scopes and states -/

namespace SameScopes

variable {s t : Scopes}

theorem get? (h : p.SameScopes s t) (name : String) : p.SameOption (s.get? name) (t.get? name) := by
  have all : List.Forall₂ p.SameEntries s.all t.all :=
    List.rel_append h.inner (.cons h.global .nil)
  simp only [Scopes.get?]
  generalize s.all = es at all
  generalize t.all = fs at all
  induction all with
  | nil => exact .none
  | @cons es fs _ _ h _ ih =>
      have found := h.get? name
      simp only [List.findSome?_cons]
      generalize Entries.get? name es = v at found
      generalize Entries.get? name fs = u at found
      cases found with
      | none => exact ih
      | some found => exact .some found

theorem set (h : p.SameScopes s t) (name : String) {v u : Value} (hv : p.Same v u) :
    p.SameScopes (s.set name v) (t.set name u) := by
  obtain ⟨inner, global⟩ := s
  obtain ⟨inner', global'⟩ := t
  obtain ⟨hi, hg⟩ := h
  cases hi with
  | nil => exact ⟨.nil, hg.put name hv⟩
  | cons h hi => exact ⟨.cons (h.put name hv) hi, hg⟩

theorem push (h : p.SameScopes s t) : p.SameScopes s.push t.push :=
  ⟨.cons .nil h.inner, h.global⟩

end SameScopes

namespace States

variable {s t : State}

theorem set (h : p.States s t) (name : String) {v u : Value} (hv : p.Same v u) :
    p.States (s.set name v) (t.set name u) :=
  { h with scopes := h.scopes.set name hv }

theorem setAll (h : p.States s t) (names : List String) {vs us : List Value}
    (hv : p.SameItems vs us) : p.States (s.setAll names vs) (t.setAll names us) := by
  induction names generalizing s t vs us with
  | nil => exact h
  | cons name names ih =>
      cases hv with
      | nil => exact ih (h.set name .null) .nil
      | cons hv hvs => exact ih (h.set name hv) hvs

theorem currentLoop (h : p.States s t) : p.Same s.currentLoop t.currentLoop := by
  have loops := h.loops
  simp only [State.currentLoop]
  generalize s.loops = is at loops
  generalize t.loops = js at loops
  cases loops with
  | nil => exact .null
  | cons h _ => exact .loop h

end States

/-! ### Parts of renderings -/

namespace Renders

variable {R : α → β → Prop} {Q : γ → δ → Prop}

theorem pure {a : α} {b : β} (h : R a b) :
    p.Renders R (Pure.pure a : Rendering ω α) (Pure.pure b) :=
  fun _ _ _ _ hs => .ok h hs

theorem throw (e : RenderError) :
    p.Renders R (MonadExcept.throw e : Rendering ω α) (MonadExcept.throw e) :=
  fun _ _ _ _ hs => .error e hs

theorem bind {c : Rendering ω α} {d : Rendering ω β} {f : α → Rendering ω γ}
    {g : β → Rendering ω δ} (hc : p.Renders R c d) (hf : ∀ a b, R a b → p.Renders Q (f a) (g b)) :
    p.Renders Q (c >>= f) (d >>= g) := by
  intro s t w w' hs
  have first := hc s t w w' hs
  rw [Rendering.bind_run, Rendering.bind_run]
  generalize c s w = x at first
  generalize d t w' = y at first
  obtain ⟨x, w₁⟩ := x
  obtain ⟨y, w₁'⟩ := y
  cases first with
  | ok h hs => exact hf _ _ h _ _ _ _ hs
  | error e hs => exact .error e hs

theorem get {f : State → Rendering ω γ} {g : State → Rendering ω δ}
    (h : ∀ s t, p.States s t → p.Renders Q (f s) (g t)) :
    p.Renders Q (MonadState.get >>= f) (MonadState.get >>= g) :=
  fun s t w w' hs => h s t hs s t w w' hs

theorem update {f g : State → State} (h : ∀ s t, p.States s t → p.States (f s) (g t)) :
    p.Renders Eq (modify f : Rendering ω PUnit) (modify g) :=
  fun s t _ _ hs => .ok rfl (h s t hs)

theorem report (env : Observed ω) (event event' : State → Event) :
    p.Renders Eq (Rendering.report env event) (Rendering.report env event') :=
  fun _ _ _ _ hs => .ok rfl hs

theorem onStore {c : Action α} {d : Action β} (h : Acts p.Stores R c d) :
    p.Renders R (Rendering.onStore c : Rendering ω α) (Rendering.onStore d) :=
  fun s t _ _ hs => by
    obtain ⟨hr, store⟩ := h s.store t.store hs.store
    exact .ok hr { hs with store }

theorem use (env : Observed ω) {c : Action α} {d : Action β} (h : Acts p.Stores R c d)
    (use use' : Use) : p.Renders R (Rendering.use env use c) (Rendering.use env use' d) :=
  bind (report env _ _) fun _ _ _ => onStore h

theorem around {c : Rendering ω α} {d : Rendering ω β} {enter exit enter' exit' : State → State}
    (hc : p.Renders R c d) (he : ∀ s t, p.States s t → p.States (enter s) (enter' t))
    (hx : ∀ s t, p.States s t → p.States (exit s) (exit' t)) :
    p.Renders R (Rendering.around enter exit c) (Rendering.around enter' exit' d) := by
  intro s t w w' hs
  have body := hc _ _ w w' (he s t hs)
  rw [Rendering.around_run, Rendering.around_run]
  generalize c (enter s) w = x at body
  generalize d (enter' t) w' = y at body
  obtain ⟨⟨x, s₁⟩, w₁⟩ := x
  obtain ⟨⟨y, t₁⟩, w₁'⟩ := y
  cases body with
  | ok h hs => exact .ok h (hx _ _ hs)
  | error e hs => exact .error e (hx _ _ hs)

theorem closeScope {x : Except RenderError α × State} {y : Except RenderError β × State}
    (h : p.Outcomes R x y) : p.Outcomes R (Rendering.closeScope x) (Rendering.closeScope y) := by
  have closed {s t : State} (hs : p.States s t) :
      (∃ e, s.scopes.pop = .error e ∧ t.scopes.pop = .error e) ∨
        ∃ s' t', s.scopes.pop = .ok s' ∧ t.scopes.pop = .ok t' ∧ p.SameScopes s' t' := by
    obtain ⟨hi, hg⟩ := hs.scopes
    simp only [Scopes.pop]
    generalize s.scopes.inner = es at hi
    generalize t.scopes.inner = fs at hi
    cases hi with
    | nil => exact .inl ⟨_, rfl, rfl⟩
    | cons _ hi => exact .inr ⟨_, _, rfl, rfl, hi, hg⟩
  cases h with
  | ok h hs =>
      obtain ⟨e, he, he'⟩ | ⟨s', t', hs', ht', same⟩ := closed hs
      · simp only [Rendering.closeScope, he, he']
        exact .error _ hs
      · simp only [Rendering.closeScope, hs', ht']
        exact .ok h { hs with scopes := same }
  | error e hs =>
      obtain ⟨e, he, he'⟩ | ⟨s', t', hs', ht', same⟩ := closed hs
      · simp only [Rendering.closeScope, he, he']
        exact .error _ hs
      · simp only [Rendering.closeScope, hs', ht']
        exact .error e { hs with scopes := same }

theorem inScope {c : Rendering ω α} {d : Rendering ω β} (h : p.Renders R c d) :
    p.Renders R (Rendering.inScope c) (Rendering.inScope d) := by
  intro s t w w' hs
  rw [Rendering.inScope_run, Rendering.inScope_run]
  exact closeScope (h _ _ w w' { hs with scopes := hs.scopes.push })

theorem inLoop {body : Nat → Rendering ω α} {body' : Nat → Rendering ω β}
    (h : ∀ i j, p.loops.At i j → p.Renders R (body i) (body' j)) :
    p.Renders R (Rendering.inLoop body) (Rendering.inLoop body') := by
  refine get fun s t hs => bind (onStore (.newLoop hs.currentLoop)) fun i j hij => ?_
  refine around (h i j hij) (fun _ _ hs => ?_) fun _ _ hs => ?_
  · exact { hs with loops := .cons hij hs.loops }
  · have outer := List.forall₂_drop 1 hs.loops
    exact { hs with loops := by simpa only [State.exitLoop, List.drop_one] using outer }

theorem inCall {c : Rendering ω α} {d : Rendering ω β} (h : p.Renders R c d) :
    p.Renders R (Rendering.inCall c) (Rendering.inCall d) :=
  around h (fun _ _ hs => { hs with callDepth := congrArg (· + 1) hs.callDepth })
    fun _ _ hs => { hs with callDepth := congrArg (· - 1) hs.callDepth }

theorem inParse {c : Rendering ω α} {d : Rendering ω β} (h : p.Renders R c d) :
    p.Renders R (Rendering.inParse c) (Rendering.inParse d) :=
  around h (fun _ _ hs => { hs with parseDepth := congrArg (· + 1) hs.parseDepth })
    fun _ _ hs => { hs with parseDepth := congrArg (· - 1) hs.parseDepth }

variable {env : Observed ω} {v u : Value}

theorem inString {c : Rendering ω α} {d : Rendering ω β} (h : p.Renders R c d) :
    p.Renders R (Rendering.inString env c) (Rendering.inString env d) :=
  bind (report env _ _) fun _ _ _ => bind h fun _ _ hr =>
    bind (report env _ _) fun _ _ _ => pure hr

theorem display (env : Observed ω) (h : p.Same v u) :
    p.Renders Eq (Rendering.display env v) (Rendering.display env u) :=
  use env (.get fun _ _ hs => .pure (h.display hs _)) _ _

theorem isTruthy (h : p.Same v u) :
    p.Renders Eq (Rendering.isTruthy v : Rendering ω Bool) (Rendering.isTruthy u) :=
  get fun _ _ hs => pure (h.isTruthy hs.store)

theorem lookUp (env : Observed ω) (name : String) :
    p.Renders p.Same (Rendering.lookUp env name) (Rendering.lookUp env name) :=
  bind (report env _ _) fun _ _ _ => get fun _ _ hs => pure (hs.scopes.get? name).getD

theorem print (env : Observed ω) (text : String) :
    p.Renders Eq (Rendering.print env text) (Rendering.print env text) :=
  bind (report env _ _) fun _ _ _ => pure rfl

theorem load (env : Observed ω) (name : String) :
    p.Renders Eq (Rendering.load env name) (Rendering.load env name) := by
  refine bind (report env _ _) fun _ _ _ => get fun s t hs =>
    bind (update fun s t hs => ?_) fun _ _ _ => ?_
  · exact { hs with requests := congrArg (Array.push · name) hs.requests }
  · rw [hs.requests]
    split
    · exact pure rfl
    · split
      · exact pure rfl
      · exact throw _

theorem follow (hh : p.Serves env.hosts) (names : List String) (h : p.Same v u) :
    p.Renders p.Same (Rendering.follow env names v) (Rendering.follow env names u) := by
  induction names generalizing v u with
  | nil => exact pure h
  | cons name names ih => exact bind (onStore (.property hh h name)) fun _ _ h => ih h.getD

theorem assign (hh : p.Serves env.hosts) (name : String) (path : List String)
    (h : p.Same v u) :
    p.Renders Eq (Rendering.assign env name path v) (Rendering.assign env name path u) := by
  cases path with
  | nil => exact update fun _ _ hs => hs.set name h
  | cons first more =>
      refine get fun s t hs => bind (follow hh _ (hs.scopes.get? name).getD) fun _ _ ht => ?_
      exact use env (.writeProperty hh ht _ h) _ _

theorem define (ds : List Definition) :
    p.Renders Eq (modify (State.define ds) : Rendering ω PUnit) (modify (State.define ds)) :=
  update fun _ _ hs => { hs with definitions := congrArg (·.defineAll ds) hs.definitions }

/-! ### Loops -/

theorem pass {i j : Nat} (hij : p.loops.At i j) (item : String) (index : Nat) (h : p.Same v u)
    {c d : Rendering ω Rendered} (hc : p.Renders Eq c d) :
    p.Renders Eq (Rendering.pass item i index v c) (Rendering.pass item j index u d) := by
  refine inScope (bind (update fun _ _ hs => ?_) fun _ _ _ => hc)
  exact hs.setAll _ (.cons h (.cons (.loop hij) (.cons (.number _) .nil)))

theorem passes {i j : Nat} (hij : p.loops.At i j) (item : String) {c d : Rendering ω Rendered}
    (hc : p.Renders Eq c d) (remaining index : Nat) {items items' : Items}
    (h : p.SameRun items items') (before : String) :
    p.Renders Eq (Rendering.passes item i c remaining index items before)
      (Rendering.passes item j d remaining index items' before) := by
  induction remaining generalizing index items items' before with
  | zero => exact pure rfl
  | succ remaining ih =>
      have next := h.next?
      simp only [Rendering.passes]
      generalize items.next? = x at next
      generalize items'.next? = y at next
      cases next with
      | none => exact pure rfl
      | some next =>
          obtain ⟨hv, hr⟩ := next
          dsimp only
          rw [hr.isEmpty]
          have advanced (l m : LoopState) (h : p.SameLoop l m) (hasNext : Bool) :
              p.SameLoop (l.advance index hasNext) (m.advance index hasNext) :=
            ⟨rfl, rfl, h.stopped, h.parent⟩
          refine bind (onStore (.updateLoop hij fun _ _ h => advanced _ _ h _)) fun _ _ _ => ?_
          refine bind (pass hij item index hv hc) fun r _ hr' => ?_
          subst hr'
          split
          · exact pure rfl
          · exact pure rfl
          · refine get fun s t hs => ?_
            rw [(hs.store.loopState hij).stopped]
            split
            · exact pure rfl
            · exact ih _ hr _

theorem forEach (limit : Nat) (item : String) {items items' : Items} (h : p.SameRun items items')
    {c d c' d' : Rendering ω Rendered} (hc : p.Renders Eq c d) (hc' : p.Renders Eq c' d') :
    p.Renders Eq (Rendering.forEach limit item items c c')
      (Rendering.forEach limit item items' d d') := by
  simp only [Rendering.forEach, h.isEmpty]
  split
  · exact hc'
  · exact inLoop fun i j hij => passes hij item hc limit 0 h ""

/-! ### Frames -/

theorem andThen {c d c' d' : Rendering ω Rendered} (hc : p.Renders Eq c d)
    (hc' : p.Renders Eq c' d') :
    p.Renders Eq (Rendering.andThen c c') (Rendering.andThen d d') := by
  refine bind hc fun r _ hr => ?_
  subst hr
  split
  · refine bind hc' fun r' _ hr' => ?_
    subst hr'
    exact pure rfl
  · exact pure rfl

theorem absorbLeave {c d : Rendering ω Rendered} (hc : p.Renders Eq c d) :
    p.Renders Eq (do return (← c).absorbLeave) (do return (← d).absorbLeave) :=
  bind hc fun _ _ h => pure (congrArg _ h)

variable {deeper : Frame → Rendering ω Rendered}
  (hd : ∀ frame, p.Renders Eq (deeper frame) (deeper frame))

include hd

theorem call (d : Definition) {arguments arguments' : Rendering ω (List Value)}
    (ha : p.Renders p.SameItems arguments arguments') :
    p.Renders Eq (Rendering.call env deeper d arguments)
      (Rendering.call env deeper d arguments') := by
  refine get fun s t hs => ?_
  rw [hs.callDepth]
  split
  · exact pure rfl
  · refine bind ha fun _ _ hv => inScope (bind (update fun _ _ hs => hs.setAll _ hv) fun _ _ _ => ?_)
    exact absorbLeave (inCall (hd _))

theorem nested (source : String) :
    p.Renders Eq (Rendering.nested env deeper source) (Rendering.nested env deeper source) := by
  simp only [Rendering.nested]
  split
  · exact throw _
  · exact inParse (hd _)

theorem nestedResource (name : String) :
    p.Renders Eq (Rendering.nestedResource env deeper name)
      (Rendering.nestedResource env deeper name) := by
  refine bind (load env name) fun source _ h => ?_
  subst h
  split
  · exact nested hd _
  · exact pure rfl

omit hd in
theorem ifMayParse {c d : Rendering ω Rendered} (h : p.Renders Eq c d) :
    p.Renders Eq (Rendering.ifMayParse env c) (Rendering.ifMayParse env d) := by
  refine get fun s t hs => ?_
  rw [hs.parseDepth]
  split
  · exact h
  · exact pure rfl

omit hd in
theorem embedResource (name : String) :
    p.Renders Eq (Rendering.embedResource env name) (Rendering.embedResource env name) := by
  refine bind (load env name) fun source _ h => ?_
  subst h
  split
  · exact print env _
  · exact pure rfl

end Renders

/-! ### Expressions and nodes -/

/-- What renders a frame repeats itself, and so do the methods of the host. -/
structure Repeats (p : Placement) (env : Observed ω) (deeper : Frame → Rendering ω Rendered) :
    Prop where
  serves : p.Serves env.hosts
  frame : ∀ frame, p.Renders Eq (deeper frame) (deeper frame)

namespace Repeats

open Renders

variable {env : Observed ω} {deeper : Frame → Rendering ω Rendered}

mutual

theorem evaluate (hd : p.Repeats env deeper) : (e : Tree.Expr) →
    p.Renders p.Same (Rendering.evaluate env deeper e) (Rendering.evaluate env deeper e)
  | .literal literal _ => by
      simp only [Rendering.evaluate]
      cases literal with
      | null => exact pure .null
      | bool b => exact pure (.bool b)
      | number x => exact pure (.number x)
      | text t => exact pure (.text t)
  | .interpolated nodes _ => by
      simp only [Rendering.evaluate]
      exact bind (inString (hd.renderNodes nodes)) fun _ _ h => h ▸ pure (.text _)
  | .reference name _ _ => by
      simp only [Rendering.evaluate]
      exact lookUp env name
  | .member object name _ => by
      simp only [Rendering.evaluate]
      exact bind (hd.evaluate object) fun _ _ h =>
        bind (onStore (.property hd.serves h name)) fun _ _ h => pure h.getD
  | .call callee arguments _ => by
      cases callee with
      | member object name _ =>
          simp only [Rendering.evaluate]
          exact bind (hd.evaluate object) fun _ _ h =>
            bind (hd.evaluateAll arguments) fun _ _ ha =>
              bind (use env (.invoke hd.serves h name ha) _ _) fun _ _ h => pure h.getD
      | _ =>
          simp only [Rendering.evaluate]
          exact pure .null
  | .index container key _ => by
      simp only [Rendering.evaluate]
      exact bind (hd.evaluate container) fun _ _ h =>
        bind (hd.evaluate key) fun _ _ hk =>
          bind (use env (.index hd.serves h hk) _ _) fun _ _ h => pure h.getD
  | .map entries _ => by
      simp only [Rendering.evaluate]
      exact bind (hd.evaluateEntries entries) fun _ _ h => onStore (.newMap h.ofPairs)
  | .list elements _ => by
      simp only [Rendering.evaluate]
      exact bind (hd.evaluateAll elements) fun _ _ h => onStore (.newList h)
  | .range first last _ => by
      simp only [Rendering.evaluate]
      exact bind (hd.evaluate first) fun _ _ hf =>
        bind (hd.evaluate last) fun _ _ hl => onStore (.newList (SameRun.between hf hl).toList)
  | .binary op left right _ => by
      have hl := hd.evaluate left
      have hr := hd.evaluate right
      cases op with
      | conj | disj =>
          simp only [Rendering.evaluate]
          refine bind hl fun _ _ h => bind (isTruthy h) fun b _ hb => ?_
          subst hb
          split
          all_goals first
            | exact pure (.bool _)
            | exact bind hr fun _ _ h => bind (isTruthy h) fun _ _ hb => hb ▸ pure (.bool _)
      | _ =>
          simp only [Rendering.evaluate]
          exact bind hl fun _ _ h => bind hr fun _ _ h' =>
            use env (.get fun _ _ hs => .pure (h.binary hs _ _ h')) _ _
  | .unary op operand _ => by
      simp only [Rendering.evaluate]
      exact bind (hd.evaluate operand) fun _ _ h => get fun _ _ hs => pure (h.unary hs.store op)
  | .ternary condition thenCase elseCase _ => by
      simp only [Rendering.evaluate]
      refine bind (hd.evaluate condition) fun _ _ h => bind (isTruthy h) fun b _ hb => ?_
      subst hb
      split
      · exact hd.evaluate thenCase
      · exact hd.evaluate elseCase

theorem evaluateAll (hd : p.Repeats env deeper) : (es : List Tree.Expr) →
    p.Renders p.SameItems (Rendering.evaluateAll env deeper es) (Rendering.evaluateAll env deeper es)
  | [] => by
      simp only [Rendering.evaluateAll]
      exact pure .nil
  | e :: es => by
      simp only [Rendering.evaluateAll]
      exact bind (hd.evaluate e) fun _ _ h =>
        bind (hd.evaluateAll es) fun _ _ hs => pure (.cons h hs)

theorem evaluateEntries (hd : p.Repeats env deeper) : (entries : List (String × Tree.Expr)) →
    p.Renders p.SameEntries (Rendering.evaluateEntries env deeper entries)
      (Rendering.evaluateEntries env deeper entries)
  | [] => by
      simp only [Rendering.evaluateEntries]
      exact pure .nil
  | (name, e) :: rest => by
      simp only [Rendering.evaluateEntries]
      exact bind (hd.evaluate e) fun _ _ h =>
        bind (hd.evaluateEntries rest) fun _ _ hs => pure (.cons ⟨rfl, h⟩ hs)

theorem renderNode (hd : p.Repeats env deeper) : (n : Tree.Node) →
    p.Renders Eq (Rendering.renderNode env deeper n) (Rendering.renderNode env deeper n)
  | .text content _ => by
      simp only [Rendering.renderNode]
      exact print env content
  | .interpolation e quiet source _ => by
      simp only [Rendering.renderNode]
      refine bind (hd.evaluate e) fun _ _ h => ?_
      rw [h.isNull]
      split
      · exact bind (pure rfl) fun _ _ h => h ▸ print env _
      · exact bind (display env h) fun _ _ h => h ▸ print env _
  | .conditional branches otherwise _ => by
      simp only [Rendering.renderNode]
      exact hd.renderBranches (hd.renderOtherwise otherwise) branches
  | .assign name path e _ => by
      simp only [Rendering.renderNode]
      exact bind (hd.evaluate e) fun _ _ h =>
        bind (assign hd.serves name path h) fun _ _ _ => pure rfl
  | .loop item iterable body otherwise _ => by
      have hb := hd.renderNodes body
      have ho := hd.renderOtherwise otherwise
      have whole := hd.evaluate iterable
      cases iterable with
      | range first last _ =>
          simp only [Rendering.renderNode]
          exact bind (hd.evaluate first) fun _ _ hf => bind (hd.evaluate last) fun _ _ hl =>
            forEach _ item (.between hf hl) hb ho
      | _ =>
          simp only [Rendering.renderNode]
          exact bind whole fun _ _ h => get fun _ _ hs => forEach _ item (.ofValue hs.store h) hb ho
  | .leave _ => by
      simp only [Rendering.renderNode]
      exact pure rfl
  | .stop _ => by
      simp only [Rendering.renderNode]
      exact pure rfl
  | .define name parameters body _ => by
      simp only [Rendering.renderNode]
      exact bind (define _) fun _ _ _ => pure rfl
  | .macroCall name arguments source _ => by
      simp only [Rendering.renderNode]
      refine get fun s t hs => ?_
      rw [hs.definitions]
      split
      · exact call hd.frame _ (hd.evaluateAll arguments)
      · exact print env source
  | .evaluate argument _ => by
      simp only [Rendering.renderNode]
      exact bind (bind (hd.evaluate argument) fun _ _ h => display env h) fun _ _ h =>
        h ▸ ifMayParse (nested hd.frame _)
  | .parse argument _ => by
      simp only [Rendering.renderNode]
      exact bind (bind (hd.evaluate argument) fun _ _ h => display env h) fun _ _ h =>
        h ▸ ifMayParse (nestedResource hd.frame _)
  | .embed arguments _ => by
      simp only [Rendering.renderNode]
      exact hd.embedAll arguments

theorem renderNodes (hd : p.Repeats env deeper) : (ns : List Tree.Node) →
    p.Renders Eq (Rendering.renderNodes env deeper ns) (Rendering.renderNodes env deeper ns)
  | [] => by
      simp only [Rendering.renderNodes]
      exact pure rfl
  | n :: ns => by
      simp only [Rendering.renderNodes]
      exact andThen (bind (report env _ _) fun _ _ _ => hd.renderNode n) (hd.renderNodes ns)

theorem renderBranches (hd : p.Repeats env deeper) {c d : Rendering ω Rendered}
    (ho : p.Renders Eq c d) : (branches : List Tree.Branch) →
      p.Renders Eq (Rendering.renderBranches env deeper c branches)
        (Rendering.renderBranches env deeper d branches)
  | [] => by
      simp only [Rendering.renderBranches]
      exact ho
  | .mk condition body :: rest => by
      simp only [Rendering.renderBranches]
      refine bind (hd.evaluate condition) fun _ _ h => bind (isTruthy h) fun b _ hb => ?_
      subst hb
      split
      · exact hd.renderNodes body
      · exact hd.renderBranches ho rest

theorem renderOtherwise (hd : p.Repeats env deeper) : (otherwise : Option (List Tree.Node)) →
    p.Renders Eq (Rendering.renderOtherwise env deeper otherwise)
      (Rendering.renderOtherwise env deeper otherwise)
  | none => by
      simp only [Rendering.renderOtherwise]
      exact pure rfl
  | some body => by
      simp only [Rendering.renderOtherwise]
      exact hd.renderNodes body

theorem embedAll (hd : p.Repeats env deeper) : (es : List Tree.Expr) →
    p.Renders Eq (Rendering.embedAll env deeper es) (Rendering.embedAll env deeper es)
  | [] => by
      simp only [Rendering.embedAll]
      exact pure rfl
  | e :: es => by
      simp only [Rendering.embedAll]
      refine andThen (bind (bind (hd.evaluate e) fun _ _ h => display env h) fun _ _ h => ?_)
        (hd.embedAll es)
      exact h ▸ embedResource _

end

theorem renderDocument (hd : p.Repeats env deeper) (d : Document) :
    p.Renders Eq (Rendering.renderDocument env deeper d) (Rendering.renderDocument env deeper d) := by
  have whole : p.Renders p.Same (Rendering.wholeValue env deeper d.expression)
      (Rendering.wholeValue env deeper d.expression) := by
    cases d.expression with
    | none => exact pure .null
    | some e => exact hd.evaluate e
  simp only [Rendering.renderDocument]
  refine bind (define _) fun _ _ _ => bind whole fun _ _ h => ?_
  rw [h.isNull]
  split
  · exact absorbLeave (hd.renderNodes d.nodes)
  · exact bind (display env h) fun _ _ h => h ▸ print env _

end Repeats

/-- A render goes the same way from all states that differ only in where things stand. -/
theorem Renders.renderFrame {env : Observed ω} (hh : p.Serves env.hosts) (frames : Nat)
    (frame : Frame) :
    p.Renders Eq (Rendering.renderFrame env frames frame)
      (Rendering.renderFrame env frames frame) := by
  induction frames generalizing frame with
  | zero => exact .pure rfl
  | succ frames ih =>
      have deeper : p.Repeats env (Rendering.renderFrame env frames) := ⟨hh, ih⟩
      cases frame with
      | body nodes => exact deeper.renderNodes nodes
      | document d => exact deeper.renderDocument d

end Template.Placement

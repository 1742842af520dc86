import Template.Proofs.Render.Follow
import Template.Proofs.Render.Tolerance

/-!
Limits that are not hit. If no loop has more items than it may have passes, and no call and no
template is skipped because it is nested too deep, then a render is the same with higher limits.
-/

namespace Template

/-- The same environment with other limits on passes, calls and parsed templates. -/
def Environment.withLimits (passes calls parses : Nat) (env : Environment) : Environment :=
  { env with options :=
    { env.options with maxPasses := passes, maxCallDepth := calls, maxParseDepth := parses } }

/-- Limits of renders make no difference to what is compiled. -/
theorem Environment.compile_withLimits (passes calls parses : Nat) (env : Environment) :
    Document.compile (env.withLimits passes calls parses).options = Document.compile env.options :=
  rfl

namespace Rendering

section

variable {ω : Type} {body otherwise : Rendering ω Rendered} {items : Items} {m n : Nat}

/-- Passes that suffice for all items are as good as others that do. -/
theorem passes_eq_of_length_le (hm : items.toList.length ≤ m) (hn : items.toList.length ≤ n)
    (item : String) (number index : Nat) (before : String) :
    passes item number body m index items before =
      passes item number body n index items before := by
  induction m generalizing n index items before with
  | zero =>
      cases n with
      | zero => rfl
      | succ n =>
          cases next : items.next? with
          | none => simp only [passes, next]
          | some found => simp [Items.toList_of_some next] at hm
  | succ m ih =>
      cases next : items.next? with
      | none =>
          cases n with
          | zero => simp only [passes, next]
          | succ n => simp only [passes, next]
      | some found =>
          obtain ⟨value, rest⟩ := found
          rw [Items.toList_of_some next, List.length_cons] at hm hn
          obtain ⟨n, rfl⟩ := Nat.exists_eq_add_one.2 (Nat.zero_lt_of_lt hn)
          have hm' := Nat.le_of_succ_le_succ hm
          have hn' := Nat.le_of_succ_le_succ hn
          have hasNext : (!rest.isEmpty && decide (0 < m)) = (!rest.isEmpty && decide (0 < n)) := by
            rw [Items.isEmpty_eq]
            cases more : rest.toList with
            | nil => rfl
            | cons v vs =>
                rw [more, List.length_cons] at hm' hn'
                simp [Nat.zero_lt_of_lt hm', Nat.zero_lt_of_lt hn']
          simp only [passes, next, hasNext, ih hm' hn']

theorem forEach_eq_of_length_le (hm : items.toList.length ≤ m) (hn : items.toList.length ≤ n)
    (item : String) :
    forEach m item items body otherwise = forEach n item items body otherwise := by
  cases empty : items.isEmpty with
  | true => simp only [forEach, empty, Bool.true_or, if_true]
  | false =>
      have some : 0 < items.toList.length := by
        rw [Items.isEmpty_eq] at empty
        exact List.length_pos_iff.2 (List.isEmpty_eq_false_iff.1 empty)
      have hm' : (m == 0) = false := beq_false_of_ne (some.trans_le hm).ne'
      have hn' : (n == 0) = false := beq_false_of_ne (some.trans_le hn).ne'
      simp only [forEach, empty, hm', hn', passes_eq_of_length_le hm hn]

end

/-- From the state no limit gets in the way of the node: a loop has no more items than it may have
passes, and neither a call nor a template is skipped because it is nested too deep. -/
def Unhindered (env : Environment) : Tree.Node → State → Prop
  | .loop _ iterable _ _ _, s => ∀ items t,
      (loopItems env.unobserved (renderWhole env.unobserved) iterable s ()).1 = (.ok items, t) →
        items.length ≤ env.options.maxPasses
  | .macroCall name _ _ _, s => ∀ d, s.definitions.get? name = some d →
      s.callDepth < env.options.maxCallDepth
  | .evaluate argument _, s | .parse argument _, s => ∀ text t, Reads env s argument text t →
      s.parseDepth < env.options.maxParseDepth
  | _, _ => True

/-- What a loop goes through is the same if nobody looks on. -/
theorem startItems_alike {ω : Type} (env : Observed ω) (iterable : Tree.Expr) :
    Alike (startItems env (renderWhole env) iterable)
      (startItems env.toEnvironment.unobserved (renderWhole env.toEnvironment.unobserved)
        iterable) :=
  have frames := (unobserved_alike env).renderFrame (frameBound env.options)
  ((unobserved_alike env).walk frames).startItems iterable fun _ _ => trivial

theorem loopItems_of_startItems {ω : Type} {env : Observed ω} {iterable : Tree.Expr}
    {items : Items} {s t : State} {w : ω}
    (h : (startItems env (renderWhole env) iterable s w).1 = (.ok items, t)) :
    (loopItems env.toEnvironment.unobserved (renderWhole env.toEnvironment.unobserved) iterable s
      ()).1 = (.ok items.toList, t) := by
  have started := (startItems_alike env iterable s w ()).symm.trans h
  rw [loopItems_eq, bind_run]
  generalize startItems env.toEnvironment.unobserved _ iterable s () = out at started ⊢
  obtain ⟨_, ⟨⟩⟩ := out
  cases started
  rfl

namespace Unhindered

variable {env : Environment} {passes calls parses k : Nat}
  (hp : env.options.maxPasses ≤ passes) (hc : env.options.maxCallDepth ≤ calls)
  (hq : env.options.maxParseDepth ≤ parses)

include hp hc hq

theorem walk
    (hd : ∀ f, ∀ j < k, Follows env.options j Eq (Rendered.Like Eq)
      (renderWhole (env.checking (Unhindered env)) f)
      (renderWhole (env.withLimits passes calls parses).unobserved f)) :
    Walk (env.checking (Unhindered env)) (env.withLimits passes calls parses).unobserved
      (renderWhole (env.checking (Unhindered env)))
      (renderWhole (env.withLimits passes calls parses).unobserved) (fun _ => True)
      (Follows env.options k Eq Eq) (Follows env.options k Eq (Rendered.Like Eq)) :=
  have alike (source : String) : CompilesAlike (Unhindered env) env
      (env.withLimits passes calls parses) k Eq (Rendered.Like Eq) source := by
    unfold CompilesAlike
    rw [env.compile_withLimits]
    cases Document.compile env.options source with
    | error e => exact .error e
    | ok d => exact .ok (hd (.document d))
  have hosts : env.hosts = (env.withLimits passes calls parses).hosts := rfl
  have loader : env.loader = (env.withLimits passes calls parses).loader := rfl
  have tolerant : env.options.tolerant = (env.withLimits passes calls parses).options.tolerant :=
    rfl
  have parsed {s : State} (free : s.parseDepth < env.options.maxParseDepth) :
      s.parseDepth < env.options.maxParseDepth ↔
        s.parseDepth < (env.withLimits passes calls parses).options.maxParseDepth :=
    iff_of_true free (free.trans_le hq)
  have elements : Elements (env.checking (Unhindered env))
      (env.withLimits passes calls parses).unobserved (Follows env.options k Eq Eq)
      (Follows env.options k Eq (Rendered.Like Eq)) := Follows.elements hosts
  { elements with
    define := fun ds _ _ => .define fun t t' same => same ▸ rfl
    loop := fun item {iterable body otherwise} place _ hi hb ho => by
      have loops (items : Items) := Follows.forEach .eq env.options.maxPasses item items hb ho
      simp only [visitNode, renderNode_loop]
      refine .checked (hi.persists.bind fun items => (loops items).persists)
        fun s t unhindered room beside => ?_
      refine .bind (fun items => (loops items).persists) (hi.follows s t room beside) ?_
      rintro items _ s' t' rfl returns beside ⟨passed, started⟩
      have few : items.toList.length ≤ env.options.maxPasses :=
        unhindered _ _ (loopItems_of_startItems started)
      have more : items.toList.length ≤
          (env.withLimits passes calls parses).unobserved.options.maxPasses := few.trans hp
      rw [forEach_eq_of_length_le more few]
      exact (loops items).follows s' t' (returns.room_eq env.options ▸ room) beside
    macroCall := fun name arguments source place _ ha => by
      refine .macroCall .eq ha ?_
      rintro s ds unhindered rfl
      cases found : s.definitions.get? name with
      | none => exact .none
      | some d =>
          have free := unhindered d found
          exact .some ⟨iff_of_true free (free.trans_le hc), rfl, hd (.body d.body)⟩
    evaluateNode := fun place _ ha => by
      refine .evaluateNode (Texts.eq.like _) hosts ha
        (fun s text t unhindered reads => ?_) fun s source _ _ _ _ => alike source
      exact parsed (unhindered text t reads)
    parse := fun place _ ha => by
      refine .parseNode (Texts.eq.like _) hosts ha loader tolerant
        (fun s text t unhindered reads => ?_) fun s _ source _ _ _ _ _ => alike source
      exact parsed (unhindered text t reads)
    embed := fun place _ ha => elements.embed (.embedResource .eq loader tolerant) ha }

/-- What is left of the depths decreases from frame to frame. -/
theorem frame (k : Nat) (f : Frame) : Follows env.options k Eq (Rendered.Like Eq)
    (renderWhole (env.checking (Unhindered env)) f)
    (renderWhole (env.withLimits passes calls parses).unobserved f) := by
  rw [renderWhole_eq (env.checking _), renderWhole_eq (env.withLimits ..).unobserved]
  exact (walk hp hc hq fun f j _ => frame j f).runFrame f fun _ _ => trivial
termination_by k

end Unhindered

end Rendering

open Rendering in
/-- Limits cannot be noticed until they are hit. If no loop of a render has more items than it may
have passes, and neither a call nor a template is skipped for its depth, then the render is the same
with higher limits: its text or error, the methods that it calls, and what it asks the loader for.
-/
theorem render_withLimits (env : Environment) {passes calls parses : Nat}
    (hp : env.options.maxPasses ≤ passes) (hc : env.options.maxCallDepth ≤ calls)
    (hq : env.options.maxParseDepth ≤ parses) :
    Document.compile (env.withLimits passes calls parses).options =
        Document.compile env.options ∧
      ∀ (context : Context) (d : Document) (store : Store),
        (∀ n s, .node n s ∈ d.events env context store → Unhindered env n s) →
        d.render (env.withLimits passes calls parses) context store =
          d.render env context store := by
  refine ⟨env.compile_withLimits .., fun context d store unhindered => ?_⟩
  have follows (k : Nat) := Unhindered.frame hp hc hq k (.document d)
  have start : Definitions.empty env.options.allowRedefinition =
    .empty (env.withLimits passes calls parses).options.allowRedefinition := rfl
  obtain ⟨s, -, ended, beside⟩ := Document.run_followed unhindered start follows
  refine Document.render_eq_of_run (Prod.ext ?_ ?_)
  · exact (ended.mono fun _ _ => Rendered.Like.eq).eq.symm
  · obtain ⟨ds, same, state⟩ := beside
    rw [state, ← same]

/-- A loop with one pass and a call. -/
def Document.onePassOneCall : Document :=
  { nodes :=
      [.loop "i" (.literal (.text "x") default) [.text "a" default] none default,
        .define "m" [] [.text "b" default] default,
        .macroCall "m" [] "#m()" default]
    expression := none }

/-- Calls are made outside calls, loops go through a single text, and nothing else can be limited.
-/
def Event.isModest : Event → Bool
  | .node (.loop _ (.literal (.text _) _) _ _ _) _ => true
  | .node (.macroCall _ _ _ _) s => s.callDepth == 0
  | .node (.loop _ _ _ _ _) _ | .node (.evaluate _ _) _ | .node (.parse _ _) _ => false
  | _ => true

/-- The loop has as many passes as it may have, and the call is as deep as it may be. -/
theorem render_withLimits_reached :
    let env : Environment :=
      ⟨{ Options.standard with maxPasses := 1, maxCallDepth := 1 }, .none, .none⟩
    Document.onePassOneCall.render (env.withLimits 1000 20 10) .empty .empty =
        Document.onePassOneCall.render env .empty .empty ∧
      (Document.onePassOneCall.render env .empty .empty).result.toOption = some "ab" := by
  intro env
  refine ⟨(render_withLimits env (by decide) (by decide) (by decide)).2 .empty .onePassOneCall
    .empty fun n s h => ?_, by decide +kernel⟩
  have modest : (Document.onePassOneCall.events env .empty .empty).all Event.isModest = true := by
    decide +kernel
  have checked := List.all_eq_true.1 modest _ h
  unfold Event.isModest at checked
  split at checked
  next found =>
    cases found
    rintro items t once
    cases once
    exact Nat.le_refl 1
  next found =>
    cases found
    exact fun _ _ => Nat.lt_one_iff.2 (beq_iff_eq.1 checked)
  · cases checked
  · cases checked
  · cases checked
  next loop call loop' evaluate parse =>
    cases n with
    | loop => exact (loop' _ _ _ _ _ _ rfl).elim
    | macroCall => exact (call _ _ _ _ _ rfl).elim
    | evaluate => exact (evaluate _ _ _ rfl).elim
    | parse => exact (parse _ _ _ rfl).elim
    | _ => trivial

end Template

import Template.Proofs.Render.Agreement

/-!
Scopes, loops and depths of a render. Whatever is rendered leaves them as they were, however it
ends, and a node is rendered only where every open loop and every open call has its scope.
-/

namespace Template

/-- The scopes around the innermost one. -/
def Scopes.outer (s : Scopes) : List (Entries Value) := s.all.tail

theorem Scopes.outer_set (name : String) (value : Value) (s : Scopes) :
    (s.set name value).outer = s.outer := by
  simp only [Scopes.set, Scopes.outer, Scopes.all]
  split <;> simp_all

theorem Scopes.pop_of_outer {s t : Scopes} (hd : t.depth = s.depth + 1)
    (ho : t.outer = s.push.outer) : t.pop = .ok s := by
  obtain ⟨inner, global⟩ := t
  cases inner with
  | nil =>
      simp only [Scopes.depth, List.length_nil] at hd
      omega
  | cons scope rest =>
      obtain ⟨hi, hg⟩ := List.append_inj' (show rest ++ [global] = s.inner ++ [s.global] from ho) rfl
      cases s
      simp_all [Scopes.pop]

namespace State

/-- The second state has the scopes of the first, but for what the innermost one holds, and the
same loops and depths. -/
structure Returns (s t : State) : Prop where
  outer : t.scopes.outer = s.scopes.outer
  depth : t.scopes.depth = s.scopes.depth
  loops : t.loops = s.loops
  callDepth : t.callDepth = s.callDepth
  parseDepth : t.parseDepth = s.parseDepth

theorem Returns.refl (s : State) : s.Returns s := ⟨rfl, rfl, rfl, rfl, rfl⟩

theorem Returns.trans {s t u : State} (h : s.Returns t) (h' : t.Returns u) : s.Returns u :=
  ⟨h'.outer.trans h.outer, h'.depth.trans h.depth, h'.loops.trans h.loops,
    h'.callDepth.trans h.callDepth, h'.parseDepth.trans h.parseDepth⟩

theorem returns_set (name : String) (value : Value) (s : State) :
    s.Returns (s.set name value) :=
  ⟨Scopes.outer_set name value s.scopes, Scopes.depth_set name value s.scopes, rfl, rfl, rfl⟩

theorem returns_setAll (names : List String) (values : List Value) (s : State) :
    s.Returns (s.setAll names values) := by
  induction names generalizing values s with
  | nil => exact .refl s
  | cons name names ih => exact (returns_set _ _ s).trans (ih _ _)

section

variable {s t : State}

theorem Returns.exitLoop {number : Nat} (h : (s.enterLoop number).Returns t) :
    s.Returns t.exitLoop :=
  ⟨h.outer, h.depth, by simp [State.exitLoop, h.loops, enterLoop], h.callDepth, h.parseDepth⟩

theorem Returns.exitCall (h : s.enterCall.Returns t) : s.Returns t.exitCall :=
  ⟨h.outer, h.depth, h.loops, by simp [State.exitCall, h.callDepth, enterCall], h.parseDepth⟩

theorem Returns.exitParse (h : s.enterParse.Returns t) : s.Returns t.exitParse :=
  ⟨h.outer, h.depth, h.loops, h.callDepth, by simp [State.exitParse, h.parseDepth, enterParse]⟩

end

/-- Every open loop and every open call has a scope, and the limits are kept. -/
structure Balanced (options : Options) (s : State) : Prop where
  scopes : s.scopes.depth = 1 + s.loops.length + s.callDepth
  calls : s.callDepth ≤ options.maxCallDepth
  parses : s.parseDepth ≤ options.maxParseDepth

theorem Balanced.of_returns {options : Options} {s t : State} (hs : s.Balanced options)
    (h : s.Returns t) : t.Balanced options := by
  obtain ⟨h₁, h₂, h₃⟩ := hs
  exact ⟨by rw [h.depth, h.loops, h.callDepth, h₁], by rw [h.callDepth]; exact h₂,
    by rw [h.parseDepth]; exact h₃⟩

theorem balanced_initial (options : Options) (global : Entries Value) (store : Store) :
    (initial options global store).Balanced options :=
  ⟨rfl, Nat.zero_le _, Nat.zero_le _⟩

/-- Balanced once a scope has been opened for what was entered last. -/
def BalancedInScope (options : Options) (s : State) : Prop :=
  Balanced options { s with scopes := s.scopes.push }

theorem BalancedInScope.of_returns {options : Options} {s t : State}
    (hs : s.BalancedInScope options) (h : s.Returns t) : t.BalancedInScope options := by
  obtain ⟨h₁, h₂, h₃⟩ := hs
  refine ⟨?_, by rw [h.callDepth]; exact h₂, by rw [h.parseDepth]; exact h₃⟩
  simp only [Scopes.depth_push] at h₁ ⊢
  rw [h.depth, h.loops, h.callDepth, h₁]

end State

/-- A node is rendered from a balanced state; other events have none. -/
def Event.Balanced (options : Options) : Event → Prop
  | .node _ s => s.Balanced options
  | _ => True

namespace Rendering

open State

/-- The scope that was opened can be closed. -/
theorem closeScope_of_returns {α : Type} {s : State} {out : Except RenderError α × State}
    (h : Returns { s with scopes := s.scopes.push } out.2) :
    closeScope out = (out.1, { out.2 with scopes := s.scopes }) := by
  have hp : out.2.scopes.pop = .ok s.scopes := Scopes.pop_of_outer h.depth h.outer
  simp only [closeScope, hp]

/-- What a run from `s` leaves: the state it came from and no error of scopes. If `B` holds then an
observer that has kept `I` still keeps it. -/
structure SteadyRun {ω α : Type} (I : ω → Prop) (B : Prop) (s : State) (w : ω)
    (out : (Except RenderError α × State) × ω) : Prop where
  returns : s.Returns out.1.2
  noScopeError : ∀ e, out.1.1 ≠ .error (.scope e)
  keeps : B → I w → I out.2

/-- All runs of the computation are steady; `B` tells from where nodes may be rendered. -/
def Steady {ω α : Type} (I : ω → Prop) (B : State → Prop) (c : Rendering ω α) : Prop :=
  ∀ s w, SteadyRun I (B s) s w (c s w)

namespace Steady

variable {ω α β : Type} {I : ω → Prop} {B : State → Prop} {options : Options}

theorem mono {B' : State → Prop} {c : Rendering ω α} (hB : ∀ s, B' s → B s)
    (hc : Steady I B c) : Steady I B' c := fun s w =>
  let h := hc s w
  ⟨h.returns, h.noScopeError, fun hs => h.keeps (hB s hs)⟩

theorem pure (a : α) : Steady I B (Pure.pure a : Rendering ω α) :=
  fun s _ => ⟨.refl s, fun _ => nofun, fun _ hw => hw⟩

theorem throw {e : RenderError} (he : ∀ e', e ≠ .scope e') :
    Steady I B (throw e : Rendering ω α) :=
  fun s _ => ⟨.refl s, fun e' h => he e' (Except.error.inj h), fun _ hw => hw⟩

theorem bind {c : Rendering ω α} {f : α → Rendering ω β} (hB : ∀ {s t}, B s → s.Returns t → B t)
    (hc : Steady I B c) (hf : ∀ a, Steady I B (f a)) : Steady I B (c >>= f) := by
  intro s w
  have h := hc s w
  rw [bind_run]
  generalize c s w = out at h ⊢
  obtain ⟨⟨r, s'⟩, w'⟩ := out
  cases r with
  | error e => exact ⟨h.returns, fun e' he => h.noScopeError e' (by cases he; rfl), h.keeps⟩
  | ok a =>
      have h' := hf a s' w'
      exact ⟨h.returns.trans h'.returns, h'.noScopeError, fun hs hw =>
        h'.keeps (hB hs h.returns) (h.keeps hs hw)⟩

theorem get : Steady I B (MonadState.get : Rendering ω State) :=
  fun s _ => ⟨.refl s, fun _ => nofun, fun _ hw => hw⟩

theorem update {f : State → State} (hf : ∀ s : State, s.Returns (f s)) :
    Steady I B (modify f : Rendering ω PUnit) :=
  fun s _ => ⟨hf s, fun _ => nofun, fun _ hw => hw⟩

theorem onStore (action : Action α) : Steady I B (Rendering.onStore action : Rendering ω α) :=
  fun _ _ => ⟨⟨rfl, rfl, rfl, rfl, rfl⟩, fun _ => nofun, fun _ hw => hw⟩

theorem report {env : Observed ω} {event : State → Event}
    (h : ∀ s w, B s → I w → I (env.observe (event s) w)) :
    Steady I B (Rendering.report env event) :=
  fun s w => ⟨.refl s, fun _ => nofun, h s w⟩

/-- What is entered and left again. -/
theorem around {enter exit : State → State} {B' : State → Prop} {c : Rendering ω α}
    (hr : ∀ s t, (enter s).Returns t → s.Returns (exit t)) (hB : ∀ s, B s → B' (enter s))
    (hc : Steady I B' c) : Steady I B (Rendering.around enter exit c) := by
  intro s w
  have h := hc (enter s) w
  exact ⟨hr s _ h.returns, h.noScopeError, fun hs hw => h.keeps (hB s hs) hw⟩

theorem inScope (B' : State → Prop) {c : Rendering ω α}
    (hB : ∀ s, B s → B' { s with scopes := s.scopes.push }) (hc : Steady I B' c) :
    Steady I B (Rendering.inScope c) := by
  intro s w
  have h := hc { s with scopes := s.scopes.push } w
  rw [inScope_run, closeScope_of_returns h.returns]
  exact ⟨⟨rfl, rfl, h.returns.loops, h.returns.callDepth, h.returns.parseDepth⟩,
    h.noScopeError, fun hs hw => h.keeps (hB s hs) hw⟩

/-- What is done depends on the state. -/
theorem branch {p : State → Prop} [DecidablePred p] {c c' : Rendering ω α}
    (hc : Steady I (fun s => B s ∧ p s) c) (hc' : Steady I (fun s => B s ∧ ¬p s) c') :
    Steady I B (MonadState.get >>= fun s => if p s then c else c') := by
  intro s w
  rw [bind_run, get_run]
  by_cases hp : p s
  · have h := hc s w
    simp only [hp, if_true]
    exact ⟨h.returns, h.noScopeError, fun hs => h.keeps ⟨hs, hp⟩⟩
  · have h := hc' s w
    simp only [hp, if_false]
    exact ⟨h.returns, h.noScopeError, fun hs => h.keeps ⟨hs, hp⟩⟩

theorem set (name : String) (value : Value) :
    Steady I B (modify (State.set name value) : Rendering ω PUnit) :=
  update (returns_set name value)

theorem setAll (names : List String) (values : List Value) :
    Steady I B (modify (State.setAll names values) : Rendering ω PUnit) :=
  update (returns_setAll names values)

variable {item : String} {number : Nat} {body : Rendering ω Rendered}

theorem pass (index : Nat) (value : Value) (hb : Steady I (Balanced options) body) :
    Steady I (BalancedInScope options) (Rendering.pass item number index value body) :=
  inScope _ (fun _ hs => hs) (bind .of_returns (setAll _ _) fun _ => hb)

/-- The passes of a loop that has been entered but has no scope open yet. -/
theorem passes (remaining index : Nat) (items : Items) (before : String)
    (hb : Steady I (Balanced options) body) :
    Steady I (BalancedInScope options)
      (Rendering.passes item number body remaining index items before) := by
  induction remaining generalizing index items before with
  | zero => exact pure _
  | succ remaining ih =>
      simp only [Rendering.passes]
      split
      · exact pure _
      · refine bind .of_returns (onStore _) fun _ => bind .of_returns (pass index _ hb) fun r => ?_
        split
        · exact pure _
        · exact pure _
        · refine bind .of_returns get fun s => ?_
          split
          · exact pure _
          · exact ih _ _ _

theorem forEach {otherwise : Rendering ω Rendered} (limit : Nat) (items : Items)
    (hb : Steady I (Balanced options) body) (ho : Steady I (Balanced options) otherwise) :
    Steady I (Balanced options) (Rendering.forEach limit item items body otherwise) := by
  simp only [Rendering.forEach]
  split
  · exact ho
  · refine bind .of_returns get fun s => bind .of_returns (onStore _) fun number => ?_
    refine around (fun _ _ => Returns.exitLoop) ?_ (passes limit 0 items "" hb)
    intro s hs
    refine ⟨?_, hs.calls, hs.parses⟩
    have h := hs.scopes
    simp only [Scopes.depth_push, enterLoop, List.length_cons] at h ⊢
    omega

theorem inCall {c : Rendering ω α} (hc : Steady I (Balanced options) c) :
    Steady I (fun s => s.enterCall.Balanced options) (Rendering.inCall c) :=
  around (fun _ _ => Returns.exitCall) (fun _ hs => hs) hc

variable {env : Observed ω} {deeper : Frame → Rendering ω Rendered}

/-- What a call does in its scope. -/
theorem callBody {d : Definition} (values : List Value)
    (hd : ∀ f, Steady I (Balanced options) (deeper f)) :
    Steady I (fun s => s.enterCall.Balanced options) (do
      modify (State.setAll d.parameters values)
      let r ← Rendering.inCall (deeper (.body d.body))
      return r.absorbLeave) := by
  have stable {s t : State} (hs : s.enterCall.Balanced options) (h : s.Returns t) :
      t.enterCall.Balanced options :=
    hs.of_returns ⟨h.outer, h.depth, h.loops, congrArg (· + 1) h.callDepth, h.parseDepth⟩
  exact bind stable (setAll _ _) fun _ => bind stable (inCall (hd _)) fun r => pure _

theorem call {d : Definition} {arguments : Rendering ω (List Value)}
    (hd : ∀ f, Steady I (Balanced env.options) (deeper f))
    (ha : Steady I (Balanced env.options) arguments) :
    Steady I (Balanced env.options) (Rendering.call env deeper d arguments) := by
  have stable {s t : State} (hs : s.Balanced env.options ∧ ¬env.options.maxCallDepth ≤ s.callDepth)
      (h : s.Returns t) : t.Balanced env.options ∧ ¬env.options.maxCallDepth ≤ t.callDepth :=
    ⟨hs.1.of_returns h, by rw [h.callDepth]; exact hs.2⟩
  refine branch (pure _) (bind stable (ha.mono fun _ => And.left) fun values => ?_)
  refine inScope (fun s => s.enterCall.Balanced env.options) ?_ (callBody values hd)
  intro s ⟨hs, hc⟩
  have h := hs.scopes
  refine ⟨?_, ?_, hs.parses⟩
  · simp only [enterCall, Scopes.depth_push]
    omega
  · simp only [enterCall]
    omega

theorem load (hI : ∀ event w, event.Balanced env.options → I w → I (env.observe event w))
    (hB : ∀ {s t}, B s → s.Returns t → B t) (name : String) :
    Steady I B (Rendering.load env name) := by
  refine bind hB (report fun _ w _ hw => hI (.request name) w trivial hw) fun _ =>
    bind hB get fun _ => bind hB (update fun _ => ⟨rfl, rfl, rfl, rfl, rfl⟩) fun _ => ?_
  split
  · exact pure _
  · split
    · exact pure _
    · exact throw (by simp)

theorem nested (source : String) (hd : ∀ f, Steady I (Balanced env.options) (deeper f)) :
    Steady I (fun s => s.Balanced env.options ∧ s.parseDepth < env.options.maxParseDepth)
      (Rendering.nested env deeper source) := by
  simp only [Rendering.nested]
  split
  · exact throw (by simp)
  · refine around (fun _ _ => Returns.exitParse) ?_ (hd _)
    rintro s ⟨hs, hp⟩
    exact ⟨hs.scopes, hs.calls, hp⟩

theorem nestedResource (hI : ∀ event w, event.Balanced env.options → I w → I (env.observe event w))
    (name : String) (hd : ∀ f, Steady I (Balanced env.options) (deeper f)) :
    Steady I (fun s => s.Balanced env.options ∧ s.parseDepth < env.options.maxParseDepth)
      (Rendering.nestedResource env deeper name) := by
  have stable {s t : State}
      (hs : s.Balanced env.options ∧ s.parseDepth < env.options.maxParseDepth)
      (h : s.Returns t) : t.Balanced env.options ∧ t.parseDepth < env.options.maxParseDepth :=
    ⟨hs.1.of_returns h, by rw [h.parseDepth]; exact hs.2⟩
  refine bind stable (load hI stable name) fun source => ?_
  split
  · exact nested _ hd
  · exact pure _

theorem ifMayParse {c : Rendering ω Rendered}
    (hc : Steady I (fun s => s.Balanced env.options ∧ s.parseDepth < env.options.maxParseDepth) c) :
    Steady I (Balanced env.options) (Rendering.ifMayParse env c) :=
  branch hc (pure _)

theorem event (hI : ∀ event w, event.Balanced env.options → I w → I (env.observe event w))
    {event : State → Event} (h : ∀ s, s.Balanced env.options → (event s).Balanced env.options) :
    Steady I (Balanced env.options) (Rendering.report env event) :=
  report fun s w hs hw => hI (event s) w (h s hs) hw

theorem lookUp (hI : ∀ event w, event.Balanced env.options → I w → I (env.observe event w))
    (name : String) : Steady I (Balanced env.options) (Rendering.lookUp env name) :=
  bind .of_returns (event hI fun _ _ => trivial) fun _ => bind .of_returns get fun _ => pure _

theorem inString (hI : ∀ event w, event.Balanced env.options → I w → I (env.observe event w))
    {c : Rendering ω α} (hc : Steady I (Balanced env.options) c) :
    Steady I (Balanced env.options) (Rendering.inString env c) :=
  bind .of_returns (event hI fun _ _ => trivial) fun _ => bind .of_returns hc fun _ =>
    bind .of_returns (event hI fun _ _ => trivial) fun _ => pure _

theorem print (hI : ∀ event w, event.Balanced env.options → I w → I (env.observe event w))
    (text : String) : Steady I (Balanced env.options) (Rendering.print env text) :=
  bind .of_returns (event hI fun _ _ => trivial) fun _ => pure _

theorem embedResource (hI : ∀ event w, event.Balanced env.options → I w → I (env.observe event w))
    (name : String) : Steady I (Balanced env.options) (Rendering.embedResource env name) := by
  refine bind .of_returns (load hI .of_returns name) fun source => ?_
  split
  · exact print hI _
  · exact pure _

theorem visit (hI : ∀ event w, event.Balanced env.options → I w → I (env.observe event w))
    (n : Tree.Node) {c : Rendering ω Rendered} (hc : Steady I (Balanced env.options) c) :
    Steady I (Balanced env.options) (Rendering.visit env n c) :=
  bind .of_returns (event hI fun _ hs => hs) fun _ => hc

theorem andThen {a b : Rendering ω Rendered} (ha : Steady I (Balanced options) a)
    (hb : Steady I (Balanced options) b) : Steady I (Balanced options) (Rendering.andThen a b) := by
  refine bind .of_returns ha fun r => ?_
  split
  · exact bind .of_returns hb fun _ => pure _
  · exact pure _

theorem absorbLeave {c : Rendering ω Rendered} (hc : Steady I (Balanced options) c) :
    Steady I (Balanced options) (do return (← c).absorbLeave) :=
  bind .of_returns hc fun _ => pure _

end Steady

theorem agreement_steady {ω : Type} {I : ω → Prop} (env : Observed ω)
    (hI : ∀ event w, event.Balanced env.options → I w → I (env.observe event w)) :
    Agreement env env (fun c _ => Steady I (Balanced env.options) c)
      (fun c _ => Steady I (Balanced env.options) c) where
  hosts := rfl
  pure := .pure
  bind := .bind .of_returns
  after := .bind .of_returns
  get := .get
  onStore action _ := .onStore action
  use _ := .bind .of_returns (.event hI fun _ _ => trivial) fun _ => .onStore _
  set := .set
  define _ := .update fun _ => ⟨rfl, rfl, rfl, rfl, rfl⟩
  lookUp := .lookUp hI
  inString := .inString hI
  print := .print hI
  done := .pure _
  leave := .pure _
  stop _ := .visit hI _ (.pure _)
  visit n _ h := .visit hI n h
  andThen := .andThen
  absorbLeave := .absorbLeave
  forEach _ items hb ho := .forEach _ items hb ho
  call _ hd ha := .call hd ha
  nested source hd := .ifMayParse (.nested source hd)
  nestedResource name hd := .ifMayParse (.nestedResource hI name hd)
  embedResource := .embedResource hI

/-- What holds for every observer. -/
theorem agreement_always {ω : Type} (env : Observed ω) :
    Agreement env env (fun c _ => Steady (fun _ => True) (Balanced env.options) c)
      (fun c _ => Steady (fun _ => True) (Balanced env.options) c) :=
  agreement_steady env fun _ _ _ _ => trivial

end Rendering

theorem Document.events_balanced (env : Environment) (context : Context) (d : Document)
    (store : Store) : ∀ event ∈ d.events env context store, event.Balanced env.options := by
  have hI (event : Event) (events : List Event) (h : event.Balanced env.options)
      (hs : ∀ e ∈ events, e.Balanced env.options) :
      ∀ e ∈ env.recorded.observe event events, e.Balanced env.options := by
    intro e he
    rcases List.mem_append.1 he with he | he
    · exact hs e he
    · exact List.mem_singleton.1 he ▸ h
  have steady := (Rendering.agreement_steady env.recorded hI).renderFrame
    (Rendering.frameBound env.options) (.document d)
  exact (steady _ []).keeps (State.balanced_initial _ _ _) (by simp)

theorem Document.renderObserved_ne_scope {ω : Type} (env : Observed ω) (w : ω) (context : Context)
    (d : Document) (store : Store) (e : ScopeError) :
    (d.renderObserved env w context store).1.result ≠ .error (.scope e) := by
  have steady := (Rendering.agreement_always env).renderFrame
    (Rendering.frameBound env.options) (.document d)
  have h : (d.run env w context store).1.1 ≠ .error (.scope e) := (steady _ w).noScopeError e
  change (d.run env w context store).1.1.map Rendered.text ≠ .error (.scope e)
  cases hr : (d.run env w context store).1.1 with
  | ok r => nofun
  | error e' =>
      intro he
      cases he
      exact h hr

open Rendering in
/-- Nodes and expressions leave scopes, loops and depths as they were, whatever the outcome. In a
render every node meets a scope for each open loop and call, and depths within their limits, so that
no scope is ever missing. -/
theorem render_scope_discipline {ω : Type} (env : Observed ω) (frames : Nat) (s : State) (w : ω) :
    (∀ nodes, s.Returns (renderNodes env (renderFrame env frames) nodes s w).1.2) ∧
    (∀ e, s.Returns (evaluate env (renderFrame env frames) e s w).1.2) ∧
    (∀ (context : Context) (d : Document) (store : Store) (node : Tree.Node) (t : State),
      .node node t ∈ d.events env.toEnvironment context store →
        t.scopes.depth = 1 + t.loops.length + t.callDepth ∧
        t.callDepth ≤ env.options.maxCallDepth ∧ t.parseDepth ≤ env.options.maxParseDepth) ∧
    (∀ (context : Context) (d : Document) (store : Store) (e : ScopeError),
      (d.renderObserved env w context store).1.result ≠ .error (.scope e)) := by
  refine ⟨fun nodes => ?_, fun e => ?_, ?_, ?_⟩
  · exact ((agreement_always env).nodes frames nodes s w).returns
  · exact ((agreement_always env).expression frames e s w).returns
  · intro context d store node t h
    have balanced := d.events_balanced env.toEnvironment context store _ h
    exact ⟨balanced.scopes, balanced.calls, balanced.parses⟩
  · exact fun context d store => d.renderObserved_ne_scope env w context store

/-- A definition with a loop that is stopped, and a call of it. -/
def Document.stoppedCall : Document :=
  { nodes :=
      [.define "m" []
          [.loop "i" (.list [.literal .null default] default) [.stop default] none default] default,
        .macroCall "m" [] "#m()" default]
    expression := none }

theorem render_scope_discipline_stoppedCall :
    ∃ t, .node (.stop default) t ∈
        Document.stoppedCall.events ⟨.standard, .none, .none⟩ .empty .empty ∧
      t.scopes.depth = 3 ∧ t.scopes.depth = 1 + t.loops.length + t.callDepth ∧
      t.callDepth ≤ 20 ∧ t.parseDepth ≤ 10 := by
  let env : Environment := ⟨.standard, .none, .none⟩
  obtain ⟨t, ht, depth⟩ :
      ∃ t, (Document.stoppedCall.events env .empty .empty)[3]? = some (.node (.stop default) t) ∧
        t.scopes.depth = 3 := ⟨_, rfl, rfl⟩
  have mem := List.mem_of_getElem? ht
  have start : State := .initial .standard [] .empty
  exact ⟨t, mem, depth, (render_scope_discipline env.unobserved 0 start ()).2.2.1
    .empty Document.stoppedCall .empty _ t mem⟩

end Template

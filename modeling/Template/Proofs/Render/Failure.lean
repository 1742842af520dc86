import Template.Proofs.Render.Frames
import Template.Proofs.Render.Observer

/-!
Why renders fail. Only nodes that name a source can fail: a source that is evaluated or parsed may
be no template, and the loader may not have a resource. Everything else ends with a result, whatever
values it meets.
-/

namespace Template

/-- Nodes that name a template or a resource. -/
def Tree.Node.loads : Node → Bool
  | .evaluate _ _ | .parse _ _ | .embed _ _ => true
  | _ => false

namespace Rendering

variable {ω : Type}

/-- The text of an argument that names a source. -/
def reading (env : Observed ω) (e : Tree.Expr) : Rendering ω String :=
  evaluate env (renderWhole env) e >>= display env

/-- From the state `s` the argument reads as the text, which leaves the state `t`. -/
def Reads (env : Environment) (s : State) (e : Tree.Expr) (text : String) (t : State) : Prop :=
  (reading env.unobserved e s ()).1 = (.ok text, t)

/-- A resource is missing that is embedded from the state: the first, or one after those that are
there. -/
inductive EmbedFails (env : Environment) : State → List Tree.Expr → LoaderError → Prop where
  | here {s t : State} {e : Tree.Expr} {name : String} {error : LoaderError} (es : List Tree.Expr)
      (reads : Reads env s e name t) (missing : env.loader t.requests name = .error error) :
      EmbedFails env s (e :: es) error
  | later {s t : State} {e : Tree.Expr} {es : List Tree.Expr} {r : Rendered} {error : LoaderError}
      (first : ((reading env.unobserved e >>= embedResource env.unobserved) s ()).1 = (.ok r, t))
      (rest : EmbedFails env t es error) : EmbedFails env s (e :: es) error

/-- Rendering the node from the state fails at the source that it names. -/
inductive Fails (env : Environment) (s : State) : Tree.Node → RenderError → Prop where
  | evaluate {argument : Tree.Expr} {source : String} {t : State} {error : SourceError}
      (place : Region) (reads : Reads env s argument source t) (free : s.parseDepth < env.options.maxParseDepth)
      (broken : Document.compile env.options source = .error error) :
      Fails env s (.evaluate argument place) (.source error)
  | parse {argument : Tree.Expr} {name source : String} {t : State} {error : SourceError}
      (place : Region) (reads : Reads env s argument name t) (free : s.parseDepth < env.options.maxParseDepth)
      (found : env.loader t.requests name = .ok source)
      (broken : Document.compile env.options source = .error error) :
      Fails env s (.parse argument place) (.source error)
  | missing {argument : Tree.Expr} {name : String} {t : State} {error : LoaderError}
      (place : Region) (strict : env.options.tolerant = false)
      (reads : Reads env s argument name t) (free : s.parseDepth < env.options.maxParseDepth)
      (missing : env.loader t.requests name = .error error) :
      Fails env s (.parse argument place) (.loader error)
  | embed {arguments : List Tree.Expr} {error : LoaderError} (place : Region)
      (strict : env.options.tolerant = false) (fails : EmbedFails env s arguments error) :
      Fails env s (.embed arguments place) (.loader error)

end Rendering

/-- Nodes that name a source are there only if `L` holds. -/
def Tree.Node.Permitted (L : Prop) (n : Node) : Prop := n.loads → L

/-- All nodes in the bodies of the definitions are permitted. -/
def Definitions.Permit (L : Prop) (t : Definitions) : Prop :=
  ∀ name d, t.get? name = some d → ∀ n ∈ Tree.allNodes d.body, n.Permitted L

theorem Definitions.permit_defineAll {L : Prop} {ds : List Definition} {t : Definitions}
    (ht : t.Permit L) (hd : ∀ d ∈ ds, ∀ n ∈ Tree.allNodes d.body, n.Permitted L) :
    (t.defineAll ds).Permit L := by
  induction ds generalizing t with
  | nil => exact ht
  | cons d ds ih =>
      obtain ⟨h, hs⟩ := List.forall_mem_cons.1 hd
      refine ih (t := t.define d) (fun name found hf => ?_) hs
      simp only [define] at hf
      split at hf
      · simp only [get?, Entries.get?_put] at hf
        split at hf
        · exact Option.some.inj hf ▸ h
        · exact ht name found hf
      · exact ht name found hf

theorem State.definitions_setAll (names : List String) (values : List Value) (s : State) :
    (s.setAll names values).definitions = s.definitions := by
  induction names generalizing values s with
  | nil => rfl
  | cons name names ih => exact ih _ _

namespace Rendering

variable {ω α β : Type}

/-- A run from `s` that makes the events `new`. The state is left as it was, but for definitions of
permitted nodes. If the run fails then as `F` says, or at a permitted node that is rendered in it.
-/
structure FairRun (env : Environment) (L : Prop) (F : RenderError → Prop) (s : State)
    (new : List Event) (out : Except RenderError α × State) : Prop where
  returns : s.Returns out.2
  permits : out.2.definitions.Permit L
  explained : ∀ e, out.1 = .error e →
    F e ∨ ∃ n t, .node n t ∈ new ∧ n.Permitted L ∧ Fails env t n e

/-- Whatever the observer has seen before, the run from `s` is the same and it is fair. -/
def FairFrom (env : Environment) (L : Prop) (F : RenderError → Prop) (s : State)
    (c : Rendering (List Event) α) : Prop :=
  ∃ new out, (∀ w, c s w = (out, w ++ new)) ∧ FairRun env L F s new out

namespace FairFrom

variable {env : Environment} {L : Prop} {F : RenderError → Prop} {s : State}

theorem plain {c : Rendering (List Event) α} {a : α} {t : State} (new : List Event)
    (h : ∀ w, c s w = ((.ok a, t), w ++ new)) (ht : s.Returns t) (hp : t.definitions.Permit L) :
    FairFrom env L F s c :=
  ⟨new, (.ok a, t), h, ht, hp, fun _ => nofun⟩

/-- A computation that nobody sees. -/
theorem unseen {c : Rendering (List Event) α} {a : α} {t : State}
    (h : ∀ w, c s w = ((.ok a, t), w)) (ht : s.Returns t) (hp : t.definitions.Permit L) :
    FairFrom env L F s c :=
  plain [] (fun w => by rw [h, List.append_nil]) ht hp

theorem pure (hs : s.definitions.Permit L) (a : α) : FairFrom env L F s (Pure.pure a) :=
  unseen (fun _ => rfl) (.refl s) hs

theorem throw (hs : s.definitions.Permit L) {e : RenderError} (he : F e) :
    FairFrom env L F s (throw e : Rendering (List Event) α) :=
  ⟨[], (.error e, s), fun _ => by rw [List.append_nil]; rfl, .refl s, hs, fun _ h =>
    .inl (Except.error.inj h ▸ he)⟩

theorem mono {F' : RenderError → Prop} (hF : ∀ e, F e → F' e) {c : Rendering (List Event) α}
    (hc : FairFrom env L F s c) : FairFrom env L F' s c := by
  obtain ⟨new, out, he, run⟩ := hc
  exact ⟨new, out, he, run.returns, run.permits, fun e h => (run.explained e h).imp (hF e) id⟩

theorem weaken {c : Rendering (List Event) α} (hc : FairFrom env L (fun _ => False) s c) :
    FairFrom env L F s c :=
  hc.mono fun _ => False.elim

theorem bind {c : Rendering (List Event) α} {f : α → Rendering (List Event) β}
    (hc : FairFrom env L F s c)
    (hf : ∀ a t, s.Returns t → t.definitions.Permit L → (∀ w, (c s w).1 = (.ok a, t)) →
      FairFrom env L F t (f a)) : FairFrom env L F s (c >>= f) := by
  obtain ⟨new, ⟨r, t⟩, he, run⟩ := hc
  cases r with
  | error e =>
      refine ⟨new, (.error e, t), fun w => by rw [bind_run, he], run.returns, run.permits, ?_⟩
      intro e' h
      cases h
      exact run.explained e rfl
  | ok a =>
      obtain ⟨new', out, he', run'⟩ := hf a t run.returns run.permits fun w => by rw [he]
      refine ⟨new ++ new', out, fun w => ?_, run.returns.trans run'.returns, run'.permits, ?_⟩
      · rw [bind_run, he]
        simp only [he', List.append_assoc]
      · intro e h
        refine (run'.explained e h).imp id fun ⟨n, u, hn, more⟩ => ?_
        exact ⟨n, u, List.mem_append_right _ hn, more⟩

/-- What is done depends on the state. -/
theorem get {f : State → Rendering (List Event) α} (h : FairFrom env L F s (f s)) :
    FairFrom env L F s (MonadState.get >>= f) := by
  obtain ⟨new, out, he, run⟩ := h
  exact ⟨new, out, fun w => by rw [bind_run, get_run]; exact he w, run⟩

/-- A node is rendered; what fails at it is explained by it. -/
theorem visit {n : Tree.Node} (hn : n.Permitted L) {c : Rendering (List Event) Rendered}
    (hc : FairFrom env L (Fails env s n) s c) :
    FairFrom env L F s (Rendering.visit env.recorded n c) := by
  obtain ⟨new, out, he, run⟩ := hc
  refine ⟨.node n s :: new, out, fun w => ?_, run.returns, run.permits, fun e h => .inr ?_⟩
  · simp only [Rendering.visit, bind_run, Rendering.report, he]
    simp [Environment.recorded]
  · rcases run.explained e h with fails | ⟨m, t, hm, more⟩
    · exact ⟨n, s, List.mem_cons_self, hn, fails⟩
    · exact ⟨m, t, List.mem_cons_of_mem _ hm, more⟩

theorem report (hs : s.definitions.Permit L) (event : State → Event) :
    FairFrom env L F s (Rendering.report env.recorded event) :=
  plain [event s] (fun _ => rfl) (.refl s) hs

theorem setAll (names : List String) (values : List Value) (hs : s.definitions.Permit L) :
    FairFrom env L F s (modify (State.setAll names values)) :=
  unseen (fun _ => rfl) (State.returns_setAll names values s)
    (State.definitions_setAll names values s ▸ hs)

theorem around {enter exit : State → State} {c : Rendering (List Event) α}
    (hr : ∀ t, (enter s).Returns t → s.Returns (exit t))
    (hd : ∀ t, (exit t).definitions = t.definitions) (hc : FairFrom env L F (enter s) c) :
    FairFrom env L F s (Rendering.around enter exit c) := by
  obtain ⟨new, out, he, run⟩ := hc
  refine ⟨new, (out.1, exit out.2), fun w => ?_, hr _ run.returns, ?_, run.explained⟩
  · rw [around_run, he]
  · exact (hd out.2).symm ▸ run.permits

theorem inScope {c : Rendering (List Event) α}
    (hc : FairFrom env L F { s with scopes := s.scopes.push } c) :
    FairFrom env L F s (Rendering.inScope c) := by
  obtain ⟨new, out, he, run⟩ := hc
  have close := closeScope_of_returns run.returns
  refine ⟨new, closeScope out, fun w => ?_, ?_, ?_, ?_⟩
  · rw [inScope_run, he]
  · rw [close]
    exact ⟨rfl, rfl, run.returns.loops, run.returns.callDepth, run.returns.parseDepth⟩
  · rw [close]
    exact run.permits
  · rw [close]
    exact run.explained

theorem load (hs : s.definitions.Permit L) (name : String)
    (hF : ∀ e, env.loader s.requests name = .error e → env.options.tolerant = false →
      F (.loader e)) : FairFrom env L F s (Rendering.load env.recorded name) := by
  refine bind (report hs _) fun _ t _ ht told => get ?_
  obtain rfl : s = t := congrArg Prod.snd (told [])
  refine bind (unseen (fun _ => rfl) ⟨rfl, rfl, rfl, rfl, rfl⟩ ht) fun _ u _ hu _ => ?_
  simp only [Environment.recorded]
  split
  · exact pure hu _
  next e he =>
    by_cases tolerant : env.options.tolerant = true
    · simp only [tolerant, if_true]
      exact pure hu _
    · simp only [tolerant]
      exact throw hu (hF e he (Bool.eq_false_of_not_eq_true tolerant))

theorem embedResource (hs : s.definitions.Permit L) (name : String)
    (hF : ∀ e, env.loader s.requests name = .error e → env.options.tolerant = false →
      F (.loader e)) : FairFrom env L F s (Rendering.embedResource env.recorded name) := by
  refine bind (load hs name hF) fun source t _ ht _ => ?_
  split
  · exact bind (report ht _) fun _ u _ hu _ => pure hu _
  · exact pure ht _

end FairFrom

/-- All runs from states with not more room than `k` are fair, where the definitions are. -/
def Fair (env : Environment) (L : Prop) (k : Nat) (c : Rendering (List Event) α) : Prop :=
  ∀ s, s.room env.options ≤ k → s.definitions.Permit L → FairFrom env L (fun _ => False) s c

namespace Fair

variable {env : Environment} {L : Prop} {k : Nat}

theorem bind {c : Rendering (List Event) α} {f : α → Rendering (List Event) β}
    (hc : Fair env L k c) (hf : ∀ a, Fair env L k (f a)) : Fair env L k (c >>= f) :=
  fun s room hs => (hc s room hs).bind fun a t ht hp _ => hf a t (ht.room_eq _ ▸ room) hp

theorem inLoop {body : Nat → Rendering (List Event) α} (h : ∀ number, Fair env L k (body number)) :
    Fair env L k (Rendering.inLoop body) := by
  intro s room hs
  refine (FairFrom.unseen (fun _ => rfl) (.refl s) hs).bind fun _ t ht hp _ => ?_
  refine FairFrom.bind (.unseen (fun _ => rfl) ⟨rfl, rfl, rfl, rfl, rfl⟩ hp)
    fun number u hu hq _ => ?_
  refine .around (fun _ => State.Returns.exitLoop) (fun _ => rfl) (h number _ ?_ hq)
  have same := (ht.trans hu).room_eq env.options
  simp only [State.room, State.enterLoop] at same room ⊢
  omega

theorem steps : Steps env.recorded env.recorded (fun c _ => Fair env L k c) where
  hosts := rfl
  maxPasses := rfl
  pure a := fun _ _ hs => .pure hs a
  bind := bind
  get := fun _ _ hs => .unseen (fun _ => rfl) (.refl _) hs
  onStore _ := fun _ _ hs => .unseen (fun _ => rfl) ⟨rfl, rfl, rfl, rfl, rfl⟩ hs
  setAll names values := fun _ _ hs => .setAll names values hs
  report event := fun _ _ hs => .report hs event
  inScope h := fun _ room hs => .inScope (h _ room hs)
  inLoop := inLoop

variable {deeper : Frame → Rendering (List Event) Rendered}

theorem call (hd : ∀ f, (∀ n ∈ f.allNodes, n.Permitted L) → ∀ j < k, Fair env L j (deeper f))
    {d : Definition} (hp : ∀ n ∈ Tree.allNodes d.body, n.Permitted L)
    {arguments : Rendering (List Event) (List Value)} (ha : Fair env L k arguments) :
    Fair env L k (Rendering.call env.recorded deeper d arguments) := by
  intro s room hs
  refine .get ?_
  split
  · exact .pure hs _
  next free =>
    refine (ha s room hs).bind fun values t ht hs _ => .inScope ?_
    refine .bind (.setAll _ _ hs) fun _ u hu hs _ => ?_
    refine .bind (.around (fun _ => State.Returns.exitCall) (fun _ => rfl)
      (hd (.body d.body) hp (u.enterCall.room env.options) ?_ _ le_rfl hs))
      fun r _ _ hs _ => .pure hs _
    have calls : u.callDepth = s.callDepth := hu.callDepth.trans ht.callDepth
    have parses : u.parseDepth = s.parseDepth := hu.parseDepth.trans ht.parseDepth
    have free : ¬env.options.maxCallDepth ≤ s.callDepth := free
    simp only [State.room, State.enterCall, calls, parses] at room ⊢
    omega

theorem nested (hd : ∀ f, (∀ n ∈ f.allNodes, n.Permitted L) → ∀ j < k, Fair env L j (deeper f))
    (hl : L) {s : State} (room : s.room env.options ≤ k) (hs : s.definitions.Permit L)
    (free : s.parseDepth < env.options.maxParseDepth) {F : RenderError → Prop} (source : String)
    (hF : ∀ e, Document.compile env.options source = .error e → F (.source e)) :
    FairFrom env L F s (Rendering.nested env.recorded deeper source) := by
  simp only [Rendering.nested]
  split
  next e he => exact .throw hs (hF e he)
  next d _ =>
    refine .around (fun _ => State.Returns.exitParse) (fun _ => rfl)
      (hd (.document d) (fun _ _ _ => hl) (s.enterParse.room env.options) ?_ _ le_rfl hs).weaken
    simp only [State.room, State.enterParse] at room ⊢
    omega

end Fair

theorem loader_of_load {ω : Type} {env : Observed ω} {name source : String} {s t : State} {w : ω}
    (h : (load env name s w).1 = (.ok (some source), t)) :
    env.loader s.requests name = .ok source := by
  simp only [load, bind_run, report, get_run, modify_run] at h
  cases found : env.loader s.requests name with
  | ok _ =>
      simp only [found, pure_run] at h
      cases h
      rfl
  | error _ =>
      simp only [found] at h
      split at h
      · cases h
      · cases h

section

variable {env : Environment} {s t : State} {e : Tree.Expr}

/-- What happens is the same if nobody looks on. -/
theorem unobserved_alike {ω : Type} (env : Observed ω) :
    Agreement env env.toEnvironment.unobserved Alike Alike :=
  agreement_alike rfl

theorem reading_alike {ω : Type} (env : Observed ω) (e : Tree.Expr) :
    Alike (reading env e) (reading env.toEnvironment.unobserved e) :=
  .bind ((unobserved_alike env).expression _ e) fun _ => (unobserved_alike env).display _

/-- What is read while somebody looks on is read. -/
theorem reads_of_recorded {text : String}
    (h : ∀ w, (reading env.recorded e s w).1 = (.ok text, t)) : Reads env s e text t :=
  (reading_alike env.recorded e s [] ()).symm.trans (h [])

theorem embeds_of_recorded {r : Rendered}
    (h : ∀ w, ((reading env.recorded e >>= embedResource env.recorded) s w).1 = (.ok r, t)) :
    ((reading env.unobserved e >>= embedResource env.unobserved) s ()).1 = (.ok r, t) := by
  have alike : Alike (reading env.recorded e >>= embedResource env.recorded)
      (reading env.unobserved e >>= embedResource env.unobserved) :=
    .bind (reading_alike env.recorded e) (unobserved_alike env.recorded).embedResource
  exact (alike s [] ()).symm.trans (h [])

end

namespace Fair

variable {env : Environment} {L : Prop} {k : Nat}

theorem reading {e : Tree.Expr}
    (he : Fair env L k (Rendering.evaluate env.recorded (renderWhole env.recorded) e)) :
    Fair env L k (Rendering.reading env.recorded e) :=
  bind he steps.parts.display

/-- If a list of resources cannot be embedded then one of them is missing. -/
theorem embedAll {arguments : List Tree.Expr}
    (ha : ∀ e ∈ arguments,
      Fair env L k (Rendering.evaluate env.recorded (renderWhole env.recorded) e))
    {s : State} (room : s.room env.options ≤ k) (hs : s.definitions.Permit L)
    {F : RenderError → Prop}
    (hF : ∀ e, env.options.tolerant = false → EmbedFails env s arguments e → F (.loader e)) :
    FairFrom env L F s
      (Rendering.embedAll env.recorded (renderWhole env.recorded) arguments) := by
  induction arguments generalizing s with
  | nil =>
      simp only [Rendering.embedAll]
      exact .pure hs _
  | cons e es ih =>
      obtain ⟨he, hes⟩ := List.forall_mem_cons.1 ha
      simp only [Rendering.embedAll]
      have first : FairFrom env L F s
          (Rendering.reading env.recorded e >>= Rendering.embedResource env.recorded) := by
        refine .bind (reading he s room hs).weaken fun name t _ ht read => ?_
        refine .embedResource ht name fun error missing strict => ?_
        exact hF error strict (.here es (reads_of_recorded read) missing)
      refine .bind first fun r t ht hs done => ?_
      split
      · refine .bind (ih hes (ht.room_eq _ ▸ room) hs fun error strict fails => ?_)
          fun _ _ _ hs _ => .pure hs _
        exact hF error strict (.later (embeds_of_recorded done) fails)
      · exact .pure hs _

theorem walk (hd : ∀ f, (∀ n ∈ f.allNodes, n.Permitted L) → ∀ j < k,
      Fair env L j (renderWhole env.recorded f)) :
    Walk env.recorded env.recorded (renderWhole env.recorded) (renderWhole env.recorded)
      (Tree.Node.Permitted L) (fun c _ => Fair env L k c) (fun c _ => Fair env L k c) where
  toElements := steps.parts.toElements
  loop item _ _ _ place _ hi hb ho :=
    steps.parts.loop _ (renderWhole env.recorded) item place hi hb ho
  define _ _ hp := fun _ _ hs =>
    .unseen (fun _ => rfl) ⟨rfl, rfl, rfl, rfl, rfl⟩ (Definitions.permit_defineAll hs hp)
  macroCall name arguments source place hp ha := by
    intro s room hs
    refine .visit hp ?_
    simp only [Rendering.renderNode]
    refine .get ?_
    split
    next d found => exact (call hd (hs name d found) ha s room hs).weaken
    next => exact (steps.print source s room hs).weaken
  evaluateNode {argument} place hp ha := by
    intro s room hs
    refine .visit hp ?_
    simp only [Rendering.renderNode]
    refine .bind (reading ha s room hs).weaken fun source t ht hs read => ?_
    refine .get ?_
    split
    next free =>
      refine nested hd (hp rfl) (ht.room_eq _ ▸ room) hs free source fun e broken => ?_
      exact .evaluate place (reads_of_recorded read) (ht.parseDepth ▸ free) broken
    next => exact .pure hs _
  parse {argument} place hp ha := by
    intro s room hs
    refine .visit hp ?_
    simp only [Rendering.renderNode]
    refine .bind (reading ha s room hs).weaken fun name t ht hs read => ?_
    refine .get ?_
    split
    next free =>
      have reads := reads_of_recorded read
      have here : s.parseDepth < env.options.maxParseDepth := ht.parseDepth ▸ free
      refine .bind (.load hs name fun e missing strict => ?_) fun found u hu hs loaded => ?_
      · exact .missing place strict reads here missing
      · split
        next source =>
          refine nested hd (hp rfl) ((ht.trans hu).room_eq _ ▸ room) hs (hu.parseDepth ▸ free)
            source fun e broken => ?_
          exact .parse place reads here (loader_of_load (loaded [])) broken
        next => exact .pure hs _
    next => exact .pure hs _
  embed {arguments} place hp ha := by
    intro s room hs
    refine .visit hp ?_
    simp only [Rendering.renderNode]
    exact embedAll ha room hs fun error strict fails => .embed place strict fails

/-- What is left of the depths decreases from frame to frame, so all frames are fair. -/
theorem frame (k : Nat) (f : Frame) (hf : ∀ n ∈ f.allNodes, n.Permitted L) :
    Fair env L k (renderWhole env.recorded f) := by
  rw [renderWhole_eq]
  exact (walk fun f hf j _ => frame j f hf).runFrame f hf
termination_by k

end Fair

end Rendering

end Template

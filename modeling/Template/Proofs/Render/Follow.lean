import Template.Proofs.Render.Failure
import Template.Proofs.Render.Loops

/-!
Renders that follow another one. Somebody looks on at the first render and checks every node; as
long as all nodes pass, the second ends as the first does. The definitions of the two may differ,
and so may their texts in what does not count.
-/

namespace Template

/-- Every node that is rendered is checked. What is kept is whether all have passed. -/
def Environment.checking (check : Tree.Node → State → Prop) (env : Environment) : Observed Prop :=
  { env with observe := fun event passed => passed ∧ ∀ n s, event = .node n s → check n s }

theorem Environment.checking_options (check : Tree.Node → State → Prop) (env : Environment) :
    (env.checking check).options = env.options := rfl

theorem Environment.unobserved_options (env : Environment) :
    env.unobserved.options = env.options := rfl

/-- All nodes among the events pass. -/
def Event.AllPass (check : Tree.Node → State → Prop) (events : List Event) : Prop :=
  ∀ n s, .node n s ∈ events → check n s

/-- Checking the nodes on the way is checking those among the events. -/
theorem Environment.checking_maps (check : Tree.Node → State → Prop) (env : Environment) :
    Rendering.Agreement env.recorded (env.checking check)
      (Rendering.Maps (Event.AllPass check)) (Rendering.Maps (Event.AllPass check)) := by
  refine Rendering.agreement_maps rfl fun event events => propext ⟨?_, fun passed => ⟨?_, ?_⟩⟩
  · rintro ⟨before, now⟩ n s seen
    rcases List.mem_append.1 seen with seen | seen
    · exact before n s seen
    · exact now n s (List.mem_singleton.1 seen).symm
  · exact fun n s seen => passed n s (List.mem_append_left _ seen)
  · rintro n s rfl
    exact passed n s (List.mem_append_right _ (List.mem_singleton_self _))

namespace State

/-- The second state is the first, but for its definitions. -/
def Beside (D : Definitions → Definitions → Prop) (s t : State) : Prop :=
  ∃ ds, D s.definitions ds ∧ t = { s with definitions := ds }

/-- Definitions have no part in the change. -/
def Apart (f : State → State) : Prop :=
  ∀ (s : State) ds, f { s with definitions := ds } = { f s with definitions := ds }

theorem apart_setAll (names : List String) (values : List Value) : Apart (setAll names values) := by
  induction names generalizing values with
  | nil => exact fun _ _ => rfl
  | cons name names ih => exact fun s ds => ih values.tail (s.set name (values.headD .null)) ds

variable {D : Definitions → Definitions → Prop} {s s' t t' : State}

theorem Beside.update {f : State → State} (hf : Apart f) (h : s.Beside D t) :
    (f s).Beside D (f t) := by
  obtain ⟨ds, same, rfl⟩ := h
  have kept := congrArg definitions (hf s s.definitions)
  exact ⟨ds, (show (f s).definitions = s.definitions from kept) ▸ same, hf s ds⟩

theorem Beside.returns (h : s.Beside D t) (h' : s'.Beside D t') (r : s.Returns s') :
    t.Returns t' := by
  obtain ⟨_, _, rfl⟩ := h
  obtain ⟨_, _, rfl⟩ := h'
  exact ⟨r.outer, r.depth, r.loops, r.callDepth, r.parseDepth⟩

end State

/-- Renderings that end in the same way with texts that count as the same. -/
structure Rendered.Like (E : String → String → Prop) (r r' : Rendered) : Prop where
  flow : r.flow = r'.flow
  text : E r.text r'.text

theorem Rendered.Like.eq {r r' : Rendered} (h : r.Like Eq r') : r = r' := by
  cases r
  cases r'
  exact congrArg₂ _ h.flow h.text

/-- Texts can be told apart or not, piece by piece. -/
structure Texts (E : String → String → Prop) : Prop where
  refl (text : String) : E text text
  append {a a' b b' : String} (ha : E a a') (hb : E b b') : E (a ++ b) (a' ++ b')

theorem Texts.eq : Texts Eq := ⟨fun _ => rfl, fun ha hb => congrArg₂ _ ha hb⟩

theorem Texts.like {E : String → String → Prop} (hE : Texts E) (r : Rendered) : r.Like E r :=
  ⟨rfl, hE.refl _⟩

namespace Rendering

variable {α β : Type}

/-- Whoever checks nodes does not forget that one has not passed. -/
def Persists (c : Rendering Prop α) : Prop := ∀ s passed, (c s passed).2 → passed

namespace Persists

theorem unseen (g : State → Except RenderError α × State) :
    Persists (fun s passed => (g s, passed)) :=
  fun _ _ => id

theorem bind {c : Rendering Prop α} {f : α → Rendering Prop β} (hc : Persists c)
    (hf : ∀ a, Persists (f a)) : Persists (c >>= f) := by
  intro s passed
  have first := hc s passed
  rw [bind_run]
  generalize c s passed = out at first ⊢
  obtain ⟨⟨r, s'⟩, passed'⟩ := out
  cases r with
  | error e => exact first
  | ok a => exact fun held => first (hf a s' passed' held)

theorem around {c : Rendering Prop α} (enter exit : State → State) (hc : Persists c) :
    Persists (Rendering.around enter exit c) :=
  fun s passed => hc (enter s) passed

theorem inScope {c : Rendering Prop α} (hc : Persists c) : Persists (Rendering.inScope c) :=
  fun _ passed => hc _ passed

theorem inLoop {body : Nat → Rendering Prop α} (h : ∀ number, Persists (body number)) :
    Persists (Rendering.inLoop body) :=
  bind (unseen _) fun _ => bind (fun _ _ => id) fun number => around _ _ (h number)

variable (check : Tree.Node → State → Prop) (env : Environment)

theorem report (event : State → Event) : Persists (Rendering.report (env.checking check) event) :=
  fun _ _ => And.left

theorem frameSteps :
    FrameSteps (env.checking check) (env.checking check) (fun c _ => Persists c) where
  hosts := rfl
  maxPasses := rfl
  pure _ := unseen _
  bind := bind
  get := unseen _
  onStore _ := fun _ _ => id
  setAll _ _ := unseen _
  report := report check env
  inScope := inScope
  inLoop := inLoop
  maxCallDepth := rfl
  maxParseDepth := rfl
  compile := rfl
  update _ := unseen _
  throw _ := unseen _
  around := around

theorem agreement : Agreement (env.checking check) (env.checking check) (fun c _ => Persists c)
    (fun c _ => Persists c) :=
  (frameSteps check env).agreement ((frameSteps check env).load rfl rfl)

end Persists

/-- Both computations failed with the same error, or their results are related. -/
inductive Ended {ε : Type} (T : α → β → Prop) : Except ε α → Except ε β → Prop where
  | ok {a : α} {b : β} (h : T a b) : Ended T (.ok a) (.ok b)
  | error (e : ε) : Ended T (.error e) (.error e)

theorem Ended.mono {ε : Type} {T T' : α → β → Prop} {r : Except ε α} {r' : Except ε β}
    (hT : ∀ a b, T a b → T' a b) (h : Ended T r r') : Ended T' r r' := by
  cases h with
  | ok same => exact .ok (hT _ _ same)
  | error e => exact .error e

theorem Ended.eq {ε : Type} {r r' : Except ε α} (h : Ended Eq r r') : r = r' := by
  cases h with
  | ok same => rw [same]
  | error e => rfl

/-- How a run from `s` ended, and another one that followed it. -/
structure Followed (D : Definitions → Definitions → Prop) (T : α → β → Prop) (s : State)
    (out : Except RenderError α × State) (out' : Except RenderError β × State) : Prop where
  returns : s.Returns out.2
  ended : Ended T out.1 out'.1
  beside : out.2.Beside D out'.2

/-- If all nodes pass that the first computation renders from `s`, then the second one follows it
from `t`. -/
def FollowsFrom (D : Definitions → Definitions → Prop) (T : α → β → Prop) (s t : State)
    (c : Rendering Prop α) (c' : Rendering Unit β) : Prop :=
  ∀ passed, (c s passed).2 → Followed D T s (c s passed).1 (c' t ()).1

/-- The second computation follows the first from all states with not more room than `k`. -/
structure Follows (options : Options) (k : Nat) (D : Definitions → Definitions → Prop)
    (T : α → β → Prop) (c : Rendering Prop α) (c' : Rendering Unit β) : Prop where
  persists : Persists c
  follows : ∀ s t, s.room options ≤ k → s.Beside D t → FollowsFrom D T s t c c'

variable {options : Options} {k : Nat} {D : Definitions → Definitions → Prop} {T : α → α → Prop}
  {U : β → β → Prop} {c : Rendering Prop α} {c' : Rendering Unit α} {f : α → Rendering Prop β}
  {f' : α → Rendering Unit β}

namespace FollowsFrom

variable {s t s' t' : State}

/-- A step that nobody sees. -/
theorem unseen {r r' : Except RenderError α} (run : ∀ passed, c s passed = ((r, s'), passed))
    (run' : c' t () = ((r', t'), ())) (returns : s.Returns s') (ended : Ended T r r')
    (beside : s'.Beside D t') : FollowsFrom D T s t c c' := by
  intro passed _
  rw [run, run']
  exact ⟨returns, ended, beside⟩

theorem pure {a a' : α} (h : T a a') (beside : s.Beside D t) :
    FollowsFrom D T s t (Pure.pure a) (Pure.pure a') :=
  unseen (fun _ => rfl) rfl (.refl s) (.ok h) beside

theorem throw (e : RenderError) (beside : s.Beside D t) :
    FollowsFrom D T s t (throw e : Rendering Prop α) (throw e) :=
  unseen (fun _ => rfl) rfl (.refl s) (.error e) beside

theorem bind (hf : ∀ a, Persists (f a)) (hc : FollowsFrom D T s t c c')
    (next : ∀ a a' s' t', T a a' → s.Returns s' → s'.Beside D t' →
      (∃ passed, (c s passed).1 = (.ok a, s')) → FollowsFrom D U s' t' (f a) (f' a')) :
    FollowsFrom D U s t (c >>= f) (c' >>= f') := by
  intro passed
  have first := hc passed
  rw [bind_run, bind_run]
  generalize run : c s passed = out at first ⊢
  generalize c' t () = out' at first ⊢
  obtain ⟨⟨r, s'⟩, passed'⟩ := out
  obtain ⟨⟨r', t'⟩, ⟨⟩⟩ := out'
  cases r with
  | error e =>
      intro held
      obtain ⟨returns, ended, beside⟩ := first held
      cases ended
      exact ⟨returns, .error e, beside⟩
  | ok a =>
      intro held
      obtain ⟨returns, ended, beside⟩ := first (hf a s' passed' held)
      cases ended with
      | ok same =>
          have more := next a _ s' t' same returns beside ⟨passed, by rw [run]⟩ passed' held
          exact ⟨returns.trans more.returns, more.ended, more.beside⟩

/-- What is done depends on the states. -/
theorem get {g : State → Rendering Prop α} {g' : State → Rendering Unit α}
    (h : FollowsFrom D T s t (g s) (g' t)) :
    FollowsFrom D T s t (MonadState.get >>= g) (MonadState.get >>= g') :=
  h

theorem mono {T' : α → α → Prop} (hT : ∀ a a', T a a' → T' a a') (h : FollowsFrom D T s t c c') :
    FollowsFrom D T' s t c c' := by
  intro passed held
  obtain ⟨returns, ended, beside⟩ := h passed held
  exact ⟨returns, ended.mono hT, beside⟩

theorem around {enter exit : State → State}
    (hr : ∀ u, (enter s).Returns u → s.Returns (exit u)) (he : State.Apart exit)
    (h : FollowsFrom D T (enter s) (enter t) c c') :
    FollowsFrom D T s t (Rendering.around enter exit c) (Rendering.around enter exit c') := by
  intro passed held
  have body := h passed held
  exact ⟨hr _ body.returns, body.ended, body.beside.update he⟩

theorem inScope (beside : s.Beside D t)
    (h : FollowsFrom D T { s with scopes := s.scopes.push } { t with scopes := t.scopes.push }
      c c') :
    FollowsFrom D T s t (Rendering.inScope c) (Rendering.inScope c') := by
  intro passed held
  have body := h passed held
  have pushed := beside.update (f := fun s => { s with scopes := s.scopes.push }) fun _ _ => rfl
  have close := closeScope_of_returns body.returns
  have close' := closeScope_of_returns (pushed.returns body.beside body.returns)
  rw [inScope_run, inScope_run, close, close']
  refine ⟨?_, body.ended, ?_⟩
  · exact ⟨rfl, rfl, body.returns.loops, body.returns.callDepth, body.returns.parseDepth⟩
  · obtain ⟨_, _, rfl⟩ := beside
    exact body.beside.update (f := fun u => { u with scopes := s.scopes }) fun _ _ => rfl

end FollowsFrom

namespace Follows

theorem pure {a a' : α} (h : T a a') : Follows options k D T (Pure.pure a) (Pure.pure a') where
  persists := .unseen _
  follows _ _ _ beside := .pure h beside

theorem bind (hT : ∀ a, T a a) (hc : Follows options k D T c c')
    (hf : ∀ a a', T a a' → Follows options k D U (f a) (f' a')) :
    Follows options k D U (c >>= f) (c' >>= f') where
  persists := hc.persists.bind fun a => (hf a a (hT a)).persists
  follows s t room beside :=
    .bind (fun a => (hf a a (hT a)).persists) (hc.follows s t room beside)
      fun a a' s' t' same returns beside _ =>
        (hf a a' same).follows s' t' (returns.room_eq options ▸ room) beside

/-- A value that is used is the same in both. -/
theorem using_value (hc : Follows options k D Eq c c')
    (hf : ∀ a, Follows options k D U (f a) (f' a)) :
    Follows options k D U (c >>= f) (c' >>= f') :=
  hc.bind (fun _ => rfl) fun a _ same => same ▸ hf a

theorem mono {T' : α → α → Prop} (hT : ∀ a a', T a a' → T' a a') (h : Follows options k D T c c') :
    Follows options k D T' c c' where
  persists := h.persists
  follows s t room beside := (h.follows s t room beside).mono hT

/-- What is done depends on the states. -/
theorem get {g : State → Rendering Prop α} {g' : State → Rendering Unit α}
    (h : ∀ (s : State) ds, Follows options k D T (g s) (g' { s with definitions := ds })) :
    Follows options k D T (MonadState.get >>= g) (MonadState.get >>= g') where
  persists := (Persists.unseen _).bind fun s => (h s s.definitions).persists
  follows s t room beside := by
    refine .get ?_
    obtain ⟨ds, same, rfl⟩ := beside
    exact (h s ds).follows s _ room ⟨ds, same, rfl⟩

theorem view : Follows options k D Eq Rendering.view Rendering.view := get fun _ _ => pure rfl

theorem viewing (g : Store → Scopes → Rendering Prop α) (g' : Store → Scopes → Rendering Unit α)
    (h : ∀ store scopes, Follows options k D T (g store scopes) (g' store scopes)) :
    Follows options k D T (MonadState.get >>= fun s => g s.store s.scopes)
      (MonadState.get >>= fun s => g' s.store s.scopes) :=
  get fun s _ => h s.store s.scopes

/-- What is done depends on whether a loop has been stopped. -/
theorem unlessStopped {d : Rendering Prop α} {d' : Rendering Unit α} (number : Nat)
    (hc : Follows options k D T c c') (hd : Follows options k D T d d') :
    Follows options k D T
      (MonadState.get >>= fun s => if (s.store.loop number).stopped then c else d)
      (MonadState.get >>= fun s => if (s.store.loop number).stopped then c' else d') := by
  refine viewing (fun store _ => if (store.loop number).stopped then c else d)
    (fun store _ => if (store.loop number).stopped then c' else d') fun store _ => ?_
  split
  · exact hc
  · exact hd

theorem onStore (action : Action α) :
    Follows options k D Eq (Rendering.onStore action) (Rendering.onStore action) where
  persists _ _ := id
  follows s t _ beside := by
    have after :=
      beside.update (f := fun s => { s with store := (action s.store).2 }) fun _ _ => rfl
    obtain ⟨ds, same, rfl⟩ := beside
    exact .unseen (fun _ => rfl) rfl ⟨rfl, rfl, rfl, rfl, rfl⟩ (.ok rfl) after

theorem update {g : State → State} (hr : ∀ s : State, s.Returns (g s)) (hg : State.Apart g) :
    Follows options k D Eq (modify g : Rendering Prop PUnit) (modify g) where
  persists := .unseen _
  follows s _ _ beside := .unseen (fun _ => rfl) rfl (hr s) (.ok rfl) (beside.update hg)

/-- What is defined keeps the definitions related. -/
theorem define {ds ds' : List Definition}
    (h : ∀ t t', D t t' → D (t.defineAll ds) (t'.defineAll ds')) :
    Follows options k D Eq (modify (State.define ds) : Rendering Prop PUnit)
      (modify (State.define ds')) where
  persists := .unseen _
  follows s _ _ beside := by
    obtain ⟨t, related, rfl⟩ := beside
    exact .unseen (fun _ => rfl) rfl ⟨rfl, rfl, rfl, rfl, rfl⟩ (.ok rfl) ⟨_, h _ _ related, rfl⟩

theorem inScope (h : Follows options k D T c c') :
    Follows options k D T (Rendering.inScope c) (Rendering.inScope c') where
  persists := h.persists.inScope
  follows _ _ room beside := .inScope beside (h.follows _ _ room
    (beside.update (f := fun s => { s with scopes := s.scopes.push }) fun _ _ => rfl))

theorem inLoop {body : Nat → Rendering Prop α} {body' : Nat → Rendering Unit α}
    (h : ∀ number, Follows options k D T (body number) (body' number)) :
    Follows options k D T (Rendering.inLoop body) (Rendering.inLoop body') where
  persists := .inLoop fun number => (h number).persists
  follows s t room beside := by
    intro passed held
    have entered := beside.update (f := enteredLoop) fun _ _ => rfl
    have run := (h s.store.loops.size).follows (enteredLoop s) (enteredLoop t) room entered passed
      held
    rw [inLoop_run, inLoop_run]
    obtain ⟨ds, same, rfl⟩ := beside
    refine ⟨?_, run.ended, run.beside.update fun _ _ => rfl⟩
    have numbered : s.Returns { s with store := (enteredLoop s).store } := ⟨rfl, rfl, rfl, rfl, rfl⟩
    exact numbered.trans (State.Returns.exitLoop run.returns)

variable {check : Tree.Node → State → Prop} {env env' : Environment}

theorem report (event event' : State → Event) :
    Follows options k D Eq (Rendering.report (env.checking check) event)
      (Rendering.report env'.unobserved event') where
  persists := .report check env event
  follows s _ _ beside := fun _ _ => ⟨.refl s, .ok rfl, beside⟩

theorem lookUp (name : String) :
    Follows options k D Eq (Rendering.lookUp (env.checking check) name)
      (Rendering.lookUp env'.unobserved name) :=
  (report _ _).using_value fun _ =>
    viewing (fun _ scopes => Pure.pure ((scopes.get? name).getD .null)) _ fun _ _ => pure rfl

/-- A resource that is there in both environments or in none. -/
theorem load (hl : env.loader = env'.loader) (ht : env.options.tolerant = env'.options.tolerant)
    (name : String) :
    Follows options k D Eq (Rendering.load (env.checking check) name)
      (Rendering.load env'.unobserved name) := by
  have requested : Follows options k D Eq
      (modify (State.request name) : Rendering Prop PUnit) (modify (State.request name)) :=
    update (fun _ => ⟨rfl, rfl, rfl, rfl, rfl⟩) fun _ _ => rfl
  have loader : (env.checking check).loader = env'.unobserved.loader := hl
  have tolerant : (env.checking check).options.tolerant = env'.unobserved.options.tolerant := ht
  refine (report _ _).using_value fun _ => ?_
  rw [loader, tolerant]
  refine get fun s ds => requested.using_value fun _ => ?_
  dsimp only
  split
  · exact pure rfl
  next e _ =>
    split
    · exact pure rfl
    · exact ⟨.unseen _, fun _ _ _ beside => .throw (.loader e) beside⟩

section

variable {E : String → String → Prop}

theorem print {text text' : String} (like : E text text') :
    Follows options k D (Rendered.Like E) (Rendering.print (env.checking check) text)
      (Rendering.print env'.unobserved text') :=
  (report _ _).using_value fun _ => pure ⟨rfl, like⟩

variable (hE : Texts E) {a b : Rendering Prop Rendered}
  {a' b' : Rendering Unit Rendered}

include hE

theorem andThen (ha : Follows options k D (Rendered.Like E) a a')
    (hb : Follows options k D (Rendered.Like E) b b') :
    Follows options k D (Rendered.Like E) (Rendering.andThen a b) (Rendering.andThen a' b') := by
  refine ha.bind hE.like ?_
  rintro ⟨flow, text⟩ ⟨_, text'⟩ ⟨rfl, like⟩
  cases flow with
  | normal => exact hb.bind hE.like fun r r' more => pure ⟨more.flow, hE.append like more.text⟩
  | leave | stop => exact pure ⟨rfl, like⟩

theorem absorbLeave (ha : Follows options k D (Rendered.Like E) a a') :
    Follows options k D (Rendered.Like E) (do return (← a).absorbLeave)
      (do return (← a').absorbLeave) := by
  refine ha.bind hE.like ?_
  rintro ⟨flow, text⟩ ⟨_, text'⟩ ⟨rfl, like⟩
  cases flow <;> exact pure ⟨rfl, like⟩

theorem passes (item : String) (number remaining index : Nat) (items : Items)
    {before before' : String} (like : E before before')
    (ha : Follows options k D (Rendered.Like E) a a') :
    Follows options k D (Rendered.Like E)
      (Rendering.passes item number a remaining index items before)
      (Rendering.passes item number a' remaining index items before') := by
  induction remaining generalizing index items before before' with
  | zero => exact pure ⟨rfl, like⟩
  | succ remaining ih =>
      simp only [Rendering.passes]
      split
      · exact pure ⟨rfl, like⟩
      · refine (onStore _).using_value fun _ => bind hE.like (inScope ?_) ?_
        · exact (update (State.returns_setAll _ _) (State.apart_setAll _ _)).using_value fun _ => ha
        · rintro ⟨flow, text⟩ ⟨_, text'⟩ ⟨rfl, more⟩
          have text := hE.append like more
          cases flow with
          | stop | leave => exact pure ⟨rfl, text⟩
          | normal =>
              exact unlessStopped number (pure ⟨rfl, text⟩) (ih _ _ text)

theorem forEach (limit : Nat) (item : String) (items : Items)
    (ha : Follows options k D (Rendered.Like E) a a')
    (hb : Follows options k D (Rendered.Like E) b b') :
    Follows options k D (Rendered.Like E) (Rendering.forEach limit item items a b)
      (Rendering.forEach limit item items a' b') := by
  simp only [Rendering.forEach]
  split
  · exact hb
  · exact inLoop fun number => passes hE item number limit 0 items (hE.refl _) ha

theorem embedResource (hl : env.loader = env'.loader)
    (ht : env.options.tolerant = env'.options.tolerant) (name : String) :
    Follows options k D (Rendered.Like E) (Rendering.embedResource (env.checking check) name)
      (Rendering.embedResource env'.unobserved name) := by
  refine (load hl ht name).using_value fun source => ?_
  split
  · exact print (hE.refl _)
  · exact pure (hE.like _)

end

/-- A node is rendered; the first run knows that it has passed. -/
theorem checked {T : Rendered → Rendered → Prop} {c : Rendering Prop Rendered}
    {c' : Rendering Unit Rendered} {n n' : Tree.Node} (hc : Persists c)
    (h : ∀ s t, check n s → s.room options ≤ k → s.Beside D t → FollowsFrom D T s t c c') :
    Follows options k D T (Rendering.visit (env.checking check) n c)
      (Rendering.visit env'.unobserved n' c') where
  persists := (Persists.report check env _).bind fun _ => hc
  follows s t room beside := by
    intro passed held
    obtain ⟨-, seen⟩ := hc s _ held
    exact h s t (seen n s rfl) room beside _ held

theorem visit {T : Rendered → Rendered → Prop} {c : Rendering Prop Rendered}
    {c' : Rendering Unit Rendered} (n n' : Tree.Node) (h : Follows options k D T c c') :
    Follows options k D T (Rendering.visit (env.checking check) n c)
      (Rendering.visit env'.unobserved n' c') :=
  (report _ _).using_value fun _ => h

/-- What does not lead out of the tree, and has the same texts. -/
theorem elements (hh : env.hosts = env'.hosts) :
    Elements (env.checking check) env'.unobserved (Follows options k D Eq)
      (Follows options k D (Rendered.Like Eq)) where
  hosts := hh
  pure _ := pure rfl
  bind := using_value
  after := using_value
  view := view
  onStore action _ := onStore action
  use _ := (report _ _).using_value fun _ => onStore _
  set name value := update (State.returns_set name value) fun _ _ => rfl
  lookUp := lookUp
  inString h := by
    refine (report _ _).using_value fun _ => (h.mono fun _ _ => Rendered.Like.eq).using_value ?_
    exact fun r => (report _ _).using_value fun _ => pure rfl
  print _ := print rfl
  done := pure (Texts.eq.like _)
  leave := pure (Texts.eq.like _)
  stop _ := visit _ _ (pure (Texts.eq.like _))
  visit n _ h := visit n n h
  andThen := andThen .eq
  absorbLeave := absorbLeave .eq

end Follows

/-! ### What leads out of the tree -/

section

variable {check : Tree.Node → State → Prop} {env env' : Environment} {s t : State}

theorem Persists.renderWhole (check : Tree.Node → State → Prop) (env : Environment) (f : Frame) :
    Persists (renderWhole (env.checking check) f) :=
  (agreement check env).renderFrame (frameBound env.options) f

theorem Persists.nested (check : Tree.Node → State → Prop) (env : Environment) (source : String) :
    Persists (nested (env.checking check) (Rendering.renderWhole (env.checking check)) source) := by
  simp only [Rendering.nested]
  split
  · exact .unseen _
  · exact (renderWhole check env _).around _ _

theorem Persists.nestedResource (check : Tree.Node → State → Prop) (env : Environment)
    (name : String) :
    Persists (nestedResource (env.checking check) (Rendering.renderWhole (env.checking check))
      name) := by
  refine ((frameSteps check env).load rfl rfl name).bind fun source => ?_
  cases source with
  | some source => exact nested check env source
  | none => exact .unseen _

theorem Persists.ifMayParse {c : Rendering Prop Rendered} (hc : Persists c) :
    Persists (ifMayParse (env.checking check) c) := by
  refine (Persists.unseen _).bind fun s => ?_
  split
  · exact hc
  · exact .unseen _

/-- What a call does in its scope. -/
theorem Persists.callBody {c : Rendering Prop Rendered} (hc : Persists c) (names : List String)
    (values : List Value) :
    Persists (Rendering.inScope do
      modify (State.setAll names values)
      let r ← Rendering.inCall c
      return r.absorbLeave) :=
  .inScope ((Persists.unseen _).bind fun _ => (hc.around _ _).bind fun _ => .unseen _)

theorem Persists.call {deeper : Frame → Rendering Prop Rendered} {d : Definition}
    {arguments : Rendering Prop (List Value)} (ha : Persists arguments)
    (hd : Persists (deeper (.body d.body))) :
    Persists (Rendering.call (env.checking check) deeper d arguments) := by
  refine (Persists.unseen _).bind fun s => ?_
  split
  · exact .unseen _
  · exact ha.bind fun values => callBody hd d.parameters values

/-- Arguments that name a source are read alike. -/
theorem Follows.reading (hh : env.hosts = env'.hosts) {argument argument' : Tree.Expr}
    (ha : Follows options k D Eq
      (evaluate (env.checking check) (renderWhole (env.checking check)) argument)
      (evaluate env'.unobserved (renderWhole env'.unobserved) argument')) :
    Follows options k D Eq (Rendering.reading (env.checking check) argument)
      (Rendering.reading env'.unobserved argument') :=
  ha.using_value (elements hh).display

theorem reads_of_checked {e : Tree.Expr} {text : String} {passed : Prop}
    (h : (Rendering.reading (env.checking check) e s passed).1 = (.ok text, t)) :
    Reads env s e text t :=
  (reading_alike (env.checking check) e s passed ()).symm.trans h

namespace FollowsFrom

variable {deeper : Frame → Rendering Prop Rendered} {deeper' : Frame → Rendering Unit Rendered}
  {T : Rendered → Rendered → Prop} {E : String → String → Prop}

/-- Two definitions are called, of whose bodies the second can follow the first. -/
theorem call {d d' : Definition} (parameters : d.parameters = d'.parameters)
    {arguments : Rendering Prop (List Value)} {arguments' : Rendering Unit (List Value)}
    (ha : Follows env.options k D Eq arguments arguments')
    (persists : Persists (deeper (.body d.body)))
    (hb : ∀ j < k, Follows env.options j D (Rendered.Like E) (deeper (.body d.body))
      (deeper' (.body d'.body)))
    (room : s.room env.options ≤ k) (beside : s.Beside D t)
    (free : s.callDepth < env.options.maxCallDepth)
    (free' : t.callDepth < env'.options.maxCallDepth) :
    FollowsFrom D (Rendered.Like E) s t
      (Rendering.call (env.checking check) deeper d arguments)
      (Rendering.call env'.unobserved deeper' d' arguments') := by
  refine .get ?_
  rw [Environment.checking_options, Environment.unobserved_options, if_neg (Nat.not_le.2 free),
    if_neg (Nat.not_le.2 free')]
  refine .bind (fun values => .callBody persists d.parameters values)
    (ha.follows s t room beside) ?_
  rintro values _ u u' rfl returns beside -
  refine .inScope beside ?_
  rw [parameters]
  have bound : Follows env.options k D Eq
      (modify (State.setAll d'.parameters values) : Rendering Prop PUnit)
      (modify (State.setAll d'.parameters values)) :=
    .update (State.returns_setAll _ _) (State.apart_setAll _ _)
  refine .bind (fun _ => (persists.around _ _).bind fun _ => .unseen _)
    (bound.follows _ _ (returns.room_eq env.options ▸ room)
      (beside.update (f := fun s => { s with scopes := s.scopes.push }) fun _ _ => rfl)) ?_
  rintro ⟨⟩ ⟨⟩ v v' - returns' beside -
  refine .bind (fun _ => .unseen _) (.around (fun _ => State.Returns.exitCall) (fun _ _ => rfl)
    ((hb (v.enterCall.room env.options) ?_).follows _ _ le_rfl
      (beside.update fun _ _ => rfl))) ?_
  · have calls : v.callDepth = s.callDepth := returns'.callDepth.trans returns.callDepth
    have parses : v.parseDepth = s.parseDepth := returns'.parseDepth.trans returns.parseDepth
    simp only [State.room, State.enterCall, calls, parses] at room ⊢
    omega
  · rintro ⟨flow, text⟩ ⟨_, text'⟩ _ _ ⟨rfl, like⟩ - beside -
    cases flow <;> exact .pure ⟨rfl, like⟩ beside

/-- Calls are nested too deep already. -/
theorem call_skipped {d d' : Definition} {arguments : Rendering Prop (List Value)}
    {arguments' : Rendering Unit (List Value)} (hT : T .empty .empty) (beside : s.Beside D t)
    (full : env.options.maxCallDepth ≤ s.callDepth)
    (full' : env'.options.maxCallDepth ≤ t.callDepth) :
    FollowsFrom D T s t (Rendering.call (env.checking check) deeper d arguments)
      (Rendering.call env'.unobserved deeper' d' arguments') := by
  refine .get ?_
  rw [Environment.checking_options, Environment.unobserved_options, if_pos full, if_pos full']
  exact .pure hT beside

/-- A source is no template in both environments, or it gives templates that can be rendered one
after the other. -/
theorem nested {source : String} (room : s.room env.options ≤ k) (beside : s.Beside D t)
    (free : s.parseDepth < env.options.maxParseDepth)
    (compiled : Ended (fun d d' => ∀ j < k,
        Follows env.options j D T (deeper (.document d)) (deeper' (.document d')))
      (Document.compile env.options source) (Document.compile env'.options source)) :
    FollowsFrom D T s t (Rendering.nested (env.checking check) deeper source)
      (Rendering.nested env'.unobserved deeper' source) := by
  simp only [Rendering.nested, Environment.checking_options, Environment.unobserved_options]
  generalize Document.compile env.options source = found at compiled ⊢
  generalize Document.compile env'.options source = found' at compiled ⊢
  cases compiled with
  | error e => exact .throw _ beside
  | ok same =>
      refine .around (fun _ => State.Returns.exitParse) (fun _ _ => rfl)
        ((same (s.enterParse.room env.options) ?_).follows _ _ le_rfl
          (beside.update fun _ _ => rfl))
      simp only [State.room, State.enterParse] at room ⊢
      omega

theorem ifMayParse (hT : T .empty .empty) {c : Rendering Prop Rendered}
    {c' : Rendering Unit Rendered} (beside : s.Beside D t)
    (same : s.parseDepth < env.options.maxParseDepth ↔ t.parseDepth < env'.options.maxParseDepth)
    (h : s.parseDepth < env.options.maxParseDepth → FollowsFrom D T s t c c') :
    FollowsFrom D T s t (Rendering.ifMayParse (env.checking check) c)
      (Rendering.ifMayParse env'.unobserved c') := by
  refine .get ?_
  rw [Environment.checking_options, Environment.unobserved_options]
  by_cases free : s.parseDepth < env.options.maxParseDepth
  · rw [if_pos free, if_pos (same.1 free)]
    exact h free
  · rw [if_neg free, if_neg (mt same.2 free)]
    exact .pure hT beside

end FollowsFrom

/-- Nodes that name a source. The first is known to have passed when the source is asked for. -/
theorem Follows.naming {T : Rendered → Rendered → Prop} (hT : T .empty .empty)
    (hh : env.hosts = env'.hosts) {n n' : Tree.Node} {argument argument' : Tree.Expr}
    (ha : Follows env.options k D Eq
      (evaluate (env.checking check) (renderWhole (env.checking check)) argument)
      (evaluate env'.unobserved (renderWhole env'.unobserved) argument'))
    {c : String → Rendering Prop Rendered} {c' : String → Rendering Unit Rendered}
    (persists : ∀ text, Persists (c text))
    (same : ∀ s text s', check n s → Reads env s argument text s' →
      (s.parseDepth < env.options.maxParseDepth ↔ s.parseDepth < env'.options.maxParseDepth))
    (h : ∀ s text s', check n s → Reads env s argument text s' →
      s.parseDepth < env.options.maxParseDepth → ∀ t', s.Returns s' → s'.Beside D t' →
        s'.room env.options ≤ k → FollowsFrom D T s' t' (c text) (c' text)) :
    Follows env.options k D T
      (Rendering.visit (env.checking check) n
        (Rendering.reading (env.checking check) argument >>= fun text =>
          Rendering.ifMayParse (env.checking check) (c text)))
      (Rendering.visit env'.unobserved n'
        (Rendering.reading env'.unobserved argument' >>= fun text =>
          Rendering.ifMayParse env'.unobserved (c' text))) := by
  have parsed (text : String) : Persists (Rendering.ifMayParse (env.checking check) (c text)) :=
    (persists text).ifMayParse
  refine .checked ((reading hh ha).persists.bind parsed) fun s t checked room beside => ?_
  refine .bind parsed ((reading hh ha).follows s t room beside) ?_
  rintro text _ s' t' rfl returns beside ⟨passed, read⟩
  have reads := reads_of_checked read
  have depth : t'.parseDepth = s'.parseDepth := by
    obtain ⟨_, _, rfl⟩ := beside
    rfl
  refine .ifMayParse hT beside ?_ fun free => ?_
  · rw [depth, returns.parseDepth]
    exact same s text s' checked reads
  · exact h s text s' checked reads (returns.parseDepth ▸ free) t' returns beside
      (returns.room_eq env.options ▸ room)

/-- From states with these depths calls are skipped in both environments or in none. The second
definition has the parameters of the first, and its body can follow. -/
structure CallsAlike (check : Tree.Node → State → Prop) (env env' : Environment) (k : Nat)
    (D : Definitions → Definitions → Prop) (T : Rendered → Rendered → Prop) (s : State)
    (d d' : Definition) : Prop where
  same : s.callDepth < env.options.maxCallDepth ↔ s.callDepth < env'.options.maxCallDepth
  parameters : d.parameters = d'.parameters
  follows : ∀ j < k, Follows env.options j D T (renderWhole (env.checking check) (.body d.body))
    (renderWhole env'.unobserved (.body d'.body))

theorem Follows.macroCall {E : String → String → Prop} (hE : Texts E) {name source : String}
    {arguments arguments' : List Tree.Expr} {place place' : Region}
    (ha : Follows env.options k D Eq
      (evaluateAll (env.checking check) (renderWhole (env.checking check)) arguments)
      (evaluateAll env'.unobserved (renderWhole env'.unobserved) arguments'))
    (alike : ∀ s ds, check (.macroCall name arguments source place) s → D s.definitions ds →
      Option.Rel (CallsAlike check env env' k D (Rendered.Like E) s)
        (s.definitions.get? name) (ds.get? name)) :
    Follows env.options k D (Rendered.Like E)
      (visitNode (env.checking check) (renderWhole (env.checking check))
        (.macroCall name arguments source place))
      (visitNode env'.unobserved (renderWhole env'.unobserved)
        (.macroCall name arguments' source place')) := by
  simp only [visitNode, renderNode]
  refine .checked ?_ fun s t checked room beside => ?_
  · refine (Persists.unseen _).bind fun s => ?_
    split
    · exact .call ha.persists (Persists.renderWhole check env _)
    · exact (Persists.report check env _).bind fun _ => .unseen _
  · obtain ⟨ds, related, rfl⟩ := id beside
    have found := alike s ds checked related
    refine .get ?_
    dsimp only
    revert found
    generalize s.definitions.get? name = d, ds.get? name = d'
    rintro (⟨same, parameters, follows⟩ | _)
    · by_cases free : s.callDepth < env.options.maxCallDepth
      · exact .call parameters ha (Persists.renderWhole check env _) follows room beside free
          (same.1 free)
      · exact .call_skipped (hE.like _) beside (Nat.not_lt.1 free)
          (Nat.not_lt.1 (mt same.2 free))
    · exact (Follows.print (hE.refl source)).follows _ _ room beside

/-- In both environments the source is no template, or it gives templates of which the second can
follow the first. -/
def CompilesAlike (check : Tree.Node → State → Prop) (env env' : Environment) (k : Nat)
    (D : Definitions → Definitions → Prop) (T : Rendered → Rendered → Prop) (source : String) :
    Prop :=
  Ended (fun d d' => ∀ j < k, Follows env.options j D T
      (renderWhole (env.checking check) (.document d)) (renderWhole env'.unobserved (.document d')))
    (Document.compile env.options source) (Document.compile env'.options source)

namespace Follows

variable {T : Rendered → Rendered → Prop} (hT : T .empty .empty) (hh : env.hosts = env'.hosts)
  {argument argument' : Tree.Expr} {place place' : Region}
  (ha : Follows env.options k D Eq
    (evaluate (env.checking check) (renderWhole (env.checking check)) argument)
    (evaluate env'.unobserved (renderWhole env'.unobserved) argument'))

include hT hh ha

theorem evaluateNode
    (same : ∀ s source t, check (.evaluate argument place) s → Reads env s argument source t →
      (s.parseDepth < env.options.maxParseDepth ↔ s.parseDepth < env'.options.maxParseDepth))
    (alike : ∀ s source t, check (.evaluate argument place) s → Reads env s argument source t →
      s.parseDepth < env.options.maxParseDepth → CompilesAlike check env env' k D T source) :
    Follows env.options k D T
      (visitNode (env.checking check) (renderWhole (env.checking check)) (.evaluate argument place))
      (visitNode env'.unobserved (renderWhole env'.unobserved) (.evaluate argument' place')) := by
  simp only [visitNode, renderNode]
  refine naming hT hh ha (Persists.nested check env) same ?_
  intro s source s' checked reads free t' returns beside room
  exact .nested room beside (returns.parseDepth ▸ free) (alike s source s' checked reads free)

theorem parseNode (hl : env.loader = env'.loader)
    (ht : env.options.tolerant = env'.options.tolerant)
    (same : ∀ s name t, check (.parse argument place) s → Reads env s argument name t →
      (s.parseDepth < env.options.maxParseDepth ↔ s.parseDepth < env'.options.maxParseDepth))
    (alike : ∀ s name source t, check (.parse argument place) s → Reads env s argument name t →
      s.parseDepth < env.options.maxParseDepth → env.loader t.requests name = .ok source →
        CompilesAlike check env env' k D T source) :
    Follows env.options k D T
      (visitNode (env.checking check) (renderWhole (env.checking check)) (.parse argument place))
      (visitNode env'.unobserved (renderWhole env'.unobserved) (.parse argument' place')) := by
  simp only [visitNode, renderNode]
  have load (name : String) : Follows env.options k D Eq
      (Rendering.load (env.checking check) name) (Rendering.load env'.unobserved name) :=
    load hl ht name
  refine naming hT hh ha (Persists.nestedResource check env) same ?_
  intro s name s' checked reads free t' returns beside room
  refine .bind (fun source => ?_) ((load name).follows s' t' room beside) ?_
  · cases source with
    | some source => exact Persists.nested check env source
    | none => exact .unseen _
  · rintro source _ u u' rfl returns' beside ⟨passed, loaded⟩
    cases source with
    | none => exact .pure hT beside
    | some source =>
        have depth := (returns.trans returns').parseDepth
        exact .nested (returns'.room_eq env.options ▸ room) beside (depth ▸ free)
          (alike s name source s' checked reads free (loader_of_load loaded))

end Follows

end

end Rendering

open Rendering in
/-- A render follows another one all the way, if all nodes pass that the first has rendered. -/
theorem Document.run_followed {check : Tree.Node → State → Prop} {env env' : Environment}
    {D : Definitions → Definitions → Prop} {T : Rendered → Rendered → Prop} {d d' : Document}
    {context : Context} {store : Store}
    (pass : Event.AllPass check (d.events env context store))
    (start : D (.empty env.options.allowRedefinition) (.empty env'.options.allowRedefinition))
    (h : ∀ k, Follows env.options k D T (renderWhole (env.checking check) (.document d))
      (renderWhole env'.unobserved (.document d'))) :
    ∃ s, Followed D T s (d.run env.unobserved () context store).1
      (d'.run env'.unobserved () context store).1 := by
  let s := (d.entry env.recorded [] context store).state
  let t := (d'.entry env'.recorded [] context store).state
  have checked := (Environment.checking_maps check env).renderFrame (frameBound env.options)
    (.document d) s []
  have alike := (unobserved_alike (env.checking check)).renderFrame (frameBound env.options)
    (.document d) s (Event.AllPass check []) ()
  have held : (renderWhole (env.checking check) (.document d) s (Event.AllPass check [])).2 :=
    (congrArg Prod.snd checked).symm ▸ pass
  have followed := (h (s.room env.options)).follows s t le_rfl ⟨_, start, rfl⟩ _ held
  exact ⟨s, (show _ = (d.run env.unobserved () context store).1 from alike) ▸ followed⟩

end Template

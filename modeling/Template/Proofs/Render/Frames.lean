import Template.Proofs.Render.ScopeBalance
import Template.Proofs.Value.Copies
import Template.Proofs.Value.Endless

/-!
The frames that are entered while a frame is rendered. Inside a frame the rendering follows the
document; only calls of definitions and templates that are named on the way lead out of it. Each
of them uses up one of the depths, so the frames inside a frame end, and with them the frame itself.
-/

namespace Template

/-- How many calls and parsed templates may still be opened inside one another. -/
def State.room (options : Options) (s : State) : Nat :=
  (options.maxCallDepth - s.callDepth) + (options.maxParseDepth - s.parseDepth)

theorem State.Returns.room_eq {s t : State} (h : s.Returns t) (options : Options) :
    t.room options = s.room options := by
  simp only [State.room, h.callDepth, h.parseDepth]

/-- A frame that is entered, and what it is rendered from. -/
structure Entry (ω : Type) where
  frame : Frame
  state : State
  seen : ω

/-- How a computation ends: its result, the state, and what the observer keeps. -/
abbrev Outcome (ω α : Type) := (Except RenderError α × State) × ω

namespace Rendering

/-- Renders a frame. The frames that it enters are rendered by `deeper`. -/
def runFrame {ω : Type} (env : Observed ω) (deeper : Frame → Rendering ω Rendered) :
    Frame → Rendering ω Rendered
  | .body nodes => renderNodes env deeper nodes
  | .document d => renderDocument env deeper d

/-- Renders a frame with as many frames inside one another as the limits allow. -/
def renderWhole {ω : Type} (env : Observed ω) : Frame → Rendering ω Rendered :=
  renderFrame env (frameBound env.options)

theorem renderFrame_succ {ω : Type} (env : Observed ω) (frames : Nat) (f : Frame) :
    renderFrame env (frames + 1) f = runFrame env (renderFrame env frames) f := by
  cases f <;> rfl

theorem Walk.runFrame {ω₁ ω₂ : Type} {env₁ : Observed ω₁} {env₂ : Observed ω₂}
    {deeper₁ : Frame → Rendering ω₁ Rendered} {deeper₂ : Frame → Rendering ω₂ Rendered}
    {P : Tree.Node → Prop} {R : {α : Type} → Rendering ω₁ α → Rendering ω₂ α → Prop}
    {Q : Rendering ω₁ Rendered → Rendering ω₂ Rendered → Prop}
    (h : Walk env₁ env₂ deeper₁ deeper₂ P R Q) (f : Frame) (hp : ∀ n ∈ f.allNodes, P n) :
    Q (Rendering.runFrame env₁ deeper₁ f) (Rendering.runFrame env₂ deeper₂ f) := by
  cases f with
  | body nodes => exact h.renderNodes nodes hp
  | document d => exact h.renderDocument d hp

end Rendering

section

variable {ω : Type}

/-- The observer also keeps a list of the frames that are entered. -/
def Observed.noting (env : Observed ω) : Observed (ω × List (Entry ω)) :=
  { env.toEnvironment with observe := fun event (w, entries) => (env.observe event w, entries) }

theorem Observed.noting_toEnvironment (env : Observed ω) :
    env.noting.toEnvironment = env.toEnvironment := rfl

/-- Answers for a frame, and notes that it is entered. -/
def Rendering.noted (answer : Frame → Rendering ω Rendered) (f : Frame) :
    Rendering (ω × List (Entry ω)) Rendered :=
  fun s (w, entries) => ((answer f s w).1, ((answer f s w).2, entries ++ [⟨f, s, w⟩]))

namespace Entry

/-- What is answered for the frame. -/
def answered (answer : Frame → Rendering ω Rendered) (e : Entry ω) : Outcome ω Rendered :=
  answer e.frame e.state e.seen

/-- The frames that are entered next while the frame is rendered, in order, if the rendering of each
of them ends as `answer` says. -/
def entered (env : Observed ω) (answer : Frame → Rendering ω Rendered) (e : Entry ω) :
    List (Entry ω) :=
  (Rendering.runFrame env.noting (Rendering.noted answer) e.frame e.state (e.seen, [])).2.2

/-- The rendering of a frame ends with an outcome if that of each frame it enters ends, and the
outcome is made from how they end. Nothing limits the number of frames inside one another: frames
that enter each other without end have no outcome. -/
inductive Ends (env : Observed ω) : Entry ω → Outcome ω Rendered → Prop where
  | intro (answer : Frame → Rendering ω Rendered) (e : Entry ω)
      (h : ∀ inside ∈ e.entered env answer, Ends env inside (inside.answered answer)) :
      Ends env e (e.answered (Rendering.runFrame env answer))

end Entry

end

namespace Rendering

open State

variable {ω α β : Type}

/-- What is said of a run from `s` that enters the frames `new`. It depends on `answer` for these
alone; if they leave the depths as they were so does the run, and there is less room inside them
where `B` holds. -/
structure NotedRun (options : Options) (answer answer' : Frame → Rendering ω Rendered) (B : Prop)
    (s : State) (new : List (Entry ω)) (out out' : Outcome ω α) : Prop where
  same : (∀ e ∈ new, e.answered answer = e.answered answer') → out = out'
  returns : (∀ e ∈ new, e.state.Returns (e.answered answer).1.2) → s.Returns out.1.2
  room : (∀ e ∈ new, e.state.Returns (e.answered answer).1.2) → B →
    ∀ e ∈ new, e.state.room options < s.room options

/-- The first computation notes the frames that it enters and answers by `answer`; the second notes
nothing and answers by `answer'`. -/
def Noted (options : Options) (answer answer' : Frame → Rendering ω Rendered) (B : State → Prop)
    (c : Rendering (ω × List (Entry ω)) α) (c' : Rendering ω α) : Prop :=
  ∀ s w entries, ∃ new out, c s (w, entries) = (out.1, (out.2, entries ++ new)) ∧
    NotedRun options answer answer' (B s) s new out (c' s w)

namespace Noted

variable {options : Options} {answer answer' : Frame → Rendering ω Rendered} {B : State → Prop}

/-- A computation that enters no frame. -/
theorem plain {c : Rendering (ω × List (Entry ω)) α} {c' : Rendering ω α}
    (h : ∀ s w entries, c s (w, entries) = ((c' s w).1, ((c' s w).2, entries)))
    (hr : ∀ (s : State) w, s.Returns (c' s w).1.2) : Noted options answer answer' B c c' := by
  intro s w entries
  exact ⟨[], c' s w, by simp [h], fun _ => rfl, fun _ => hr s w, fun _ _ => by simp⟩

theorem pure (a : α) : Noted options answer answer' B (Pure.pure a) (Pure.pure a) :=
  plain (fun _ _ _ => rfl) fun s _ => .refl s

theorem bind {c : Rendering (ω × List (Entry ω)) α} {c' : Rendering ω α}
    {f : α → Rendering (ω × List (Entry ω)) β} {f' : α → Rendering ω β}
    (hB : ∀ {s t}, B s → s.Returns t → B t) (hc : Noted options answer answer' B c c')
    (hf : ∀ a, Noted options answer answer' B (f a) (f' a)) :
    Noted options answer answer' B (c >>= f) (c' >>= f') := by
  intro s w entries
  obtain ⟨new, ⟨⟨r, t⟩, v⟩, he, run⟩ := hc s w entries
  rw [bind_run, bind_run, he]
  cases r with
  | error e =>
      refine ⟨new, ((.error e, t), v), rfl, fun h => ?_, run.returns, run.room⟩
      rw [← run.same h]
  | ok a =>
      obtain ⟨new', out', he', run'⟩ := hf a t v (entries ++ new)
      refine ⟨new ++ new', out', by rw [← List.append_assoc]; exact he', fun h => ?_, fun h => ?_,
        fun h hs => ?_⟩
      · obtain ⟨h, h'⟩ := List.forall_mem_append.1 h
        rw [← run.same h]
        exact run'.same h'
      · obtain ⟨h, h'⟩ := List.forall_mem_append.1 h
        exact (run.returns h).trans (run'.returns h')
      · obtain ⟨h, h'⟩ := List.forall_mem_append.1 h
        have between := run.returns h
        refine List.forall_mem_append.2 ⟨run.room h hs, fun e he => ?_⟩
        exact between.room_eq options ▸ run'.room h' (hB hs between) e he

theorem update {f : State → State} (hf : ∀ s : State, s.Returns (f s)) :
    Noted options answer answer' B (modify f) (modify f) :=
  plain (fun _ _ _ => rfl) fun s _ => hf s

theorem inScope (B' : State → Prop) {c : Rendering (ω × List (Entry ω)) α} {c' : Rendering ω α}
    (hB : ∀ s, B s → B' { s with scopes := s.scopes.push })
    (hc : Noted options answer answer' B' c c') :
    Noted options answer answer' B (Rendering.inScope c) (Rendering.inScope c') := by
  intro s w entries
  obtain ⟨new, out, he, run⟩ := hc { s with scopes := s.scopes.push } w entries
  rw [inScope_run, inScope_run, he]
  refine ⟨new, (closeScope out.1, out.2), rfl, fun h => ?_, fun h => ?_, fun h hs => ?_⟩
  · rw [← run.same h]
  · have returns := run.returns h
    rw [closeScope_of_returns returns]
    exact ⟨rfl, rfl, returns.loops, returns.callDepth, returns.parseDepth⟩
  · exact run.room h (hB s hs)

theorem inLoop {body : Nat → Rendering (ω × List (Entry ω)) α} {body' : Nat → Rendering ω α}
    (h : ∀ number, Noted options answer answer' (fun _ => True) (body number) (body' number)) :
    Noted options answer answer' (fun _ => True) (Rendering.inLoop body)
      (Rendering.inLoop body') := by
  have always {s t : State} : True → s.Returns t → True := fun _ _ => trivial
  refine bind always (plain (fun _ _ _ => rfl) fun s _ => .refl s) fun s => bind always
    (plain (fun _ _ _ => rfl) fun s _ => ⟨rfl, rfl, rfl, rfl, rfl⟩) fun number => ?_
  intro s w entries
  obtain ⟨new, out, he, run⟩ := h number (s.enterLoop number) w entries
  rw [around_run, around_run, he]
  refine ⟨new, ((out.1.1, exitLoop out.1.2), out.2), rfl, fun h => ?_, fun h => ?_, run.room⟩
  · rw [← run.same h]
  · exact (run.returns h).exitLoop

/-- A frame is entered. -/
theorem entry {enter exit : State → State}
    (hr : ∀ s t, (enter s).Returns t → s.Returns (exit t))
    (hroom : ∀ s, B s → (enter s).room options < s.room options) (f : Frame) :
    Noted options answer answer' B (around enter exit (noted answer f))
      (around enter exit (answer' f)) := by
  intro s w entries
  let e : Entry ω := ⟨f, enter s, w⟩
  let out := e.answered answer
  refine ⟨[e], ((out.1.1, exit out.1.2), out.2), rfl, fun h => ?_, fun h => ?_, fun _ hs => ?_⟩
  · have same : answer f (enter s) w = answer' f (enter s) w := h e (List.mem_singleton_self e)
    rw [around_run, ← same]
    rfl
  · exact hr s out.1.2 (h e (List.mem_singleton_self e))
  · exact List.forall_mem_singleton.2 (hroom s hs)

/-- What is done depends on the state. -/
theorem branch {p : State → Prop} [DecidablePred p] {a b : Rendering (ω × List (Entry ω)) α}
    {a' b' : Rendering ω α} (ha : Noted options answer answer' (fun s => B s ∧ p s) a a')
    (hb : Noted options answer answer' (fun s => B s ∧ ¬p s) b b') :
    Noted options answer answer' B (MonadState.get >>= fun s => if p s then a else b)
      (MonadState.get >>= fun s => if p s then a' else b') := by
  intro s w entries
  rw [bind_run, bind_run, get_run, get_run]
  by_cases hp : p s
  · obtain ⟨new, out, he, run⟩ := ha s w entries
    simp only [hp, if_true]
    exact ⟨new, out, he, run.same, run.returns, fun h hs => run.room h ⟨hs, hp⟩⟩
  · obtain ⟨new, out, he, run⟩ := hb s w entries
    simp only [hp, if_false]
    exact ⟨new, out, he, run.same, run.returns, fun h hs => run.room h ⟨hs, hp⟩⟩

theorem mono {B' : State → Prop} {c : Rendering (ω × List (Entry ω)) α} {c' : Rendering ω α}
    (hB : ∀ s, B s → B' s) (hc : Noted options answer answer' B' c c') :
    Noted options answer answer' B c c' := by
  intro s w entries
  obtain ⟨new, out, he, run⟩ := hc s w entries
  exact ⟨new, out, he, run.same, run.returns, fun h hs => run.room h (hB s hs)⟩

variable {env : Observed ω}

theorem steps : Steps env.noting env
    (Noted env.options answer answer' (fun _ => True)) where
  hosts := rfl
  maxPasses := rfl
  pure := pure
  bind := bind fun _ _ => trivial
  get := plain (fun _ _ _ => rfl) fun s _ => .refl s
  onStore _ := plain (fun _ _ _ => rfl) fun _ _ => ⟨rfl, rfl, rfl, rfl, rfl⟩
  setAll names values := update (returns_setAll names values)
  report _ := plain (fun _ _ _ => rfl) fun s _ => .refl s
  inScope := inScope _ fun _ _ => trivial
  inLoop := inLoop

theorem call {d : Definition} {arguments : Rendering (ω × List (Entry ω)) (List Value)}
    {arguments' : Rendering ω (List Value)}
    (ha : Noted env.options answer answer' (fun _ => True) arguments arguments') :
    Noted env.options answer answer' (fun _ => True)
      (Rendering.call env.noting (noted answer) d arguments)
      (Rendering.call env answer' d arguments') := by
  let Free (s : State) : Prop := ¬env.options.maxCallDepth ≤ s.callDepth
  have stable {s t : State} (hs : Free s) (h : s.Returns t) : Free t := by
    simp only [Free, h.callDepth]
    exact hs
  refine branch (pure _) (mono (show ∀ s, _ → Free s from fun _ hs => hs.2) ?_)
  refine bind stable (mono (fun _ _ => trivial) ha) fun values => inScope Free (fun _ hs => hs) ?_
  refine bind stable (update (returns_setAll _ _)) fun _ => bind stable (entry ?_ ?_ _) fun r =>
    pure _
  · exact fun s t h => h.exitCall
  · intro s hs
    simp only [Free] at hs
    simp only [State.room, enterCall]
    omega

theorem load (hB : ∀ {s t}, B s → s.Returns t → B t) (name : String) :
    Noted options answer answer' B (Rendering.load env.noting name) (Rendering.load env name) := by
  simp only [Rendering.load, Observed.noting_toEnvironment]
  refine bind hB (plain (fun _ _ _ => rfl) fun s _ => .refl s) fun _ =>
    bind hB (plain (fun _ _ _ => rfl) fun s _ => .refl s) fun _ => bind hB (update fun _ => ⟨rfl, rfl, rfl, rfl, rfl⟩) fun _ => ?_
  split
  · exact pure _
  · by_cases ht : env.options.tolerant = true
    · simp only [ht, if_true]
      exact pure _
    · simp only [ht]
      exact plain (fun _ _ _ => rfl) fun s _ => .refl s

theorem nested (source : String) :
    Noted env.options answer answer' (fun s => s.parseDepth < env.options.maxParseDepth)
      (Rendering.nested env.noting (noted answer) source)
      (Rendering.nested env answer' source) := by
  simp only [Rendering.nested, Observed.noting_toEnvironment]
  split
  · exact plain (fun _ _ _ => rfl) fun s _ => .refl s
  · refine entry ?_ ?_ _
    · exact fun s t h => h.exitParse
    · intro s hs
      simp only [State.room, enterParse]
      omega

theorem nestedResource (name : String) :
    Noted env.options answer answer' (fun s => s.parseDepth < env.options.maxParseDepth)
      (Rendering.nestedResource env.noting (noted answer) name)
      (Rendering.nestedResource env answer' name) := by
  have stable {s t : State} (hs : s.parseDepth < env.options.maxParseDepth) (h : s.Returns t) :
      t.parseDepth < env.options.maxParseDepth := h.parseDepth ▸ hs
  refine bind stable (load stable name) fun source => ?_
  split
  · exact nested _
  · exact pure _

theorem ifMayParse {c : Rendering (ω × List (Entry ω)) Rendered} {c' : Rendering ω Rendered}
    (hc : Noted env.options answer answer' (fun s => s.parseDepth < env.options.maxParseDepth)
      c c') :
    Noted env.options answer answer' (fun _ => True) (Rendering.ifMayParse env.noting c)
      (Rendering.ifMayParse env c') :=
  branch (mono (fun _ hs => hs.2) hc) (pure _)

theorem walk : Walk env.noting env (noted answer) answer' (fun _ => True)
    (Noted env.options answer answer' (fun _ => True))
    (Noted env.options answer answer' (fun _ => True)) := by
  refine steps.parts.walk (fun _ => update fun _ => ⟨rfl, rfl, rfl, rfl, rfl⟩) (fun _ _ _ => call)
    (fun source => ifMayParse (nested source)) (fun name => ifMayParse (nestedResource name))
    fun name => ?_
  refine bind (fun _ _ => trivial) (load (fun _ _ => trivial) name) fun source => ?_
  split
  · exact steps.print _
  · exact pure _

end Noted

end Rendering

namespace Entry

open Rendering

variable {ω : Type} {env : Observed ω}

/-- What a frame enters, and what it makes of the answers. -/
theorem entered_run (answer answer' : Frame → Rendering ω Rendered) (e : Entry ω) :
    NotedRun env.options answer answer' True e.state (e.entered env answer)
      (e.answered (runFrame env answer)) (e.answered (runFrame env answer')) := by
  have walk (answer' : Frame → Rendering ω Rendered) :
      Noted env.options answer answer' (fun _ => True)
        (runFrame env.noting (noted answer) e.frame) (runFrame env answer' e.frame) :=
    Noted.walk.runFrame e.frame fun _ _ => trivial
  obtain ⟨new, out, he, run⟩ := walk answer' e.state e.seen []
  obtain ⟨new', out', he', run'⟩ := walk answer e.state e.seen []
  obtain ⟨h₁, h₂⟩ := Prod.mk.inj (he.symm.trans he')
  obtain ⟨h₂, -⟩ := Prod.mk.inj h₂
  have hout : out = e.answered (runFrame env answer) :=
    (Prod.ext h₁ h₂).trans (run'.same fun _ _ => rfl)
  have hnew : e.entered env answer = new := by
    simp only [entered, he, List.nil_append]
  exact hnew ▸ hout ▸ run

/-- The frames that a render enters have less room than the one they are entered from. -/
theorem room_of_entered (frames : Nat) (e inside : Entry ω)
    (h : inside ∈ e.entered env (renderFrame env frames)) :
    inside.state.room env.options < e.state.room env.options :=
  (entered_run _ (renderFrame env frames) e).room
    (fun f _ => ((agreement_always env).renderFrame frames f.frame f.state f.seen).returns) trivial
    inside h

/-- With a frame for each call and template that may still be opened, more frames make no
difference. -/
theorem answered_renderFrame (e : Entry ω) {m n : Nat} (hm : e.state.room env.options < m)
    (hn : e.state.room env.options < n) :
    e.answered (renderFrame env m) = e.answered (renderFrame env n) := by
  induction m generalizing e n with
  | zero => omega
  | succ m ih =>
      cases n with
      | zero => omega
      | succ n =>
          have hm' : renderFrame env (m + 1) = runFrame env (renderFrame env m) :=
            funext (renderFrame_succ env m)
          have hn' : renderFrame env (n + 1) = runFrame env (renderFrame env n) :=
            funext (renderFrame_succ env n)
          rw [hm', hn']
          refine (entered_run _ (renderFrame env n) e).same fun inside h => ?_
          have room := room_of_entered m e inside h
          exact ih inside (by omega) (by omega)

theorem room_lt_frameBound (env : Observed ω) (e : Entry ω) :
    e.state.room env.options < frameBound env.options := by
  simp only [State.room, frameBound]
  omega

/-- Rendering a frame is rendering what is in it, and the frames it enters likewise. -/
theorem answered_renderWhole (e : Entry ω) :
    e.answered (renderWhole env) = e.answered (runFrame env (renderWhole env)) := by
  have h : renderFrame env (frameBound env.options + 1) = runFrame env (renderWhole env) :=
    funext (renderFrame_succ env _)
  rw [← h]
  have room := e.room_lt_frameBound env
  exact answered_renderFrame e room (by omega)

/-- Every frame ends as the render of it says, which looks no deeper than the limits allow. -/
theorem ends_renderWhole (e : Entry ω) : Ends env e (e.answered (renderWhole env)) := by
  rw [answered_renderWhole]
  exact .intro _ e fun inside _ => ends_renderWhole inside
termination_by e.state.room env.options
decreasing_by exact room_of_entered _ e inside ‹_›

/-- No frame ends in two ways. -/
theorem Ends.eq_renderWhole {e : Entry ω} {out : Outcome ω Rendered} (h : Ends env e out) :
    out = e.answered (renderWhole env) := by
  induction h with
  | intro answer e h ih =>
      rw [answered_renderWhole]
      exact (entered_run answer (renderWhole env) e).same ih

end Entry

theorem Rendering.renderWhole_eq {ω : Type} (env : Observed ω) :
    renderWhole env = runFrame env (renderWhole env) :=
  funext fun f => funext fun s => funext fun w => Entry.answered_renderWhole ⟨f, s, w⟩

/-- The frame that a render of a document starts with. -/
def Document.entry {ω : Type} (env : Observed ω) (start : ω) (context : Context) (d : Document)
    (store : Store) : Entry ω :=
  let (global, store) := context.globalScope store
  ⟨.document d, .initial env.options global store, start⟩

/-- Rendering ends. Every frame ends in exactly one way, whatever it is entered from, and a render
ends as the frame of its document does: its limit on frames inside one another cuts nothing off.
The text of a value, equality and the copies that a render starts with do not depend on how deep
lists and maps are followed, where none of them contains itself. -/
theorem render_terminates {ω : Type} (env : Observed ω) :
    (∀ e : Entry ω, ∃! out, e.Ends env out) ∧
    (∀ (start : ω) (context : Context) (d : Document) (store : Store),
      (d.entry env start context store).Ends env (d.run env start context store)) ∧
    (∀ s : Store, s.Acyclic → ∀ depth, s.depthBound ≤ depth → ∀ v : Value,
      v.textWithin env.hosts s depth = v.display env.hosts s ∧
      (∀ u, v.equalWithin env.hosts s depth u = v.looseEq env.hosts s u) ∧
      (s.Closed → s.Has v → v.copyWithin depth s = v.deepCopy s)) := by
  refine ⟨fun e => ?_, fun start context d store => ?_, fun s hs depth h v => ⟨?_, ?_, ?_⟩⟩
  · exact ⟨_, e.ends_renderWhole, fun _ h => h.eq_renderWhole⟩
  · exact (d.entry env start context store).ends_renderWhole
  · exact Value.textWithin_eq_display hs h v
  · exact Value.equalWithin_eq_looseEq hs h v
  · exact fun hc hv => Value.copyWithin_eq_deepCopy hs hc h hv

/-- Two definitions that call each other, and a call of one of them. -/
def Document.circle : Document :=
  { nodes :=
      [.define "a" [] [.text "a" default, .macroCall "b" [] "#b()" default] default,
        .define "b" [] [.text "b" default, .macroCall "a" [] "#a()" default] default,
        .macroCall "a" [] "#a()" default]
    expression := none }

/-- Few calls inside one another. -/
def Environment.fewCalls : Environment :=
  ⟨{ Options.standard with maxCallDepth := 5 }, .none, .none⟩

/-- A list with a list in it. -/
def Store.listInList : Store := ⟨#[.list [.list 1], .list [.text "x"]], #[], #[]⟩

theorem Store.listInList_acyclic : listInList.Acyclic := acyclic_of_lt (by decide)

theorem Store.listInList_closed : listInList.Closed := closed_of_lt (by decide)

theorem render_terminates_circle :
    (∃ t, (Document.circle.entry Environment.fewCalls.unobserved () .empty .empty).Ends
      Environment.fewCalls.unobserved ((.ok ⟨.normal, "ababa"⟩, t), ())) ∧
    Store.listInList.Acyclic ∧ Store.listInList.Closed ∧
    Value.textWithin .none Store.listInList 9 (.list 0) =
      Value.display .none Store.listInList (.list 0) ∧
    Value.copyWithin 9 (.list 0) Store.listInList =
      Value.deepCopy (.list 0) Store.listInList := by
  let env := Environment.fewCalls.unobserved
  have ends := (render_terminates env).2.1 () .empty Document.circle .empty
  have text : (Document.circle.run env () .empty .empty).1.1.toOption =
      some ⟨.normal, "ababa"⟩ := by decide +kernel
  have values := (render_terminates env).2.2 Store.listInList Store.listInList_acyclic 9 (by decide)
    (.list 0)
  generalize Document.circle.run env () .empty .empty = out at ends text
  obtain ⟨⟨_ | r, t⟩, ⟨⟩⟩ := out
  · cases text
  · cases text
    exact ⟨⟨t, ends⟩, Store.listInList_acyclic, Store.listInList_closed, values.1,
      values.2.2 Store.listInList_closed (by decide)⟩

end Template

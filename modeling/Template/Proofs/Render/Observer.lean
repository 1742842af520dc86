import Template.Proofs.Render.Agreement

/-!
Observers see everything and change nothing: what a render answers and leaves does not depend on who
looks on.
-/

namespace Template.Rendering

variable {ω₁ ω₂ : Type}

/-- From every state both computations end alike, whatever their observers have seen. -/
def Alike {α : Type} (c₁ : Rendering ω₁ α) (c₂ : Rendering ω₂ α) : Prop :=
  ∀ s w₁ w₂, (c₁ s w₁).1 = (c₂ s w₂).1

namespace Alike

variable {α β : Type}

theorem pure (a : α) : Alike (Pure.pure a : Rendering ω₁ α) (Pure.pure a : Rendering ω₂ α) :=
  fun _ _ _ => rfl

theorem bind {c₁ : Rendering ω₁ α} {c₂ : Rendering ω₂ α} {f₁ : α → Rendering ω₁ β}
    {f₂ : α → Rendering ω₂ β} (hc : Alike c₁ c₂) (hf : ∀ a, Alike (f₁ a) (f₂ a)) :
    Alike (c₁ >>= f₁) (c₂ >>= f₂) := by
  intro s w₁ w₂
  have h := hc s w₁ w₂
  rw [bind_run, bind_run]
  generalize c₁ s w₁ = out₁ at h ⊢
  generalize c₂ s w₂ = out₂ at h ⊢
  obtain ⟨⟨r, s'⟩, w₁'⟩ := out₁
  obtain ⟨_, w₂'⟩ := out₂
  cases h
  cases r with
  | error e => rfl
  | ok a => exact hf a s' w₁' w₂'

theorem ofState (f : State → Except RenderError α × State) :
    Alike (fun s w => (f s, w) : Rendering ω₁ α) (fun s w => (f s, w) : Rendering ω₂ α) :=
  fun _ _ _ => rfl

theorem report {env₁ : Observed ω₁} {env₂ : Observed ω₂} (event₁ event₂ : State → Event) :
    Alike (Rendering.report env₁ event₁) (Rendering.report env₂ event₂) :=
  fun _ _ _ => rfl

theorem around {c₁ : Rendering ω₁ α} {c₂ : Rendering ω₂ α} (enter exit : State → State)
    (h : Alike c₁ c₂) : Alike (Rendering.around enter exit c₁) (Rendering.around enter exit c₂) := by
  intro s w₁ w₂
  rw [around_run, around_run, h (enter s) w₁ w₂]

theorem inScope {c₁ : Rendering ω₁ α} {c₂ : Rendering ω₂ α} (h : Alike c₁ c₂) :
    Alike (Rendering.inScope c₁) (Rendering.inScope c₂) := by
  intro s w₁ w₂
  rw [inScope_run, inScope_run, h _ w₁ w₂]

variable {env₁ : Observed ω₁} {env₂ : Observed ω₂}

/-- In environments with the same hosts, which treat everything but the loader alike. -/
theorem frameSteps (hh : env₁.hosts = env₂.hosts)
    (ho : env₁.options.tolerating true = env₂.options.tolerating true) :
    FrameSteps env₁ env₂ Alike where
  hosts := hh
  maxPasses := (Options.mk.inj ho).2.1
  pure := pure
  bind := bind
  get := ofState _
  onStore _ := fun _ _ _ => rfl
  setAll _ _ := ofState _
  report _ := report _ _
  inScope := inScope
  inLoop h := bind (ofState _) fun _ => bind (fun _ _ _ => rfl) fun number => around _ _ (h number)
  maxCallDepth := (Options.mk.inj ho).2.2.1
  maxParseDepth := (Options.mk.inj ho).2.2.2.1
  compile := by
    rw [← Document.compile_tolerating true, ho, Document.compile_tolerating]
  update _ := ofState _
  throw _ := ofState _
  around := around

end Alike

theorem agreement_alike {env₁ : Observed ω₁} {env₂ : Observed ω₂}
    (he : env₁.toEnvironment = env₂.toEnvironment) : Agreement env₁ env₂ Alike Alike :=
  have steps := Alike.frameSteps (congrArg Environment.hosts he) (he ▸ rfl)
  steps.agreement (steps.load (congrArg Environment.loader he) (he ▸ rfl))

/-- Both computations end alike, and the second observer keeps what `f` makes of all that the first
one keeps. -/
def Maps (f : ω₁ → ω₂) {α : Type} (c₁ : Rendering ω₁ α) (c₂ : Rendering ω₂ α) : Prop :=
  ∀ s w, c₂ s (f w) = ((c₁ s w).1, f (c₁ s w).2)

namespace Maps

variable {α β : Type} {f : ω₁ → ω₂}

theorem unseen (g : State → Except RenderError α × State) :
    Maps f (fun s w => (g s, w) : Rendering ω₁ α) (fun s w => (g s, w) : Rendering ω₂ α) :=
  fun _ _ => rfl

theorem bind {c₁ : Rendering ω₁ α} {c₂ : Rendering ω₂ α} {g₁ : α → Rendering ω₁ β}
    {g₂ : α → Rendering ω₂ β} (hc : Maps f c₁ c₂) (hg : ∀ a, Maps f (g₁ a) (g₂ a)) :
    Maps f (c₁ >>= g₁) (c₂ >>= g₂) := by
  intro s w
  rw [bind_run, bind_run, hc s w]
  obtain ⟨⟨r, s'⟩, w'⟩ := c₁ s w
  cases r with
  | error e => rfl
  | ok a => exact hg a s' w'

theorem around {c₁ : Rendering ω₁ α} {c₂ : Rendering ω₂ α} (enter exit : State → State)
    (h : Maps f c₁ c₂) :
    Maps f (Rendering.around enter exit c₁) (Rendering.around enter exit c₂) := by
  intro s w
  rw [around_run, around_run, h (enter s) w]

theorem frameSteps {env₁ : Observed ω₁} {env₂ : Observed ω₂}
    (he : env₁.toEnvironment = env₂.toEnvironment)
    (hf : ∀ event w, env₂.observe event (f w) = f (env₁.observe event w)) :
    FrameSteps env₁ env₂ (Maps f) where
  hosts := congrArg Environment.hosts he
  maxPasses := congrArg (fun env => env.options.maxPasses) he
  pure _ := unseen _
  bind := bind
  get := unseen _
  onStore _ := fun _ _ => rfl
  setAll _ _ := unseen _
  report event := fun s w => congrArg (Prod.mk _) (hf (event s) w)
  inScope h := fun s w => by rw [inScope_run, inScope_run, h _ w]
  inLoop h := bind (unseen _) fun _ => bind (fun _ _ => rfl) fun number => around _ _ (h number)
  maxCallDepth := congrArg (fun env => env.options.maxCallDepth) he
  maxParseDepth := congrArg (fun env => env.options.maxParseDepth) he
  compile := congrArg (fun env => Document.compile env.options) he
  update _ := unseen _
  throw _ := unseen _
  around := around

end Maps

/-- What an observer can make of what another one keeps, he sees himself. -/
theorem agreement_maps {env₁ : Observed ω₁} {env₂ : Observed ω₂} {f : ω₁ → ω₂}
    (he : env₁.toEnvironment = env₂.toEnvironment)
    (hf : ∀ event w, env₂.observe event (f w) = f (env₁.observe event w)) :
    Agreement env₁ env₂ (Maps f) (Maps f) :=
  have steps := Maps.frameSteps he hf
  steps.agreement (steps.load (congrArg Environment.loader he)
    (congrArg (fun env => env.options.tolerant) he))

end Template.Rendering

namespace Template.Document

/-- The outcome is the same whoever looks on. -/
theorem renderObserved_eq_render {ω : Type} (env : Observed ω) (w : ω) (context : Context)
    (d : Document) (store : Store) :
    (d.renderObserved env w context store).1 = d.render env.toEnvironment context store := by
  have alike := (Rendering.agreement_alike (show env.toEnvironment =
    env.toEnvironment.unobserved.toEnvironment from rfl)).renderFrame
      (Rendering.frameBound env.options) (.document d)
  have h : (d.run env w context store).1 =
      (d.run env.toEnvironment.unobserved () context store).1 := alike _ w ()
  exact congrArg (fun out => RenderOutcome.mk (out.1.map Rendered.text) out.2.store out.2.requests) h

end Template.Document

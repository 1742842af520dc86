import Template.Proofs.Markup.RoundTrip
import Template.Proofs.Render.Observer

/-!
Resources that cannot be loaded. Where failures are tolerated, a resource that is missing is as good
as one that is empty; and tolerance makes a difference only to renders that fail at the loader.
-/

namespace Template

/-- Has the empty source wherever the other loader fails. -/
def Loader.orEmpty (loader : Loader) : Loader := fun before name =>
  match loader before name with
  | .ok source => .ok source
  | .error _ => .ok ""

namespace Environment

/-- The same environment, in which failures of the loader are tolerated or not. -/
def tolerating (tolerant : Bool) (env : Environment) : Environment :=
  { env with options := env.options.tolerating tolerant }

/-- The same environment, in which what cannot be loaded is empty. -/
def lenient (env : Environment) : Environment := { env with loader := env.loader.orEmpty }

end Environment

/-! ### The empty template -/

theorem tokenize_empty : tokenize "" = .ok [] := by simp [tokenize, Lexer.run]

theorem Markup.parseSegments_nil (source : String) (limit : Nat) :
    parseSegments source [] limit = .ok [] := by
  have none : BodyShaped [] := ⟨nofun, .nil⟩
  obtain ⟨found, next, missed, h, -, he⟩ := (Grammar.template_gives none).given (c := ⟨0, 0, []⟩) rfl
  cases found with
  | nil => exact parseSegments_of_success rfl h
  | cons s rest => simp [unplacedBody] at he

theorem Document.compile_empty (options : Options) :
    Document.compile options "" = .ok ⟨[], none⟩ := by
  have gobbled : Markup.gobble options.gobbling [] = [] := by cases options.gobbling <;> rfl
  simp only [compile, segments, tokenize_empty, Markup.parseSegments_nil, gobbled]
  rfl

namespace Rendering

variable {ω ω₁ ω₂ : Type} {env : Observed ω} {env₁ : Observed ω₁} {env₂ : Observed ω₂}

theorem renderDocument_empty (deeper : Frame → Rendering ω Rendered) (s : State) (w : ω) :
    renderDocument env deeper ⟨[], none⟩ s w = ((.ok .empty, s), w) := by
  simp only [renderDocument, wholeValue, renderNodes]
  rfl

theorem renderFrame_empty (frames : Nat) (s : State) (w : ω) :
    renderFrame env frames (.document ⟨[], none⟩) s w = ((.ok .empty, s), w) := by
  cases frames with
  | zero => rfl
  | succ frames => exact renderDocument_empty _ s w

theorem nested_empty (frames : Nat) (s : State) (w : ω) :
    nested env (renderFrame env frames) "" s w = ((.ok .empty, s), w) := by
  simp only [nested, Document.compile_empty, inParse, around_run, renderFrame_empty]
  rfl

/-! ### What cannot be loaded -/

theorem load_run (env : Observed ω) (name : String) (s : State) (w : ω) :
    (load env name s w).1 =
      match env.loader s.requests name with
      | .ok source => (.ok (some source), s.request name)
      | .error e =>
          (if env.options.tolerant then .ok none else .error (.loader e), s.request name) := by
  simp only [load, bind_run, report, get_run, modify_run]
  cases env.loader s.requests name with
  | ok source => rfl
  | error e => cases env.options.tolerant <;> rfl

/-- If the first rendering succeeds, so does the second, with the same outcome. -/
def Succeeds {α : Type} (c₁ : Rendering ω₁ α) (c₂ : Rendering ω₂ α) : Prop :=
  ∀ s w₁ w₂ a s', (c₁ s w₁).1 = (.ok a, s') → (c₂ s w₂).1 = (.ok a, s')

namespace Succeeds

variable {α β : Type} {c₁ : Rendering ω₁ α} {c₂ : Rendering ω₂ α}

theorem ofAlike (h : Alike c₁ c₂) : Succeeds c₁ c₂ :=
  fun s w₁ w₂ _ _ hc => (h s w₁ w₂).symm.trans hc

theorem bind {f₁ : α → Rendering ω₁ β} {f₂ : α → Rendering ω₂ β} (hc : Succeeds c₁ c₂)
    (hf : ∀ a, Succeeds (f₁ a) (f₂ a)) : Succeeds (c₁ >>= f₁) (c₂ >>= f₂) := by
  intro s w₁ w₂ b t h
  have first := hc s w₁ w₂
  rw [bind_run] at h ⊢
  generalize c₁ s w₁ = out₁ at h first
  generalize c₂ s w₂ = out₂ at first ⊢
  obtain ⟨⟨r, s'⟩, w₁'⟩ := out₁
  obtain ⟨_, w₂'⟩ := out₂
  cases r with
  | error e => cases h
  | ok a =>
      obtain rfl := first a s' rfl
      exact hf a s' w₁' w₂' b t h

theorem around (enter exit : State → State) (h : Succeeds c₁ c₂) :
    Succeeds (Rendering.around enter exit c₁) (Rendering.around enter exit c₂) := by
  intro s w₁ w₂ a t ha
  have body := h (enter s) w₁ w₂
  rw [around_run] at ha ⊢
  generalize c₁ (enter s) w₁ = out₁ at ha body
  obtain ⟨⟨r, s'⟩, w₁'⟩ := out₁
  cases ha
  rw [body a s' rfl]

theorem inScope (h : Succeeds c₁ c₂) :
    Succeeds (Rendering.inScope c₁) (Rendering.inScope c₂) := by
  intro s w₁ w₂ a t ha
  have body := h { s with scopes := s.scopes.push } w₁ w₂
  rw [inScope_run] at ha ⊢
  generalize c₁ { s with scopes := s.scopes.push } w₁ = out₁ at ha body
  obtain ⟨⟨r, s'⟩, w₁'⟩ := out₁
  cases r with
  | error e =>
      simp only [closeScope] at ha
      split at ha <;> cases ha
  | ok b => rw [body b s' rfl]; exact ha

theorem frameSteps (hh : env₁.hosts = env₂.hosts)
    (ho : env₁.options.tolerating true = env₂.options.tolerating true) :
    FrameSteps env₁ env₂ Succeeds where
  hosts := hh
  maxPasses := (Alike.frameSteps hh ho).maxPasses
  pure a := ofAlike (.pure a)
  bind := bind
  get := ofAlike (.ofState _)
  onStore _ := ofAlike fun _ _ _ => rfl
  setAll _ _ := ofAlike (.ofState _)
  report _ := ofAlike (.report _ _)
  inScope := inScope
  inLoop h := bind (ofAlike (.ofState _)) fun _ =>
    bind (ofAlike fun _ _ _ => rfl) fun number => around _ _ (h number)
  maxCallDepth := (Alike.frameSteps hh ho).maxCallDepth
  maxParseDepth := (Alike.frameSteps hh ho).maxParseDepth
  compile := (Alike.frameSteps hh ho).compile
  update _ := ofAlike (.ofState _)
  throw _ := ofAlike (.ofState _)
  around := around

/-- What is loaded where failures are not tolerated is loaded where they are. -/
theorem load (hl : env₁.loader = env₂.loader) (hs : env₁.options.tolerant = false) (name : String) :
    Succeeds (Rendering.load env₁ name) (Rendering.load env₂ name) := by
  intro s w₁ w₂ a t h
  rw [load_run] at h ⊢
  rw [← hl]
  cases found : env₁.loader s.requests name with
  | ok source => rwa [found] at h
  | error e => simp [found, hs] at h

end Succeeds

section

variable (ht : env₁.options.tolerant) (hl : env₂.loader = env₁.loader.orEmpty)

include ht hl

/-- Loading goes on alike if nothing is treated like an empty source. -/
theorem Alike.load_orEmpty {f₁ : Option String → Rendering ω₁ Rendered}
    {f₂ : Option String → Rendering ω₂ Rendered}
    (some : ∀ source, Alike (f₁ (some source)) (f₂ (some source)))
    (none : Alike (f₁ none) (f₂ (Option.some ""))) (name : String) :
    Alike (load env₁ name >>= f₁) (load env₂ name >>= f₂) := by
  intro s w₁ w₂
  have first := load_run env₁ name s w₁
  have second := load_run env₂ name s w₂
  rw [bind_run, bind_run]
  generalize load env₁ name s w₁ = out₁ at first
  generalize load env₂ name s w₂ = out₂ at second
  obtain ⟨_, w₁'⟩ := out₁
  obtain ⟨_, w₂'⟩ := out₂
  rw [hl] at second
  simp only [Loader.orEmpty] at second
  cases found : env₁.loader s.requests name with
  | ok source =>
      rw [found] at first second
      cases first
      cases second
      exact some source _ _ _
  | error e =>
      rw [found, ht] at first
      rw [found] at second
      cases first
      cases second
      exact none _ _ _

/-- What a loader does not have can as well be empty. -/
theorem renderFrame_orEmpty (hh : env₁.hosts = env₂.hosts) (ho : env₁.options = env₂.options)
    (frames : Nat) (f : Frame) :
    Alike (renderFrame env₁ frames f) (renderFrame env₂ frames f) := by
  have steps : FrameSteps env₁ env₂ Alike :=
    Alike.frameSteps hh (congrArg (Options.tolerating true) ho)
  induction frames generalizing f with
  | zero => exact .pure _
  | succ frames ih =>
      have walk : Walk env₁ env₂ (renderFrame env₁ frames) (renderFrame env₂ frames)
          (fun _ => True) Alike Alike := by
        refine steps.walk ih (Alike.load_orEmpty ht hl (steps.nested ih) ?_)
          (Alike.load_orEmpty ht hl (fun source => steps.print source) ?_)
        · exact fun s w₁ w₂ => congrArg Prod.fst (nested_empty frames s w₂).symm
        · exact fun _ _ _ => rfl
      cases f with
      | body nodes => exact walk.renderNodes nodes fun _ _ => trivial
      | document d => exact walk.renderDocument d fun _ _ => trivial

end

end Rendering

namespace Document

variable {env₁ env₂ : Environment} {context : Context} {d : Document} {store : Store}

theorem render_eq_of_run (h : (d.run env₁.unobserved () context store).1 =
      (d.run env₂.unobserved () context store).1) :
    d.render env₁ context store = d.render env₂ context store :=
  congrArg (fun out => RenderOutcome.mk (out.1.map Rendered.text) out.2.store out.2.requests) h

/-- A render without an error ends in a result. -/
theorem run_of_result {text : String} (h : (d.render env₁ context store).result = .ok text) :
    ∃ r s, (d.run env₁.unobserved () context store).1 = (.ok r, s) := by
  simp only [render, renderObserved] at h
  generalize d.run env₁.unobserved () context store = out at h
  obtain ⟨⟨_ | r, s⟩, w⟩ := out
  · cases h
  · exact ⟨r, s, rfl⟩

end Document

/-- Where failures of the loader are tolerated, a resource that cannot be loaded is an empty one. And
if a render succeeds where they are not, then it is the same where they are. -/
theorem render_tolerates_as_empty (env : Environment) (context : Context) (d : Document)
    (store : Store) :
    d.render (env.tolerating true) context store =
      d.render (env.tolerating true).lenient context store ∧
    ∀ text, (d.render (env.tolerating false) context store).result = .ok text →
      d.render (env.tolerating true) context store =
        d.render (env.tolerating false) context store := by
  refine ⟨Document.render_eq_of_run ?_, fun text h => Document.render_eq_of_run ?_⟩
  · let tolerant := (env.tolerating true).unobserved
    let lenient := (env.tolerating true).lenient.unobserved
    have loader : lenient.loader = tolerant.loader.orEmpty := rfl
    have hosts : tolerant.hosts = lenient.hosts := rfl
    exact Rendering.renderFrame_orEmpty rfl loader hosts rfl (Rendering.frameBound env.options)
      (.document d) _ () ()
  · obtain ⟨r, s, hr⟩ := Document.run_of_result h
    have steps : Rendering.FrameSteps (env.tolerating false).unobserved
        (env.tolerating true).unobserved Rendering.Succeeds := Rendering.Succeeds.frameSteps rfl rfl
    have succeeds := (steps.agreement (.load rfl rfl)).renderFrame
      (Rendering.frameBound env.options) (.document d)
    exact (succeeds _ () () r s hr).trans hr.symm

/-- Has one resource, which is a template. -/
def Loader.greeting : Loader := fun _ name =>
  if name = "a" then .ok "x#if(true)y#end" else .error (.notFound name)

/-- Parses the resource, and another one in a branch that is not taken. -/
def Document.greeting : Document :=
  { nodes :=
      [.parse (.literal (.text "a") default) default,
        .conditional [.mk (.literal .null default) [.parse (.literal (.text "b") default) default]]
          none default]
    expression := none }

theorem render_tolerates_as_empty_greeting :
    let env : Environment := ⟨.standard, .greeting, .none⟩
    (Document.greeting.render (env.tolerating false) .empty .empty).result.toOption = some "xy" ∧
    Document.greeting.render (env.tolerating true) .empty .empty =
      Document.greeting.render (env.tolerating false) .empty .empty := by
  intro env
  have text : (Document.greeting.render (env.tolerating false) .empty .empty).result.toOption =
      some "xy" := by decide +kernel
  refine ⟨text, (render_tolerates_as_empty env .empty .greeting .empty).2 "xy" ?_⟩
  generalize (Document.greeting.render (env.tolerating false) .empty .empty).result = r at text
  cases r with
  | error e => cases text
  | ok found => exact congrArg Except.ok (Option.some.inj text)

end Template

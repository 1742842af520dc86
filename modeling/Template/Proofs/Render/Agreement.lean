import Template.Proofs.Render.Walk

/-!
Rendering part by part in two environments. If the parts that renderings are put together from agree
in both, so do all renderings of expressions, nodes and frames. A property of renderings in one
environment is the case where both sides are the same.
-/

namespace Template

/-- The same options, but for whether failures of the loader are tolerated. -/
def Options.tolerating (tolerant : Bool) (options : Options) : Options := { options with tolerant }

/-- Tolerance makes no difference to what is compiled. -/
theorem Document.compile_tolerating (tolerant : Bool) (options : Options) :
    Document.compile (options.tolerating tolerant) = Document.compile options := rfl

namespace Rendering

variable {ω₁ ω₂ : Type}

/-- Parts of renderings in two environments, for whatever relation of what is one frame deeper.
Whatever asks for the options, the loader or the depths is one part here, so that the environments
may differ in them. -/
structure Agreement (env₁ : Observed ω₁) (env₂ : Observed ω₂)
    (R : {α : Type} → Rendering ω₁ α → Rendering ω₂ α → Prop)
    (Q : Rendering ω₁ Rendered → Rendering ω₂ Rendered → Prop) : Prop extends
    Parts env₁ env₂ R Q where
  define (ds : List Definition) : R (modify (State.define ds)) (modify (State.define ds))
  call {deeper₁ : Frame → Rendering ω₁ Rendered} {deeper₂ : Frame → Rendering ω₂ Rendered}
    {arguments₁ : Rendering ω₁ (List Value)} {arguments₂ : Rendering ω₂ (List Value)}
    (d : Definition) (hd : ∀ f, Q (deeper₁ f) (deeper₂ f)) (ha : R arguments₁ arguments₂) :
    Q (call env₁ deeper₁ d arguments₁) (call env₂ deeper₂ d arguments₂)
  nested {deeper₁ : Frame → Rendering ω₁ Rendered} {deeper₂ : Frame → Rendering ω₂ Rendered}
    (source : String) (hd : ∀ f, Q (deeper₁ f) (deeper₂ f)) :
    Q (ifMayParse env₁ (nested env₁ deeper₁ source)) (ifMayParse env₂ (nested env₂ deeper₂ source))
  nestedResource {deeper₁ : Frame → Rendering ω₁ Rendered}
    {deeper₂ : Frame → Rendering ω₂ Rendered} (name : String)
    (hd : ∀ f, Q (deeper₁ f) (deeper₂ f)) :
    Q (ifMayParse env₁ (nestedResource env₁ deeper₁ name))
      (ifMayParse env₂ (nestedResource env₂ deeper₂ name))
  embedResource (name : String) : Q (embedResource env₁ name) (embedResource env₂ name)

namespace Agreement

variable {env₁ : Observed ω₁} {env₂ : Observed ω₂}
  {R : {α : Type} → Rendering ω₁ α → Rendering ω₂ α → Prop}
  {Q : Rendering ω₁ Rendered → Rendering ω₂ Rendered → Prop}
  {deeper₁ : Frame → Rendering ω₁ Rendered} {deeper₂ : Frame → Rendering ω₂ Rendered}

theorem walk (h : Agreement env₁ env₂ R Q) (hd : ∀ f, Q (deeper₁ f) (deeper₂ f)) :
    Walk env₁ env₂ deeper₁ deeper₂ (fun _ => True) R Q :=
  h.toParts.walk h.define (fun d => h.call d hd) (fun source => h.nested source hd)
    (fun name => h.nestedResource name hd) h.embedResource

theorem renderFrame (h : Agreement env₁ env₂ R Q) (frames : Nat) (f : Frame) :
    Q (Rendering.renderFrame env₁ frames f) (Rendering.renderFrame env₂ frames f) := by
  induction frames generalizing f with
  | zero => exact h.done
  | succ frames ih =>
      cases f with
      | body nodes => exact (h.walk ih).renderNodes nodes fun _ _ => trivial
      | document d => exact (h.walk ih).renderDocument d fun _ _ => trivial

/-- Nodes in the frames that a render has. -/
theorem nodes (h : Agreement env₁ env₂ R Q) (frames : Nat) (ns : List Tree.Node) :
    Q (Rendering.renderNodes env₁ (Rendering.renderFrame env₁ frames) ns)
      (Rendering.renderNodes env₂ (Rendering.renderFrame env₂ frames) ns) :=
  (h.walk (h.renderFrame frames)).renderNodes ns fun _ _ => trivial

/-- An expression in the frames that a render has. -/
theorem expression (h : Agreement env₁ env₂ R Q) (frames : Nat) (e : Tree.Expr) :
    R (Rendering.evaluate env₁ (Rendering.renderFrame env₁ frames) e)
      (Rendering.evaluate env₂ (Rendering.renderFrame env₂ frames) e) :=
  (h.walk (h.renderFrame frames)).evaluate e fun _ _ => trivial

end Agreement

/-- `R` is kept by steps, by what is done on the way into a frame and out of it, and by failures, in
environments with the same limits, which compile the same. -/
structure FrameSteps (env₁ : Observed ω₁) (env₂ : Observed ω₂)
    (R : {α : Type} → Rendering ω₁ α → Rendering ω₂ α → Prop) : Prop extends
    Steps env₁ env₂ R where
  maxCallDepth : env₁.options.maxCallDepth = env₂.options.maxCallDepth
  maxParseDepth : env₁.options.maxParseDepth = env₂.options.maxParseDepth
  compile : Document.compile env₁.options = Document.compile env₂.options
  update (f : State → State) : R (modify f) (modify f)
  throw {α : Type} (e : RenderError) :
    R (MonadExcept.throw e : Rendering ω₁ α) (MonadExcept.throw e : Rendering ω₂ α)
  around {α : Type} {c₁ : Rendering ω₁ α} {c₂ : Rendering ω₂ α} (enter exit : State → State)
    (h : R c₁ c₂) : R (around enter exit c₁) (around enter exit c₂)

namespace FrameSteps

variable {env₁ : Observed ω₁} {env₂ : Observed ω₂}
  {R : {α : Type} → Rendering ω₁ α → Rendering ω₂ α → Prop}
  {deeper₁ : Frame → Rendering ω₁ Rendered} {deeper₂ : Frame → Rendering ω₂ Rendered}

theorem ifMayParse (h : FrameSteps env₁ env₂ R) {c₁ : Rendering ω₁ Rendered}
    {c₂ : Rendering ω₂ Rendered} (hc : R c₁ c₂) :
    R (Rendering.ifMayParse env₁ c₁) (Rendering.ifMayParse env₂ c₂) := by
  simp only [Rendering.ifMayParse, h.maxParseDepth]
  refine h.bind h.get fun s => ?_
  split
  · exact hc
  · exact h.pure _

theorem call (h : FrameSteps env₁ env₂ R) (hd : ∀ f, R (deeper₁ f) (deeper₂ f)) (d : Definition)
    {arguments₁ : Rendering ω₁ (List Value)} {arguments₂ : Rendering ω₂ (List Value)}
    (ha : R arguments₁ arguments₂) :
    R (Rendering.call env₁ deeper₁ d arguments₁) (Rendering.call env₂ deeper₂ d arguments₂) := by
  simp only [Rendering.call, h.maxCallDepth]
  refine h.bind h.get fun s => ?_
  split
  · exact h.pure _
  · exact h.bind ha fun _ => h.inScope (h.bind (h.setAll _ _) fun _ =>
      h.bind (h.around _ _ (hd _)) fun _ => h.pure _)

theorem nested (h : FrameSteps env₁ env₂ R) (hd : ∀ f, R (deeper₁ f) (deeper₂ f))
    (source : String) :
    R (Rendering.nested env₁ deeper₁ source) (Rendering.nested env₂ deeper₂ source) := by
  simp only [Rendering.nested, h.compile]
  split
  · exact h.throw _
  · exact h.around _ _ (hd _)

/-- Loaders that answer alike are asked alike. -/
theorem load (h : FrameSteps env₁ env₂ R) (hl : env₁.loader = env₂.loader)
    (ht : env₁.options.tolerant = env₂.options.tolerant) (name : String) :
    R (Rendering.load env₁ name) (Rendering.load env₂ name) := by
  simp only [Rendering.load, hl, ht]
  refine h.bind (h.report _) fun _ => h.bind h.get fun _ => h.bind (h.update _) fun _ => ?_
  split
  · exact h.pure _
  · split
    · exact h.pure _
    · exact h.throw _

/-- What is named on the way may be treated in its own way. -/
theorem walk (h : FrameSteps env₁ env₂ R) (hd : ∀ f, R (deeper₁ f) (deeper₂ f))
    (hresource : ∀ name,
      R (nestedResource env₁ deeper₁ name) (nestedResource env₂ deeper₂ name))
    (hembed : ∀ name, R (embedResource env₁ name) (embedResource env₂ name)) :
    Walk env₁ env₂ deeper₁ deeper₂ (fun _ => True) R R :=
  h.toSteps.parts.walk (fun _ => h.update _) (fun d => h.call hd d)
    (fun source => h.ifMayParse (h.nested hd source)) (fun name => h.ifMayParse (hresource name))
    hembed

/-- If both loaders answer alike then all renderings agree. -/
theorem agreement (h : FrameSteps env₁ env₂ R)
    (hl : ∀ name, R (Rendering.load env₁ name) (Rendering.load env₂ name)) :
    Agreement env₁ env₂ R R where
  toParts := h.toSteps.parts
  define _ := h.update _
  call d hd ha := h.call hd d ha
  nested source hd := h.ifMayParse (h.nested hd source)
  nestedResource name hd := by
    refine h.ifMayParse (h.bind (hl name) fun source => ?_)
    split
    · exact h.nested hd _
    · exact h.pure _
  embedResource name := by
    refine h.bind (hl name) fun source => ?_
    split
    · exact h.print _
    · exact h.pure _

end FrameSteps

end Rendering

end Template

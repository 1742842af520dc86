import Template.Proofs.Render.Trace

/-!
Every render writes a trace, with an end that fits its result. From this follows what a stop does:
outside strings it ends the render with what was printed so far, and inside a string it ends that
string only.
-/

namespace Template.Rendering

variable {α β : Type}

/-- A run that computes a value: it prints nothing and is not stopped. -/
inductive ValueRun (w : List Event) : (Except RenderError α × State) × List Event → Prop where
  | done (a : α) (s : State) (events : List Event) (h : Trace events .done)
      (hp : Event.printed events = "") : ValueRun w ((.ok a, s), w ++ events)
  | failed (e : RenderError) (s : State) (events : List Event) (h : Trace events .failed) :
      ValueRun w ((.error e, s), w ++ events)

/-- A run that prints behind a text. Once stopped it leaves store and requests alone. -/
inductive OutputRun (before : String) (w : List Event) :
    (Except RenderError Rendered × State) × List Event → Prop where
  | done (flow : Flow) (hf : flow ≠ .stop) (s : State) (events : List Event)
      (h : Trace events .done) :
      OutputRun before w ((.ok ⟨flow, before ++ Event.printed events⟩, s), w ++ events)
  | failed (e : RenderError) (s : State) (events : List Event) (h : Trace events .failed) :
      OutputRun before w ((.error e, s), w ++ events)
  | stopped (t s : State) (hs : s.store = t.store) (hr : s.requests = t.requests)
      (events : List Event) (h : Trace events (.stopped t)) :
      OutputRun before w ((.ok ⟨.stop, before ++ Event.printed events⟩, s), w ++ events)

def TracesValue (c : Rendering (List Event) α) : Prop := ∀ s w, ValueRun w (c s w)

def TracesOutput (before : String) (c : Rendering (List Event) Rendered) : Prop :=
  ∀ s w, OutputRun before w (c s w)

theorem ValueRun.quiet (w : List Event) (a : α) (s : State) : ValueRun w ((.ok a, s), w) := by
  simpa using ValueRun.done a s [] .nil rfl (w := w)

theorem OutputRun.quiet (before : String) (w : List Event) {flow : Flow} (hf : flow ≠ .stop)
    (s : State) : OutputRun before w ((.ok ⟨flow, before⟩, s), w) := by
  simpa [Event.printed, Event.printedFrom] using OutputRun.done flow hf s [] .nil (w := w)

/-- What leaves store and requests alone may come behind, also behind a stop. -/
theorem OutputRun.exit {before : String} {w : List Event}
    {out : (Except RenderError Rendered × State) × List Event} {s' : State}
    (h : OutputRun before w out) (hs : s'.store = out.1.2.store)
    (hr : s'.requests = out.1.2.requests) : OutputRun before w ((out.1.1, s'), out.2) := by
  cases h with
  | done flow hf s events h => exact .done flow hf s' events h
  | failed e s events h => exact .failed e s' events h
  | stopped t s hs' hr' events h => exact .stopped t s' (hs.trans hs') (hr.trans hr') events h

theorem OutputRun.error (before : String) (w : List Event) (e : RenderError) (s : State) :
    OutputRun before w ((.error e, s), w) := by
  simpa using OutputRun.failed e s [] .fail (w := w)

namespace TracesValue

variable {c : Rendering (List Event) α}

theorem pure (a : α) : TracesValue (Pure.pure a) := fun s w => .quiet w a s

theorem get : TracesValue MonadState.get := fun s w => .quiet w s s

theorem update (f : State → State) : TracesValue (modify f) := by
  intro s w
  rw [modify_run]
  exact .quiet w _ _

theorem onStore (action : Action α) : TracesValue (Rendering.onStore action) :=
  fun _ w => .quiet w _ _

theorem throw (e : RenderError) : TracesValue (throw e : Rendering (List Event) α) := by
  intro s w
  rw [throw_run]
  simpa using ValueRun.failed e s [] .fail (w := w)

theorem report (env : Environment) {event : State → Event} (hs : ∀ s, (event s).isStop = false)
    (hb : ∀ s, (event s).isBracket = false) (hp : ∀ s, Event.printed [event s] = "") :
    TracesValue (Rendering.report env.recorded event) :=
  fun s _ => .done () s [event s] (.single (event s) (hs s) (hb s)) (hp s)

theorem bind {f : α → Rendering (List Event) β} (hc : TracesValue c)
    (hf : ∀ a, TracesValue (f a)) : TracesValue (c >>= f) := by
  intro s w
  have h := hc s w
  rw [bind_run]
  generalize c s w = out at h ⊢
  cases h with
  | failed e s' events h => exact .failed e s' events h
  | done a s' events h hp =>
      have h' := hf a s' (w ++ events)
      simp only
      generalize f a s' (w ++ events) = out at h' ⊢
      cases h' with
      | failed e s'' events' h' =>
          rw [List.append_assoc]
          exact .failed e s'' _ (h.append h')
      | done b s'' events' h' hp' =>
          rw [List.append_assoc]
          exact .done b s'' _ (h.append h') (by rw [h.printed_append, hp, hp']; rfl)

theorem load (env : Environment) (name : String) : TracesValue (load env.recorded name) := by
  refine bind (report env (fun _ => rfl) (fun _ => rfl) fun _ => rfl) fun _ =>
    bind get fun _ => bind (update _) fun _ => ?_
  split
  · exact pure _
  · split
    · exact pure _
    · exact throw _

/-- A string has a value however its template ends. -/
theorem inString (env : Environment) {c : Rendering (List Event) Rendered}
    (hc : TracesOutput "" c) : TracesValue (Rendering.inString env.recorded c) := by
  intro s w
  have h := hc s (w ++ [Event.openString])
  have hrun : Rendering.inString env.recorded c s w =
      match c s (w ++ [Event.openString]) with
      | ((.ok r, s'), w') => ((.ok r, s'), w' ++ [Event.closeString])
      | ((.error e, s'), w') => ((.error e, s'), w') := by
    simp only [Rendering.inString]
    rw [bind_run]
    change (c >>= _) s (w ++ [Event.openString]) = _
    rw [bind_run]
    generalize c s (w ++ [Event.openString]) = out
    obtain ⟨⟨r, s'⟩, w'⟩ := out
    cases r <;> rfl
  rw [hrun]
  generalize c s (w ++ [Event.openString]) = out at h ⊢
  cases h with
  | failed e s' events h =>
      simpa using ValueRun.failed e s' _ h.openString (w := w)
  | done flow _ s' events h =>
      simpa using ValueRun.done _ s' _ (h.string (by simp)) h.printed_string (w := w)
  | stopped t s' _ _ events h =>
      simpa using ValueRun.done _ s' _ (h.string (by simp)) h.printed_string (w := w)

end TracesValue

namespace TracesOutput

variable {before : String} {c : Rendering (List Event) Rendered}

theorem quiet (before : String) {flow : Flow} (hf : flow ≠ .stop) :
    TracesOutput before (Pure.pure ⟨flow, before⟩) := fun s w => .quiet before w hf s

theorem throw (before : String) (e : RenderError) : TracesOutput before (throw e) :=
  fun s w => .error before w e s

theorem after {c : Rendering (List Event) α} {f : α → Rendering (List Event) Rendered}
    (hc : TracesValue c) (hf : ∀ a, TracesOutput before (f a)) : TracesOutput before (c >>= f) := by
  intro s w
  have h := hc s w
  rw [bind_run]
  generalize c s w = out at h ⊢
  cases h with
  | failed e s' events h => exact .failed e s' events h
  | done a s' events h hp =>
      have h' := hf a s' (w ++ events)
      have hpr (events' : List Event) :
          Event.printed events' = Event.printed (events ++ events') := by
        rw [h.printed_append, hp]
        exact (String.empty_append).symm
      simp only
      generalize f a s' (w ++ events) = out at h' ⊢
      cases h' with
      | failed e s'' events' h' =>
          rw [List.append_assoc]
          exact .failed e s'' _ (h.append h')
      | done flow hflow s'' events' h' =>
          rw [List.append_assoc, hpr]
          exact .done flow hflow s'' _ (h.append h')
      | stopped t s'' hs hr events' h' =>
          rw [List.append_assoc, hpr]
          exact .stopped t s'' hs hr _ (h.append h')

/-- Output and what comes behind it, which is nothing after a stop. -/
theorem follow {k : Rendered → Rendering (List Event) Rendered} (hc : TracesOutput "" c)
    (hk : ∀ r : Rendered, r.flow ≠ .stop → TracesOutput (before ++ r.text) (k r))
    (hs : ∀ r : Rendered, r.flow = .stop → k r = Pure.pure ⟨.stop, before ++ r.text⟩) :
    TracesOutput before (c >>= k) := by
  intro s w
  have h := hc s w
  rw [bind_run]
  generalize c s w = out at h ⊢
  cases h with
  | failed e s' events h => exact .failed e s' events h
  | stopped t s' hs' hr events h =>
      simp only [hs, String.empty_append]
      exact .stopped t s' hs' hr events h
  | done flow hflow s' events h =>
      have h' := hk ⟨flow, "" ++ Event.printed events⟩ hflow s' (w ++ events)
      simp only [String.empty_append] at h' ⊢
      generalize k _ s' (w ++ events) = out at h' ⊢
      cases h' with
      | failed e s'' events' h' =>
          rw [List.append_assoc]
          exact .failed e s'' _ (h.append h')
      | done flow' hflow' s'' events' h' =>
          rw [List.append_assoc, String.append_assoc, ← h.printed_append]
          exact .done flow' hflow' s'' _ (h.append h')
      | stopped t s'' hs' hr events' h' =>
          rw [List.append_assoc, String.append_assoc, ← h.printed_append]
          exact .stopped t s'' hs' hr _ (h.append h')

theorem print (env : Environment) (text : String) :
    TracesOutput "" (Rendering.print env.recorded text) := by
  intro s w
  have h : Trace [.print text] .done := .single _ rfl rfl
  have hp : Event.printed [.print text] = text := String.append_empty
  have hr : OutputRun "" w
      ((.ok ⟨.normal, "" ++ Event.printed [.print text]⟩, s), w ++ [Event.print text]) :=
    .done .normal (by decide) s _ h
  rw [hp, String.empty_append] at hr
  exact hr

theorem stop (env : Environment) (place : Region) :
    TracesOutput "" (visit env.recorded (.stop place) (Pure.pure ⟨.stop, ""⟩)) := by
  intro s w
  exact .stopped s s rfl rfl [.node (.stop place) s] (.stop place s)

theorem visit (env : Environment) (n : Tree.Node) (hn : ∀ place, n ≠ .stop place)
    (hc : TracesOutput before c) : TracesOutput before (Rendering.visit env.recorded n c) := by
  have hs (s : State) : (Event.node n s).isStop = false := by
    cases n with
    | stop place => exact absurd rfl (hn place)
    | _ => rfl
  refine after (fun s w => ?_) fun _ => hc
  exact .done () s [.node n s] (.single _ (hs s) rfl) rfl

/-- The result may be changed at the end, but no stop be made or lost. -/
theorem finish {g : Rendered → Rendered} (hc : TracesOutput "" c)
    (ht : ∀ r, (g r).text = before ++ r.text) (hf : ∀ r, (g r).flow = .stop ↔ r.flow = .stop) :
    TracesOutput before (do return g (← c)) := by
  refine follow hc (fun r hr => ?_) (fun r hr => ?_)
  · rw [← ht r]
    exact quiet _ fun h => hr ((hf r).1 h)
  · rw [← ht r, ← (hf r).2 hr]

theorem absorbLeave (hc : TracesOutput "" c) :
    TracesOutput "" (do return (← c).absorbLeave) := by
  refine finish hc (fun r => ?_) (fun r => ?_)
  all_goals
    obtain ⟨flow, text⟩ := r
    cases flow <;> simp [Rendered.absorbLeave]

theorem andThen {a b : Rendering (List Event) Rendered} (ha : TracesOutput "" a)
    (hb : TracesOutput "" b) : TracesOutput "" (andThen a b) := by
  refine follow ha (fun r hr => ?_) (fun r hr => ?_)
  · obtain ⟨flow, text⟩ := r
    rw [String.empty_append]
    cases flow with
    | normal => exact finish hb (fun _ => rfl) fun _ => Iff.rfl
    | leave => exact quiet text hr
    | stop => exact absurd rfl hr
  · obtain ⟨flow, text⟩ := r
    cases hr
    rw [String.empty_append]

theorem around {enter exit : State → State} (hs : ∀ s, (exit s).store = s.store)
    (hr : ∀ s, (exit s).requests = s.requests) (hc : TracesOutput before c) :
    TracesOutput before (Rendering.around enter exit c) :=
  fun s w => (hc (enter s) w).exit (hs _) (hr _)

theorem inScope {I : List Event → Prop} {B : State → Prop} (hb : Steady I B c)
    (hc : TracesOutput before c) : TracesOutput before (Rendering.inScope c) := by
  intro s w
  rw [inScope_run, closeScope_of_returns (hb _ _).returns]
  exact (hc _ w).exit rfl rfl

theorem branch {p : State → Prop} [DecidablePred p] {c' : Rendering (List Event) Rendered}
    (hc : TracesOutput before c) (hc' : TracesOutput before c') :
    TracesOutput before (MonadState.get >>= fun s => if p s then c else c') := by
  refine after .get fun s => ?_
  split
  · exact hc
  · exact hc'

variable {I : List Event → Prop} {options : Options} {item : String} {number : Nat}
  {body : Rendering (List Event) Rendered}

theorem pass (index : Nat) (value : Value) (hs : Steady I (State.Balanced options) body)
    (hb : TracesOutput "" body) : TracesOutput "" (Rendering.pass item number index value body) :=
  inScope (.bind .of_returns (.setAll _ _) fun _ => hs) (after (.update _) fun _ => hb)

theorem passes (remaining index : Nat) (items : Items) (before : String)
    (hs : Steady I (State.Balanced options) body) (hb : TracesOutput "" body) :
    TracesOutput before (Rendering.passes item number body remaining index items before) := by
  induction remaining generalizing index items before with
  | zero => exact quiet before (by decide)
  | succ remaining ih =>
      simp only [Rendering.passes]
      split
      · exact quiet before (by decide)
      · refine after (.onStore _) fun _ => follow (pass index _ hs hb) (fun r hr => ?_) (fun r hr => ?_)
        · obtain ⟨flow, text⟩ := r
          cases flow with
          | normal => exact branch (quiet _ (by decide)) (ih _ _ _)
          | leave => exact quiet _ (by decide)
          | stop => exact absurd rfl hr
        · obtain ⟨flow, text⟩ := r
          cases hr
          rfl

theorem forEach {otherwise : Rendering (List Event) Rendered} (limit : Nat) (items : Items)
    (hs : Steady I (State.Balanced options) body) (hb : TracesOutput "" body)
    (ho : TracesOutput "" otherwise) :
    TracesOutput "" (Rendering.forEach limit item items body otherwise) := by
  simp only [Rendering.forEach]
  split
  · exact ho
  · refine after .get fun _ => after (.onStore _) fun number => ?_
    exact around (fun _ => rfl) (fun _ => rfl) (passes limit 0 items "" hs hb)

variable {env : Environment} {deeper : Frame → Rendering (List Event) Rendered}

theorem call {d : Definition} {arguments : Rendering (List Event) (List Value)}
    (hs : ∀ f, Steady I (State.Balanced env.options) (deeper f))
    (hd : ∀ f, TracesOutput "" (deeper f)) (ha : TracesValue arguments) :
    TracesOutput "" (Rendering.call env.recorded deeper d arguments) := by
  refine branch (quiet "" (by decide)) (after ha fun values => inScope (.callBody values hs) ?_)
  exact after (.update _) fun _ => absorbLeave (around (fun _ => rfl) (fun _ => rfl) (hd _))

theorem nested (source : String) (hd : ∀ f, TracesOutput "" (deeper f)) :
    TracesOutput "" (Rendering.nested env.recorded deeper source) := by
  simp only [Rendering.nested]
  split
  · exact throw "" _
  · exact around (fun _ => rfl) (fun _ => rfl) (hd _)

theorem nestedResource (name : String) (hd : ∀ f, TracesOutput "" (deeper f)) :
    TracesOutput "" (Rendering.nestedResource env.recorded deeper name) := by
  refine after (.load env name) fun source => ?_
  split
  · exact nested _ hd
  · exact quiet "" (by decide)

theorem embedResource (name : String) :
    TracesOutput "" (Rendering.embedResource env.recorded name) := by
  refine after (.load env name) fun source => ?_
  split
  · exact print env _
  · exact quiet "" (by decide)

end TracesOutput

/-- That scopes can be left is needed on the way. -/
theorem agreement_traces (env : Environment) :
    Agreement env.recorded env.recorded
      (fun c _ => Steady (fun _ => True) (State.Balanced env.recorded.options) c ∧ TracesValue c)
      (fun c _ => Steady (fun _ => True) (State.Balanced env.recorded.options) c ∧
        TracesOutput "" c) := by
  have hI (event : Event) (events : List Event) (_ : event.Balanced env.recorded.options)
      (_ : True) : True := trivial
  have quiet {flow : Flow} (hf : flow ≠ .stop) :
      TracesOutput "" (Pure.pure ⟨flow, ""⟩) := .quiet "" hf
  exact
    { hosts := rfl
      pure := fun a => ⟨.pure a, .pure a⟩
      bind := fun hc hf => ⟨.bind .of_returns hc.1 fun a => (hf a).1, .bind hc.2 fun a => (hf a).2⟩
      after := fun hc hf =>
        ⟨.bind .of_returns hc.1 fun a => (hf a).1, .after hc.2 fun a => (hf a).2⟩
      get := ⟨.get, .get⟩
      onStore := fun action _ => ⟨.onStore action, .onStore action⟩
      use := fun _ => ⟨.bind .of_returns (.event hI fun _ _ => trivial) fun _ => .onStore _,
        .bind (.report env (fun _ => rfl) (fun _ => rfl) fun _ => rfl) fun _ => .onStore _⟩
      set := fun name value => ⟨.set name value, .update _⟩
      define := fun _ => ⟨.update fun _ => ⟨rfl, rfl, rfl, rfl, rfl⟩, .update _⟩
      lookUp := fun name => ⟨.lookUp hI name,
        .bind (.report env (fun _ => rfl) (fun _ => rfl) fun _ => rfl) fun _ => .bind .get fun _ => .pure _⟩
      inString := fun h => ⟨.inString hI h.1, .inString env h.2⟩
      print := fun text => ⟨.print hI text, .print env text⟩
      done := ⟨.pure _, quiet (by decide)⟩
      leave := ⟨.pure _, quiet (by decide)⟩
      stop := fun place => ⟨.visit hI _ (.pure _), .stop env place⟩
      visit := fun n hn h => ⟨.visit hI n h.1, .visit env n hn h.2⟩
      andThen := fun ha hb => ⟨.andThen ha.1 hb.1, .andThen ha.2 hb.2⟩
      absorbLeave := fun h => ⟨.absorbLeave h.1, .absorbLeave h.2⟩
      forEach := fun _ items hb ho =>
        ⟨.forEach _ items hb.1 ho.1, .forEach _ items hb.1 hb.2 ho.2⟩
      call := fun _ hd ha => ⟨.call (fun f => (hd f).1) ha.1,
        .call (fun f => (hd f).1) (fun f => (hd f).2) ha.2⟩
      nested := fun source hd => ⟨.ifMayParse (.nested source fun f => (hd f).1),
        .branch (.nested source fun f => (hd f).2) (quiet (by decide))⟩
      nestedResource := fun name hd =>
        ⟨.ifMayParse (.nestedResource hI name fun f => (hd f).1),
          .branch (.nestedResource name fun f => (hd f).2) (quiet (by decide))⟩
      embedResource := fun name => ⟨.embedResource hI name, .embedResource name⟩ }

end Template.Rendering

namespace Template

theorem Document.run_traces (env : Environment) (context : Context) (d : Document)
    (store : Store) : Rendering.OutputRun "" [] (d.run env.recorded [] context store) :=
  ((Rendering.agreement_traces env).renderFrame (Rendering.frameBound env.options)
    (.document d)).2 _ _

/-- The events of a render and what it answers, with an end that fits. -/
theorem Document.render_traces (env : Environment) (context : Context) (d : Document)
    (store : Store) : ∃ ending, Trace (d.events env context store) ending ∧
      ∀ s, ending = .stopped s → d.render env context store =
        ⟨.ok (Event.printed (d.events env context store)), s.store, s.requests⟩ := by
  have h : (d.renderObserved env.recorded [] context store).1 = d.render env context store :=
    d.renderObserved_eq_render env.recorded [] context store
  have run := d.run_traces env context store
  rw [← h]
  simp only [Document.events, Document.renderObserved]
  generalize d.run env.recorded [] context store = out at run ⊢
  cases run with
  | done flow hf s events h => exact ⟨.done, by simpa using h, nofun⟩
  | failed e s events h => exact ⟨.failed, by simpa using h, nofun⟩
  | stopped t s hs hr events h =>
      refine ⟨.stopped t, by simpa using h, fun s' hs' => ?_⟩
      cases hs'
      simp [Except.map, hs, hr]

/-- Without a string around it a stop is the last thing that happens: the render answers what was
printed before and leaves store and requests as the stop met them. A string around it is closed
next, so there the render goes on. -/
theorem stop_ends_render (env : Environment) (context : Context) (d : Document) (store : Store)
    (before after : List Event) (place : Region) (s : State)
    (h : d.events env context store = before ++ .node (.stop place) s :: after) :
    (Event.openStrings before = 0 → after = [] ∧
      d.render env context store = ⟨.ok (Event.printed before), s.store, s.requests⟩) ∧
    (0 < Event.openStrings before → ∃ rest, after = .closeString :: rest) := by
  obtain ⟨ending, trace, stopped⟩ := d.render_traces env context store
  rcases trace.after_stop h 0 with ⟨level, rfl, hs⟩ | ⟨level, rest, hrest⟩
  · refine ⟨fun _ => ⟨rfl, ?_⟩, fun open' => absurd level (Nat.ne_of_gt open')⟩
    have printed := Event.printedFrom_append 0 before [.node (.stop place) s]
    rw [stopped s hs, h, Event.printed, printed, level]
    simp [Event.printed, Event.printedFrom]
  · exact ⟨fun closed => absurd closed (Nat.ne_of_gt level), fun _ => ⟨rest, hrest⟩⟩

/-- A stop in a string, where the render goes on, and one outside. -/
def Document.stoppedTwice : Document :=
  { nodes :=
      [.text "before " default,
        .assign "x" [] (.interpolated [.text "x" default, .stop default] default) default,
        .text "after" default, .stop default, .text "never" default]
    expression := none }

theorem stop_ends_render_stoppedTwice :
    let env : Environment := ⟨.standard, .none, .none⟩
    ∃ first second s t rest,
      Document.stoppedTwice.events env .empty .empty =
        first ++ .node (.stop default) s :: .closeString :: rest ∧
      Document.stoppedTwice.events env .empty .empty =
        second ++ [Event.node (.stop default) t] ∧
      Event.printed second = "before after" ∧
      Document.stoppedTwice.render env .empty .empty = ⟨.ok "before after", t.store, t.requests⟩ := by
  intro env
  obtain ⟨first, s, after, hf, open'⟩ :
      ∃ first s after, Document.stoppedTwice.events env .empty .empty =
        first ++ .node (.stop default) s :: after ∧ 0 < Event.openStrings first :=
    ⟨[_, _, _, _, _, _], _, [_, _, _, _], rfl, by decide⟩
  obtain ⟨second, t, after', hs, closed, printed⟩ :
      ∃ second t after', Document.stoppedTwice.events env .empty .empty =
        second ++ .node (.stop default) t :: after' ∧ Event.openStrings second = 0 ∧
        Event.printed second = "before after" :=
    ⟨[_, _, _, _, _, _, _, _, _, _], _, [], rfl, rfl, rfl⟩
  obtain ⟨rest, rfl⟩ := (stop_ends_render env .empty _ .empty first after default s hf).2 open'
  obtain ⟨rfl, answer⟩ :=
    (stop_ends_render env .empty _ .empty second after' default t hs).1 closed
  exact ⟨first, second, s, t, rest, hf, hs, printed, printed ▸ answer⟩

end Template

import Template.Proofs.Render.Agreement
import Template.Proofs.Value.Distinct

/-!
What renders may do to the store. If a footprint allows each step that is made on the store, and
whatever becomes of the loops that are entered, then it allows all that a render does, however it
ends. So names in maps stay apart while a document is rendered.
-/

namespace Template

/-- Uses that only read the store are always allowed. -/
theorem Footprint.uses {F : Footprint} {hosts : Hosts}
    (invoke : ∀ (v : Value) name arguments, F.Covers (v.invoke? hosts name arguments))
    (index : ∀ v key : Value, F.Covers (v.index hosts key))
    (write : ∀ target name value, F.Covers (Rendering.writeProperty hosts target name value))
    {u : Use} {α : Type} {action : Action α} (h : Rendering.Does hosts u action) :
    F.Covers action := by
  cases h with
  | display v => exact read _
  | invoke v name arguments => exact invoke v name arguments
  | index v key => exact index v key
  | binary op a b => exact read _
  | write target name value => exact write target name value

/-- All that renders do to the store on their way is allowed. -/
structure Footprint.AllowsRenders (F : Footprint) (hosts : Hosts) : Prop where
  step {α : Type} {action : Action α} (h : Rendering.StoreStep hosts action) : F.Covers action
  newLoop (parent : Value) : F.Covers (Store.newLoop parent)
  /-- A loop that is made on the way, from the store `t`, may be changed in any way. -/
  ownLoop {s t u : Store} (ht : F.Allows s t) (hu : F.Allows s u) (f : LoopState → LoopState) :
    F.Allows s ((Store.updateLoop t.loops.size f) u).2

namespace Rendering

variable {ω α β : Type}

/-- Whatever has been done to the store `s` before, once the computation has ended no more than what
is allowed has been done. -/
def Within (F : Footprint) (s : Store) (c : Rendering ω α) : Prop :=
  ∀ t w, F.Allows s t.store → F.Allows s (c t w).1.2.store

namespace Within

variable {F : Footprint} {s : Store}

theorem sameStore {c : Rendering ω α} (h : ∀ t w, (c t w).1.2.store = t.store) : Within F s c := by
  intro t w ht
  rw [h]
  exact ht

theorem pure (a : α) : Within F s (Pure.pure a : Rendering ω α) := sameStore fun _ _ => rfl

theorem get : Within F s (MonadState.get : Rendering ω State) := sameStore fun _ _ => rfl

theorem report {env : Observed ω} (event : State → Event) :
    Within F s (Rendering.report env event) := sameStore fun _ _ => rfl

theorem onStore {action : Action α} (ha : F.Covers action) :
    Within F s (Rendering.onStore action (ω := ω)) :=
  fun t _ ht => F.trans ht (ha t.store)

theorem bind {c : Rendering ω α} {f : α → Rendering ω β} (hc : Within F s c)
    (hf : ∀ a, Within F s (f a)) : Within F s (c >>= f) := by
  intro t w ht
  have h := hc t w ht
  rw [bind_run]
  generalize c t w = out at h ⊢
  obtain ⟨⟨r, u⟩, v⟩ := out
  cases r with
  | error e => exact h
  | ok a => exact hf a u v h

theorem around {enter exit : State → State} {c : Rendering ω α}
    (he : ∀ t, (enter t).store = t.store) (hx : ∀ t, (exit t).store = t.store)
    (hc : Within F s c) : Within F s (Rendering.around enter exit c) := by
  intro t w ht
  rw [around_run, hx]
  exact hc (enter t) w (by rw [he]; exact ht)

theorem closeScope_store (out : Except RenderError α × State) :
    (closeScope out).2.store = out.2.store := by
  simp only [closeScope]
  split <;> rfl

theorem inScope {c : Rendering ω α} (hc : Within F s c) : Within F s (Rendering.inScope c) := by
  intro t w ht
  rw [inScope_run, closeScope_store]
  exact hc _ w ht

theorem setAll (names : List String) (values : List Value) :
    Within F s (modify (State.setAll names values) : Rendering ω PUnit) := by
  refine sameStore fun t _ => ?_
  rw [modify_run]
  induction names generalizing values t with
  | nil => rfl
  | cons name names ih => exact ih _ _

theorem branch {p : State → Prop} [DecidablePred p] {c c' : Rendering ω α} (hc : Within F s c)
    (hc' : Within F s c') : Within F s (MonadState.get >>= fun t => if p t then c else c') := by
  refine bind get fun t => ?_
  split
  · exact hc
  · exact hc'

variable {hosts : Hosts} {item : String} {body otherwise : Rendering ω Rendered}

/-- The passes of a loop change that loop alone, which was made on the way. -/
theorem passes (h : F.AllowsRenders hosts) {t : Store} (ht : F.Allows s t)
    (remaining index : Nat) (items : Items) (before : String) (hb : Within F s body) :
    Within F s (Rendering.passes item t.loops.size body remaining index items before) := by
  induction remaining generalizing index items before with
  | zero => exact pure _
  | succ remaining ih =>
      simp only [Rendering.passes]
      split
      · exact pure _
      · refine bind (fun _ _ hu => h.ownLoop ht hu _) fun _ => ?_
        refine bind (inScope (bind (setAll _ _) fun _ => hb)) fun r => ?_
        split
        · exact pure _
        · exact pure _
        · refine bind get fun t => ?_
          split
          · exact pure _
          · exact ih _ _ _

theorem forEach (h : F.AllowsRenders hosts) (limit : Nat) (items : Items) (hb : Within F s body)
    (ho : Within F s otherwise) :
    Within F s (Rendering.forEach limit item items body otherwise) := by
  simp only [Rendering.forEach]
  split
  · exact ho
  · intro t w ht
    exact passes h ht limit 0 items "" hb _ w (F.trans ht (h.newLoop _ _))

variable {env : Observed ω} {deeper : Frame → Rendering ω Rendered}

theorem print (text : String) : Within F s (Rendering.print env text) :=
  bind (report _) fun _ => pure _

theorem load (name : String) : Within F s (Rendering.load env name) := by
  refine bind (report _) fun _ => bind get fun _ => bind (sameStore fun _ _ => rfl) fun _ => ?_
  split
  · exact pure _
  · split
    · exact pure _
    · exact sameStore fun _ _ => rfl

theorem nested (source : String) (hd : ∀ f, Within F s (deeper f)) :
    Within F s (Rendering.nested env deeper source) := by
  simp only [Rendering.nested]
  split
  · exact sameStore fun _ _ => rfl
  · exact around (fun _ => rfl) (fun _ => rfl) (hd _)

end Within

theorem agreement_within {ω : Type} (env : Observed ω) {F : Footprint}
    (h : F.AllowsRenders env.hosts) (s : Store) :
    Agreement env env (fun c _ => Within F s c) (fun c _ => Within F s c) where
  hosts := rfl
  pure := .pure
  bind := .bind
  after := .bind
  get := .get
  onStore _ ha := .onStore (h.step ha)
  use done := .bind (.report _) fun _ => .onStore (h.step (.use done))
  set _ _ := .sameStore fun _ _ => rfl
  define _ := .sameStore fun _ _ => rfl
  lookUp _ := .bind (.report _) fun _ => .bind .get fun _ => .pure _
  inString h := .bind (.report _) fun _ => .bind h fun _ => .bind (.report _) fun _ => .pure _
  print := .print
  done := .pure _
  leave := .pure _
  stop _ := .bind (.report _) fun _ => .pure _
  visit _ _ h := .bind (.report _) fun _ => h
  andThen ha hb := by
    refine .bind ha fun r => ?_
    split
    · exact .bind hb fun _ => .pure _
    · exact .pure _
  absorbLeave h := .bind h fun _ => .pure _
  forEach _ items hb ho := .forEach h _ items hb ho
  call d hd ha := .branch (.pure _) <| .bind ha fun _ => .inScope <| .bind (.setAll _ _) fun _ =>
    .bind (.around (fun _ => rfl) (fun _ => rfl) (hd _)) fun _ => .pure _
  nested source hd := .branch (.nested source hd) (.pure _)
  nestedResource name hd := by
    refine .branch (.bind (.load name) fun source => ?_) (.pure _)
    split
    · exact .nested _ hd
    · exact .pure _
  embedResource name := by
    refine .bind (.load name) fun source => ?_
    split
    · exact .print _
    · exact .pure _

end Rendering

/-! ### Names in maps -/

theorem Hosts.KeepApart.allowsRenders {hosts : Hosts} (h : hosts.KeepApart) :
    Footprint.apart.AllowsRenders hosts where
  step step := by
    cases step with
    | newList items => exact Store.keepsApart_newList items
    | newMap pairs => exact Store.keepsApart_newMap (Entries.nodup_keys_ofPairs pairs)
    | property v name => exact h.property v name
    | use done => exact Footprint.uses h.invoke h.index h.writeProperty done
  newLoop _ _ := id
  ownLoop _ hu _ := hu

open Rendering in
/-- Where each map has each name once, it is so after expressions and nodes, however they end, and
after the render of a whole document. -/
theorem Hosts.KeepApart.render_distinct {ω : Type} {env : Observed ω} (h : env.hosts.KeepApart) :
    (∀ frames (s : State) w, s.store.Distinct →
      (∀ e, (evaluate env (renderFrame env frames) e s w).1.2.store.Distinct) ∧
      ∀ nodes, (renderNodes env (renderFrame env frames) nodes s w).1.2.store.Distinct) ∧
    ∀ start (context : Context) (d : Document) (store : Store), store.Distinct →
      (d.renderObserved env start context store).1.store.Distinct := by
  have agrees := agreement_within env h.allowsRenders
  refine ⟨fun frames s w distinct => ⟨fun e => ?_, fun nodes => ?_⟩, ?_⟩
  · exact (agrees s.store).expression frames e s w id distinct
  · exact (agrees s.store).nodes frames nodes s w id distinct
  · intro start context d store distinct
    have copied := Context.keepsApart_globalScope context store distinct
    exact (agrees _).renderFrame (frameBound env.options) (.document d) _ start id copied

end Template

import Template.Proofs.Render.StoreChanges

/-!
What a rendering does to loops that were there before: it may stop them, but their turn stays the
same. Only the loop itself goes on to its next turn.
-/

namespace Template

/-- Both tell the same but for being stopped, which is never taken back. -/
structure LoopState.SameTurn (l m : LoopState) : Prop where
  index : m.index = l.index
  hasNext : m.hasNext = l.hasNext
  parent : m.parent = l.parent
  stopped : l.stopped = true → m.stopped = true

theorem LoopState.SameTurn.refl (l : LoopState) : l.SameTurn l := ⟨rfl, rfl, rfl, id⟩

theorem LoopState.SameTurn.trans {l m n : LoopState} (h : l.SameTurn m) (h' : m.SameTurn n) :
    l.SameTurn n :=
  ⟨h'.index.trans h.index, h'.hasNext.trans h.hasNext, h'.parent.trans h.parent,
    fun hl => h'.stopped (h.stopped hl)⟩

theorem Store.loop_updateLoop (s : Store) (number n : Nat) (f : LoopState → LoopState)
    (hn : n < s.loops.size) :
    ((Store.updateLoop number f) s).2.loop n = if number = n then f (s.loop n) else s.loop n := by
  change ((s.loops.modify number f).getD n (.start .null)) = _
  simp only [Store.loop, Array.getD, Array.size_modify, hn, dif_pos, Array.getInternal_eq_getElem,
    Array.getElem_modify]

/-- No loop goes away, and all are in the same turn. -/
def Footprint.turns : Footprint where
  Allows s t := s.loops.size ≤ t.loops.size ∧ ∀ n < s.loops.size, (s.loop n).SameTurn (t.loop n)
  refl _ := ⟨Nat.le_refl _, fun _ _ => .refl _⟩
  trans h h' := ⟨Nat.le_trans h.1 h'.1, fun n hn =>
    (h.2 n hn).trans (h'.2 n (Nat.lt_of_lt_of_le hn h.1))⟩

/-- The methods of the host leave the turns of loops alone: of the members that the object of a loop
has, only `stop` changes it. -/
def Hosts.KeepTurns (hosts : Hosts) : Prop :=
  ∀ o ∈ hosts.objects, ∀ name method, o.methods.get? name = some method →
    ∀ arguments, Footprint.turns.Covers (method arguments)

namespace Footprint

theorem turns_of_loops {s t : Store} (h : t.loops = s.loops) : turns.Allows s t := by
  refine ⟨Nat.le_of_eq (by rw [h]), fun n _ => ?_⟩
  rw [show t.loop n = s.loop n by simp only [Store.loop, h]]
  exact .refl _

theorem turns_newLoop (parent : Value) : turns.Covers (Store.newLoop parent) := by
  intro s
  refine ⟨by simp [Store.newLoop], fun n hn => ?_⟩
  have same : ((Store.newLoop parent) s).2.loop n = s.loop n := by
    simp [Store.newLoop, Store.loop, Array.getD, hn, Nat.lt_succ_of_lt hn, Array.getElem_push]
  rw [same]
  exact .refl _

theorem turns_stop (number : Nat) :
    turns.Covers (Store.updateLoop number fun l => { l with stopped := true }) := by
  intro s
  refine ⟨Nat.le_of_eq (Array.size_modify ..).symm, fun n hn => ?_⟩
  rw [Store.loop_updateLoop s number n _ hn]
  split
  · exact ⟨rfl, rfl, rfl, fun _ => rfl⟩
  · exact .refl _

/-- A loop that was made since may be changed in any way. -/
theorem turns_newer {s t : Store} (h : turns.Allows s t) {number : Nat}
    (hn : s.loops.size ≤ number) (f : LoopState → LoopState) :
    turns.Allows s ((Store.updateLoop number f) t).2 := by
  refine ⟨Nat.le_trans h.1 (Nat.le_of_eq (Array.size_modify ..).symm), fun n hs => ?_⟩
  rw [Store.loop_updateLoop t number n f (Nat.lt_of_lt_of_le hs h.1), if_neg (by omega)]
  exact h.2 n hs

theorem turns_method {hosts : Hosts} (hh : hosts.KeepTurns) (name : String) :
    turns.AllowsMethod hosts name where
  make _ _ _ := turns_of_loops rfl
  write _ _ _ _ := turns_of_loops rfl
  stop _ := turns_stop
  host o ho method hm arguments :=
    bind get fun _ => bind (fun _ => turns_of_loops rfl) fun _ => hh o ho name method hm arguments

theorem turns_write {hosts : Hosts} (hh : hosts.KeepTurns) (target : Value) (name : String)
    (value : Value) : turns.Covers (Rendering.writeProperty hosts target name value) := by
  cases target with
  | map a => exact bind get fun _ _ => turns_of_loops rfl
  | object id => exact bind ((turns_method hh _).objectMethod id [value]) fun _ => pure _
  | _ => exact pure _

theorem turns_step {α : Type} {hosts : Hosts} (hh : hosts.KeepTurns) {action : Action α}
    (h : Rendering.StoreStep hosts action) : turns.Covers action := by
  cases h with
  | newList items => exact newList (fun _ _ => turns_of_loops rfl) items
  | newMap pairs => exact newMap (fun _ _ => turns_of_loops rfl) _
  | property v name => exact property (turns_method hh _).host v
  | use done =>
      exact uses (fun v name arguments => invoke (turns_method hh name) v arguments)
        (index (turns_method hh _).host fun _ => (turns_method hh _).host) (turns_write hh) done

theorem turns_renders {hosts : Hosts} (hh : hosts.KeepTurns) : turns.AllowsRenders hosts where
  step := turns_step hh
  newLoop := turns_newLoop
  ownLoop ht hu := turns_newer hu ht.1

end Footprint

namespace Rendering

/-- However it ends, the computation leaves the loops of `s` in their turn. -/
abbrev KeepsTurns {ω α : Type} (s : Store) (c : Rendering ω α) : Prop := Within .turns s c

theorem agreement_keepsTurns {ω : Type} (env : Observed ω) (hh : env.hosts.KeepTurns) (s : Store) :
    Agreement env env (fun c _ => KeepsTurns s c) (fun c _ => KeepsTurns s c) :=
  agreement_within env (Footprint.turns_renders hh) s

end Rendering

end Template

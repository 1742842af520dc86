import Template.Proofs.Value.Acyclic
import Template.Proofs.Value.Footprint
import Template.Value.Copy

/-!
Copies of values. The store grows while a value is copied, but the cells that are copied stay as
they were, so the depth that is allowed makes no difference where no list or map contains itself.
-/

namespace Template

namespace Footprint

variable {F : Footprint} {α β : Type}

/-- Two actions that agree on each element wherever the store may be by then. -/
theorem mapM_congr {f g : α → Action β} {as : List α} {s : Store}
    (hf : ∀ a, F.Covers (f a)) (h : ∀ a ∈ as, ∀ t, F.Allows s t → f a t = g a t) {t : Store}
    (ht : F.Allows s t) : as.mapM f t = as.mapM g t := by
  induction as generalizing t with
  | nil => rfl
  | cons a as ih =>
      obtain ⟨ha, has⟩ := List.forall_mem_cons.1 h
      have rest := ih has (F.trans ht (hf a t))
      simp only [List.mapM_cons]
      change (as.mapM f >>= fun bs => Pure.pure ((f a t).1 :: bs)) (f a t).2 =
        (as.mapM g >>= fun bs => Pure.pure ((g a t).1 :: bs)) (g a t).2
      rw [← ha t ht]
      exact congrArg (fun r => ((f a t).1 :: r.1, r.2)) rest

end Footprint

namespace Value

/-- The entry under the same name, with its value copied. -/
def copyEntry (copy : Value → Action Value) (entry : String × Value) : Action (String × Value) := do
  return (entry.1, ← copy entry.2)

theorem copyWithin_list (depth : Nat) (a : Address) (s : Store) :
    copyWithin (depth + 1) (list a) s =
      let out := (s.items a).mapM (copyWithin depth) s
      Store.newList out.1 out.2 := by
  simp only [copyWithin]
  rfl

theorem copyWithin_map (depth : Nat) (a : Address) (s : Store) :
    copyWithin (depth + 1) (map a) s =
      let out := (s.entries a).mapM (copyEntry (copyWithin depth)) s
      Store.newMap out.1 out.2 := by
  simp only [copyWithin]
  rfl

/-- Entries whose values are copied keep their names. -/
theorem mapM_copyEntry (copy : Value → Action Value) (entries : Entries Value) (s : Store) :
    let out := entries.mapM (copyEntry copy) s
    Entries.keys out.1 = entries.keys ∧ entries.values.mapM copy s = (Entries.values out.1, out.2) := by
  intro out
  induction entries generalizing s with
  | nil => exact ⟨rfl, rfl⟩
  | cons entry entries ih =>
      let next := entries.mapM (copyEntry copy) (copy entry.2 s).2
      obtain ⟨keys, values⟩ := ih (copy entry.2 s).2
      have run : out = ((entry.1, (copy entry.2 s).1) :: next.1, next.2) := by
        simp only [out, List.mapM_cons]
        rfl
      rw [run]
      refine ⟨congrArg (entry.1 :: ·) keys, ?_⟩
      simp only [Entries.values, List.map_cons, List.mapM_cons]
      exact congrArg (fun out => ((copy entry.2 s).1 :: out.1, out.2)) values

end Value

namespace Footprint

theorem copyEntry {F : Footprint} {copy : Value → Action Value} (h : ∀ v, F.Covers (copy v))
    (entry : String × Value) : F.Covers (Value.copyEntry copy entry) :=
  bind (h entry.2) fun _ => pure _

theorem growing_copyWithin (depth : Nat) (v : Value) :
    growing.Covers (Value.copyWithin depth v) := by
  induction depth generalizing v with
  | zero => exact pure v
  | succ depth ih =>
      cases v with
      | list a => exact bind get fun s => bind (mapM ih _) fun _ => newList growing_allocate _
      | map a =>
          exact bind get fun s => bind (mapM (copyEntry ih) _) fun _ => newMap growing_allocate _
      | _ => exact pure _

end Footprint

namespace Store

/-- No list or map has a cell in it that is not there. -/
def Closed (s : Store) : Prop := ∀ a b, s.Holds a b → b < s.cells.size

/-- The value is no cell that is not there. -/
def Has (s : Store) (v : Value) : Prop := ∀ a ∈ v.cell?, a < s.cells.size

instance (s : Store) (v : Value) : Decidable (s.Has v) :=
  inferInstanceAs (Decidable (∀ a ∈ v.cell?, a < s.cells.size))

theorem closed_of_lt {s : Store}
    (h : ∀ a < s.cells.size, ∀ v ∈ s.contents a, s.Has v) : s.Closed := by
  intro a b hb
  obtain ⟨v, hv, he⟩ := id hb
  exact h a hb.lt_size v hv b he

theorem Closed.has_of_mem {s : Store} (hs : s.Closed) {a : Address} {v : Value}
    (hv : v ∈ s.contents a) : s.Has v :=
  fun b hb => hs a b ⟨v, hv, hb⟩

theorem cell_of_growing {s t : Store} (h : Footprint.growing.Allows s t) {a : Address}
    (ha : a < s.cells.size) : t.cells[a]? = s.cells[a]? := by
  obtain ⟨⟨new, hn⟩, -⟩ := h
  rw [hn, Array.getElem?_append_left ha]

end Store

namespace Value

variable {s : Store}

theorem copyWithin_of_endsWithin (hc : s.Closed) {m n : Nat} {v : Value} (hv : s.Has v)
    (hm : s.EndsWithin m v) (hn : s.EndsWithin n v) {t : Store}
    (ht : Footprint.growing.Allows s t) : copyWithin m v t = copyWithin n v t := by
  induction hm generalizing n t with
  | @single _ v h =>
      cases v with
      | list a | map a => cases h
      | _ => simp only [copyWithin]
  | @list m a _ ih =>
      cases hn with
      | single h => cases h
      | @list n _ inside =>
          have items : t.items a = s.items a := by
            simp only [Store.items, Store.cell_of_growing ht (hv a rfl)]
          have same : (s.items a).mapM (copyWithin m) t = (s.items a).mapM (copyWithin n) t := by
            refine Footprint.mapM_congr (Footprint.growing_copyWithin m) (fun u hu r hr => ?_) ht
            exact ih u hu (hc.has_of_mem (mem_contents_of_mem_items hu)) (inside u hu) hr
          rw [copyWithin_list, copyWithin_list, items, same]
  | @map m a _ ih =>
      cases hn with
      | single h => cases h
      | @map n _ inside =>
          have entries : t.entries a = s.entries a := by
            simp only [Store.entries, Store.cell_of_growing ht (hv a rfl)]
          have same : (s.entries a).mapM (copyEntry (copyWithin m)) t =
              (s.entries a).mapM (copyEntry (copyWithin n)) t := by
            refine Footprint.mapM_congr (Footprint.copyEntry (Footprint.growing_copyWithin m))
              (fun entry he r hr => ?_) ht
            have there := hc.has_of_mem (mem_contents_of_mem_entries he)
            have same := ih entry he there (inside entry he) hr
            exact congrArg (fun out => ((entry.1, out.1), out.2)) same
          rw [copyWithin_map, copyWithin_map, entries, same]

/-- The copy of a value does not depend on the depth that is allowed. -/
theorem copyWithin_eq_deepCopy (hs : s.Acyclic) (hc : s.Closed) {depth : Nat}
    (h : s.depthBound ≤ depth) {v : Value} (hv : s.Has v) :
    copyWithin depth v s = v.deepCopy s :=
  copyWithin_of_endsWithin hc hv (hs.endsWithin h v) (hs.endsWithin le_rfl v)
    (Footprint.growing.refl s)

end Value

end Template

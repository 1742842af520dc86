import Template.Proofs.Value.Copies
import Template.Proofs.Value.Replay

/-!
Data that can be copied to its end, and its copies. Where two stores hold the same data, copies of it
are the same but for their place, and nothing that is in the data is in the copies.
-/

namespace Template

namespace Store

/-- Every list and map in the value is there, and what is in them comes to an end. -/
inductive Data (s : Store) : Value → Prop where
  | intro {v : Value} (has : s.Has v) (inside : ∀ a ∈ v.cell?, ∀ u ∈ s.contents a, s.Data u) :
      s.Data v

namespace Data

variable {s : Store} {v u : Value} {a b : Address}

theorem has (h : s.Data v) : s.Has v := by
  cases h with
  | intro has _ => exact has

theorem of_mem (h : s.Data v) (ha : a ∈ v.cell?) (hu : u ∈ s.contents a) : s.Data u := by
  cases h with
  | intro _ inside => exact inside a ha u hu

theorem not_circular (h : s.Data v) (ha : a ∈ v.cell?) : ¬Relation.TransGen s.Holds a a := by
  induction h generalizing a with
  | intro _ _ ih =>
      intro circle
      obtain ⟨b, ⟨u, hu, hb⟩, path⟩ := Relation.TransGen.head'_iff.1 circle
      -- the circle can be entered at what is in the cell
      exact ih a ha u hu hb (.tail' path ⟨u, hu, hb⟩)

theorem acyclicIn (h : s.Data v) : s.AcyclicIn v := by
  rintro b ⟨a, ha, path⟩
  have reached : ∃ u, s.Data u ∧ b ∈ u.cell? := by
    induction path with
    | refl => exact ⟨v, h, ha⟩
    | tail _ step ih =>
        obtain ⟨w, hw, hc⟩ := ih
        obtain ⟨u, hu, hb⟩ := step
        exact ⟨u, hw.of_mem hc hu, hb⟩
  obtain ⟨u, hu, hb⟩ := reached
  exact hu.not_circular hb

/-- Where nothing contains itself and nothing is missing, every value comes to an end. -/
theorem of_acyclic (hs : s.Acyclic) (hc : s.Closed) {v : Value} (hv : s.Has v) : s.Data v := by
  induction hn : v.nesting s using Nat.strong_induction_on generalizing v with
  | _ n ih =>
      subst hn
      exact .intro hv fun a ha u hu =>
        ih _ (Value.nesting_lt_of_mem (hs.acyclicIn v) ha hu) (hc.has_of_mem hu) rfl

end Data

end Store

namespace Placement

variable {p : Placement}

/-- Data that is in the same cells of both stores, with objects that both renders may get at. -/
inductive Copyable (p : Placement) : Value → Prop where
  | intro {v : Value} (same : v.cell? = none → p.Same v v) (has : p.first.Has v)
      (kept : ∀ a ∈ v.cell?, p.second.cells[a]? = p.first.cells[a]?)
      (inside : ∀ a ∈ v.cell?, ∀ u ∈ p.first.contents a, p.Copyable u) : p.Copyable v

/-- Stores before anything that was there is changed. -/
structure Begun (p : Placement) (s t : Store) : Prop extends p.Stores s t where
  first : ∀ a < p.first.cells.size, s.cells[a]? = p.first.cells[a]?
  second : ∀ a < p.second.cells.size, t.cells[a]? = p.second.cells[a]?

theorem Begun.start
    (hc : ∀ a, p.cells.shared a → Option.Rel p.SameCell p.first.cells[a]? p.second.cells[a]?)
    (hl : ∀ i, p.loops.shared i → Option.Rel p.SameLoop p.first.loops[i]? p.second.loops[i]?) :
    p.Begun p.first p.second where
  cells := .start hc
  loops := .start hl
  calls := ⟨#[], by simp, by simp⟩
  first _ _ := rfl
  second _ _ := rfl

namespace Copyable

variable {v u : Value} {a : Address}

theorem lt_second (h : p.Copyable v) (ha : a ∈ v.cell?) : a < p.second.cells.size := by
  cases h with
  | intro _ has kept _ =>
      have there := Array.getElem?_eq_getElem (has a ha)
      rw [← kept a ha] at there
      exact (Array.getElem?_eq_some_iff.1 there).1

theorem same (h : p.Copyable v) (hv : v.cell? = none) : p.Same v v := by
  cases h with
  | intro same _ _ _ => exact same hv

theorem cell_eq (h : p.Copyable v) (ha : a ∈ v.cell?) :
    p.second.cells[a]? = p.first.cells[a]? := by
  cases h with
  | intro _ _ kept _ => exact kept a ha

theorem items (h : p.Copyable v) (ha : a ∈ v.cell?) : p.second.items a = p.first.items a := by
  simp only [Store.items, h.cell_eq ha]

theorem entries (h : p.Copyable v) (ha : a ∈ v.cell?) :
    p.second.entries a = p.first.entries a := by
  simp only [Store.entries, h.cell_eq ha]

theorem contents (h : p.Copyable v) (ha : a ∈ v.cell?) :
    p.second.contents a = p.first.contents a := by
  simp only [Store.contents, h.items ha, h.entries ha]

theorem of_mem (h : p.Copyable v) (ha : a ∈ v.cell?) (hu : u ∈ p.first.contents a) :
    p.Copyable u := by
  cases h with
  | intro _ _ _ inside => exact inside a ha u hu

theorem first (h : p.Copyable v) : p.first.Data v := by
  induction h with
  | intro _ has _ _ ih => exact .intro has ih

theorem second (h : p.Copyable v) : p.second.Data v := by
  induction h with
  | intro same has kept inside ih =>
      have whole : p.Copyable _ := .intro same has kept inside
      refine .intro (fun a ha => whole.lt_second ha) fun a ha u hu => ih a ha u ?_
      rwa [whole.contents ha] at hu

end Copyable

namespace Begun

variable {s t : Store} {v : Value} {a : Address}

theorem contents (h : p.Begun s t) (hv : p.Copyable v) (ha : a ∈ v.cell?) :
    s.items a = p.first.items a ∧ t.items a = p.first.items a ∧
      s.entries a = p.first.entries a ∧ t.entries a = p.first.entries a := by
  have first := h.first a (hv.first.has a ha)
  have second := (h.second a (hv.lt_second ha)).trans (hv.cell_eq ha)
  simp only [Store.items, Store.entries, first, second, and_self]

end Begun

namespace Acts

variable {α β : Type} {R : α → β → Prop} {v : Value}

theorem begin {c : Action α} {d : Action β} (h : Acts p.Stores R c d)
    (hc : Footprint.growing.Covers c) (hd : Footprint.growing.Covers d) : Acts p.Begun R c d := by
  intro s t hs
  obtain ⟨hr, stores⟩ := h s t hs.toStores
  refine ⟨hr, stores, fun a ha => ?_, fun a ha => ?_⟩
  · rw [Store.cell_of_growing (hc s) (ha.trans_le hs.cells.first.le_size), hs.first a ha]
  · rw [Store.cell_of_growing (hd t) (ha.trans_le hs.cells.second.le_size), hs.second a ha]

theorem copyWithin (hv : p.Copyable v) {m n : Nat} (hm : p.first.EndsWithin m v)
    (hn : p.second.EndsWithin n v) :
    Acts p.Begun p.Same (Value.copyWithin m v) (Value.copyWithin n v) := by
  induction hm generalizing n with
  | @single _ v h =>
      cases v with
      | list a | map a => cases h
      | _ =>
          simp only [Value.copyWithin]
          exact pure (hv.same rfl)
  | @list m a _ ih =>
      cases hn with
      | single h => cases h
      | list inside =>
          rw [hv.items rfl] at inside
          simp only [Value.copyWithin]
          refine get fun s t hs => ?_
          obtain ⟨first, second, -, -⟩ := hs.contents hv rfl
          rw [first, second]
          have same : List.Forall₂ (fun u u' => u = u' ∧ u ∈ p.first.items a)
              (p.first.items a) (p.first.items a) :=
            List.forall₂_same.2 fun u hu => ⟨rfl, hu⟩
          refine bind (mapM (Q := p.Same) same ?_) fun _ _ h =>
            begin (newList h) (Footprint.newList Footprint.growing_allocate _)
              (Footprint.newList Footprint.growing_allocate _)
          rintro u _ ⟨rfl, hu⟩
          exact ih u hu (hv.of_mem rfl (Value.mem_contents_of_mem_items hu)) (inside u hu)
  | @map m a _ ih =>
      cases hn with
      | single h => cases h
      | map inside =>
          rw [hv.entries rfl] at inside
          simp only [Value.copyWithin]
          refine get fun s t hs => ?_
          obtain ⟨-, -, first, second⟩ := hs.contents hv rfl
          rw [first, second]
          have same : List.Forall₂ (fun e e' => e = e' ∧ e ∈ p.first.entries a)
              (p.first.entries a) (p.first.entries a) :=
            List.forall₂_same.2 fun e he => ⟨rfl, he⟩
          refine bind (mapM (Q := p.SameEntry) same ?_) fun _ _ h =>
            begin (newMap h) (Footprint.newMap Footprint.growing_allocate _)
              (Footprint.newMap Footprint.growing_allocate _)
          rintro ⟨name, u⟩ _ ⟨rfl, he⟩
          have hu := hv.of_mem rfl (Value.mem_contents_of_mem_entries he)
          exact bind (ih _ he hu (inside _ he)) fun _ _ h => pure ⟨rfl, h⟩

theorem deepCopy (hv : p.Copyable v) : Acts p.Begun p.Same v.deepCopy v.deepCopy := by
  refine get fun s t hs =>
    copyWithin hv (hv.first.acyclicIn.endsWithin ?_) (hv.second.acyclicIn.endsWithin ?_)
  · exact (Value.nesting_le_depthBound _ v).trans (Nat.succ_le_succ hs.cells.first.le_size)
  · exact (Value.nesting_le_depthBound _ v).trans (Nat.succ_le_succ hs.cells.second.le_size)

end Acts

end Placement

end Template

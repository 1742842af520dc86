import Mathlib.Data.Finset.Card
import Mathlib.Logic.Relation
import Template.Value.Text

/-!
Lists and maps that do not contain themselves. The text of a value and equality follow lists and
maps as deep as these are nested; where none contains itself that is to their end, so following them
any deeper makes no difference.
-/

namespace Template

namespace Store

/-- One cell contains another. -/
def Holds (s : Store) (a b : Address) : Prop := ∃ v ∈ s.contents a, v.cell? = some b

/-- No list or map contains itself, also not through others. -/
def Acyclic (s : Store) : Prop := ∀ a, ¬Relation.TransGen s.Holds a a

/-- The value is a cell, or there is one inside it. -/
def Reaches (s : Store) (v : Value) (b : Address) : Prop :=
  ∃ a ∈ v.cell?, Relation.ReflTransGen s.Holds a b

/-- No list or map in the value contains itself. -/
def AcyclicIn (s : Store) (v : Value) : Prop :=
  ∀ b, s.Reaches v b → ¬Relation.TransGen s.Holds b b

theorem Acyclic.acyclicIn {s : Store} (h : s.Acyclic) (v : Value) : s.AcyclicIn v := fun b _ => h b

theorem contents_of_size_le {s : Store} {a : Address} (h : s.cells.size ≤ a) :
    s.contents a = [] := by
  have none : s.cells[a]? = none := Array.getElem?_eq_none h
  simp [contents, items, entries, none]

theorem lt_size_of_mem {s : Store} {a : Address} {v : Value} (h : v ∈ s.contents a) :
    a < s.cells.size := by
  by_contra ha
  simp [contents_of_size_le (Nat.le_of_not_lt ha)] at h

theorem Holds.lt_size {s : Store} {a b : Address} (h : s.Holds a b) : a < s.cells.size :=
  lt_size_of_mem h.choose_spec.1

/-- If every cell contains later cells only, none contains itself. -/
theorem acyclic_of_lt {s : Store}
    (h : ∀ a < s.cells.size, ∀ v ∈ s.contents a, ∀ b ∈ v.cell?, a < b) : s.Acyclic := by
  intro a ha
  have increasing {b : Address} (path : Relation.TransGen s.Holds a b) : a < b := by
    induction path with
    | single step =>
        obtain ⟨v, hv, hb⟩ := id step
        exact h a step.lt_size v hv _ hb
    | tail _ step ih =>
        obtain ⟨v, hv, hb⟩ := id step
        exact ih.trans (h _ step.lt_size v hv _ hb)
  exact Nat.lt_irrefl a (increasing ha)

theorem Reaches.of_mem {s : Store} {v u : Value} {a b : Address} (ha : v.cell? = some a)
    (hu : u ∈ s.contents a) (h : s.Reaches u b) : s.Reaches v b := by
  obtain ⟨c, hc, hb⟩ := h
  exact ⟨a, ha, .head ⟨u, hu, hc⟩ hb⟩

theorem AcyclicIn.of_mem {s : Store} {v u : Value} {a : Address} (h : s.AcyclicIn v)
    (ha : v.cell? = some a) (hu : u ∈ s.contents a) : s.AcyclicIn u :=
  fun b hb => h b (hb.of_mem ha hu)

/-- What is in a list or a map does not lead back to it. -/
theorem AcyclicIn.not_reaches {s : Store} {v u : Value} {a : Address} (h : s.AcyclicIn v)
    (ha : v.cell? = some a) (hu : u ∈ s.contents a) : ¬s.Reaches u a := by
  rintro ⟨c, hc, hb⟩
  exact h a ⟨a, ha, .refl⟩ (.head' ⟨u, hu, hc⟩ hb)

end Store

namespace Value

variable {hosts : Hosts} {s : Store}

theorem foldr_max_le_iff {ns : List Nat} {m : Nat} : ns.foldr max 0 ≤ m ↔ ∀ n ∈ ns, n ≤ m := by
  induction ns with
  | nil => simp
  | cons n ns ih => simp [ih]

theorem nestingInside_le (depth : Nat) (around : List Address) (v : Value) :
    v.nestingInside s depth around ≤ depth := by
  induction depth generalizing around v with
  | zero => exact Nat.le_refl 0
  | succ depth ih =>
      simp only [nestingInside]
      split
      · exact Nat.zero_le _
      · split
        · exact Nat.zero_le _
        · refine Nat.succ_le_succ (foldr_max_le_iff.2 fun n hn => ?_)
          obtain ⟨u, -, rfl⟩ := List.mem_map.1 hn
          exact ih _ u

theorem nesting_le_depthBound (s : Store) (v : Value) : v.nesting s ≤ s.depthBound :=
  nestingInside_le _ _ v

/-- Cells around a value make a difference only where the value leads to them. -/
theorem nestingInside_congr {depth : Nat} {around around' : List Address} {v : Value}
    (h : ∀ b, s.Reaches v b → (b ∈ around ↔ b ∈ around')) :
    v.nestingInside s depth around = v.nestingInside s depth around' := by
  induction depth generalizing around around' v with
  | zero => rfl
  | succ depth ih =>
      simp only [nestingInside]
      split
      · rfl
      next a ha =>
        have inside : a ∈ around ↔ a ∈ around' := h a ⟨a, ha, .refl⟩
        have same (u : Value) (hu : u ∈ s.contents a) :
            u.nestingInside s depth (a :: around) = u.nestingInside s depth (a :: around') := by
          refine ih fun b hb => ?_
          rw [List.mem_cons, List.mem_cons, h b (hb.of_mem ha hu)]
        rw [List.map_congr_left same]
        simp only [inside]

/-- Cells of the store, each once, that a value is inside of. -/
structure Around (s : Store) (around : List Address) : Prop where
  nodup : around.Nodup
  lt_size : ∀ a ∈ around, a < s.cells.size

theorem Around.cons {around : List Address} (h : Around s around) {a : Address}
    (ha : a < s.cells.size) (hn : a ∉ around) : Around s (a :: around) :=
  ⟨List.nodup_cons.2 ⟨hn, h.nodup⟩, List.forall_mem_cons.2 ⟨ha, h.lt_size⟩⟩

theorem Around.length_le {around : List Address} (h : Around s around) :
    around.length ≤ s.cells.size := by
  have sub : around ⊆ List.range s.cells.size := fun a ha => List.mem_range.2 (h.lt_size a ha)
  simpa using (h.nodup.subperm sub).length_le

/-- As each cell counts once, counting ends by itself before the depth is reached. -/
theorem nestingInside_succ {depth : Nat} {around : List Address} (h : Around s around)
    (hd : s.cells.size < depth + around.length) (v : Value) :
    v.nestingInside s (depth + 1) around = v.nestingInside s depth around := by
  induction depth generalizing around v with
  | zero =>
      have := h.length_le
      omega
  | succ depth ih =>
      rw [nestingInside, nestingInside]
      split
      · rfl
      next a ha =>
        split
        · rfl
        next hn =>
          congr 2
          refine List.map_congr_left fun u hu => ?_
          refine ih (h.cons (Store.lt_size_of_mem hu) hn) ?_ u
          simp only [List.length_cons]
          omega

/-- Nesting does not depend on the depth that is allowed. -/
theorem nestingInside_eq_nesting {depth : Nat} (hd : s.depthBound ≤ depth) (v : Value) :
    v.nestingInside s depth [] = v.nesting s := by
  induction depth, hd using Nat.le_induction with
  | base => rfl
  | succ depth hd ih =>
      refine (nestingInside_succ ⟨List.nodup_nil, by simp⟩ ?_ v).trans ih
      simp only [Store.depthBound] at hd
      simp only [List.length_nil]
      omega

/-- A list or a map is nested deeper than what is in it. -/
theorem nesting_lt_of_mem {v u : Value} {a : Address} (h : s.AcyclicIn v) (ha : v.cell? = some a)
    (hu : u ∈ s.contents a) : u.nesting s < v.nesting s := by
  have single : Around s [a] :=
    ⟨List.nodup_singleton a, List.forall_mem_singleton.2 (Store.lt_size_of_mem hu)⟩
  have inner : u.nestingInside s s.cells.size [a] = u.nesting s := by
    rw [← nestingInside_succ single (by simp)]
    refine nestingInside_congr fun b hb => ?_
    have apart : b ≠ a := fun e => h.not_reaches ha hu (e ▸ hb)
    simp [apart]
  have outer : v.nesting s =
      ((s.contents a).map (nestingInside s s.cells.size [a])).foldr max 0 + 1 := by
    simp only [nesting, Store.depthBound, nestingInside, ha]
    simp
  rw [outer, Nat.lt_succ_iff, ← inner]
  exact foldr_max_le_iff.1 (Nat.le_refl _) _ (List.mem_map_of_mem hu)

theorem nesting_list_pos (s : Store) (a : Address) : 0 < (list a).nesting s := by
  simp [nesting, Store.depthBound, nestingInside, cell?]

theorem nesting_map_pos (s : Store) (a : Address) : 0 < (map a).nesting s := by
  simp [nesting, Store.depthBound, nestingInside, cell?]

theorem mem_contents_of_mem_items {a : Address} {v : Value} (h : v ∈ s.items a) :
    v ∈ s.contents a :=
  List.mem_append_left _ h

theorem mem_contents_of_mem_entries {a : Address} {entry : String × Value}
    (h : entry ∈ s.entries a) : entry.2 ∈ s.contents a :=
  List.mem_append_right _ (List.mem_map_of_mem h)

end Value

namespace Store

/-- Lists and maps in the value are nested no deeper than this. Their ends are reached by all that
follows them this deep. -/
inductive EndsWithin (s : Store) : Nat → Value → Prop
  | single {depth : Nat} {v : Value} (h : v.cell? = none) : EndsWithin s depth v
  | list {depth : Nat} {a : Address} (inside : ∀ u ∈ s.items a, EndsWithin s depth u) :
      EndsWithin s (depth + 1) (.list a)
  | map {depth : Nat} {a : Address} (inside : ∀ e ∈ s.entries a, EndsWithin s depth e.2) :
      EndsWithin s (depth + 1) (.map a)

variable {s : Store}

theorem AcyclicIn.endsWithin {depth : Nat} {v : Value} (hs : s.AcyclicIn v)
    (h : v.nesting s ≤ depth) : s.EndsWithin depth v := by
  induction depth generalizing v with
  | zero =>
      cases v with
      | list a => exact absurd (Value.nesting_list_pos s a) (Nat.not_lt.2 h)
      | map a => exact absurd (Value.nesting_map_pos s a) (Nat.not_lt.2 h)
      | _ => exact .single rfl
  | succ depth ih =>
      have inner {a : Address} (ha : v.cell? = some a) {u : Value} (hu : u ∈ s.contents a) :
          s.EndsWithin depth u := by
        have less := Value.nesting_lt_of_mem hs ha hu
        exact ih (hs.of_mem ha hu) (by omega)
      cases v with
      | list a => exact .list fun u hu => inner rfl (Value.mem_contents_of_mem_items hu)
      | map a => exact .map fun e he => inner rfl (Value.mem_contents_of_mem_entries he)
      | _ => exact .single rfl

theorem Acyclic.endsWithin (hs : s.Acyclic) {depth : Nat} (h : s.depthBound ≤ depth) (v : Value) :
    s.EndsWithin depth v :=
  (hs.acyclicIn v).endsWithin ((Value.nesting_le_depthBound s v).trans h)

end Store

namespace Value

variable {hosts : Hosts} {s : Store}

theorem textWithin_of_endsWithin {m n : Nat} {v : Value} (hm : s.EndsWithin m v)
    (hn : s.EndsWithin n v) : textWithin hosts s m v = textWithin hosts s n v := by
  induction hm generalizing n with
  | @single _ v h =>
      cases v with
      | list a | map a => cases h
      | _ => simp only [textWithin]
  | list _ ih =>
      cases hn with
      | single h => cases h
      | list inside =>
          simp only [textWithin]
          congr 3
          exact List.map_congr_left fun u hu => ih u hu (inside u hu)
  | map _ ih =>
      cases hn with
      | single h => cases h
      | map inside =>
          simp only [textWithin]
          congr 3
          exact List.map_congr_left fun e he => congrArg _ (ih e he (inside e he))

/-- The text of a value does not depend on the depth that is allowed. -/
theorem textWithin_eq_display (hs : s.Acyclic) {depth : Nat} (h : s.depthBound ≤ depth)
    (v : Value) : textWithin hosts s depth v = v.display hosts s :=
  textWithin_of_endsWithin (hs.endsWithin h v) ((hs.acyclicIn v).endsWithin le_rfl)

end Value

end Template

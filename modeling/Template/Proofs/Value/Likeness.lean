import Template.Proofs.Value.Copies

/-!
What a copy is like. It has the shape of the value that it is made from, with the same scalars and
objects in the same places; its lists and maps are cells that the store did not have before, and each
of them is in it once, however often the one that it is made from is in the value.
-/

namespace Template

namespace Store

/-- The same shape: the same scalars and objects, the same keys in the same order. It makes no
difference in which cells the lists and maps are. -/
inductive Alike (s t : Store) : Value → Value → Prop
  | single {v : Value} (h : v.cell? = none) : Alike s t v v
  | list {a b : Address} (items : List.Forall₂ (Alike s t) (s.items a) (t.items b)) :
      Alike s t (.list a) (.list b)
  | map {a b : Address} (keys : (s.entries a).keys = (t.entries b).keys)
      (values : List.Forall₂ (Alike s t) (s.entries a).values (t.entries b).values) :
      Alike s t (.map a) (.map b)

/-- The lists and maps that are met on a walk through the values, each as often as it is met. -/
inductive Parts (s : Store) : List Value → List Address → Prop
  | nil : Parts s [] []
  | single {v : Value} {vs : List Value} {cells : List Address} (h : v.cell? = none)
      (rest : Parts s vs cells) : Parts s (v :: vs) cells
  | cell {v : Value} {vs : List Value} {a : Address} {cells more : List Address}
      (h : v.cell? = some a) (inside : Parts s (s.contents a) cells) (rest : Parts s vs more) :
      Parts s (v :: vs) (a :: (cells ++ more))

/-- Nothing that is in the value is missing from the store. -/
def Whole (s : Store) (v : Value) : Prop := ∀ b, s.Reaches v b → b < s.cells.size

theorem Whole.of_mem {s : Store} {v u : Value} {a : Address} (h : s.Whole v)
    (ha : v.cell? = some a) (hu : u ∈ s.contents a) : s.Whole u :=
  fun b hb => h b (hb.of_mem ha hu)

theorem Whole.lt_size {s : Store} {v : Value} {a : Address} (h : s.Whole v)
    (ha : v.cell? = some a) : a < s.cells.size :=
  h a ⟨a, ha, .refl⟩

namespace Parts

variable {s : Store} {v : Value} {vs us : List Value} {cells more : List Address}

theorem append (h : s.Parts vs cells) (h' : s.Parts us more) :
    s.Parts (vs ++ us) (cells ++ more) := by
  induction h with
  | nil => exact h'
  | single hv _ ih => exact .single hv ih
  | @cell _ _ a inner _ hv inside _ _ ih =>
      rw [List.cons_append, List.cons_append, List.append_assoc]
      exact .cell hv inside ih

/-- The walk meets what the values lead to. -/
theorem mem_iff (h : s.Parts vs cells) {b : Address} :
    b ∈ cells ↔ ∃ v ∈ vs, s.Reaches v b := by
  induction h with
  | nil => simp
  | single hv _ ih =>
      have alone : ¬s.Reaches _ b := fun ⟨a, ha, _⟩ => nomatch hv.symm.trans ha
      simp [ih, alone]
  | @cell v vs a inner more hv inside _ ihi ihr =>
      have here : s.Reaches v b ↔ b = a ∨ ∃ u ∈ s.contents a, s.Reaches u b := by
        constructor
        · rintro ⟨c, hc, path⟩
          obtain rfl : a = c := Option.some.inj (hv.symm.trans hc)
          obtain rfl | ⟨d, ⟨u, hu, hd⟩, path⟩ := path.cases_head
          · exact .inl rfl
          · exact .inr ⟨u, hu, d, hd, path⟩
        · rintro (rfl | ⟨u, hu, hb⟩)
          · exact ⟨b, hv, .refl⟩
          · exact hb.of_mem hv hu
      rw [List.mem_cons, List.mem_append, ihi, ihr, List.exists_mem_cons_iff, here, or_assoc]

end Parts

/-- Between two stores, values have been copied. The copies are like the values, and walking through
them one meets new cells, none of them twice. Both stay so while the store grows. -/
structure Copied (s t : Store) (vs us : List Value) (t' : Store) : Prop where
  alike : ∀ r, Footprint.growing.Allows t' r → List.Forall₂ (s.Alike r) vs us
  parts : ∃ cells, (∀ r, Footprint.growing.Allows t' r → r.Parts us cells) ∧ cells.Nodup ∧
    ∀ n : Nat, n ∈ cells → t.cells.size ≤ n ∧ n < t'.cells.size

theorem size_le_of_growing {s t : Store} (h : Footprint.growing.Allows s t) :
    s.cells.size ≤ t.cells.size := by
  obtain ⟨⟨new, hn⟩, -⟩ := h
  rw [hn, Array.size_append]
  exact Nat.le_add_right _ _

/-- The new cell keeps what has been put into it. -/
theorem cell_allocate (cell : Cell) {t r : Store}
    (h : Footprint.growing.Allows (allocate cell t).2 r) : r.cells[t.cells.size]? = some cell := by
  have bound : t.cells.size < (allocate cell t).2.cells.size := by
    change _ < (t.cells.push cell).size
    rw [Array.size_push]
    exact Nat.lt_succ_self _
  rw [cell_of_growing h bound]
  exact Array.getElem?_push_size

namespace Copied

variable {s t t₁ t₂ : Store} {v u : Value} {vs us : List Value}

theorem nil : s.Copied t [] [] t :=
  ⟨fun _ _ => .nil, [], fun _ _ => .nil, List.nodup_nil, fun _ h => nomatch h⟩

theorem single (h : v.cell? = none) : s.Copied t [v] [v] t :=
  ⟨fun _ _ => .cons (.single h) .nil, [], fun _ _ => .single h .nil, List.nodup_nil,
    fun _ h => nomatch h⟩

theorem cons (h : s.Copied t [v] [u] t₁) (h' : s.Copied t₁ vs us t₂)
    (first : Footprint.growing.Allows t t₁) (second : Footprint.growing.Allows t₁ t₂) :
    s.Copied t (v :: vs) (u :: us) t₂ := by
  obtain ⟨cells, parts, nodup, within⟩ := h.parts
  obtain ⟨more, parts', nodup', within'⟩ := h'.parts
  refine ⟨fun r hr => ?_, cells ++ more, fun r hr => ?_, ?_, fun a ha => ?_⟩
  · obtain ⟨alike, -⟩ := List.forall₂_cons.1 (h.alike r (Footprint.growing.trans second hr))
    exact .cons alike (h'.alike r hr)
  · exact (parts r (Footprint.growing.trans second hr)).append (parts' r hr)
  · -- the copies that are made first are in lower cells
    refine nodup.append nodup' fun a ha ha' => ?_
    have := within a ha
    have := within' a ha'
    omega
  · have := size_le_of_growing first
    have := size_le_of_growing second
    rcases List.mem_append.1 ha with ha | ha
    · have := within a ha
      omega
    · have := within' a ha
      omega

/-- The copies are put into a new cell, which is then met before them. -/
theorem allocate {cell : Cell} (h : s.Copied t vs us t₁) (grown : Footprint.growing.Allows t t₁)
    (hu : u.cell? = some t₁.cells.size)
    (alike : ∀ r, Footprint.growing.Allows (Store.allocate cell t₁).2 r → s.Alike r v u)
    (contents : ∀ r, Footprint.growing.Allows (Store.allocate cell t₁).2 r →
      r.contents t₁.cells.size = us) :
    s.Copied t [v] [u] (Store.allocate cell t₁).2 := by
  obtain ⟨cells, parts, nodup, within⟩ := h.parts
  have size : (Store.allocate cell t₁).2.cells.size = t₁.cells.size + 1 := Array.size_push ..
  have before := size_le_of_growing grown
  refine ⟨fun r hr => .cons (alike r hr) .nil, t₁.cells.size :: (cells ++ []), fun r hr => ?_, ?_,
    fun b hb => ?_⟩
  · refine .cell hu ?_ .nil
    rw [contents r hr]
    exact parts r (Footprint.growing.trans (Footprint.growing_allocate cell t₁) hr)
  · rw [List.append_nil]
    refine List.nodup_cons.2 ⟨fun inside => ?_, nodup⟩
    exact Nat.lt_irrefl _ (within _ inside).2
  · rw [List.append_nil] at hb
    rw [size]
    rcases List.mem_cons.1 hb with rfl | hb
    · omega
    · have := within b hb
      omega

theorem newList {a : Address} (h : s.Copied t (s.items a) us t₁)
    (grown : Footprint.growing.Allows t t₁) :
    s.Copied t [.list a] [(Store.newList us t₁).1] (Store.newList us t₁).2 := by
  have behind := Footprint.growing_allocate (.list us) t₁
  refine h.allocate grown rfl (fun r hr => .list ?_) fun r hr => ?_
  · have items : r.items t₁.cells.size = us := by simp only [items, cell_allocate _ hr]
    rw [items]
    exact h.alike r (Footprint.growing.trans behind hr)
  · simp [contents, items, entries, cell_allocate _ hr]

theorem newMap {a : Address} {entries : Entries Value} (keys : entries.keys = (s.entries a).keys)
    (h : s.Copied t (s.entries a).values entries.values t₁)
    (grown : Footprint.growing.Allows t t₁) :
    s.Copied t [.map a] [(Store.newMap entries t₁).1] (Store.newMap entries t₁).2 := by
  have behind := Footprint.growing_allocate (.map entries) t₁
  have found (r : Store) (hr : Footprint.growing.Allows (Store.allocate (.map entries) t₁).2 r) :
      r.entries t₁.cells.size = entries := by
    simp only [Store.entries, cell_allocate _ hr]
  refine h.allocate grown rfl (fun r hr => .map ?_ ?_) fun r hr => ?_
  · exact keys.symm.trans (congrArg Entries.keys (found r hr).symm)
  · rw [show r.entries _ = entries from found r hr]
    exact h.alike r (Footprint.growing.trans behind hr)
  · simp [contents, items, Store.entries, cell_allocate _ hr, Entries.values]

theorem mapM {copy : Value → Action Value} (hc : ∀ v, Footprint.growing.Covers (copy v))
    (h : ∀ v ∈ vs, ∀ t, Footprint.growing.Allows s t →
      s.Copied t [v] [(copy v t).1] (copy v t).2)
    (ht : Footprint.growing.Allows s t) :
    s.Copied t vs (vs.mapM copy t).1 (vs.mapM copy t).2 := by
  induction vs generalizing t with
  | nil => exact nil
  | cons v vs ih =>
      obtain ⟨hv, hvs⟩ := List.forall_mem_cons.1 h
      have first := hc v t
      have rest := ih hvs (Footprint.growing.trans ht first)
      rw [List.mapM_cons]
      exact (hv t ht).cons rest first (Footprint.mapM hc vs _)

end Copied

theorem copied_copyWithin {s t : Store} {v : Value} {depth : Nat} (hs : s.AcyclicIn v)
    (hw : s.Whole v) (hn : v.nesting s ≤ depth) (ht : Footprint.growing.Allows s t) :
    s.Copied t [v] [(v.copyWithin depth t).1] (v.copyWithin depth t).2 := by
  have ends := hs.endsWithin hn
  clear hs hn
  induction ends generalizing t with
  | @single _ v h =>
      cases v with
      | list a | map a => cases h
      | _ =>
          simp only [Value.copyWithin]
          exact .single rfl
  | @list depth a _ ih =>
      have grows := Footprint.growing_copyWithin depth
      have items : t.items a = s.items a := by
        simp only [Store.items, cell_of_growing ht (hw.lt_size rfl)]
      have inside (u : Value) (hu : u ∈ s.items a) (r : Store)
          (hr : Footprint.growing.Allows s r) :=
        ih u hu (hw.of_mem rfl (Value.mem_contents_of_mem_items hu)) hr
      have copied := Copied.mapM grows inside ht
      rw [Value.copyWithin_list, items]
      exact copied.newList (Footprint.mapM grows _ t)
  | @map depth a _ ih =>
      have grows := Footprint.growing_copyWithin depth
      have entries : t.entries a = s.entries a := by
        simp only [Store.entries, cell_of_growing ht (hw.lt_size rfl)]
      have inside (u : Value) (hu : u ∈ (s.entries a).values) (r : Store)
          (hr : Footprint.growing.Allows s r) :
          s.Copied r [u] [(u.copyWithin depth r).1] (u.copyWithin depth r).2 := by
        obtain ⟨entry, he, rfl⟩ := List.mem_map.1 hu
        exact ih entry he (hw.of_mem rfl (Value.mem_contents_of_mem_entries he)) hr
      obtain ⟨keys, values⟩ := Value.mapM_copyEntry (Value.copyWithin depth) (s.entries a) t
      have copied := Copied.mapM grows inside ht
      have grown := Footprint.mapM grows (s.entries a).values t
      rw [values] at copied grown
      rw [Value.copyWithin_map, entries]
      exact copied.newMap keys grown

end Store

end Template

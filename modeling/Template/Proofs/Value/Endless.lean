import Mathlib.Data.Finset.Prod
import Mathlib.Order.Monotone.Basic
import Template.Proofs.Value.Acyclic
import Template.Value.Equality

/-!
Lists and maps that are followed down without end. A value can be printed exactly if it contains
nothing that contains itself. Two values can be compared exactly if a verdict follows from those for
what is in them, and there are no more pairs of lists and of maps to go through than the store has.
-/

namespace Template

open Store (AcyclicIn Reaches)

namespace Store

variable {s : Store}

theorem not_reaches_of_single {v : Value} (h : v.cell? = none) (b : Address) : ¬s.Reaches v b := by
  intro ⟨a, ha, _⟩
  simp [h] at ha

/-- A value leads to its own cell, and to those that what is in it leads to. -/
theorem reaches_iff {v : Value} {a b : Address} (ha : v.cell? = some a) :
    s.Reaches v b ↔ b = a ∨ ∃ u ∈ s.contents a, s.Reaches u b := by
  constructor
  · rintro ⟨c, hc, path⟩
    obtain rfl : c = a := Option.some.inj (hc.symm.trans ha)
    rcases path.cases_head with rfl | ⟨d, ⟨u, hu, hd⟩, rest⟩
    · exact .inl rfl
    · exact .inr ⟨u, hu, d, hd, rest⟩
  · rintro (rfl | ⟨u, hu, more⟩)
    · exact ⟨b, ha, .refl⟩
    · exact more.of_mem ha hu

/-- A list or a map contains nothing that contains itself, if that is so of what is in it. -/
theorem AcyclicIn.of_contents {v : Value} {a : Address} (ha : v.cell? = some a)
    (h : ∀ u ∈ s.contents a, s.AcyclicIn u) : s.AcyclicIn v := by
  intro b hb circle
  rcases (reaches_iff ha).1 hb with rfl | ⟨u, hu, more⟩
  · obtain ⟨c, ⟨u, hu, hc⟩, back⟩ := Relation.TransGen.head'_iff.1 circle
    exact h u hu b ⟨c, hc, back⟩ circle
  · exact h u hu b more circle

end Store

namespace Value

variable {hosts : Hosts} {s : Store}

/-! ### Printing -/

theorem printFaultWithin_of_single {held : Option Address} {v : Value} (h : v.cell? = none)
    (depth : Nat) : printFaultWithin s held depth v = none := by
  cases depth <;> simp only [printFaultWithin, h, Option.map_none]

theorem printFaultWithin_eq_none {held : Option Address} {depth : Nat} {v : Value}
    (hv : s.AcyclicIn v) (hn : v.nesting s ≤ depth) (hh : ∀ a ∈ held, ¬s.Reaches v a) :
    printFaultWithin s held depth v = none := by
  induction depth generalizing v with
  | zero =>
      cases v with
      | list a => exact absurd (nesting_list_pos s a) (Nat.not_lt.2 hn)
      | map a => exact absurd (nesting_map_pos s a) (Nat.not_lt.2 hn)
      | _ => exact printFaultWithin_of_single rfl 0
  | succ depth ih =>
      cases ha : v.cell? with
      | none => exact printFaultWithin_of_single ha _
      | some a =>
          have free : held ≠ some a := fun same => hh a same ⟨a, ha, .refl⟩
          simp only [printFaultWithin, ha, if_neg free, List.findSome?_eq_none_iff]
          intro u hu
          have less := nesting_lt_of_mem hv ha hu
          exact ih (hv.of_mem ha hu) (by omega) fun b hb reaches => hh b hb (reaches.of_mem ha hu)

theorem of_printFaultWithin_eq_none {held : Option Address} {depth : Nat} {v : Value}
    (h : printFaultWithin s held depth v = none) :
    s.AcyclicIn v ∧ ∀ a ∈ held, ¬s.Reaches v a := by
  induction depth generalizing v with
  | zero =>
      have single : v.cell? = none := by simpa only [printFaultWithin, Option.map_eq_none_iff] using h
      exact ⟨fun b hb => absurd hb (Store.not_reaches_of_single single b),
        fun b _ => Store.not_reaches_of_single single b⟩
  | succ depth ih =>
      cases ha : v.cell? with
      | none =>
          exact ⟨fun b hb => absurd hb (Store.not_reaches_of_single ha b),
            fun b _ => Store.not_reaches_of_single ha b⟩
      | some a =>
          simp only [printFaultWithin, ha] at h
          split at h
          · cases h
          next free =>
            have inside (u : Value) (hu : u ∈ s.contents a) :=
              ih (List.findSome?_eq_none_iff.1 h u hu)
            refine ⟨.of_contents ha fun u hu => (inside u hu).1, fun b hb reaches => ?_⟩
            rcases (Store.reaches_iff ha).1 reaches with rfl | ⟨u, hu, more⟩
            · exact free hb
            · exact (inside u hu).2 b hb more

/-- Enough depth finds all that there is to find. -/
theorem printFaultWithin_eq_none_iff {held : Option Address} {depth : Nat}
    (hd : s.depthBound ≤ depth) {v : Value} :
    printFaultWithin s held depth v = none ↔ s.AcyclicIn v ∧ ∀ a ∈ held, ¬s.Reaches v a :=
  ⟨of_printFaultWithin_eq_none, fun ⟨hv, hh⟩ =>
    printFaultWithin_eq_none hv ((nesting_le_depthBound s v).trans hd) hh⟩

/-- Printing a value ends if nothing in it contains itself and it does not lead to the map that is
held. -/
theorem printFault?_eq_none_iff {held : Option Address} {v : Value} :
    v.printFault? s held = none ↔ s.AcyclicIn v ∧ ∀ a ∈ held, ¬s.Reaches v a :=
  printFaultWithin_eq_none_iff le_rfl

/-- Where no map is held, a value can be printed exactly if nothing in it contains itself. -/
theorem printFault?_none_iff {v : Value} : v.printFault? s none = none ↔ s.AcyclicIn v :=
  printFault?_eq_none_iff.trans (and_iff_left fun _ => nofun)

/-! ### Comparing -/

section

variable {α : Type} {p q : α → Option Bool} {xs : List α}

theorem allM_cons (x : α) :
    (x :: xs).allM p = (p x).bind fun holds => if holds then xs.allM p else some false := by
  simp only [List.allM]
  cases p x with
  | none => rfl
  | some holds => cases holds <;> rfl

theorem allM_mono (h : ∀ x ∈ xs, ∀ r, p x = some r → q x = some r) {r : Bool}
    (hr : xs.allM p = some r) : xs.allM q = some r := by
  induction xs with
  | nil => exact hr
  | cons x xs ih =>
      obtain ⟨hx, hxs⟩ := List.forall_mem_cons.1 h
      rw [allM_cons] at hr ⊢
      obtain ⟨holds, found, rest⟩ := Option.bind_eq_some_iff.1 hr
      rw [hx holds found]
      cases holds with
      | false => exact rest
      | true => exact ih hxs rest

theorem allM_eq_true_iff : xs.allM p = some true ↔ ∀ x ∈ xs, p x = some true := by
  induction xs with
  | nil => simp [List.allM]
  | cons x xs ih =>
      rw [allM_cons, List.forall_mem_cons, ← ih]
      cases p x with
      | none => simp
      | some holds => cases holds <;> simp

theorem allM_isSome (h : ∀ x ∈ xs, (p x).isSome) : (xs.allM p).isSome := by
  induction xs with
  | nil => rfl
  | cons x xs ih =>
      obtain ⟨hx, hxs⟩ := List.forall_mem_cons.1 h
      obtain ⟨holds, found⟩ := Option.isSome_iff_exists.1 hx
      rw [allM_cons, found]
      cases holds with
      | false => rfl
      | true => exact ih hxs

end

variable {f g : Value → Value → Option Bool}

/-- The more verdicts there are inside, the more there are outside. -/
theorem comparedBy_mono (h : ∀ x y r, f x y = some r → g x y = some r) {v u : Value} {r : Bool}
    (hr : comparedBy hosts s f v u = some r) : comparedBy hosts s g v u = some r := by
  cases v with
  | list a =>
      cases u with
      | list b =>
          simp only [comparedBy] at hr ⊢
          split
          next same => rwa [if_pos same] at hr
          next apart =>
            rw [if_neg apart] at hr
            split
            next length =>
              rw [if_pos length] at hr
              exact allM_mono (fun pair _ r => h pair.1 pair.2 r) hr
            next length => rwa [if_neg length] at hr
      | _ => exact hr
  | map a =>
      cases u with
      | map b =>
          simp only [comparedBy] at hr ⊢
          split
          next same => rwa [if_pos same] at hr
          next apart =>
            rw [if_neg apart] at hr
            split
            next length =>
              rw [if_pos length] at hr
              refine allM_mono (fun entry _ r found => ?_) hr
              split at found
              · exact h _ _ r found
              · exact found
            next length => rwa [if_neg length] at hr
      | _ => exact hr
  | _ => cases u <;> exact hr

theorem comparedWithin?_succ {depth : Nat} {v u : Value} {r : Bool}
    (h : comparedWithin? hosts s depth v u = some r) :
    comparedWithin? hosts s (depth + 1) v u = some r := by
  induction depth generalizing v u r with
  | zero => exact comparedBy_mono (fun _ _ _ none => by cases none) h
  | succ depth ih => exact comparedBy_mono (fun _ _ _ => ih) h

/-! A comparison that has a verdict has it before the pairs of lists and of maps are used up: with
each step of depth there are more pairs with a verdict, or else there never are. -/

/-- The pairs of lists and of maps that are in the store. -/
def pairs (s : Store) : Finset (Value × Value) :=
  let places := Finset.range s.cells.size ×ˢ Finset.range s.cells.size
  places.image (fun p => (list p.1, list p.2)) ∪ places.image fun p => (map p.1, map p.2)

theorem card_pairs_le (s : Store) : (pairs s).card ≤ 2 * (s.cells.size * s.cells.size) := by
  let places := Finset.range s.cells.size ×ˢ Finset.range s.cells.size
  have card : places.card = s.cells.size * s.cells.size := by simp [places]
  have lists := Finset.card_image_le (s := places) (f := fun p => (list p.1, list p.2))
  have maps := Finset.card_image_le (s := places) (f := fun p => (map p.1, map p.2))
  calc
    (pairs s).card ≤ (places.image fun p => (list p.1, list p.2)).card +
        (places.image fun p => (map p.1, map p.2)).card := Finset.card_union_le _ _
    _ ≤ 2 * (s.cells.size * s.cells.size) := by omega

theorem mem_pairs_list {a b : Address} :
    (list a, list b) ∈ pairs s ↔ a < s.cells.size ∧ b < s.cells.size := by
  simp [pairs]

theorem mem_pairs_map {a b : Address} :
    (map a, map b) ∈ pairs s ↔ a < s.cells.size ∧ b < s.cells.size := by
  simp [pairs]

/-- Where there is no such pair nothing inside is compared. -/
theorem comparedBy_of_not_mem_pairs {v u : Value} (h : (v, u) ∉ pairs s) :
    comparedBy hosts s f v u = comparedBy hosts s g v u := by
  cases v with
  | list a =>
      cases u with
      | list b =>
          simp only [comparedBy]
          split
          · rfl
          · split
            next length =>
              have empty : (s.items a).zip (s.items b) = [] := by
                refine List.eq_nil_iff_forall_not_mem.2 fun pair hp => h ?_
                obtain ⟨left, right⟩ := List.of_mem_zip hp
                exact mem_pairs_list.2 ⟨Store.lt_size_of_mem (mem_contents_of_mem_items left),
                  Store.lt_size_of_mem (mem_contents_of_mem_items right)⟩
              rw [empty]
              rfl
            next => rfl
      | _ => rfl
  | map a =>
      cases u with
      | map b =>
          simp only [comparedBy]
          split
          · rfl
          · split
            next length =>
              have empty : s.entries a = [] := by
                refine List.eq_nil_iff_forall_not_mem.2 fun entry he => h ?_
                have some : 0 < (s.entries b).length := length ▸ List.length_pos_of_mem he
                obtain ⟨other, ho⟩ := List.exists_mem_of_length_pos some
                exact mem_pairs_map.2 ⟨Store.lt_size_of_mem (mem_contents_of_mem_entries he),
                  Store.lt_size_of_mem (mem_contents_of_mem_entries ho)⟩
              rw [empty]
              rfl
            next => rfl
      | _ => rfl
  | _ => cases u <;> rfl

/-- The pairs that have a verdict before the depth is reached. -/
def decided (hosts : Hosts) (s : Store) (depth : Nat) : Finset (Value × Value) :=
  (pairs s).filter fun p => (comparedWithin? hosts s depth p.1 p.2).isSome

theorem decided_subset_succ (depth : Nat) : decided hosts s depth ⊆ decided hosts s (depth + 1) := by
  intro p hp
  obtain ⟨there, verdict⟩ := Finset.mem_filter.1 hp
  obtain ⟨r, hr⟩ := Option.isSome_iff_exists.1 verdict
  exact Finset.mem_filter.2 ⟨there, Option.isSome_iff_exists.2 ⟨r, comparedWithin?_succ hr⟩⟩

theorem comparedWithin?_eq_succ_of_decided {depth : Nat}
    (h : decided hosts s depth = decided hosts s (depth + 1)) :
    comparedWithin? hosts s (depth + 1) = comparedWithin? hosts s depth := by
  funext v u
  by_cases there : (v, u) ∈ pairs s
  · cases found : comparedWithin? hosts s depth v u with
    | some r => exact comparedWithin?_succ found
    | none =>
        have undecided : (v, u) ∉ decided hosts s (depth + 1) := by
          rw [← h]
          simp [decided, found]
        simpa [decided, there] using undecided
  · cases depth <;> exact comparedBy_of_not_mem_pairs there

/-- No depth beyond the number of pairs makes a difference. -/
theorem comparedWithin?_eq_compared? {depth : Nat} (h : s.pairBound ≤ depth) :
    comparedWithin? hosts s depth = compared? hosts s := by
  let pace (depth : Nat) : Nat := (decided hosts s depth).card
  let bound := 2 * (s.cells.size * s.cells.size)
  have grows : Monotone pace :=
    monotone_nat_of_le_succ fun depth => Finset.card_le_card (decided_subset_succ depth)
  have bounded (depth : Nat) : pace depth ≤ bound :=
    (Finset.card_le_card (Finset.filter_subset _ _)).trans (card_pairs_le s)
  have same (depth : Nat) (h : pace depth = pace (depth + 1)) :
      decided hosts s depth = decided hosts s (depth + 1) :=
    Finset.eq_of_subset_of_card_le (decided_subset_succ depth) (Nat.le_of_eq h.symm)
  have stops (depth : Nat) (h : pace depth = pace (depth + 1)) :
      pace (depth + 1) = pace (depth + 2) := by
    have equal := comparedWithin?_eq_succ_of_decided (same depth h)
    have next : comparedWithin? hosts s (depth + 2) = comparedWithin? hosts s (depth + 1) :=
      congrArg (comparedBy hosts s) equal
    simp only [pace, decided, next]
  have constant (depth : Nat) (h : bound ≤ depth) :
      comparedWithin? hosts s (depth + 1) = comparedWithin? hosts s depth := by
    refine comparedWithin?_eq_succ_of_decided (same depth ?_)
    rw [Nat.stabilises_of_monotone grows bounded stops h,
      Nat.stabilises_of_monotone grows bounded stops (Nat.le_succ_of_le h)]
  induction depth, h using Nat.le_induction with
  | base => rfl
  | succ depth h ih =>
      exact (constant depth ((Nat.le_succ bound).trans h)).trans ih

/-- There is a verdict for two values if it follows from the verdicts for what is in them. -/
inductive Verdict (hosts : Hosts) (s : Store) : Value → Value → Bool → Prop
  | intro {inner : Value → Value → Option Bool} {v u : Value} {r : Bool}
      (known : ∀ x y r, inner x y = some r → Verdict hosts s x y r)
      (follows : comparedBy hosts s inner v u = some r) : Verdict hosts s v u r

theorem Verdict.of_comparedWithin? {depth : Nat} {v u : Value} {r : Bool}
    (h : comparedWithin? hosts s depth v u = some r) : Verdict hosts s v u r := by
  induction depth generalizing v u r with
  | zero => exact .intro (fun _ _ _ none => by cases none) h
  | succ depth ih => exact .intro (fun _ _ _ => ih) h

/-- Comparing two values ends exactly with the verdict that there is for them. -/
theorem compared?_eq_some_iff {v u : Value} {r : Bool} :
    v.compared? hosts s u = some r ↔ Verdict hosts s v u r := by
  refine ⟨.of_comparedWithin?, fun h => ?_⟩
  induction h with
  | intro _ follows ih =>
      rw [← comparedWithin?_eq_compared? (Nat.le_succ s.pairBound)]
      exact comparedBy_mono ih follows

variable {v u : Value}

theorem looselyCompared?_isSome (hv : s.AcyclicIn v) (hu : s.AcyclicIn u) :
    (v.looselyCompared? hosts s u).isSome := by
  simp only [looselyCompared?, printFault?_none_iff.2 hv, printFault?_none_iff.2 hu]
  split <;> rfl

theorem comparedBy_isSome (loose : (v.looselyCompared? hosts s u).isSome)
    (h : ∀ a ∈ v.cell?, ∀ b ∈ u.cell?, ∀ x ∈ s.contents a, ∀ y ∈ s.contents b, (f x y).isSome) :
    (comparedBy hosts s f v u).isSome := by
  cases v with
  | list a =>
      cases u with
      | list b =>
          simp only [comparedBy]
          split
          · rfl
          · split
            · refine allM_isSome fun pair hp => ?_
              obtain ⟨left, right⟩ := List.of_mem_zip hp
              exact h a rfl b rfl _ (mem_contents_of_mem_items left) _
                (mem_contents_of_mem_items right)
            · rfl
      | null => rfl
      | _ => exact loose
  | map a =>
      cases u with
      | map b =>
          simp only [comparedBy]
          split
          · rfl
          · split
            · refine allM_isSome fun entry he => ?_
              split
              next other =>
                exact h a rfl b rfl _ (mem_contents_of_mem_entries he) _
                  (mem_contents_of_mem_entries (Entries.mem_of_get? other))
              next => rfl
            · rfl
      | null => rfl
      | _ => exact loose
  | _ => cases u <;> first | rfl | exact loose

/-- Where neither side contains anything that contains itself, comparing ends at the depth of the
first. -/
theorem comparedWithin?_isSome {depth : Nat} (hv : s.AcyclicIn v) (hu : s.AcyclicIn u)
    (hn : v.nesting s ≤ depth) : (comparedWithin? hosts s depth v u).isSome := by
  have loose : (v.looselyCompared? hosts s u).isSome := looselyCompared?_isSome hv hu
  induction depth generalizing v u with
  | zero =>
      refine comparedBy_isSome loose fun a ha => ?_
      cases v with
      | list a => exact absurd (nesting_list_pos s a) (Nat.not_lt.2 hn)
      | map a => exact absurd (nesting_map_pos s a) (Nat.not_lt.2 hn)
      | _ => cases ha
  | succ depth ih =>
      refine comparedBy_isSome loose fun a ha b hb x hx y hy => ?_
      have less := nesting_lt_of_mem hv ha hx
      have inx := hv.of_mem ha hx
      have iny := hu.of_mem hb hy
      exact ih inx iny (by omega) (looselyCompared?_isSome inx iny)

/-- Equality does not depend on the depth that is allowed. -/
theorem equalWithin_eq_looseEq (hs : s.Acyclic) {depth : Nat} (h : s.depthBound ≤ depth)
    (v u : Value) : equalWithin hosts s depth v u = v.looseEq hosts s u := by
  have ends : (comparedWithin? hosts s depth v u).isSome :=
    comparedWithin?_isSome (hs.acyclicIn v) (hs.acyclicIn u) ((nesting_le_depthBound s v).trans h)
  obtain ⟨r, hr⟩ := Option.isSome_iff_exists.1 ends
  rw [equalWithin, looseEq, hr, compared?_eq_some_iff.2 (.of_comparedWithin? hr)]

end Value

end Template

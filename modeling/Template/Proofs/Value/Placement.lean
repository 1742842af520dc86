import Template.Proofs.Value.Endless
import Template.Value.Member
import Template.Value.Operation

/-!
The same values at other places. Two renders that start with the same data make the same lists, maps
and loops in the same order, but where these stand depends on how much the stores hold already. A
placement tells what stands where, and what the first render may get at of all that was there before
it; the rest of that stays as it was.
-/

namespace Template

/-- Two arrays from which two others grow side by side. At the places in `shared` the same is meant
in both; what else is in them is of no concern to what grows. -/
structure Matching {α : Type} (first second : Array α) where
  shared : Nat → Prop
  lt_first {i : Nat} : shared i → i < first.size
  lt_second {i : Nat} : shared i → i < second.size

namespace Matching

variable {α : Type} {first second : Array α} {m : Matching first second}

/-- The places that are filled on the way, in turn. -/
def Made (_ : Matching first second) (i j : Nat) : Prop :=
  ∃ k, i = first.size + k ∧ j = second.size + k

/-- What is at `i` on the first side is at `j` on the second. -/
def At (m : Matching first second) (i j : Nat) : Prop := m.shared i ∧ j = i ∨ m.Made i j

/-- An array that has grown out of another, which has been changed in the places in `shared` alone. -/
structure Kept (shared : Nat → Prop) (start as : Array α) : Prop where
  le_size : start.size ≤ as.size
  kept : ∀ i < start.size, ¬shared i → as[i]? = start[i]?

/-- Arrays that have grown side by side. -/
structure Grown (m : Matching first second) (R : α → α → Prop) (as bs : Array α) : Prop where
  size : m.Made as.size bs.size
  same : ∀ {i j}, m.At i j → Option.Rel R as[i]? bs[j]?
  first : Kept m.shared first as
  second : Kept m.shared second bs

/-- No two things are in one place. -/
theorem At.inj_iff {i j i' j' : Nat} (h : m.At i j) (h' : m.At i' j') : i = i' ↔ j = j' := by
  obtain ⟨hi, rfl⟩ | ⟨k, rfl, rfl⟩ := h <;> obtain ⟨hi', rfl⟩ | ⟨k', rfl, rfl⟩ := h'
  · exact Iff.rfl
  · have := m.lt_first hi
    have := m.lt_second hi
    omega
  · have := m.lt_first hi'
    have := m.lt_second hi'
    omega
  · omega

/-- What grows does so in places that are shared or new. -/
theorem At.within {i j : Nat} (h : m.At i j) :
    (m.shared i ∨ first.size ≤ i) ∧ (m.shared j ∨ second.size ≤ j) := by
  obtain ⟨hs, rfl⟩ | ⟨k, rfl, rfl⟩ := h
  · exact ⟨.inl hs, .inl hs⟩
  · exact ⟨.inr (Nat.le_add_right _ _), .inr (Nat.le_add_right _ _)⟩

namespace Kept

variable {shared : Nat → Prop} {start as : Array α}

theorem refl : Kept shared start start := ⟨Nat.le_refl _, fun _ _ _ => rfl⟩

theorem push (h : Kept shared start as) (a : α) : Kept shared start (as.push a) where
  le_size := by
    have := h.le_size
    rw [Array.size_push]
    omega
  kept i hi hn := by
    have := h.le_size
    rw [Array.getElem?_push, if_neg (by omega)]
    exact h.kept i hi hn

theorem modify (h : Kept shared start as) {i : Nat} (hi : shared i ∨ start.size ≤ i) (f : α → α) :
    Kept shared start (as.modify i f) where
  le_size := by rw [Array.size_modify]; exact h.le_size
  kept i' hi' hn := by
    have apart : i ≠ i' := by
      rintro rfl
      exact hi.elim hn (Nat.not_le.2 hi')
    rw [Array.getElem?_modify, if_neg apart]
    exact h.kept i' hi' hn

end Kept

namespace Grown

variable {R : α → α → Prop} {as bs : Array α}

theorem start (h : ∀ i, m.shared i → Option.Rel R first[i]? second[i]?) :
    m.Grown R first second where
  size := ⟨0, rfl, rfl⟩
  same := by
    rintro i j (⟨hs, rfl⟩ | ⟨k, rfl, rfl⟩)
    · exact h _ hs
    · rw [Array.getElem?_eq_none (Nat.le_add_right _ _),
        Array.getElem?_eq_none (Nat.le_add_right _ _)]
      exact .none
  first := .refl
  second := .refl

theorem push (h : m.Grown R as bs) {a b : α} (hab : R a b) :
    m.Grown R (as.push a) (bs.push b) where
  size := by
    obtain ⟨k, ha, hb⟩ := h.size
    exact ⟨k + 1, (Array.size_push ..).trans (congrArg Nat.succ ha),
      (Array.size_push ..).trans (congrArg Nat.succ hb)⟩
  same {i j} hij := by
    simp only [Array.getElem?_push, hij.inj_iff (.inr h.size)]
    split
    · exact .some hab
    · exact h.same hij
  first := h.first.push a
  second := h.second.push b

theorem modify (h : m.Grown R as bs) {i j : Nat} (hij : m.At i j) {f g : α → α}
    (hfg : ∀ a b, R a b → R (f a) (g b)) : m.Grown R (as.modify i f) (bs.modify j g) where
  size := by simpa only [Array.size_modify] using h.size
  same {i' j'} hij' := by
    simp only [Array.getElem?_modify, hij.inj_iff hij']
    have same := h.same hij'
    split
    · generalize as[i']? = a at same
      generalize bs[j']? = b at same
      cases same with
      | none => exact .none
      | some same => exact .some (hfg _ _ same)
    · exact same
  first := h.first.modify hij.within.1 f
  second := h.second.modify hij.within.2 g

theorem set (h : m.Grown R as bs) {i j : Nat} (hij : m.At i j) {a b : α} (hab : R a b) :
    m.Grown R (as.setIfInBounds i a) (bs.setIfInBounds j b) := by
  have modified (cs : Array α) (n : Nat) (c : α) :
      cs.setIfInBounds n c = cs.modify n fun _ => c := by
    refine Array.ext_getElem? fun k => ?_
    rw [Array.getElem?_setIfInBounds, Array.getElem?_modify]
    grind
  rw [modified, modified]
  exact h.modify hij fun _ _ _ => hab

end Grown

end Matching

/-- Where the things of two renders are that start with the same data: the cells, the loops, and the
host objects that both may get at. -/
structure Placement where
  first : Store
  second : Store
  cells : Matching first.cells second.cells
  loops : Matching first.loops second.loops
  host : Nat → Prop

namespace Placement

/-- The same value, but for its place. -/
inductive Same (p : Placement) : Value → Value → Prop
  | null : p.Same .null .null
  | bool (b : Bool) : p.Same (.bool b) (.bool b)
  | number (x : Float) : p.Same (.number x) (.number x)
  | text (t : String) : p.Same (.text t) (.text t)
  | list {a b : Address} (h : p.cells.At a b) : p.Same (.list a) (.list b)
  | map {a b : Address} (h : p.cells.At a b) : p.Same (.map a) (.map b)
  | loop {i j : Nat} (h : p.loops.At i j) : p.Same (.object (.loop i)) (.object (.loop j))
  | host {n : Nat} (h : p.host n) : p.Same (.object (.host n)) (.object (.host n))

/-- The same value, or none. -/
abbrev SameOption (p : Placement) : Option Value → Option Value → Prop := Option.Rel p.Same

def SameItems (p : Placement) : List Value → List Value → Prop := List.Forall₂ p.Same

def SameEntry (p : Placement) (e f : String × Value) : Prop := e.1 = f.1 ∧ p.Same e.2 f.2

def SameEntries (p : Placement) : Entries Value → Entries Value → Prop := List.Forall₂ p.SameEntry

inductive SameCell (p : Placement) : Cell → Cell → Prop
  | list {vs us : List Value} (h : p.SameItems vs us) : p.SameCell (.list vs) (.list us)
  | map {es fs : Entries Value} (h : p.SameEntries es fs) : p.SameCell (.map es) (.map fs)

structure SameLoop (p : Placement) (l m : LoopState) : Prop where
  index : l.index = m.index
  hasNext : l.hasNext = m.hasNext
  stopped : l.stopped = m.stopped
  parent : p.Same l.parent m.parent

/-- Stores on the way of the two renders. -/
structure Stores (p : Placement) (s t : Store) : Prop where
  cells : p.cells.Grown p.SameCell s.cells t.cells
  loops : p.loops.Grown p.SameLoop s.loops t.loops
  calls : ∃ new, s.calls = p.first.calls ++ new ∧ t.calls = p.second.calls ++ new

variable {p : Placement}

theorem map_eq_map {α β γ : Type} {R : α → β → Prop} {f : α → γ} {g : β → γ} {as : List α}
    {bs : List β} (h : List.Forall₂ R as bs) (hfg : ∀ a b, R a b → f a = g b) :
    as.map f = bs.map g := by
  induction h with
  | nil => rfl
  | cons h _ ih => exact congrArg₂ List.cons (hfg _ _ h) ih

theorem allM_eq_allM {α β : Type} {R : α → β → Prop} {f : α → Option Bool} {g : β → Option Bool}
    {as : List α} {bs : List β} (h : List.Forall₂ R as bs) (hfg : ∀ a b, R a b → f a = g b) :
    as.allM f = bs.allM g := by
  induction h with
  | nil => rfl
  | cons h _ ih => rw [Value.allM_cons, Value.allM_cons, hfg _ _ h, ih]

theorem findSome?_isSome_eq {α β γ : Type} {R : α → β → Prop} {f : α → Option γ}
    {g : β → Option γ} {as : List α} {bs : List β} (h : List.Forall₂ R as bs)
    (hfg : ∀ a b, R a b → (f a).isSome = (g b).isSome) :
    (as.findSome? f).isSome = (bs.findSome? g).isSome := by
  induction h with
  | nil => rfl
  | cons h _ ih =>
      simp only [List.findSome?_cons]
      have first := hfg _ _ h
      split <;> split <;> simp_all

theorem beq_congr {α β : Type} [DecidableEq α] [DecidableEq β] {a b : α} {c d : β}
    (h : a = b ↔ c = d) : (a == b) = (c == d) := by
  rw [Bool.eq_iff_iff, beq_iff_eq, beq_iff_eq, h]

theorem Same.cell? {v u : Value} (h : p.Same v u) : Option.Rel p.cells.At v.cell? u.cell? := by
  cases h with
  | list h | map h => exact .some h
  | _ => exact .none

theorem SameItems.isEmpty {vs us : List Value} (h : p.SameItems vs us) :
    vs.isEmpty = us.isEmpty := by
  cases h <;> rfl

theorem SameItems.length_eq {vs us : List Value} (h : p.SameItems vs us) :
    vs.length = us.length :=
  List.Forall₂.length_eq h

theorem SameItems.zip {vs us vs' us' : List Value} (h : p.SameItems vs us)
    (h' : p.SameItems vs' us') :
    List.Forall₂ (fun x y => p.Same x.1 y.1 ∧ p.Same x.2 y.2) (vs.zip vs') (us.zip us') := by
  induction h generalizing vs' us' with
  | nil => exact .nil
  | cons h _ ih =>
      cases h' with
      | nil => exact .nil
      | cons h' hr' => exact .cons ⟨h, h'⟩ (ih hr')

theorem SameEntries.length_eq {es fs : Entries Value} (h : p.SameEntries es fs) :
    List.length es = List.length fs :=
  List.Forall₂.length_eq h

theorem SameEntries.values {es fs : Entries Value} (h : p.SameEntries es fs) :
    p.SameItems (Entries.values es) (Entries.values fs) :=
  List.forall₂_map_left_iff.2 (List.forall₂_map_right_iff.2 (h.imp fun _ _ h => h.2))

theorem SameEntries.keys {es fs : Entries Value} (h : p.SameEntries es fs) :
    Entries.keys es = Entries.keys fs :=
  map_eq_map h fun _ _ h => h.1

theorem SameEntries.get? {es fs : Entries Value} (h : p.SameEntries es fs) (name : String) :
    p.SameOption (Entries.get? name es) (Entries.get? name fs) := by
  induction h with
  | nil => exact .none
  | @cons e f _ _ h _ ih =>
      obtain ⟨key, v⟩ := e
      obtain ⟨_, u⟩ := f
      obtain ⟨rfl, hv⟩ := h
      simp only [Entries.get?]
      split
      · exact .some hv
      · exact ih

theorem SameEntries.put {es fs : Entries Value} (h : p.SameEntries es fs) (name : String)
    {v u : Value} (hv : p.Same v u) :
    p.SameEntries (Entries.put name v es) (Entries.put name u fs) := by
  induction h with
  | nil => exact .cons ⟨rfl, hv⟩ .nil
  | @cons e f _ _ h hr ih =>
      obtain ⟨key, v'⟩ := e
      obtain ⟨_, u'⟩ := f
      obtain ⟨rfl, hv'⟩ := h
      simp only [Entries.put]
      split
      · exact .cons ⟨rfl, hv⟩ hr
      · exact .cons ⟨rfl, hv'⟩ ih

theorem SameEntries.erase {es fs : Entries Value} (h : p.SameEntries es fs) (name : String) :
    p.SameEntries (Entries.erase name es) (Entries.erase name fs) := by
  induction h with
  | nil => exact .nil
  | @cons e f _ _ h hr ih =>
      obtain ⟨key, v'⟩ := e
      obtain ⟨_, u'⟩ := f
      obtain ⟨rfl, hv'⟩ := h
      simp only [Entries.erase]
      split
      · exact hr
      · exact .cons ⟨rfl, hv'⟩ ih

theorem SameEntries.ofPairs {es fs : Entries Value} (h : p.SameEntries es fs) :
    p.SameEntries (Entries.ofPairs es) (Entries.ofPairs fs) := by
  refine List.rel_foldl (fun acc acc' ha e f h => ?_) .nil h
  obtain ⟨key, v⟩ := e
  obtain ⟨_, u⟩ := f
  obtain ⟨rfl, hv⟩ := h
  exact ha.put key hv

/-! ### What stores tell of the values in them -/

namespace Stores

variable {s t : Store} {a b : Address}

theorem items (h : p.Stores s t) (hab : p.cells.At a b) : p.SameItems (s.items a) (t.items b) := by
  have cell := h.cells.same hab
  simp only [Store.items]
  generalize s.cells[a]? = c at cell
  generalize t.cells[b]? = d at cell
  cases cell with
  | none => exact .nil
  | some cell =>
      cases cell with
      | list h => exact h
      | map _ => exact .nil

theorem entries (h : p.Stores s t) (hab : p.cells.At a b) :
    p.SameEntries (s.entries a) (t.entries b) := by
  have cell := h.cells.same hab
  simp only [Store.entries]
  generalize s.cells[a]? = c at cell
  generalize t.cells[b]? = d at cell
  cases cell with
  | none => exact .nil
  | some cell =>
      cases cell with
      | list _ => exact .nil
      | map h => exact h

theorem contents (h : p.Stores s t) (hab : p.cells.At a b) :
    p.SameItems (s.contents a) (t.contents b) :=
  List.rel_append (h.items hab) (h.entries hab).values

theorem loopState (h : p.Stores s t) {i j : Nat} (hij : p.loops.At i j) :
    p.SameLoop (s.loop i) (t.loop j) := by
  have loop := h.loops.same hij
  simp only [Store.loop, Array.getD_eq_getD_getElem?]
  generalize s.loops[i]? = l at loop
  generalize t.loops[j]? = m at loop
  cases loop with
  | none => exact ⟨rfl, rfl, rfl, .null⟩
  | some loop => exact loop

end Stores

namespace Same

variable {s t : Store} {v u v' u' : Value}

theorem isNull (h : p.Same v u) : v.isNull = u.isNull := by cases h <;> rfl

theorem isText (h : p.Same v u) : v.isText = u.isText := by cases h <;> rfl

theorem text? (h : p.Same v u) : v.text? = u.text? := by cases h <;> rfl

theorem number? (h : p.Same v u) : v.number? = u.number? := by cases h <;> rfl

theorem index? (h : p.Same v u) : v.index? = u.index? := by
  simp only [Value.index?, h.number?]

theorem isTruthy (hs : p.Stores s t) (h : p.Same v u) : v.isTruthy s = u.isTruthy t := by
  cases h with
  | list h =>
      simp only [Value.isTruthy, (hs.items h).isEmpty]
  | _ => rfl

theorem nestingInside (hs : p.Stores s t) (h : p.Same v u) {depth : Nat}
    {around around' : List Address} (ha : List.Forall₂ p.cells.At around around') :
    v.nestingInside s depth around = u.nestingInside t depth around' := by
  induction depth generalizing around around' v u with
  | zero => rfl
  | succ depth ih =>
      simp only [Value.nestingInside]
      have cell := h.cell?
      generalize v.cell? = c at cell
      generalize u.cell? = d at cell
      cases cell with
      | none => rfl
      | @some a b hab =>
          have inside : a ∈ around ↔ b ∈ around' := by
            clear ih
            induction ha with
            | nil => simp
            | cons h _ ih => rw [List.mem_cons, List.mem_cons, ih, hab.inj_iff h]
          have same : (s.contents a).map (Value.nestingInside s depth (a :: around)) =
              (t.contents b).map (Value.nestingInside t depth (b :: around')) :=
            map_eq_map (hs.contents hab) fun _ _ h => ih h (.cons hab ha)
          simp only [inside, same]

theorem nesting (hs : p.Stores s t) (h : p.Same v u) : v.nesting s = u.nesting t := by
  rw [← Value.nestingInside_eq_nesting (Nat.le_max_left s.depthBound t.depthBound),
    ← Value.nestingInside_eq_nesting (Nat.le_max_right s.depthBound t.depthBound)]
  exact h.nestingInside hs .nil

theorem textWithin (hs : p.Stores s t) (hosts : Hosts) (depth : Nat) (h : p.Same v u) :
    v.textWithin hosts s depth = u.textWithin hosts t depth := by
  induction depth generalizing v u with
  | zero =>
      cases h with
      | loop h => simp only [Value.textWithin, Value.objectText, LoopState.describe,
          (hs.loopState h).index]
      | _ => simp only [Value.textWithin, Value.objectText]
  | succ depth ih =>
      cases h with
      | loop h => simp only [Value.textWithin, Value.objectText, LoopState.describe,
          (hs.loopState h).index]
      | @list a b h =>
          have texts : (s.items a).map (Value.textWithin hosts s depth) =
              (t.items b).map (Value.textWithin hosts t depth) :=
            map_eq_map (hs.items h) fun _ _ h => ih h
          simp only [Value.textWithin, texts]
      | @map a b h =>
          simp only [Value.textWithin]
          refine congrArg (fun texts => "\x7b" ++ ", ".intercalate texts ++ "\x7d")
            (map_eq_map (hs.entries h) fun e f h => ?_)
          simp only [h.1, ih h.2]
      | _ => simp only [Value.textWithin, Value.objectText]

theorem display (hs : p.Stores s t) (hosts : Hosts) (h : p.Same v u) :
    v.display hosts s = u.display hosts t := by
  simp only [Value.display, h.nesting hs, h.textWithin hs]

theorem eq_iff (h : p.Same v u) (h' : p.Same v' u') : v = v' ↔ u = u' := by
  cases h with
  | list h =>
      cases h' with
      | list h' => simpa using h.inj_iff h'
      | _ => simp
  | map h =>
      cases h' with
      | map h' => simpa using h.inj_iff h'
      | _ => simp
  | loop h =>
      cases h' with
      | loop h' => simpa using h.inj_iff h'
      | _ => simp
  | _ => cases h' <;> simp

theorem printFaultWithin_isSome (hs : p.Stores s t) (h : p.Same v u) (depth : Nat) :
    (v.printFaultWithin s none depth).isSome = (u.printFaultWithin t none depth).isSome := by
  induction depth generalizing v u with
  | zero =>
      have cell := h.cell?
      simp only [Value.printFaultWithin, Option.isSome_map]
      generalize v.cell? = c at cell
      generalize u.cell? = d at cell
      cases cell <;> rfl
  | succ depth ih =>
      have cell := h.cell?
      simp only [Value.printFaultWithin]
      generalize v.cell? = c at cell
      generalize u.cell? = d at cell
      cases cell with
      | none => rfl
      | @some a b hab =>
          simp only [reduceCtorEq, if_false]
          exact findSome?_isSome_eq (hs.contents hab) fun _ _ h => ih h

theorem printFault?_isSome (hs : p.Stores s t) (h : p.Same v u) :
    (v.printFault? s none).isSome = (u.printFault? t none).isSome := by
  have deep := h.printFaultWithin_isSome hs (max s.depthBound t.depthBound)
  rw [Bool.eq_iff_iff, Option.isSome_iff_ne_none, Option.isSome_iff_ne_none] at deep ⊢
  rwa [Ne, Ne, Value.printFaultWithin_eq_none_iff (Nat.le_max_left _ _),
    Value.printFaultWithin_eq_none_iff (Nat.le_max_right _ _), ← Value.printFault?_eq_none_iff,
    ← Value.printFault?_eq_none_iff] at deep

theorem looselyCompared? (hs : p.Stores s t) (hosts : Hosts) (h : p.Same v u)
    (h' : p.Same v' u') : v.looselyCompared? hosts s v' = u.looselyCompared? hosts t u' := by
  simp only [Value.looselyCompared?, h.number?, h'.number?, h.printFault?_isSome hs,
    h'.printFault?_isSome hs, h.display hs, h'.display hs]

/-- What comes of comparing, from what comes of comparing what is in lists and maps. -/
theorem comparedBy (hs : p.Stores s t) (hosts : Hosts) {f g : Value → Value → Option Bool}
    (h : p.Same v u) (h' : p.Same v' u')
    (inner : ∀ {x y x' y' : Value}, p.Same x y → p.Same x' y' → f x x' = g y y') :
    v.comparedBy hosts s f v' = u.comparedBy hosts t g u' := by
  have loose := h.looselyCompared? hs hosts h'
  have same := h.eq_iff h'
  cases h with
  | list h =>
      cases h' with
      | list h' =>
          have items := hs.items h
          have items' := hs.items h'
          simp only [Value.comparedBy, h.inj_iff h', items.length_eq, items'.length_eq,
            allM_eq_allM (items.zip items') fun _ _ h => inner h.1 h.2]
      | null => rfl
      | _ => exact loose
  | map h =>
      cases h' with
      | map h' =>
          have entries := hs.entries h
          have entries' := hs.entries h'
          simp only [Value.comparedBy, h.inj_iff h', entries.length_eq, entries'.length_eq]
          rw [allM_eq_allM entries fun e f h => ?_]
          have found := entries'.get? f.1
          rw [h.1]
          generalize Entries.get? f.1 (s.entries _) = x at found
          generalize Entries.get? f.1 (t.entries _) = y at found
          cases found with
          | none => rfl
          | some found => exact inner h.2 found
      | null => rfl
      | _ => exact loose
  | loop h | host h =>
      cases h' with
      | loop h' | host h' =>
          simp only [Value.comparedBy]
          all_goals exact congrArg some (beq_congr (by simpa only [Value.object.injEq] using same))
      | null => rfl
      | _ => exact loose
  | _ => cases h' <;> first | rfl | exact loose

theorem comparedWithin? (hs : p.Stores s t) (hosts : Hosts) (depth : Nat) (h : p.Same v u)
    (h' : p.Same v' u') : v.comparedWithin? hosts s depth v' = u.comparedWithin? hosts t depth u' := by
  induction depth generalizing v u v' u' with
  | zero => exact h.comparedBy hs hosts h' fun _ _ => rfl
  | succ depth ih => exact h.comparedBy hs hosts h' ih

theorem compared? (hs : p.Stores s t) (hosts : Hosts) (h : p.Same v u) (h' : p.Same v' u') :
    v.compared? hosts s v' = u.compared? hosts t u' := by
  have deep := h.comparedWithin? hs hosts (max s.pairBound t.pairBound) h'
  rwa [Value.comparedWithin?_eq_compared? (Nat.le_max_left _ _),
    Value.comparedWithin?_eq_compared? (Nat.le_max_right _ _)] at deep

theorem looseEq (hs : p.Stores s t) (hosts : Hosts) (h : p.Same v u) (h' : p.Same v' u') :
    v.looseEq hosts s v' = u.looseEq hosts t u' := by
  simp only [Value.looseEq, h.compared? hs hosts h']

theorem compare? (h : p.Same v u) (h' : p.Same v' u') :
    Value.compare? v v' = Value.compare? u u' := by
  simp only [Value.compare?, h.number?, h'.number?]
  split
  · rfl
  · cases h <;> cases h' <;> rfl

theorem arithmetic (op : Float → Float → Float) (h : p.Same v u) (h' : p.Same v' u') :
    p.Same (Value.arithmetic op v v') (Value.arithmetic op u u') := by
  simp only [Value.arithmetic, h.number?, h'.number?]
  split
  · exact .number _
  · exact .null

theorem relation (test : Ordering → Bool) (h : p.Same v u) (h' : p.Same v' u') :
    p.Same (Value.relation test v v') (Value.relation test u u') := by
  simp only [Value.relation, h.compare? h']
  exact .bool _

theorem binary (hs : p.Stores s t) (hosts : Hosts) (op : BinaryOp) (h : p.Same v u)
    (h' : p.Same v' u') : p.Same (Value.binary hosts s op v v') (Value.binary hosts t op u u') := by
  cases op with
  | disj | conj =>
      simp only [Value.binary, h.isTruthy hs, h'.isTruthy hs]
      exact .bool _
  | equal | notEqual =>
      simp only [Value.binary, h.looseEq hs hosts h']
      exact .bool _
  | less | lessEqual | greater | greaterEqual => exact h.relation _ h'
  | add =>
      simp only [Value.binary, Value.add, h.isText, h'.isText, h.display hs, h'.display hs]
      split
      · exact .text _
      · exact h.arithmetic _ h'
  | subtract | multiply | divide | modulo => exact h.arithmetic _ h'

theorem unary (hs : p.Stores s t) (op : UnaryOp) (h : p.Same v u) :
    p.Same (Value.unary s op v) (Value.unary t op u) := by
  cases op with
  | not =>
      simp only [Value.unary, h.isTruthy hs]
      exact .bool _
  | negate | plus =>
      simp only [Value.unary, h.number?]
      cases u.number? with
      | none => exact .null
      | some x => exact .number _

end Same

end Placement

end Template

import Template.Proofs.Value.Likeness
import Template.Render.Assign

/-!
Values that have no list or map in common. A call of a method or an assignment changes one cell of
the value that it goes through, and puts nothing into it but what was there and what it was given. So
two values stay apart whatever is done through either of them, as long as nothing of the one is put
into the other, and what is done through one is not seen through the other. A value and its copy are
such values.
-/

namespace Template

def Cell.values : Cell → List Value
  | .list items => items
  | .map entries => entries.values

namespace Store

/-- No list or map is in both values. -/
def Apart (s : Store) (v u : Value) : Prop := ∀ b, s.Reaches v b → ¬s.Reaches u b

/-- All lists and maps in the value are as they were. -/
def Keeps (s t : Store) (v : Value) : Prop := ∀ b, s.Reaches v b → t.cells[b]? = s.cells[b]?

/-- Two whole values with nothing in common. -/
structure Separate (s : Store) (v u : Value) : Prop where
  left : s.Whole v
  right : s.Whole u
  apart : s.Apart v u

/-- A change that is not made through `u`: a cell in `v` gets contents in which there is nothing of
`u`, a cell in neither of them gets any contents, or new cells are made. -/
inductive Mutates (s : Store) (v u : Value) : Store → Prop
  | write {a : Address} {cell : Cell} (outside : ¬s.Reaches u a)
      (contents : s.Reaches v a → ∀ w ∈ cell.values, s.Whole w ∧ s.Apart w u) :
      Mutates s v u (s.setCell a cell)
  | grow {t : Store} (h : Footprint.growing.Allows s t) : Mutates s v u t

variable {s t : Store} {v u w : Value} {a b : Address}

theorem Apart.symm (h : s.Apart v u) : s.Apart u v := fun b hu hv => h b hv hu

theorem Separate.symm (h : s.Separate v u) : s.Separate u v := ⟨h.right, h.left, h.apart.symm⟩

theorem contents_congr (h : t.cells[a]? = s.cells[a]?) : t.contents a = s.contents a := by
  simp only [contents, items, entries, h]

theorem Reaches.tail (h : s.Reaches v a) (hu : u ∈ s.contents a) (hb : s.Reaches u b) :
    s.Reaches v b := by
  obtain ⟨c, hc, path⟩ := h
  obtain ⟨d, hd, path'⟩ := hb
  exact ⟨c, hc, (path.tail ⟨u, hu, hd⟩).trans path'⟩

/-- A value whose lists and maps are as they were leads where it led. -/
theorem Keeps.reaches_iff (h : s.Keeps t v) : t.Reaches v b ↔ s.Reaches v b := by
  constructor
  · rintro ⟨a, ha, path⟩
    induction path with
    | refl => exact ⟨a, ha, .refl⟩
    | tail _ step ih =>
        obtain ⟨u, hu, hc⟩ := step
        rw [contents_congr (h _ ih)] at hu
        exact ih.tail hu ⟨_, hc, .refl⟩
  · rintro ⟨a, ha, path⟩
    induction path with
    | refl => exact ⟨a, ha, .refl⟩
    | @tail c d path step ih =>
        obtain ⟨u, hu, hd⟩ := step
        rw [← contents_congr (h c ⟨a, ha, path⟩)] at hu
        exact ih.tail hu ⟨d, hd, .refl⟩

theorem Whole.keeps_of_growing (h : s.Whole v) (ht : Footprint.growing.Allows s t) : s.Keeps t v :=
  fun b hb => cell_of_growing ht (h b hb)

theorem Keeps.whole (h : s.Keeps t v) (hv : s.Whole v) (size : s.cells.size ≤ t.cells.size) :
    t.Whole v :=
  fun b hb => (hv b (h.reaches_iff.1 hb)).trans_le size

theorem Keeps.separate (hv : s.Keeps t v) (hu : s.Keeps t u) (h : s.Separate v u)
    (size : s.cells.size ≤ t.cells.size) : t.Separate v u where
  left := hv.whole h.left size
  right := hu.whole h.right size
  apart b hb hb' := h.apart b (hv.reaches_iff.1 hb) (hu.reaches_iff.1 hb')

theorem contents_setCell_self (ha : a < s.cells.size) (cell : Cell) :
    (s.setCell a cell).contents a = cell.values := by
  have found : (s.setCell a cell).cells[a]? = some cell := by simp [setCell, ha]
  cases cell with
  | list vs => simp [contents, items, entries, found, Cell.values]
  | map es => simp [contents, items, entries, found, Cell.values, Entries.values]

theorem cell_setCell_of_ne (hb : b ≠ a) (cell : Cell) :
    (s.setCell a cell).cells[b]? = s.cells[b]? := by
  simp [setCell, hb.symm]

/-- What a value leads to after a cell has been written it led to before, or the contents do. -/
theorem Reaches.of_setCell {cell : Cell} (ha : a < s.cells.size)
    (h : (s.setCell a cell).Reaches v b) :
    s.Reaches v b ∨ ∃ w ∈ cell.values, s.Reaches w b := by
  obtain ⟨c, hc, path⟩ := h
  induction path with
  | refl => exact .inl ⟨c, hc, .refl⟩
  | @tail d e _ step ih =>
      obtain ⟨u, hu, he⟩ := step
      by_cases same : d = a
      · subst same
        rw [contents_setCell_self ha] at hu
        exact .inr ⟨u, hu, e, he, .refl⟩
      · rw [contents_congr (cell_setCell_of_ne same cell)] at hu
        rcases ih with before | ⟨w, hw, before⟩
        · exact .inl (before.tail hu ⟨e, he, .refl⟩)
        · exact .inr ⟨w, hw, before.tail hu ⟨e, he, .refl⟩⟩

/-- A change through one value leaves the other one as it is, and they stay apart. -/
theorem Mutates.separate (h : s.Mutates v u t) (hs : s.Separate v u) :
    t.Separate v u ∧ s.Keeps t u := by
  cases h with
  | grow h =>
      have kept := hs.right.keeps_of_growing h
      exact ⟨(hs.left.keeps_of_growing h).separate kept hs (size_le_of_growing h), kept⟩
  | @write a cell outside contents =>
      have kept {x : Value} (hx : ¬s.Reaches x a) : s.Keeps (s.setCell a cell) x := by
        intro b hb
        have apart : b ≠ a := by
          intro same
          exact hx (same ▸ hb)
        exact cell_setCell_of_ne apart cell
      have right := kept outside
      have size : (s.setCell a cell).cells.size = s.cells.size := Array.size_setIfInBounds ..
      refine ⟨?_, right⟩
      by_cases inside : s.Reaches v a
      · have there := hs.left a inside
        refine ⟨fun b hb => ?_, right.whole hs.right size.ge, fun b hb hb' => ?_⟩
        · rw [size]
          rcases hb.of_setCell there with before | ⟨w, hw, before⟩
          · exact hs.left b before
          · exact (contents inside w hw).1 b before
        · have hb' := right.reaches_iff.1 hb'
          rcases hb.of_setCell there with before | ⟨w, hw, before⟩
          · exact hs.apart b before hb'
          · exact (contents inside w hw).2 b before hb'
      · exact (kept inside).separate right hs size.ge

/-- A change made through one of two values, or through neither. -/
def MutatesEither (v u : Value) (s t : Store) : Prop := s.Mutates v u t ∨ s.Mutates u v t

theorem Separate.of_run (hs : s.Separate v u)
    (run : Relation.ReflTransGen (MutatesEither v u) s t) : t.Separate v u := by
  induction run with
  | refl => exact hs
  | tail _ step ih =>
      rcases step with step | step
      · exact (step.separate ih).1
      · exact (step.separate ih.symm).1.symm

/-- What a call can do to the store: make new cells, or give the cell of the value contents made of
those that it had and of the arguments. -/
inductive Called (s : Store) (v : Value) (arguments : List Value) : Store → Prop
  | grow {t : Store} (h : Footprint.growing.Allows s t) : Called s v arguments t
  | write {a : Address} {cell : Cell} (ha : v.cell? = some a)
      (contents : ∀ w ∈ cell.values, w ∈ s.contents a ∨ w ∈ arguments ∨ w = .null) :
      Called s v arguments (s.setCell a cell)

theorem Called.same {arguments : List Value} : s.Called v arguments s :=
  .grow (Footprint.growing.refl s)

/-- A call on what is in a value is a change through it, if there is nothing of the other value in
the arguments. -/
theorem Called.mutates {arguments : List Value} (h : s.Called w arguments t) (hs : s.Separate v u)
    (inside : ∀ a ∈ w.cell?, s.Reaches v a)
    (given : ∀ x ∈ arguments, s.Whole x ∧ s.Apart x u) : s.Mutates v u t := by
  cases h with
  | grow h => exact .grow h
  | @write a cell ha contents =>
      have here := inside a ha
      refine .write (hs.apart a here) fun _ x hx => ?_
      rcases contents x hx with old | new | rfl
      · exact ⟨fun b hb => hs.left b (here.tail old hb), fun b hb => hs.apart b (here.tail old hb)⟩
      · exact given x new
      · exact ⟨fun b hb => (nomatch hb.choose_spec.1), fun b hb => (nomatch hb.choose_spec.1)⟩

end Store

section Calls

variable {α β : Type} {s : Store} {v : Value} {arguments : List Value}

/-- What the action does to the store is what a call can do. -/
def Action.Calls (action : Action α) (s : Store) (v : Value) (arguments : List Value) : Prop :=
  s.Called v arguments (action s).2

namespace Action.Calls

theorem pure (x : α) : Calls (Pure.pure x : Action α) s v arguments := .same

theorem get {f : Store → Action α} (h : Calls (f s) s v arguments) :
    Calls (MonadState.get >>= f) s v arguments := h

theorem grow {action : Action α} (h : Footprint.growing.Covers action) :
    Calls action s v arguments := Store.Called.grow (h s)

theorem setItems {a : Address} {items : List Value} {x : α}
    (h : ∀ w ∈ items, w ∈ s.contents a ∨ w ∈ arguments ∨ w = .null) :
    Calls (do Store.setItems a items; return x) s (.list a) arguments :=
  .write rfl h

theorem setEntries {a : Address} {entries : Entries Value} {x : α}
    (h : ∀ w ∈ entries.values, w ∈ s.contents a ∨ w ∈ arguments ∨ w = .null) :
    Calls (do Store.setEntries a entries; return x) s (.map a) arguments :=
  .write rfl h

end Action.Calls

namespace Entries

variable {name : String} {x y : α} {entries : Entries α}

theorem mem_values_put (h : y ∈ (entries.put name x).values) : y ∈ entries.values ∨ y = x := by
  induction entries with
  | nil =>
      have same : y = x := by simpa [put, values] using h
      exact .inr same
  | cons entry entries ih =>
      obtain ⟨key, old⟩ := entry
      simp only [put] at h
      split at h
      · grind [values]
      · grind [values]

theorem mem_values_erase (h : y ∈ (entries.erase name).values) : y ∈ entries.values := by
  induction entries with
  | nil => exact h
  | cons entry entries ih =>
      obtain ⟨key, old⟩ := entry
      simp only [erase] at h
      split at h
      · exact List.mem_cons_of_mem _ h
      · grind [values]

end Entries

namespace Value

theorem textMethod_calls (hosts : Hosts) (cs : List Char) (name : String) :
    (textMethod? hosts cs name arguments).Calls s v arguments := by
  refine .get ?_
  dsimp only
  split
  all_goals try exact .pure _
  -- `split`
  split
  · exact .pure _
  · exact .grow (Footprint.bind (Footprint.newList Footprint.growing_allocate _) fun _ =>
      Footprint.pure _)

theorem listMethod_calls (hosts : Hosts) (a : Address) (name : String) :
    (listMethod? hosts a name arguments).Calls s (.list a) arguments := by
  have old {w : Value} (hw : w ∈ s.items a) : w ∈ s.contents a ∨ w ∈ arguments ∨ w = .null :=
    .inl (mem_contents_of_mem_items hw)
  refine .get ?_
  dsimp only
  split
  all_goals try exact .pure _
  · -- `add`, at the end or at a place
    split
    · refine .setItems fun w hw => ?_
      rcases List.mem_append.1 hw with hw | hw
      · exact old hw
      · exact .inr (.inl hw)
    · split
      · split
        · refine .setItems fun w hw => ?_
          simp only [insertAt, List.mem_append, List.mem_cons] at hw
          rcases hw with hw | rfl | hw
          · exact old (List.mem_of_mem_take hw)
          · exact .inr (.inl (by simp))
          · exact old (List.mem_of_mem_drop hw)
        · exact .pure _
      · exact .pure _
    · exact .pure _
  · -- `remove`, by place or by item
    split
    · exact .pure _
    · split
      all_goals
        split
        · exact .setItems fun w hw => old (List.mem_of_mem_eraseIdx hw)
        · exact .pure _

theorem mapMethod_calls (hosts : Hosts) (a : Address) (name : String) :
    (mapMethod? hosts a name arguments).Calls s (.map a) arguments := by
  have old {w : Value} (hw : w ∈ (s.entries a).values) :
      w ∈ s.contents a ∨ w ∈ arguments ∨ w = .null :=
    .inl (List.mem_append_right _ hw)
  have newList (items : List Value) :=
    Footprint.newList (F := .growing) Footprint.growing_allocate items
  refine .get ?_
  dsimp only
  split
  all_goals try exact .pure _
  · -- `put`
    split
    · exact .pure _
    · refine .setEntries fun w hw => ?_
      rcases Entries.mem_values_put hw with hw | rfl
      · exact old hw
      · cases h : arguments[1]? with
        | none => exact .inr (.inr rfl)
        | some w => exact .inr (.inl (List.mem_of_getElem? h))
  · -- `remove`
    split
    · exact .pure _
    · exact .setEntries fun w hw => old (Entries.mem_values_erase hw)
  · exact .grow (Footprint.bind (newList _) fun _ => Footprint.pure _)
  · exact .grow (Footprint.bind (newList _) fun _ => Footprint.pure _)
  · have entry (entry : String × Value) : Footprint.growing.Covers (newEntry entry) :=
      Footprint.newMap Footprint.growing_allocate _
    exact .grow (Footprint.bind (Footprint.mapM entry _) fun _ =>
      Footprint.bind (newList _) fun _ => Footprint.pure _)

theorem invoke_calls (hosts : Hosts) (name : String) (hv : ∀ id, v ≠ .object id) :
    (v.invoke? hosts name arguments).Calls s v arguments := by
  cases v with
  | null => exact .pure _
  | bool b | number x =>
      simp only [invoke?]
      split <;> exact .pure _
  | text t => exact textMethod_calls hosts _ name
  | list a => exact listMethod_calls hosts a name
  | map a => exact mapMethod_calls hosts a name
  | object id => exact absurd rfl (hv id)

end Value

theorem Rendering.writeProperty_calls (hosts : Hosts) (name : String) (x : Value)
    (hv : ∀ id, v ≠ .object id) : (writeProperty hosts v name x).Calls s v [x] := by
  cases v with
  | map a =>
      refine .write rfl fun w hw => ?_
      rcases Entries.mem_values_put hw with hw | rfl
      · exact .inl (List.mem_append_right _ hw)
      · exact .inr (.inl (List.mem_singleton.2 rfl))
  | object id => exact absurd rfl (hv id)
  | _ => exact .pure _

end Calls

namespace Store

variable {s t : Store} {v u w : Value} {arguments : List Value}

/-- Something in `v` that is no object, and arguments in which there is nothing of `u`. -/
structure Handed (s : Store) (v u w : Value) (arguments : List Value) : Prop where
  plain : ∀ id, w ≠ .object id
  inside : ∀ a ∈ w.cell?, s.Reaches v a
  given : ∀ x ∈ arguments, s.Whole x ∧ s.Apart x u

/-- What is done through `v` is not seen through `u`. The methods and the assignments of templates
are such changes. -/
structure Unseen (s : Store) (v u : Value) : Prop where
  changes : ∀ t, s.Mutates v u t → s.Keeps t u
  calls (hosts : Hosts) (w : Value) (name : String) (arguments : List Value) :
    s.Handed v u w arguments → s.Mutates v u (w.invoke? hosts name arguments s).2
  writes (hosts : Hosts) (w : Value) (name : String) (x : Value) :
    s.Handed v u w [x] → s.Mutates v u (Rendering.writeProperty hosts w name x s).2

theorem Separate.unseen (hs : s.Separate v u) : s.Unseen v u where
  changes _ h := (h.separate hs).2
  calls hosts _ name _ h :=
    (Value.invoke_calls hosts name h.plain).mutates hs h.inside h.given
  writes hosts _ name x h :=
    (Rendering.writeProperty_calls hosts name x h.plain).mutates hs h.inside h.given

/-- Whatever has been copied is apart from what it has been copied from. -/
theorem Copied.separate (h : s.Copied s [v] [u] t) (hv : s.Whole v)
    (grown : Footprint.growing.Allows s t) : t.Separate v u := by
  obtain ⟨cells, parts, -, within⟩ := h.parts
  have parts := parts t (Footprint.growing.refl t)
  have kept := hv.keeps_of_growing grown
  have new {b : Address} (hb : t.Reaches u b) : s.cells.size ≤ b ∧ b < t.cells.size :=
    within b (parts.mem_iff.2 ⟨u, List.mem_singleton_self u, hb⟩)
  refine ⟨kept.whole hv (size_le_of_growing grown), fun b hb => (new hb).2, fun b hb hb' => ?_⟩
  exact Nat.not_lt.2 (new hb').1 (hv b (kept.reaches_iff.1 hb))

theorem Closed.whole (hs : s.Closed) (hv : s.Has v) : s.Whole v := by
  rintro b ⟨a, ha, path⟩
  induction path with
  | refl => exact hv a ha
  | tail _ step _ => exact hs _ _ step

end Store

/-- A copy has the shape, the keys and the scalars of the value, and its objects; all of its lists
and maps are new and in it once, and the cells there were are as they were. After that, whatever has
been done through either of the two, what is done next through one is not seen through the other. -/
theorem Value.deepCopy_separates {s : Store} {v : Value} (acyclic : s.AcyclicIn v)
    (whole : s.Whole v) :
    let (copy, t) := v.deepCopy s
    s.Alike t v copy ∧
    (∃ cells, t.Parts [copy] cells ∧ cells.Nodup ∧ ∀ b : Nat,
      (b ∈ cells ↔ t.Reaches copy b) ∧ (b ∈ cells → s.cells.size ≤ b ∧ b < t.cells.size)) ∧
    (∀ a : Nat, a < s.cells.size → t.cells[a]? = s.cells[a]?) ∧
    t.loops = s.loops ∧ t.calls = s.calls ∧
    ∀ r, Relation.ReflTransGen (Store.MutatesEither v copy) t r →
      r.Apart v copy ∧ r.Unseen v copy ∧ r.Unseen copy v := by
  let copy := (v.copyWithin s.depthBound s).1
  let t := (v.copyWithin s.depthBound s).2
  have start := Footprint.growing.refl s
  have copied : s.Copied s [v] [copy] t :=
    Store.copied_copyWithin acyclic whole (nesting_le_depthBound s v) start
  have grown : Footprint.growing.Allows s t := Footprint.growing_copyWithin s.depthBound v s
  have still := Footprint.growing.refl t
  obtain ⟨alike, -⟩ := List.forall₂_cons.1 (copied.alike t still)
  obtain ⟨cells, parts, nodup, within⟩ := copied.parts
  refine ⟨alike, ⟨cells, parts t still, nodup, fun b => ⟨?_, within b⟩⟩, fun a ha =>
    Store.cell_of_growing grown ha, grown.2.1, grown.2.2, fun r run => ?_⟩
  · simpa using (parts t still).mem_iff
  · have separate := (copied.separate whole grown).of_run run
    exact ⟨separate.apart, separate.unseen, separate.symm.unseen⟩

/-- A map with one list under two names, and with an object. -/
def Store.listTwice : Store :=
  ⟨#[.map [("a", .list 1), ("b", .list 1), ("loop", .object (.loop 0))], .list [.text "x"]],
    #[.start .null], #[]⟩

/-- An item is added to one of the two lists of the copy: there is nothing of it in the map. -/
theorem Value.deepCopy_separates_listTwice :
    Store.listTwice.AcyclicIn (.map 0) ∧ Store.listTwice.Whole (.map 0) ∧
    let t := ((map 0).deepCopy Store.listTwice).2
    let r := ((list 2).invoke? .none "add" [text "y"] t).2
    t.contents 4 = [list 2, list 3, object (.loop 0)] ∧ r.items 2 = [text "x", text "y"] ∧
    r.items 3 = [text "x"] ∧ t.Keeps r (map 0) := by
  have acyclic := (Store.acyclic_of_lt (s := Store.listTwice) (by decide)).acyclicIn (map 0)
  have whole : Store.listTwice.Whole (map 0) := (Store.closed_of_lt (by decide)).whole (by decide)
  refine ⟨acyclic, whole, ?_⟩
  intro t r
  obtain ⟨-, -, -, -, -, runs⟩ := deepCopy_separates acyclic whole
  obtain ⟨-, -, unseen⟩ := runs t .refl
  have inside : t.Reaches (map 4) 2 := ⟨4, rfl, .single ⟨list 2, by decide, rfl⟩⟩
  have handed : t.Handed (map 4) (map 0) (list 2) [text "y"] := by
    refine ⟨by simp, fun a ha => ?_, fun x hx => ?_⟩
    · cases ha
      exact inside
    · obtain rfl := List.mem_singleton.1 hx
      exact ⟨fun b hb => (nomatch hb.choose_spec.1), fun b hb => (nomatch hb.choose_spec.1)⟩
  exact ⟨by decide, by decide, by decide, unseen.changes r (unseen.calls .none _ "add" _ handed)⟩

end Template

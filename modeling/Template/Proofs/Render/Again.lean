import Template.Proofs.Render.Replay
import Template.Proofs.Value.Data

/-!
Rendering again. A render copies the values of its context before it begins, and gets the objects as
they are. So the values stay as they were, and as long as nothing has changed that the objects lead
to, the next render does what the last one did.
-/

namespace Template

open Placement (Acts)

namespace Context

/-- What a render copies before it begins: the values and all that is in them. -/
inductive Copied (c : Context) (s : Store) : Value → Prop where
  | value {v : Value} (h : v ∈ c.values.values) : c.Copied s v
  | inside {v u : Value} {a : Address} (h : c.Copied s v) (ha : a ∈ v.cell?)
      (hu : u ∈ s.contents a) : c.Copied s u

/-- What a render gets as it is: the objects, and all that these have and lead to. -/
inductive Lent (c : Context) (hosts : Hosts) (s : Store) : Value → Prop where
  | provider {n : Nat} (h : n ∈ c.providers.values) : c.Lent hosts s (.object (.host n))
  | object {id : ObjectId} (h : c.Copied s (.object id)) : c.Lent hosts s (.object id)
  | property {n : Nat} {o : HostObject} {v : Value} (h : c.Lent hosts s (.object (.host n)))
      (ho : hosts.objects[n]? = some o) (hv : v ∈ o.properties.values) : c.Lent hosts s v
  | parent {i : Nat} (h : c.Lent hosts s (.object (.loop i))) : c.Lent hosts s (s.loop i).parent
  | inside {v u : Value} {a : Address} (h : c.Lent hosts s v) (ha : a ∈ v.cell?)
      (hu : u ∈ s.contents a) : c.Lent hosts s u

/-- A list or a map that a render gets as it is. -/
def LentCell (c : Context) (hosts : Hosts) (s : Store) (a : Address) : Prop :=
  ∃ v, c.Lent hosts s v ∧ a ∈ v.cell?

/-- The values are data, everything else that the render gets is there, and the methods of the
objects know nothing but their arguments. -/
structure Regular (c : Context) (hosts : Hosts) (s : Store) : Prop where
  data : ∀ v ∈ c.values.values, s.Data v
  cells : ∀ a, c.LentCell hosts s a → a < s.cells.size
  loops : ∀ i, c.Lent hosts s (.object (.loop i)) → i < s.loops.size
  methods : ∀ n o, c.Lent hosts s (.object (.host n)) → hosts.objects[n]? = some o →
    ∀ method ∈ o.methods.values, Placement.Uniform method

/-- The second store has grown out of the first one, and what a render gets is in both the same. -/
structure Agrees (c : Context) (hosts : Hosts) (s t : Store) : Prop where
  cells_le : s.cells.size ≤ t.cells.size
  loops_le : s.loops.size ≤ t.loops.size
  copied : ∀ v, c.Copied s v → ∀ a ∈ v.cell?, t.cells[a]? = s.cells[a]?
  cells : ∀ a, c.LentCell hosts s a → t.cells[a]? = s.cells[a]?
  loops : ∀ i, c.Lent hosts s (.object (.loop i)) → t.loops[i]? = s.loops[i]?

variable {c : Context} {hosts : Hosts} {s t : Store}

/-- Where what is lent has stayed in its place. -/
def placement (h : c.Regular hosts s) (ha : c.Agrees hosts s t) : Placement where
  first := s
  second := t
  cells := ⟨c.LentCell hosts s, fun hl => h.cells _ hl,
    fun hl => (h.cells _ hl).trans_le ha.cells_le⟩
  loops := ⟨fun i => c.Lent hosts s (.object (.loop i)), fun hl => h.loops _ hl,
    fun hl => (h.loops _ hl).trans_le ha.loops_le⟩
  host n := c.Lent hosts s (.object (.host n))

namespace Agrees

variable (h : c.Regular hosts s) (ha : c.Agrees hosts s t)

theorem same {v : Value} (hv : c.Lent hosts s v) : (placement h ha).Same v v := by
  cases v with
  | null => exact .null
  | bool b => exact .bool b
  | number x => exact .number x
  | text t => exact .text t
  | list a => exact .list (.inl ⟨⟨_, hv, rfl⟩, rfl⟩)
  | map a => exact .map (.inl ⟨⟨_, hv, rfl⟩, rfl⟩)
  | object id =>
      cases id with
      | loop i => exact .loop (.inl ⟨hv, rfl⟩)
      | host n => exact .host hv

theorem serves : (placement h ha).Serves hosts where
  property hn ho _ hv := same h ha (.property hn ho hv)
  method hn ho := h.methods _ _ hn ho

theorem begun : (placement h ha).Begun s t := by
  refine .start (fun a hl => ?_) fun i hl => ?_
  · -- what is in a cell that is lent is lent with it
    have inside (u : Value) (hu : u ∈ s.contents a) : (placement h ha).Same u u := by
      obtain ⟨v, hv, hc⟩ := hl
      exact same h ha (.inside hv hc hu)
    change Option.Rel _ s.cells[a]? t.cells[a]?
    rw [ha.cells a hl]
    cases hc : s.cells[a]? with
    | none => exact .none
    | some cell =>
        cases cell with
        | list items =>
            have contents : s.items a = items := by simp only [Store.items, hc]
            refine .some (.list (List.forall₂_same.2 fun u hu => inside u ?_))
            exact Value.mem_contents_of_mem_items (contents ▸ hu)
        | map entries =>
            have contents : s.entries a = entries := by simp only [Store.entries, hc]
            refine .some (.map (List.forall₂_same.2 fun e he => ⟨rfl, inside e.2 ?_⟩))
            exact Value.mem_contents_of_mem_entries (contents ▸ he)
  · have parent := same h ha (.parent hl)
    change Option.Rel _ s.loops[i]? t.loops[i]?
    rw [ha.loops i hl]
    cases hc : s.loops[i]? with
    | none => exact .none
    | some l =>
        have loop : s.loop i = l := by simp [Store.loop, hc]
        exact .some ⟨rfl, rfl, rfl, loop ▸ parent⟩

theorem copyable {v : Value} (hd : s.Data v) (hv : c.Copied s v) :
    (placement h ha).Copyable v := by
  induction hd with
  | @intro v has _ ih =>
      refine .intro (fun hn => ?_) has (ha.copied v hv) fun a hc u hu =>
        ih a hc u hu (.inside hv hc hu)
      cases v with
      | null => exact .null
      | bool b => exact .bool b
      | number x => exact .number x
      | text t => exact .text t
      | list a => cases hn
      | map a => cases hn
      | object id => exact same h ha (.object hv)

theorem copyValues {entries : Entries Value}
    (hv : ∀ v ∈ entries.values, s.Data v ∧ c.Copied s v) :
    Acts (placement h ha).Begun (placement h ha).SameEntries (Context.copyValues entries)
      (Context.copyValues entries) := by
  induction entries with
  | nil => exact .pure .nil
  | cons entry rest ih =>
      obtain ⟨hv, hr⟩ := List.forall_mem_cons.1 hv
      exact .bind (.deepCopy (copyable h ha hv.1 hv.2)) fun _ _ h =>
        .bind (ih hr) fun _ _ hs => .pure (.cons ⟨rfl, h⟩ hs)

theorem globalScope :
    Acts (placement h ha).Begun (placement h ha).SameEntries c.globalScope c.globalScope := by
  refine .bind (copyValues h ha fun v hv => ⟨h.data v hv, .value hv⟩) fun _ _ hs => .pure ?_
  refine Placement.SameEntries.ofPairs (List.rel_append ?_ hs)
  refine List.forall₂_map_left_iff.2 (List.forall₂_map_right_iff.2 (List.forall₂_same.2 ?_))
  exact fun entry he => ⟨rfl, .host (.provider (List.mem_map_of_mem he))⟩

/-- A render from the second store does what it does from the first. -/
theorem run {ω : Type} (env : Observed ω) (h : c.Regular env.hosts s)
    (ha : c.Agrees env.hosts s t) (d : Document) (w w' : ω) :
    (placement h ha).Outcomes Eq (d.run env w c s).1 (d.run env w' c t).1 := by
  obtain ⟨global, stores⟩ := globalScope h ha s t (begun h ha)
  exact Placement.Renders.renderFrame (serves h ha) _ _ _ _ w w'
    { store := stores.toStores
      scopes := ⟨.nil, global⟩
      definitions := rfl
      loops := .nil
      callDepth := rfl
      parseDepth := rfl
      requests := rfl }

theorem render {env : Environment} (h : c.Regular env.hosts s) (ha : c.Agrees env.hosts s t)
    (d : Document) :
    (d.render env c t).result = (d.render env c s).result ∧
      (d.render env c t).requests = (d.render env c s).requests ∧
      (placement h ha).Stores (d.render env c s).store (d.render env c t).store := by
  have out := run env.unobserved h ha d () ()
  simp only [Document.render, Document.renderObserved]
  generalize d.run env.unobserved () c s = x at out
  generalize d.run env.unobserved () c t = y at out
  obtain ⟨⟨x, s'⟩, ⟨⟩⟩ := x
  obtain ⟨⟨y, t'⟩, ⟨⟩⟩ := y
  cases out with
  | ok h hs => exact ⟨h ▸ rfl, hs.requests.symm, hs.store⟩
  | error e hs => exact ⟨rfl, hs.requests.symm, hs.store⟩

end Agrees

/-- What holds of the values and of all that is in cells holds of all that is copied. -/
theorem Copied.of_contents {P : Value → Prop} (hv : ∀ v ∈ c.values.values, P v)
    (hs : ∀ a < s.cells.size, ∀ u ∈ s.contents a, P u) {v : Value} (h : c.Copied s v) : P v := by
  cases h with
  | value h => exact hv v h
  | inside _ _ hu => exact hs _ (Store.lt_size_of_mem hu) v hu

theorem Copied.data (hd : ∀ v ∈ c.values.values, s.Data v) {v : Value} (hv : c.Copied s v) :
    s.Data v := by
  induction hv with
  | value h => exact hd _ h
  | inside _ ha hu ih => exact ih.of_mem ha hu

/-- Plain values: data without objects in it, and no objects beside it. -/
structure Plain (c : Context) (s : Store) : Prop where
  providers : c.providers = []
  data : ∀ v ∈ c.values.values, s.Data v
  objects : ∀ id, ¬c.Copied s (.object id)

namespace Plain

theorem not_lent (h : c.Plain s) (v : Value) : ¬c.Lent hosts s v := by
  intro hv
  induction hv with
  | provider hn => simp [h.providers, Entries.values] at hn
  | object ho => exact h.objects _ ho
  | property _ _ _ ih | parent _ ih | inside _ _ _ ih => exact ih

theorem not_lentCell (h : c.Plain s) (a : Address) : ¬c.LentCell hosts s a :=
  fun ⟨v, hv, _⟩ => h.not_lent v hv

theorem regular (h : c.Plain s) (hosts : Hosts) : c.Regular hosts s where
  data := h.data
  cells a hl := absurd hl (h.not_lentCell a)
  loops _ hl := absurd hl (h.not_lent _)
  methods _ _ hl := absurd hl (h.not_lent _)

/-- The cells of the first store are in the second as they were. -/
structure Grown (s t : Store) : Prop where
  cells : Matching.Kept (fun _ => False) s.cells t.cells
  loops_le : s.loops.size ≤ t.loops.size

theorem agrees (h : c.Plain s) (hg : Grown s t) (hosts : Hosts) : c.Agrees hosts s t where
  cells_le := hg.cells.le_size
  loops_le := hg.loops_le
  copied _ hv a ha := hg.cells.kept a ((hv.data h.data).has a ha) id
  cells a hl := absurd hl (h.not_lentCell a)
  loops _ hl := absurd hl (h.not_lent _)

/-- A render writes to nothing that was there before it. -/
theorem grown_render (h : c.Plain s) (hg : Grown s t) (env : Environment) (d : Document) :
    Grown s (d.render env c t).store := by
  have stores := ((h.agrees hg env.hosts).render (h.regular env.hosts) d).2.2
  refine ⟨⟨hg.cells.le_size.trans stores.cells.second.le_size, fun a ha hn => ?_⟩,
    hg.loops_le.trans stores.loops.second.le_size⟩
  exact (stores.cells.second.kept a (ha.trans_le hg.cells.le_size) (h.not_lentCell a)).trans
    (hg.cells.kept a ha hn)

end Plain

/-- The store after renders, one after the other. -/
def renderAll (c : Context) : List (Environment × Document) → Store → Store
  | [], s => s
  | (env, d) :: rest, s => c.renderAll rest (d.render env c s).store

theorem Plain.grown_renderAll (h : c.Plain s) (renders : List (Environment × Document))
    (hg : Plain.Grown s t) : Plain.Grown s (c.renderAll renders t) := by
  induction renders generalizing t with
  | nil => exact hg
  | cons render rest ih => exact ih (h.grown_render hg render.1 render.2)

end Context

/-- Plain values are after any renders with them what they were before, and so is everything else in
the store. Hence a document can be rendered again with the same outcome. -/
theorem renders_keep_plain_values {c : Context} {s : Store} (h : c.Plain s)
    (renders : List (Environment × Document)) :
    (∀ a < s.cells.size, (c.renderAll renders s).cells[a]? = s.cells[a]?) ∧
      ∀ (env : Environment) (d : Document),
        (d.render env c (c.renderAll renders s)).result = (d.render env c s).result ∧
          (d.render env c (c.renderAll renders s)).requests = (d.render env c s).requests := by
  have hg := h.grown_renderAll renders ⟨.refl, Nat.le_refl _⟩
  refine ⟨fun a ha => hg.cells.kept a ha id, fun env d => ?_⟩
  obtain ⟨result, requests, -⟩ := (h.agrees hg env.hosts).render (h.regular env.hosts) d
  exact ⟨result, requests⟩

/-- A list with a list in it. -/
def Store.nested : Store := ⟨#[.list [.list 1], .list [.text "x"]], #[], #[]⟩

/-- The outer list has the name `l`. -/
def Context.nested : Context := ⟨[("l", .list 0)], []⟩

theorem Context.nested_plain : nested.Plain .nested where
  providers := rfl
  data v hv := by
    have has : ∀ v ∈ nested.values.values, Store.nested.Has v := by decide
    exact .of_acyclic (Store.acyclic_of_lt (by decide)) (Store.closed_of_lt (by decide)) (has v hv)
  objects id h := by
    have kind : (Value.object id).kind ≠ "object" :=
      Copied.of_contents (P := fun v => v.kind ≠ "object") (by decide) (by decide) h
    exact kind rfl

/-- A loop that adds to each list in `l`, and the list that comes of it. -/
def Document.addToEach : Document :=
  { nodes :=
      [.loop "x" (.reference "l" false default)
          [.interpolation (.call (.member (.reference "x" false default) "add" default)
            [.literal (.text "y") default] default) false "" default] none default,
        .interpolation (.reference "l" false default) false "" default]
    expression := none }

theorem renders_keep_plain_values_nested :
    (Context.nested.renderAll [(⟨.standard, .none, .none⟩, .addToEach)] .nested).cells[1]? =
      some (.list [.text "x"]) ∧
    (Document.addToEach.render ⟨.standard, .none, .none⟩ .nested
      (Context.nested.renderAll [(⟨.standard, .none, .none⟩, .addToEach)] .nested)).result.toOption =
      some "true[[x, y]]" := by
  obtain ⟨kept, again⟩ := renders_keep_plain_values Context.nested_plain
    [(⟨.standard, .none, .none⟩, .addToEach)]
  refine ⟨(kept 1 (by decide)).trans rfl, ?_⟩
  rw [(again ⟨.standard, .none, .none⟩ .addToEach).1]
  decide +kernel

/-- A render changes nothing that was there before it, but for lists and maps that the objects lead
to. If these and the loops among the objects are as they were, the document is rendered again with
the same outcome and the same calls. -/
theorem render_repeats_while_lent_unchanged (env : Environment) {c : Context} {s : Store}
    (h : c.Regular env.hosts s) (d : Document) :
    (∀ a < s.cells.size, ¬c.LentCell env.hosts s a →
      (d.render env c s).store.cells[a]? = s.cells[a]?) ∧
    ((∀ a, c.LentCell env.hosts s a → (d.render env c s).store.cells[a]? = s.cells[a]?) →
      (∀ i, c.Lent env.hosts s (.object (.loop i)) →
        (d.render env c s).store.loops[i]? = s.loops[i]?) →
      (d.render env c (d.render env c s).store).result = (d.render env c s).result ∧
      (d.render env c (d.render env c s).store).requests = (d.render env c s).requests ∧
      ∃ new, (d.render env c s).store.calls = s.calls ++ new ∧
        (d.render env c (d.render env c s).store).store.calls =
          (d.render env c s).store.calls ++ new) := by
  have itself : c.Agrees env.hosts s s :=
    ⟨Nat.le_refl _, Nat.le_refl _, fun _ _ _ _ => rfl, fun _ _ => rfl, fun _ _ => rfl⟩
  have stores := (itself.render h d).2.2
  have kept (a : Address) (ha : a < s.cells.size) (hn : ¬c.LentCell env.hosts s a) :
      (d.render env c s).store.cells[a]? = s.cells[a]? :=
    stores.cells.first.kept a ha hn
  refine ⟨kept, fun hc hl => ?_⟩
  have after : c.Agrees env.hosts s (d.render env c s).store :=
    { cells_le := stores.cells.first.le_size
      loops_le := stores.loops.first.le_size
      copied := fun v hv a ha => by
        by_cases hn : c.LentCell env.hosts s a
        · exact hc a hn
        · exact kept a ((hv.data h.data).has a ha) hn
      cells := hc
      loops := hl }
  obtain ⟨result, requests, again⟩ := after.render h d
  exact ⟨result, requests, again.calls⟩

/-- An object that has a list and joins texts. -/
def Hosts.joiner : Hosts :=
  .ofObjects #[⟨"p", [("items", .list 0)], [("join", HostMethod.concat .none)]⟩]

def Store.single : Store := ⟨#[.list [.text "x"]], #[], #[]⟩

/-- The object has the name `p`. -/
def Context.joining : Context := ⟨[], [("p", 0)]⟩

theorem Context.joining_lent {v : Value} (h : joining.Lent .joiner .single v) :
    v ∈ [.object (.host 0), .list 0, .text "x"] := by
  induction h with
  | provider hn =>
      obtain rfl := List.mem_singleton.1 hn
      decide
  | @object id h =>
      have kind : (Value.object id).kind ≠ "object" :=
        Copied.of_contents (P := fun v => v.kind ≠ "object") (by decide) (by decide) h
      exact absurd rfl kind
  | @property n o v _ ho hv ih =>
      obtain rfl : n = 0 := by simpa using ih
      obtain rfl := Option.some.inj ho
      obtain rfl := List.mem_singleton.1 hv
      decide
  | parent _ ih => simp at ih
  | @inside v u a _ ha hu ih =>
      have held : ∀ v ∈ [.object (.host 0), .list 0, .text "x"], ∀ a ∈ Value.cell? v,
          ∀ u ∈ Store.single.contents a, u ∈ [.object (.host 0), .list 0, .text "x"] := by decide
      exact held v ih a ha u hu

theorem Context.joining_lentCell {a : Address} (h : joining.LentCell .joiner .single a) :
    a = 0 := by
  obtain ⟨v, hv, ha⟩ := h
  have cells : ∀ v ∈ [.object (.host 0), .list 0, .text "x"], ∀ a ∈ Value.cell? v, a = 0 := by
    decide
  exact cells v (joining_lent hv) a ha

theorem Context.joining_regular : joining.Regular .joiner .single where
  data := nofun
  cells a h := joining_lentCell h ▸ by decide
  loops i h := by simpa using joining_lent h
  methods n o h ho method hm := by
    obtain rfl : n = 0 := by simpa using joining_lent h
    obtain rfl := Option.some.inj ho
    obtain rfl := List.mem_singleton.1 hm
    exact Placement.uniform_concat .none

/-- Prints the list of the object, and what it joins. -/
def Document.join : Document :=
  { nodes :=
      [.interpolation (.member (.reference "p" false default) "items" default) false "" default,
        .interpolation (.call (.member (.reference "p" false default) "join" default)
          [.literal (.text "y") default] default) false "" default]
    expression := none }

theorem render_repeats_while_lent_unchanged_join :
    let s := (Document.join.render ⟨.standard, .none, .joiner⟩ .joining .single).store
    s.cells[0]? = some (.list [.text "x"]) ∧ s.loops = #[] ∧
      (Document.join.render ⟨.standard, .none, .joiner⟩ .joining s).result.toOption =
        some "[x]y" := by
  obtain ⟨-, again⟩ := render_repeats_while_lent_unchanged ⟨.standard, .none, .joiner⟩
    Context.joining_regular .join
  refine ⟨by rfl, by rfl, ?_⟩
  rw [(again (fun a h => ?_) fun i h => ?_).1]
  · decide +kernel
  · obtain rfl := Context.joining_lentCell h
    rfl
  · have absent := Context.joining_lent h
    simp at absent

end Template

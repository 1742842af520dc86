import Template.Proofs.Render.Failure
import Template.Proofs.Value.Paths

/-!
Assignment to properties of plain data. The parents of the property are followed as they are read,
the last step is written straight into the map. As no map contains itself, what is written can be
read back by the same path, and by every other path to that map.
-/

namespace Template

/-- The second store has the value under the key in one map of the first, and is like it for the
rest: the other entries of the map and the order of its keys, the other cells, the loops and the
calls. -/
structure Store.Written (s t : Store) (a : Address) (key : String) (value : Value) : Prop where
  entries : t.cells[a]? = some (.map ((s.entries a).put key value))
  value : (t.entries a).get? key = some value
  values : ∀ other ≠ key, (t.entries a).get? other = (s.entries a).get? other
  keys : (t.entries a).keys =
    if key ∈ (s.entries a).keys then (s.entries a).keys else (s.entries a).keys ++ [key]
  others : ∀ b ≠ a, t.cells[b]? = s.cells[b]?
  loops : t.loops = s.loops
  calls : t.calls = s.calls

theorem Store.written_setCell {s : Store} {a : Address} (ha : s.Shows (.map a)) (key : String)
    (value : Value) :
    s.Written (s.setCell a (.map ((s.entries a).put key value))) a key value := by
  obtain ⟨old, ha⟩ := ha
  have cell : (s.setCell a (.map ((s.entries a).put key value))).cells[a]? =
      some (.map ((s.entries a).put key value)) := by
    have bound := (Array.getElem?_eq_some_iff.1 ha).1
    simp [setCell, bound]
  have entries : (s.setCell a (.map ((s.entries a).put key value))).entries a =
      (s.entries a).put key value := by
    rw [Store.entries, cell]
  refine ⟨cell, ?_, fun other ho => ?_, ?_, fun b hb => ?_, rfl, rfl⟩
  · rw [entries, Entries.get?_put, if_pos rfl]
  · rw [entries, Entries.get?_put, if_neg ho.symm]
  · rw [entries, Entries.keys_put]
  · simp [setCell, hb.symm]

/-- The value of a variable, which is null if it has none. -/
def State.valueOf (s : State) (name : String) : Value := (s.scopes.get? name).getD .null

/-- An expression followed by properties, each with its place. -/
def Tree.Expr.members (e : Expr) : List (String × Region) → Expr
  | [] => e
  | (name, place) :: rest => (Expr.member e name place).members rest

namespace Rendering

variable {ω : Type}

theorem splitLast_append {first last : String} {more parents : List String}
    (h : first :: more = parents ++ [last]) : splitLast first more = (parents, last) := by
  induction more generalizing first parents with
  | nil =>
      cases parents with
      | nil => cases h; rfl
      | cons parent parents => simp at h
  | cons next more ih =>
      cases parents with
      | nil => simp at h
      | cons parent parents =>
          obtain ⟨rfl, rest⟩ := List.cons.inj h
          rw [splitLast, ih rest]

section Follow

variable (env : Observed ω) (deeper : Frame → Rendering ω Rendered)

theorem follow_append (names more : List String) (v : Value) :
    follow env (names ++ more) v = follow env names v >>= follow env more := by
  induction names generalizing v with
  | nil => simp only [List.nil_append, follow, pure_bind]
  | cons name names ih => simp only [List.cons_append, follow, ih, bind_assoc]

/-- Properties in an expression are followed as they are for an assignment. -/
theorem evaluate_members (e : Tree.Expr) (path : List (String × Region)) :
    evaluate env deeper (e.members path) =
      evaluate env deeper e >>= follow env (path.map Prod.fst) := by
  induction path generalizing e with
  | nil => simp only [Tree.Expr.members, List.map_nil, follow, bind_pure]
  | cons member path ih =>
      simp only [Tree.Expr.members, ih, evaluate, List.map_cons, follow, bind_assoc, pure_bind]

variable {env} {s : State} {v : Value} {names : List String} {a : Address}

theorem follow_cons_run (name : String) {found : Option Value}
    (h : v.property? env.hosts name s.store = (found, s.store)) (w : ω) :
    follow env (name :: names) v s w = follow env names (found.getD .null) s w := by
  rw [follow, bind_run, onStore_run, h]

/-- Following a path through plain data arrives at plain data and changes nothing. -/
theorem follow_of_shows (hs : s.store.Plain) (hv : s.store.Shows v) (names : List String) (w : ω) :
    ∃ target, follow env names v s w = ((.ok target, s), w) ∧ s.store.Shows target := by
  induction names generalizing v with
  | nil => exact ⟨v, rfl, hv⟩
  | cons name names ih =>
      obtain ⟨found, read, shows⟩ := Value.property?_of_shows env.hosts hs hv name
      rw [follow_cons_run name read]
      exact ih shows

theorem follow_of_leads (h : s.store.Leads v names a) (w : ω) :
    follow env names v s w = ((.ok (.map a), s), w) := by
  induction h with
  | here a => rfl
  | @step u name names a b entry rest ih =>
      have read : (Value.map b).property? env.hosts name s.store =
          ((s.store.entries b).get? name, s.store) := rfl
      rw [follow_cons_run name read, entry]
      exact ih

theorem leads_of_follow (hs : s.store.Plain) (hv : s.store.Shows v) {w : ω}
    (h : (follow env names v s w).1.1 = .ok (.map a)) : s.store.Leads v names a := by
  induction names generalizing v with
  | nil =>
      obtain rfl : v = .map a := Except.ok.inj h
      exact .here a
  | cons name names ih =>
      obtain ⟨found, read, shows⟩ := Value.property?_of_shows env.hosts hs hv name
      rw [follow_cons_run name read] at h
      refine .of_property? env.hosts hv ?_
      rw [read]
      exact ih shows h

end Follow

/-- The name followed by the path reads as the value, from the state and leaving it as it is. -/
def ReadsBack (env : Observed ω) (deeper : Frame → Rendering ω Rendered) (s : State) (name : String)
    (path : List String) (v : Value) : Prop :=
  ∀ quiet place (members : List (String × Region)), members.map Prod.fst = path →
    ∀ w, (evaluate env deeper ((Tree.Expr.reference name quiet place).members members) s w).1 =
      (.ok v, s)

section Assign

variable {env : Observed ω} {deeper : Frame → Rendering ω Rendered} {s : State} {t : Store}
  {name last : String} {parents : List String} {a : Address} {v target : Value} {w : ω}

theorem assign_run (h : follow env parents (s.valueOf name) s w = ((.ok target, s), w)) :
    assign env name (parents ++ [last]) v s w =
      onStore (writeProperty env.hosts target last v) s
        (env.observe (.use (.write target last v) s.store) w) := by
  generalize hp : parents ++ [last] = path
  cases path with
  | nil => simp at hp
  | cons first more =>
      rw [State.valueOf] at h
      simp only [assign, splitLast_append hp.symm, bind_run, get_run, h, use, report]

/-- Once a map has the value under the last name, every path to the map reads it. -/
theorem readsBack_of_written (acyclic : s.store.Acyclic) (written : s.store.Written t a last v)
    (path : s.store.Leads (s.valueOf name) parents a) :
    ReadsBack env deeper { s with store := t } name (parents ++ [last]) v := by
  intro quiet place members same w
  have led : t.Leads (s.valueOf name) parents a := path.of_others acyclic written.others
  let s' : State := { s with store := t }
  have front (w : ω) : follow env parents (s.valueOf name) s' w = ((.ok (.map a), s'), w) :=
    follow_of_leads led w
  have read : (Value.map a).property? env.hosts last s'.store = (some v, s'.store) :=
    congrArg (fun found => (found, t)) written.value
  rw [evaluate_members, same, bind_run]
  change (follow env (parents ++ [last]) (s.valueOf name) s' _).1 = _
  rw [follow_append, bind_run, front]
  exact congrArg Prod.fst (follow_cons_run last read _)

/-- An assignment to a property writes one entry of one map, if the names before the last lead to a
map; it does nothing if they lead to anything else. Whoever looks on is told of the write. -/
theorem assign_member (parents : List String) (last : String) (place : Region) {e : Tree.Expr}
    {s₀ : State} {w₀ : ω}
    (value : evaluate env deeper e s₀ w₀ = ((.ok v, s), w)) (plain : s.store.Plain)
    (acyclic : s.store.Acyclic) (start : s.store.Shows (s.valueOf name)) :
    ∃ target, follow env parents (s.valueOf name) s w = ((.ok target, s), w) ∧
      ∃ s', renderNode env deeper (.assign name (parents ++ [last]) e place) s₀ w₀ =
          ((.ok .empty, s'), env.observe (.use (.write target last v) s.store) w) ∧
        ((∀ a, target ≠ .map a) → s' = s) ∧
        ∀ a, target = .map a → ∃ t, s' = { s with store := t } ∧ s.store.Written t a last v ∧
          ReadsBack env deeper s' name (parents ++ [last]) v ∧
          ∀ other path, s.store.Shows (s.valueOf other) →
            (follow env path (s.valueOf other) s w).1.1 = .ok (.map a) →
            ReadsBack env deeper s' other (path ++ [last]) v := by
  obtain ⟨target, followed, shows⟩ :
      ∃ target, follow env parents (s.valueOf name) s w = ((.ok target, s), w) ∧
        s.store.Shows target := follow_of_shows plain start parents w
  have run : renderNode env deeper (.assign name (parents ++ [last]) e place) s₀ w₀ =
      ((.ok .empty, { s with store := (writeProperty env.hosts target last v s.store).2 }),
        env.observe (.use (.write target last v) s.store) w) := by
    rw [renderNode, bind_run, value]
    dsimp only
    rw [bind_run, assign_run followed, onStore_run]
    rfl
  refine ⟨target, followed, _, run, fun elsewhere => ?_, ?_⟩
  · cases target with
    | map a => exact absurd rfl (elsewhere a)
    | object id => exact shows.elim
    | _ => rfl
  · intro a ha
    subst ha
    have written := Store.written_setCell shows last v
    refine ⟨_, rfl, written, ?_, fun other path plainOther reached => ?_⟩
    · have reached := congrArg (·.1.1) followed
      exact readsBack_of_written acyclic written (leads_of_follow plain start reached)
    · exact readsBack_of_written acyclic written (leads_of_follow plain plainOther reached)

end Assign

/-- A map in another one that is also the value of a name of its own. -/
def sharedMap : State :=
  .initial .standard [("m", .map 0), ("n", .map 1)]
    ⟨#[.map [("inner", .map 1)], .map [("k", .null), ("l", .null)]], #[], #[]⟩

/-- `#set($m.inner.k = true)` -/
theorem assign_member_shared :
    let env : Observed Unit := Environment.unobserved ⟨.standard, .none, .none⟩
    let deeper := renderFrame env 1
    let s' := (renderNode env deeper
      (.assign "m" ["inner", "k"] (.literal (.bool true) default) default) sharedMap ()).1.2
    s'.store.cells = #[.map [("inner", .map 1)], .map [("k", .bool true), ("l", .null)]] ∧
      ReadsBack env deeper s' "m" ["inner", "k"] (.bool true) ∧
      ReadsBack env deeper s' "n" ["k"] (.bool true) := by
  intro env deeper s'
  have inside (a : Address) (ha : a < 2) (v : Value) (hv : v ∈ sharedMap.store.contents a) :
      v = .null ∨ a = 0 ∧ v = .map 1 := by
    match a, ha with
    | 0, _ => exact .inr ⟨rfl, List.mem_singleton.1 hv⟩
    | 1, _ =>
        have hv : v ∈ [Value.null, Value.null] := hv
        exact .inl (by simpa using hv)
  have plain : sharedMap.store.Plain := by
    intro a v hv
    obtain rfl | ⟨-, rfl⟩ := inside a (Store.lt_size_of_mem hv) v hv
    · trivial
    · exact ⟨_, rfl⟩
  have acyclic : sharedMap.store.Acyclic := by
    refine Store.acyclic_of_lt fun a ha v hv b hb => ?_
    obtain rfl | ⟨rfl, rfl⟩ := inside a ha v hv
    · cases hb
    · cases hb
      decide
  have value : evaluate env deeper (.literal (.bool true) default) sharedMap () =
      ((.ok (.bool true), sharedMap), ()) := rfl
  have start : sharedMap.store.Shows (sharedMap.valueOf "m") := ⟨_, rfl⟩
  obtain ⟨target, followed, t, run, -, written⟩ :=
    assign_member ["inner"] "k" default value plain acyclic start
  obtain rfl : target = .map 1 := by cases followed; rfl
  obtain ⟨store, left, -, back, others⟩ := written 1 rfl
  obtain rfl : s' = t := congrArg (·.1.2) run
  exact ⟨rfl, back, others "n" [] ⟨_, rfl⟩ rfl⟩

end Rendering

end Template

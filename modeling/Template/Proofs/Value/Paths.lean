import Template.Proofs.Value.Acyclic
import Template.Proofs.Value.Footprint

/-!
Paths of properties through plain data. A path that ends at a map leads through maps alone. Where no
map contains itself the path does not meet that map before its end, so writing into the map leaves
the path as it is.
-/

namespace Template

/-- Properties of what is no object may change the store as accessors may. -/
theorem Footprint.property_ofData {F : Footprint} {hosts : Hosts} {v : Value} {name : String}
    (hv : ∀ id, v ≠ .object id) : F.Covers (v.property? hosts name) := by
  cases v with
  | null => exact pure _
  | map a => exact bind get fun _ => pure _
  | object id => exact absurd rfl (hv id)
  | _ => exact accessors _ (by simp)

namespace Value

def isScalar : Value → Bool
  | null | bool _ | number _ | text _ => true
  | list _ | map _ | object _ => false

/-- The value that the action answers, if there is one, is a scalar. -/
def AnswersScalar (action : Action (Option Value)) : Prop :=
  ∀ s, ∀ u ∈ (action s).1, u.isScalar = true

namespace AnswersScalar

variable {hosts : Hosts} {v : Value}

theorem none : AnswersScalar (return Option.none) := fun _ _ h => nomatch h

theorem some (h : v.isScalar = true) : AnswersScalar (return Option.some v) :=
  fun _ _ hu => Option.some.inj hu ▸ h

theorem get {f : Store → Action (Option Value)} (h : ∀ s, AnswersScalar (f s)) :
    AnswersScalar (MonadState.get >>= f) :=
  fun s => h s s

theorem bind {action : Action (Option Value)} {f : Option Value → Action (Option Value)}
    (h : AnswersScalar action)
    (hf : ∀ found, (∀ u ∈ found, u.isScalar = true) → AnswersScalar (f found)) :
    AnswersScalar (action >>= f) :=
  fun s => hf _ (h s) _

/-- Methods of scalars and lists that get no arguments answer scalars, if anything. -/
theorem invoke (hm : ∀ a, v ≠ .map a) (ho : ∀ id, v ≠ .object id) (name : String) :
    AnswersScalar (v.invoke? hosts name []) := by
  cases v with
  | null => exact none
  | bool b | number x =>
      simp only [Value.invoke?]
      split <;> first | exact none | exact some rfl
  | text t =>
      refine get fun s => ?_
      dsimp only [textArgument?, List.getElem?_nil, Option.map_none, Option.bind_none]
      split <;> first | exact none | exact some rfl
  | list a =>
      refine get fun s => ?_
      dsimp only [List.getElem?_nil, Option.map_none, Option.bind_none]
      split <;> first | exact none | exact some rfl
  | map a => exact absurd rfl (hm a)
  | object id => exact absurd rfl (ho id)

theorem accessors (hm : ∀ a, v ≠ .map a) (ho : ∀ id, v ≠ .object id) (name : String) :
    AnswersScalar (do
      if name.isEmpty then return Option.none
      match ← v.invoke? hosts (Accessor.getter name) [] with
      | .some found => return Option.some found
      | .none => v.invoke? hosts (Accessor.tester name) []) := by
  split
  · exact none
  · refine bind (invoke hm ho _) fun found hf => ?_
    cases found with
    | some found => exact some (hf found rfl)
    | none => exact invoke hm ho _

theorem property (hm : ∀ a, v ≠ .map a) (ho : ∀ id, v ≠ .object id) (name : String) :
    AnswersScalar (v.property? hosts name) := by
  cases v with
  | null => exact none
  | map a => exact absurd rfl (hm a)
  | object id => exact absurd rfl (ho id)
  | _ => exact accessors (by simp) (by simp) name

end AnswersScalar

end Value

namespace Store

/-- No object, and no list or map that the store does not have. -/
def Shows (s : Store) : Value → Prop
  | .list a => ∃ items, s.cells[a]? = some (.list items)
  | .map a => ∃ entries, s.cells[a]? = some (.map entries)
  | .object _ => False
  | .null | .bool _ | .number _ | .text _ => True

/-- There is plain data in all lists and maps. -/
def Plain (s : Store) : Prop := ∀ a, ∀ v ∈ s.contents a, s.Shows v

/-- The properties lead from the value to the map in the cell, through maps. -/
inductive Leads (s : Store) : Value → List String → Address → Prop where
  | here (a : Address) : s.Leads (.map a) [] a
  | step {v : Value} {name : String} {names : List String} {a b : Address}
      (entry : (s.entries b).get? name = some v) (rest : s.Leads v names a) :
      s.Leads (.map b) (name :: names) a

end Store

/-- A name that is there keeps its place; a new one comes last. -/
theorem Entries.keys_put {α : Type} (name : String) (value : α) (entries : Entries α) :
    (entries.put name value).keys =
      if name ∈ entries.keys then entries.keys else entries.keys ++ [name] := by
  induction entries with
  | nil => rfl
  | cons entry rest ih =>
      obtain ⟨key, old⟩ := entry
      by_cases here : key = name
      · simp [put, keys, here]
      · simp only [keys] at ih
        by_cases later : name ∈ rest.map Prod.fst <;>
          simp [put, keys, here, Ne.symm here, ih, later]

namespace Store

variable {s t : Store} {v u : Value} {a b : Address} {name : String} {names : List String}

theorem Shows.of_isScalar (h : v.isScalar = true) : s.Shows v := by
  cases v with
  | list a | map a | object id => exact absurd h Bool.false_ne_true
  | _ => trivial

theorem Shows.ne_object (h : s.Shows v) (id : ObjectId) : v ≠ .object id := by
  rintro rfl
  exact h

theorem mem_contents_of_entry (h : (s.entries a).get? name = some v) : v ∈ s.contents a :=
  Value.mem_contents_of_mem_entries (Entries.mem_of_get? h)

namespace Leads

theorem reaches (h : s.Leads v names a) : s.Reaches v a := by
  induction h with
  | here a => exact ⟨a, rfl, .refl⟩
  | step entry _ ih => exact ih.of_mem rfl (mem_contents_of_entry entry)

/-- Whatever is written into the map at the end of a path, the path still leads there. -/
theorem of_others (h : s.Leads v names a) (hs : s.Acyclic)
    (others : ∀ b ≠ a, t.cells[b]? = s.cells[b]?) : t.Leads v names a := by
  induction h with
  | here a => exact .here a
  | @step v name names a b entry rest ih =>
      refine .step ?_ (ih others)
      -- a map that holds what leads to `a` is another one, as `a` does not contain itself
      have apart : b ≠ a := by
        intro same
        subst same
        exact (hs.acyclicIn (.map b)).not_reaches rfl (mem_contents_of_entry entry) rest.reaches
      rwa [entries, others b apart]

end Leads

end Store

namespace Value

variable {s : Store} {v : Value}

/-- Properties of plain data are plain data, and reading them changes nothing. -/
theorem property?_of_shows (hosts : Hosts) (hs : s.Plain) (hv : s.Shows v) (name : String) :
    ∃ found, v.property? hosts name s = (found, s) ∧ s.Shows (found.getD .null) := by
  by_cases hm : ∃ a, v = .map a
  · obtain ⟨a, rfl⟩ := hm
    refine ⟨(s.entries a).get? name, rfl, ?_⟩
    cases found : (s.entries a).get? name with
    | none => trivial
    | some u => exact hs a u (Store.mem_contents_of_entry found)
  · have hm : ∀ a, v ≠ .map a := fun a h => hm ⟨a, h⟩
    have same : (v.property? hosts name s).2 = s :=
      Footprint.property_ofData (F := .untouched) hv.ne_object s
    have scalar : AnswersScalar (v.property? hosts name) := .property hm hv.ne_object name
    refine ⟨(v.property? hosts name s).1, Prod.ext rfl same, ?_⟩
    cases found : (v.property? hosts name s).1 with
    | none => trivial
    | some u => exact .of_isScalar (scalar s u found)

end Value

namespace Store.Leads

variable {s : Store} {v : Value} {a : Address} {name : String} {names : List String}

/-- A path that goes on from a property to a map started at a map. -/
theorem of_property? (hosts : Hosts) (hv : s.Shows v)
    (h : s.Leads ((v.property? hosts name s).1.getD .null) names a) :
    s.Leads v (name :: names) a := by
  by_cases hm : ∃ b, v = .map b
  · obtain ⟨b, rfl⟩ := hm
    change s.Leads (((s.entries b).get? name).getD .null) names a at h
    cases found : (s.entries b).get? name with
    | none =>
        rw [found] at h
        nomatch h
    | some u =>
        rw [found] at h
        exact .step found h
  · have scalar : Value.AnswersScalar (v.property? hosts name) :=
      .property (fun b e => hm ⟨b, e⟩) hv.ne_object name
    cases found : (v.property? hosts name s).1 with
    | none =>
        rw [found] at h
        nomatch h
    | some u =>
        rw [found] at h
        have := scalar s u found
        cases h <;> nomatch this

end Store.Leads

end Template

import Template.Proofs.Value.Copies
import Template.Proofs.Value.Paths
import Template.Render.Assign
import Template.Render.Context

/-!
Maps have each name once. Names stay apart where a map is made from pairs or copied and where an entry
is put into it or taken out, so no operation on values lets a name come twice, as long as the methods
of the host do not.
-/

namespace Template

namespace Entries

variable {α : Type} {entries : Entries α}

theorem nodup_keys_put (h : entries.keys.Nodup) (name : String) (value : α) :
    (entries.put name value).keys.Nodup := by
  rw [keys_put]
  by_cases there : name ∈ entries.keys
  · rwa [if_pos there]
  · rw [if_neg there]
    refine List.nodup_append.2 ⟨h, List.nodup_singleton name, fun key hk other ho same => ?_⟩
    rw [same, List.mem_singleton.1 ho] at hk
    exact there hk

theorem keys_erase_sublist (name : String) (entries : Entries α) :
    (entries.erase name).keys.Sublist entries.keys := by
  induction entries with
  | nil => exact .slnil
  | cons entry rest ih =>
      obtain ⟨key, value⟩ := entry
      by_cases here : key = name
      · simp only [erase, if_pos here]
        exact List.sublist_cons_self key (keys rest)
      · simp only [erase, if_neg here]
        exact ih.cons_cons key

theorem nodup_keys_ofPairs (pairs : List (String × α)) : (ofPairs pairs).keys.Nodup := by
  have onward (entries : Entries α) (h : entries.keys.Nodup) :
      (pairs.foldl (fun entries pair => entries.put pair.1 pair.2) entries).keys.Nodup := by
    induction pairs generalizing entries with
    | nil => exact h
    | cons pair pairs ih => exact ih _ (nodup_keys_put h pair.1 pair.2)
  exact onward [] List.nodup_nil

end Entries

/-- The cell has each name once. -/
def Cell.Distinct : Cell → Prop
  | .list _ => True
  | .map entries => entries.keys.Nodup

namespace Store

/-- In each map each name comes once. -/
def Distinct (s : Store) : Prop := ∀ a, (s.entries a).keys.Nodup

variable {s : Store}

theorem distinct_iff : s.Distinct ↔ ∀ cell ∈ s.cells, cell.Distinct := by
  constructor
  · intro h cell hc
    obtain ⟨a, ha⟩ := Array.getElem?_of_mem hc
    cases cell with
    | list items => trivial
    | map entries =>
        have names := h a
        rwa [Store.entries, ha] at names
  · intro h a
    rw [entries]
    cases found : s.cells[a]? with
    | none => exact List.nodup_nil
    | some cell =>
        cases cell with
        | list items => exact List.nodup_nil
        | map entries => exact h _ (Array.mem_of_getElem? found)

theorem distinct_empty : empty.Distinct := distinct_iff.2 nofun

theorem distinct_of_lt (h : ∀ a < s.cells.size, (s.entries a).keys.Nodup) : s.Distinct := by
  intro a
  by_cases ha : a < s.cells.size
  · exact h a ha
  · have none : s.cells[a]? = none := Array.getElem?_eq_none (Nat.le_of_not_lt ha)
    have nothing : s.entries a = [] := by simp [entries, none]
    rw [nothing]
    exact List.nodup_nil

theorem Distinct.push (h : s.Distinct) {cell : Cell} (hc : cell.Distinct) :
    { s with cells := s.cells.push cell }.Distinct := by
  refine distinct_iff.2 fun other ho => ?_
  cases Array.mem_push.1 ho with
  | inl before => exact distinct_iff.1 h other before
  | inr same => exact same ▸ hc

theorem Distinct.setCell (h : s.Distinct) (a : Address) {cell : Cell} (hc : cell.Distinct) :
    (s.setCell a cell).Distinct := by
  refine distinct_iff.2 fun other ho => ?_
  cases Array.mem_or_eq_of_mem_setIfInBounds ho with
  | inl before => exact distinct_iff.1 h other before
  | inr same => exact same ▸ hc

end Store

/-- Names that are apart stay so. -/
def Footprint.apart : Footprint where
  Allows s t := s.Distinct → t.Distinct
  refl _ := id
  trans h h' hs := h' (h hs)

open Footprint

namespace Store

/-- The action lets no name of a map come twice. -/
abbrev KeepsApart {α : Type} (action : Action α) : Prop := apart.Covers action

theorem keepsApart_newList (items : List Value) : KeepsApart (newList items) :=
  bind (fun _ hs => hs.push trivial) fun _ => pure _

theorem keepsApart_newMap {entries : Entries Value} (h : entries.keys.Nodup) :
    KeepsApart (newMap entries) :=
  bind (fun _ hs => hs.push h) fun _ => pure _

theorem keepsApart_setItems (a : Address) (items : List Value) : KeepsApart (setItems a items) :=
  fun _ hs => hs.setCell a trivial

/-- What the action does with the store it starts from may rest on the names in it. -/
theorem keepsApart_get {α : Type} {f : Store → Action α}
    (h : ∀ s, s.Distinct → KeepsApart (f s)) : KeepsApart (MonadState.get >>= f) :=
  fun s hs => h s hs s hs

theorem keepsApart_setEntries (a : Address) {entries : Entries Value} (h : entries.keys.Nodup) :
    KeepsApart (setEntries a entries) :=
  fun _ hs => hs.setCell a h

end Store

open Store

namespace Plain

mutual

theorem keepsApart_toValue : (p : Plain) → KeepsApart p.toValue
  | .null | .bool _ | .number _ | .text _ => pure _
  | .list items => bind (keepsApart_itemValues items) fun _ => keepsApart_newList _
  | .map entries => bind (keepsApart_entryValues entries) fun pairs =>
      keepsApart_newMap (Entries.nodup_keys_ofPairs pairs)

theorem keepsApart_itemValues : (items : List Plain) → KeepsApart (itemValues items)
  | [] => pure _
  | item :: items => bind (keepsApart_toValue item) fun _ =>
      bind (keepsApart_itemValues items) fun _ => pure _

theorem keepsApart_entryValues : (entries : List (String × Plain)) →
    KeepsApart (entryValues entries)
  | [] => pure _
  | (_, item) :: rest => bind (keepsApart_toValue item) fun _ =>
      bind (keepsApart_entryValues rest) fun _ => pure _

end

end Plain

namespace Value

theorem keepsApart_copyWithin (depth : Nat) (v : Value) : KeepsApart (copyWithin depth v) := by
  induction depth generalizing v with
  | zero => exact pure v
  | succ depth ih =>
      cases v with
      | list a => exact bind get fun s => bind (mapM ih _) fun _ => keepsApart_newList _
      | map a =>
          refine keepsApart_get fun s hs => ?_
          intro t ht
          -- the copies have the names of what is copied
          have named : (Cell.map ((s.entries a).mapM (copyEntry (copyWithin depth)) t).1).Distinct := by
            change (Entries.keys _).Nodup
            rw [(mapM_copyEntry _ _ _).1]
            exact hs a
          exact (mapM (Footprint.copyEntry ih) (s.entries a) t ht).push named
      | _ => exact pure _

theorem keepsApart_deepCopy (v : Value) : KeepsApart v.deepCopy :=
  bind get fun s => keepsApart_copyWithin s.depthBound v

end Value

namespace Context

theorem keepsApart_ofPlain (p : Plain) : KeepsApart (ofPlain p) := by
  cases p with
  | map entries => exact bind (Plain.keepsApart_entryValues entries) fun _ => pure _
  | _ => exact pure _

theorem keepsApart_copyValues (values : Entries Value) : KeepsApart (copyValues values) := by
  induction values with
  | nil => exact pure _
  | cons entry rest ih =>
      exact bind (Value.keepsApart_deepCopy entry.2) fun _ => bind ih fun _ => pure _

theorem keepsApart_globalScope (c : Context) : KeepsApart c.globalScope :=
  bind (keepsApart_copyValues c.values) fun _ => pure _

end Context

namespace Value

variable {hosts : Hosts}

theorem keepsApart_newEntry (entry : String × Value) : KeepsApart (newEntry entry) :=
  keepsApart_newMap (by simp [Entries.keys])

theorem keepsApart_mapMethod (a : Address) (name : String) (arguments : List Value) :
    KeepsApart (mapMethod? hosts a name arguments) := by
  refine keepsApart_get fun s hs => ?_
  have names := hs a
  dsimp only
  split
  all_goals try exact pure _
  case h_6 =>
    split
    · exact pure _
    · exact bind (keepsApart_setEntries a (Entries.nodup_keys_put names _ _)) fun _ => pure _
  case h_7 =>
    split
    · exact pure _
    · exact bind (keepsApart_setEntries a (names.sublist (Entries.keys_erase_sublist _ _)))
        fun _ => pure _
  -- `keySet`, `values` and `entrySet`
  · exact bind (keepsApart_newList _) fun _ => pure _
  · exact bind (keepsApart_newList _) fun _ => pure _
  · exact bind (mapM keepsApart_newEntry _) fun _ => bind (keepsApart_newList _) fun _ => pure _

end Value

/-- No method of the host lets a name of a map come twice. -/
def Hosts.KeepApart (hosts : Hosts) : Prop :=
  ∀ o ∈ hosts.objects, ∀ name method, o.methods.get? name = some method →
    ∀ arguments, KeepsApart (method arguments)

namespace Hosts.KeepApart

variable {hosts : Hosts} (h : hosts.KeepApart)

include h

theorem allowsHosts (name : String) : apart.AllowsHosts hosts name := by
  intro o ho method hm arguments
  exact bind get fun s => bind (fun _ => id) fun _ => h o ho name method hm arguments

theorem objectMethod (id : ObjectId) (name : String) (arguments : List Value) :
    KeepsApart (id.invoke? hosts name arguments) := by
  refine Footprint.objectMethod (fun _ _ => ?_) (h.allowsHosts name) id arguments
  exact fun _ hs => hs

theorem invoke (v : Value) (name : String) (arguments : List Value) :
    KeepsApart (v.invoke? hosts name arguments) :=
  invoke_of (textMethod (fun _ => keepsApart_newList) · _)
    (listMethod (fun _ => keepsApart_setItems) · _) (Value.keepsApart_mapMethod · name _)
    fun id _ => h.objectMethod id name _

theorem property (v : Value) (name : String) : KeepsApart (v.property? hosts name) :=
  Footprint.property (h.allowsHosts _) v

theorem index (v key : Value) : KeepsApart (v.index hosts key) :=
  Footprint.index (h.allowsHosts _) (fun _ => h.allowsHosts _) v key

theorem writeProperty (target : Value) (name : String) (value : Value) :
    KeepsApart (Rendering.writeProperty hosts target name value) := by
  cases target with
  | map a =>
      refine keepsApart_get fun s hs => ?_
      exact keepsApart_setEntries a (Entries.nodup_keys_put (hs a) name value)
  | object id => exact bind (h.objectMethod id _ [value]) fun _ => pure _
  | _ => exact pure _

end Hosts.KeepApart

end Template

import Template.Value.Member

/-!
What the operations on values may do to the store. Most of them only read it; which of them make or
change cells, stop a loop or call a method of the host is told by the name of the member.
-/

namespace Template

/-- A kind of change to the store: doing nothing is one, and so are two of them in turn. -/
structure Footprint where
  Allows : Store → Store → Prop
  refl (s : Store) : Allows s s
  trans {s t u : Store} (h : Allows s t) (h' : Allows t u) : Allows s u

namespace Footprint

variable {α β : Type} (F : Footprint)

/-- Whatever the action does to a store is allowed. -/
def Covers (action : Action α) : Prop := ∀ s, F.Allows s (action s).2

/-- No change at all. -/
def untouched : Footprint where
  Allows s t := t = s
  refl _ := rfl
  trans h h' := h'.trans h

/-- The cells there were stay as they are; new ones may come behind them. -/
def growing : Footprint where
  Allows s t := (∃ new, t.cells = s.cells ++ new) ∧ t.loops = s.loops ∧ t.calls = s.calls
  refl s := ⟨⟨#[], by simp⟩, rfl, rfl⟩
  trans := by
    rintro s t u ⟨⟨new, hn⟩, hl, hc⟩ ⟨⟨new', hn'⟩, hl', hc'⟩
    exact ⟨⟨new ++ new', by rw [hn', hn, Array.append_assoc]⟩, hl'.trans hl, hc'.trans hc⟩

theorem growing_allocate (cell : Cell) : growing.Covers (Store.allocate cell) :=
  fun _ => ⟨⟨#[cell], rfl⟩, rfl, rfl⟩

variable {F}

theorem pure (a : α) : F.Covers (Pure.pure a : Action α) := fun s => F.refl s

theorem get : F.Covers (MonadState.get : Action Store) := fun s => F.refl s

theorem bind {action : Action α} {f : α → Action β} (ha : F.Covers action)
    (hf : ∀ a, F.Covers (f a)) : F.Covers (action >>= f) :=
  fun s => F.trans (ha s) (hf _ _)

/-- What only looks at the store is always allowed. -/
theorem read (f : Store → α) : F.Covers (do return f (← MonadState.get)) := bind get fun _ => pure _

theorem mapM {f : α → Action β} (hf : ∀ a, F.Covers (f a)) (as : List α) :
    F.Covers (as.mapM f) := by
  induction as with
  | nil => exact pure _
  | cons a as ih =>
      rw [List.mapM_cons]
      exact bind (hf a) fun _ => bind ih fun _ => pure _

/-- Methods that change the cell they are called on. -/
def writers : List String := ["add", "remove", "put"]

/-- Methods that answer new cells. -/
def makers : List String := ["split", "keySet", "values", "entrySet"]

/-- What the method of a name does to cells is allowed. -/
structure AllowsCells (F : Footprint) (name : String) : Prop where
  make : name ∈ makers → ∀ cell, F.Covers (Store.allocate cell)
  write : name ∈ writers → ∀ a cell s, F.Allows s (s.setCell a cell)

/-- What methods of the host with the name do is allowed. -/
def AllowsHosts (F : Footprint) (hosts : Hosts) (name : String) : Prop :=
  ∀ o ∈ hosts.objects, ∀ method, o.methods.get? name = some method →
    ∀ arguments, F.Covers (o.run hosts name method arguments)

/-- All that a call of the name can do to the store is allowed. -/
structure AllowsMethod (F : Footprint) (hosts : Hosts) (name : String) : Prop
    extends F.AllowsCells name where
  stop : name = "stop" → ∀ number,
    F.Covers (Store.updateLoop number fun l => { l with stopped := true })
  host : F.AllowsHosts hosts name

variable {hosts : Hosts} {name : String}

theorem newList (h : ∀ cell, F.Covers (Store.allocate cell)) (items : List Value) :
    F.Covers (Store.newList items) :=
  bind (h _) fun _ => pure _

theorem newMap (h : ∀ cell, F.Covers (Store.allocate cell)) (entries : Entries Value) :
    F.Covers (Store.newMap entries) :=
  bind (h _) fun _ => pure _

theorem textMethod (make : name ∈ makers → ∀ items, F.Covers (Store.newList items))
    (cs : List Char) (arguments : List Value) :
    F.Covers (Value.textMethod? hosts cs name arguments) := by
  refine bind get fun s => ?_
  dsimp only
  split
  all_goals try exact pure _
  -- `split`
  split
  · exact pure _
  · exact bind (make (by simp [makers]) _) fun _ => pure _

theorem listMethod (write : name ∈ writers → ∀ a items, F.Covers (Store.setItems a items))
    (a : Address) (arguments : List Value) :
    F.Covers (Value.listMethod? hosts a name arguments) := by
  refine bind get fun s => ?_
  dsimp only
  split
  all_goals try exact pure _
  -- `add` and `remove`
  all_goals
    have set := write (by simp [writers]) a
    repeat' split
    all_goals first
      | exact pure _
      | exact bind (set _) fun _ => pure _

theorem mapMethod (h : F.AllowsCells name) (a : Address) (arguments : List Value) :
    F.Covers (Value.mapMethod? hosts a name arguments) := by
  refine bind get fun s => ?_
  dsimp only
  split
  all_goals try exact pure _
  case h_6 | h_7 =>
    have set (entries) : F.Covers (Store.setEntries a entries) := h.write (by simp [writers]) a _
    split
    · exact pure _
    · exact bind (set _) fun _ => pure _
  -- `keySet`, `values` and `entrySet`
  all_goals have make := h.make (by simp [makers])
  · exact bind (newList make _) fun _ => pure _
  · exact bind (newList make _) fun _ => pure _
  · exact bind (mapM (fun entry => newMap make _) _) fun _ => bind (newList make _) fun _ => pure _

theorem objectMethod
    (stop : name = "stop" → ∀ number,
      F.Covers (Store.updateLoop number fun l => { l with stopped := true }))
    (host : F.AllowsHosts hosts name) (id : ObjectId) (arguments : List Value) :
    F.Covers (id.invoke? hosts name arguments) := by
  cases id with
  | loop n =>
      simp only [ObjectId.invoke?]
      split
      · exact bind (stop ‹_› n) fun _ => pure _
      · split
        · exact bind get fun _ => pure _
        · exact pure _
  | host n =>
      simp only [ObjectId.invoke?]
      split
      next o ho =>
        simp only [HostObject.invoke?]
        split
        · exact bind (host o (Array.mem_of_getElem? ho) _ ‹_› arguments) fun _ => pure _
        · split <;> exact pure _
      next => exact pure _

/-- A call does what the methods of the value do that it is made on. -/
theorem invoke_of {v : Value} {arguments : List Value}
    (text : ∀ cs, F.Covers (Value.textMethod? hosts cs name arguments))
    (list : ∀ a, F.Covers (Value.listMethod? hosts a name arguments))
    (map : ∀ a, F.Covers (Value.mapMethod? hosts a name arguments))
    (object : ∀ id, v = .object id → F.Covers (id.invoke? hosts name arguments)) :
    F.Covers (v.invoke? hosts name arguments) := by
  cases v with
  | null => exact pure _
  | bool b | number x =>
      simp only [Value.invoke?]
      split <;> exact pure _
  | text t => exact text _
  | list a => exact list a
  | map a => exact map a
  | object id => exact object id rfl

theorem AllowsCells.textMethod (h : F.AllowsCells name) (cs : List Char) (arguments : List Value) :
    F.Covers (Value.textMethod? hosts cs name arguments) :=
  Footprint.textMethod (fun make => newList (h.make make)) cs arguments

theorem AllowsCells.listMethod (h : F.AllowsCells name) (a : Address) (arguments : List Value) :
    F.Covers (Value.listMethod? hosts a name arguments) :=
  Footprint.listMethod (fun write a _ => h.write write a _) a arguments

theorem AllowsMethod.objectMethod (h : F.AllowsMethod hosts name) (id : ObjectId)
    (arguments : List Value) : F.Covers (id.invoke? hosts name arguments) :=
  Footprint.objectMethod h.stop h.host id arguments

theorem invoke_ofCells (h : F.AllowsCells name) (v : Value) (hv : ∀ id, v ≠ .object id)
    (arguments : List Value) : F.Covers (v.invoke? hosts name arguments) :=
  invoke_of (h.textMethod · _) (h.listMethod · _) (mapMethod h · _) fun id he => absurd he (hv id)

theorem invoke (h : F.AllowsMethod hosts name) (v : Value) (arguments : List Value) :
    F.Covers (v.invoke? hosts name arguments) :=
  invoke_of (h.textMethod · _) (h.listMethod · _) (mapMethod h.toAllowsCells · _)
    fun id _ => h.objectMethod id _

/-- The names that accessors have are those of no method that makes or changes cells. -/
theorem allowsCells_withLead {lead : String} (hw : ∀ w ∈ writers ++ makers, ¬lead.toList <+: w.toList)
    (name : String) : F.AllowsCells (Accessor.withLead lead name) := by
  have absent (h : Accessor.withLead lead name ∈ writers ++ makers) : False := by
    refine hw _ h ?_
    simp [Accessor.withLead]
  exact ⟨fun h => (absent (List.mem_append_right _ h)).elim,
    fun h => (absent (List.mem_append_left _ h)).elim⟩

theorem objectProperty (h : F.AllowsHosts hosts (Accessor.getter name)) (id : ObjectId) :
    F.Covers (id.property? hosts name) := by
  cases id with
  | loop n => exact bind get fun _ => pure _
  | host n =>
      simp only [ObjectId.property?]
      split
      next o ho =>
        simp only [HostObject.property?]
        split
        · exact pure _
        · split
          · exact bind (h o (Array.mem_of_getElem? ho) _ ‹_› []) fun _ => pure _
          · exact pure _
      next => exact pure _

/-- The getter and the tester of a property are asked where there is no entry and no host. -/
theorem accessors (v : Value) (hv : ∀ id, v ≠ .object id) :
    F.Covers (do
      if name.isEmpty then return none
      match ← v.invoke? hosts (Accessor.getter name) [] with
      | some found => return some found
      | none => v.invoke? hosts (Accessor.tester name) []) := by
  have called {lead : String} (hw : ∀ w ∈ writers ++ makers, ¬lead.toList <+: w.toList) :
      F.Covers (v.invoke? hosts (Accessor.withLead lead name) []) :=
    invoke_ofCells (allowsCells_withLead hw name) v hv []
  split
  · exact pure _
  · refine bind (called (by decide)) fun found => ?_
    cases found with
    | some found => exact pure _
    | none => exact called (by decide)

theorem property (h : F.AllowsHosts hosts (Accessor.getter name)) (v : Value) :
    F.Covers (v.property? hosts name) := by
  cases v with
  | null => exact pure _
  | map a => exact bind get fun _ => pure _
  | object id => exact objectProperty h id
  | _ => exact accessors _ (by simp)

theorem index (hg : F.AllowsHosts hosts "get")
    (h : ∀ name, F.AllowsHosts hosts (Accessor.getter name)) (v key : Value) :
    F.Covers (v.index hosts key) := by
  refine bind get fun s => ?_
  cases v with
  | object id =>
      refine bind (objectMethod (by simp) hg id [key]) fun found => ?_
      cases found with
      | some found => exact pure _
      | none => exact bind get fun _ => objectProperty (h _) id
  | _ => exact pure _

end Footprint

end Template

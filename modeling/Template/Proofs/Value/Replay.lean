import Template.Proofs.Value.Placement

/-!
Steps that do the same at other places. Whatever templates do to values, they do alike in two stores
that hold the same, and what comes of it is the same again.
-/

namespace Template.Placement

variable {p : Placement} {α β γ δ : Type}

/-- From stores in the relation `I`, the steps get to results in the relation `R` and to stores in
`I`. -/
def Acts (I : Store → Store → Prop) (R : α → β → Prop) (c : Action α) (d : Action β) : Prop :=
  ∀ s t, I s t → R (c s).1 (d t).1 ∧ I (c s).2 (d t).2

namespace Stores

variable {s t : Store}

theorem setCell (h : p.Stores s t) {a b : Address} (hab : p.cells.At a b) {c d : Cell}
    (hcd : p.SameCell c d) : p.Stores (s.setCell a c) (t.setCell b d) where
  cells := h.cells.set hab hcd
  loops := h.loops
  calls := h.calls

theorem recordCall (h : p.Stores s t) (call : Call) :
    p.Stores { s with calls := s.calls.push call } { t with calls := t.calls.push call } where
  cells := h.cells
  loops := h.loops
  calls := by
    obtain ⟨new, hs, ht⟩ := h.calls
    exact ⟨new.push call, by simp [hs], by simp [ht]⟩

end Stores

namespace Acts

variable {I : Store → Store → Prop} {R : α → β → Prop} {Q : γ → δ → Prop}

theorem pure {a : α} {b : β} (h : R a b) : Acts I R (Pure.pure a) (Pure.pure b) :=
  fun _ _ hs => ⟨h, hs⟩

theorem bind {c : Action α} {d : Action β} {f : α → Action γ} {g : β → Action δ}
    (hc : Acts I R c d) (hf : ∀ a b, R a b → Acts I Q (f a) (g b)) :
    Acts I Q (c >>= f) (d >>= g) :=
  fun s t hs => hf _ _ (hc s t hs).1 _ _ (hc s t hs).2

theorem get {f : Store → Action γ} {g : Store → Action δ}
    (h : ∀ s t, I s t → Acts I Q (f s) (g t)) :
    Acts I Q (MonadState.get >>= f) (MonadState.get >>= g) :=
  fun s t hs => h s t hs s t hs

theorem mapM {f : α → Action γ} {g : β → Action δ} {as : List α} {bs : List β}
    (h : List.Forall₂ R as bs) (hf : ∀ a b, R a b → Acts I Q (f a) (g b)) :
    Acts I (List.Forall₂ Q) (as.mapM f) (bs.mapM g) := by
  induction h with
  | nil => exact pure .nil
  | cons h _ ih =>
      rw [List.mapM_cons, List.mapM_cons]
      exact bind (hf _ _ h) fun _ _ hq => bind ih fun _ _ hr => pure (.cons hq hr)

theorem allocate {c d : Cell} (h : p.SameCell c d) :
    Acts p.Stores p.cells.At (Store.allocate c) (Store.allocate d) :=
  fun _ _ hs => ⟨.inr hs.cells.size, hs.cells.push h, hs.loops, hs.calls⟩

theorem newList {vs us : List Value} (h : p.SameItems vs us) :
    Acts p.Stores p.Same (Store.newList vs) (Store.newList us) :=
  bind (allocate (.list h)) fun _ _ hab => pure (.list hab)

theorem newMap {es fs : Entries Value} (h : p.SameEntries es fs) :
    Acts p.Stores p.Same (Store.newMap es) (Store.newMap fs) :=
  bind (allocate (.map h)) fun _ _ hab => pure (.map hab)

variable {a b : Address}

theorem setItems (hab : p.cells.At a b) {vs us : List Value} (h : p.SameItems vs us) :
    Acts p.Stores Eq (Store.setItems a vs) (Store.setItems b us) :=
  fun _ _ hs => ⟨rfl, hs.setCell hab (.list h)⟩

theorem setEntries (hab : p.cells.At a b) {es fs : Entries Value} (h : p.SameEntries es fs) :
    Acts p.Stores Eq (Store.setEntries a es) (Store.setEntries b fs) :=
  fun _ _ hs => ⟨rfl, hs.setCell hab (.map h)⟩

theorem newLoop {v u : Value} (h : p.Same v u) :
    Acts p.Stores p.loops.At (Store.newLoop v) (Store.newLoop u) :=
  fun _ _ hs => ⟨.inr hs.loops.size, hs.cells, hs.loops.push ⟨rfl, rfl, rfl, h⟩, hs.calls⟩

theorem updateLoop {i j : Nat} (hij : p.loops.At i j) {f : LoopState → LoopState}
    (hf : ∀ l m, p.SameLoop l m → p.SameLoop (f l) (f m)) :
    Acts p.Stores Eq (Store.updateLoop i f) (Store.updateLoop j f) :=
  fun _ _ hs => ⟨rfl, hs.cells, hs.loops.modify hij hf, hs.calls⟩

theorem recordCall (call : Call) :
    Acts p.Stores Eq (Store.recordCall call) (Store.recordCall call) :=
  fun _ _ hs => ⟨rfl, hs.recordCall call⟩

end Acts

section

variable {s t : Store} {vs us : List Value} {hosts : Hosts}

theorem SameItems.getElem? (h : p.SameItems vs us) (n : Nat) : p.SameOption vs[n]? us[n]? := by
  induction h generalizing n with
  | nil => exact .none
  | cons h _ ih =>
      cases n with
      | zero => exact .some h
      | succ n => exact ih n

theorem SameItems.textArgument? (hs : p.Stores s t) (h : p.SameItems vs us) (n : Nat) :
    Value.textArgument? hosts s vs n = Value.textArgument? hosts t us n := by
  have arg := h.getElem? n
  simp only [Value.textArgument?]
  generalize vs[n]? = v at arg
  generalize us[n]? = u at arg
  cases arg with
  | none => rfl
  | some arg =>
      have text := arg.display hs hosts
      cases arg with
      | null => simp only
      | _ => simp only [text]

theorem SameItems.patternArgument? (hs : p.Stores s t) (h : p.SameItems vs us) (n : Nat) :
    Value.patternArgument? hosts s vs n = Value.patternArgument? hosts t us n := by
  simp only [Value.patternArgument?, h.textArgument? hs]

end

variable {hosts : Hosts} {vs us : List Value}

theorem bind_option {R : α → β → Prop} {Q : γ → δ → Prop} {o : Option α} {o' : Option β}
    {f : α → Option γ} {g : β → Option δ} (h : Option.Rel R o o')
    (hf : ∀ a b, R a b → Option.Rel Q (f a) (g b)) : Option.Rel Q (o >>= f) (o' >>= g) := by
  cases h with
  | none => exact .none
  | some h => exact hf _ _ h

theorem map_option {R : α → β → Prop} {Q : γ → δ → Prop} {o : Option α} {o' : Option β}
    {f : α → γ} {g : β → δ} (h : Option.Rel R o o') (hf : ∀ a b, R a b → Q (f a) (g b)) :
    Option.Rel Q (o.map f) (o'.map g) := by
  cases h with
  | none => exact .none
  | some h => exact .some (hf _ _ h)

theorem eq_option (o : Option α) : Option.Rel Eq o o := by
  cases o with
  | none => exact .none
  | some a => exact .some rfl

theorem eq_of_option {o o' : Option α} (h : Option.Rel Eq o o') : o = o' := by
  cases h with
  | none => rfl
  | some h => rw [h]

theorem map_eq_option {f : α → Value} (hf : ∀ a, p.Same (f a) (f a)) (o : Option α) :
    p.SameOption (o.map f) (o.map f) :=
  map_option (eq_option o) fun a _ h => h ▸ hf a

/-- Of a text there are only other texts, numbers and truth values to be told, and those do not
depend on places. -/
theorem Same.ofPlace (n : Option Nat) : p.Same (Value.ofPlace n) (Value.ofPlace n) := by
  cases n <;> exact .number _

theorem Same.index_option {v u : Value} (h : p.Same v u) : Option.Rel Eq v.index? u.index? :=
  h.index? ▸ eq_option _

theorem SameItems.texts (texts : List (List Char)) :
    p.SameItems (texts.map Value.ofChars) (texts.map Value.ofChars) := by
  induction texts with
  | nil => exact .nil
  | cons text _ ih => exact .cons (.text _) ih

theorem Acts.textMethod (cs : List Char) (name : String) (h : p.SameItems vs us) :
    Acts p.Stores p.SameOption (Value.textMethod? hosts cs name vs)
      (Value.textMethod? hosts cs name us) := by
  refine .get fun s t hs => ?_
  have first := h.getElem? 0
  have second := h.getElem? 1
  simp only [h.patternArgument? hs, h.textArgument? hs]
  split
  case h_1 | h_2 => exact pure (.some (.number _))
  case h_3 => exact pure (.some (.bool _))
  case h_4 | h_5 | h_6 | h_7 => exact pure (.some (.text _))
  case h_8 | h_9 | h_10 => exact pure (map_eq_option (fun _ => .bool _) _)
  case h_11 | h_12 => exact pure (map_eq_option (fun _ => .ofPlace _) _)
  case h_13 | h_18 | h_19 | h_20 => exact pure (map_eq_option (fun _ => .text _) _)
  case h_23 => exact pure .none
  -- what is left are the methods that look at an argument that is no text
  case h_14 => exact pure (map_option first fun _ _ h => h.text? ▸ .bool _)
  case h_15 => exact pure (map_option first fun _ _ h => by cases h <;> exact .bool _)
  case h_16 =>
    refine pure (bind_option first fun _ _ h => bind_option h.index_option fun n _ e => ?_)
    cases e
    split
    · exact .none
    · exact map_eq_option (fun _ => .text _) _
  case h_17 =>
    refine pure (bind_option first fun _ _ h => bind_option h.index_option fun n _ e => ?_)
    cases e
    generalize vs[1]? = v at second ⊢
    generalize us[1]? = u at second ⊢
    cases second with
    | none => exact .some (.text _)
    | some h => exact map_option h.index_option fun _ _ e => e ▸ .text _
  case h_21 =>
    refine pure (bind_option (eq_option _) fun _ _ e => bind_option (R := Eq) ?_ fun _ _ e' => ?_)
    · cases e
      exact eq_option _
    · cases e'
      exact .some (.bool _)
  case h_22 =>
    split
    · exact pure .none
    · exact bind (newList (.texts _)) fun _ _ h => pure (.some h)

theorem Same.place? {v u : Value} (h : p.Same v u) (length : Nat) :
    Value.place? length v = Value.place? length u := by
  simp only [Value.place?, h.index?]

theorem SameItems.insertAt (h : p.SameItems vs us) (n : Nat) {v u : Value} (hv : p.Same v u) :
    p.SameItems (Value.insertAt vs n v) (Value.insertAt us n u) :=
  List.rel_append (List.forall₂_take n h) (.cons hv (List.forall₂_drop n h))

theorem SameItems.eraseIdx (h : p.SameItems vs us) (n : Nat) :
    p.SameItems (vs.eraseIdx n) (us.eraseIdx n) := by
  rw [List.eraseIdx_eq_take_drop_succ, List.eraseIdx_eq_take_drop_succ]
  exact List.rel_append (List.forall₂_take n h) (List.forall₂_drop (n + 1) h)

theorem SameItems.find {s t : Store} (hosts : Hosts) (hs : p.Stores s t) (h : p.SameItems vs us)
    {v u : Value} (hv : p.Same v u) :
    (vs.findIdx? fun item => item.looseEq hosts s v) =
      us.findIdx? fun item => item.looseEq hosts t u := by
  induction h with
  | nil => rw [List.findIdx?_nil, List.findIdx?_nil]
  | cons h _ ih => simp only [List.findIdx?_cons, h.looseEq hs hosts hv, ih]

theorem SameOption.getD {o o' : Option Value} (h : p.SameOption o o') :
    p.Same (o.getD .null) (o'.getD .null) := by
  cases h with
  | none => exact .null
  | some h => exact h

theorem SameEntries.isEmpty {es fs : Entries Value} (h : p.SameEntries es fs) :
    List.isEmpty es = List.isEmpty fs := by
  cases h <;> rfl

theorem SameEntries.contains {es fs : Entries Value} (h : p.SameEntries es fs) (name : String) :
    Entries.contains name es = Entries.contains name fs := by
  have found := h.get? name
  simp only [Entries.contains]
  generalize Entries.get? name es = v at found
  generalize Entries.get? name fs = u at found
  cases found <;> rfl

theorem SameItems.names (names : List String) :
    p.SameItems (names.map .text) (names.map .text) := by
  induction names with
  | nil => exact .nil
  | cons name _ ih => exact .cons (.text _) ih

theorem Acts.newEntry {e f : String × Value} (h : p.SameEntry e f) :
    Acts p.Stores p.Same (Value.newEntry e) (Value.newEntry f) :=
  newMap (.cons ⟨rfl, h.1 ▸ .text _⟩ (.cons ⟨rfl, h.2⟩ .nil))

section

variable {a b : Address} (hab : p.cells.At a b)

include hab

theorem Acts.removeItem (h : p.SameItems vs us) (n : Nat) {v u : Option Value}
    (hv : p.SameOption v u) :
    Acts p.Stores p.SameOption
      (do Store.setItems a (vs.eraseIdx n); return v)
      (do Store.setItems b (us.eraseIdx n); return u) :=
  bind (setItems hab (h.eraseIdx n)) fun _ _ _ => pure hv

theorem Acts.listMethod (name : String) (h : p.SameItems vs us) :
    Acts p.Stores p.SameOption (Value.listMethod? hosts a name vs)
      (Value.listMethod? hosts b name us) := by
  refine .get fun s t hs => ?_
  have items := hs.items hab
  have first := h.getElem? 0
  simp only [items.length_eq, items.isEmpty, (Same.list hab).display hs]
  split
  case h_1 => exact pure (.some (.number _))
  case h_2 => exact pure (.some (.bool _))
  case h_3 => exact pure (.some (.text _))
  case h_4 =>
    refine pure (bind_option first fun v u h => ?_)
    rw [h.place?]
    refine bind_option (eq_option _) ?_
    rintro n _ rfl
    exact items.getElem? n
  case h_5 => exact pure (map_option first fun _ _ h => items.find hosts hs h ▸ .bool _)
  case h_6 => exact pure (map_option first fun _ _ h => items.find hosts hs h ▸ .ofPlace _)
  case h_7 =>
    -- `add`, by the number of arguments
    rcases h with _ | ⟨hv, _ | ⟨hv', _ | _⟩⟩
    · exact pure .none
    · exact bind (setItems hab (List.rel_append items (.cons hv .nil))) fun _ _ _ =>
        pure (.some (.bool _))
    · simp only [hv.index?]
      split
      · split
        · exact bind (setItems hab (items.insertAt _ hv')) fun _ _ _ => pure (.some .null)
        · exact pure .none
      · exact pure .none
    · exact pure .none
  case h_8 =>
    -- `remove`, by place or by value
    cases h with
    | nil => exact pure .none
    | cons hv _ =>
        have found := items.find hosts hs hv
        cases hv with
        | number x =>
            dsimp only
            split
            · exact removeItem hab items _ (items.getElem? _)
            · exact pure .none
        | _ =>
            dsimp only
            rw [found]
            split
            · exact removeItem hab items _ (.some (.bool _))
            · exact pure (.some (.bool _))
  case h_9 => exact pure .none

theorem Acts.mapMethod (name : String) (h : p.SameItems vs us) :
    Acts p.Stores p.SameOption (Value.mapMethod? hosts a name vs)
      (Value.mapMethod? hosts b name us) := by
  refine .get fun s t hs => ?_
  have entries := hs.entries hab
  have key : vs[0]?.map (Value.display hosts s) = us[0]?.map (Value.display hosts t) :=
    eq_of_option (map_option (h.getElem? 0) fun _ _ h => h.display hs hosts)
  have second := h.getElem? 1
  simp only [entries.length_eq, entries.isEmpty, entries.keys, (Same.map hab).display hs, key]
  split
  case h_1 => exact pure (.some (.number _))
  case h_2 => exact pure (.some (.bool _))
  case h_3 => exact pure (.some (.text _))
  case h_4 =>
    refine pure (map_option (eq_option _) ?_)
    rintro key _ rfl
    exact (entries.get? key).getD
  case h_5 =>
    refine pure (map_option (eq_option _) ?_)
    rintro key _ rfl
    exact entries.contains key ▸ .bool _
  case h_6 =>
    split
    · exact pure .none
    · exact bind (setEntries hab (entries.put _ second.getD)) fun _ _ _ =>
        pure (.some (entries.get? _).getD)
  case h_7 =>
    split
    · exact pure .none
    · exact bind (setEntries hab (entries.erase _)) fun _ _ _ =>
        pure (.some (entries.get? _).getD)
  case h_8 => exact bind (newList (.names _)) fun _ _ h => pure (.some h)
  case h_9 => exact bind (newList entries.values) fun _ _ h => pure (.some h)
  case h_10 =>
    exact bind (mapM entries fun _ _ h => newEntry h) fun _ _ h =>
      bind (newList h) fun _ _ h => pure (.some h)
  case h_11 => exact pure .none

end

/-! ### Objects -/

theorem SameLoop.property? {l m : LoopState} (h : p.SameLoop l m) (name : String) :
    p.SameOption (l.property? name) (m.property? name) := by
  simp only [LoopState.property?, LoopState.count, h.index, h.hasNext]
  split
  case h_1 | h_2 => exact .some (.number _)
  case h_3 | h_4 | h_5 => exact .some (.bool _)
  case h_6 => exact .some h.parent
  case h_7 => exact .none

/-- A method that knows nothing but its arguments: at other places it does the same. Hence what it
answers is made of its arguments, scalars, and lists and maps of its own. -/
def Uniform (method : HostMethod) : Prop :=
  ∀ (p : Placement) (vs us : List Value), p.SameItems vs us →
    Acts p.Stores p.Same (method vs) (method us)

theorem SameItems.display {s t : Store} (hs : p.Stores s t) (h : p.SameItems vs us) :
    vs.map (Value.display hosts s) = us.map (Value.display hosts t) :=
  map_eq_map h fun _ _ h => h.display hs hosts

theorem uniform_concat (hosts : Hosts) : Uniform (HostMethod.concat hosts) := fun _ _ _ h =>
  .get fun _ _ hs => by rw [h.display hs]; exact .pure (.text _)

/-- What the host objects within reach have to do with the renders. -/
structure Serves (p : Placement) (hosts : Hosts) : Prop where
  property {n : Nat} {o : HostObject} (hn : p.host n) (ho : hosts.objects[n]? = some o) :
    ∀ v ∈ o.properties.values, p.Same v v
  method {n : Nat} {o : HostObject} (hn : p.host n) (ho : hosts.objects[n]? = some o) :
    ∀ method ∈ o.methods.values, Uniform method

theorem mem_values_of_get? {entries : Entries α} {name : String} {a : α}
    (h : entries.get? name = some a) : a ∈ entries.values := by
  induction entries with
  | nil => simp [Entries.get?] at h
  | cons entry rest ih =>
      simp only [Entries.get?] at h
      simp only [Entries.values, List.map_cons, List.mem_cons]
      split at h
      · exact .inl (Option.some.inj h).symm
      · exact .inr (ih h)

theorem Acts.run {o : HostObject} {method : HostMethod} (hm : Uniform method) (name : String)
    (h : p.SameItems vs us) :
    Acts p.Stores p.Same (o.run hosts name method vs) (o.run hosts name method us) :=
  .get fun _ _ hs => by
    rw [h.display hs]
    exact bind (recordCall _) fun _ _ _ => hm p _ _ h

section

variable (hh : p.Serves hosts)

include hh

theorem Acts.objectProperty {id id' : ObjectId} (h : p.Same (.object id) (.object id'))
    (name : String) :
    Acts p.Stores p.SameOption (id.property? hosts name) (id'.property? hosts name) := by
  cases h with
  | loop h => exact .get fun s t hs => pure ((hs.loopState h).property? name)
  | @host n hn =>
      simp only [ObjectId.property?]
      split
      next o ho =>
        simp only [HostObject.property?]
        split
        next v hv => exact pure (.some (hh.property hn ho v (mem_values_of_get? hv)))
        next =>
          split
          next method hm =>
            exact bind (run (hh.method hn ho method (mem_values_of_get? hm)) _ .nil)
              fun _ _ h => pure (.some h)
          next => exact pure .none
      next => exact pure .none

theorem Acts.objectMethod {id id' : ObjectId} (h : p.Same (.object id) (.object id'))
    (name : String) (ha : p.SameItems vs us) :
    Acts p.Stores p.SameOption (id.invoke? hosts name vs) (id'.invoke? hosts name us) := by
  cases h with
  | loop h =>
      simp only [ObjectId.invoke?, ha.isEmpty]
      split
      · exact bind (updateLoop h fun _ _ h => ⟨h.index, h.hasNext, rfl, h.parent⟩)
          fun _ _ _ => pure (.some .null)
      · split
        · refine .get fun s t hs => pure (bind_option (eq_option _) ?_)
          rintro property _ rfl
          exact (hs.loopState h).property? property
        · exact pure .none
  | @host n hn =>
      simp only [ObjectId.invoke?]
      split
      next o ho =>
        simp only [HostObject.invoke?, ha.isEmpty]
        split
        next method hm =>
          exact bind (run (hh.method hn ho method (mem_values_of_get? hm)) _ ha)
            fun _ _ h => pure (.some h)
        next =>
          split
          · refine pure (bind_option (eq_option _) ?_)
            rintro property _ rfl
            generalize hv : o.properties.get? property = v
            cases v with
            | none => exact .none
            | some v => exact .some (hh.property hn ho v (mem_values_of_get? hv))
          · exact pure .none
      next => exact pure .none

/-! ### All values -/

theorem Acts.invoke {v u : Value} (h : p.Same v u) (name : String) (ha : p.SameItems vs us) :
    Acts p.Stores p.SameOption (v.invoke? hosts name vs) (u.invoke? hosts name us) := by
  cases h with
  | null => exact pure .none
  | bool b =>
      simp only [Value.invoke?]
      split
      · exact pure (.some (.text _))
      · exact pure (.some (.bool _))
      · exact pure .none
  | number x =>
      simp only [Value.invoke?]
      split
      case h_1 | h_2 | h_3 => exact pure (.some (.number _))
      case h_4 => exact pure (.some (.text _))
      case h_5 => exact pure .none
  | text t => exact textMethod _ name ha
  | list h => exact listMethod h name ha
  | map h => exact mapMethod h name ha
  | loop h => exact objectMethod hh (.loop h) name ha
  | host h => exact objectMethod hh (.host h) name ha

theorem Acts.accessors {v u : Value} (h : p.Same v u) (name : String) :
    Acts p.Stores p.SameOption
      (do
        if name.isEmpty then return none
        match ← v.invoke? hosts (Accessor.getter name) [] with
        | some found => return some found
        | none => v.invoke? hosts (Accessor.tester name) [])
      (do
        if name.isEmpty then return none
        match ← u.invoke? hosts (Accessor.getter name) [] with
        | some found => return some found
        | none => u.invoke? hosts (Accessor.tester name) []) := by
  split
  · exact pure .none
  · refine bind (invoke hh h _ .nil) fun found found' hf => ?_
    cases hf with
    | some hf => exact pure (.some hf)
    | none => exact invoke hh h _ .nil

theorem Acts.property {v u : Value} (h : p.Same v u) (name : String) :
    Acts p.Stores p.SameOption (v.property? hosts name) (u.property? hosts name) := by
  cases h with
  | null => exact pure .none
  | map h => exact .get fun s t hs => pure ((hs.entries h).get? name)
  | loop h => exact objectProperty hh (.loop h) name
  | host h => exact objectProperty hh (.host h) name
  | bool b => exact accessors hh (.bool b) name
  | number x => exact accessors hh (.number x) name
  | text t => exact accessors hh (.text t) name
  | list h => exact accessors hh (.list h) name

theorem Acts.index {v u key key' : Value} (h : p.Same v u) (hk : p.Same key key') :
    Acts p.Stores p.SameOption (v.index hosts key) (u.index hosts key') := by
  refine .get fun s t hs => ?_
  have object {id id' : ObjectId} (h : p.Same (.object id) (.object id')) :
      Acts p.Stores p.SameOption
        (do
          match ← id.invoke? hosts "get" [key] with
          | some found => return some found
          | none => id.property? hosts (key.display hosts (← MonadState.get)))
        (do
          match ← id'.invoke? hosts "get" [key'] with
          | some found => return some found
          | none => id'.property? hosts (key'.display hosts (← MonadState.get))) := by
    refine bind (objectMethod hh h "get" (.cons hk .nil)) fun found found' hf => ?_
    cases hf with
    | some hf => exact pure (.some hf)
    | none => exact .get fun s t hs => hk.display hs hosts ▸ objectProperty hh h _
  cases h with
  | list h =>
      have items := hs.items h
      simp only [items.length_eq, hk.place?]
      refine pure (bind_option (eq_option _) ?_)
      rintro n _ rfl
      exact items.getElem? n
  | map h =>
      simp only [hk.display hs]
      exact pure ((hs.entries h).get? _)
  | loop h => exact object (.loop h)
  | host h => exact object (.host h)
  | _ => exact pure .none

end

end Template.Placement

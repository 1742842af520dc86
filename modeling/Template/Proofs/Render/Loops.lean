import Template.Proofs.Render.ScopeBalance
import Template.Proofs.Render.Turns

/-!
The law of loops. The items are fixed at the start; the body runs for each of them in turn, in a
scope of its own, until there are as many passes as the limit allows or one of them ends the loop.
-/

namespace Template

namespace Items

theorem integers_self (n : Int) : integers n n = [n] := by
  simp [integers]

theorem integers_of_ne {first last : Int} (h : first ≠ last) :
    integers first last = first :: integers (towards first last) last := by
  have size : (last - first).natAbs = (last - towards first last).natAbs + 1 := by
    unfold towards
    split <;> omega
  simp only [integers, size]
  rw [List.range_succ_eq_map, List.map_cons, List.map_map]
  congr 1
  · simp
  · refine List.map_congr_left fun k hk => ?_
    have within := List.mem_range.1 hk
    simp only [Function.comp, towards] at within ⊢
    split <;> split <;> split at within <;> omega

theorem toList_of_none {items : Items} (h : items.next? = none) : items.toList = [] := by
  cases items with
  | values vs =>
      cases vs with
      | nil => rfl
      | cons v vs => cases h
  | range n last => cases h

theorem toList_of_some {items rest : Items} {v : Value} (h : items.next? = some (v, rest)) :
    items.toList = v :: rest.toList := by
  cases items with
  | values vs =>
      cases vs with
      | nil => cases h
      | cons v vs =>
          cases h
          rfl
  | range n last =>
      cases h
      by_cases hn : n = last
      · simp only [toList, hn, integers_self, if_true, List.map_singleton]
      · simp only [toList, integers_of_ne hn, if_neg hn, List.map_cons]

theorem isEmpty_eq (items : Items) : items.isEmpty = items.toList.isEmpty := by
  unfold isEmpty
  cases h : items.next? with
  | none => rw [toList_of_none h]; rfl
  | some next => rw [toList_of_some h]; rfl

end Items

namespace Rendering

variable {ω : Type}

/-- What a value offers to a loop. -/
def itemsOf (s : Store) : Value → List Value
  | .null => []
  | .list a => s.items a
  | .map a => (s.entries a).values
  | v => [v]

/-- The whole numbers from one bound to the other, upwards or downwards. -/
def numbersBetween (first last : Value) : List Value :=
  match first.index?, last.index? with
  | some m, some n => (Items.integers m n).map .ofInt
  | _, _ => []

/-- The items of a loop, as they are when it starts. A range is not made into a list first. -/
def loopItems (env : Observed ω) (deeper : Frame → Rendering ω Rendered) :
    Tree.Expr → Rendering ω (List Value)
  | .range first last _ => do
    let a ← evaluate env deeper first
    let b ← evaluate env deeper last
    return numbersBetween a b
  | iterable => do
    let v ← evaluate env deeper iterable
    return itemsOf (← get).store v

/-- A pass through the body of a loop: where it began, what had been seen until then, and how the
body ended. -/
structure Pass (ω : Type) where
  start : State
  seen : ω
  out : (Except RenderError Rendered × State) × ω

namespace Pass

def text (p : Pass ω) : String :=
  match p.out.1.1 with
  | .ok r => r.text
  | .error _ => ""

/-- The body came to its end, and nothing has stopped the loop. -/
structure GoesOn (number : Nat) (p : Pass ω) : Prop where
  normal : ∃ text, p.out.1.1 = .ok ⟨.normal, text⟩
  running : (p.out.1.2.store.loop number).stopped = false

end Pass

/-- Where the pass after `passes` begins, but for its scope and its turn: at the start of the loop,
or where the pass before has ended. -/
def reached (entry : State) (w : ω) (passes : List (Pass ω)) : State × ω :=
  match passes.getLast? with
  | none => (entry, w)
  | some p => ({ p.out.1.2 with scopes := entry.scopes }, p.out.2)

/-- The scope of the pass for an item, where `index` have been made. -/
def passScope (item : String) (number index : Nat) (value : Value) : Entries Value :=
  [(item, value), ("foreach", .object (.loop number)), ("velocityCount", .ofNat (index + 1))]

/-- The loop takes its next turn, and the scope of the pass is opened. -/
def beginPass (item : String) (number index : Nat) (hasNext : Bool) (value : Value) (s : State) :
    State :=
  { s with
    store := (Store.updateLoop number (·.advance index hasNext) s.store).2
    scopes := { s.scopes with inner := passScope item number index value :: s.scopes.inner } }

/-- What the object of a loop tells in pass `i` of `total`. -/
structure Tells (hosts : Hosts) (number i total : Nat) (s : Store) : Prop where
  index : (Value.object (.loop number)).property? hosts "index" s = (some (.ofNat i), s)
  count : (Value.object (.loop number)).property? hosts "count" s = (some (.ofNat (i + 1)), s)
  first : (Value.object (.loop number)).property? hosts "first" s =
    (some (.bool (decide (i = 0))), s)
  hasNext : (Value.object (.loop number)).property? hosts "hasNext" s =
    (some (.bool (decide (i + 1 < total))), s)
  last : (Value.object (.loop number)).property? hosts "last" s =
    (some (.bool (!decide (i + 1 < total))), s)

/-- The first passes of a loop over the planned items. It runs `body` and was entered with the state
`entry`. -/
structure Passes (hosts : Hosts) (item : String) (body : Rendering ω Rendered) (number : Nat)
    (planned : List Value) (entry : State) (w : ω) (passes : List (Pass ω)) : Prop where
  /-- There is an item for each pass; it begins where the pass before has ended. -/
  starts : ∀ i p, passes[i]? = some p → ∃ v, planned[i]? = some v ∧
    p.start = beginPass item number i (decide (i + 1 < planned.length)) v
      (reached entry w (passes.take i)).1 ∧
    p.seen = (reached entry w (passes.take i)).2
  runs : ∀ p ∈ passes, p.out = body p.start p.seen
  /-- The object of the loop tells the turn, whatever loops have run inside. -/
  tells : ∀ i p, passes[i]? = some p → Tells hosts number i planned.length p.start.store ∧
    Tells hosts number i planned.length p.out.1.2.store
  unstopped : ∀ p ∈ passes, (p.start.store.loop number).stopped = false
  /-- After a pass that does not go on there is no other. -/
  followed : ∀ p ∈ passes.dropLast, p.GoesOn number

/-- The texts of passes, one after the other. -/
def passTexts (passes : List (Pass ω)) : String := String.join (passes.map Pass.text)

/-- What the passes of a loop answer together. -/
def loopResult (passes : List (Pass ω)) : Except RenderError Rendered :=
  match passes.getLast? with
  | none => .ok .empty
  | some p => p.out.1.1.map fun r =>
      { r.absorbLeave with text := passTexts passes }

theorem tells_of_turn {hosts : Hosts} {number i total : Nat} {s : Store}
    (hi : (s.loop number).index = i) (hn : (s.loop number).hasNext = decide (i + 1 < total)) :
    Tells hosts number i total s := by
  have read (name : String) : (Value.object (.loop number)).property? hosts name s =
      ((s.loop number).property? name, s) := rfl
  subst hi
  refine ⟨read _, read _, read _, ?_, ?_⟩
  · rw [read, LoopState.property?, hn]
  · rw [read, LoopState.property?, hn]

theorem setAll_passScope {item : String} (hf : item ≠ "foreach") (hc : item ≠ "velocityCount")
    (number index : Nat) (value : Value) (s : State) :
    State.setAll [item, "foreach", "velocityCount"]
        [value, .object (.loop number), .ofNat (index + 1)]
        { s with scopes := s.scopes.push } =
      { s with scopes := { s.scopes with
          inner := passScope item number index value :: s.scopes.inner } } := by
  simp [State.setAll, State.set, Scopes.set, Scopes.push, Entries.put, passScope, hf, hc]

theorem pass_run {item : String} (hf : item ≠ "foreach") (hc : item ≠ "velocityCount")
    {number index : Nat} {value : Value} {body : Rendering ω Rendered} {s t : State} {w : ω}
    (ht : t = { s with scopes := { s.scopes with
      inner := passScope item number index value :: s.scopes.inner } })
    (hb : t.Returns (body t w).1.2) :
    pass item number index value body s w =
      (((body t w).1.1, { (body t w).1.2 with scopes := s.scopes }), (body t w).2) := by
  have run : (modify (State.setAll [item, "foreach", "velocityCount"]
      [value, .object (.loop number), .ofNat (index + 1)]) >>= fun _ => body)
      { s with scopes := s.scopes.push } w = body t w := by
    rw [bind_run, modify_run, setAll_passScope hf hc, ← ht]
  have returns : State.Returns { s with scopes := s.scopes.push } (body t w).1.2 := by
    subst ht
    exact ⟨hb.outer, hb.depth, hb.loops, hb.callDepth, hb.parseDepth⟩
  rw [pass, inScope_run, run, closeScope_of_returns returns]

theorem reached_snoc (entry : State) (w : ω) (passes : List (Pass ω)) (p : Pass ω) :
    reached entry w (passes ++ [p]) = ({ p.out.1.2 with scopes := entry.scopes }, p.out.2) := by
  simp [reached]

theorem reached_scopes (entry : State) (w : ω) (passes : List (Pass ω)) :
    (reached entry w passes).1.scopes = entry.scopes := by
  unfold reached
  split <;> rfl

/-- The loop is there and may take its next turn. -/
structure Ready (number : Nat) (s : Store) : Prop where
  exists_loop : number < s.loops.size
  running : (s.loop number).stopped = false

theorem Ready.advance {number : Nat} {s : Store} (h : Ready number s) (index : Nat)
    (hasNext : Bool) :
    Ready number (Store.updateLoop number (·.advance index hasNext) s).2 ∧
      ((Store.updateLoop number (·.advance index hasNext) s).2.loop number).index = index ∧
      ((Store.updateLoop number (·.advance index hasNext) s).2.loop number).hasNext = hasNext := by
  have turn := Store.loop_updateLoop s number number (·.advance index hasNext) h.exists_loop
  rw [if_pos rfl] at turn
  refine ⟨⟨?_, ?_⟩, ?_, ?_⟩
  · exact Nat.lt_of_lt_of_le h.exists_loop (Nat.le_of_eq (Array.size_modify ..).symm)
  · rw [turn]
    exact h.running
  · rw [turn, LoopState.advance]
  · rw [turn, LoopState.advance]

section

variable {hosts : Hosts} {item : String} {body : Rendering ω Rendered} {number : Nat}
  {planned : List Value} {entry : State} {w : ω} {made : List (Pass ω)}

theorem Passes.nil : Passes hosts item body number planned entry w [] where
  starts := by simp
  runs := by simp
  tells := by simp
  unstopped := by simp
  followed := by simp

/-- The pass for the item `v` after those that have been made. -/
def nextPass (item : String) (body : Rendering ω Rendered) (number : Nat) (total : Nat)
    (entry : State) (w : ω) (made : List (Pass ω)) (v : Value) : Pass ω :=
  let (s, seen) := reached entry w made
  let start := beginPass item number made.length (decide (made.length + 1 < total)) v s
  ⟨start, seen, body start seen⟩

theorem Ready.nextPass (ready : Ready number (reached entry w made).1.store)
    (keeps : ∀ s, KeepsTurns s body) {total : Nat} {v : Value}
    (goesOn : (nextPass item body number total entry w made v).GoesOn number) :
    Ready number
      (reached entry w (made ++ [Rendering.nextPass item body number total entry w made v])).1.store := by
  rw [reached_snoc]
  refine ⟨?_, goesOn.running⟩
  have kept := keeps _ (Rendering.nextPass item body number total entry w made v).start
    (Rendering.nextPass item body number total entry w made v).seen (Footprint.turns.refl _)
  exact Nat.lt_of_lt_of_le (ready.advance _ _).1.exists_loop kept.1

private theorem getElem?_snoc {α : Type} {as : List α} {a b : α} {i : Nat}
    (h : (as ++ [a])[i]? = some b) :
    (i < as.length ∧ as[i]? = some b) ∨ (i = as.length ∧ b = a) := by
  rw [List.getElem?_append] at h
  split at h
  next hi => exact .inl ⟨hi, h⟩
  next hi =>
    obtain ⟨hi', hb⟩ := List.getElem?_eq_some_iff.1 h
    simp only [List.length_singleton] at hi'
    simp only [List.getElem_singleton] at hb
    exact .inr ⟨by omega, hb.symm⟩

/-- One more pass, if those before it go on. -/
theorem Passes.snoc (h : Passes hosts item body number planned entry w made)
    (goesOn : ∀ p ∈ made, p.GoesOn number) {v : Value} (hv : planned[made.length]? = some v)
    (ready : Ready number (reached entry w made).1.store)
    (keeps : ∀ s, KeepsTurns s body) :
    Passes hosts item body number planned entry w
      (made ++ [nextPass item body number planned.length entry w made v]) := by
  obtain ⟨p, hp⟩ : ∃ p, nextPass item body number planned.length entry w made v = p := ⟨_, rfl⟩
  have start : p.start = beginPass item number made.length
      (decide (made.length + 1 < planned.length)) v (reached entry w made).1 := by rw [← hp]; rfl
  have seen : p.seen = (reached entry w made).2 := by rw [← hp]; rfl
  have out : p.out = body p.start p.seen := by rw [← hp]; rfl
  obtain ⟨begun, index, hasNext⟩ := ready.advance made.length
    (decide (made.length + 1 < planned.length))
  rw [show (Store.updateLoop number _ _).2 = p.start.store by rw [start]; rfl] at begun index hasNext
  have turn : (p.start.store.loop number).SameTurn (p.out.1.2.store.loop number) := by
    rw [out]
    exact (keeps p.start.store p.start p.seen (Footprint.turns.refl _)).2 number begun.exists_loop
  rw [hp]
  refine ⟨?_, ?_, ?_, ?_, ?_⟩
  · intro i q hq
    rcases getElem?_snoc hq with ⟨hi, hq⟩ | ⟨rfl, rfl⟩
    · rw [List.take_append_of_le_length (Nat.le_of_lt hi)]
      exact h.starts i q hq
    · rw [List.take_left]
      exact ⟨v, hv, start, seen⟩
  · intro q hq
    rcases List.mem_append.1 hq with hq | hq
    · exact h.runs q hq
    · rw [List.mem_singleton.1 hq]
      exact out
  · intro i q hq
    rcases getElem?_snoc hq with ⟨hi, hq⟩ | ⟨rfl, rfl⟩
    · exact h.tells i q hq
    · exact ⟨tells_of_turn index hasNext,
        tells_of_turn (turn.index.trans index) (turn.hasNext.trans hasNext)⟩
  · intro q hq
    rcases List.mem_append.1 hq with hq | hq
    · exact h.unstopped q hq
    · rw [List.mem_singleton.1 hq]
      exact begun.running
  · rw [List.dropLast_concat]
    exact goesOn

theorem Passes.length_le (h : Passes hosts item body number planned entry w made) :
    made.length ≤ planned.length := by
  refine Nat.le_of_not_lt fun hi => ?_
  obtain ⟨v, hv, -⟩ := h.starts _ _ (List.getElem?_eq_getElem hi)
  simp at hv

theorem passTexts_snoc (made : List (Pass ω)) (p : Pass ω) :
    passTexts (made ++ [p]) = passTexts made ++ p.text := by
  simp [passTexts, String.join]

theorem loopResult_of_goesOn (goesOn : ∀ p ∈ made, p.GoesOn number) :
    loopResult made = .ok (.ofText (passTexts made)) := by
  unfold loopResult
  split
  next none =>
    rw [List.getLast?_eq_none_iff.1 none]
    rfl
  next p last =>
    obtain ⟨text, normal⟩ := (goesOn p (List.mem_of_getLast? last)).normal
    rw [normal]
    rfl

theorem loopResult_snoc (made : List (Pass ω)) (p : Pass ω) :
    loopResult (made ++ [p]) = p.out.1.1.map fun r =>
      { r.absorbLeave with text := passTexts made ++ r.text } := by
  rw [loopResult, List.getLast?_concat]
  change (p.out.1.1.map fun r => { r.absorbLeave with text := passTexts (made ++ [p]) }) = _
  rw [passTexts_snoc]
  simp only [Pass.text]
  cases p.out.1.1 <;> rfl

/-- All passes of a loop: as many as there are planned items, unless one does not go on. -/
structure AllPasses (hosts : Hosts) (item : String) (body : Rendering ω Rendered) (number : Nat)
    (planned : List Value) (entry : State) (w : ω) (passes : List (Pass ω)) : Prop
    extends Passes hosts item body number planned entry w passes where
  complete : (∀ p ∈ passes, p.GoesOn number) → passes.length = planned.length

theorem passes_of_none {remaining index : Nat} {items : Items} (h : items.next? = none)
    (before : String) (s : State) (v : ω) :
    passes item number body (remaining + 1) index items before s v =
      ((.ok (.ofText before), s), v) := by
  simp only [passes, h]
  rfl

section

variable {remaining index : Nat} {items rest : Items} {value : Value} {before : String}
  {s t : State} {v v' : ω} {p : Pass ω}

theorem passes_of_some (h : items.next? = some (value, rest)) :
    passes item number body (remaining + 1) index items before s v =
      match pass item number index value body
        { s with store := (Store.updateLoop number
          (·.advance index (!rest.isEmpty && 0 < remaining)) s.store).2 } v with
      | ((.error e, t), v) => ((.error e, t), v)
      | ((.ok r, t), v) =>
        match r.flow with
        | .stop => ((.ok ⟨.stop, before ++ r.text⟩, t), v)
        | .leave => ((.ok (.ofText (before ++ r.text)), t), v)
        | .normal =>
          if (t.store.loop number).stopped then ((.ok (.ofText (before ++ r.text)), t), v)
          else passes item number body remaining (index + 1) rest (before ++ r.text) t v := by
  simp only [passes, h]
  rw [bind_run, onStore_run]
  dsimp only
  rw [bind_run]
  generalize pass item number index value body _ v = out
  obtain ⟨⟨r, t⟩, v'⟩ := out
  cases r with
  | error e => rfl
  | ok r =>
      obtain ⟨flow, text⟩ := r
      cases flow with
      | stop | leave => rfl
      | normal =>
          dsimp only
          rw [bind_run, get_run]
          dsimp only
          split <;> rfl

theorem passes_of_goesOn (h : items.next? = some (value, rest))
    (hp : pass item number index value body
      { s with store := (Store.updateLoop number
        (·.advance index (!rest.isEmpty && 0 < remaining)) s.store).2 } v = ((p.out.1.1, t), v'))
    (ht : t.store = p.out.1.2.store) (goesOn : p.GoesOn number) :
    passes item number body (remaining + 1) index items before s v =
      passes item number body remaining (index + 1) rest (before ++ p.text) t v' := by
  obtain ⟨text, normal⟩ := goesOn.normal
  rw [passes_of_some h, hp]
  simp only [Pass.text, normal, ht, goesOn.running]
  rfl

theorem passes_of_not_goesOn (h : items.next? = some (value, rest))
    (hp : pass item number index value body
      { s with store := (Store.updateLoop number
        (·.advance index (!rest.isEmpty && 0 < remaining)) s.store).2 } v = ((p.out.1.1, t), v'))
    (ht : t.store = p.out.1.2.store) (ends : ¬p.GoesOn number) :
    passes item number body (remaining + 1) index items before s v =
      ((p.out.1.1.map fun r => { r.absorbLeave with text := before ++ r.text }, t), v') := by
  rw [passes_of_some h, hp]
  cases hr : p.out.1.1 with
  | error e => rfl
  | ok r =>
      obtain ⟨flow, text⟩ := r
      cases flow with
      | stop | leave => rfl
      | normal =>
          have stopped : (t.store.loop number).stopped = true := by
            rw [ht]
            exact Bool.of_not_eq_false fun running => ends ⟨⟨text, hr⟩, running⟩
          simp only [stopped]
          rfl

end

/-- The next of the planned items, after `n` of them have been taken. -/
theorem planned_next {limit n remaining : Nat} {xs : List Value} {items rest : Items} {v : Value}
    (hi : items.toList = xs.drop n) (hr : n + (remaining + 1) = limit)
    (hn : items.next? = some (v, rest)) :
    (xs.take limit)[n]? = some v ∧ rest.toList = xs.drop (n + 1) ∧
      (!rest.isEmpty && decide (0 < remaining)) = decide (n + 1 < (xs.take limit).length) := by
  rw [Items.toList_of_some hn] at hi
  have left : xs.length - n = rest.toList.length + 1 := by
    rw [← List.length_drop, ← hi, List.length_cons]
  refine ⟨?_, ?_, ?_⟩
  · rw [List.getElem?_take_of_lt (by omega), ← List.head?_drop, ← hi, List.head?_cons]
  · rw [← List.drop_drop, ← hi]
    rfl
  · rw [Items.isEmpty_eq, Bool.eq_iff_iff, List.length_take]
    cases hl : rest.toList <;> simp [hl] at left ⊢ <;> omega

theorem nextPass_run (hf : item ≠ "foreach") (hc : item ≠ "velocityCount")
    (returns : ∀ (s : State) v, s.Returns (body s v).1.2) (number total : Nat) (entry : State)
    (w : ω) (made : List (Pass ω)) (v : Value) :
    let p := nextPass item body number total entry w made v
    let next := reached entry w (made ++ [p])
    let s := (reached entry w made).1
    let turn := Store.updateLoop number (·.advance made.length (decide (made.length + 1 < total)))
    pass item number made.length v body { s with store := (turn s.store).2 }
        (reached entry w made).2 = ((p.out.1.1, next.1), next.2) := by
  intro p next s turn
  have begins : p.start = { s with
      store := (turn s.store).2
      scopes := { s.scopes with inner := passScope item number made.length v :: s.scopes.inner } } :=
    rfl
  simp only [next, reached_snoc]
  rw [pass_run hf hc begins (returns _ _)]
  simp only [s, reached_scopes]
  rfl

/-- The passes that are still to be made after those that all went on. -/
theorem passes_eq {limit : Nat} {xs : List Value} (hf : item ≠ "foreach")
    (hc : item ≠ "velocityCount") (hp : planned = xs.take limit)
    (returns : ∀ (s : State) v, s.Returns (body s v).1.2) (keeps : ∀ s, KeepsTurns s body)
    (h : Passes hosts item body number planned entry w made) (goesOn : ∀ p ∈ made, p.GoesOn number)
    (ready : Ready number (reached entry w made).1.store) {items : Items}
    (hi : items.toList = xs.drop made.length) {remaining : Nat}
    (hr : made.length + remaining = limit) :
    ∃ all, AllPasses hosts item body number planned entry w all ∧
      passes item number body remaining made.length items (passTexts made)
          (reached entry w made).1 (reached entry w made).2 =
        ((loopResult all, (reached entry w all).1), (reached entry w all).2) := by
  have size : planned.length = min limit xs.length := by rw [hp, List.length_take]
  induction remaining generalizing made items with
  | zero =>
      have bound := h.length_le
      refine ⟨made, ⟨h, fun _ => by omega⟩, ?_⟩
      rw [loopResult_of_goesOn goesOn]
      rfl
  | succ remaining ih =>
      cases hn : items.next? with
      | none =>
          rw [Items.toList_of_none hn] at hi
          have beyond : xs.length ≤ made.length := List.drop_eq_nil_iff.1 hi.symm
          have bound := h.length_le
          refine ⟨made, ⟨h, fun _ => by omega⟩, ?_⟩
          rw [loopResult_of_goesOn goesOn, passes_of_none hn]
      | some next =>
          obtain ⟨v, rest⟩ := next
          obtain ⟨hv, behind, hasNext⟩ := planned_next hi hr hn
          rw [← hp] at hv hasNext
          let p := nextPass item body number planned.length entry w made v
          have more : Passes hosts item body number planned entry w (made ++ [p]) :=
            h.snoc goesOn hv ready keeps
          have run := nextPass_run hf hc returns number planned.length entry w made v
          rw [← hasNext] at run
          have store : (reached entry w (made ++ [p])).1.store = p.out.1.2.store := by
            rw [reached_snoc]
          by_cases goes : p.GoesOn number
          · have goesOn' : ∀ q ∈ made ++ [p], q.GoesOn number :=
              List.forall_mem_append.2 ⟨goesOn, List.forall_mem_singleton.2 goes⟩
            have length : (made ++ [p]).length = made.length + 1 := by simp
            rw [passes_of_goesOn hn run store goes, ← passTexts_snoc, ← length]
            exact ih more goesOn' (ready.nextPass keeps goes) (length ▸ behind) (by omega)
          · refine ⟨made ++ [p], ⟨more, fun all => absurd (all p (by simp)) goes⟩, ?_⟩
            rw [passes_of_not_goesOn hn run store goes, loopResult_snoc]

end

/-- A loop has been entered: its object is there, and it is the innermost one. -/
def enteredLoop (s : State) : State :=
  State.enterLoop s.store.loops.size
    { s with store := (Store.newLoop s.currentLoop s.store).2 }

theorem ready_enteredLoop (s : State) : Ready s.store.loops.size (enteredLoop s).store := by
  refine ⟨?_, ?_⟩
  · simp [enteredLoop, State.enterLoop, Store.newLoop]
  · simp [enteredLoop, State.enterLoop, Store.newLoop, Store.loop, Array.getD, LoopState.start]

theorem inLoop_run {α : Type} (body : Nat → Rendering ω α) (s : State) (w : ω) :
    inLoop body s w =
      (((body s.store.loops.size (enteredLoop s) w).1.1,
        (body s.store.loops.size (enteredLoop s) w).1.2.exitLoop),
        (body s.store.loops.size (enteredLoop s) w).2) := rfl

section

variable {hosts : Hosts} {item : String} {body otherwise : Rendering ω Rendered} {limit : Nat}
  {items : Items}

theorem forEach_of_nil (h : items.toList.take limit = []) :
    forEach limit item items body otherwise = otherwise := by
  have empty : (items.isEmpty || limit == 0) = true := by
    rw [Items.isEmpty_eq]
    rcases List.take_eq_nil_iff.1 h with h | h <;> simp [h]
  rw [forEach, if_pos empty]

theorem forEach_of_ne_nil (hf : item ≠ "foreach") (hc : item ≠ "velocityCount")
    (h : items.toList.take limit ≠ []) (returns : ∀ (s : State) v, s.Returns (body s v).1.2)
    (keeps : ∀ s, KeepsTurns s body) (s : State) (w : ω) :
    ∃ all, AllPasses hosts item body s.store.loops.size (items.toList.take limit)
        (enteredLoop s) w all ∧
      forEach limit item items body otherwise s w =
        ((loopResult all, (reached (enteredLoop s) w all).1.exitLoop),
          (reached (enteredLoop s) w all).2) := by
  have some : ¬(items.isEmpty || limit == 0) = true := by
    rw [Items.isEmpty_eq]
    intro empty
    refine h (List.take_eq_nil_iff.2 ?_)
    simpa [or_comm] using empty
  have start : Passes hosts item body s.store.loops.size (items.toList.take limit)
    (enteredLoop s) w [] := .nil
  obtain ⟨all, made, run⟩ := passes_eq hf hc rfl returns keeps start (by simp)
    (ready_enteredLoop s) (show items.toList = items.toList.drop 0 from rfl) (Nat.zero_add limit)
  refine ⟨all, made, ?_⟩
  rw [forEach, if_neg some, inLoop_run]
  exact congrArg (fun out => ((out.1.1, State.exitLoop out.1.2), out.2)) run

end

theorem toList_ofValue (s : Store) (v : Value) : (Items.ofValue s v).toList = itemsOf s v := by
  cases v <;> rfl

theorem toList_between (a b : Value) : (Items.between a b).toList = numbersBetween a b := by
  unfold Items.between numbersBetween
  cases a.index? with
  | none => rfl
  | some m => cases b.index? <;> rfl

variable {env : Observed ω} {deeper : Frame → Rendering ω Rendered} {item : String}
  {iterable : Tree.Expr} {body : List Tree.Node} {otherwise : Option (List Tree.Node)}
  {place : Region} {s t : State} {w v : ω}

theorem loopItems_eq : loopItems env deeper iterable =
    (do return (← startItems env deeper iterable).toList) := by
  cases iterable <;>
    simp only [loopItems, startItems, bind_assoc, pure_bind, toList_between, toList_ofValue]

/-- The items of a loop are those of its iterable; if that fails, so does the loop. -/
theorem renderNode_loop_of_error {e : RenderError}
    (h : loopItems env deeper iterable s w = ((.error e, t), v)) :
    renderNode env deeper (.loop item iterable body otherwise place) s w = ((.error e, t), v) := by
  rw [loopItems_eq, bind_run] at h
  rw [renderNode_loop, bind_run]
  revert h
  generalize startItems env deeper iterable s w = out
  obtain ⟨⟨r, t'⟩, v'⟩ := out
  intro h
  cases r with
  | error e =>
      cases h
      rfl
  | ok items => cases h

theorem renderNode_loop_of_ok {xs : List Value}
    (h : loopItems env deeper iterable s w = ((.ok xs, t), v)) :
    ∃ items : Items, items.toList = xs ∧
      renderNode env deeper (.loop item iterable body otherwise place) s w =
        forEach env.options.maxPasses item items (renderNodes env deeper body)
          (renderOtherwise env deeper otherwise) t v := by
  rw [loopItems_eq, bind_run] at h
  rw [renderNode_loop, bind_run]
  revert h
  generalize startItems env deeper iterable s w = out
  obtain ⟨⟨r, t'⟩, v'⟩ := out
  intro h
  cases r with
  | error e => cases h
  | ok items =>
      cases h
      exact ⟨items, rfl, rfl⟩

end Rendering

open Rendering in
/-- A loop goes through the items that its iterable has at the start, as many as the limit allows.
The body runs for each in turn, in a scope of its own, and what it does to the iterable has no
influence; a pass that does not go on is the last. What is there instead of the body is rendered
once if there is nothing to go through, and not otherwise. The object of the loop is stopped by its
method `stop`, and stays so. -/
theorem foreach_law {ω : Type} (env : Observed ω) (hh : env.hosts.KeepTurns) (frames : Nat)
    {item : String} (hf : item ≠ "foreach") (hc : item ≠ "velocityCount") (iterable : Tree.Expr)
    (body : List Tree.Node) (otherwise : Option (List Tree.Node)) (place : Region) (s : State)
    (w : ω) :
    let deeper := renderFrame env frames
    let loop := renderNode env deeper (.loop item iterable body otherwise place)
    (∀ e t v, loopItems env deeper iterable s w = ((.error e, t), v) →
      loop s w = ((.error e, t), v)) ∧
    (∀ xs t v, loopItems env deeper iterable s w = ((.ok xs, t), v) →
      let planned := xs.take env.options.maxPasses
      (planned = [] → loop s w = renderOtherwise env deeper otherwise t v) ∧
      (planned ≠ [] → ∃ all,
        AllPasses env.hosts item (renderNodes env deeper body) t.store.loops.size planned
          (enteredLoop t) v all ∧
        loop s w = ((loopResult all, (reached (enteredLoop t) v all).1.exitLoop),
          (reached (enteredLoop t) v all).2))) ∧
    (∀ number (store : Store) arguments, number < store.loops.size →
      (((Value.object (.loop number)).invoke? env.hosts "stop" arguments store).2.loop
        number).stopped = true) ∧
    (∀ number nodes (t : State) v, number < t.store.loops.size →
      (t.store.loop number).stopped = true →
      ((renderNodes env deeper nodes t v).1.2.store.loop number).stopped = true) := by
  intro deeper loop
  have keeps (nodes : List Tree.Node) (store : Store) :
      KeepsTurns store (renderNodes env deeper nodes) :=
    (agreement_keepsTurns env hh store).nodes frames nodes
  have returns (t : State) (v : ω) : t.Returns (renderNodes env deeper body t v).1.2 :=
    ((agreement_always env).nodes frames body t v).returns
  refine ⟨fun e t v => renderNode_loop_of_error, ?_, ?_, ?_⟩
  · intro xs t v h planned
    obtain ⟨items, rfl, run⟩ : ∃ items : Items, items.toList = xs ∧ loop s w =
        forEach env.options.maxPasses item items (renderNodes env deeper body)
          (renderOtherwise env deeper otherwise) t v := renderNode_loop_of_ok h
    rw [run]
    refine ⟨fun none => by rw [forEach_of_nil none], fun some => ?_⟩
    exact forEach_of_ne_nil hf hc some returns (keeps body) t v
  · intro number store arguments hn
    have turn := Store.loop_updateLoop store number number (fun l => { l with stopped := true }) hn
    rw [if_pos rfl] at turn
    exact congrArg LoopState.stopped turn
  · intro number nodes t v hn stopped
    exact ((keeps nodes t.store t v (Footprint.turns.refl _)).2 number hn).stopped stopped

/-- An object with a method that answers its argument. -/
def HostObject.echo : HostObject := ⟨"echo", [], [("say", HostMethod.first)]⟩

/-- Three items are one more than the limit, so the body is printed twice. -/
theorem foreach_law_capped :
    let env : Observed Unit :=
      Environment.unobserved ⟨{ Options.standard with maxPasses := 2 }, .none, .ofObjects #[.echo]⟩
    let body : List Tree.Node := [.text "a" default]
    let s := State.initial .standard [("x", .list 0)] ⟨#[.list [.null, .text "b", .null]], #[], #[]⟩
    ∃ all, Rendering.AllPasses env.hosts "i"
        (Rendering.renderNodes env (Rendering.renderFrame env 1) body) 0 [.null, .text "b"]
        (Rendering.enteredLoop s) () all ∧
      Rendering.loopResult all = .ok (.ofText "aa") := by
  intro env body s
  have keeps : env.hosts.KeepTurns := by
    intro o ho name method hm arguments
    obtain rfl : o = .echo := by simpa [env, Environment.unobserved, Hosts.ofObjects] using ho
    simp only [HostObject.echo, Entries.get?] at hm
    split at hm
    · cases hm
      exact Footprint.pure _
    · cases hm
  obtain ⟨-, law, -⟩ := foreach_law env keeps 1 (show "i" ≠ "foreach" by decide)
    (show "i" ≠ "velocityCount" by decide) (.reference "x" false default) body none default s ()
  have some : [Value.null, .text "b"] ≠ [] := by simp
  obtain ⟨all, made, result⟩ := (law [.null, .text "b", .null] s () rfl).2 some
  exact ⟨all, made, (congrArg (fun out => out.1.1) result).symm⟩

end Template

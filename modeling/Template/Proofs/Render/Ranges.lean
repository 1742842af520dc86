import Mathlib.Algebra.Group.Int.Defs
import Template.Proofs.Number.Whole
import Template.Proofs.Render.Loops

/-!
Ranges to their end. What a loop goes through gives its items one by one and then no more, and some
of the first items are the beginning of all of them. A range can be kept in words of 64 bits, with a
mark for the last number: it never counts beyond its bounds, so no sum leaves the words.
-/

namespace Template.Items

/-- Asked again and again, the items give the values in turn, and then there is none. -/
inductive Yields : Items → List Value → Prop
  | done {items : Items} (h : items.next? = none) : Yields items []
  | more {items rest : Items} {v : Value} {vs : List Value} (h : items.next? = some (v, rest))
      (hr : Yields rest vs) : Yields items (v :: vs)

theorem yields_toList (items : Items) : items.Yields items.toList := by
  generalize hl : items.toList = vs
  induction vs generalizing items with
  | nil =>
      cases h : items.next? with
      | none => exact .done h
      | some next =>
          rw [toList_of_some h] at hl
          cases hl
  | cons v vs ih =>
      cases h : items.next? with
      | none =>
          rw [toList_of_none h] at hl
          cases hl
      | some next =>
          rw [toList_of_some h] at hl
          obtain ⟨first, rest⟩ := List.cons.inj hl
          subst first
          exact .more h (ih next.2 rest)

/-- Taking some items splits the list of all. -/
theorem splitAt_toList (n : Nat) (items : Items) :
    (splitAt n items).1 = items.toList.take n ∧
      (splitAt n items).2.toList = items.toList.drop n := by
  induction n generalizing items with
  | zero => exact ⟨rfl, rfl⟩
  | succ n ih =>
      cases h : items.next? with
      | none => simp only [splitAt, h, toList_of_none h, List.take_nil, List.drop_nil, and_self]
      | some next =>
          obtain ⟨v, rest⟩ := next
          obtain ⟨taken, left⟩ := ih rest
          simp only [splitAt, h, toList_of_some h, List.take_succ_cons, List.drop_succ_cons, taken,
            left, and_self]

theorem next?_eq_none_iff (items : Items) : items.next? = none ↔ items.toList = [] := by
  refine ⟨toList_of_none, fun h => ?_⟩
  cases hn : items.next? with
  | none => rfl
  | some next =>
      rw [toList_of_some hn] at h
      cases h

theorem length_integers (first last : Int) :
    (integers first last).length = (last - first).natAbs + 1 := by
  rw [integers, List.length_map, List.length_range]

theorem getElem?_integers {first last : Int} {k : Nat} (hk : k < (integers first last).length) :
    (integers first last)[k]? = some (if first ≤ last then first + k else first - k) := by
  rw [length_integers] at hk
  rw [integers, List.getElem?_map, List.getElem?_range hk]
  rfl

/-- A range kept in words of 64 bits: the number that comes next, the last one, and whether that has
been given. -/
structure WordRange where
  next : Int64
  last : Int64
  done : Bool
deriving DecidableEq

namespace WordRange

def start (first last : Int64) : WordRange := ⟨first, last, false⟩

/-- The next number and the range behind it. A sum that is too large or too small wraps. -/
def next? (r : WordRange) : Option (Int64 × WordRange) :=
  if r.done then none
  else if r.next = r.last then some (r.next, { r with done := true })
  else if r.next < r.last then some (r.next, { r with next := r.next + 1 })
  else some (r.next, { r with next := r.next - 1 })

/-- The first numbers, at most `n` of them, and the range behind them. -/
def splitAt : Nat → WordRange → List Int64 × WordRange
  | 0, r => ([], r)
  | n + 1, r =>
    match r.next? with
    | none => ([], r)
    | some (x, rest) =>
      let (xs, rest) := splitAt n rest
      (x :: xs, rest)

/-- The same range with numbers that may be of any size. -/
def items (r : WordRange) : Items :=
  if r.done then values [] else range r.next.toInt r.last.toInt

/-- The numbers that are still to be given. -/
def numbers (r : WordRange) : List Int :=
  if r.done then [] else integers r.next.toInt r.last.toInt

theorem toInt_succ {m n : Int64} (h : m < n) : (m + 1).toInt = m.toInt + 1 := by
  have less := Int64.lt_iff_toInt_lt.1 h
  have lower := m.le_toInt
  have upper := n.toInt_lt
  rw [Int64.toInt_add, Int64.toInt_one]
  exact Int.bmod_eq_of_le (by omega) (by omega)

theorem toInt_pred {m n : Int64} (h : n < m) : (m - 1).toInt = m.toInt - 1 := by
  have less := Int64.lt_iff_toInt_lt.1 h
  have lower := n.le_toInt
  have upper := m.toInt_lt
  rw [Int64.toInt_sub, Int64.toInt_one]
  exact Int.bmod_eq_of_le (by omega) (by omega)

/-- A step in words is a step between whole numbers: it goes towards the other bound, where there is
no end of the words in between. -/
theorem toInt_step {m n : Int64} (h : m ≠ n) :
    (if m < n then m + 1 else m - 1).toInt = towards m.toInt n.toInt := by
  rw [towards]
  by_cases less : m < n
  · rw [if_pos less, if_pos (Int64.lt_iff_toInt_lt.1 less), toInt_succ less]
  · have not_less : ¬m.toInt < n.toInt := mt Int64.lt_iff_toInt_lt.2 less
    have apart : m.toInt ≠ n.toInt := mt Int64.toInt_inj.1 h
    have greater : n < m := Int64.lt_iff_toInt_lt.2 (by omega)
    rw [if_neg less, if_neg not_less, toInt_pred greater]

theorem next?_done {r : WordRange} (h : r.done = true) : r.next? = none := if_pos h

/-- A range that is not done gives its next number and has one less to give. -/
theorem next?_running {r : WordRange} (h : r.done = false) :
    ∃ rest, r.next? = some (r.next, rest) ∧ r.numbers = r.next.toInt :: rest.numbers ∧
      r.items.next? = some (.ofInt r.next.toInt, rest.items) := by
  obtain ⟨next, last, done⟩ := r
  obtain rfl : done = false := h
  by_cases same : next = last
  · subst same
    refine ⟨⟨next, next, true⟩, ?_, ?_, ?_⟩
    · simp [next?]
    · simp [numbers, integers_self]
    · simp [items, Items.next?]
  · have apart : next.toInt ≠ last.toInt := mt Int64.toInt_inj.1 same
    refine ⟨⟨if next < last then next + 1 else next - 1, last, false⟩, ?_, ?_, ?_⟩
    · simp only [next?, Bool.false_eq_true, if_false, if_neg same]
      split <;> rfl
    · simp only [numbers, Bool.false_eq_true, if_false, integers_of_ne apart, toInt_step same]
    · simp only [items, Items.next?, Bool.false_eq_true, if_false, if_neg apart, toInt_step same]

/-- Counting in words gives the numbers of the range, one after the other. -/
theorem splitAt_numbers (n : Nat) (r : WordRange) :
    (splitAt n r).1.map Int64.toInt = r.numbers.take n ∧
      (splitAt n r).2.numbers = r.numbers.drop n := by
  induction n generalizing r with
  | zero => exact ⟨rfl, rfl⟩
  | succ n ih =>
      by_cases h : r.done = true
      · simp [splitAt, next?_done h, numbers, h]
      · obtain ⟨rest, next, numbers, -⟩ := next?_running (Bool.not_eq_true _ ▸ h)
        obtain ⟨taken, left⟩ := ih rest
        simp only [splitAt, next, numbers, List.map_cons, List.take_succ_cons,
          List.drop_succ_cons, taken, left, and_self]

/-- The range with numbers of any size keeps step with the one in words. -/
theorem splitAt_items (n : Nat) (r : WordRange) :
    Items.splitAt n r.items =
      ((splitAt n r).1.map fun x => .ofInt x.toInt, (splitAt n r).2.items) := by
  induction n generalizing r with
  | zero => rfl
  | succ n ih =>
      by_cases h : r.done = true
      · simp [splitAt, Items.splitAt, next?_done h, items, Items.next?, h]
      · obtain ⟨rest, next, -, items⟩ := next?_running (Bool.not_eq_true _ ▸ h)
        simp only [splitAt, Items.splitAt, next, items, ih, List.map_cons]

theorem next?_eq_none_iff (r : WordRange) : r.next? = none ↔ r.numbers = [] := by
  by_cases h : r.done = true
  · simp [next?_done h, numbers, h]
  · obtain ⟨rest, next, numbers, -⟩ := next?_running (Bool.not_eq_true _ ▸ h)
    simp [next, numbers]

end WordRange

/-- For all bounds of 64 bits, a range goes through the whole numbers from the one to the other in
steps of one, gives each of them as a double, and is then at its end; any number of first items is
the beginning of these. Counting in words of 64 bits gives the same numbers, so nothing wraps. The
doubles are the numbers themselves as far as 53 bits can count. -/
theorem range_goes_through (a b : Int64) :
    let numbers := integers a.toInt b.toInt
    let items := range a.toInt b.toInt
    let words := WordRange.start a b
    (numbers.length = (b.toInt - a.toInt).natAbs + 1 ∧
      ∀ k < numbers.length, numbers[k]? = some (if a ≤ b then a.toInt + k else a.toInt - k)) ∧
    items.Yields (numbers.map .ofInt) ∧
    (∀ n, (splitAt n items).1 = (numbers.map .ofInt).take n ∧
      (words.splitAt n).1.map Int64.toInt = numbers.take n ∧
      (splitAt n items).2 = (words.splitAt n).2.items) ∧
    (∀ n, numbers.length ≤ n →
      (splitAt n items).2.next? = none ∧ (words.splitAt n).2.next? = none) ∧
    ∀ x ∈ numbers, x.natAbs ≤ 2 ^ 53 → Number.toInt? (Float.ofInt x) = some x := by
  intro numbers items words
  have list : items.toList = numbers.map .ofInt := rfl
  refine ⟨⟨length_integers _ _, fun k hk => ?_⟩, list ▸ yields_toList items, fun n => ?_,
    fun n hn => ?_, fun x _ => Number.toInt?_ofInt⟩
  · rw [getElem?_integers hk]
    simp only [Int64.le_iff_toInt_le]
  · exact ⟨list ▸ (splitAt_toList n items).1, (WordRange.splitAt_numbers n words).1,
      congrArg Prod.snd (WordRange.splitAt_items n words)⟩
  · have none : (words.splitAt n).2.numbers = [] :=
      (WordRange.splitAt_numbers n words).2.trans (List.drop_of_length_le hn)
    have ended : (splitAt n items).2.toList = [] := by
      rw [(splitAt_toList n items).2, list, ← List.map_drop, List.drop_of_length_le hn]
      rfl
    exact ⟨(next?_eq_none_iff _).2 ended, (WordRange.next?_eq_none_iff _).2 none⟩

/-- The greatest word is given as the last number, and nothing behind it. -/
theorem range_goes_through_toGreatest :
    let words := WordRange.start (Int64.maxValue - 1) Int64.maxValue
    (words.splitAt 2).1 = [Int64.maxValue - 1, Int64.maxValue] ∧
      (words.splitAt 2).2.next? = none := by
  intro words
  obtain ⟨⟨size, -⟩, -, -, ended, -⟩ := range_goes_through (Int64.maxValue - 1) Int64.maxValue
  exact ⟨by decide, (ended 2 (size ▸ by decide)).2⟩

/-- Between doubles there is more than one step where 53 bits do not suffice, so the only number of
this range is not what the range gives. -/
theorem range_rounds :
    let n : Int := 2 ^ 53 + 1
    integers n n = [n] ∧ (range n n).Yields [.ofInt n] ∧ (Value.ofInt n).index? = some (n - 1) := by
  intro n
  exact ⟨integers_self n, .more rfl (.done rfl), by decide⟩

end Template.Items

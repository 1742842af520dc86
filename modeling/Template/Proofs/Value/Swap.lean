import Mathlib.Data.List.Perm.Subperm
import Mathlib.Data.List.Zip
import Mathlib.Order.Basic
import Template.Proofs.Value.Distinct
import Template.Proofs.Value.Endless
import Template.Value.Operation

/-!
The sides of a comparison may change places: equality does not tell them apart, and the order of two
values is turned round. Numbers, texts, lists and maps are compared by rules of their own, and what is
left by text. Maps of the same size that have each name once have the same names as soon as all names
of one are in the other.
-/

namespace Template

namespace Entries

variable {α β : Type} {name : String} {value : α}

theorem get?_of_mem {entries : Entries α} (h : entries.keys.Nodup) (hm : (name, value) ∈ entries) :
    entries.get? name = some value := by
  induction entries with
  | nil => cases hm
  | cons entry rest ih =>
      obtain ⟨key, first⟩ := entry
      obtain ⟨apart, hr⟩ := List.nodup_cons.1 h
      cases hm with
      | head => exact if_pos rfl
      | tail _ hm =>
          have hk : name ∈ keys rest := List.mem_map_of_mem hm
          have other : key ≠ name := fun same => apart (same ▸ hk)
          simp only [get?, if_neg other]
          exact ih hr hm

theorem mem_keys_of_get? {entries : Entries α} (h : entries.get? name = some value) :
    name ∈ entries.keys := by
  induction entries with
  | nil => cases h
  | cons entry rest ih =>
      obtain ⟨key, first⟩ := entry
      by_cases here : key = name
      · exact here ▸ List.mem_cons_self
      · simp only [get?, if_neg here] at h
        exact List.mem_cons_of_mem _ (ih h)

theorem exists_get?_of_mem_keys {entries : Entries α} (h : name ∈ entries.keys) :
    ∃ value, entries.get? name = some value := by
  induction entries with
  | nil => cases h
  | cons entry rest ih =>
      obtain ⟨key, first⟩ := entry
      by_cases here : key = name
      · exact ⟨first, if_pos here⟩
      · have hr : name ∈ keys rest := (List.mem_cons.1 h).resolve_left (Ne.symm here)
        obtain ⟨value, found⟩ := ih hr
        exact ⟨value, (if_neg here).trans found⟩

/-- Names that are all among as many others are the same names. -/
theorem keys_subset_of_length {es : Entries α} {fs : Entries β} (he : es.keys.Nodup)
    (sub : es.keys ⊆ fs.keys) (length : es.length = fs.length) : fs.keys ⊆ es.keys := by
  have fewer : fs.keys.length ≤ es.keys.length := by
    simp only [keys, List.length_map, length]
    exact Nat.le_refl _
  exact ((he.subperm sub).perm_of_length_le fewer).symm.subset

/-- Each name of the first entries is one of the second, and its values are related. -/
def AllFound (R : α → β → Prop) (es : Entries α) (fs : Entries β) : Prop :=
  ∀ entry ∈ es, ∃ value, fs.get? entry.1 = some value ∧ R entry.2 value

theorem AllFound.symm {R : α → β → Prop} {es : Entries α} {fs : Entries β} (he : es.keys.Nodup)
    (hf : fs.keys.Nodup) (length : es.length = fs.length) (h : AllFound R es fs) :
    AllFound (fun y x => R x y) fs es := by
  have sub : es.keys ⊆ fs.keys := by
    intro name hn
    obtain ⟨entry, hm, rfl⟩ := List.mem_map.1 hn
    obtain ⟨value, found, -⟩ := h entry hm
    exact mem_keys_of_get? found
  intro entry hm
  have hn : entry.1 ∈ es.keys := keys_subset_of_length he sub length (List.mem_map_of_mem hm)
  obtain ⟨x, hx⟩ := exists_get?_of_mem_keys hn
  obtain ⟨y, hy, related⟩ := h _ (mem_of_get? hx)
  -- the second entries have the name once, so what is found there is the entry itself
  have same : y = entry.2 := by
    rw [get?_of_mem hf hm] at hy
    exact (Option.some.inj hy).symm
  exact ⟨x, hx, same ▸ related⟩

theorem allFound_comm {R : α → α → Prop} (comm : ∀ x y, R y x ↔ R x y) {es fs : Entries α}
    (he : es.keys.Nodup) (hf : fs.keys.Nodup) (length : es.length = fs.length) :
    AllFound R fs es ↔ AllFound R es fs := by
  constructor <;> intro h
  · simpa only [comm] using h.symm hf he length.symm
  · simpa only [comm] using h.symm he hf length

end Entries

namespace Value

variable {hosts : Hosts} {s : Store}

open Float.Model in
/-- The order of two numbers is turned round with them; where one is no number there is none. -/
theorem unpacked_compare_swap (x y : UnpackedFloat) :
    y.compare x = (x.compare y).map Ordering.swap := by
  cases x with
  | notANumber => cases y <;> rfl
  | infinity sign =>
      cases y with
      | infinity other => cases sign <;> cases other <;> rfl
      | _ => cases sign <;> rfl
  | zero sign =>
      cases y with
      | infinity other | finite other _ _ _ => cases other <;> rfl
      | _ => rfl
  | finite sign m e hm =>
      cases y with
      | notANumber => cases sign <;> rfl
      | infinity other => cases sign <;> cases other <;> rfl
      | zero other => cases sign <;> rfl
      | finite other n d hn =>
          have swap : (compare d e).then (compare n m) =
              ((compare e d).then (compare m n)).swap := by
            rw [Ordering.swap_then, Int.compare_swap, Nat.compare_swap]
          cases sign with
          | positive =>
              cases other with
              | positive => exact congrArg some swap
              | negative => rfl
          | negative =>
              cases other with
              | positive => rfl
              | negative => exact congrArg (fun order => some order.swap) swap

theorem number_lt_iff (x y : Float) :
    x < y ↔ x.toModel.unpack.compare y.toModel.unpack = some .lt := by
  change decide (x.toModel < y.toModel) = true ↔ _
  rw [decide_eq_true_iff]
  change (x.toModel.unpack.compare y.toModel.unpack == some .lt) = true ↔ _
  exact beq_iff_eq

theorem number_beq_eq (x y : Float) :
    (x == y) = (x.toModel.unpack.compare y.toModel.unpack == some .eq) := rfl

theorem number_beq_comm (x y : Float) : (y == x) = (x == y) := by
  rw [number_beq_eq, number_beq_eq, unpacked_compare_swap]
  cases x.toModel.unpack.compare y.toModel.unpack with
  | none => rfl
  | some order => cases order <;> rfl

theorem compareNumbers_eq (x y : Float) :
    compareNumbers x y = x.toModel.unpack.compare y.toModel.unpack := by
  simp only [compareNumbers, gt_iff_lt, number_lt_iff, number_beq_eq,
    unpacked_compare_swap x.toModel.unpack y.toModel.unpack]
  cases x.toModel.unpack.compare y.toModel.unpack with
  | none => rfl
  | some order => cases order <;> rfl

theorem compareNumbers_swap (x y : Float) :
    compareNumbers y x = (compareNumbers x y).map Ordering.swap := by
  simp only [compareNumbers_eq]
  exact unpacked_compare_swap _ _

theorem compareTexts_swap (a b : String) : compareTexts b a = (compareTexts a b).swap := by
  unfold compareTexts
  by_cases hab : a < b
  · have apart : ¬b < a := String.lt_asymm hab
    have ne : b ≠ a := fun same => apart (same ▸ hab)
    simp [hab, apart, ne]
  · by_cases hba : b < a
    · have ne : a ≠ b := fun same => hab (same ▸ hba)
      simp [hab, hba, ne]
    · have same : a = b := String.le_antisymm (String.not_lt.1 hba) (String.not_lt.1 hab)
      simp [same]

theorem compare?_of_numbers {a b : Value} {x y : Float} (ha : a.number? = some x)
    (hb : b.number? = some y) : compare? a b = compareNumbers x y := by
  simp only [compare?, ha, hb]

/-- The order of two values that are not both numbers. -/
def compareContents? : Value → Value → Option Ordering
  | .text a, .text b => some (compareTexts a b)
  | _, _ => none

theorem compare?_of_none {a b : Value} (h : a.number? = none ∨ b.number? = none) :
    compare? a b = compareContents? a b := by
  cases ha : a.number? with
  | none =>
      simp only [compare?, ha]
      cases a <;> cases b <;> rfl
  | some x =>
      have hb := h.resolve_left (by simp [ha])
      simp only [compare?, ha, hb]
      cases a <;> cases b <;> rfl

/-- There is an order of two values exactly if there is one of them the other way round. -/
theorem compare?_swap (a b : Value) : compare? b a = (compare? a b).map Ordering.swap := by
  cases ha : a.number? with
  | none =>
      rw [compare?_of_none (.inl ha), compare?_of_none (.inr ha)]
      cases a <;> cases b <;> first | rfl | exact congrArg some (compareTexts_swap _ _)
  | some x =>
      cases hb : b.number? with
      | none =>
          rw [compare?_of_none (.inl hb), compare?_of_none (.inr hb)]
          cases a <;> cases b <;> first | rfl | exact congrArg some (compareTexts_swap _ _)
      | some y =>
          rw [compare?_of_numbers ha hb, compare?_of_numbers hb ha]
          exact compareNumbers_swap x y

theorem looselyCompared?_comm (a b : Value) :
    looselyCompared? hosts s b a = looselyCompared? hosts s a b := by
  have texts : (if (b.printFault? s none).isSome || (a.printFault? s none).isSome then none
      else some (b.display hosts s == a.display hosts s)) =
      if (a.printFault? s none).isSome || (b.printFault? s none).isSome then none
      else some (a.display hosts s == b.display hosts s) := by
    rw [Bool.or_comm, Bool.beq_comm]
  unfold looselyCompared?
  cases a.number? with
  | none => cases b.number? <;> exact texts
  | some x =>
      cases b.number? with
      | none => exact texts
      | some y => exact congrArg some (number_beq_comm x y)

theorem allFound_iff {compare : Value → Value → Option Bool} {es fs : Entries Value} :
    (es.allM fun entry =>
      match fs.get? entry.1 with
      | some y => compare entry.2 y
      | none => some false) = some true ↔
      Entries.AllFound (fun x y => compare x y = some true) es fs := by
  rw [allM_eq_true_iff]
  refine forall₂_congr fun entry _ => ?_
  cases found : fs.get? entry.1 <;> simp

/-- That two values are equal has no side, if that is so of what is in lists and maps. -/
theorem comparedBy_comm (hs : s.Distinct) {f : Value → Value → Option Bool}
    (inner : ∀ x y, f y x = some true ↔ f x y = some true) (a b : Value) :
    comparedBy hosts s f b a = some true ↔ comparedBy hosts s f a b = some true := by
  have loose := congrArg (· = some true) (@looselyCompared?_comm hosts s a b)
  cases a with
  | list a =>
      cases b with
      | list b =>
          simp only [comparedBy, eq_comm (a := b), eq_comm (a := (s.items b).length)]
          split
          · exact Iff.rfl
          · split
            · rw [allM_eq_true_iff, allM_eq_true_iff, ← List.zip_swap (s.items a)]
              simp only [List.forall_mem_map]
              exact forall₂_congr fun pair _ => inner _ _
            · exact Iff.rfl
      | null => exact Iff.rfl
      | _ => exact Iff.of_eq loose
  | map a =>
      cases b with
      | map b =>
          simp only [comparedBy, eq_comm (a := b), eq_comm (a := (s.entries b).length)]
          split
          · exact Iff.rfl
          · split
            next length =>
              refine (allFound_iff.trans ?_).trans allFound_iff.symm
              exact Entries.allFound_comm inner (hs a) (hs b) length
            · exact Iff.rfl
      | null => exact Iff.rfl
      | _ => exact Iff.of_eq loose
  | text a | bool a | object a =>
      cases b with
      | text b | bool b | object b =>
          first
            | exact Iff.of_eq loose
            | simp only [comparedBy, Bool.beq_comm (a := b)]
      | null => exact Iff.rfl
      | _ => exact Iff.of_eq loose
  | null => cases b <;> exact Iff.rfl
  | number x =>
      cases b with
      | null => exact Iff.rfl
      | _ => exact Iff.of_eq loose

theorem comparedWithin?_comm (hs : s.Distinct) (depth : Nat) (a b : Value) :
    comparedWithin? hosts s depth b a = some true ↔
      comparedWithin? hosts s depth a b = some true := by
  induction depth generalizing a b with
  | zero => exact comparedBy_comm hs (fun _ _ => Iff.rfl) a b
  | succ depth ih => exact comparedBy_comm hs ih a b

theorem looseEq_comm (hs : s.Distinct) (a b : Value) :
    looseEq hosts s b a = looseEq hosts s a b := by
  rw [looseEq, looseEq, Bool.eq_iff_iff, beq_iff_eq, beq_iff_eq]
  exact comparedWithin?_comm hs _ a b

theorem relation_swap {test test' : Ordering → Bool} (h : ∀ order, test' order.swap = test order)
    (a b : Value) : relation test' b a = relation test a b := by
  rw [relation, relation, compare?_swap, Option.any_map]
  exact congrArg (fun test => bool ((compare? a b).any test)) (funext h)

/-- The sides of a comparison may change places, if its operator is turned round. -/
theorem comparisons_swap (hosts : Hosts) {s : Store} (hs : s.Distinct) (a b : Value) :
    binary hosts s .equal b a = binary hosts s .equal a b ∧
      binary hosts s .notEqual b a = binary hosts s .notEqual a b ∧
      binary hosts s .greater b a = binary hosts s .less a b ∧
      binary hosts s .greaterEqual b a = binary hosts s .lessEqual a b ∧
      ∀ order, compare? b a = some order.swap ↔ compare? a b = some order := by
  refine ⟨?equal, ?notEqual, ?greater, ?greaterEqual, ?order⟩
  case equal => exact congrArg bool (looseEq_comm hs a b)
  case notEqual => exact congrArg (fun equal => bool !equal) (looseEq_comm hs a b)
  case greater => exact relation_swap (fun order => by cases order <;> rfl) a b
  case greaterEqual => exact relation_swap (fun order => by cases order <;> rfl) a b
  case order =>
    intro order
    rw [compare?_swap, Option.map_eq_some_iff]
    constructor
    · rintro ⟨other, found, same⟩
      rw [found, ← other.swap_swap, same, order.swap_swap]
    · intro found
      exact ⟨order, found, rfl⟩

end Value

namespace Store

/-- Two maps with the same names in another order, and values that are equal as numbers. -/
def mixedMaps : Store :=
  { cells := #[.list [.bool true], .map [("k", .number 1), ("j", .list 0)],
      .list [.text "1"], .map [("j", .list 2), ("k", .text "1.0")]]
    loops := #[]
    calls := #[] }

theorem mixedMaps_distinct : mixedMaps.Distinct :=
  distinct_of_lt (by decide)

end Store

theorem Value.comparisons_swap_mixedMaps :
    Store.mixedMaps.Distinct ∧
      binary .none .mixedMaps .equal (.map 1) (.map 3) = .bool true ∧
      binary .none .mixedMaps .equal (.map 3) (.map 1) = .bool true ∧
      binary .none .mixedMaps .less (.text "5") (.number 10) = .bool true ∧
      binary .none .mixedMaps .greater (.number 10) (.text "5") = .bool true := by
  have equal : binary .none .mixedMaps .equal (.map 1) (.map 3) = .bool true := by decide +kernel
  have less : binary .none .mixedMaps .less (.text "5") (.number 10) = .bool true := by
    decide +kernel
  refine ⟨Store.mixedMaps_distinct, equal, ?_, less, ?_⟩
  · exact (comparisons_swap .none Store.mixedMaps_distinct _ _).1.trans equal
  · exact (comparisons_swap .none Store.mixedMaps_distinct _ _).2.2.1.trans less

end Template

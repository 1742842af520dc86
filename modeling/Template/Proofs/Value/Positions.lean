import Template.Proofs.Number.Whole
import Template.Proofs.Text.Places
import Template.Value.Member
import Template.Value.Operation

/-!
Places in a text, as its methods answer and take them. A place is a number, so the methods agree as
long as numbers count characters exactly: what `indexOf` and `lastIndexOf` answer cuts the text where
`substring` and `charAt` cut it.
-/

namespace Template.Value

variable {hosts : Hosts} {store : Store}

/-- The text answers the call, and nothing else happens. -/
def Answers (hosts : Hosts) (store : Store) (s name : String) (arguments : List Value)
    (answer : Value) : Prop :=
  (Value.text s).invoke? hosts name arguments store = (some answer, store)

/-- What stands in front of the place, the text `t`, and what stands behind the place moved on by the
length of `t` are the text. -/
def SplitsAt (hosts : Hosts) (store : Store) (s t : String) (place : Value) : Prop :=
  ∃ before length behind, Answers hosts store s "substring" [.ofNat 0, place] (.text before) ∧
    Answers hosts store t "length" [] length ∧
    Answers hosts store s "substring" [add hosts store place length] (.text behind) ∧
    before ++ t ++ behind = s

theorem index?_ofNat {n : Nat} (hn : n < 2 ^ 53) : (Value.ofNat n).index? = some (n : Int) := by
  have inside : Number.clampIndex n = n := by
    simp only [Number.clampIndex, Number.minIndex, Number.maxIndex, Nat.pow_eq]
    omega
  change ((Number.toInt? (Float.ofNat n)).map Number.clampIndex) = _
  rw [Number.toInt?_ofNat hn, Option.map_some, inside]

theorem add_ofNat {m n : Nat} (h : m + n < 2 ^ 53) :
    add hosts store (.ofNat m) (.ofNat n) = .ofNat (m + n) := by
  change Value.number (Float.ofNat m + Float.ofNat n) = _
  rw [Number.ofNat_add h]
  rfl

/-- Numbers that are exact tell places apart. -/
theorem ofNat_inj {m n : Nat} (hm : m < 2 ^ 53) (hn : n < 2 ^ 53)
    (h : Value.ofNat m = .ofNat n) : m = n := by
  have index := index?_ofNat hm
  rw [h, index?_ofNat hn] at index
  exact (Int.ofNat.inj (Option.some.inj index)).symm

/-- The number that tells of no place is none. -/
theorem ofNat_ne_ofInt {n : Nat} (hn : n < 2 ^ 53) : Value.ofNat n ≠ .ofInt (-1) := by
  intro h
  have index : (Value.ofInt (-1)).index? = some (-1) := by rfl
  rw [← h, index?_ofNat hn] at index
  have := Option.some.inj index
  omega

theorem Answers.unique {s name : String} {arguments : List Value} {a b : Value}
    (ha : Answers hosts store s name arguments a) (hb : Answers hosts store s name arguments b) :
    a = b := by
  rw [Answers, ha] at hb
  cases hb
  rfl

section Cuts

variable (s : String) {n : Nat}

theorem answers_length : Answers hosts store s "length" [] (.ofNat s.length) := by
  rw [← String.length_toList]
  rfl

/-- Between two places that are numbers. -/
theorem answers_between {m : Nat} (hm : m < 2 ^ 53) (hn : n < 2 ^ 53) :
    Answers hosts store s "substring" [.ofNat m, .ofNat n]
      (ofChars (substring s.toList m (some n))) := by
  have start := index?_ofNat hm
  have stop := index?_ofNat hn
  change ((do
    let first ← (Value.ofNat m).index?
    (Value.ofNat n).index?.map fun last =>
      ofChars (substring s.toList first (some last)) : Option Value), store) = _
  rw [start, stop]
  rfl

/-- From the front up to a place. -/
theorem answers_front (hn : n < 2 ^ 53) : Answers hosts store s "substring" [.ofNat 0, .ofNat n]
    (.text (String.ofList (s.toList.take n))) := by
  have cut : substring s.toList (0 : Nat) (some n) = s.toList.take n := by
    simp only [substring, Int.natCast_zero]
    have start : (max 0 (min 0 (s.toList.length : Int))).toNat = 0 := by omega
    have stop : (max (max 0 (min 0 (s.toList.length : Int))) (min (n : Int) s.toList.length) -
        max 0 (min 0 (s.toList.length : Int))).toNat = min n s.toList.length := by omega
    rw [start, stop, List.drop_zero, ← List.take_take, List.take_length]
  have answers := @answers_between hosts store s n 0 (by decide) hn
  rwa [cut] at answers

/-- From a place to the end. -/
theorem answers_back (hn : n < 2 ^ 53) : Answers hosts store s "substring" [.ofNat n]
    (.text (String.ofList (s.toList.drop n))) := by
  have cut : substring s.toList n none = s.toList.drop n := by
    simp only [substring]
    have start : (max 0 (min (n : Int) s.toList.length)).toNat = min n s.toList.length := by omega
    have stop : ((s.toList.length : Int) - max 0 (min (n : Int) s.toList.length)).toNat =
        s.toList.length - n := by omega
    rw [start, stop]
    by_cases inside : n ≤ s.toList.length
    · rw [Nat.min_eq_left inside]
      exact List.take_of_length_le (by rw [List.length_drop])
    · have outside := Nat.le_of_not_le inside
      rw [Nat.min_eq_right outside, List.drop_length, List.drop_eq_nil_of_le outside, List.take_nil]
  have start := index?_ofNat hn
  change ((do
    let first ← (Value.ofNat n).index?
    some (ofChars (substring s.toList first none)) : Option Value), store) = _
  rw [start]
  exact congrArg (fun cs => (some (ofChars cs), store)) cut

/-- The character at a place, by itself and as the text up to the next place. -/
theorem answers_char (hs : s.length < 2 ^ 53) (hn : n < s.length) :
    ∃ c, Answers hosts store s "charAt" [.ofNat n] (ofChars [c]) ∧
      Answers hosts store s "substring" [.ofNat n, add hosts store (.ofNat n) (.ofNat 1)]
        (ofChars [c]) := by
  have inside : n < s.toList.length := by rwa [String.length_toList]
  refine ⟨s.toList[n], ?_, ?_⟩
  · have start := @index?_ofNat n (by omega)
    have found : (if (n : Int) < 0 then none
        else s.toList[(n : Int).toNat]?.map fun c => ofChars [c]) =
          some (ofChars [s.toList[n]]) := by
      rw [if_neg (by omega), Int.toNat_natCast, List.getElem?_eq_getElem inside, Option.map_some]
    change ((do
      let k ← (Value.ofNat n).index?
      if k < 0 then none else s.toList[k.toNat]?.map fun c => ofChars [c] : Option Value),
        store) = _
    rw [start]
    exact congrArg (·, store) found
  · rw [add_ofNat (by omega)]
    have cut : substring s.toList n (some (n + 1 : Nat)) = [s.toList[n]] := by
      simp only [substring]
      have start : (max 0 (min (n : Int) s.toList.length)).toNat = n := by omega
      have stop : (max (max 0 (min (n : Int) s.toList.length))
          (min ((n + 1 : Nat) : Int) s.toList.length) -
            max 0 (min (n : Int) s.toList.length)).toNat = 1 := by omega
      rw [start, stop, List.drop_eq_getElem_cons inside]
      rfl
    have answers := @answers_between hosts store s (n + 1) n (by omega) (by omega)
    rwa [cut] at answers

end Cuts

/-- In characters: the text stands at the place. -/
theorem splitsAt_iff {s t : String} {n : Nat} (hl : s.length + t.length < 2 ^ 53)
    (hn : n ≤ s.length) :
    SplitsAt hosts store s t (.ofNat n) ↔ Text.StandsAt t.toList s.toList n := by
  have sum := @add_ofNat hosts store n t.length (by omega)
  have front := @answers_front hosts store s n (by omega)
  have back := @answers_back hosts store s (n + t.length) (by omega)
  have whole : SplitsAt hosts store s t (.ofNat n) ↔
      s.toList.take n ++ (t.toList ++ s.toList.drop (n + t.length)) = s.toList := by
    constructor
    · intro h
      obtain ⟨before, length, behind, hb, hlength, hd, he⟩ := h
      cases (answers_length t).unique hlength
      rw [sum] at hd
      cases front.unique hb
      cases back.unique hd
      simpa using congrArg String.toList he
    · intro he
      refine ⟨_, _, String.ofList (s.toList.drop (n + t.length)), front, answers_length t,
        by rwa [sum], ?_⟩
      rw [← String.toList_inj]
      simpa using he
  have rejoined := List.take_append_drop n s.toList
  rw [whole]
  constructor
  · intro he
    refine ⟨by rwa [String.length_toList], s.toList.drop (n + t.length), ?_⟩
    exact List.append_cancel_left (he.trans rejoined.symm)
  · intro stands
    obtain ⟨rest, hr⟩ := stands.2
    have behind : s.toList.drop (n + t.length) = rest := by
      rw [← List.drop_drop, ← hr, ← String.length_toList, List.drop_left]
    rw [behind, hr, rejoined]

theorem textArgument?_of_ne_null {v : Value} (hv : v ≠ .null) :
    textArgument? hosts store [v] 0 = some (v.display hosts store).toList := by
  cases v with
  | null => exact absurd rfl hv
  | _ => rfl

/-- A place that is none is told by a number of its own. -/
theorem ofPlace_eq_iff {s t : List Char} {place : Option Nat}
    (hp : ∀ n, place = some n → Text.StandsAt t s n) (hs : s.length < 2 ^ 53) :
    ofPlace place = .ofInt (-1) ↔ place = none := by
  cases place with
  | none => exact ⟨fun _ => rfl, fun _ => rfl⟩
  | some n =>
      have := (hp n rfl).1
      exact ⟨fun he => absurd he (ofNat_ne_ofInt (by omega)), nofun⟩

section Places

variable {s t : String} (hl : s.length + t.length < 2 ^ 53)

include hl

/-- No smaller place than the one that `indexOf` answers cuts the text. -/
theorem first_place {m : Nat} (h : Text.indexOf? t.toList s.toList = some m) :
    m ≤ s.length ∧ SplitsAt hosts store s t (.ofNat m) ∧
      ∀ n < m, ¬SplitsAt hosts store s t (.ofNat n) := by
  obtain ⟨stands, before⟩ := Text.first_of_indexOf? h
  have inside : m ≤ s.length := by
    rw [← String.length_toList]
    exact stands.1
  refine ⟨inside, (splitsAt_iff hl inside).2 stands, fun n hn => ?_⟩
  rw [splitsAt_iff hl (by omega)]
  exact before n hn

/-- No larger place in the text than the one that `lastIndexOf` answers cuts it. -/
theorem last_place {m : Nat} (h : Text.lastIndexOf? t.toList s.toList = some m) :
    m ≤ s.length ∧ SplitsAt hosts store s t (.ofNat m) ∧
      ∀ n, m < n → n ≤ s.length → ¬SplitsAt hosts store s t (.ofNat n) := by
  obtain ⟨stands, behind⟩ := Text.last_of_lastIndexOf? h
  have inside : m ≤ s.length := by
    rw [← String.length_toList]
    exact stands.1
  refine ⟨inside, (splitsAt_iff hl inside).2 stands, fun n hn hs => ?_⟩
  rw [splitsAt_iff hl hs]
  exact behind n hn

end Places

/-- What `indexOf` answers, what `lastIndexOf` does and whether `contains` holds are one thing, told
in the places that `substring` and `charAt` take. -/
theorem positions_agree (hosts : Hosts) (store : Store) (s : String) {v : Value} (hv : v ≠ .null)
    (hl : s.length + (v.display hosts store).length < 2 ^ 53) :
    ∃ i j b, Answers hosts store s "indexOf" [v] i ∧ Answers hosts store s "lastIndexOf" [v] j ∧
      Answers hosts store s "contains" [v] (.bool b) ∧
      (i = .ofInt (-1) ↔ b = false) ∧ (j = .ofInt (-1) ↔ b = false) ∧
      (i ≠ .ofInt (-1) → ∃ m ≤ s.length, i = .ofNat m ∧
        SplitsAt hosts store s (v.display hosts store) (.ofNat m) ∧
        ∀ n < m, ¬SplitsAt hosts store s (v.display hosts store) (.ofNat n)) ∧
      (j ≠ .ofInt (-1) → ∃ m ≤ s.length, j = .ofNat m ∧
        SplitsAt hosts store s (v.display hosts store) (.ofNat m) ∧
        ∀ n, m < n → n ≤ s.length →
          ¬SplitsAt hosts store s (v.display hosts store) (.ofNat n)) ∧
      ∀ n < s.length, ∃ c, Answers hosts store s "charAt" [.ofNat n] c ∧
        Answers hosts store s "substring" [.ofNat n, add hosts store (.ofNat n) (.ofNat 1)] c := by
  have argument := @textArgument?_of_ne_null hosts store v hv
  generalize v.display hosts store = t at argument hl ⊢
  have one {name : String} {f : List Char → Value}
      (h : textMethod? hosts s.toList name [v] store =
        ((textArgument? hosts store [v] 0).map f, store)) :
      Answers hosts store s name [v] (f t.toList) := by
    rw [argument] at h
    exact h
  have short : s.toList.length < 2 ^ 53 := by
    rw [String.length_toList]
    omega
  refine ⟨ofPlace (Text.indexOf? t.toList s.toList), ofPlace (Text.lastIndexOf? t.toList s.toList),
    Text.contains t.toList s.toList, @one "indexOf" _ rfl, @one "lastIndexOf" _ rfl,
    @one "contains" _ rfl, ?_, ?_, ?_, ?_, ?_⟩
  · rw [ofPlace_eq_iff (fun n hn => (Text.first_of_indexOf? hn).1) short,
      ← Text.indexOf?_isSome, Option.isSome_eq_false_iff, Option.isNone_iff_eq_none]
  · rw [ofPlace_eq_iff (fun n hn => (Text.last_of_lastIndexOf? hn).1) short,
      ← Text.lastIndexOf?_isSome, Option.isSome_eq_false_iff, Option.isNone_iff_eq_none]
  · intro hi
    cases hf : Text.indexOf? t.toList s.toList with
    | none => exact absurd (congrArg ofPlace hf) hi
    | some m =>
        obtain ⟨inside, cuts⟩ := @first_place hosts store s t hl m hf
        exact ⟨m, inside, rfl, cuts⟩
  · intro hj
    cases hf : Text.lastIndexOf? t.toList s.toList with
    | none => exact absurd (congrArg ofPlace hf) hj
    | some m =>
        obtain ⟨inside, cuts⟩ := @last_place hosts store s t hl m hf
        exact ⟨m, inside, rfl, cuts⟩
  · intro n hn
    obtain ⟨c, single, piece⟩ := @answers_char hosts store s n (by omega) hn
    exact ⟨ofChars [c], single, piece⟩

theorem positions_agree_overlapping :
    Value.text "ñañ" ≠ .null ∧
      "ñañañb".length + ((Value.text "ñañ").display .none .empty).length < 2 ^ 53 ∧
      Answers .none .empty "ñañañb" "indexOf" [.text "ñañ"] (.ofNat 0) ∧
      Answers .none .empty "ñañañb" "lastIndexOf" [.text "ñañ"] (.ofNat 2) ∧
      Answers .none .empty "ñañañb" "contains" [.text "ñañ"] (.bool true) ∧
      (SplitsAt .none .empty "ñañañb" "ñañ" (.ofNat 0) ∧
        ∀ n < 0, ¬SplitsAt .none .empty "ñañañb" "ñañ" (.ofNat n)) ∧
      (SplitsAt .none .empty "ñañañb" "ñañ" (.ofNat 2) ∧
        ∀ n, 2 < n → n ≤ "ñañañb".length → ¬SplitsAt .none .empty "ñañañb" "ñañ" (.ofNat n)) ∧
      ∀ n < "ñañañb".length, ∃ c, Answers .none .empty "ñañañb" "charAt" [.ofNat n] c ∧
        Answers .none .empty "ñañañb" "substring"
          [.ofNat n, add .none .empty (.ofNat n) (.ofNat 1)] c := by
  have given : Value.text "ñañ" ≠ .null := nofun
  have short : "ñañañb".length + ((Value.text "ñañ").display .none .empty).length < 2 ^ 53 := by
    decide
  have first : Answers .none .empty "ñañañb" "indexOf" [.text "ñañ"] (.ofNat 0) := by rfl
  have last : Answers .none .empty "ñañañb" "lastIndexOf" [.text "ñañ"] (.ofNat 2) := by rfl
  have there : Answers .none .empty "ñañañb" "contains" [.text "ñañ"] (.bool true) := by rfl
  obtain ⟨i, j, b, hi, hj, hb, -, -, splitsFirst, splitsLast, chars⟩ :=
    positions_agree .none .empty "ñañañb" given short
  cases hi.unique first
  cases hj.unique last
  cases hb.unique there
  obtain ⟨m, hm, he, cutsFirst, before⟩ := splitsFirst (ofNat_ne_ofInt (by decide))
  obtain ⟨n, hn, hf, cutsLast, behind⟩ := splitsLast (ofNat_ne_ofInt (by decide))
  have size : "ñañañb".length = 6 := by rfl
  cases ofNat_inj (by decide) (by omega) he
  cases ofNat_inj (by decide) (by omega) hf
  exact ⟨given, short, first, last, there, ⟨cutsFirst, before⟩, ⟨cutsLast, behind⟩, chars⟩

end Template.Value

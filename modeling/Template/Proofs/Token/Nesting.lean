import Template.Token.Nesting

/-!
How deep a token list is nested. This does not depend on a limit; a limit refuses the list if it is
nested deeper. Tokens that close what they open nest wherever they stand as deep as they nest alone.
-/

namespace Template

theorem Token.not_opens_of_closes {t : Token} (h : t.closes) : t.opens = false := by
  unfold closes at h
  split at h <;> first | rfl | cases h

namespace Nesting

/-- The deepest nesting behind a token that makes it deeper; zero if none does. -/
def deepest (n : Nesting) : List Token → Nat
  | [] => 0
  | t :: ts =>
    let behind := (n.next t).deepest ts
    if deepens t then max (n.next t).depth behind else behind

theorem firstTooDeep?_eq_none_iff (limit : Nat) (n : Nesting) (lexemes : List Lexeme) :
    firstTooDeep? limit n lexemes = none ↔ n.deepest (lexemes.map Prod.fst) ≤ limit := by
  induction lexemes generalizing n with
  | nil => simp [firstTooDeep?, deepest]
  | cons l lexemes ih =>
      obtain ⟨t, span⟩ := l
      simp only [firstTooDeep?, List.map_cons, deepest]
      by_cases deeper : deepens t
      · rw [if_pos deeper, Nat.max_le]
        by_cases beyond : limit < (n.next t).depth
        · rw [if_pos (by simp [deeper, beyond])]
          exact ⟨nofun, fun h => absurd h.1 (Nat.not_le.2 beyond)⟩
        · rw [if_neg (by simp [beyond]), ih]
          exact ⟨fun h => ⟨Nat.not_lt.1 beyond, h⟩, And.right⟩
      · rw [if_neg (by simp [deeper]), if_neg deeper, ih]

theorem check_eq_ok_iff (source : String) (limit : Nat) (lexemes : List Lexeme) :
    check source limit lexemes = .ok () ↔ start.deepest (lexemes.map Prod.fst) ≤ limit := by
  rw [← firstTooDeep?_eq_none_iff]
  unfold check
  cases firstTooDeep? limit start lexemes with
  | none => simp
  | some l => simp

theorem deepest_of_flat {ts : List Token} (h : ∀ t ∈ ts, deepens t = false) (n : Nesting) :
    n.deepest ts = 0 := by
  induction ts generalizing n with
  | nil => rfl
  | cons t ts ih =>
      obtain ⟨ht, hts⟩ := List.forall_mem_cons.1 h
      simp [deepest, ht, ih hts]

/-- Does the token leave the open levels as they are? -/
def isNeutral (t : Token) : Bool := !deepens t && !t.closes

/-- The open levels behind the tokens. -/
def after (n : Nesting) (ts : List Token) : Nesting := ts.foldl next n

/-- With `k` more question marks in the innermost level. -/
def asked (n : Nesting) (k : Nat) : Nesting := ⟨n.innermost + k, n.around, n.questions + k⟩

@[simp]
theorem depth_enter (n : Nesting) : n.enter.depth = n.depth + 1 := by
  simp [depth, enter]
  omega

@[simp]
theorem depth_asked (n : Nesting) (k : Nat) : (n.asked k).depth = n.depth + k := by
  simp [depth, asked, Nat.add_assoc]

theorem asked_asked (n : Nesting) (j k : Nat) : (n.asked j).asked k = n.asked (j + k) := by
  simp [asked, Nat.add_assoc]

theorem leave_enter_asked (n : Nesting) (k : Nat) : (n.enter.asked k).leave = n := by
  simp [leave, enter, asked]

theorem next_of_opens {t : Token} (h : t.opens) (n : Nesting) : n.next t = n.enter := by
  simp [next, h]

theorem next_of_closes {t : Token} (h : t.closes) (n : Nesting) : n.next t = n.leave := by
  unfold Token.closes at h
  split at h <;> first | rfl | cases h

theorem after_append (n : Nesting) (ts us : List Token) :
    n.after (ts ++ us) = (n.after ts).after us :=
  List.foldl_append

theorem deepest_append (n : Nesting) (ts us : List Token) :
    n.deepest (ts ++ us) = max (n.deepest ts) ((n.after ts).deepest us) := by
  induction ts generalizing n with
  | nil => simp [deepest, after]
  | cons t ts ih =>
      simp only [List.cons_append, deepest, ih, after, List.foldl_cons]
      split
      · rw [Nat.max_assoc]
      · rfl

end Nesting

/-- The tokens close what they open, and are nested at least so many levels deep. -/
inductive Bracketed : Nat → List Token → Prop where
  | nil : Bracketed 0 []
  | single {t : Token} (h : Nesting.isNeutral t) : Bracketed 0 [t]
  | append {h h' : Nat} {ts us : List Token} (ht : Bracketed h ts) (hu : Bracketed h' us) :
      Bracketed (max h h') (ts ++ us)
  | between {h : Nat} {opener closer : Token} {ts : List Token} (ho : opener.opens)
      (hc : closer.closes) (ht : Bracketed h ts) :
      Bracketed (h + 1) (opener :: (ts ++ [closer]))
  | question {h : Nat} {ts : List Token} (ht : Bracketed h ts) :
      Bracketed (h + 1) (.symbol .question :: ts)
  | mono {h h' : Nat} {ts : List Token} (hs : h' ≤ h) (ht : Bracketed h ts) : Bracketed h' ts

/-- Wherever the tokens stand, they close what they open, but for question marks, and are nested at
least so many levels deep. -/
def Nests (levels : Nat) (ts : List Token) : Prop :=
  ∀ n : Nesting, (∃ k, n.after ts = n.asked k) ∧ n.depth + levels ≤ max n.depth (n.deepest ts)

namespace Nests

open Nesting

variable {h h' : Nat} {ts us : List Token}

theorem nil : Nests 0 [] := fun _ => ⟨⟨0, rfl⟩, Nat.le_max_left _ _⟩

theorem mono (hs : h' ≤ h) (ht : Nests h ts) : Nests h' ts :=
  fun n => ⟨(ht n).1, Nat.le_trans (Nat.add_le_add_left hs _) (ht n).2⟩

theorem append (ht : Nests h ts) (hu : Nests h' us) : Nests (max h h') (ts ++ us) := by
  intro n
  obtain ⟨⟨k, ha⟩, deep⟩ := ht n
  obtain ⟨⟨k', ha'⟩, deep'⟩ := hu (n.asked k)
  refine ⟨⟨k + k', ?_⟩, ?_⟩
  · rw [after_append, ha, ha', asked_asked]
  · rw [deepest_append, ha]
    rw [depth_asked] at deep'
    omega

theorem single {t : Token} (h : isNeutral t) : Nests 0 [t] := by
  intro n
  have same : n.next t = n := by
    simp only [isNeutral, deepens, Bool.and_eq_true, Bool.not_eq_true', Bool.or_eq_false_iff,
      decide_eq_false_iff_not] at h
    simp [next, h]
  exact ⟨⟨0, by simp [after, same, asked]⟩, Nat.le_max_left _ _⟩

theorem between {opener closer : Token} (ho : opener.opens) (hc : closer.closes)
    (ht : Nests h ts) : Nests (h + 1) (opener :: (ts ++ [closer])) := by
  intro n
  obtain ⟨⟨k, ha⟩, deep⟩ := ht n.enter
  refine ⟨⟨0, ?_⟩, ?_⟩
  · have inside : n.enter.after (ts ++ [closer]) = n := by
      rw [after_append, ha]
      exact (next_of_closes hc _).trans (leave_enter_asked n k)
    simpa [after, next_of_opens ho, asked] using inside
  · rw [deepest, next_of_opens ho, deepest_append, if_pos (by simp [deepens, ho])]
    rw [depth_enter] at deep ⊢
    omega

theorem question (ht : Nests h ts) : Nests (h + 1) (.symbol .question :: ts) := by
  intro n
  have asks : n.next (.symbol .question) = n.asked 1 := rfl
  obtain ⟨⟨k, ha⟩, deep⟩ := ht (n.asked 1)
  refine ⟨⟨1 + k, ?_⟩, ?_⟩
  · rw [← asked_asked, ← ha]
    rfl
  · rw [deepest, asks, if_pos (by decide)]
    rw [depth_asked] at deep ⊢
    omega

/-- Tokens that close what they open do so wherever they stand. -/
theorem ofBracketed (ht : Bracketed h ts) : Nests h ts := by
  induction ht with
  | nil => exact nil
  | single hn => exact single hn
  | append _ _ iht ihu => exact iht.append ihu
  | between ho hc _ ih => exact ih.between ho hc
  | question _ ih => exact ih.question
  | mono hs _ ih => exact ih.mono hs

/-- A limit that the tokens keep bounds their levels. -/
theorem le_of_check {source : String} {limit : Nat} {lexemes : List Lexeme}
    (ht : Nests h (lexemes.map Prod.fst)) (hc : check source limit lexemes = .ok ()) :
    h ≤ limit := by
  have shallow := (check_eq_ok_iff source limit lexemes).1 hc
  have deep := (ht .start).2
  have top : Nesting.start.depth = 0 := rfl
  omega

end Nests

end Template

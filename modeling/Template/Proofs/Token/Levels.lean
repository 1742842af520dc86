import Template.Proofs.Token.Nesting

/-!
The check of the nesting against a definition of its own. The definition knows the places of the
openers and asks of each question mark which opener it stands behind; the check counts the question
marks of each level and, besides, those of all levels together. It is about any token list: closers may
be missing, stray or of another kind than what they close.
-/

namespace Template.Nesting

/-- The places of the openers that no closer has cancelled, the latest first. A closer cancels the
latest of them, whatever opened it. The tokens are those read so far, from the latest on back. -/
def openers : List Token → List Nat
  | [] => []
  | t :: earlier =>
    if t.opens then earlier.length :: openers earlier
    else if t.closes then (openers earlier).tail
    else openers earlier

/-- The question marks that were read at the top, or whose innermost opener is at one of the places. -/
def questionsBehind (places : List Nat) : List Token → Nat
  | [] => 0
  | t :: earlier =>
    questionsBehind places earlier +
      if t = .symbol .question ∧ ∀ place ∈ (openers earlier).head?, place ∈ places then 1 else 0

/-- The levels that are open behind the tokens read so far. -/
def levels (read : List Token) : Nat :=
  (openers read).length + questionsBehind (openers read) read

/-- The token at the place makes the nesting deeper, and deeper than the limit. -/
def TooDeep (limit : Nat) (tokens : List Token) (place : Nat) : Prop :=
  ∃ t, tokens[place]? = some t ∧ deepens t ∧ limit < levels (tokens.take (place + 1)).reverse

theorem lt_length_of_mem_openers {read : List Token} {place : Nat} (h : place ∈ openers read) :
    place < read.length := by
  induction read with
  | nil => cases h
  | cons t earlier ih =>
      have older (ho : place ∈ openers earlier) : place < (t :: earlier).length :=
        Nat.lt_succ_of_lt (ih ho)
      simp only [openers] at h
      split at h
      · cases h with
        | head => exact Nat.lt_succ_self _
        | tail _ ho => exact older ho
      · split at h
        · exact older (List.mem_of_mem_tail h)
        · exact older h

theorem openers_nodup (read : List Token) : (openers read).Nodup := by
  induction read with
  | nil => exact List.nodup_nil
  | cons t earlier ih =>
      simp only [openers]
      split
      · refine List.nodup_cons.2 ⟨fun h => ?_, ih⟩
        exact Nat.lt_irrefl _ (lt_length_of_mem_openers h)
      · split
        · exact ih.sublist (List.tail_sublist _)
        · exact ih

theorem questionsBehind_of_ne {t : Token} (h : t ≠ .symbol .question) (places : List Nat)
    (earlier : List Token) :
    questionsBehind places (t :: earlier) = questionsBehind places earlier := by
  simp only [questionsBehind, h, false_and, if_false, Nat.add_zero]

theorem questionsBehind_question_of_mem {places : List Nat} {earlier : List Token}
    (h : ∀ place ∈ (openers earlier).head?, place ∈ places) :
    questionsBehind places (.symbol .question :: earlier) = questionsBehind places earlier + 1 := by
  rw [questionsBehind, if_pos ⟨rfl, h⟩]

theorem questionsBehind_question_of_not_mem {places : List Nat} {earlier : List Token}
    (h : ¬∀ place ∈ (openers earlier).head?, place ∈ places) :
    questionsBehind places (.symbol .question :: earlier) = questionsBehind places earlier := by
  rw [questionsBehind, if_neg fun both => h both.2, Nat.add_zero]

/-- A place behind all tokens is the innermost opener of no question mark. -/
theorem questionsBehind_cons {read : List Token} {place : Nat} (h : read.length ≤ place)
    (places : List Nat) : questionsBehind (place :: places) read = questionsBehind places read := by
  induction read with
  | nil => rfl
  | cons t earlier ih =>
      have earlierPlace (p : Nat) (hp : p ∈ (openers earlier).head?) :
          p ∈ place :: places ↔ p ∈ places := by
        have before := lt_length_of_mem_openers (List.mem_of_mem_head? hp)
        have apart : p ≠ place := by
          simp only [List.length_cons] at h
          omega
        simp [apart]
      simp only [questionsBehind, ih (Nat.le_of_succ_le h), forall₂_congr earlierPlace]

/-- The question marks on the open levels, the innermost first. -/
def counts (n : Nesting) : List Nat := n.innermost :: n.around

/-- The open levels are those behind the tokens read so far: there are as many, and however many of
the innermost are left out, the others have as many question marks. -/
structure Tallies (n : Nesting) (read : List Token) : Prop where
  length_eq : n.around.length = (openers read).length
  counts_eq : ∀ k ≤ (openers read).length,
    (n.counts.drop k).foldr (· + ·) 0 = questionsBehind ((openers read).drop k) read
  questions_eq : n.questions = n.counts.foldr (· + ·) 0

namespace Tallies

variable {n : Nesting} {read : List Token}

theorem start : Tallies start [] where
  length_eq := rfl
  counts_eq k hk := by
    rw [Nat.le_zero.1 hk]
    rfl
  questions_eq := rfl

theorem depth_eq (h : Tallies n read) : n.depth = levels read := by
  have all := h.counts_eq 0 (Nat.zero_le _)
  rw [List.drop_zero, List.drop_zero] at all
  rw [depth, levels, h.length_eq, h.questions_eq, all]

theorem enter (h : Tallies n read) {t : Token} (ht : t.opens) : Tallies n.enter (t :: read) := by
  have places : openers (t :: read) = read.length :: openers read := if_pos ht
  have quiet : t ≠ .symbol .question := by
    rintro rfl
    cases ht
  refine ⟨?length, ?counts, ?questions⟩
  case length => simp [Nesting.enter, places, h.length_eq]
  case counts =>
    intro k hk
    rw [places] at hk ⊢
    rw [questionsBehind_of_ne quiet]
    cases k with
    | zero =>
        rw [List.drop_zero, List.drop_zero, questionsBehind_cons (Nat.le_refl _)]
        simpa [Nesting.enter, counts] using h.counts_eq 0 (Nat.zero_le _)
    | succ k => exact h.counts_eq k (Nat.le_of_succ_le_succ hk)
  case questions => simpa [Nesting.enter, counts] using h.questions_eq

theorem question (h : Tallies n read) : Tallies n.question (.symbol .question :: read) := by
  have places : openers (.symbol .question :: read) = openers read := rfl
  refine ⟨h.length_eq, ?counts, ?questions⟩
  case counts =>
    intro k hk
    rw [places] at hk ⊢
    have before := h.counts_eq k hk
    cases k with
    | zero =>
        simp only [List.drop_zero] at before ⊢
        rw [questionsBehind_question_of_mem fun _ => List.mem_of_mem_head?, ← before]
        simp only [Nesting.question, counts, List.foldr_cons]
        omega
    | succ k =>
        -- the innermost opener is not among those that are left
        rw [questionsBehind_question_of_not_mem, ← before]
        · rfl
        · intro among
          cases opened : openers read with
          | nil => simp [opened] at hk
          | cons place others =>
              have inside := among place (by simp [opened])
              have apart := (List.nodup_cons.1 (opened ▸ openers_nodup read)).1
              rw [opened, List.drop_succ_cons] at inside
              exact apart (List.mem_of_mem_drop inside)
  case questions =>
    simp only [Nesting.question, counts, List.foldr_cons, h.questions_eq]
    omega

theorem leave (h : Tallies n read) {t : Token} (ht : t.closes) : Tallies n.leave (t :: read) := by
  have places : openers (t :: read) = (openers read).tail := by
    simp [openers, Token.not_opens_of_closes ht, ht]
  have quiet : t ≠ .symbol .question := by
    rintro rfl
    cases ht
  have length := h.length_eq
  cases around : n.around with
  | nil =>
      -- nothing is open, and the closer does nothing
      have top : openers read = [] := List.length_eq_zero_iff.1 (by rw [← length, around]; rfl)
      have same : n.leave = n := by simp only [Nesting.leave, around]
      have none : openers (t :: read) = openers read := by rw [places, top, List.tail_nil]
      rw [same]
      refine ⟨none ▸ length, fun k hk => ?_, h.questions_eq⟩
      rw [none] at hk ⊢
      rw [questionsBehind_of_ne quiet]
      exact h.counts_eq k hk
  | cons outer rest =>
      cases opened : openers read with
      | nil => simp [around, opened] at length
      | cons place others =>
          have left : n.leave = ⟨outer, rest, n.questions - n.innermost⟩ := by
            simp only [Nesting.leave, around]
          have fewer : openers (t :: read) = others := by rw [places, opened, List.tail_cons]
          rw [left]
          refine ⟨?length, ?counts, ?questions⟩
          case length =>
            rw [fewer]
            simpa [around, opened] using length
          case counts =>
            intro k hk
            rw [fewer] at hk ⊢
            rw [questionsBehind_of_ne quiet]
            have before := h.counts_eq (k + 1) (by rw [opened]; exact Nat.succ_le_succ hk)
            simpa only [counts, around, opened, List.drop_succ_cons] using before
          case questions =>
            have before := h.questions_eq
            simp only [counts, around, List.foldr_cons] at before ⊢
            omega

theorem neutral (h : Tallies n read) {t : Token} (ht : isNeutral t) : Tallies n (t :: read) := by
  simp only [isNeutral, deepens, Bool.and_eq_true, Bool.not_eq_true', Bool.or_eq_false_iff,
    decide_eq_false_iff_not] at ht
  have places : openers (t :: read) = openers read := by simp [openers, ht]
  refine ⟨places ▸ h.length_eq, ?_, h.questions_eq⟩
  intro k hk
  rw [places] at hk ⊢
  rw [questionsBehind_of_ne ht.1.2]
  exact h.counts_eq k hk

/-- What each token does to the open levels it does to the places of the openers. -/
theorem next (h : Tallies n read) (t : Token) : Tallies (n.next t) (t :: read) := by
  by_cases ho : t.opens
  · rw [next_of_opens ho]
    exact h.enter ho
  · by_cases hq : t = .symbol .question
    · subst hq
      exact h.question
    · by_cases hc : t.closes
      · rw [next_of_closes hc]
        exact h.leave hc
      · have same : n.next t = n := by simp [Nesting.next, ho, hq, hc]
        rw [same]
        exact h.neutral (by simp [isNeutral, deepens, ho, hq, hc])

theorem after (h : Tallies n read) (ts : List Token) : Tallies (n.after ts) (ts.reverse ++ read) := by
  induction ts generalizing n read with
  | nil => exact h
  | cons t ts ih =>
      rw [List.reverse_cons, List.append_assoc]
      exact ih (h.next t)

theorem ofTokens (ts : List Token) : Tallies (Nesting.start.after ts) ts.reverse := by
  simpa using start.after ts

end Tallies

/-- The token at the place takes the nesting over the limit, from some open levels on. -/
def Exceeds (limit : Nat) (n : Nesting) (tokens : List Token) (place : Nat) : Prop :=
  ∃ t, tokens[place]? = some t ∧ deepens t ∧ limit < (n.after (tokens.take (place + 1))).depth

theorem exceeds_start_iff {limit : Nat} {tokens : List Token} {place : Nat} :
    Exceeds limit start tokens place ↔ TooDeep limit tokens place := by
  simp only [Exceeds, TooDeep, (Tallies.ofTokens _).depth_eq]

theorem exceeds_zero_iff {limit : Nat} {n : Nesting} {t : Token} {ts : List Token} :
    Exceeds limit n (t :: ts) 0 ↔ deepens t ∧ limit < (n.next t).depth := by
  simp [Exceeds, Nesting.after]

theorem exceeds_succ_iff {limit : Nat} {n : Nesting} {t : Token} {ts : List Token} {place : Nat} :
    Exceeds limit n (t :: ts) (place + 1) ↔ Exceeds limit (n.next t) ts place :=
  Iff.rfl

/-- The first lexeme that is found is at the first place where the limit is exceeded. -/
theorem firstTooDeep?_eq_some {limit : Nat} {n : Nesting} {lexemes : List Lexeme} {l : Lexeme}
    (h : firstTooDeep? limit n lexemes = some l) :
    ∃ place, lexemes[place]? = some l ∧ Exceeds limit n (lexemes.map Prod.fst) place ∧
      ∀ before < place, ¬Exceeds limit n (lexemes.map Prod.fst) before := by
  induction lexemes generalizing n with
  | nil => cases h
  | cons first rest ih =>
      obtain ⟨t, span⟩ := first
      simp only [firstTooDeep?] at h
      split at h
      next deep =>
        cases h
        refine ⟨0, rfl, exceeds_zero_iff.2 (by simpa using deep), fun _ hb => ?_⟩
        cases hb
      next shallow =>
        obtain ⟨place, found, exceeds, least⟩ := ih h
        refine ⟨place + 1, found, exceeds_succ_iff.2 exceeds, fun before hb => ?_⟩
        cases before with
        | zero =>
            intro here
            exact shallow (by simpa using exceeds_zero_iff.1 here)
        | succ before => exact mt exceeds_succ_iff.1 (least before (Nat.lt_of_succ_lt_succ hb))

theorem firstTooDeep?_eq_none {limit : Nat} {n : Nesting} {lexemes : List Lexeme}
    (h : firstTooDeep? limit n lexemes = none) (place : Nat) :
    ¬Exceeds limit n (lexemes.map Prod.fst) place := by
  induction lexemes generalizing n place with
  | nil =>
      rintro ⟨t, found, -⟩
      cases found
  | cons first rest ih =>
      obtain ⟨t, span⟩ := first
      simp only [firstTooDeep?] at h
      split at h
      next => cases h
      next shallow =>
        cases place with
        | zero =>
            intro here
            exact shallow (by simpa using exceeds_zero_iff.1 here)
        | succ place => exact mt exceeds_succ_iff.1 (ih h place)

/-- The error for a token that is nested too deep. -/
def tooDeepError (source : String) (limit : Nat) (l : Lexeme) : SyntaxError :=
  { fault := .nestingTooDeep limit
    rule := some .nesting
    expected := []
    found := some l.1
    position := (LineTable.ofSource source).position l.2.start
    span := l.2 }

/-- The first lexeme that takes the nesting over the limit. -/
def IsFirstTooDeep (limit : Nat) (lexemes : List Lexeme) (l : Lexeme) : Prop :=
  ∃ place, lexemes[place]? = some l ∧ TooDeep limit (lexemes.map Prod.fst) place ∧
    ∀ before < place, ¬TooDeep limit (lexemes.map Prod.fst) before

theorem check_of_none {source : String} {limit : Nat} {lexemes : List Lexeme}
    (h : firstTooDeep? limit start lexemes = none) : check source limit lexemes = .ok () := by
  simp only [check, h]

theorem check_of_some {source : String} {limit : Nat} {lexemes : List Lexeme} {l : Lexeme}
    (h : firstTooDeep? limit start lexemes = some l) :
    check source limit lexemes = .error (tooDeepError source limit l) := by
  simp only [check, h]
  rfl

theorem isFirstTooDeep_of_some {limit : Nat} {lexemes : List Lexeme} {l : Lexeme}
    (h : firstTooDeep? limit start lexemes = some l) : IsFirstTooDeep limit lexemes l := by
  simpa only [IsFirstTooDeep, exceeds_start_iff] using firstTooDeep?_eq_some h

theorem not_tooDeep_of_none {limit : Nat} {lexemes : List Lexeme}
    (h : firstTooDeep? limit start lexemes = none) (place : Nat) :
    ¬TooDeep limit (lexemes.map Prod.fst) place :=
  fun deep => firstTooDeep?_eq_none h place (exceeds_start_iff.2 deep)

theorem IsFirstTooDeep.unique {limit : Nat} {lexemes : List Lexeme} {l l' : Lexeme}
    (h : IsFirstTooDeep limit lexemes l) (h' : IsFirstTooDeep limit lexemes l') : l = l' := by
  obtain ⟨place, found, deep, least⟩ := h
  obtain ⟨place', found', deep', least'⟩ := h'
  have same : place = place' :=
    Nat.le_antisymm (Nat.not_lt.1 fun lt => least place' lt deep')
      (Nat.not_lt.1 fun lt => least' place lt deep)
  rw [same] at found
  exact Option.some.inj (found.symm.trans found')

theorem TooDeep.mono {limit limit' : Nat} (h : limit ≤ limit') {tokens : List Token} {place : Nat}
    (deep : TooDeep limit' tokens place) : TooDeep limit tokens place := by
  obtain ⟨t, found, deepens, beyond⟩ := deep
  exact ⟨t, found, deepens, Nat.lt_of_le_of_lt h beyond⟩

theorem check_iff_levels (source : String) (limit : Nat) (lexemes : List Lexeme) :
    check source limit lexemes = .ok () ↔ ∀ place, ¬TooDeep limit (lexemes.map Prod.fst) place := by
  cases found : firstTooDeep? limit start lexemes with
  | none => exact ⟨fun _ => not_tooDeep_of_none found, fun _ => check_of_none found⟩
  | some l =>
      rw [check_of_some found]
      obtain ⟨place, -, deep, -⟩ := isFirstTooDeep_of_some found
      exact ⟨nofun, fun h => absurd deep (h place)⟩

/-- The check of a token list accepts it exactly if no opener and no question mark is nested deeper
than the limit, and reports the first of them that is. The count of all question marks is the sum of
those of the open levels, however many tokens have been read. A larger limit refuses nothing more. -/
theorem check_meets_levels (source : String) (limit : Nat) (lexemes : List Lexeme) :
    (check source limit lexemes = .ok () ↔
      ∀ place, ¬TooDeep limit (lexemes.map Prod.fst) place) ∧
    (∀ e, check source limit lexemes = .error e ↔
      ∃ l, IsFirstTooDeep limit lexemes l ∧ e = tooDeepError source limit l) ∧
    (∀ limit' ≥ limit, check source limit lexemes = .ok () →
      check source limit' lexemes = .ok ()) ∧
    ∀ read, read <+: lexemes.map Prod.fst →
      let n := start.after read
      n.questions = n.counts.foldr (· + ·) 0 ∧ n.innermost ≤ n.questions := by
  refine ⟨check_iff_levels source limit lexemes, ?error, ?larger, ?counts⟩
  case error =>
    intro e
    cases found : firstTooDeep? limit start lexemes with
    | none =>
        rw [check_of_none found]
        refine ⟨nofun, ?_⟩
        rintro ⟨l, ⟨place, -, deep, -⟩, -⟩
        exact absurd deep (not_tooDeep_of_none found place)
    | some l =>
        rw [check_of_some found]
        constructor
        · intro same
          exact ⟨l, isFirstTooDeep_of_some found, (Except.error.inj same).symm⟩
        · rintro ⟨l', first, rfl⟩
          rw [(isFirstTooDeep_of_some found).unique first]
  case larger =>
    intro limit' larger accepted
    rw [check_iff_levels] at accepted ⊢
    exact fun place deep => accepted place (deep.mono larger)
  case counts =>
    intro read _
    have total := (Tallies.ofTokens read).questions_eq
    refine ⟨total, ?_⟩
    rw [total]
    exact Nat.le_add_right _ _

end Template.Nesting

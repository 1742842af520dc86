import Template.Proofs.Token.Lossless
import Template.Proofs.Token.Nesting

/-!
What can be heard of a source. Without a hash sign a source is text and references. Where no bracket
is open the tokens tell which of these begins, and whether it is a quiet reference; all pieces of the
source up to the next of them stand in it.
-/

namespace Template

namespace Token

/-- Where no bracket is open: does a quiet reference begin? Tokens that begin nothing go on with what
they stand behind. -/
def mutes? : Token → Option Bool
  | .reference _ quiet | .formal quiet => some quiet
  | .text _ | .newline | .unparsed _ | .escaped _ | .directive _ | .macroCall _ => some false
  | .ident _ | .str _ | .number _ | .reserved _ | .symbol _ => none

/-- Tokens that are spelled without a hash sign. -/
def Hashless : Token → Prop
  | .unparsed _ | .escaped _ | .directive _ | .macroCall _ => False
  | .str raw => '#' ∉ raw.toList
  | _ => True

theorem Spelled.hashless {t : Token} {cs : List Char} (h : t.Spelled cs) (hc : '#' ∉ cs) :
    t.Hashless := by
  have hashed {word cs : List Char} (h : Lexer.Hashed word cs) : '#' ∈ cs := by
    cases h <;> simp
  cases h with
  | unparsed => exact hc (by simp)
  | escaped pairs h => exact hc (List.mem_append_right _ (hashed h))
  | directive h | macroCall _ _ h => exact hc (hashed h)
  | str => simpa only [Hashless, String.toList_ofList] using hc
  | _ => trivial

end Token

namespace Lexer

/-- Where a token stands: inside so many brackets, in a quiet reference or not. -/
structure Standing where
  depth : Nat
  quiet : Bool

namespace Standing

def start : Standing := ⟨0, false⟩

/-- The standing of a token, and of the blanks behind it. -/
def next (s : Standing) (t : Token) : Standing where
  depth := if t.opens then s.depth + 1 else if t.closes then s.depth - 1 else s.depth
  quiet := if s.depth = 0 then t.mutes?.getD s.quiet else s.quiet

def upon (s : Standing) : Piece → Standing
  | .token t _ => s.next t
  | .comment _ | .blanks _ => s

theorem next_of_isText (s : Standing) (hs : s.depth = 0) {t : Token} (ht : t.isText) :
    s.next t = .start := by
  cases t with
  | text | newline | escaped =>
      simp [next, start, hs, Token.mutes?, Token.opens, Token.closes]
  | _ => cases ht

end Standing

/-- The characters of the pieces that stand in no quiet reference. -/
def audible (s : Standing) : List Piece → List Char
  | [] => []
  | piece :: pieces =>
    let here := s.upon piece
    (if here.quiet then [] else piece.chars) ++ audible here pieces

/-- The pieces make up the source, and the tokens among them are its tokens. -/
structure Cut (source : String) (pieces : List Piece) : Prop where
  laid : Laid (.within 0) pieces
  chars : allChars pieces = source.toList
  tokens : tokenize source = .ok (lexemesFrom 0 pieces)

theorem exists_cut {source : String} {lexemes : List Lexeme} (h : tokenize source = .ok lexemes) :
    ∃ pieces, Cut source pieces ∧ lexemesFrom 0 pieces = lexemes := by
  obtain ⟨pieces, laid, chars, rfl⟩ := run_laid .text h
  exact ⟨pieces, ⟨laid, chars, h⟩, rfl⟩

theorem Cut.hashless {source : String} {pieces : List Piece} (h : Cut source pieces)
    (hh : '#' ∉ source.toList) : ∀ l ∈ lexemesFrom 0 pieces, l.1.Hashless := by
  intro l hl
  obtain ⟨cs, hm, -⟩ := slice?_of_mem hl
  refine (h.laid.spelled hm).hashless fun hc => hh ?_
  rw [← h.chars]
  exact List.mem_flatMap.2 ⟨_, hm, hc⟩

/-- From one standing to another all tokens are quiet, or all are not. -/
inductive Heard (quiet : Bool) : Standing → List Token → Standing → Prop where
  | nil {s : Standing} : Heard quiet s [] s
  | cons {s s' : Standing} {t : Token} {ts : List Token} (hq : (s.next t).quiet = quiet)
      (h : Heard quiet (s.next t) ts s') : Heard quiet s (t :: ts) s'

namespace Heard

variable {quiet : Bool} {s s' s'' : Standing} {ts us : List Token}

theorem append (ht : Heard quiet s ts s') (hu : Heard quiet s' us s'') :
    Heard quiet s (ts ++ us) s'' := by
  induction ht with
  | nil => exact hu
  | cons hq _ ih => exact .cons hq (ih hu)

theorem single {t : Token} (hn : s.next t = s') (hq : s'.quiet = quiet) : Heard quiet s [t] s' := by
  subst hn
  exact .cons hq .nil

/-- Behind an open bracket nothing begins until it is closed. -/
theorem ofBracketed {levels : Nat} (h : Bracketed levels ts) (depth : Nat) :
    Heard quiet ⟨depth + 1, quiet⟩ ts ⟨depth + 1, quiet⟩ := by
  induction h generalizing depth with
  | nil => exact .nil
  | single hn =>
      simp only [Nesting.isNeutral, Nesting.deepens, Bool.and_eq_true, Bool.not_eq_true',
        Bool.or_eq_false_iff] at hn
      exact .single (by simp [Standing.next, hn]) rfl
  | append _ _ iht ihu => exact (iht depth).append (ihu depth)
  | between ho hc _ ih =>
      refine .cons (by simp [Standing.next]) (.append ?_ (.single (s := ⟨depth + 2, quiet⟩) ?_ rfl))
      · simpa [Standing.next, ho] using ih (depth + 1)
      · simp [Standing.next, hc, Token.not_opens_of_closes hc]
  | question _ ih => exact .cons (by simp [Standing.next]) (ih depth)
  | mono _ _ ih => exact ih depth

/-- Where no bracket is open, text is audible. -/
theorem texts (h : ∀ t ∈ ts, t.isText) (hs : s.depth = 0) :
    ∃ s', s'.depth = 0 ∧ Heard false s ts s' := by
  induction ts generalizing s with
  | nil => exact ⟨s, hs, .nil⟩
  | cons t ts ih =>
      obtain ⟨ht, h⟩ := List.forall_mem_cons.1 h
      obtain ⟨s', hs', heard⟩ := ih h (s := .start) rfl
      have next : s.next t = .start := s.next_of_isText hs ht
      exact ⟨s', hs', .cons (by rw [next]; rfl) (next ▸ heard)⟩

/-- The pieces of the tokens, and the blanks between them, are audible or not as the tokens are. -/
theorem audible_append {offset : Nat} {front : List Piece}
    (h : Heard quiet s ((lexemesFrom offset front).map Prod.fst) s') (hs : s.quiet = quiet)
    (rest : List Piece) :
    audible s (front ++ rest) = (if quiet then [] else allChars front) ++ audible s' rest := by
  induction front generalizing offset s with
  | nil =>
      cases h
      simp [allChars]
  | cons piece front ih =>
      cases piece with
      | token t cs =>
          cases h with
          | cons hq h =>
              rw [List.cons_append, audible, Standing.upon, ih h hq, hq]
              cases quiet <;> simp [allChars]
      | comment cs | blanks cs =>
          rw [List.cons_append, audible, Standing.upon, ih h hs, hs]
          cases quiet <;> simp [allChars]

end Heard

theorem hashless_cons {piece : Piece} {pieces : List Piece}
    (h : '#' ∉ allChars (piece :: pieces)) : '#' ∉ piece.chars ∧ '#' ∉ allChars pieces := by
  rwa [allChars, List.flatMap_cons, List.mem_append, not_or] at h

/-- Without a hash sign there are tokens, and in code blanks. -/
theorem Laid.cons_of_hashless {depth : Nat} {piece : Piece} {pieces : List Piece}
    (h : Laid (.within depth) (piece :: pieces)) (hh : '#' ∉ piece.chars) :
    (∃ t cs, piece = .token t cs ∧ t.Spelled cs ∧ t.Hashless ∧
      Laid ((Place.within depth).after t) pieces) ∨
    ∃ cs, piece = .blanks cs ∧ depth ≠ 0 ∧ Laid (.within depth) pieces := by
  cases h with
  | token hs h => exact .inl ⟨_, _, rfl, hs, hs.hashless hh, h⟩
  | comment hc => cases hc <;> simp [Piece.chars] at hh
  | lastComment => simp [Piece.chars] at hh
  | blanks _ h => exact .inr ⟨_, rfl, Nat.succ_ne_zero _, h⟩

theorem Place.after_of_hashless {t : Token} (h : t.Hashless) {depth : Nat} {s : Standing}
    (hd : depth ≤ s.depth) :
    ∃ depth' ≤ (s.next t).depth, (Place.within depth).after t = .within depth' := by
  cases t with
  | unparsed | escaped | directive | macroCall => cases h
  | symbol y =>
      cases y
      all_goals
        refine ⟨_, ?_, rfl⟩
        simp only [Standing.next, Token.opens, Token.closes, Place.depth]
        grind
  | _ =>
      refine ⟨_, ?_, rfl⟩
      simp only [Standing.next, Token.opens, Token.closes, Place.depth]
      grind

/-- Where the tokens have closed what they have opened, the lexer is not deeper. -/
theorem Laid.of_heard {quiet : Bool} {s s' : Standing} {offset depth : Nat}
    {front rest : List Piece} (h : Laid (.within depth) (front ++ rest)) (hd : depth ≤ s.depth)
    (hh : '#' ∉ allChars front)
    (heard : Heard quiet s ((lexemesFrom offset front).map Prod.fst) s') :
    ∃ depth' ≤ s'.depth, Laid (.within depth') rest := by
  induction front generalizing offset depth s with
  | nil =>
      cases heard
      exact ⟨depth, hd, h⟩
  | cons piece front ih =>
      obtain ⟨hp, hf⟩ := hashless_cons hh
      rcases h.cons_of_hashless hp with ⟨t, cs, rfl, -, plain, laid⟩ | ⟨cs, rfl, -, laid⟩
      · cases heard with
        | cons _ heard =>
            obtain ⟨depth', hd', he⟩ := Place.after_of_hashless plain hd
            rw [he] at laid
            exact ih laid hd' hf heard
      · exact ih laid hd hf heard

/-- Where no bracket is open a piece is a token. -/
theorem Laid.head_of_hashless {piece : Piece} {pieces : List Piece}
    (h : Laid (.within 0) (piece :: pieces)) (hh : '#' ∉ piece.chars) :
    ∃ t cs, piece = .token t cs := by
  rcases h.cons_of_hashless hh with ⟨t, cs, he, -⟩ | ⟨_, _, nonzero, _⟩
  · exact ⟨t, cs, he⟩
  · exact absurd rfl nonzero

/-- Where no bracket is open it does not matter what has been heard before. -/
theorem Heard.audible_of_laid {quiet : Bool} {s s' : Standing} {offset : Nat}
    {front rest : List Piece} (h : Heard quiet s ((lexemesFrom offset front).map Prod.fst) s')
    (laid : Laid (.within 0) (front ++ rest)) (hh : '#' ∉ allChars front) :
    audible s (front ++ rest) = (if quiet then [] else allChars front) ++ audible s' rest := by
  cases front with
  | nil =>
      cases h
      simp [allChars]
  | cons piece front =>
      obtain ⟨t, cs, rfl⟩ := laid.head_of_hashless (hashless_cons hh).1
      cases h with
      | cons hq h =>
          rw [List.cons_append, audible, Standing.upon, h.audible_append hq, hq]
          cases quiet <;> simp [allChars]

/-- Text is heard as it is written. -/
theorem Cut.audible_of_texts {source : String} {pieces : List Piece} (h : Cut source pieces)
    (ht : ∀ l ∈ lexemesFrom 0 pieces, l.1.isText) : audible .start pieces = source.toList := by
  have texts : ∀ t ∈ (lexemesFrom 0 pieces).map Prod.fst, t.isText := by
    intro t hm
    obtain ⟨l, hl, rfl⟩ := List.mem_map.1 hm
    exact ht l hl
  obtain ⟨s', -, heard⟩ := Heard.texts texts (s := .start) rfl
  have whole := heard.audible_append rfl []
  rw [List.append_nil] at whole
  rw [whole, ← h.chars]
  exact List.append_nil _

/-- Tokens at the front come from the pieces at the front, the last of which is a token. -/
theorem exists_append_of_lexemesFrom {offset : Nat} {pieces : List Piece} {la lb : List Lexeme}
    (h : lexemesFrom offset pieces = la ++ lb) :
    ∃ front rest, pieces = front ++ rest ∧ lexemesFrom offset front = la ∧
      lexemesFrom (offset + Text.byteLength (allChars front)) rest = lb ∧
      ∀ l ∈ la.getLast?, l.2.stop = offset + Text.byteLength (allChars front) := by
  cases la with
  | nil => exact ⟨[], pieces, rfl, rfl, h, nofun⟩
  | cons l la =>
      induction pieces generalizing offset l la with
      | nil => cases h
      | cons piece pieces ih =>
          have joined (front : List Piece) : Text.byteLength (allChars (piece :: front)) =
              Text.byteLength piece.chars + Text.byteLength (allChars front) := by
            rw [allChars, List.flatMap_cons, Text.byteLength_append, allChars]
          cases piece with
          | token t cs =>
              obtain ⟨rfl, more⟩ := List.cons.inj h
              cases la with
              | nil =>
                  refine ⟨[.token t cs], pieces, rfl, rfl, ?_, ?_⟩
                  · simpa [allChars, Piece.chars] using more
                  · simp [allChars, Piece.chars]
              | cons l la =>
                  obtain ⟨front, rest, rfl, same, behind, last⟩ := ih l la more
                  refine ⟨.token t cs :: front, rest, rfl, ?_, ?_, ?_⟩
                  · rw [lexemesFrom, same]
                  · rwa [joined, ← Nat.add_assoc]
                  · rwa [joined, ← Nat.add_assoc, List.getLast?_cons_cons]
          | comment cs | blanks cs =>
              obtain ⟨front, rest, rfl, same, behind, last⟩ := ih l la h
              refine ⟨_ :: front, rest, rfl, same, ?_, ?_⟩
              · rwa [joined, ← Nat.add_assoc]
              · rwa [joined, ← Nat.add_assoc]

theorem slashStep_of_hashless {rest : List Char} (h : '#' ∉ rest) (more : Nat) :
    ∃ t n, slashStep more rest = .emit t n .text ∧ t.isText := by
  simp only [slashStep]
  split
  next n hn =>
    split at hn
    · simp at h
    · cases hn
  next => split <;> exact ⟨_, _, rfl, by rfl⟩

/-- Without a dollar sign and a hash sign all is text. -/
theorem textStep_of_plain {c : Char} {cs : List Char} (hd : '$' ∉ c :: cs) (hh : '#' ∉ c :: cs) :
    ∃ t n, textStep c cs = .emit t n .text ∧ t.isText := by
  simp only [List.mem_cons, not_or] at hd hh
  have dollar : (c == '$') = false := by simpa using Ne.symm hd.1
  have hash : (c == '#') = false := by simpa using Ne.symm hh.1
  simp only [textStep, dollar, hash, Bool.false_eq_true, if_false]
  split
  · exact slashStep_of_hashless (fun h => hh.2 (List.mem_of_mem_drop h)) _
  · split <;> exact ⟨_, _, rfl, by rfl⟩

theorem run_of_plain {cs : List Char} (hd : '$' ∉ cs) (hh : '#' ∉ cs) (offset : Nat) :
    ∃ lexemes, run .text offset cs = .ok lexemes ∧ ∀ l ∈ lexemes, l.1.isText := by
  induction hl : cs.length using Nat.strong_induction_on generalizing cs offset with
  | _ n ih =>
      subst hl
      cases cs with
      | nil => exact ⟨[], by rw [run], nofun⟩
      | cons c cs =>
          obtain ⟨t, more, step, ht⟩ := textStep_of_plain hd hh
          have fewer : (cs.drop more).length < (c :: cs).length := by
            rw [List.length_drop, List.length_cons]
            omega
          obtain ⟨lexemes, rest, texts⟩ := ih _ fewer
            (fun h => hd (List.mem_cons_of_mem _ (List.mem_of_mem_drop h)))
            (fun h => hh (List.mem_cons_of_mem _ (List.mem_of_mem_drop h)))
            (offset + Text.byteLength (c :: cs.take more)) rfl
          refine ⟨(t, ⟨offset, offset + Text.byteLength (c :: cs.take more)⟩) :: lexemes, ?_, ?_⟩
          · rw [run]
            simp only [Lexer.step, step, rest]
          · simpa using ⟨ht, fun a b h => texts (a, b) h⟩

end Lexer

end Template

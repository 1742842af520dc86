import Template.Proofs.Markup.Depth
import Template.Proofs.Markup.Lines
import Template.Proofs.Markup.RoundTrip
import Template.Proofs.Token.Audible

/-!
The markup of a source without a hash sign: text and references, one behind the other without a gap.
Each segment has the pieces of its tokens to itself, and so what is printed for it, if no reference
has a value, is what can be heard of these pieces.
-/

namespace Template.Markup

namespace Segment

/-- Text or a reference. -/
inductive Inline : Segment → Prop where
  | text (content : String) (span : Span) : Inline (.text content span)
  | reference (e : Expr) (quiet : Bool) (span : Span) : Inline (.reference e quiet span)
  | formal (inner : Expr) (quiet : Bool) (span : Span) : Inline (.formal inner quiet span)

def isQuiet : Segment → Bool
  | .reference _ quiet _ | .formal _ quiet _ => quiet
  | _ => false

/-- What is printed for text, and for a reference without a value. -/
def echo (source : List Char) : Segment → List Char
  | .text content _ => content.toList
  | s => if s.isQuiet then [] else (Text.slice? s.span.start s.span.stop source).getD []

end Segment

/-! ### Markup without a hash sign -/

theorem Fits.hashless {layout : List Layout} {ls : List Lexeme} (h : Fits layout ls)
    (hl : ∀ l ∈ ls, l.1.Hashless) : ∀ t ∈ Layout.allTokens layout, t.Hashless := by
  induction h with
  | nil => nofun
  | token _ ih =>
      obtain ⟨ht, hl⟩ := List.forall_mem_cons.1 hl
      exact List.forall_mem_cons.2 ⟨ht, ih hl⟩
  | target _ ih =>
      exact List.forall_mem_cons.2 ⟨trivial, ih (List.forall_mem_cons.1 hl).2⟩
  | run _ _ _ ih =>
      exact List.forall_mem_cons.2 ⟨trivial, ih (List.forall_mem_append.1 hl).2⟩
  | @comma written _ _ _ _ ih =>
      have behind := ih (List.forall_mem_cons.1 hl).2
      cases written with
      | false => exact behind
      | true => exact List.forall_mem_cons.2 ⟨trivial, behind⟩
  | @noComma written _ _ _ ih =>
      cases written with
      | false => exact ih hl
      | true => exact List.forall_mem_cons.2 ⟨trivial, ih hl⟩
  | part _ _ _ ihi ihm =>
      obtain ⟨inside, more⟩ := List.forall_mem_append.1 hl
      exact List.forall_mem_append.2 ⟨ihi inside, ihm more⟩

theorem Segment.inline_of_hashless {s : Segment} (h : ∀ t ∈ s.tokens, t.Hashless) : s.Inline := by
  cases s with
  | text content span => exact .text content span
  | reference e quiet span => exact .reference e quiet span
  | formal inner quiet span => exact .formal inner quiet span
  | conditional first =>
      obtain ⟨_, _, _⟩ := first
      exact (h (.directive .ifThen) (by simp [tokens_conditional, Arm.tokens])).elim
  | macroCall name arguments =>
      cases arguments with
      | none => exact (h (.macroCall name) (List.mem_cons_self ..)).elim
      | some arguments => exact (h (.macroCall name) (List.mem_cons_self ..)).elim
  | unparsed | assign | loop | leave | stop | define | evaluate | parse | embed =>
      exact (h _ (List.mem_cons_self ..)).elim

/-- What is read from a source without a hash sign. -/
structure Segment.Plain (s : Segment) : Prop where
  inline : s.Inline
  shaped : s.Shaped
  hashless : ∀ t ∈ s.tokens, t.Hashless

theorem plain_of_parseSegments {source : String} {lexemes : List Lexeme} {limit : Nat}
    {body : List Segment} (hl : ∀ l ∈ lexemes, l.1.Hashless)
    (h : parseSegments source lexemes limit = .ok body) :
    Fits (layoutBody body) lexemes ∧ ∀ s ∈ body, s.Plain := by
  obtain ⟨next, missed, h⟩ := parseSegments_eq_ok h
  obtain ⟨fits, shaped⟩ := Grammar.template_takes h
  refine ⟨fits, fun s hs => ?_⟩
  have plain : ∀ t ∈ s.tokens, t.Hashless := by
    intro t ht
    refine Fits.hashless fits hl t ?_
    rw [Layout.allTokens_body]
    exact List.mem_flatMap.2 ⟨s, hs, ht⟩
  exact ⟨Segment.inline_of_hashless plain, shaped.segments s hs, plain⟩

/-- Where there are no directives nothing is gobbled. -/
theorem gobble_of_inline (mode : Gobbling) {body : List Segment} (h : ∀ s ∈ body, s.Inline) :
    gobble mode body = body := by
  have unmarked : ∀ x ∈ outline body, Outline.isMark x = false := by
    induction body with
    | nil => nofun
    | cons s ss ih =>
        obtain ⟨hs, h⟩ := List.forall_mem_cons.1 h
        refine List.forall_mem_append.2 ⟨?_, ih h⟩
        cases hs <;> simp [Segment.outline, Outline.isMark, Item.isMark]
  have kept : ∀ line ∈ (outline body).lines, line.trimmed mode = line := by
    intro line hline
    have marks : line.marks = [] := by
      refine List.filter_eq_nil_iff.2 fun item hi => ?_
      obtain ⟨x, hx, rfl⟩ := List.mem_filterMap.1 hi
      have inside : some item ∈ (outline body).lines.flatten := List.mem_flatten.2 ⟨line, hline, hx⟩
      rw [Outline.lines, flatten_cutAfter] at inside
      simpa [Outline.isMark] using unmarked _ inside
    exact if_neg fun gobbled => gobbled.2.1 marks
  refine gobble_of_outline rfl ?_
  rw [List.flatMap_congr kept]
  simp [Outline.lines, List.flatMap_def, flatten_cutAfter]

/-! ### Which pieces are heard -/

theorem Fits.inside {span : Span} {inside : List Layout} {ls : List Lexeme}
    (h : Fits [.part span inside] ls) : Fits inside ls := by
  simpa only [List.append_nil] using h.unpart

open Lexer

section

variable {quiet : Bool} {st : Standing} {ls : List Lexeme}

/-- What stands between brackets is heard as the bracket in front of it. -/
theorem heard_between {opener closer : Token} (inside : List Layout) {levels : Nat}
    (ho : opener.opens) (hc : closer.closes) (hq : opener.mutes?.getD st.quiet = quiet)
    (h0 : st.depth = 0) (hi : Layout.Nest levels inside)
    (hf : Fits (.token opener :: (inside ++ [.token closer])) ls) :
    Heard quiet st (ls.map Prod.fst) ⟨0, quiet⟩ := by
  cases hf with
  | token hf =>
      obtain ⟨la, lb, rfl, ha, hb⟩ := hf.split
      cases hb with
      | token hb =>
          cases hb
          have first : st.next opener = ⟨1, quiet⟩ := by simp [Standing.next, h0, ho, hq]
          have last : (⟨1, quiet⟩ : Standing).next closer = ⟨0, quiet⟩ := by
            simp [Standing.next, hc, Token.not_opens_of_closes hc]
          rw [List.map_cons, List.map_append]
          refine .cons (by rw [first]) ?_
          rw [first]
          exact (Heard.ofBracketed (hi la ha) 0).append (.single last rfl)

theorem Suffix.Shaped.heard {s : Suffix} (hs : s.Shaped) (hf : Fits [s.layout] ls) :
    Heard quiet ⟨0, quiet⟩ (ls.map Prod.fst) ⟨0, quiet⟩ := by
  cases hs with
  | property =>
      replace hf := hf.inside
      cases hf with
      | token hf =>
          cases hf with
          | token hf =>
              cases hf
              exact .cons rfl (.single rfl rfl)
  | call h =>
      have fits := hf.inside
      exact heard_between _ rfl rfl rfl rfl (nest_separated (nest_each _ h)) fits
  | index h =>
      have fits := hf.inside
      exact heard_between [_] rfl rfl rfl rfl (Expr.nest _ h) fits

theorem heard_suffixes {suffixes : List Suffix} (h : ∀ s ∈ suffixes, s.Shaped)
    (hf : Fits (layoutSuffixes suffixes) ls) :
    Heard quiet ⟨0, quiet⟩ (ls.map Prod.fst) ⟨0, quiet⟩ := by
  induction suffixes generalizing ls with
  | nil =>
      cases hf
      exact .nil
  | cons s ss ih =>
      obtain ⟨hs, h⟩ := List.forall_mem_cons.1 h
      obtain ⟨la, lb, rfl, ha, hb⟩ := Fits.split (a := [s.layout]) hf
      rw [List.map_append]
      exact (hs.heard ha).append (ih h hb)

/-- A reference is heard or not with all its tail. -/
theorem Expr.heard {e : Expr} (hn : e.Named quiet) (hs : e.Shaped) (h0 : st.depth = 0)
    (hf : Fits [e.layout] ls) : Heard quiet st (ls.map Prod.fst) ⟨0, quiet⟩ := by
  have named (name : String) : st.next (.reference name quiet) = ⟨0, quiet⟩ := by
    simp [Standing.next, h0, Token.opens, Token.closes, Token.mutes?]
  cases hn with
  | primary =>
      replace hf := hf.inside
      cases hf with
      | token hf =>
          cases hf
          exact .single (named _) rfl
  | applied =>
      cases hs with
      | applied _ _ hs =>
          replace hf := hf.inside.unpart
          cases hf with
          | token hf =>
              refine .cons (by rw [named]) ?_
              rw [named]
              exact heard_suffixes hs hf

theorem Segment.Inline.heard {s : Segment} (hi : s.Inline) (hs : s.Shaped) (h0 : st.depth = 0)
    (hf : Fits [s.layout] ls) :
    ∃ st', st'.depth = 0 ∧ Heard s.isQuiet st (ls.map Prod.fst) st' := by
  cases hi with
  | text =>
      replace hf := hf.inside
      cases hf with
      | run _ ht hf =>
          cases hf
          rw [List.append_nil]
          refine Heard.texts (fun t h => ?_) h0
          obtain ⟨l, hl, rfl⟩ := List.mem_map.1 h
          exact ht l hl
  | reference e quiet =>
      cases hs with
      | reference hn hs =>
          have fits := hf.inside
          exact ⟨⟨0, quiet⟩, rfl, Expr.heard hn hs h0 fits⟩
  | formal inner quiet =>
      cases hs with
      | formal hn hs =>
          have fits := hf.inside
          exact ⟨⟨0, quiet⟩, rfl,
            heard_between [_] rfl rfl rfl h0 (inner.nest_inBraces hn hs) fits⟩

end

/-! ### What is printed -/

/-- Text stands for the characters of its pieces. -/
theorem literalText_of_texts {offset : Nat} {front rest : List Piece}
    (laid : Laid (.within 0) (front ++ rest)) (hh : '#' ∉ allChars front)
    (ht : ∀ l ∈ lexemesFrom offset front, l.1.isText) :
    (Lexeme.literalText (lexemesFrom offset front)).toList = allChars front := by
  induction front generalizing offset with
  | nil => rfl
  | cons piece front ih =>
      obtain ⟨hp, hf⟩ := hashless_cons hh
      rcases laid.cons_of_hashless hp with ⟨t, cs, rfl, spelled, plain, laid⟩ | ⟨_, _, nonzero, _⟩
      · obtain ⟨text, ht⟩ := List.forall_mem_cons.1 ht
        have content : t.literalText? = some (String.ofList cs) ∧
            (Place.within 0).after t = .within 0 := by
          cases spelled with
          | text | newline => exact ⟨rfl, rfl⟩
          | escaped => cases plain
          | _ => cases text
        rw [content.2] at laid
        rw [lexemesFrom, Lexeme.literalText_cons content.1, String.toList_append, ih laid hf ht,
          String.toList_ofList]
        rfl
      · exact absurd rfl nonzero

theorem Fits.covers {span : Span} {inside : List Layout} {ls : List Lexeme}
    (h : Fits [.part span inside] ls) : span.Covers ls := by
  cases h with
  | part _ hs h =>
      cases h
      rwa [List.append_nil]

section

variable {before : List Char} {front rest : List Piece}

/-- What covers the tokens of some pieces covers the pieces. -/
theorem slice_of_covers {span : Span} (laid : Laid (.within 0) (front ++ rest))
    (hh : '#' ∉ allChars front)
    (covers : span.Covers (lexemesFrom (Text.byteLength before) front))
    (last : ∀ l ∈ (lexemesFrom (Text.byteLength before) front).getLast?,
      l.2.stop = Text.byteLength before + Text.byteLength (allChars front)) :
    Text.slice? span.start span.stop (before ++ (allChars front ++ allChars rest)) =
      some (allChars front) := by
  obtain ⟨l, l', first, final, rfl⟩ := covers
  cases front with
  | nil => cases first
  | cons piece front =>
      obtain ⟨t, cs, rfl⟩ := laid.head_of_hashless (hashless_cons hh).1
      rw [last l' final]
      cases first
      exact Text.slice?_append before _ _

theorem Segment.Inline.echo_eq {s : Segment} (hi : s.Inline)
    (laid : Laid (.within 0) (front ++ rest)) (hh : '#' ∉ allChars front)
    (hf : Fits [s.layout] (lexemesFrom (Text.byteLength before) front))
    (last : ∀ l ∈ (lexemesFrom (Text.byteLength before) front).getLast?,
      l.2.stop = Text.byteLength before + Text.byteLength (allChars front)) :
    s.echo (before ++ (allChars front ++ allChars rest)) =
      if s.isQuiet then [] else allChars front := by
  cases hi with
  | text content span =>
      generalize found : lexemesFrom (Text.byteLength before) front = ls at hf
      replace hf := hf.inside
      cases hf with
      | run _ ht hf =>
          cases hf
          rw [List.append_nil] at found
          subst found
          exact literalText_of_texts laid hh ht
  | reference e quiet span | formal inner quiet span =>
      have slice := slice_of_covers laid hh hf.covers last
      simp only [echo, Segment.span, slice, Option.getD_some]

end

/-- What can be heard of a source is what its segments print. -/
theorem audible_eq_echo {body : List Segment} (hb : ∀ s ∈ body, s.Plain) (before : List Char)
    {pieces : List Piece} (laid : Laid (.within 0) pieces) (hh : '#' ∉ allChars pieces)
    (hf : Fits (layoutBody body) (lexemesFrom (Text.byteLength before) pieces)) (st : Standing)
    (h0 : st.depth = 0) :
    audible st pieces = body.flatMap (Segment.echo (before ++ allChars pieces)) := by
  induction body generalizing before pieces st with
  | nil =>
      cases pieces with
      | nil => rfl
      | cons piece pieces =>
          obtain ⟨t, cs, rfl⟩ := laid.head_of_hashless (hashless_cons hh).1
          cases hf
  | cons s ss ih =>
      obtain ⟨⟨hi, hs, -⟩, hb⟩ := List.forall_mem_cons.1 hb
      obtain ⟨la, lb, split, ha, hss⟩ := Fits.split (a := [s.layout]) hf
      obtain ⟨front, rest, rfl, rfl, rfl, last⟩ := exists_append_of_lexemesFrom split
      have whole : allChars (front ++ rest) = allChars front ++ allChars rest := List.flatMap_append
      rw [whole, List.mem_append, not_or] at hh
      obtain ⟨st', h0', heard⟩ := hi.heard hs h0 ha
      obtain ⟨depth, hd, behind⟩ := laid.of_heard (Nat.zero_le _) hh.1 heard
      obtain rfl : depth = 0 := by omega
      have printed := hi.echo_eq laid hh.1 ha last
      have more := ih hb (before ++ allChars front) behind hh.2
        (by rwa [Text.byteLength_append]) st' h0'
      rw [List.append_assoc] at more
      rw [heard.audible_of_laid laid hh.1, List.flatMap_cons, whole, printed, more]

/-! ### Nothing but text -/

namespace Grammar

open Template.Markup.Parser

theorem exists_literalText? {t : Token} (h : t.isText) :
    ∃ content, t.literalText? = some content := by
  cases t with
  | text | newline | escaped => exact ⟨_, rfl⟩
  | _ => cases h

theorem pieces_give {ts : List Token} (h : ∀ t ∈ ts, t.isText) :
    (many (select Token.literalText?)).Gives ts (fun _ => True) [] := by
  induction ts with
  | nil => exact (Gives.many_nil (.select (by simp))).mono fun _ _ => trivial
  | cons t ts ih =>
      obtain ⟨ht, h⟩ := List.forall_mem_cons.1 h
      obtain ⟨content, hc⟩ := exists_literalText? ht
      exact (Gives.many_cons (by simp) (.select hc) (ih h)).mono fun _ _ => trivial

/-- Tokens of text make one segment. -/
theorem texts_give {t : Token} {ts : List Token} (ht : t.isText) (h : ∀ t ∈ ts, t.isText) :
    text.Gives (t :: ts) (·.isText) [] := by
  obtain ⟨content, hc⟩ := exists_literalText? ht
  have pieces : (manyOne (select Token.literalText?)).Gives (t :: ts) (fun _ => True) [] :=
    .bind (.select hc) fun _ _ => .bind (pieces_give h) fun _ _ => .pure trivial
  rw [text_eq]
  exact .bind pieces.spanned fun _ _ => .pure rfl

theorem template_gives_texts {ts : List Token} (h : ∀ t ∈ ts, t.isText) :
    template.Gives ts (fun body => ∀ s ∈ body, s.isText) [] := by
  refine ⟨fun {c} hc => ?_⟩
  have last (body : Parser (List Segment)) : (many (segment body)).Gives [] (· = []) [] :=
    .many_nil (segment_fails nofun)
  have found (body : Parser (List Segment)) :
      (many (segment body)).Gives ts (fun body => ∀ s ∈ body, s.isText) [] := by
    cases ts with
    | nil => exact (last body).mono fun _ none => by simp [none]
    | cons t ts =>
        obtain ⟨ht, h⟩ := List.forall_mem_cons.1 h
        have first : (segment body).Gives (t :: ts) (·.isText) [] := by
          refine segment_of_head (a := (Token.isText, text)) ?_ (texts_give ht h)
          simp [alternatives, ht]
        refine (Gives.many_cons (by simp) first (last body)).mono ?_
        rintro _ ⟨s, _, rfl, hs, rfl⟩
        exact List.forall_mem_singleton.2 hs
  have whole : Gives (do
      let segments ← bodyWithin (c.rest.length + 1)
      endOfInput
      return segments) ts (fun body => ∀ s ∈ body, s.isText) [] :=
    .bind (found _) fun _ hb => .bind .endOfInput fun _ _ => .pure hb
  exact whole.given hc

end Grammar

end Template.Markup

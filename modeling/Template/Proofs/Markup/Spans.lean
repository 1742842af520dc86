import Template.Proofs.Markup.Layout
import Template.Proofs.Source.Regions
import Template.Proofs.Token.Lossless

/-!
Spans over the tokens that they run over. A span that starts where a token does and stops where one
does lies between characters of the source; a span that covers tokens contains whatever lies among
them.
-/

namespace Template

/-- The tokens are spelled one behind the other in the source, their spans counted from `offset`. -/
structure Lexeme.Stand (source : List Char) (offset : Nat) (ls : List Lexeme) : Prop where
  spelled : ∀ l ∈ ls, ∃ before cs after, source = before ++ (cs ++ after) ∧ l.1.Spelled cs ∧
    l.2.shift offset = ⟨Text.byteLength before, Text.byteLength (before ++ cs)⟩
  ascend : ls.Pairwise fun a b => a.2.stop ≤ b.2.start

/-- The span runs from where a token starts to where one stops. -/
structure Span.Runs (s : Span) (ls : List Lexeme) : Prop where
  ordered : s.start ≤ s.stop
  starts : ∃ l ∈ ls, l.2.start = s.start
  stops : ∃ l ∈ ls, l.2.stop = s.stop

theorem Span.Runs.mono {s : Span} {ls ls' : List Lexeme} (h : s.Runs ls) (hl : ls ⊆ ls') :
    s.Runs ls' := by
  obtain ⟨ordered, ⟨l, first, starts⟩, ⟨l', last, stops⟩⟩ := h
  exact ⟨ordered, ⟨l, hl first, starts⟩, ⟨l', hl last, stops⟩⟩

theorem Span.Runs.cover {s t : Span} {ls : List Lexeme} (hs : s.Runs ls) (ht : t.Runs ls) :
    (s.cover t).Runs ls where
  ordered := (Nat.min_le_left _ _).trans (hs.ordered.trans (Nat.le_max_left _ _))
  starts := by
    rcases Nat.le_total s.start t.start with h | h
    · simpa only [Span.cover, Nat.min_eq_left h] using hs.starts
    · simpa only [Span.cover, Nat.min_eq_right h] using ht.starts
  stops := by
    rcases Nat.le_total s.stop t.stop with h | h
    · simpa only [Span.cover, Nat.max_eq_right h] using ht.stops
    · simpa only [Span.cover, Nat.max_eq_left h] using hs.stops

namespace Lexeme.Stand

variable {source : List Char} {offset : Nat} {ls la lb : List Lexeme} {s t : Span}

/-- The pieces of a text that begins behind `front`. -/
theorem ofPieces {pieces : List Lexer.Piece}
    (hs : ∀ t cs, .token t cs ∈ pieces → t.Spelled cs) (front back : List Char) :
    Stand (front ++ (Lexer.allChars pieces ++ back)) (Text.byteLength front)
      (Lexer.lexemesFrom 0 pieces) := by
  refine ⟨fun l hl => ?_, Lexer.lexemesFrom_ascend 0 pieces⟩
  obtain ⟨before, t, cs, after, rfl, rfl⟩ := Lexer.exists_of_mem_lexemesFrom hl
  refine ⟨front ++ Lexer.allChars before, cs, Lexer.allChars after ++ back, ?_,
    hs t cs (by simp), ?_⟩
  · simp [Lexer.allChars, Lexer.Piece.chars]
  · simp [Span.shift, Text.byteLength_append, Nat.add_comm]

theorem restrict (h : Stand source offset ls) (hl : la <:+: ls) : Stand source offset la :=
  ⟨fun l hm => h.spelled l (hl.subset hm), h.ascend.sublist hl.sublist⟩

theorem ordered (h : Stand source offset ls) {l : Lexeme} (hl : l ∈ ls) :
    l.2.start ≤ l.2.stop := by
  obtain ⟨before, cs, after, -, -, span⟩ := h.spelled l hl
  have start := congrArg Span.start span
  have stop := congrArg Span.stop span
  simp only [Span.shift, Text.byteLength_append] at start stop
  omega

theorem contains_of_mem (h : Stand source offset ls) (hs : s.Covers ls) {l : Lexeme} (hl : l ∈ ls) :
    s.Contains l.2 := by
  obtain ⟨first, last, head, final, rfl⟩ := hs
  obtain ⟨rest, rfl⟩ := List.head?_eq_some_iff.1 head
  obtain ⟨front, whole⟩ := List.getLast?_eq_some_iff.1 final
  constructor
  · rcases List.mem_cons.1 hl with rfl | hl
    · exact Nat.le_refl _
    · exact (h.ordered (List.mem_cons_self ..)).trans ((List.pairwise_cons.1 h.ascend).1 l hl)
  · rw [whole] at hl h
    rcases List.mem_append.1 hl with hl | hl
    · have before := (List.pairwise_append.1 h.ascend).2.2 l hl last (List.mem_singleton.2 rfl)
      exact before.trans (h.ordered (by simp))
    · rw [List.mem_singleton.1 hl]

/-- A span that covers tokens contains every span among them. -/
theorem contains (h : Stand source offset ls) (hs : s.Covers ls) (ht : t.Runs ls) :
    s.Contains t := by
  obtain ⟨-, ⟨l, first, starts⟩, ⟨l', last, stops⟩⟩ := ht
  exact ⟨starts ▸ (h.contains_of_mem hs first).1, stops ▸ (h.contains_of_mem hs last).2⟩

theorem runs (h : Stand source offset ls) (hs : s.Covers ls) : s.Runs ls := by
  have hc := hs
  obtain ⟨first, last, head, final, rfl⟩ := hs
  have start := List.mem_of_mem_head? head
  have stop := List.mem_of_getLast? final
  refine ⟨?_, ⟨first, start, rfl⟩, ⟨last, stop, rfl⟩⟩
  exact (h.ordered start).trans (h.contains_of_mem hc start).2

/-- What lies among the first tokens ends before what lies among the others begins. -/
theorem disjoint (h : Stand source offset (la ++ lb)) (hs : s.Runs la) (ht : t.Runs lb) :
    s.stop ≤ t.start := by
  obtain ⟨-, -, ⟨l, first, stops⟩⟩ := hs
  obtain ⟨-, ⟨l', last, starts⟩, -⟩ := ht
  rw [← stops, ← starts]
  exact (List.pairwise_append.1 h.ascend).2.2 l first l' last

/-- A span among the tokens is the place of a part of the source. -/
theorem holds (h : Stand source offset ls) (hs : s.Runs ls) :
    ∃ inside, ((LineTable.ofChars source).region (s.shift offset)).Holds source inside := by
  obtain ⟨ordered, ⟨l, first, starts⟩, ⟨l', last, stops⟩⟩ := hs
  obtain ⟨before, cs, after, split, -, span⟩ := h.spelled l first
  obtain ⟨before', cs', after', split', -, span'⟩ := h.spelled l' last
  have start : s.start + offset = Text.byteLength before := by
    rw [← starts]
    exact congrArg Span.start span
  have stop : s.stop + offset = Text.byteLength (before' ++ cs') := by
    rw [← stops]
    exact congrArg Span.stop span'
  have front : before <+: source := ⟨cs ++ after, split.symm⟩
  have whole : before' ++ cs' <+: source := ⟨after', by rw [split', List.append_assoc]⟩
  obtain ⟨inside, inside_eq⟩ : before <+: before' ++ cs' := by
    rcases List.prefix_or_prefix_of_prefix front whole with h | ⟨more, rfl⟩
    · exact h
    · rw [Text.byteLength_append] at start
      have none : more = [] := by
        by_contra some
        have := Text.byteLength_pos some
        omega
      rw [none, List.append_nil]
  refine ⟨inside, before, after', ?_, ?_⟩
  · rw [split', ← List.append_assoc, ← inside_eq, List.append_assoc]
  · have left := LineTable.position_eq before (inside ++ after')
    have right := LineTable.position_eq (before ++ inside) after'
    rw [List.append_assoc] at right
    have source_eq : source = before ++ (inside ++ after') := by
      rw [split', ← List.append_assoc, ← inside_eq, List.append_assoc]
    rw [LineTable.region, Span.shift, start, stop, ← inside_eq, source_eq, left, right]

end Lexeme.Stand

theorem Region.Holds.slice? {r : Region} {source inside : List Char} (h : r.Holds source inside) :
    Text.slice? r.span.start r.span.stop source = some inside := by
  obtain ⟨before, after, rfl, rfl⟩ := h
  simp only [Text.byteLength_append]
  exact Text.slice?_append before inside after

namespace Markup

variable {m : List Layout} {ls la : List Lexeme}

/-- Some of the tokens, one behind the other, fit the layout. -/
def FitsIn (layout : List Layout) (ls : List Lexeme) : Prop := ∃ la, la <:+: ls ∧ Fits layout la

theorem Fits.fitsIn {layout : List Layout} (h : Fits layout ls) : FitsIn layout ls :=
  ⟨ls, List.infix_rfl, h⟩

theorem FitsIn.narrow {layout : List Layout} (h : FitsIn layout ls) (hm : m <:+: layout) :
    FitsIn m ls := by
  obtain ⟨la, hl, fits⟩ := h
  obtain ⟨a, b, rfl⟩ := hm
  obtain ⟨lab, lb, rfl, hab, -⟩ := fits.split
  obtain ⟨la, lm, rfl, -, hm⟩ := hab.split
  exact ⟨lm, List.IsInfix.trans ⟨la, lb, rfl⟩ hl, hm⟩

theorem FitsIn.front {a b : List Layout} (h : FitsIn (a ++ b) ls) : FitsIn a ls :=
  h.narrow (List.prefix_append a b).isInfix

theorem FitsIn.back {a b : List Layout} (h : FitsIn (a ++ b) ls) : FitsIn b ls :=
  h.narrow (List.suffix_append a b).isInfix

theorem FitsIn.of_mem {layout : List Layout} {l : Layout} (h : FitsIn layout ls) (hm : l ∈ layout) :
    FitsIn [l] ls := by
  obtain ⟨a, b, rfl⟩ := List.append_of_mem hm
  exact h.narrow ⟨a, b, by simp⟩

theorem Fits.mem {layout : List Layout} {l : Layout} (h : Fits layout ls) (hm : l ∈ layout) :
    FitsIn [l] ls :=
  h.fitsIn.of_mem hm

theorem FitsIn.part {span : Span} {inside : List Layout} (h : FitsIn [.part span inside] ls) :
    ∃ la, la <:+: ls ∧ span.Covers la ∧ Fits inside la := by
  obtain ⟨la, hl, fits⟩ := h
  cases fits with
  | part hi hs h =>
      cases h
      exact ⟨_, by simpa using hl, hs, hi⟩

/-- A part that is one token has the span of the token. -/
theorem Fits.eq_of_covers {t : Token} {span : Span} (h : Fits [.token t] ls)
    (covers : span.Covers ls) : ls = [(t, span)] := by
  cases h with
  | token h =>
      cases h
      obtain ⟨first, last, head, final, rfl⟩ := covers
      cases head
      cases final
      rfl

theorem Layout.mem_row {comma l : Layout} {last item : List Layout} {items : List (List Layout)}
    (hi : item ∈ items) (hl : l ∈ item) : l ∈ Layout.row comma last items := by
  have behind : ∀ items, item ∈ items → l ∈ Layout.behind comma last items := by
    intro items hi
    induction items with
    | nil => cases hi
    | cons first items ih =>
        rw [Layout.behind, List.mem_append, List.mem_cons]
        rcases List.mem_cons.1 hi with rfl | hi
        · exact .inl (.inr hl)
        · exact .inr (ih hi)
  cases items with
  | nil => cases hi
  | cons first items =>
      rw [Layout.row, List.mem_append]
      rcases List.mem_cons.1 hi with rfl | hi
      · exact .inl hl
      · exact .inr (behind items hi)

theorem mem_row_items {comma : Layout} {last : List Layout} {es : List Expr} {e : Expr}
    (h : e ∈ es) : e.layout ∈ Layout.row comma last (layoutItems es) := by
  rw [layoutItems_eq]
  exact Layout.mem_row (List.mem_map_of_mem h) (List.mem_singleton.2 rfl)

theorem mem_row_entries {comma : Layout} {last : List Layout} {entries : List (MapKey × Expr)}
    {p : MapKey × Expr} (h : p ∈ entries) :
    p.2.layout ∈ Layout.row comma last (layoutEntries entries) := by
  rw [layoutEntries_eq]
  exact Layout.mem_row (List.mem_map_of_mem h) (by simp)

theorem mem_layoutRest {rest : List (BinaryOp × Expr)} {p : BinaryOp × Expr} (h : p ∈ rest) :
    p.2.layout ∈ layoutRest rest := by
  rw [layoutRest_eq]
  exact List.mem_flatMap.2 ⟨p, h, by simp⟩

theorem mem_layoutSuffixes {suffixes : List Suffix} {s : Suffix} (h : s ∈ suffixes) :
    s.layout ∈ layoutSuffixes suffixes := by
  rw [layoutSuffixes_eq]
  exact List.mem_flatMap.2 ⟨s, h, List.mem_singleton.2 rfl⟩

end Markup

end Template

import Template.Proofs.Markup.Echo
import Template.Proofs.Render.Fallback

/-!
The trees of a source without a hash sign. There are no directives in them, in their strings neither,
so that evaluating them ends with a value and does nothing but to the store.
-/

namespace Template

/-- All changes. -/
def Footprint.anything : Footprint where
  Allows _ _ := True
  refl _ := trivial
  trans _ _ := trivial

theorem Footprint.anything_method (hosts : Hosts) (name : String) :
    anything.AllowsMethod hosts name where
  make _ _ _ := trivial
  write _ _ _ _ := trivial
  stop _ _ _ := trivial
  host _ _ _ _ _ _ := trivial

theorem forall_mem_commaRow {β : Type} {write : β → List Token} {P : Token → Prop} {xs : List β}
    (h : ∀ t ∈ Markup.commaRow write xs, P t) : ∀ x ∈ xs, ∀ t ∈ write x, P t := by
  cases xs with
  | nil => nofun
  | cons y ys =>
      obtain ⟨first, rest⟩ := List.forall_mem_append.1 h
      refine List.forall_mem_cons.2 ⟨first, fun x hx t ht => rest t ?_⟩
      exact List.mem_flatMap.2 ⟨x, hx, List.mem_cons_of_mem _ ht⟩

theorem forall_mem_between {P : Token → Prop} {opener : Token} {ts rest : List Token}
    (h : ∀ t ∈ opener :: (ts ++ rest), P t) : ∀ t ∈ ts, P t :=
  (List.forall_mem_append.1 (List.forall_mem_cons.1 h).2).1

theorem Markup.Expr.tokensInBraces_applied (name : String) (quiet : Bool) (place span : Span)
    (suffixes : List Suffix) :
    (Expr.applied (.reference name quiet place) suffixes span).tokensInBraces =
      .ident name :: suffixes.flatMap Suffix.tokens := by
  cases suffixes with
  | nil => rfl
  | cons s ss => exact Grammar.tokensInBraces_withSuffixes name quiet place span (s :: ss)

namespace Tree

/-- The expression does nothing but to the store. -/
abbrev Expr.Harmless (hosts : Hosts) (e : Expr) : Prop := e.Within .anything hosts

variable {hosts : Hosts}

/-- What is applied to an expression leaves it of the kind `P`, if nothing else is done in it than to
the store. -/
structure Applies (hosts : Hosts) (P : Expr → Prop) : Prop where
  member {object : Expr} (name : String) (place : Region) (h : P object) :
    P (.member object name place)
  call {callee : Expr} {arguments : List Expr} (place : Region) (h : P callee)
    (ha : allWithin .anything hosts arguments) : P (.call callee arguments place)
  index {container key : Expr} (place : Region) (h : P container) (hk : key.Harmless hosts) :
    P (.index container key place)

theorem Expr.Harmless.applies : Applies hosts (Expr.Harmless hosts) where
  member _ _ h := ⟨h, (Footprint.anything_method hosts _).host⟩
  call {callee _} _ h ha := by
    cases callee with
    | member object name _ => exact ⟨h.1, ha, Footprint.anything_method hosts name⟩
    | _ => trivial
  index _ h hk :=
    ⟨h, hk, Footprint.anything_method hosts _, fun _ => (Footprint.anything_method hosts _).host⟩

/-- A name with what is applied to it, in which nothing else is done than to the store. -/
inductive Expr.Rooted (hosts : Hosts) : Expr → Prop where
  | reference {name : String} {quiet : Bool} {place : Region} :
      (Expr.reference name quiet place).Rooted hosts
  | member {object : Expr} {name : String} {place : Region} (h : object.Rooted hosts) :
      (Expr.member object name place).Rooted hosts
  | call {callee : Expr} {arguments : List Expr} {place : Region} (h : callee.Rooted hosts)
      (ha : allWithin .anything hosts arguments) : (Expr.call callee arguments place).Rooted hosts
  | index {container key : Expr} {place : Region} (h : container.Rooted hosts)
      (hk : key.Harmless hosts) : (Expr.index container key place).Rooted hosts

theorem Expr.Rooted.applies : Applies hosts (Expr.Rooted hosts) where
  member _ _ h := .member h
  call _ h ha := .call h ha
  index _ h hk := .index h hk

namespace Builder

/-- Strings without a hash sign hold no directives. -/
def Plain (hosts : Hosts) (b : Builder) : Prop :=
  ∀ body offset nodes, '#' ∉ body → b.template body offset = some nodes →
    nodesWithin .anything hosts nodes

theorem not_mem_splitQuotes {raw : String} (h : '#' ∉ raw.toList) : '#' ∉ (splitQuotes raw).2 := by
  unfold splitQuotes
  cases hr : raw.toList with
  | nil => simp
  | cons quote rest =>
      rw [hr] at h
      exact fun hm => h (List.mem_cons_of_mem _ (List.dropLast_subset _ hm))

variable {b : Builder}

theorem literal_harmless (hb : b.Plain hosts) (value : Markup.Literal) (s : Span)
    (ht : value.token.Hashless) : (b.literal value s).Harmless hosts := by
  cases value with
  | str raw =>
      simp only [literal]
      split
      next nodes found =>
        split at found
        · exact hb _ _ nodes (not_mem_splitQuotes ht) found
        · cases found
      next => trivial
  | _ => trivial

theorem unaries_harmless {operand : Expr} (h : operand.Harmless hosts) (place : Region)
    (ops : List UnaryOp) : (unaries place operand ops).Harmless hosts := by
  induction ops with
  | nil => exact h
  | cons op ops ih => exact ih

open Markup in
mutual

theorem expr_harmless (hb : b.Plain hosts) : (e : Markup.Expr) → e.Shaped →
    (∀ t ∈ e.tokens, t.Hashless) → (b.expr e).Harmless hosts
  | .ternary condition thenCase elseCase _, h, ht => by
      rw [Expr.tokens_ternary] at ht
      obtain ⟨htc, ht⟩ := List.forall_mem_append.1 ht
      obtain ⟨htt, ht⟩ := List.forall_mem_append.1 (List.forall_mem_cons.1 ht).2
      cases h with
      | ternary _ hc hthen he =>
          simp only [expr]
          exact ⟨expr_harmless hb condition hc htc, expr_harmless hb thenCase hthen htt,
            expr_harmless hb elseCase he (List.forall_mem_cons.1 ht).2⟩
  | .chain first rest _, h, ht => by
      rw [Expr.tokens_chain] at ht
      obtain ⟨htf, htr⟩ := List.forall_mem_append.1 ht
      cases h with
      | chain _ _ _ hf _ hr =>
          simp only [expr]
          exact operands_harmless hb rest _ (expr_harmless hb first hf htf) hr htr
  | .unary operators operand _, h, ht => by
      rw [Expr.tokens_unary] at ht
      cases h with
      | unary _ _ h =>
          simp only [expr]
          exact unaries_harmless (expr_harmless hb operand h (List.forall_mem_append.1 ht).2) _ _
  | .applied p ss _, h, ht => by
      rw [Expr.tokens_applied] at ht
      obtain ⟨htp, hts⟩ := List.forall_mem_append.1 ht
      cases h with
      | applied _ hp hs =>
          simp only [expr]
          exact suffixes_keep hb Expr.Harmless.applies ss _ (primary_harmless hb p hp htp) hs hts
  | .primary p, h, ht => by
      cases h with
      | primary h =>
          simp only [expr]
          exact primary_harmless hb p h ht

theorem operands_harmless (hb : b.Plain hosts) : (rest : List (BinaryOp × Markup.Expr)) →
    (left : Expr) → left.Harmless hosts → (∀ p ∈ rest, p.2.Shaped) →
      (∀ t ∈ rest.flatMap fun p => p.1.token :: p.2.tokens, t.Hashless) →
      (b.operands left rest).Harmless hosts
  | [], left, hl, _, _ => by
      simp only [operands]
      exact hl
  | (op, e) :: rest, left, hl, h, ht => by
      obtain ⟨he, h⟩ := List.forall_mem_cons.1 h
      obtain ⟨hte, htr⟩ := List.forall_mem_append.1 ht
      simp only [operands]
      exact operands_harmless hb rest _
        ⟨hl, expr_harmless hb e he (List.forall_mem_cons.1 hte).2⟩ h htr

theorem suffixes_keep (hb : b.Plain hosts) {P : Expr → Prop} (hP : Applies hosts P) :
    (ss : List Suffix) → (object : Expr) → P object → (∀ s ∈ ss, s.Shaped) →
      (∀ t ∈ ss.flatMap Suffix.tokens, t.Hashless) → P (b.suffixes object ss)
  | [], object, ho, _, _ => by
      simp only [suffixes]
      exact ho
  | s :: ss, object, ho, h, ht => by
      obtain ⟨hs, h⟩ := List.forall_mem_cons.1 h
      obtain ⟨hts, ht⟩ := List.forall_mem_append.1 ht
      simp only [suffixes]
      exact suffixes_keep hb hP ss _ (suffix_keeps hb hP s object ho hs hts) h ht

theorem exprs_harmless (hb : b.Plain hosts) : (es : List Markup.Expr) → (∀ e ∈ es, e.Shaped) →
    (∀ e ∈ es, ∀ t ∈ e.tokens, t.Hashless) → allWithin .anything hosts (b.exprs es)
  | [], _, _ => by
      simp only [exprs]
      trivial
  | e :: es, h, ht => by
      obtain ⟨he, h⟩ := List.forall_mem_cons.1 h
      obtain ⟨hte, ht⟩ := List.forall_mem_cons.1 ht
      simp only [exprs]
      exact ⟨expr_harmless hb e he hte, exprs_harmless hb es h ht⟩

theorem entries_harmless (hb : b.Plain hosts) : (entries : List (MapKey × Markup.Expr)) →
    (∀ p ∈ entries, p.2.Shaped) → (∀ p ∈ entries, ∀ t ∈ entryTokens p, t.Hashless) →
      entriesWithin .anything hosts (b.entries entries)
  | [], _, _ => by
      simp only [entries]
      trivial
  | (key, e) :: rest, h, ht => by
      obtain ⟨he, h⟩ := List.forall_mem_cons.1 h
      obtain ⟨hte, ht⟩ := List.forall_mem_cons.1 ht
      have tokens : ∀ t ∈ e.tokens, t.Hashless := fun t hm =>
        hte t (List.mem_cons_of_mem _ (List.mem_cons_of_mem _ hm))
      simp only [entries]
      exact ⟨expr_harmless hb e he tokens, entries_harmless hb rest h ht⟩

theorem primary_harmless (hb : b.Plain hosts) : (p : Primary) → p.Shaped →
    (∀ t ∈ p.tokens, t.Hashless) → (b.primary p).Harmless hosts
  | .literal value s, _, ht => by
      simp only [primary]
      exact literal_harmless hb value s (ht _ (List.mem_cons_self ..))
  | .reference _ _ _, _, _ => by
      simp only [primary]
      trivial
  | .formal inner _ _, h, ht => by
      rw [Primary.tokens_formal] at ht
      cases h with
      | formal hn h =>
          simp only [primary]
          exact inBraces_harmless hb inner hn h (forall_mem_between ht)
  | .group inner _, h, ht => by
      rw [Primary.tokens_group] at ht
      cases h with
      | group h =>
          simp only [primary]
          exact expr_harmless hb inner h (forall_mem_between ht)
  | .list items _, h, ht => by
      rw [Primary.tokens_list] at ht
      cases h with
      | list h =>
          simp only [primary]
          exact ⟨exprs_harmless hb items h (forall_mem_commaRow (forall_mem_between ht)),
            fun _ _ => trivial⟩
  | .range first last _, h, ht => by
      rw [Primary.tokens_range] at ht
      obtain ⟨htf, ht⟩ := List.forall_mem_append.1 (List.forall_mem_cons.1 ht).2
      obtain ⟨htl, -⟩ := List.forall_mem_append.1 (List.forall_mem_cons.1 ht).2
      cases h with
      | range hf hl =>
          simp only [primary]
          exact ⟨expr_harmless hb first hf htf, expr_harmless hb last hl htl, fun _ _ => trivial⟩
  | .map pairs _, h, ht => by
      rw [Primary.tokens_map] at ht
      cases h with
      | map h =>
          simp only [primary]
          exact ⟨entries_harmless hb pairs h (forall_mem_commaRow (forall_mem_between ht)),
            fun _ _ => trivial⟩

theorem inBraces_harmless (hb : b.Plain hosts) : (e : Markup.Expr) → e.Named false → e.Shaped →
    (∀ t ∈ e.tokensInBraces, t.Hashless) → (b.expr e).Harmless hosts
  | .applied (.reference _ _ _) ss _, _, h, ht => by
      rw [Markup.Expr.tokensInBraces_applied] at ht
      cases h with
      | applied _ _ hs =>
          simp only [expr, primary]
          exact suffixes_keep hb Expr.Harmless.applies ss _ trivial hs
            (List.forall_mem_cons.1 ht).2
  | .primary (.reference _ _ _), _, _, _ => by
      simp only [expr, primary]
      trivial

theorem suffix_keeps (hb : b.Plain hosts) {P : Expr → Prop} (hP : Applies hosts P) :
    (s : Suffix) → (object : Expr) → P object → s.Shaped → (∀ t ∈ s.tokens, t.Hashless) →
      P (b.suffix object s)
  | .property name _, _, ho, _, _ => by
      simp only [suffix]
      exact hP.member name _ ho
  | .call arguments _, _, ho, h, ht => by
      rw [Suffix.tokens_call] at ht
      cases h with
      | call h =>
          simp only [suffix]
          exact hP.call _ ho
            (exprs_harmless hb arguments h (forall_mem_commaRow (forall_mem_between ht)))
  | .index key _, _, ho, h, ht => by
      rw [Suffix.tokens_index] at ht
      cases h with
      | index h =>
          simp only [suffix]
          exact hP.index _ ho (expr_harmless hb key h (forall_mem_between ht))

end

theorem rooted_of_named (hb : b.Plain hosts) {e : Markup.Expr} {quiet : Bool} (hn : e.Named quiet)
    (hs : e.Shaped)
    (ht : (∀ t ∈ e.tokens, t.Hashless) ∨ ∀ t ∈ e.tokensInBraces, t.Hashless) :
    (b.expr e).Rooted hosts := by
  cases hn with
  | primary =>
      simp only [expr, primary]
      exact .reference
  | applied =>
      rw [Markup.Expr.tokens_applied, Markup.Expr.tokensInBraces_applied] at ht
      cases hs with
      | applied _ _ hs =>
          simp only [expr, primary]
          refine suffixes_keep hb Expr.Rooted.applies _ _ .reference hs ?_
          rcases ht with ht | ht
          · exact (List.forall_mem_append.1 ht).2
          · exact (List.forall_mem_cons.1 ht).2

theorem nodesWithin_append {F : Footprint} {ns ms : List Node} (hn : nodesWithin F hosts ns)
    (hm : nodesWithin F hosts ms) : nodesWithin F hosts (ns ++ ms) := by
  induction ns with
  | nil => exact hm
  | cons n ns ih => exact ⟨hn.1, ih hn.2⟩

theorem segment_harmless (hb : b.Plain hosts) {s : Markup.Segment} (h : s.Plain) :
    nodesWithin .anything hosts (b.segment s) := by
  obtain ⟨inline, shaped, ht⟩ := h
  cases inline with
  | text =>
      simp only [segment, textNode]
      split <;> simp [nodesWithin, Node.Within]
  | reference =>
      cases shaped with
      | reference hn hs =>
          rw [Markup.Segment.tokens_reference] at ht
          simp only [segment]
          exact ⟨expr_harmless hb _ hs ht, trivial⟩
  | formal =>
      cases shaped with
      | formal hn hs =>
          rw [Markup.Segment.tokens_formal] at ht
          simp only [segment]
          exact ⟨inBraces_harmless hb _ hn hs (forall_mem_between ht), trivial⟩

theorem segments_harmless (hb : b.Plain hosts) {body : List Markup.Segment}
    (h : ∀ s ∈ body, s.Plain) : nodesWithin .anything hosts (b.segments body) := by
  induction body with
  | nil =>
      simp only [segments]
      trivial
  | cons s ss ih =>
      obtain ⟨hs, h⟩ := List.forall_mem_cons.1 h
      simp only [segments]
      exact nodesWithin_append (segment_harmless hb hs) (ih h)

end Builder

theorem nodesWithin_unquoteText {F : Footprint} {ns : List Node} (h : nodesWithin F hosts ns) :
    nodesWithin F hosts (ns.map unquoteText) := by
  induction ns with
  | nil => exact h
  | cons n ns ih =>
      obtain ⟨hn, hns⟩ := h
      refine ⟨?_, ih hns⟩
      cases n <;> exact hn

theorem stringTemplate_harmless (source : List Char) (lines : LineTable) (levels limit : Nat)
    {body : List Char} {offset : Nat} {nodes : List Node} (hh : '#' ∉ body)
    (h : stringTemplate source lines levels limit body offset = some nodes) :
    nodesWithin .anything hosts nodes := by
  induction levels generalizing limit body offset nodes with
  | zero => cases h
  | succ levels ih =>
      simp only [stringTemplate] at h
      split at h
      · cases h
      next lexemes tokens =>
        split at h
        · cases h
        next segments parsed =>
          split at h
          · cases h
          · cases h
            obtain ⟨pieces, cut, rfl⟩ := Lexer.exists_cut tokens
            have plain := (Markup.plain_of_parseSegments
              (cut.hashless (by rwa [String.toList_ofList])) parsed).2
            refine nodesWithin_unquoteText (Builder.segments_harmless ?_ plain)
            exact fun body offset nodes hh h => ih (limit / 2) hh h

theorem builder_plain (hosts : Hosts) (source : String) (limit : Nat) :
    (builder source limit).Plain hosts :=
  fun _ _ _ hh h => stringTemplate_harmless _ _ _ _ hh h

end Tree

end Template

import Template.Proofs.Markup.Lines
import Template.Proofs.Markup.RoundTrip
import Template.Proofs.Token.Nesting
import Template.Proofs.Tree.Formula
import Template.Tree.Compile

/-!
What is printed is compiled to what was printed. The builder folds chains from the left, operators
in front from the right and suffixes outwards, and brackets vanish; so the markup of a formula,
wherever its parts stand in the source, becomes the tree of the formula.
-/

namespace Template

namespace Tree

mutual

/-- A tree at no particular place. -/
def Expr.unplaced : Expr → Expr
  | .literal value _ => .literal value default
  | .interpolated nodes _ => .interpolated (unplacedNodes nodes) default
  | .reference name quiet _ => .reference name quiet default
  | .member object property _ => .member object.unplaced property default
  | .call callee arguments _ => .call callee.unplaced (unplacedExprs arguments) default
  | .index container key _ => .index container.unplaced key.unplaced default
  | .map entries _ => .map (unplacedEntries entries) default
  | .list elements _ => .list (unplacedExprs elements) default
  | .range first last _ => .range first.unplaced last.unplaced default
  | .binary op left right _ => .binary op left.unplaced right.unplaced default
  | .unary op operand _ => .unary op operand.unplaced default
  | .ternary condition thenCase elseCase _ =>
    .ternary condition.unplaced thenCase.unplaced elseCase.unplaced default

def unplacedExprs : List Expr → List Expr
  | [] => []
  | e :: es => e.unplaced :: unplacedExprs es

def unplacedEntries : List (String × Expr) → List (String × Expr)
  | [] => []
  | (key, e) :: rest => (key, e.unplaced) :: unplacedEntries rest

def Node.unplaced : Node → Node
  | .text content _ => .text content default
  | .interpolation expression quiet source _ =>
    .interpolation expression.unplaced quiet source default
  | .conditional branches otherwise _ =>
    .conditional (unplacedBranches branches) (unplacedOtherwise otherwise) default
  | .assign name path value _ => .assign name path value.unplaced default
  | .loop item iterable body otherwise _ =>
    .loop item iterable.unplaced (unplacedNodes body) (unplacedOtherwise otherwise) default
  | .leave _ => .leave default
  | .stop _ => .stop default
  | .define name parameters body _ => .define name parameters (unplacedNodes body) default
  | .macroCall name arguments source _ => .macroCall name (unplacedExprs arguments) source default
  | .evaluate argument _ => .evaluate argument.unplaced default
  | .parse argument _ => .parse argument.unplaced default
  | .embed arguments _ => .embed (unplacedExprs arguments) default

def unplacedNodes : List Node → List Node
  | [] => []
  | n :: ns => n.unplaced :: unplacedNodes ns

def unplacedOtherwise : Option (List Node) → Option (List Node)
  | none => none
  | some nodes => some (unplacedNodes nodes)

def Branch.unplaced : Branch → Branch
  | .mk condition body => .mk condition.unplaced (unplacedNodes body)

def unplacedBranches : List Branch → List Branch
  | [] => []
  | b :: bs => b.unplaced :: unplacedBranches bs

end

attribute [simp] Expr.unplaced unplacedExprs unplacedEntries Node.unplaced unplacedNodes
  unplacedOtherwise Branch.unplaced unplacedBranches

end Tree

/-- A document without the places of its parts. -/
def Document.unplaced (d : Document) : Document :=
  ⟨Tree.unplacedNodes d.nodes, d.expression.map Tree.Expr.unplaced⟩

theorem unquote_doubled (quote : Char) {cs : List Char} (h : '\\' ∉ cs) :
    Tree.unquote quote (PlainText.doubled quote cs) = cs := by
  induction cs with
  | nil => rfl
  | cons c cs ih =>
      have ih := ih fun hm => h (List.mem_cons_of_mem _ hm)
      have slash : c ≠ '\\' := fun he => h (by simp [he])
      by_cases same : c = quote
      · simp [PlainText.doubled, same, Tree.unquote, ih]
      · cases hd : PlainText.doubled quote cs with
        | nil =>
            rw [hd] at ih
            simp [PlainText.doubled, same, Tree.unquote, ← ih]
        | cons d ds =>
            rw [hd] at ih
            simp [PlainText.doubled, same, hd, Tree.unquote, slash, ih]

theorem splitQuotes_quoted (t : PlainText) :
    Tree.splitQuotes (String.ofList t.quoted) = ('\'', PlainText.doubled '\'' t.chars) := by
  simp [Tree.splitQuotes, PlainText.quoted]

namespace Markup.Expr

variable {e : Markup.Expr}

theorem exists_of_unplaced_primary {p : Primary} (h : e.unplaced = .primary p) :
    ∃ p', e = .primary p' ∧ p'.unplaced = p := by
  cases e with
  | primary p' => exact ⟨p', rfl, by simpa [unplaced] using h⟩
  | _ => simp [unplaced] at h

theorem exists_of_unplaced_literal {v : Literal} {s : Span}
    (h : e.unplaced = .primary (.literal v s)) : ∃ span, e = .primary (.literal v span) := by
  obtain ⟨p, rfl, hp⟩ := exists_of_unplaced_primary h
  cases p with
  | literal v' span =>
      cases hp
      exact ⟨span, rfl⟩
  | _ => cases hp

theorem exists_of_unplaced_reference {name : String} {quiet : Bool} {s : Span}
    (h : e.unplaced = .primary (.reference name quiet s)) :
    ∃ span, e = .primary (.reference name quiet span) := by
  obtain ⟨p, rfl, hp⟩ := exists_of_unplaced_primary h
  cases p with
  | reference name' quiet' span =>
      cases hp
      exact ⟨span, rfl⟩
  | _ => cases hp

theorem exists_of_unplaced_chain {first : Markup.Expr} {rest : List (BinaryOp × Markup.Expr)}
    {span : Span} (h : e.unplaced = .chain first rest span) :
    ∃ first' rest' span', e = .chain first' rest' span' ∧ first'.unplaced = first ∧
      unplacedRest rest' = rest := by
  cases e with
  | chain first' rest' span' =>
      simp only [unplaced, chain.injEq] at h
      exact ⟨first', rest', span', rfl, h.1, h.2.1⟩
  | _ => simp [unplaced] at h

theorem exists_of_unplaced_unary {ops : List UnaryOp} {operand : Markup.Expr} {span : Span}
    (h : e.unplaced = .unary ops operand span) :
    ∃ operand' span', e = .unary ops operand' span' ∧ operand'.unplaced = operand := by
  cases e with
  | unary ops' operand' span' =>
      simp only [unplaced, unary.injEq] at h
      exact ⟨operand', span', by rw [h.1], h.2.1⟩
  | _ => simp [unplaced] at h

theorem exists_of_unplaced_applied {p : Primary} {ss : List Suffix} {span : Span}
    (h : e.unplaced = .applied p ss span) :
    ∃ p' ss' span', e = .applied p' ss' span' ∧ p'.unplaced = p ∧ unplacedSuffixes ss' = ss := by
  cases e with
  | applied p' ss' span' =>
      simp only [unplaced, applied.injEq] at h
      exact ⟨p', ss', span', rfl, h.1, h.2.1⟩
  | _ => simp [unplaced] at h

end Markup.Expr

theorem Markup.Segment.exists_of_unplaced_assign {s : Segment} {name : String}
    {path : List String} {value : Markup.Expr}
    (h : s.unplaced = (Segment.assign name path value default).unplaced) :
    ∃ m span, s = .assign name path m span ∧ m.unplaced = value.unplaced := by
  cases s with
  | assign name' path' m span =>
      simp only [Segment.unplaced, Segment.assign.injEq, and_true] at h
      obtain ⟨rfl, rfl, same⟩ := h
      exact ⟨m, span, rfl, same⟩
  | _ => simp [Segment.unplaced] at h

theorem Markup.Segment.exists_of_unplaced_reference {s : Segment} {e : Markup.Expr} {quiet : Bool}
    (h : s.unplaced = (Segment.reference e quiet default).unplaced) :
    ∃ m span, s = .reference m quiet span ∧ m.unplaced = e.unplaced := by
  cases s with
  | reference m quiet' span =>
      simp only [Segment.unplaced, Segment.reference.injEq, and_true] at h
      obtain ⟨same, rfl⟩ := h
      exact ⟨m, span, rfl, same⟩
  | _ => simp [Segment.unplaced] at h

theorem Markup.exists_of_unplacedBody_cons {body rest : List Segment} {s : Segment}
    (h : unplacedBody body = unplacedBody (s :: rest)) :
    ∃ s' rest', body = s' :: rest' ∧ s'.unplaced = s.unplaced ∧
      unplacedBody rest' = unplacedBody rest := by
  cases body with
  | nil => simp [unplacedBody] at h
  | cons s' rest' => exact ⟨s', rest', rfl, List.cons.inj h⟩

theorem Markup.exists_of_unplacedBody_singleton {body : List Segment} {s : Segment}
    (h : unplacedBody body = unplacedBody [s]) :
    ∃ s', body = [s'] ∧ s'.unplaced = s.unplaced := by
  obtain ⟨s', rest, rfl, hs, hr⟩ := exists_of_unplacedBody_cons h
  cases rest with
  | nil => exact ⟨s', rfl, hs⟩
  | cons => simp [unplacedBody] at hr

theorem Markup.exists_of_unplacedBody_assign {body : List Segment} {name : String}
    {path : List String} {value : Markup.Expr}
    (h : unplacedBody body = unplacedBody [.assign name path value default]) :
    ∃ m span, body = [.assign name path m span] ∧ m.unplaced = value.unplaced := by
  obtain ⟨s, rfl, hs⟩ := exists_of_unplacedBody_singleton h
  obtain ⟨m, span, rfl, same⟩ := Segment.exists_of_unplaced_assign hs
  exact ⟨m, span, rfl, same⟩

theorem Markup.exists_of_unplacedBody_reference {body : List Segment} {e : Markup.Expr}
    {quiet : Bool} (h : unplacedBody body = unplacedBody [.reference e quiet default]) :
    ∃ m span, body = [.reference m quiet span] ∧ m.unplaced = e.unplaced := by
  obtain ⟨s, rfl, hs⟩ := exists_of_unplacedBody_singleton h
  obtain ⟨m, span, rfl, same⟩ := Segment.exists_of_unplaced_reference hs
  exact ⟨m, span, rfl, same⟩

theorem Tree.Builder.operands_append (b : Tree.Builder) (left : Tree.Expr)
    (rest more : List (BinaryOp × Markup.Expr)) :
    b.operands left (rest ++ more) = b.operands (b.operands left rest) more := by
  induction rest generalizing left with
  | nil => rfl
  | cons p rest ih => exact ih _

theorem Tree.Builder.suffixes_append (b : Tree.Builder) (object : Tree.Expr)
    (ss more : List Markup.Suffix) :
    b.suffixes object (ss ++ more) = b.suffixes (b.suffixes object ss) more := by
  induction ss generalizing object with
  | nil => rfl
  | cons s ss ih => exact ih _

/-- The markup becomes the tree, whoever builds it and wherever its parts are. -/
def Stands (e : Markup.Expr) (t : Tree.Expr) : Prop :=
  ∀ (b : Tree.Builder) (m : Markup.Expr), m.unplaced = e.unplaced → (b.expr m).unplaced = t

def StandInRow (es : List Markup.Expr) (ts : List Tree.Expr) : Prop :=
  ∀ (b : Tree.Builder) (ms : List Markup.Expr),
    Markup.unplacedItems ms = Markup.unplacedItems es → Tree.unplacedExprs (b.exprs ms) = ts

def StandAsEntries (es : List (Markup.MapKey × Markup.Expr)) (ts : List (String × Tree.Expr)) :
    Prop :=
  ∀ (b : Tree.Builder) (ms : List (Markup.MapKey × Markup.Expr)),
    Markup.unplacedEntries ms = Markup.unplacedEntries es →
      Tree.unplacedEntries (b.entries ms) = ts

/-- The suffix makes such a tree of an object. -/
def SuffixStands (suffix : Markup.Suffix) (around : Tree.Expr → Tree.Expr) : Prop :=
  ∀ (b : Tree.Builder) (s : Markup.Suffix) (object : Tree.Expr),
    s.unplaced = suffix.unplaced → (b.suffix object s).unplaced = around object.unplaced

section Stands

open Markup (Primary Suffix MapKey)

variable {e e' first last left right condition thenCase elseCase : Markup.Expr}
  {t t' l r : Tree.Expr} {es : List Markup.Expr} {ts : List Tree.Expr} {span : Span}

/-- A primary expression stands for what its builder makes of it. -/
theorem stands_primary {p : Primary}
    (h : ∀ (b : Tree.Builder) (p' : Primary),
      p'.unplaced = p.unplaced → (b.primary p').unplaced = t) : Stands (.primary p) t := by
  intro b m hm
  obtain ⟨p', rfl, hp⟩ := Markup.Expr.exists_of_unplaced_primary hm
  exact h b p' hp

theorem stands_literal {value : Markup.Literal}
    (h : ∀ (b : Tree.Builder) (s : Span), (b.literal value s).unplaced = t) :
    Stands (.primary (.literal value span)) t := by
  apply stands_primary
  intro b p hp
  cases p with
  | literal value' s =>
      simp only [Primary.unplaced, Primary.literal.injEq, and_true] at hp
      subst hp
      exact h b s
  | _ => simp [Primary.unplaced] at hp

theorem stands_text (x : PlainText) :
    Stands (.primary (.literal (.str (String.ofList x.quoted)) span))
      (.literal (.text x.text) default) := by
  apply stands_literal
  intro b s
  simp [Tree.Builder.literal, splitQuotes_quoted, unquote_doubled '\'' x.plain, PlainText.text,
    Tree.Expr.unplaced]

theorem stands_reference (name : String) (quiet : Bool) :
    Stands (.primary (.reference name quiet span)) (.reference name quiet default) := by
  apply stands_primary
  intro b p hp
  cases p with
  | reference name' quiet' s =>
      simp only [Primary.unplaced, Primary.reference.injEq, and_true] at hp
      obtain ⟨rfl, rfl⟩ := hp
      rfl
  | _ => simp [Primary.unplaced] at hp

theorem stands_group (h : Stands e t) : Stands (.primary (.group e span)) t := by
  apply stands_primary
  intro b p hp
  cases p with
  | group inner s =>
      simp only [Primary.unplaced, Primary.group.injEq, and_true] at hp
      exact h b inner hp
  | _ => simp [Primary.unplaced] at hp

theorem stands_list (h : StandInRow es ts) :
    Stands (.primary (.list es span)) (.list ts default) := by
  apply stands_primary
  intro b p hp
  cases p with
  | list items s =>
      simp only [Primary.unplaced, Primary.list.injEq, and_true] at hp
      rw [Tree.Builder.primary, Tree.Expr.unplaced, h b items hp]
  | _ => simp [Primary.unplaced] at hp

theorem stands_range (hf : Stands first t) (hl : Stands last t') :
    Stands (.primary (.range first last span)) (.range t t' default) := by
  apply stands_primary
  intro b p hp
  cases p with
  | range first' last' s =>
      simp only [Primary.unplaced, Primary.range.injEq, and_true] at hp
      rw [Tree.Builder.primary, Tree.Expr.unplaced, hf b first' hp.1, hl b last' hp.2]
  | _ => simp [Primary.unplaced] at hp

theorem stands_map {entries : List (MapKey × Markup.Expr)} {ts : List (String × Tree.Expr)}
    (h : StandAsEntries entries ts) :
    Stands (.primary (.map entries span)) (.map ts default) := by
  apply stands_primary
  intro b p hp
  cases p with
  | map entries' s =>
      simp only [Primary.unplaced, Primary.map.injEq, and_true] at hp
      rw [Tree.Builder.primary, Tree.Expr.unplaced, h b entries' hp]
  | _ => simp [Primary.unplaced] at hp

theorem stands_ternary (hc : Stands condition t) (ht : Stands thenCase l)
    (he : Stands elseCase r) :
    Stands (.ternary condition thenCase elseCase span) (.ternary t l r default) := by
  intro b m hm
  cases m with
  | ternary condition' thenCase' elseCase' s =>
      simp only [Markup.Expr.unplaced, Markup.Expr.ternary.injEq, and_true] at hm
      rw [Tree.Builder.expr, Tree.Expr.unplaced, hc b condition' hm.1, ht b thenCase' hm.2.1,
        he b elseCase' hm.2.2]
  | _ => simp [Markup.Expr.unplaced] at hm

theorem standInRow_nil : StandInRow [] [] := by
  intro b ms hm
  cases ms with
  | nil => rfl
  | cons m ms => simp [Markup.unplacedItems] at hm

theorem standInRow_cons (h : Stands e t) (hs : StandInRow es ts) :
    StandInRow (e :: es) (t :: ts) := by
  intro b ms hm
  cases ms with
  | nil => simp [Markup.unplacedItems] at hm
  | cons m ms =>
      simp only [Markup.unplacedItems, List.cons.injEq] at hm
      rw [Tree.Builder.exprs, Tree.unplacedExprs, h b m hm.1, hs b ms hm.2]

theorem standAsEntries_nil : StandAsEntries [] [] := by
  intro b ms hm
  cases ms with
  | nil => rfl
  | cons m ms => simp [Markup.unplacedEntries] at hm

theorem mapKey_quoted (key : PlainText) :
    Tree.Builder.mapKey (.str (String.ofList key.quoted)) = key.text := by
  simp [Tree.Builder.mapKey, splitQuotes_quoted, unquote_doubled '\'' key.plain, PlainText.text]

theorem standAsEntries_cons {key : MapKey} {name : String} (hk : Tree.Builder.mapKey key = name)
    {entries : List (MapKey × Markup.Expr)} {ts : List (String × Tree.Expr)} (h : Stands e t)
    (hs : StandAsEntries entries ts) : StandAsEntries ((key, e) :: entries) ((name, t) :: ts) := by
  intro b ms hm
  cases ms with
  | nil => simp [Markup.unplacedEntries] at hm
  | cons m ms =>
      obtain ⟨key', m⟩ := m
      simp only [Markup.unplacedEntries, List.cons.injEq, Prod.mk.injEq] at hm
      obtain ⟨⟨rfl, hm⟩, more⟩ := hm
      rw [Tree.Builder.entries, Tree.unplacedEntries, h b m hm, hs b ms more, hk]

theorem suffixStands_property (name : String) :
    SuffixStands (.property name span) (.member · name default) := by
  intro b s object hs
  cases s with
  | property name' s =>
      simp only [Suffix.unplaced, Suffix.property.injEq, and_true] at hs
      rw [Tree.Builder.suffix, Tree.Expr.unplaced, hs]
  | _ => simp [Suffix.unplaced] at hs

theorem suffixStands_call (h : StandInRow es ts) :
    SuffixStands (.call es span) (.call · ts default) := by
  intro b s object hs
  cases s with
  | call arguments s =>
      simp only [Suffix.unplaced, Suffix.call.injEq, and_true] at hs
      rw [Tree.Builder.suffix, Tree.Expr.unplaced, h b arguments hs]
  | _ => simp [Suffix.unplaced] at hs

theorem suffixStands_index (h : Stands e t) :
    SuffixStands (.index e span) (.index · t default) := by
  intro b s object hs
  cases s with
  | index key s =>
      simp only [Suffix.unplaced, Suffix.index.injEq, and_true] at hs
      rw [Tree.Builder.suffix, Tree.Expr.unplaced, h b key hs]
  | _ => simp [Suffix.unplaced] at hs

/-- One more operator at the end of a chain stands around all that is before it. -/
theorem stands_chain {rest : List (BinaryOp × Markup.Expr)} {op : BinaryOp}
    (hl : ∀ (b : Tree.Builder) (first' : Markup.Expr) (rest' : List (BinaryOp × Markup.Expr)),
      first'.unplaced = first.unplaced → Markup.unplacedRest rest' = Markup.unplacedRest rest →
        (b.operands (b.expr first') rest').unplaced = l)
    (hr : Stands right r) :
    Stands (.chain first (rest ++ [(op, right)]) span) (.binary op l r default) := by
  intro b m hm
  obtain ⟨first', rest', s, rfl, hf, hrest⟩ := Markup.Expr.exists_of_unplaced_chain hm
  rw [Markup.unplacedRest_eq, Markup.unplacedRest_eq, List.map_append] at hrest
  obtain ⟨before, behind, rfl, hb, hop⟩ := List.map_eq_append_iff.1 hrest
  obtain ⟨⟨op', right'⟩, rfl, he⟩ := List.map_eq_singleton_iff.1 hop
  obtain ⟨rfl, hright⟩ := Prod.mk.inj he
  rw [← Markup.unplacedRest_eq, ← Markup.unplacedRest_eq] at hb
  -- Chains are folded from the left, so the last operator ends up outermost.
  rw [Tree.Builder.expr, Tree.Builder.operands_append]
  simp only [Tree.Builder.operands, Tree.Expr.unplaced, hl b first' before hf hb,
    hr b right' hright]

theorem stands_chained {op : BinaryOp} (hl : Stands left l) (hr : Stands right r) :
    Stands (Formula.chained op left right) (.binary op l r default) := by
  have single : Stands (.chain left [(op, right)] default) (.binary op l r default) := by
    apply @stands_chain left right l r default [] op ?_ hr
    intro b left' rest' hleft hrest
    cases rest' with
    | nil => exact hl b left' hleft
    | cons p rest' => simp [Markup.unplacedRest] at hrest
  cases left with
  | chain first rest s =>
      simp only [Formula.chained]
      split
      -- The left operand is a chain of the same level, which the operator joins.
      · apply stands_chain _ hr
        intro b first' rest' hf hrest
        exact hl b (.chain first' rest' default)
          (by simp only [Markup.Expr.unplaced, hf, hrest])
      · exact single
  | _ => exact single

theorem stands_prefixed {op : UnaryOp} (h : Stands e t) :
    Stands (Formula.prefixed op e) (.unary op t default) := by
  intro b m hm
  cases e with
  | unary ops operand s =>
      -- The operators that stand there already apply first: the builder folds from the right.
      obtain ⟨operand', s', rfl, ho⟩ := Markup.Expr.exists_of_unplaced_unary hm
      have inner := h b (.unary ops operand' s') (by simp only [Markup.Expr.unplaced, ho])
      rw [Tree.Builder.expr, Tree.Builder.unaries, Tree.Expr.unplaced, ← inner, Tree.Builder.expr]
  | _ =>
      obtain ⟨operand', s', rfl, ho⟩ := Markup.Expr.exists_of_unplaced_unary hm
      rw [Tree.Builder.expr, Tree.Builder.unaries, Tree.Builder.unaries, Tree.Expr.unplaced,
        h b operand' ho]

/-- One more suffix at the end stands around all that is before it. -/
theorem stands_applied {p : Primary} {ss : List Suffix} {suffix : Suffix}
    {around : Tree.Expr → Tree.Expr}
    (hp : ∀ (b : Tree.Builder) (p' : Primary) (ss' : List Suffix), p'.unplaced = p.unplaced →
      Markup.unplacedSuffixes ss' = Markup.unplacedSuffixes ss →
        (b.suffixes (b.primary p') ss').unplaced = t)
    (hs : SuffixStands suffix around) :
    Stands (.applied p (ss ++ [suffix]) span) (around t) := by
  intro b m hm
  obtain ⟨p', ss', s, rfl, hp', hss⟩ := Markup.Expr.exists_of_unplaced_applied hm
  rw [Markup.unplacedSuffixes_eq, Markup.unplacedSuffixes_eq, List.map_append] at hss
  obtain ⟨before, behind, rfl, hb, he⟩ := List.map_eq_append_iff.1 hss
  obtain ⟨suffix', rfl, hsuffix⟩ := List.map_eq_singleton_iff.1 he
  rw [← Markup.unplacedSuffixes_eq, ← Markup.unplacedSuffixes_eq] at hb
  rw [Tree.Builder.expr, Tree.Builder.suffixes_append]
  simp only [Tree.Builder.suffixes, hs b suffix' _ hsuffix, hp b p' before hp' hb]

theorem stands_suffixed {suffix : Suffix} {around : Tree.Expr → Tree.Expr} (h : Stands e t)
    (hs : SuffixStands suffix around) : Stands (Formula.suffixed suffix e) (around t) := by
  have single {p : Primary} (hp : Stands (.primary p) t) :
      Stands (.applied p [suffix] default) (around t) := by
    apply @stands_applied t default p [] suffix around ?_ hs
    intro b p' ss' hp' hss
    cases ss' with
    | nil => exact hp b (.primary p') (congrArg Markup.Expr.primary hp')
    | cons s ss' => simp [Markup.unplacedSuffixes] at hss
  cases e with
  | applied p ss s =>
      apply stands_applied _ hs
      intro b p' ss' hp hss
      exact h b (.applied p' ss' default) (by simp only [Markup.Expr.unplaced, hp, hss])
  | primary p => exact single h
  | _ => exact single (stands_group h)

theorem stands_bracketsBelow {needed : Nat} (h : Stands e t) :
    Stands (Formula.bracketsBelow needed e) t := by
  unfold Formula.bracketsBelow
  split
  · exact stands_group h
  · exact h

end Stands

namespace Formula

mutual

theorem stands_markup (brackets : Bool) (f : Formula) : Stands (f.markup brackets) f.tree := by
  cases f with
  | null => exact stands_literal fun b s => rfl
  | bool value => exact stands_literal fun b s => rfl
  | number n => exact stands_literal fun b s => rfl
  | text t => exact stands_text t
  | reference name quiet => exact stands_reference name.text quiet
  | list items => exact stands_list (standInRow_markups brackets items)
  | map entries => exact stands_map (standAsEntries_entryMarkups brackets entries)
  | range first last =>
      exact stands_range (stands_markup brackets first) (stands_markup brackets last)
  | member object name =>
      exact stands_suffixed (stands_markup brackets object) (suffixStands_property name.text)
  | call callee arguments =>
      exact stands_suffixed (stands_markup brackets callee)
        (suffixStands_call (standInRow_markups brackets arguments))
  | index container key =>
      exact stands_suffixed (stands_markup brackets container)
        (suffixStands_index (stands_markup brackets key))
  | unary op operand =>
      exact stands_prefixed (stands_bracketsBelow (stands_markup brackets operand))
  | binary op left right =>
      exact stands_chained (stands_bracketsBelow (stands_markup brackets left))
        (stands_bracketsBelow (stands_markup brackets right))
  | ternary condition thenCase elseCase =>
      exact stands_ternary (stands_bracketsBelow (stands_markup brackets condition))
        (stands_markup brackets thenCase) (stands_markup brackets elseCase)

theorem standInRow_markups (brackets : Bool) (fs : List Formula) :
    StandInRow (markups brackets fs) (trees fs) := by
  cases fs with
  | nil => exact standInRow_nil
  | cons f fs =>
      exact standInRow_cons (stands_markup brackets f) (standInRow_markups brackets fs)

theorem standAsEntries_entryMarkups (brackets : Bool) (entries : List (PlainText × Formula)) :
    StandAsEntries (entryMarkups brackets entries) (entryTrees entries) := by
  cases entries with
  | nil => exact standAsEntries_nil
  | cons entry entries =>
      obtain ⟨key, f⟩ := entry
      exact standAsEntries_cons (mapKey_quoted key) (stands_markup brackets f)
        (standAsEntries_entryMarkups brackets entries)

end

theorem tokens_ne_nil (brackets : Bool) (f : Formula) : f.tokens brackets ≠ [] := by
  rw [← tokens_markup]
  exact Markup.Grammar.tokens_ne_nil (markup_shaped brackets f).1

section Assignment

open Lexer (Reads spaced)

theorem reads_set (rest : List Char) :
    Reads .text ('#' :: 's' :: 'e' :: 't' :: '(' :: rest)
      [.directive .assign, .symbol .openParen] (.code 1 false) rest :=
  have word : Reads .text ('#' :: (['s', 'e', 't'] ++ '(' :: rest)) [.directive .assign] .arguments
      ('(' :: rest) := .emit rfl
  have opener : Reads .arguments ('(' :: ([] ++ rest)) [.symbol .openParen] (.code 1 false) rest :=
    .emit rfl
  word.trans opener

theorem reads_closeParen :
    Reads (.code 1 false) [')'] [.symbol .closeParen] .text [] :=
  have closer : Reads (.code 1 false) (')' :: ([] ++ [])) [.symbol .closeParen] .text [] :=
    .emit rfl
  closer

theorem assignment_reads (brackets : Bool) (f : Formula) :
    Reads .text (f.assignment brackets).toList (f.assignmentTokens brackets) .text [] := by
  have code : Lexer.Balanced (.reference "x" false :: .symbol .assign :: f.tokens brackets) := by
    have name : Lexer.IsName "x".toList := Lexer.isName_of_nameAt (by decide) (by decide)
    apply Lexer.Balanced.cons (.reference name false) rfl rfl
    exact .cons (.symbol .assign) rfl rfl (tokens_balanced brackets f)
  have chars : (f.assignment brackets).toList = '#' :: 's' :: 'e' :: 't' :: '(' ::
      (spaced (.reference "x" false :: .symbol .assign :: f.tokens brackets) ++ [')']) := by
    -- The blank behind the equals sign is one between two tokens: the formula has a first token.
    obtain ⟨t, ts, ht⟩ := List.exists_cons_of_ne_nil (tokens_ne_nil brackets f)
    simp [assignment, ht, spaced, Token.describe, Symbol.text]
  rw [chars]
  exact (reads_set _).trans ((code.reads 0 false (.inr rfl) []).trans reads_closeParen)

theorem tokenize_assignment (brackets : Bool) (f : Formula) :
    ∃ lexemes, tokenize (f.assignment brackets) = .ok lexemes ∧
      lexemes.map Prod.fst = f.assignmentTokens brackets :=
  (assignment_reads brackets f).tokenize

/-- The deepest nesting in the assignment of the formula. -/
def nesting (brackets : Bool) (f : Formula) : Nat :=
  Nesting.start.deepest (f.assignmentTokens brackets)

theorem parseSegments_assignment (brackets : Bool) (f : Formula) {limit : Nat}
    (h : f.nesting brackets ≤ limit) {lexemes : List Lexeme}
    (hl : lexemes.map Prod.fst = f.assignmentTokens brackets) :
    ∃ m span, Markup.parseSegments (f.assignment brackets) lexemes limit =
      .ok [.assign "x" [] m span] ∧ m.unplaced = (f.markup brackets).unplaced := by
  let body : List Markup.Segment := [.assign "x" [] (f.markup brackets) default]
  have shaped : Markup.BodyShaped body :=
    ⟨List.forall_mem_singleton.2 (.assign (markup_shaped brackets f).1), .singleton _⟩
  have spelled : Markup.bodyTokens body = f.assignmentTokens brackets := by
    simp [body, Markup.bodyTokens, Markup.Segment.tokens_assign, tokens_markup, assignmentTokens]
  have shallow : Nesting.check (f.assignment brackets) limit lexemes = .ok () := by
    rw [Nesting.check_eq_ok_iff, hl]
    exact h
  obtain ⟨found, parsed, same⟩ := Markup.exists_parseSegments shaped (hl.trans spelled.symm) shallow
  obtain ⟨m, span, rfl, hm⟩ := Markup.exists_of_unplacedBody_assign same
  exact ⟨m, span, parsed, hm⟩

theorem gobble_assign (mode : Gobbling) (name : String) (path : List String) (value : Markup.Expr)
    (span : Span) :
    Markup.gobble mode [.assign name path value span] = [.assign name path value span] :=
  Markup.gobble_of_textless mode (List.forall_mem_singleton.2 rfl)

theorem wholeExpression?_assignment (brackets : Bool) (f : Formula) (limit : Nat) :
    Markup.wholeExpression? (f.assignment brackets) limit = none := by
  simp [Markup.wholeExpression?, assignment]

/-- A formula that is written out is compiled to its tree, by every options that allow its
nesting. -/
theorem compile_assignment (brackets : Bool) (f : Formula) (options : Options)
    (h : f.nesting brackets ≤ options.maxNesting) :
    (Document.compile options (f.assignment brackets)).map Document.unplaced =
      .ok ⟨[.assign "x" [] f.tree default], none⟩ := by
  obtain ⟨lexemes, read, tokens⟩ := tokenize_assignment brackets f
  obtain ⟨m, span, parsed, same⟩ := parseSegments_assignment brackets f h tokens
  have segments : Document.segments options (f.assignment brackets) =
      .ok [.assign "x" [] m span] := by
    simp [Document.segments, read, parsed, gobble_assign]
  have value := stands_markup brackets f (Tree.builder (f.assignment brackets) options.maxNesting)
    m same
  simp [Document.compile, segments, Except.map, Document.ofSegments, Document.unplaced,
    wholeExpression?_assignment, Tree.Builder.segments, Tree.Builder.segment, Tree.unplacedNodes,
    Tree.Node.unplaced, value]

/-- Operators of one level on both sides, one in front and a suffix. -/
theorem compile_assignment_grouped :
    let a : Formula := .reference ⟨"a", Lexer.isName_of_nameAt (by decide) (by decide)⟩ false
    let b : Formula := .reference ⟨"b", Lexer.isName_of_nameAt (by decide) (by decide)⟩ false
    let size : PropertyName :=
      ⟨⟨"size", Lexer.isName_of_nameAt (by decide) (by decide)⟩, by decide, by decide⟩
    let f : Formula := .binary .subtract (.binary .subtract a b)
      (.binary .add (.unary .negate (.text ⟨['i', 't', '\'', 's'], by decide⟩))
        (.call (.member (.binary .multiply a b) size) []))
    f.assignment false = "#set($x = $a - $b - ( - 'it''s' + ( $a * $b ) . size ( ) ))" ∧
      f.nesting false ≤ Options.standard.maxNesting ∧
      (Document.compile Options.standard (f.assignment false)).map Document.unplaced =
        .ok ⟨[.assign "x" [] f.tree default], none⟩ := by
  intro a b size f
  have shallow : f.nesting false ≤ Options.standard.maxNesting := by decide
  exact ⟨by decide, shallow, compile_assignment false f Options.standard shallow⟩

end Assignment

end Formula

end Template

import Template.Proofs.Markup.Spelling
import Template.Proofs.Markup.Shape
import Template.Proofs.Token.Spaced
import Template.Tree.OfMarkup

/-!
Expressions that can be written out: the trees without double-quoted strings, with numbers by their
digits. A formula is printed with brackets only where its levels need them, and its markup is what
the grammar makes of that.
-/

namespace Template

/-- A name, as references have them. -/
structure Name where
  text : String
  isName : Lexer.IsName text.toList

/-- A name that means nothing else in code, as properties have them. -/
structure PropertyName extends Name where
  notReserved : ReservedWord.ofWord? text = none
  notSymbol : Symbol.ofWord? text = none

inductive Formula where
  | null
  | bool (value : Bool)
  | number (n : Numeral)
  | text (t : PlainText)
  | reference (name : Name) (quiet : Bool)
  | list (items : List Formula)
  | map (entries : List (PlainText × Formula))
  | range (first last : Formula)
  | member (object : Formula) (name : PropertyName)
  | call (callee : Formula) (arguments : List Formula)
  | index (container key : Formula)
  | unary (op : UnaryOp) (operand : Formula)
  | binary (op : BinaryOp) (left right : Formula)
  | ternary (condition thenCase elseCase : Formula)

namespace Formula

mutual

/-- The tree that the formula stands for, at no particular place. -/
def tree : Formula → Tree.Expr
  | null => .literal .null default
  | bool value => .literal (.bool value) default
  | number n => .literal (.number (Tree.Builder.number n.text)) default
  | text t => .literal (.text t.text) default
  | reference name quiet => .reference name.text quiet default
  | list items => .list (trees items) default
  | map entries => .map (entryTrees entries) default
  | range first last => .range first.tree last.tree default
  | member object name => .member object.tree name.text default
  | call callee arguments => .call callee.tree (trees arguments) default
  | index container key => .index container.tree key.tree default
  | unary op operand => .unary op operand.tree default
  | binary op left right => .binary op left.tree right.tree default
  | ternary condition thenCase elseCase =>
    .ternary condition.tree thenCase.tree elseCase.tree default

def trees : List Formula → List Tree.Expr
  | [] => []
  | f :: fs => f.tree :: trees fs

def entryTrees : List (PlainText × Formula) → List (String × Tree.Expr)
  | [] => []
  | (key, f) :: rest => (key.text, f.tree) :: entryTrees rest

end

/-- From loose to tight: ternary, the levels of binary operators, unary operators, and whatever is
held together by itself. -/
def level : Formula → Nat
  | ternary .. => 1
  | binary op _ _ => op.level
  | unary .. => 8
  | _ => 9

def inBrackets (tokens : List Token) : List Token :=
  .symbol .openParen :: (tokens ++ [.symbol .closeParen])

/-- The tokens of a part at some level, in brackets if that is looser than `needed`. -/
def atLeast (needed level : Nat) (tokens : List Token) : List Token :=
  if level < needed then inBrackets tokens else tokens

/-- The level that stands below an operator in front without brackets. Brackets around another such
operator change nothing. -/
def unaryLevel (brackets : Bool) : Nat := if brackets then 9 else 8

mutual

/-- The formula written out. Brackets stand around a left operand that is looser than its operator,
a right operand that is no tighter, an operator below an operator in front or a suffix, and a
ternary that is an operand or a condition. -/
def tokens (brackets : Bool) : Formula → List Token
  | null => [.reserved .null]
  | bool true => [.reserved .yes]
  | bool false => [.reserved .no]
  | number n => [.number n.text]
  | text t => [.str (String.ofList t.quoted)]
  | reference name quiet => [.reference name.text quiet]
  | list items => .symbol .openBracket :: (rowTokens brackets items ++ [.symbol .closeBracket])
  | map entries => .symbol .openBrace :: (entryTokens brackets entries ++ [.symbol .closeBrace])
  | range first last =>
    .symbol .openBracket :: (first.tokens brackets ++ .symbol .dots ::
      (last.tokens brackets ++ [.symbol .closeBracket]))
  | member object name =>
    atLeast 9 object.level (object.tokens brackets) ++ [.symbol .dot, .ident name.text]
  | call callee arguments =>
    atLeast 9 callee.level (callee.tokens brackets) ++
      .symbol .openParen :: (rowTokens brackets arguments ++ [.symbol .closeParen])
  | index container key =>
    atLeast 9 container.level (container.tokens brackets) ++
      .symbol .openBracket :: (key.tokens brackets ++ [.symbol .closeBracket])
  | unary op operand =>
    op.token :: atLeast (unaryLevel brackets) operand.level (operand.tokens brackets)
  | binary op left right =>
    atLeast op.level left.level (left.tokens brackets) ++
      op.token :: atLeast (op.level + 1) right.level (right.tokens brackets)
  | ternary condition thenCase elseCase =>
    atLeast 2 condition.level (condition.tokens brackets) ++ .symbol .question ::
      (thenCase.tokens brackets ++ .symbol .colon :: elseCase.tokens brackets)

/-- Formulas with commas between them. -/
def rowTokens (brackets : Bool) : List Formula → List Token
  | [] => []
  | [f] => f.tokens brackets
  | f :: g :: fs => f.tokens brackets ++ .symbol .comma :: rowTokens brackets (g :: fs)

def entryTokens (brackets : Bool) : List (PlainText × Formula) → List Token
  | [] => []
  | [(key, f)] => .str (String.ofList key.quoted) :: .symbol .colon :: f.tokens brackets
  | (key, f) :: entry :: rest =>
    .str (String.ofList key.quoted) :: .symbol .colon :: (f.tokens brackets ++
      .symbol .comma :: entryTokens brackets (entry :: rest))

end

/-- `#set($x = …)` with single blanks between the tokens of the formula. -/
def assignment (brackets : Bool) (f : Formula) : String :=
  "#set($x = " ++ String.ofList (Lexer.spaced (f.tokens brackets)) ++ ")"

def assignmentTokens (brackets : Bool) (f : Formula) : List Token :=
  .directive .assign :: .symbol .openParen :: .reference "x" false :: .symbol .assign ::
    (f.tokens brackets ++ [.symbol .closeParen])

open Markup (Primary Suffix MapKey)

/-- Brackets around markup that is looser than `needed`. -/
def bracketsBelow (needed : Nat) (e : Markup.Expr) : Markup.Expr :=
  if e.level < needed then .primary (.group e default) else e

/-- An operator and its right operand behind the left one. Operands of one level are not nested. -/
def chained (op : BinaryOp) (left right : Markup.Expr) : Markup.Expr :=
  match left with
  | .chain first rest _ =>
    if left.level = op.level then .chain first (rest ++ [(op, right)]) default
    else .chain left [(op, right)] default
  | _ => .chain left [(op, right)] default

/-- An operator in front of an operand, before those that stand there already. -/
def prefixed (op : UnaryOp) : Markup.Expr → Markup.Expr
  | .unary ops operand _ => .unary (op :: ops) operand default
  | operand => .unary [op] operand default

/-- A suffix behind an object, and behind those that stand there already. Operators are put in
brackets. -/
def suffixed (suffix : Suffix) : Markup.Expr → Markup.Expr
  | .applied p suffixes _ => .applied p (suffixes ++ [suffix]) default
  | .primary p => .applied p [suffix] default
  | other => .applied (.group other default) [suffix] default

mutual

/-- The markup of the formula as it is written out, at no particular place. -/
def markup (brackets : Bool) : Formula → Markup.Expr
  | null => .primary (.literal .null default)
  | bool value => .primary (.literal (.bool value) default)
  | number n => .primary (.literal (.number n.text) default)
  | text t => .primary (.literal (.str (String.ofList t.quoted)) default)
  | reference name quiet => .primary (.reference name.text quiet default)
  | list items => .primary (.list (markups brackets items) default)
  | map entries => .primary (.map (entryMarkups brackets entries) default)
  | range first last => .primary (.range (first.markup brackets) (last.markup brackets) default)
  | member object name => suffixed (.property name.text default) (object.markup brackets)
  | call callee arguments =>
    suffixed (.call (markups brackets arguments) default) (callee.markup brackets)
  | index container key =>
    suffixed (.index (key.markup brackets) default) (container.markup brackets)
  | unary op operand =>
    prefixed op (bracketsBelow (unaryLevel brackets) (operand.markup brackets))
  | binary op left right =>
    chained op (bracketsBelow op.level (left.markup brackets))
      (bracketsBelow (op.level + 1) (right.markup brackets))
  | ternary condition thenCase elseCase =>
    .ternary (bracketsBelow 2 (condition.markup brackets)) (thenCase.markup brackets)
      (elseCase.markup brackets) default

def markups (brackets : Bool) : List Formula → List Markup.Expr
  | [] => []
  | f :: fs => f.markup brackets :: markups brackets fs

def entryMarkups (brackets : Bool) : List (PlainText × Formula) → List (MapKey × Markup.Expr)
  | [] => []
  | (key, f) :: rest =>
    (.str (String.ofList key.quoted), f.markup brackets) :: entryMarkups brackets rest

end

section Shape

variable {brackets : Bool} {needed : Nat} {op : BinaryOp} {e left right : Markup.Expr}

theorem bracketsBelow_shaped (h : e.Shaped) : (bracketsBelow needed e).Shaped := by
  unfold bracketsBelow
  split
  · exact .primary (.group h)
  · exact h

theorem le_level_bracketsBelow (h : needed ≤ 9) : needed ≤ (bracketsBelow needed e).level := by
  unfold bracketsBelow
  split
  · exact h
  · omega

theorem chained_shaped (hl : left.Shaped) (hr : right.Shaped) (hol : op.level ≤ left.level)
    (hor : op.level < right.level) :
    (chained op left right).Shaped ∧ (chained op left right).level = op.level := by
  have low := op.two_le_level
  have high := op.level_le_seven
  have single (h : op.level < left.level) : (Markup.Expr.chain left [(op, right)] default).Shaped :=
    .chain op.level (by simp) h hl (by simp [hor]) (by simp [hr])
  cases hl with
  -- Only a chain of the same level is not tighter than the operator: ternaries are looser.
  | @chain first rest span level hn hf hs ho hrs =>
      have levels : (Markup.Expr.chain first rest span).level = level :=
        Markup.Expr.Shaped.level_chain hn ho
      simp only [chained]
      split
      next same =>
        have operands : ∀ p ∈ rest ++ [(op, right)],
            p.1.level = op.level ∧ op.level < p.2.level := by
          rw [levels] at same
          subst same
          simp only [List.mem_append, List.mem_singleton]
          rintro p (hp | rfl)
          · exact ho p hp
          · exact ⟨rfl, hor⟩
        refine ⟨.chain op.level (by simp) (by omega) hs operands ?_, ?_⟩
        · simp only [List.mem_append, List.mem_singleton]
          rintro p (hp | rfl)
          · exact hrs p hp
          · exact hr
        · exact Markup.Expr.Shaped.level_chain (by simp) operands
      next other => exact ⟨single (by omega), rfl⟩
  | ternary => exact absurd hol (by simp only [Markup.Expr.level]; omega)
  | unary | applied | primary =>
      exact ⟨single (by simp only [Markup.Expr.level]; omega), rfl⟩

theorem prefixed_shaped {op : UnaryOp} (h : e.Shaped) (he : 8 ≤ e.level) :
    (prefixed op e).Shaped ∧ (prefixed op e).level = 8 := by
  cases h with
  | unary hn hl ho => exact ⟨.unary (by simp) hl ho, rfl⟩
  | ternary => exact absurd he (by simp [Markup.Expr.level])
  | chain level hn _ _ ho _ =>
      rw [Markup.Expr.Shaped.level_chain hn ho] at he
      have := (Markup.Expr.Shaped.level_of_rest hn ho).2
      omega
  | applied hn hp hs => exact ⟨.unary (by simp) (Nat.le_refl 9) (.applied hn hp hs), rfl⟩
  | primary hp => exact ⟨.unary (by simp) (Nat.le_refl 9) (.primary hp), rfl⟩

theorem suffixed_shaped {suffix : Suffix} (h : e.Shaped) (hs : suffix.Shaped) :
    (suffixed suffix e).Shaped ∧ (suffixed suffix e).level = 9 := by
  cases h with
  | applied hn hp hss =>
      refine ⟨.applied (by simp) hp ?_, rfl⟩
      simp only [List.mem_append, List.mem_singleton]
      rintro s (hm | rfl)
      · exact hss s hm
      · exact hs
  | primary hp => exact ⟨.applied (by simp) hp (by simp [hs]), rfl⟩
  | ternary hl hc ht he =>
      exact ⟨.applied (by simp) (.group (.ternary hl hc ht he)) (by simp [hs]), rfl⟩
  | chain level hn hl hf ho hr =>
      exact ⟨.applied (by simp) (.group (.chain level hn hl hf ho hr)) (by simp [hs]), rfl⟩
  | unary hn hl ho => exact ⟨.applied (by simp) (.group (.unary hn hl ho)) (by simp [hs]), rfl⟩

end Shape

theorem unaryLevel_le_nine (brackets : Bool) : unaryLevel brackets ≤ 9 := by
  cases brackets <;> decide

theorem eight_le_unaryLevel (brackets : Bool) : 8 ≤ unaryLevel brackets := by
  cases brackets <;> decide

mutual

theorem markup_shaped (brackets : Bool) (f : Formula) :
    (f.markup brackets).Shaped ∧ (f.markup brackets).level = f.level := by
  cases f with
  | null | bool | number | text => exact ⟨.primary .literal, rfl⟩
  | reference => exact ⟨.primary .reference, rfl⟩
  | list items => exact ⟨.primary (.list (markups_shaped brackets items)), rfl⟩
  | map entries => exact ⟨.primary (.map (entryMarkups_shaped brackets entries)), rfl⟩
  | range first last =>
      exact ⟨.primary (.range (markup_shaped brackets first).1 (markup_shaped brackets last).1), rfl⟩
  | member object name =>
      exact suffixed_shaped (markup_shaped brackets object).1 .property
  | call callee arguments =>
      exact suffixed_shaped (markup_shaped brackets callee).1
        (.call (markups_shaped brackets arguments))
  | index container key =>
      exact suffixed_shaped (markup_shaped brackets container).1
        (.index (markup_shaped brackets key).1)
  | unary op operand =>
      refine prefixed_shaped (bracketsBelow_shaped (markup_shaped brackets operand).1) ?_
      exact Nat.le_trans (eight_le_unaryLevel brackets)
        (le_level_bracketsBelow (unaryLevel_le_nine brackets))
  | binary op left right =>
      have high := op.level_le_seven
      exact chained_shaped (bracketsBelow_shaped (markup_shaped brackets left).1)
        (bracketsBelow_shaped (markup_shaped brackets right).1)
        (le_level_bracketsBelow (by omega)) (le_level_bracketsBelow (by omega))
  | ternary condition thenCase elseCase =>
      exact ⟨.ternary (le_level_bracketsBelow (by decide))
        (bracketsBelow_shaped (markup_shaped brackets condition).1)
        (markup_shaped brackets thenCase).1 (markup_shaped brackets elseCase).1, rfl⟩

theorem markups_shaped (brackets : Bool) (fs : List Formula) :
    ∀ e ∈ markups brackets fs, e.Shaped := by
  cases fs with
  | nil => simp [markups]
  | cons f fs =>
      exact List.forall_mem_cons.2 ⟨(markup_shaped brackets f).1, markups_shaped brackets fs⟩

theorem entryMarkups_shaped (brackets : Bool) (entries : List (PlainText × Formula)) :
    ∀ p ∈ entryMarkups brackets entries, p.2.Shaped := by
  cases entries with
  | nil => simp [entryMarkups]
  | cons entry entries =>
      obtain ⟨key, f⟩ := entry
      exact List.forall_mem_cons.2
        ⟨(markup_shaped brackets f).1, entryMarkups_shaped brackets entries⟩

end

section Tokens

variable {brackets : Bool} {e left right : Markup.Expr}

theorem tokens_bracketsBelow {needed level : Nat} (he : e.level = level) :
    (bracketsBelow needed e).tokens = atLeast needed level e.tokens := by
  subst he
  unfold bracketsBelow atLeast
  split <;> rfl

theorem tokens_chained (op : BinaryOp) :
    (chained op left right).tokens = left.tokens ++ op.token :: right.tokens := by
  cases left with
  | chain first rest span =>
      simp only [chained]
      split <;> simp [Markup.Expr.tokens_chain]
  | _ => simp [chained, Markup.Expr.tokens_chain]

theorem tokens_prefixed (op : UnaryOp) : (prefixed op e).tokens = op.token :: e.tokens := by
  cases e <;> simp [prefixed, Markup.Expr.tokens_unary]

theorem tokens_suffixed (suffix : Suffix) {level : Nat} (he : e.level = level) :
    (suffixed suffix e).tokens = atLeast 9 level e.tokens ++ suffix.tokens := by
  subst he
  cases e with
  | applied | primary =>
      simp [suffixed, atLeast, Markup.Expr.level, Markup.Expr.tokens_applied,
        Markup.Expr.tokens_primary]
  | ternary | unary =>
      simp [suffixed, atLeast, inBrackets, Markup.Expr.level, Markup.Expr.tokens_applied,
        Markup.Primary.tokens_group]
  | chain first rest span =>
      have loose : (Markup.Expr.chain first rest span).level < 9 := by
        cases rest with
        | nil => exact Nat.zero_lt_succ 8
        | cons p rest => exact Nat.lt_of_le_of_lt p.1.level_le_seven (by decide)
      simp [suffixed, atLeast, inBrackets, loose, Markup.Expr.tokens_applied,
        Markup.Primary.tokens_group]

end Tokens

theorem tokens_entry (key : PlainText) (e : Markup.Expr) :
    Markup.entryTokens (.str (String.ofList key.quoted), e) =
      .str (String.ofList key.quoted) :: .symbol .colon :: e.tokens := rfl

mutual

theorem tokens_markup (brackets : Bool) (f : Formula) :
    (f.markup brackets).tokens = f.tokens brackets := by
  cases f with
  | null | number | text | reference => rfl
  | bool value => cases value <;> rfl
  | list items =>
      rw [markup, Markup.Expr.tokens_primary, Markup.Primary.tokens_list, tokens_markups, tokens]
  | map entries =>
      rw [markup, Markup.Expr.tokens_primary, Markup.Primary.tokens_map, tokens_entryMarkups,
        tokens]
  | range first last =>
      rw [markup, Markup.Expr.tokens_primary, Markup.Primary.tokens_range, tokens_markup,
        tokens_markup, tokens]
  | member object name =>
      rw [markup, tokens_suffixed _ (markup_shaped brackets object).2, tokens_markup, tokens]
      rfl
  | call callee arguments =>
      rw [markup, tokens_suffixed _ (markup_shaped brackets callee).2, tokens_markup,
        Markup.Suffix.tokens_call, tokens_markups, tokens]
  | index container key =>
      rw [markup, tokens_suffixed _ (markup_shaped brackets container).2, tokens_markup,
        Markup.Suffix.tokens_index, tokens_markup, tokens]
  | unary op operand =>
      rw [markup, tokens_prefixed, tokens_bracketsBelow (markup_shaped brackets operand).2,
        tokens_markup, tokens]
  | binary op left right =>
      rw [markup, tokens_chained, tokens_bracketsBelow (markup_shaped brackets left).2,
        tokens_bracketsBelow (markup_shaped brackets right).2, tokens_markup, tokens_markup, tokens]
  | ternary condition thenCase elseCase =>
      rw [markup, Markup.Expr.tokens_ternary,
        tokens_bracketsBelow (markup_shaped brackets condition).2, tokens_markup, tokens_markup,
        tokens_markup, tokens]

theorem tokens_markups (brackets : Bool) (fs : List Formula) :
    Markup.commaRow Markup.Expr.tokens (markups brackets fs) = rowTokens brackets fs := by
  match fs with
  | [] => rfl
  | [f] => rw [markups, markups, Markup.commaRow_one, tokens_markup, rowTokens]
  | f :: g :: fs =>
      have more := tokens_markups brackets (g :: fs)
      rw [markups] at more
      rw [markups, markups, Markup.commaRow_more, more, tokens_markup, rowTokens]

theorem tokens_entryMarkups (brackets : Bool) (entries : List (PlainText × Formula)) :
    Markup.commaRow Markup.entryTokens (entryMarkups brackets entries) =
      entryTokens brackets entries := by
  match entries with
  | [] => rfl
  | [(key, f)] =>
      rw [entryMarkups, entryMarkups, Markup.commaRow_one, tokens_entry, tokens_markup, entryTokens]
  | (key, f) :: (key', g) :: entries =>
      have more := tokens_entryMarkups brackets ((key', g) :: entries)
      rw [entryMarkups] at more
      rw [entryMarkups, entryMarkups, Markup.commaRow_more, more, tokens_entry, tokens_markup,
        entryTokens]
      rfl

end

section Balance

open Lexer (Balanced Printed)

variable {ts : List Token}

theorem balanced_inBrackets (h : Balanced ts) : Balanced (inBrackets ts) := .between rfl rfl rfl h

theorem balanced_atLeast (needed level : Nat) (h : Balanced ts) :
    Balanced (atLeast needed level ts) := by
  unfold atLeast
  split
  · exact balanced_inBrackets h
  · exact h

theorem balanced_unaryOp (op : UnaryOp) (h : Balanced ts) : Balanced (op.token :: ts) := by
  cases op
  all_goals exact .cons (.symbol _) rfl rfl h

theorem balanced_binaryOp (op : BinaryOp) (h : Balanced ts) : Balanced (op.token :: ts) := by
  cases op
  all_goals exact .cons (.symbol _) rfl rfl h

mutual

theorem tokens_balanced (brackets : Bool) (f : Formula) : Balanced (f.tokens brackets) := by
  cases f with
  | null => exact .single (.reserved .null) rfl rfl
  | bool value =>
      cases value with
      | true => exact .single (.reserved .yes) rfl rfl
      | false => exact .single (.reserved .no) rfl rfl
  | number n => exact .single (.number n) rfl rfl
  | text t => exact .single (.text t) rfl rfl
  | reference name quiet => exact .single (.reference name.isName quiet) rfl rfl
  | list items => exact .between rfl rfl rfl (rowTokens_balanced brackets items)
  | map entries => exact .between rfl rfl rfl (entryTokens_balanced brackets entries)
  | range first last =>
      have ends : Balanced (.symbol .openBracket :: (first.tokens brackets ++
          .symbol .dots :: last.tokens brackets ++ [.symbol .closeBracket])) := by
        apply Balanced.between rfl rfl rfl
        apply (tokens_balanced brackets first).append
        exact .cons (.symbol .dots) rfl rfl (tokens_balanced brackets last)
      simpa [tokens] using ends
  | member object name =>
      apply (balanced_atLeast _ _ (tokens_balanced brackets object)).append
      exact .cons (.symbol .dot) rfl rfl
        (.single (.ident name.isName name.notReserved name.notSymbol) rfl rfl)
  | call callee arguments =>
      apply (balanced_atLeast _ _ (tokens_balanced brackets callee)).append
      exact .between rfl rfl rfl (rowTokens_balanced brackets arguments)
  | index container key =>
      apply (balanced_atLeast _ _ (tokens_balanced brackets container)).append
      exact .between rfl rfl rfl (tokens_balanced brackets key)
  | unary op operand =>
      exact balanced_unaryOp op (balanced_atLeast _ _ (tokens_balanced brackets operand))
  | binary op left right =>
      apply (balanced_atLeast _ _ (tokens_balanced brackets left)).append
      exact balanced_binaryOp op (balanced_atLeast _ _ (tokens_balanced brackets right))
  | ternary condition thenCase elseCase =>
      apply (balanced_atLeast _ _ (tokens_balanced brackets condition)).append
      apply Balanced.cons (.symbol .question) rfl rfl
      apply (tokens_balanced brackets thenCase).append
      exact .cons (.symbol .colon) rfl rfl (tokens_balanced brackets elseCase)

theorem rowTokens_balanced (brackets : Bool) (fs : List Formula) :
    Balanced (rowTokens brackets fs) := by
  match fs with
  | [] => exact .nil
  | [f] => exact tokens_balanced brackets f
  | f :: g :: fs =>
      apply (tokens_balanced brackets f).append
      exact .cons (.symbol .comma) rfl rfl (rowTokens_balanced brackets (g :: fs))

theorem entryTokens_balanced (brackets : Bool) (entries : List (PlainText × Formula)) :
    Balanced (entryTokens brackets entries) := by
  match entries with
  | [] => exact .nil
  | [(key, f)] =>
      apply Balanced.cons (.text key) rfl rfl
      exact .cons (.symbol .colon) rfl rfl (tokens_balanced brackets f)
  | (key, f) :: (key', g) :: entries =>
      apply Balanced.cons (.text key) rfl rfl
      apply Balanced.cons (.symbol .colon) rfl rfl
      apply (tokens_balanced brackets f).append
      exact .cons (.symbol .comma) rfl rfl (entryTokens_balanced brackets ((key', g) :: entries))

end

end Balance

end Formula

end Template

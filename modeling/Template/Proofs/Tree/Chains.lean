import Template.Proofs.Tree.Depth
import Template.Proofs.Tree.Printing

/-!
How high trees are. Operators and suffixes stand side by side in markup but inside one another in
trees, so a tree is as high as the limit on nesting and its longest chain of them allow; and since
chains are not limited, neither is the height.
-/

namespace Template.Tree

/-- How many operators and suffixes are applied to one another from here down. -/
def Expr.chain : Expr → Nat
  | .member object _ _ => object.chain + 1
  | .call callee _ _ => callee.chain + 1
  | .index container _ _ => container.chain + 1
  | .binary _ left right _ => max left.chain right.chain + 1
  | .unary _ operand _ => operand.chain + 1
  | _ => 0

mutual

/-- The longest chain that begins in the expression. -/
def Expr.longestChain : Expr → Nat
  | .literal _ _ | .reference _ _ _ => 0
  | .interpolated nodes _ => longestChainOfNodes nodes
  | .member object _ _ => max (object.chain + 1) object.longestChain
  | .call callee arguments _ =>
    max (callee.chain + 1) (max callee.longestChain (longestChainOfAll arguments))
  | .index container key _ =>
    max (container.chain + 1) (max container.longestChain key.longestChain)
  | .map entries _ => longestChainOfEntries entries
  | .list elements _ => longestChainOfAll elements
  | .range first last _ => max first.longestChain last.longestChain
  | .binary _ left right _ =>
    max (max left.chain right.chain + 1) (max left.longestChain right.longestChain)
  | .unary _ operand _ => max (operand.chain + 1) operand.longestChain
  | .ternary condition thenCase elseCase _ =>
    max condition.longestChain (max thenCase.longestChain elseCase.longestChain)

def longestChainOfAll : List Expr → Nat
  | [] => 0
  | e :: es => max e.longestChain (longestChainOfAll es)

def longestChainOfEntries : List (String × Expr) → Nat
  | [] => 0
  | (_, e) :: rest => max e.longestChain (longestChainOfEntries rest)

def Node.longestChain : Node → Nat
  | .text _ _ | .leave _ | .stop _ => 0
  | .interpolation e _ _ _ | .assign _ _ e _ | .evaluate e _ | .parse e _ => e.longestChain
  | .conditional branches otherwise _ =>
    max (longestChainOfBranches branches) (longestChainOfOtherwise otherwise)
  | .loop _ iterable body otherwise _ =>
    max iterable.longestChain (max (longestChainOfNodes body) (longestChainOfOtherwise otherwise))
  | .define _ _ body _ => longestChainOfNodes body
  | .macroCall _ arguments _ _ | .embed arguments _ => longestChainOfAll arguments

def longestChainOfNodes : List Node → Nat
  | [] => 0
  | n :: ns => max n.longestChain (longestChainOfNodes ns)

def longestChainOfBranches : List Branch → Nat
  | [] => 0
  | .mk condition body :: rest =>
    max (max condition.longestChain (longestChainOfNodes body)) (longestChainOfBranches rest)

def longestChainOfOtherwise : Option (List Node) → Nat
  | none => 0
  | some body => longestChainOfNodes body

end

theorem Expr.chain_le_longestChain (e : Expr) : e.chain ≤ e.longestChain := by
  cases e <;> simp only [chain, longestChain] <;> omega

theorem Expr.chain_le_height : (e : Expr) → e.chain ≤ e.cost .height
  | .member object _ _ | .unary _ object _ | .call object _ _ | .index object _ _ => by
      have ho := object.chain_le_height
      simp only [chain, cost, Costs.height] at ho ⊢
      omega
  | .binary _ left right _ => by
      have hl := left.chain_le_height
      have hr := right.chain_le_height
      simp only [chain, cost, Costs.height] at hl hr ⊢
      omega
  | .literal .. | .interpolated .. | .reference .. | .map .. | .list .. | .range .. | .ternary .. =>
      Nat.zero_le _

mutual

theorem Expr.longestChain_le : (e : Expr) → e.longestChain ≤ e.cost .height
  | .literal _ _ | .reference _ _ _ => Nat.zero_le _
  | .interpolated nodes _ => by
      have hn := longestChain_nodes_le nodes
      simp only [Expr.longestChain, Expr.cost, Costs.height, if_true] at hn ⊢
      omega
  | .member object _ _ | .unary _ object _ => by
      have chain := object.chain_le_height
      have ho := object.longestChain_le
      simp only [Expr.longestChain, Expr.cost, Costs.height] at chain ho ⊢
      omega
  | .call callee arguments _ => by
      have chain := callee.chain_le_height
      have hc := callee.longestChain_le
      have ha := longestChain_all_le arguments
      simp only [Expr.longestChain, Expr.cost, Costs.height] at chain hc ha ⊢
      omega
  | .index container key _ => by
      have chain := container.chain_le_height
      have hc := container.longestChain_le
      have hk := key.longestChain_le
      simp only [Expr.longestChain, Expr.cost, Costs.height] at chain hc hk ⊢
      omega
  | .map entries _ => (longestChain_entries_le entries).trans (Nat.le_max_right _ _)
  | .list elements _ => (longestChain_all_le elements).trans (Nat.le_max_right _ _)
  | .range first last _ => by
      have hf := first.longestChain_le
      have hl := last.longestChain_le
      simp only [Expr.longestChain, Expr.cost]
      omega
  | .binary _ left right _ => by
      have leftChain := left.chain_le_height
      have rightChain := right.chain_le_height
      have hl := left.longestChain_le
      have hr := right.longestChain_le
      simp only [Expr.longestChain, Expr.cost, Costs.height] at leftChain rightChain hl hr ⊢
      omega
  | .ternary condition thenCase elseCase _ => by
      have hc := condition.longestChain_le
      have ht := thenCase.longestChain_le
      have he := elseCase.longestChain_le
      simp only [Expr.longestChain, Expr.cost]
      omega

theorem longestChain_all_le : (es : List Expr) →
    longestChainOfAll es ≤ costInBrackets .height es
  | [] => Nat.zero_le _
  | e :: es => by
      have he := e.longestChain_le
      have hes := longestChain_all_le es
      simp only [longestChainOfAll, costInBrackets]
      omega

theorem longestChain_entries_le : (entries : List (String × Expr)) →
    longestChainOfEntries entries ≤ costOfEntries .height entries
  | [] => Nat.zero_le _
  | (_, e) :: entries => by
      have he := e.longestChain_le
      have hes := longestChain_entries_le entries
      simp only [longestChainOfEntries, costOfEntries]
      omega

theorem Node.longestChain_le : (n : Node) → n.longestChain ≤ n.cost .height
  | .text _ _ | .leave _ | .stop _ => Nat.zero_le _
  | .interpolation e _ _ _ | .assign _ _ e _ | .evaluate e _ | .parse e _ =>
      e.longestChain_le.trans (Nat.le_add_left _ _)
  | .conditional branches otherwise _ => by
      have hb := longestChain_branches_le branches
      have ho := longestChain_otherwise_le otherwise
      simp only [Node.longestChain, Node.cost]
      omega
  | .loop _ iterable body otherwise _ => by
      have hi := iterable.longestChain_le
      have hb := longestChain_nodes_le body
      have ho := longestChain_otherwise_le otherwise
      simp only [Node.longestChain, Node.cost]
      omega
  | .define _ _ body _ => (longestChain_nodes_le body).trans (Nat.le_add_left _ _)
  | .macroCall _ arguments _ _ | .embed arguments _ => longestChain_all_le arguments

theorem longestChain_nodes_le : (ns : List Node) →
    longestChainOfNodes ns ≤ costOfNodes .height ns
  | [] => Nat.zero_le _
  | n :: ns => by
      have hn := n.longestChain_le
      have hns := longestChain_nodes_le ns
      simp only [longestChainOfNodes, costOfNodes]
      omega

theorem longestChain_branches_le : (branches : List Branch) →
    longestChainOfBranches branches ≤ costOfBranches .height branches
  | [] => Nat.zero_le _
  | .mk condition body :: rest => by
      have hc := condition.longestChain_le
      have hb := longestChain_nodes_le body
      have hr := longestChain_branches_le rest
      simp only [longestChainOfBranches, costOfBranches]
      omega

theorem longestChain_otherwise_le : (otherwise : Option (List Node)) →
    longestChainOfOtherwise otherwise ≤ costOfOtherwise .height otherwise
  | none => Nat.zero_le _
  | some body => (longestChain_nodes_le body).trans (Nat.le_add_left _ _)

end

/-- As many steps as `n` are when each has a whole chain of up to `r` steps behind it. -/
def stretched (r n : Nat) : Nat := n * (r + 1)

section

variable {r : Nat}

@[simp]
theorem stretched_one : stretched r 1 = r + 1 := Nat.one_mul _

@[simp]
theorem stretched_one_add (n : Nat) : stretched r (1 + n) = r + 1 + stretched r n := by
  simp [stretched, Nat.add_mul]

theorem stretched_mono {m n : Nat} (h : m ≤ n) : stretched r m ≤ stretched r n :=
  Nat.mul_le_mul_right _ h

@[simp]
theorem stretched_max (m n : Nat) :
    stretched r (max m n) = max (stretched r m) (stretched r n) := by
  rcases Nat.le_total m n with h | h
  · rw [Nat.max_eq_right h, Nat.max_eq_right (stretched_mono h)]
  · rw [Nat.max_eq_left h, Nat.max_eq_left (stretched_mono h)]

mutual

theorem Expr.height_le : (e : Expr) → e.longestChain ≤ r →
    e.cost .height ≤ stretched r (e.cost .heightBesideChains) + e.chain
  | .literal _ _, _ | .reference _ _ _, _ => Nat.zero_le _
  | .interpolated nodes _, h => by
      simp only [Expr.longestChain] at h
      have hn := height_nodes_le nodes h
      simp only [Expr.cost, Costs.height, Costs.heightBesideChains, if_true, stretched_one_add]
        at hn ⊢
      omega
  | .member object _ _, h => by
      simp only [Expr.longestChain] at h
      have ho := object.height_le (by omega)
      simp only [Expr.cost, Expr.chain, Costs.height, Costs.heightBesideChains, Nat.zero_add]
        at ho ⊢
      omega
  | .call callee arguments _, h => by
      simp only [Expr.longestChain] at h
      have hc := callee.height_le (by omega)
      have ha := height_all_le arguments (by omega)
      simp only [Expr.cost, Expr.chain, Costs.height, Costs.heightBesideChains, Nat.zero_add,
        stretched_max] at hc ha ⊢
      omega
  | .index container key _, h => by
      simp only [Expr.longestChain] at h
      have hc := container.height_le (by omega)
      have hk := key.height_le (by omega)
      have key := key.chain_le_longestChain
      simp only [Expr.cost, Expr.chain, Costs.height, Costs.heightBesideChains, Nat.zero_add,
        stretched_max, stretched_one_add] at hc hk ⊢
      omega
  | .map entries _, h => by
      simp only [Expr.longestChain] at h
      have he := height_entries_le entries h
      simp only [Expr.cost, Costs.height, Costs.heightBesideChains, stretched_max, stretched_one]
        at he ⊢
      omega
  | .list elements _, h => by
      simp only [Expr.longestChain] at h
      have he := height_all_le elements h
      simp only [Expr.cost, Costs.height, Costs.heightBesideChains, stretched_max, stretched_one]
        at he ⊢
      omega
  | .range first last _, h => by
      simp only [Expr.longestChain] at h
      have hf := first.height_le (by omega)
      have hl := last.height_le (by omega)
      have first := first.chain_le_longestChain
      have last := last.chain_le_longestChain
      simp only [Expr.cost, Costs.height, Costs.heightBesideChains, stretched_max,
        stretched_one_add] at hf hl ⊢
      omega
  | .binary _ left right _, h => by
      simp only [Expr.longestChain] at h
      have hl := left.height_le (by omega)
      have hr := right.height_le (by omega)
      simp only [Expr.cost, Expr.chain, Costs.height, Costs.heightBesideChains, Nat.zero_add,
        stretched_max] at hl hr ⊢
      omega
  | .unary _ operand _, h => by
      simp only [Expr.longestChain] at h
      have ho := operand.height_le (by omega)
      simp only [Expr.cost, Expr.chain, Costs.height, Costs.heightBesideChains, Nat.zero_add]
        at ho ⊢
      omega
  | .ternary condition thenCase elseCase _, h => by
      simp only [Expr.longestChain] at h
      have hc := condition.height_le (by omega)
      have ht := thenCase.height_le (by omega)
      have he := elseCase.height_le (by omega)
      have condition := condition.chain_le_longestChain
      have thenCase := thenCase.chain_le_longestChain
      have elseCase := elseCase.chain_le_longestChain
      simp only [Expr.cost, Costs.height, Costs.heightBesideChains, stretched_max,
        stretched_one_add] at hc ht he ⊢
      omega

theorem height_all_le : (es : List Expr) → longestChainOfAll es ≤ r →
    costInBrackets .height es ≤ stretched r (costInBrackets .heightBesideChains es)
  | [], _ => Nat.zero_le _
  | e :: es, h => by
      simp only [longestChainOfAll] at h
      have he := e.height_le (by omega)
      have hes := height_all_le es (by omega)
      have chain := e.chain_le_longestChain
      simp only [costInBrackets, Costs.height, Costs.heightBesideChains, stretched_max,
        stretched_one_add] at he hes ⊢
      omega

theorem height_entries_le : (entries : List (String × Expr)) → longestChainOfEntries entries ≤ r →
    costOfEntries .height entries ≤ stretched r (costOfEntries .heightBesideChains entries)
  | [], _ => Nat.zero_le _
  | (_, e) :: entries, h => by
      simp only [longestChainOfEntries] at h
      have he := e.height_le (by omega)
      have hes := height_entries_le entries (by omega)
      have chain := e.chain_le_longestChain
      simp only [costOfEntries, Costs.height, Costs.heightBesideChains, stretched_max,
        stretched_one_add] at he hes ⊢
      omega

theorem Node.height_le : (n : Node) → n.longestChain ≤ r →
    n.cost .height ≤ stretched r (n.cost .heightBesideChains)
  | .text _ _, _ | .leave _, _ | .stop _, _ => Nat.zero_le _
  | .interpolation e _ _ _, h | .assign _ _ e _, h | .evaluate e _, h | .parse e _, h => by
      simp only [Node.longestChain] at h
      have he := e.height_le h
      have chain := e.chain_le_longestChain
      simp only [Node.cost, Costs.height, Costs.heightBesideChains, stretched_one_add] at he ⊢
      omega
  | .conditional branches otherwise _, h => by
      simp only [Node.longestChain] at h
      have hb := height_branches_le branches (by omega)
      have ho := height_otherwise_le otherwise (by omega)
      simp only [Node.cost, stretched_max]
      omega
  | .loop _ iterable body otherwise _, h => by
      simp only [Node.longestChain] at h
      have hi := iterable.height_le (by omega)
      have hb := height_nodes_le body (by omega)
      have ho := height_otherwise_le otherwise (by omega)
      have chain := iterable.chain_le_longestChain
      simp only [Node.cost, Costs.height, Costs.heightBesideChains, stretched_max,
        stretched_one_add] at hi hb ho ⊢
      omega
  | .define _ _ body _, h => by
      have hb := height_nodes_le body h
      simp only [Node.cost, Costs.height, Costs.heightBesideChains, stretched_one_add] at hb ⊢
      omega
  | .macroCall _ arguments _ _, h | .embed arguments _, h => height_all_le arguments h

theorem height_nodes_le : (ns : List Node) → longestChainOfNodes ns ≤ r →
    costOfNodes .height ns ≤ stretched r (costOfNodes .heightBesideChains ns)
  | [], _ => Nat.zero_le _
  | n :: ns, h => by
      simp only [longestChainOfNodes] at h
      have hn := n.height_le (by omega)
      have hns := height_nodes_le ns (by omega)
      simp only [costOfNodes, stretched_max]
      omega

theorem height_branches_le : (branches : List Branch) → longestChainOfBranches branches ≤ r →
    costOfBranches .height branches ≤ stretched r (costOfBranches .heightBesideChains branches)
  | [], _ => Nat.zero_le _
  | .mk condition body :: rest, h => by
      simp only [longestChainOfBranches] at h
      have hc := condition.height_le (by omega)
      have hb := height_nodes_le body (by omega)
      have hr := height_branches_le rest (by omega)
      have chain := condition.chain_le_longestChain
      simp only [costOfBranches, Costs.height, Costs.heightBesideChains, stretched_max,
        stretched_one_add] at hc hb hr ⊢
      omega

theorem height_otherwise_le : (otherwise : Option (List Node)) →
    longestChainOfOtherwise otherwise ≤ r →
    costOfOtherwise .height otherwise ≤ stretched r (costOfOtherwise .heightBesideChains otherwise)
  | none, _ => Nat.zero_le _
  | some body, h => by
      have hb := height_nodes_le body h
      simp only [costOfOtherwise, Costs.height, Costs.heightBesideChains, stretched_one_add] at hb ⊢
      omega

end

end

theorem Builder.height_suffix (b : Builder) (object : Expr) (s : Markup.Suffix) :
    object.cost .height + 1 ≤ (b.suffix object s).cost .height := by
  cases s <;> simp only [suffix, Expr.cost, Costs.height] <;> omega

theorem Builder.height_suffixes (b : Builder) (object : Expr) (ss : List Markup.Suffix) :
    object.cost .height + ss.length ≤ (b.suffixes object ss).cost .height := by
  induction ss generalizing object with
  | nil => exact Nat.le_refl _
  | cons s ss ih =>
      have first := b.height_suffix object s
      have rest := ih (b.suffix object s)
      simp only [suffixes, List.length_cons]
      omega

end Template.Tree

namespace Template

open Lexer (Reads)

/-- `.b` so many times. -/
def dotted : Nat → List Char
  | 0 => []
  | k + 1 => '.' :: 'b' :: dotted k

/-- `$a.b.b…` with so many properties. -/
def longReference (k : Nat) : String := String.ofList ('$' :: 'a' :: dotted k)

/-- The markup of `longReference`, at no particular place. -/
def longReferenceMarkup (k : Nat) : Markup.Expr :=
  .applied (.reference "a" false default) (List.replicate k (.property "b" default)) default

theorem nameAt_dotted {c : Char} (h : Lexer.isNameStart c) (k : Nat) :
    Lexer.nameAt (c :: dotted k) = [c] := by
  cases k with
  | zero => simp [dotted, Lexer.nameAt, h]
  | succ k => simp [dotted, Lexer.nameAt, h, show Lexer.isNameChar '.' = false from rfl]

/-- The tail of a reference and the place behind a property read dots alike. -/
theorem reads_dotted {mode : Lexer.Mode} (h : mode = .tail ∨ mode = .method) (k : Nat) :
    ∃ next, Reads mode (dotted k)
      ((List.replicate k (.property "b" default)).flatMap Markup.Suffix.tokens) next [] := by
  induction k generalizing mode with
  | zero => exact ⟨mode, .refl mode []⟩
  | succ k ih =>
      obtain ⟨next, rest⟩ := ih (.inr rfl)
      have named := nameAt_dotted (show Lexer.isNameStart 'b' from rfl) k
      have dot : Reads mode ('.' :: ([] ++ 'b' :: dotted k)) [.symbol .dot] .property
          ('b' :: dotted k) := by
        apply Reads.emit
        rcases h with rfl | rfl <;> simp [Lexer.step, Lexer.tailStep, named]
      have name : Reads .property ('b' :: ([] ++ dotted k)) [.ident "b"] .method (dotted k) := by
        apply Reads.emit
        simp [Lexer.step, named]
      refine ⟨next, ?_⟩
      rw [List.replicate_succ, List.flatMap_cons]
      exact (dot.trans name).trans rest

theorem longReference_reads (k : Nat) :
    ∃ next, Reads .text (longReference k).toList (longReferenceMarkup k).tokens next [] := by
  obtain ⟨next, rest⟩ := reads_dotted (.inl rfl) k
  have name : Reads .text ('$' :: (['a'] ++ dotted k)) [.reference "a" false] .tail (dotted k) := by
    apply Reads.emit
    have named := nameAt_dotted (show Lexer.isNameStart 'a' from rfl) k
    simp [Lexer.step, Lexer.textStep, Lexer.dollarStep, Lexer.reference?, named]
  refine ⟨next, ?_⟩
  rw [longReference, String.toList_ofList, longReferenceMarkup, Markup.Expr.tokens_applied]
  exact name.trans rest

theorem longReference_flat (k : Nat) :
    ∀ t ∈ (longReferenceMarkup k).tokens, Nesting.deepens t = false := by
  rw [longReferenceMarkup, Markup.Expr.tokens_applied]
  simp only [List.mem_append, List.mem_flatMap, List.mem_replicate]
  rintro t (ht | ⟨s, ⟨-, rfl⟩, ht⟩)
  · cases List.mem_singleton.1 ht
    rfl
  · rcases List.mem_cons.1 ht with rfl | ht
    · rfl
    · cases List.mem_singleton.1 ht
      rfl

/-- Properties are no levels, so every limit allows all of them. -/
theorem parseSegments_longReference (limit k : Nat) {lexemes : List Lexeme}
    (h : lexemes.map Prod.fst = (longReferenceMarkup (k + 1)).tokens) :
    ∃ m span, Markup.parseSegments (longReference (k + 1)) lexemes limit =
      .ok [.reference m false span] ∧ m.unplaced = (longReferenceMarkup (k + 1)).unplaced := by
  let body : List Markup.Segment := [.reference (longReferenceMarkup (k + 1)) false default]
  have suffixes : ∀ s ∈ List.replicate (k + 1) (Markup.Suffix.property "b" default), s.Shaped := by
    intro s hs
    rw [List.eq_of_mem_replicate hs]
    exact .property
  have shaped : Markup.BodyShaped body :=
    ⟨List.forall_mem_singleton.2 (.reference .applied (.applied (by simp) .reference suffixes)),
      .singleton _⟩
  have spelled : Markup.bodyTokens body = (longReferenceMarkup (k + 1)).tokens := by
    simp [body, Markup.bodyTokens, Markup.Segment.tokens_reference]
  have shallow : Nesting.check (longReference (k + 1)) limit lexemes = .ok () := by
    rw [Nesting.check_eq_ok_iff, h, Nesting.deepest_of_flat (longReference_flat (k + 1))]
    exact Nat.zero_le limit
  obtain ⟨found, parsed, same⟩ := Markup.exists_parseSegments shaped (h.trans spelled.symm) shallow
  obtain ⟨m, span, rfl, hm⟩ := Markup.exists_of_unplacedBody_reference same
  exact ⟨m, span, parsed, hm⟩

namespace Document

open Template.Tree

/-- The longest chain in the document. -/
def longestChain (d : Document) : Nat :=
  max (longestChainOfNodes d.nodes) ((d.expression.map Expr.longestChain).getD 0)

theorem height_le (d : Document) :
    d.cost .height ≤ stretched d.longestChain (d.cost .heightBesideChains) + d.longestChain := by
  have nodes := @height_nodes_le d.longestChain d.nodes (Nat.le_max_left _ _)
  have expression : ((d.expression.map (Expr.cost .height)).getD 0) ≤
      stretched d.longestChain ((d.expression.map (Expr.cost .heightBesideChains)).getD 0) +
        d.longestChain := by
    cases h : d.expression with
    | none => exact Nat.zero_le _
    | some e =>
        have longest : e.longestChain ≤ d.longestChain := by
          rw [longestChain, h]
          exact Nat.le_max_right _ _
        exact (e.height_le longest).trans
          (Nat.add_le_add_left (e.chain_le_longestChain.trans longest) _)
  simp only [cost, stretched_max]
  omega

theorem longestChain_le_height (d : Document) : d.longestChain ≤ d.cost .height := by
  refine Nat.max_le.2 ⟨(longestChain_nodes_le d.nodes).trans (Nat.le_max_left _ _), ?_⟩
  refine Nat.le_trans ?_ (Nat.le_max_right _ _)
  cases d.expression with
  | none => exact Nat.le_refl 0
  | some e => exact e.longestChain_le

/-- Every limit allows a reference with any number of properties. -/
theorem exists_compile_longReference (options : Options) (k : Nat) :
    ∃ d, compile options (longReference (k + 1)) = .ok d ∧ k < d.cost .height := by
  obtain ⟨_, reads⟩ := longReference_reads (k + 1)
  obtain ⟨lexemes, read, tokens⟩ := reads.tokenize
  obtain ⟨m, span, parsed, same⟩ := parseSegments_longReference options.maxNesting k tokens
  obtain ⟨p, ss, s, rfl, -, hs⟩ := Markup.Expr.exists_of_unplaced_applied same
  have length : ss.length = k + 1 := by
    have same := congrArg List.length hs
    simpa [Markup.unplacedSuffixes_eq] using same
  let source := longReference (k + 1)
  let body := Markup.gobble options.gobbling [.reference (.applied p ss s) false span]
  have compiled : compile options source = .ok (ofSegments options.maxNesting source body) := by
    simp [compile, segments, source, body, read, parsed, Except.map]
  refine ⟨_, compiled, Nat.lt_of_lt_of_le ?_ (Nat.le_max_left _ _)⟩
  let b := builder source options.maxNesting
  have high := b.height_suffixes (b.primary p) ss
  change k < costOfNodes .height (b.segments body)
  rw [Builder.cost_segments_gobble]
  simp only [Builder.segments, Builder.segment, Builder.expr, costOfNodes, Node.cost,
    List.append_nil]
  omega

/-- A compiled document is at least as high as its longest chain, and no higher than the limit and
that chain allow. No limit bounds the length of chains, so none bounds the height. -/
theorem height_bounded_by_chains (options : Options) :
    (∀ (source : String) (d : Document), compile options source = .ok d →
      d.longestChain ≤ d.cost .height ∧
      d.cost .height ≤
        (4 * options.maxNesting + 2 * (options.maxNesting.log2 + 3)) * (d.longestChain + 1) +
          d.longestChain) ∧
    ∀ bound : Nat, ∃ source d, compile options source = .ok d ∧ bound < d.cost .height := by
  refine ⟨fun source d h => ⟨d.longestChain_le_height, ?_⟩, fun bound => ?_⟩
  · have beside := cost_le (show Costs.heightBesideChains.chain = 0 from rfl) h
    have bounded : d.cost .heightBesideChains ≤
        4 * options.maxNesting + 2 * (options.maxNesting.log2 + 3) := by
      simp only [Costs.heightBesideChains] at beside ⊢
      omega
    exact d.height_le.trans (Nat.add_le_add_right (stretched_mono bounded) _)
  · exact ⟨_, exists_compile_longReference options bound⟩

/-- A product with an operator in front of a property, in the condition of a block; and a document
that is higher than the limit that allows it. -/
theorem height_bounded_by_chains_product :
    (∃ d, compile Options.standard "#if($a * !$b.c)x#end" = .ok d ∧ d.longestChain = 3 ∧
      d.cost .height = 4 ∧ 3 ≤ 4 ∧ 4 ≤ (4 * 64 + 2 * (Nat.log2 64 + 3)) * (3 + 1) + 3) ∧
    ∃ source d, compile Options.standard source = .ok d ∧ 300 < d.cost .height := by
  let source := "#if($a * !$b.c)x#end"
  let heights (d : Document) := (d.longestChain, d.cost .height)
  have found : ((compile Options.standard source).map heights).toOption = some (3, 4) := by
    decide +kernel
  obtain ⟨d, h, same⟩ := exists_of_measure heights found
  obtain ⟨chain, high⟩ := Prod.mk.inj same
  have bounded := (height_bounded_by_chains Options.standard).1 source d h
  rw [chain, high] at bounded
  exact ⟨⟨d, h, chain, high, bounded⟩, (height_bounded_by_chains Options.standard).2 300⟩

end Document

end Template

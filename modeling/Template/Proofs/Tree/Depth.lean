import Template.Proofs.Markup.Depth
import Template.Proofs.Markup.Lines
import Template.Tree.Compile

/-!
How far trees go down. A way from the root to a leaf is measured by what its steps cost. The limit
on nesting bounds the bodies, brackets and branches on the way; it says nothing about how many
operators and suffixes are applied to one another.
-/

namespace Template.Tree

/-- What a step costs, from a part of a tree to a part of that. -/
structure Costs where
  /-- Into a body, into brackets or into a branch of a ternary. -/
  level : Nat
  /-- To an operand, or to what a suffix is applied to. -/
  chain : Nat
  /-- Any other step. -/
  other : Nat
  /-- Are there steps into the templates of strings? -/
  strings : Bool

namespace Costs

/-- Counts bodies, brackets and branches, perhaps also those in strings. -/
def levels (strings : Bool) : Costs := ⟨1, 0, 0, strings⟩

/-- Counts all steps. -/
def height : Costs := ⟨1, 1, 1, true⟩

/-- Counts all steps but those along operators and suffixes. -/
def heightBesideChains : Costs := ⟨1, 0, 1, true⟩

end Costs

variable (c : Costs)

mutual

/-- The cost of the dearest way down. -/
def Expr.cost : Expr → Nat
  | .literal _ _ | .reference _ _ _ => 0
  | .interpolated nodes _ => if c.strings then c.other + costOfNodes nodes else 0
  | .member object _ _ => c.chain + object.cost
  | .call callee arguments _ => max (c.chain + callee.cost) (costInBrackets arguments)
  | .index container key _ => max (c.chain + container.cost) (c.level + key.cost)
  | .map entries _ => max c.level (costOfEntries entries)
  | .list elements _ => max c.level (costInBrackets elements)
  | .range first last _ => c.level + max first.cost last.cost
  | .binary _ left right _ => c.chain + max left.cost right.cost
  | .unary _ operand _ => c.chain + operand.cost
  | .ternary condition thenCase elseCase _ =>
    max (c.other + condition.cost) (c.level + max thenCase.cost elseCase.cost)

def costInBrackets : List Expr → Nat
  | [] => 0
  | e :: es => max (c.level + e.cost) (costInBrackets es)

def costOfEntries : List (String × Expr) → Nat
  | [] => 0
  | (_, e) :: rest => max (c.level + e.cost) (costOfEntries rest)

def Node.cost : Node → Nat
  | .text _ _ | .leave _ | .stop _ => 0
  | .interpolation e _ _ _ => c.other + e.cost
  | .conditional branches otherwise _ => max (costOfBranches branches) (costOfOtherwise otherwise)
  | .assign _ _ e _ | .evaluate e _ | .parse e _ => c.level + e.cost
  | .loop _ iterable body otherwise _ =>
    max (c.level + iterable.cost) (max (c.level + costOfNodes body) (costOfOtherwise otherwise))
  | .define _ _ body _ => c.level + costOfNodes body
  | .macroCall _ arguments _ _ | .embed arguments _ => costInBrackets arguments

def costOfNodes : List Node → Nat
  | [] => 0
  | n :: ns => max n.cost (costOfNodes ns)

def costOfBranches : List Branch → Nat
  | [] => 0
  | .mk condition body :: rest =>
    max (c.level + max condition.cost (costOfNodes body)) (costOfBranches rest)

def costOfOtherwise : Option (List Node) → Nat
  | none => 0
  | some body => c.level + costOfNodes body

end

theorem costOfNodes_append (ms ns : List Node) :
    costOfNodes c (ms ++ ns) = max (costOfNodes c ms) (costOfNodes c ns) := by
  induction ms with
  | nil => simp [costOfNodes]
  | cons m ms ih => simp [costOfNodes, ih, Nat.max_assoc]

namespace Costs

variable {c}

/-- What markup so many levels deep costs at most, if a string costs at most `t`: on each level
there is one step into it and perhaps another one. -/
def bound (c : Costs) (t levels : Nat) : Nat := (c.level + c.other) * levels + t

@[simp]
theorem bound_zero (t : Nat) : c.bound t 0 = t := by
  simp [bound]

@[simp]
theorem bound_succ (t n : Nat) : c.bound t (n + 1) = c.bound t n + (c.level + c.other) := by
  simp only [bound, Nat.mul_succ]
  omega

theorem bound_mono (t : Nat) {m n : Nat} (h : m ≤ n) : c.bound t m ≤ c.bound t n :=
  Nat.add_le_add_right (Nat.mul_le_mul_left _ h) t

@[simp]
theorem bound_max (t m n : Nat) : c.bound t (max m n) = max (c.bound t m) (c.bound t n) := by
  rcases Nat.le_total m n with h | h
  · rw [Nat.max_eq_right h, Nat.max_eq_right (bound_mono t h)]
  · rw [Nat.max_eq_left h, Nat.max_eq_left (bound_mono t h)]

end Costs

namespace Builder

/-- Operators and suffixes cost nothing, and no string costs more than `t`. -/
structure Bounded (b : Builder) (c : Costs) (t : Nat) : Prop where
  chain : c.chain = 0
  template : c.strings → ∀ body offset nodes, b.template body offset = some nodes →
    c.other + costOfNodes c nodes ≤ t

namespace Bounded

variable {c} {b : Builder} {t : Nat}

theorem literal (h : b.Bounded c t) (value : Markup.Literal) (s : Span) :
    (b.literal value s).cost c ≤ t := by
  cases value with
  | str raw =>
      simp only [Builder.literal]
      split
      next nodes found =>
        split at found
        · simp only [Expr.cost]
          split
          next strings => exact h.template strings _ _ nodes found
          next => exact Nat.zero_le t
        · cases found
      next => exact Nat.zero_le t
  | _ => exact Nat.zero_le t

theorem unaries (h : b.Bounded c t) (place : Region) (operand : Expr) (ops : List UnaryOp) :
    (Builder.unaries place operand ops).cost c = operand.cost c := by
  induction ops with
  | nil => rfl
  | cons op ops ih => simp [Builder.unaries, Expr.cost, h.chain, ih]

mutual

/-- Only a ternary may cost one step more than its levels do, which leads to its condition. -/
theorem expr (h : b.Bounded c t) : (e : Markup.Expr) → e.Shaped →
    (b.expr e).cost c ≤ c.bound t e.nesting + (if 2 ≤ e.level then 0 else c.other)
  | .ternary condition thenCase elseCase _, hs => by
      cases hs with
      | ternary hl hc ht he =>
          have hc := h.expr condition hc
          have ht := h.expr thenCase ht
          have he := h.expr elseCase he
          rw [if_pos hl] at hc
          rw [if_neg (by simp [Markup.Expr.level])]
          simp only [Builder.expr, Expr.cost, Markup.Expr.nesting, Costs.bound_max,
            Costs.bound_succ]
          split at ht <;> split at he <;> omega
  | .chain first rest _, hs => by
      cases hs with
      | chain level hn hl hf ho hr =>
          have two := (Markup.Expr.Shaped.level_of_rest hn ho).1
          have hf := h.expr first hf
          have hr := h.operands rest (fun p hp => ⟨hr p hp, two.trans (ho p hp).2.le⟩)
            (b.expr first)
          rw [if_pos (two.trans hl.le)] at hf
          simp only [Builder.expr, Markup.Expr.nesting, Costs.bound_max]
          omega
  | .unary operators operand _, hs => by
      cases hs with
      | unary _ hl hs =>
          have ho := h.expr operand hs
          rw [if_pos (by omega)] at ho
          simp only [Builder.expr, Markup.Expr.nesting, h.unaries]
          omega
  | .applied primary suffixes _, hs => by
      cases hs with
      | applied _ hp hs =>
          have hp := h.primary primary hp
          have hs := h.suffixes suffixes hs (b.primary primary)
          simp only [Builder.expr, Markup.Expr.nesting, Costs.bound_max]
          omega
  | .primary primary, hs => by
      cases hs with
      | primary hs =>
          have hp := h.primary primary hs
          simp only [Builder.expr, Markup.Expr.nesting]
          omega

theorem operands (h : b.Bounded c t) : (rest : List (BinaryOp × Markup.Expr)) →
    (∀ p ∈ rest, p.2.Shaped ∧ 2 ≤ p.2.level) → (left : Expr) →
    (b.operands left rest).cost c ≤ max (left.cost c) (c.bound t (Markup.nestingOfRest rest))
  | [], _, left => Nat.le_max_left _ _
  | (op, e) :: rest, hr, left => by
      obtain ⟨⟨hs, hl⟩, hr⟩ := List.forall_mem_cons.1 hr
      have he := h.expr e hs
      have hr := h.operands rest hr (.binary op left (b.expr e) (left.place.cover (b.expr e).place))
      rw [if_pos hl] at he
      simp only [Expr.cost, h.chain] at hr
      simp only [Builder.operands, Markup.nestingOfRest, Costs.bound_max]
      omega

theorem suffixes (h : b.Bounded c t) : (ss : List Markup.Suffix) → (∀ s ∈ ss, s.Shaped) →
    (object : Expr) → (b.suffixes object ss).cost c ≤
      max (object.cost c) (c.bound t (Markup.nestingOfSuffixes ss))
  | [], _, object => Nat.le_max_left _ _
  | s :: ss, hs, object => by
      obtain ⟨hs, hss⟩ := List.forall_mem_cons.1 hs
      have hs := h.suffix s hs object
      have hss := h.suffixes ss hss (b.suffix object s)
      simp only [Builder.suffixes, Markup.nestingOfSuffixes, Costs.bound_max]
      omega

theorem suffix (h : b.Bounded c t) : (s : Markup.Suffix) → s.Shaped → (object : Expr) →
    (b.suffix object s).cost c ≤ max (object.cost c) (c.bound t s.nesting)
  | .property name s, _, object => by
      simp only [Builder.suffix, Expr.cost, h.chain]
      omega
  | .call arguments s, hs, object => by
      cases hs with
      | call hs =>
          have ha := h.exprs arguments hs
          simp only [Builder.suffix, Expr.cost, h.chain, Markup.Suffix.nesting]
          omega
  | .index key s, hs, object => by
      cases hs with
      | index hs =>
          have hk := h.expr key hs
          simp only [Builder.suffix, Expr.cost, h.chain, Markup.Suffix.nesting, Costs.bound_succ]
          split at hk <;> omega

theorem primary (h : b.Bounded c t) : (p : Markup.Primary) → p.Shaped →
    (b.primary p).cost c ≤ c.bound t p.nesting
  | .literal value s, _ => by
      simpa [Builder.primary, Markup.Primary.nesting] using h.literal value s
  | .reference _ _ _, _ => Nat.zero_le _
  | .formal inner _ _, hs => by
      cases hs with
      | formal _ hs =>
          have hi := h.expr inner hs
          simp only [Builder.primary, Markup.Primary.nesting, Costs.bound_succ]
          split at hi <;> omega
  | .group inner _, hs => by
      cases hs with
      | group hs =>
          have hi := h.expr inner hs
          simp only [Builder.primary, Markup.Primary.nesting, Costs.bound_succ]
          split at hi <;> omega
  | .list items _, hs => by
      cases hs with
      | list hs =>
          have hi := h.exprs items hs
          simp only [Builder.primary, Expr.cost, Markup.Primary.nesting, Costs.bound_succ] at hi ⊢
          omega
  | .range first last _, hs => by
      cases hs with
      | range hf hl =>
          have hf := h.expr first hf
          have hl := h.expr last hl
          simp only [Builder.primary, Expr.cost, Markup.Primary.nesting, Costs.bound_succ,
            Costs.bound_max]
          split at hf <;> split at hl <;> omega
  | .map entries _, hs => by
      cases hs with
      | map hs =>
          have he := h.entries entries hs
          simp only [Builder.primary, Expr.cost, Markup.Primary.nesting, Costs.bound_succ] at he ⊢
          omega

theorem exprs (h : b.Bounded c t) : (es : List Markup.Expr) → (∀ e ∈ es, e.Shaped) →
    costInBrackets c (b.exprs es) ≤ c.bound t (Markup.nestingOfAll es + 1)
  | [], _ => Nat.zero_le _
  | e :: es, hs => by
      obtain ⟨he, hs⟩ := List.forall_mem_cons.1 hs
      have he := h.expr e he
      have hs := h.exprs es hs
      simp only [Builder.exprs, costInBrackets, Markup.nestingOfAll, Costs.bound_succ,
        Costs.bound_max] at hs ⊢
      split at he <;> omega

theorem entries (h : b.Bounded c t) : (entries : List (Markup.MapKey × Markup.Expr)) →
    (∀ p ∈ entries, p.2.Shaped) →
    costOfEntries c (b.entries entries) ≤ c.bound t (Markup.nestingOfEntries entries + 1)
  | [], _ => Nat.zero_le _
  | (key, e) :: entries, hs => by
      obtain ⟨he, hs⟩ := List.forall_mem_cons.1 hs
      have he := h.expr e he
      have hs := h.entries entries hs
      simp only [Builder.entries, costOfEntries, Markup.nestingOfEntries, Costs.bound_succ,
        Costs.bound_max] at hs ⊢
      split at he <;> omega

end

theorem anyExpr (h : b.Bounded c t) {e : Markup.Expr} (hs : e.Shaped) :
    (b.expr e).cost c ≤ c.bound t e.nesting + c.other := by
  have he := h.expr e hs
  split at he <;> omega

theorem textNode (content : String) (s : Span) : costOfNodes c (b.textNode content s) = 0 := by
  unfold Builder.textNode
  split
  · rfl
  · rfl

mutual

theorem segment (h : b.Bounded c t) : (s : Markup.Segment) → s.Shaped →
    costOfNodes c (b.segment s) ≤ c.bound t s.nesting + c.other
  | .text content s, _ | .unparsed content s, _ => by
      simp only [Builder.segment, textNode]
      exact Nat.zero_le _
  | .leave _, _ | .stop _, _ => Nat.zero_le _
  | .reference e _ _, hs => by
      cases hs with
      | reference hn hs =>
          have he := h.expr e hs
          rw [if_pos (by cases hn <;> simp [Markup.Expr.level])] at he
          simp only [Builder.segment, costOfNodes, Node.cost, Markup.Segment.nesting]
          omega
  | .formal inner _ _, hs => by
      cases hs with
      | formal _ hs =>
          have hi := h.anyExpr hs
          simp only [Builder.segment, costOfNodes, Node.cost, Markup.Segment.nesting,
            Costs.bound_succ]
          omega
  | .conditional (.mk _ condition body) rest otherwise _ _, hs => by
      cases hs with
      | conditional hf hr ho =>
          cases hf with
          | mk hc hb =>
              have hc := h.anyExpr hc
              have hb := h.segments body hb
              have hr := h.arms rest hr
              have ho := h.fallback otherwise ho
              simp only [Builder.segment, Builder.arm, costOfNodes, Node.cost, costOfBranches,
                Markup.Segment.nesting, Markup.Arm.nesting, Costs.bound_succ, Costs.bound_max]
                at hr ho ⊢
              omega
  | .assign _ _ value _, hs => by
      cases hs with
      | assign hs =>
          have hv := h.anyExpr hs
          simp only [Builder.segment, costOfNodes, Node.cost, Markup.Segment.nesting,
            Costs.bound_succ]
          omega
  | .loop _ _ iterable body otherwise _ _, hs => by
      cases hs with
      | loop hi hb _ ho =>
          have hi := h.anyExpr hi
          have hb := h.segments body hb
          have ho := h.fallback otherwise ho
          simp only [Builder.segment, costOfNodes, Node.cost, Markup.Segment.nesting,
            Costs.bound_succ, Costs.bound_max] at ho ⊢
          omega
  | .define _ _ _ body _ _, hs => by
      cases hs with
      | define hb _ =>
          have hb := h.segments body hb
          simp only [Builder.segment, costOfNodes, Node.cost, Markup.Segment.nesting,
            Costs.bound_succ]
          omega
  | .macroCall _ none _, _ => Nat.zero_le _
  | .macroCall _ (some arguments) _, hs => by
      cases hs with
      | macroCall hs =>
          have ha := h.exprs arguments (hs arguments rfl)
          simp only [Builder.segment, costOfNodes, Node.cost, Markup.Segment.nesting,
            Option.getD_some]
          omega
  | .evaluate argument _, hs => by
      cases hs with
      | evaluate hs =>
          have ha := h.anyExpr hs
          simp only [Builder.segment, costOfNodes, Node.cost, Markup.Segment.nesting,
            Costs.bound_succ]
          omega
  | .parse argument _, hs => by
      cases hs with
      | parse hs =>
          have ha := h.anyExpr hs
          simp only [Builder.segment, costOfNodes, Node.cost, Markup.Segment.nesting,
            Costs.bound_succ]
          omega
  | .embed arguments _, hs => by
      cases hs with
      | embed _ hs =>
          have ha := h.exprs arguments hs
          simp only [Builder.segment, costOfNodes, Node.cost, Markup.Segment.nesting]
          omega

theorem arms (h : b.Bounded c t) : (arms : List Markup.Arm) → (∀ a ∈ arms, a.Shaped) →
    costOfBranches c (b.arms arms) ≤ c.bound t (Markup.nestingOfArms arms + 1)
  | [], _ => Nat.zero_le _
  | .mk _ condition body :: arms, hs => by
      obtain ⟨ha, hs⟩ := List.forall_mem_cons.1 hs
      cases ha with
      | mk hc hb =>
          have hc := h.anyExpr hc
          have hb := h.segments body hb
          have hs := h.arms arms hs
          simp only [Builder.arms, Builder.arm, costOfBranches, Markup.nestingOfArms,
            Markup.Arm.nesting, Costs.bound_succ, Costs.bound_max] at hs ⊢
          omega

theorem fallback (h : b.Bounded c t) : (f : Option Markup.Fallback) → (∀ g ∈ f, g.Shaped) →
    costOfOtherwise c (b.fallback f) ≤ c.bound t (Markup.nestingOfFallback f + 1)
  | none, _ => Nat.zero_le _
  | some (.mk _ body), hs => by
      cases hs _ rfl with
      | mk hb =>
          have hb := h.segments body hb
          simp only [Builder.fallback, costOfOtherwise, Markup.nestingOfFallback, Costs.bound_succ]
          omega

theorem segments (h : b.Bounded c t) : (body : List Markup.Segment) → (∀ s ∈ body, s.Shaped) →
    costOfNodes c (b.segments body) ≤ c.bound t (Markup.nestingOfBody body) + c.other
  | [], _ => Nat.zero_le _
  | s :: ss, hs => by
      obtain ⟨hs, hss⟩ := List.forall_mem_cons.1 hs
      have hs := h.segment s hs
      have hss := h.segments ss hss
      simp only [Builder.segments, costOfNodes_append, Markup.nestingOfBody, Costs.bound_max]
      omega

end

end Bounded

mutual

/-- Text costs nothing, so it does not matter whether it is deleted. -/
theorem cost_segment_skeleton (b : Builder) : (s : Markup.Segment) →
    costOfNodes c (b.segment s.skeleton) = costOfNodes c (b.segment s)
  | .text content s => by
      simp only [Markup.Segment.skeleton, Builder.segment, Bounded.textNode]
  | .conditional (.mk _ condition body) rest otherwise _ _ => by
      simp only [Markup.Segment.skeleton, Markup.Arm.skeleton, Builder.segment, Builder.arm,
        costOfNodes, Node.cost, costOfBranches, cost_segments_skeleton b body,
        cost_arms_skeleton b rest, cost_fallback_skeleton b otherwise]
  | .loop _ _ iterable body otherwise _ _ => by
      simp only [Markup.Segment.skeleton, Builder.segment, costOfNodes, Node.cost,
        cost_segments_skeleton b body, cost_fallback_skeleton b otherwise]
  | .define _ _ _ body _ _ => by
      simp only [Markup.Segment.skeleton, Builder.segment, costOfNodes, Node.cost,
        cost_segments_skeleton b body]
  | .unparsed .. | .reference .. | .formal .. | .assign .. | .leave .. | .stop ..
  | .macroCall .. | .evaluate .. | .parse .. | .embed .. => rfl

theorem cost_arms_skeleton (b : Builder) : (arms : List Markup.Arm) →
    costOfBranches c (b.arms (Markup.skeletonArms arms)) = costOfBranches c (b.arms arms)
  | [] => rfl
  | .mk _ condition body :: arms => by
      simp only [Markup.skeletonArms, Markup.Arm.skeleton, Builder.arms, Builder.arm,
        costOfBranches, cost_segments_skeleton b body, cost_arms_skeleton b arms]

theorem cost_fallback_skeleton (b : Builder) : (f : Option Markup.Fallback) →
    costOfOtherwise c (b.fallback (Markup.skeletonFallback f)) =
      costOfOtherwise c (b.fallback f)
  | none => rfl
  | some (.mk _ body) => by
      simp only [Markup.skeletonFallback, Builder.fallback, costOfOtherwise,
        cost_segments_skeleton b body]

theorem cost_segments_skeleton (b : Builder) : (body : List Markup.Segment) →
    costOfNodes c (b.segments (Markup.skeleton body)) = costOfNodes c (b.segments body)
  | [] => rfl
  | s :: ss => by
      simp only [Markup.skeleton, Builder.segments, costOfNodes_append,
        cost_segment_skeleton b s, cost_segments_skeleton b ss]

end

theorem cost_segments_gobble (b : Builder) (mode : Gobbling) (body : List Markup.Segment) :
    costOfNodes c (b.segments (Markup.gobble mode body)) = costOfNodes c (b.segments body) := by
  rw [← cost_segments_skeleton c b body, ← Markup.skeleton_gobble mode body,
    cost_segments_skeleton]

end Builder

theorem costOfNodes_unquoteText (ns : List Node) :
    costOfNodes c (ns.map unquoteText) = costOfNodes c ns := by
  induction ns with
  | nil => rfl
  | cons n ns ih => cases n <;> simp [costOfNodes, unquoteText, Node.cost, ih]

variable {c}

/-- The limit is halved from string to string, so all strings in one another cost no more than twice
what the limit allows for one of them, and two steps for each that lead into it and to what it
prints. -/
theorem cost_stringTemplate (hc : c.chain = 0) {source : List Char} {lines : LineTable}
    {levels limit : Nat} {body : List Char} {offset : Nat} {nodes : List Node}
    (h : stringTemplate source lines levels limit body offset = some nodes) :
    costOfNodes c nodes ≤ 2 * ((c.level + c.other) * limit) + 2 * (c.other * levels) := by
  induction levels generalizing limit body offset nodes with
  | zero => cases h
  | succ levels ih =>
      simp only [stringTemplate] at h
      split at h
      · cases h
      next lexemes _ =>
        split at h
        · cases h
        next segments parsed =>
          split at h
          · cases h
          · cases h
            rw [costOfNodes_unquoteText]
            let inside := 2 * ((c.level + c.other) * (limit / 2)) + 2 * (c.other * levels)
            let b : Builder :=
              ⟨source, lines, offset, stringTemplate source lines levels (limit / 2)⟩
            have bounded : b.Bounded c (c.other + inside) :=
              ⟨hc, fun _ _ _ _ found => Nat.add_le_add_left (ih found) _⟩
            obtain ⟨shaped, nested⟩ := Markup.nesting_le_of_parseSegments parsed
            have cost := bounded.segments segments shaped
            have whole := Costs.bound_mono (c.other + inside) nested (c := c)
            have half : (c.level + c.other) * (2 * (limit / 2)) ≤ (c.level + c.other) * limit :=
              Nat.mul_le_mul_left _ (Nat.mul_div_le limit 2)
            simp only [Costs.bound, inside] at cost whole
            change costOfNodes c (b.segments segments) ≤ _
            simp only [Nat.mul_left_comm _ 2] at half
            simp only [Nat.mul_succ]
            omega

end Template.Tree

namespace Template.Document

open Template.Tree

/-- The cost of the dearest way down the document. -/
def cost (c : Costs) (d : Document) : Nat :=
  max (costOfNodes c d.nodes) ((d.expression.map (Expr.cost c)).getD 0)

/-- What a limit allows, if a string costs at most `t`. -/
theorem cost_le_of_bounded {c : Costs} {t : Nat} {options : Options} {source : String}
    {d : Document} (hb : (builder source options.maxNesting).Bounded c t)
    (h : compile options source = .ok d) : d.cost c ≤ c.bound t options.maxNesting + c.other := by
  unfold compile segments at h
  split at h
  · cases h
  next lexemes _ =>
    split at h
    · cases h
    next body parsed =>
      cases h
      obtain ⟨shaped, nested⟩ := Markup.nesting_le_of_parseSegments parsed
      have nodes := (hb.segments body shaped).trans
        (Nat.add_le_add_right (Costs.bound_mono t nested) _)
      rw [← Builder.cost_segments_gobble c _ options.gobbling] at nodes
      refine Nat.max_le.2 ⟨nodes, ?_⟩
      simp only [ofSegments, Option.map_map]
      cases found : Markup.wholeExpression? source options.maxNesting with
      | none => exact Nat.zero_le _
      | some m =>
          obtain ⟨shaped, nested⟩ := Markup.nesting_le_of_wholeExpression? found
          exact (hb.anyExpr shaped).trans (Nat.add_le_add_right (Costs.bound_mono t nested) _)

/-- The limit bounds the cost of whatever is not a step along operators or suffixes. -/
theorem cost_le {c : Costs} (hc : c.chain = 0) {options : Options} {source : String}
    {d : Document} (h : compile options source = .ok d) :
    d.cost c ≤ 2 * ((c.level + c.other) * options.maxNesting) +
      2 * (c.other * (options.maxNesting.log2 + 3)) := by
  let limit := options.maxNesting
  let inside := 2 * ((c.level + c.other) * (limit / 2)) + 2 * (c.other * stringLevels limit)
  have bounded : (builder source limit).Bounded c (c.other + inside) :=
    ⟨hc, fun _ _ _ _ found => Nat.add_le_add_left (cost_stringTemplate hc found) _⟩
  have cost := cost_le_of_bounded bounded h
  have half : (c.level + c.other) * (2 * (limit / 2)) ≤ (c.level + c.other) * limit :=
    Nat.mul_le_mul_left _ (Nat.mul_div_le limit 2)
  simp only [Nat.mul_left_comm _ 2] at half
  simp only [Costs.bound, inside, stringLevels, limit, Nat.mul_add] at cost half ⊢
  omega

/-- Something is measured of a document, so the source is one. -/
theorem exists_of_measure {α : Type} {options : Options} {source : String} (f : Document → α)
    {a : α} (h : ((compile options source).map f).toOption = some a) :
    ∃ d, compile options source = .ok d ∧ f d = a := by
  cases found : compile options source with
  | error e => simp [found, Except.map, Except.toOption] at h
  | ok d =>
      rw [found] at h
      exact ⟨d, rfl, Option.some.inj h⟩

/-- On a way down a compiled document there are at most twice as many bodies, brackets and branches
as the limit on nesting allows, and no more than it allows outside the templates of strings. -/
theorem compile_bounds_levels (options : Options) (source : String) (d : Document)
    (h : compile options source = .ok d) :
    d.cost (.levels true) ≤ 2 * options.maxNesting ∧
      d.cost (.levels false) ≤ options.maxNesting := by
  constructor
  · have cost := cost_le (show (Costs.levels true).chain = 0 from rfl) h
    simpa [Costs.levels] using cost
  · have bounded : (builder source options.maxNesting).Bounded (.levels false) 0 := ⟨rfl, nofun⟩
    simpa [Costs.bound, Costs.levels] using cost_le_of_bounded bounded h

/-- A block with a call with a list with a string: more levels than are allowed outside strings. -/
theorem compile_bounds_levels_string :
    ∃ d, compile { Options.standard with maxNesting := 3 } "#if($a)$b.c([\"$d[$e]\"])#end" = .ok d ∧
      d.cost (.levels true) = 4 ∧ d.cost (.levels false) = 3 ∧
      d.cost (.levels true) ≤ 2 * 3 ∧ d.cost (.levels false) ≤ 3 := by
  let options := { Options.standard with maxNesting := 3 }
  let source := "#if($a)$b.c([\"$d[$e]\"])#end"
  let costs (d : Document) := (d.cost (.levels true), d.cost (.levels false))
  have found : ((compile options source).map costs).toOption = some (4, 3) := by decide +kernel
  obtain ⟨d, h, same⟩ := exists_of_measure costs found
  obtain ⟨ht, hf⟩ := Prod.mk.inj same
  obtain ⟨inside, outside⟩ := compile_bounds_levels options source d h
  exact ⟨d, h, ht, hf, inside, outside⟩

end Template.Document

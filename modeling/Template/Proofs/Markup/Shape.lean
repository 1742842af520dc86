import Mathlib.Data.List.Chain
import Template.Markup.Basic

/-!
The shape that the grammar gives to markup, and markup without its spans. Operands stand at tighter
levels than the operators between them; two texts never stand side by side.
-/

namespace Template

namespace BinaryOp

/-- The level of a chain: the higher, the tighter. -/
def level : BinaryOp → Nat
  | disj => 2
  | conj => 3
  | equal | notEqual => 4
  | less | lessEqual | greater | greaterEqual => 5
  | add | subtract => 6
  | multiply | divide | modulo => 7

theorem two_le_level (op : BinaryOp) : 2 ≤ op.level := by
  cases op <;> decide

theorem level_le_seven (op : BinaryOp) : op.level ≤ 7 := by
  cases op <;> decide

end BinaryOp

namespace Markup

namespace Expr

def level : Expr → Nat
  | ternary .. => 1
  | chain _ [] _ => 0
  | chain _ ((op, _) :: _) _ => op.level
  | unary .. => 8
  | applied .. | primary _ => 9

/-- A name and what is applied to it. -/
inductive Named (quiet : Bool) : Expr → Prop where
  | applied {name : String} {place span : Span} {suffixes : List Suffix} :
      Named quiet (applied (.reference name quiet place) suffixes span)
  | primary {name : String} {place : Span} : Named quiet (primary (.reference name quiet place))

end Expr

mutual

inductive Expr.Shaped : Expr → Prop where
  | ternary {condition thenCase elseCase : Expr} {span : Span} (hl : 2 ≤ condition.level)
      (hc : condition.Shaped) (ht : thenCase.Shaped) (he : elseCase.Shaped) :
      (Expr.ternary condition thenCase elseCase span).Shaped
  | chain {first : Expr} {rest : List (BinaryOp × Expr)} {span : Span} (level : Nat)
      (hn : rest ≠ []) (hl : level < first.level) (hf : first.Shaped)
      (ho : ∀ p ∈ rest, p.1.level = level ∧ level < p.2.level) (hr : ∀ p ∈ rest, p.2.Shaped) :
      (Expr.chain first rest span).Shaped
  | unary {operators : List UnaryOp} {operand : Expr} {span : Span} (hn : operators ≠ [])
      (hl : 9 ≤ operand.level) (h : operand.Shaped) : (Expr.unary operators operand span).Shaped
  | applied {primary : Primary} {suffixes : List Suffix} {span : Span} (hn : suffixes ≠ [])
      (hp : primary.Shaped) (hs : ∀ s ∈ suffixes, s.Shaped) :
      (Expr.applied primary suffixes span).Shaped
  | primary {primary : Primary} (h : primary.Shaped) : (Expr.primary primary).Shaped

inductive Primary.Shaped : Primary → Prop where
  | literal {value : Literal} {span : Span} : (Primary.literal value span).Shaped
  | reference {name : String} {quiet : Bool} {span : Span} :
      (Primary.reference name quiet span).Shaped
  | formal {inner : Expr} {quiet : Bool} {span : Span} (hn : inner.Named false)
      (h : inner.Shaped) : (Primary.formal inner quiet span).Shaped
  | group {inner : Expr} {span : Span} (h : inner.Shaped) : (Primary.group inner span).Shaped
  | list {items : List Expr} {span : Span} (h : ∀ e ∈ items, e.Shaped) :
      (Primary.list items span).Shaped
  | range {first last : Expr} {span : Span} (hf : first.Shaped) (hl : last.Shaped) :
      (Primary.range first last span).Shaped
  | map {entries : List (MapKey × Expr)} {span : Span} (h : ∀ p ∈ entries, p.2.Shaped) :
      (Primary.map entries span).Shaped

inductive Suffix.Shaped : Suffix → Prop where
  | property {name : String} {span : Span} : (Suffix.property name span).Shaped
  | call {arguments : List Expr} {span : Span} (h : ∀ e ∈ arguments, e.Shaped) :
      (Suffix.call arguments span).Shaped
  | index {key : Expr} {span : Span} (h : key.Shaped) : (Suffix.index key span).Shaped

end

namespace Segment

def isText : Segment → Bool
  | text .. => true
  | _ => false

/-- May the second segment stand behind the first? -/
def MayPrecede (a b : Segment) : Prop := ¬(a.isText ∧ b.isText)

end Segment

mutual

inductive Segment.Shaped : Segment → Prop where
  | text {content : String} {span : Span} : (Segment.text content span).Shaped
  | unparsed {body : String} {span : Span} : (Segment.unparsed body span).Shaped
  | reference {e : Expr} {quiet : Bool} {span : Span} (hn : e.Named quiet) (h : e.Shaped) :
      (Segment.reference e quiet span).Shaped
  | formal {inner : Expr} {quiet : Bool} {span : Span} (hn : inner.Named false)
      (h : inner.Shaped) : (Segment.formal inner quiet span).Shaped
  | conditional {first : Arm} {rest : List Arm} {otherwise : Option Fallback} {close span : Span}
      (hf : first.Shaped) (hr : ∀ a ∈ rest, a.Shaped) (ho : ∀ f ∈ otherwise, f.Shaped) :
      (Segment.conditional first rest otherwise close span).Shaped
  | assign {name : String} {path : List String} {value : Expr} {span : Span} (h : value.Shaped) :
      (Segment.assign name path value span).Shaped
  | loop {header : Span} {item : String} {iterable : Expr} {body : List Segment}
      {otherwise : Option Fallback} {close span : Span} (hi : iterable.Shaped)
      (hb : ∀ s ∈ body, s.Shaped) (hc : body.IsChain Segment.MayPrecede)
      (ho : ∀ f ∈ otherwise, f.Shaped) :
      (Segment.loop header item iterable body otherwise close span).Shaped
  | leave {span : Span} : (Segment.leave span).Shaped
  | stop {span : Span} : (Segment.stop span).Shaped
  | define {header : Span} {name : String} {parameters : List String} {body : List Segment}
      {close span : Span} (hb : ∀ s ∈ body, s.Shaped) (hc : body.IsChain Segment.MayPrecede) :
      (Segment.define header name parameters body close span).Shaped
  | macroCall {name : String} {arguments : Option (List Expr)} {span : Span}
      (h : ∀ es ∈ arguments, ∀ e ∈ es, e.Shaped) : (Segment.macroCall name arguments span).Shaped
  | evaluate {argument : Expr} {span : Span} (h : argument.Shaped) :
      (Segment.evaluate argument span).Shaped
  | parse {argument : Expr} {span : Span} (h : argument.Shaped) :
      (Segment.parse argument span).Shaped
  | embed {arguments : List Expr} {span : Span} (hn : arguments ≠ [])
      (h : ∀ e ∈ arguments, e.Shaped) : (Segment.embed arguments span).Shaped

inductive Arm.Shaped : Arm → Prop where
  | mk {header : Span} {condition : Expr} {body : List Segment} (h : condition.Shaped)
      (hb : ∀ s ∈ body, s.Shaped) (hc : body.IsChain Segment.MayPrecede) :
      (Arm.mk header condition body).Shaped

inductive Fallback.Shaped : Fallback → Prop where
  | mk {header : Span} {body : List Segment} (hb : ∀ s ∈ body, s.Shaped)
      (hc : body.IsChain Segment.MayPrecede) : (Fallback.mk header body).Shaped

end

/-- A body: its segments have their shape, and texts are not divided. -/
structure BodyShaped (body : List Segment) : Prop where
  segments : ∀ s ∈ body, s.Shaped
  texts : body.IsChain Segment.MayPrecede

mutual

/-- An expression without its spans. -/
def Expr.unplaced : Expr → Expr
  | .ternary condition thenCase elseCase _ =>
    .ternary condition.unplaced thenCase.unplaced elseCase.unplaced default
  | .chain first rest _ => .chain first.unplaced (unplacedRest rest) default
  | .unary operators operand _ => .unary operators operand.unplaced default
  | .applied primary suffixes _ => .applied primary.unplaced (unplacedSuffixes suffixes) default
  | .primary primary => .primary primary.unplaced

def unplacedRest : List (BinaryOp × Expr) → List (BinaryOp × Expr)
  | [] => []
  | (op, e) :: rest => (op, e.unplaced) :: unplacedRest rest

def unplacedSuffixes : List Suffix → List Suffix
  | [] => []
  | s :: ss => s.unplaced :: unplacedSuffixes ss

def unplacedItems : List Expr → List Expr
  | [] => []
  | e :: es => e.unplaced :: unplacedItems es

def unplacedEntries : List (MapKey × Expr) → List (MapKey × Expr)
  | [] => []
  | (key, e) :: rest => (key, e.unplaced) :: unplacedEntries rest

def Primary.unplaced : Primary → Primary
  | .literal value _ => .literal value default
  | .reference name quiet _ => .reference name quiet default
  | .formal inner quiet _ => .formal inner.unplaced quiet default
  | .group inner _ => .group inner.unplaced default
  | .list items _ => .list (unplacedItems items) default
  | .range first last _ => .range first.unplaced last.unplaced default
  | .map entries _ => .map (unplacedEntries entries) default

def Suffix.unplaced : Suffix → Suffix
  | .property name _ => .property name default
  | .call arguments _ => .call (unplacedItems arguments) default
  | .index key _ => .index key.unplaced default

end

mutual

/-- A segment without its spans. -/
def Segment.unplaced : Segment → Segment
  | .text content _ => .text content default
  | .unparsed body _ => .unparsed body default
  | .reference e quiet _ => .reference e.unplaced quiet default
  | .formal inner quiet _ => .formal inner.unplaced quiet default
  | .conditional first rest otherwise _ _ =>
    .conditional first.unplaced (unplacedArms rest) (unplacedFallback otherwise) default default
  | .assign name path value _ => .assign name path value.unplaced default
  | .loop _ item iterable body otherwise _ _ =>
    .loop default item iterable.unplaced (unplacedBody body) (unplacedFallback otherwise) default
      default
  | .leave _ => .leave default
  | .stop _ => .stop default
  | .define _ name parameters body _ _ =>
    .define default name parameters (unplacedBody body) default default
  | .macroCall name arguments _ => .macroCall name (arguments.map unplacedItems) default
  | .evaluate argument _ => .evaluate argument.unplaced default
  | .parse argument _ => .parse argument.unplaced default
  | .embed arguments _ => .embed (unplacedItems arguments) default

def Arm.unplaced : Arm → Arm
  | .mk _ condition body => .mk default condition.unplaced (unplacedBody body)

def unplacedArms : List Arm → List Arm
  | [] => []
  | a :: as => a.unplaced :: unplacedArms as

def unplacedFallback : Option Fallback → Option Fallback
  | none => none
  | some (.mk _ body) => some (.mk default (unplacedBody body))

def unplacedBody : List Segment → List Segment
  | [] => []
  | s :: ss => s.unplaced :: unplacedBody ss

end

theorem unplacedRest_eq (rest : List (BinaryOp × Expr)) :
    unplacedRest rest = rest.map fun p => (p.1, p.2.unplaced) := by
  induction rest with
  | nil => rfl
  | cons p rest ih => simp [unplacedRest, ih]

theorem unplacedSuffixes_eq (suffixes : List Suffix) :
    unplacedSuffixes suffixes = suffixes.map Suffix.unplaced := by
  induction suffixes with
  | nil => rfl
  | cons s ss ih => simp [unplacedSuffixes, ih]

theorem unplacedItems_eq (es : List Expr) : unplacedItems es = es.map Expr.unplaced := by
  induction es with
  | nil => rfl
  | cons e es ih => simp [unplacedItems, ih]

theorem unplacedEntries_eq (entries : List (MapKey × Expr)) :
    unplacedEntries entries = entries.map fun p => (p.1, p.2.unplaced) := by
  induction entries with
  | nil => rfl
  | cons p entries ih => simp [unplacedEntries, ih]

theorem unplacedArms_eq (arms : List Arm) : unplacedArms arms = arms.map Arm.unplaced := by
  induction arms with
  | nil => rfl
  | cons a arms ih => simp [unplacedArms, ih]

namespace Expr.Shaped

theorem level_chain {first : Expr} {rest : List (BinaryOp × Expr)} {span : Span} {level : Nat}
    (hn : rest ≠ []) (ho : ∀ p ∈ rest, p.1.level = level ∧ level < p.2.level) :
    (Expr.chain first rest span).level = level := by
  obtain ⟨p, ps, rfl⟩ := List.exists_cons_of_ne_nil hn
  exact (ho p (by simp)).1

theorem level_of_rest {rest : List (BinaryOp × Expr)} {level : Nat}
    (hn : rest ≠ []) (ho : ∀ p ∈ rest, p.1.level = level ∧ level < p.2.level) :
    2 ≤ level ∧ level ≤ 7 := by
  obtain ⟨p, ps, rfl⟩ := List.exists_cons_of_ne_nil hn
  rw [← (ho p (by simp)).1]
  exact ⟨p.1.two_le_level, p.1.level_le_seven⟩

theorem one_le_level {e : Expr} (h : e.Shaped) : 1 ≤ e.level := by
  cases h with
  | ternary => exact Nat.le_refl 1
  | chain level hn _ _ ho _ =>
      rw [level_chain hn ho]
      exact Nat.le_of_succ_le (level_of_rest hn ho).1
  | unary | applied | primary => simp [Expr.level]

end Expr.Shaped

end Markup

end Template

import Template.Proofs.Markup.RoundTrip
import Template.Proofs.Markup.Spans
import Template.Proofs.Tree.Depth
import Template.Proofs.Tree.Thinned

/-!
Where the parts of a tree are. The place of a part is a part of the source and contains the places
of what the part is made of; the nodes of a body stand one behind the other. That goes for the
templates in strings as well, whose texts are parts of the source too.
-/

namespace Template.Tree

/-- The expressions that an expression is made of. -/
def Expr.exprs : Expr → List Expr
  | .literal _ _ | .interpolated _ _ | .reference _ _ _ => []
  | .member object _ _ => [object]
  | .call callee arguments _ => callee :: arguments
  | .index container key _ => [container, key]
  | .map entries _ => entries.map Prod.snd
  | .list elements _ => elements
  | .range first last _ => [first, last]
  | .binary _ left right _ => [left, right]
  | .unary _ operand _ => [operand]
  | .ternary condition thenCase elseCase _ => [condition, thenCase, elseCase]

/-- The expressions of a node that are not in one of its bodies. -/
def Node.exprs : Node → List Expr
  | .text _ _ | .leave _ | .stop _ | .define _ _ _ _ => []
  | .interpolation e _ _ _ | .assign _ _ e _ | .loop _ e _ _ _ | .evaluate e _ | .parse e _ => [e]
  | .conditional branches _ _ => branches.map Branch.condition
  | .macroCall _ arguments _ _ | .embed arguments _ => arguments

inductive Part where
  | expr (e : Expr)
  | node (n : Node)

/-- The node is behind those in front of it. -/
def Ascending (ns : List Node) : Prop :=
  ns.Pairwise fun m n => m.place.span.stop ≤ n.place.span.start

namespace Part

def place : Part → Region
  | expr e => e.place
  | node n => n.place

def exprs : Part → List Expr
  | expr e => e.exprs
  | node n => n.exprs

def bodies : Part → List (List Node)
  | expr (.interpolated nodes _) => [nodes]
  | expr _ => []
  | node n => n.bodies

/-- What the part is made of. -/
def parts (p : Part) : List Part := p.exprs.map expr ++ p.bodies.flatten.map node

/-- The text of the source that a node repeats if it has nothing to print. -/
def echo? : Part → Option String
  | node (.interpolation _ _ source _) | node (.macroCall _ _ source _) => some source
  | _ => none

/-- The part has the property, and so have all parts in it. -/
inductive Everywhere (P : Part → Prop) : Part → Prop where
  | mk {p : Part} (here : P p) (below : ∀ q ∈ p.parts, Everywhere P q) : Everywhere P p

/-- The part is where a part of the source is, and around its own parts. -/
structure Placed (source : List Char) (p : Part) : Prop where
  holds : ∃ inside, p.place.Holds source inside
  contains : ∀ q ∈ p.parts, p.place.span.Contains q.place.span
  ascending : ∀ body ∈ p.bodies, Ascending body
  echo : ∀ text ∈ p.echo?, p.place.Holds source text.toList

theorem forall_parts {p : Part} {P : Part → Prop} :
    (∀ q ∈ p.parts, P q) ↔
      (∀ e ∈ p.exprs, P (.expr e)) ∧ ∀ body ∈ p.bodies, ∀ n ∈ body, P (.node n) := by
  simp only [parts, List.forall_mem_append, List.forall_mem_map, List.mem_flatten]
  refine and_congr_right fun _ => ⟨fun h body hb n hn => h n ⟨body, hb, hn⟩, ?_⟩
  rintro h n ⟨body, hb, hn⟩
  exact h body hb n hn

end Part

namespace Builder

open Markup

/-- The part stands among the tokens, and all in it where it should. -/
structure Puts (b : Builder) (ls : List Lexeme) (p : Part) : Prop where
  placed : p.Everywhere (Part.Placed b.source)
  runs : ∃ s : Span, s.Runs ls ∧ p.place = b.region s

structure Lays (b : Builder) (ls : List Lexeme) (ns : List Node) : Prop where
  each : ∀ n ∈ ns, b.Puts ls (.node n)
  ascending : Ascending ns

/-- The builder knows the lines of the source, and puts the template of a string where the string
has its text. -/
structure Grounded (b : Builder) : Prop where
  lines : b.lines = LineTable.ofChars b.source
  template {front body back : List Char} {nodes : List Node}
    (hs : b.source = front ++ (body ++ back))
    (h : b.template body (Text.byteLength front) = some nodes) :
    Ascending nodes ∧ ∀ n ∈ nodes, (Part.node n).Everywhere (Part.Placed b.source) ∧
      (Span.mk (Text.byteLength front) (Text.byteLength (front ++ body))).Contains n.place.span

variable {b : Builder} {ls la lb : List Lexeme} {s t : Span} {p : Part}

theorem Puts.mono (h : b.Puts la p) (hl : la ⊆ ls) : b.Puts ls p := by
  obtain ⟨placed, s, runs, place⟩ := h
  exact ⟨placed, s, runs.mono hl, place⟩

theorem Lays.mono {ns : List Node} (h : b.Lays la ns) (hl : la ⊆ ls) : b.Lays ls ns :=
  ⟨fun n hn => (h.each n hn).mono hl, h.ascending⟩

theorem Lays.nil : b.Lays ls [] := ⟨nofun, .nil⟩

theorem Lays.single {n : Node} (h : b.Puts ls (.node n)) : b.Lays ls [n] :=
  ⟨List.forall_mem_singleton.2 h, List.pairwise_singleton ..⟩

/-- What is put among later tokens stands behind what is put among the first. -/
theorem Lays.append {ms ns : List Node} (hs : Lexeme.Stand b.source b.offset (la ++ lb))
    (hm : b.Lays la ms) (hn : b.Lays lb ns) : b.Lays (la ++ lb) (ms ++ ns) := by
  refine ⟨List.forall_mem_append.2 ⟨?_, ?_⟩, List.pairwise_append.2
    ⟨hm.ascending, hn.ascending, fun m hmm n hnn => ?_⟩⟩
  · exact fun m hmm => (hm.each m hmm).mono (List.subset_append_left la lb)
  · exact fun n hnn => (hn.each n hnn).mono (List.subset_append_right la lb)
  · obtain ⟨-, s, runs, place⟩ := hm.each m hmm
    obtain ⟨-, t, runs', place'⟩ := hn.each n hnn
    rw [show m.place = b.region s from place, show n.place = b.region t from place']
    exact Nat.add_le_add_right (hs.disjoint runs runs') b.offset

theorem region_cover (b : Builder) (s t : Span) :
    (b.region s).cover (b.region t) = b.region (s.cover t) := by
  rw [region, region, LineTable.region_cover, ← Span.shift_cover, region]

namespace Grounded

theorem holds (h : b.Grounded) (hs : Lexeme.Stand b.source b.offset ls) (runs : s.Runs ls) :
    (b.region s).Holds b.source (b.sourceText s).toList := by
  obtain ⟨inside, holds⟩ := hs.holds runs
  rw [← h.lines] at holds
  have slice : Text.slice? (s.shift b.offset).start (s.shift b.offset).stop b.source =
    some inside := holds.slice?
  have text : (b.sourceText s).toList = inside := by simp [sourceText, slice]
  rw [text]
  exact holds

/-- A part whose place contains the places of its parts. -/
theorem puts (h : b.Grounded) (hs : Lexeme.Stand b.source b.offset ls) (runs : s.Runs ls)
    (place : p.place = b.region s)
    (parts : ∀ q ∈ p.parts, q.Everywhere (Part.Placed b.source) ∧
      (s.shift b.offset).Contains q.place.span)
    (ascending : ∀ body ∈ p.bodies, Ascending body)
    (echo : ∀ text ∈ p.echo?, text = b.sourceText s) : b.Puts ls p := by
  have holds := h.holds hs runs
  refine ⟨.mk ⟨⟨_, place ▸ holds⟩, fun q hq => ?_, ascending, fun text ht => ?_⟩
    fun q hq => (parts q hq).1, s, runs, place⟩
  · rw [place]
    exact (parts q hq).2
  · rw [place, echo text ht]
    exact holds

/-- A part that covers the tokens among which its parts stand. -/
theorem puts_of_covers (h : b.Grounded) (hs : Lexeme.Stand b.source b.offset ls) (hl : la <:+: ls)
    (covers : s.Covers la) (place : p.place = b.region s)
    (exprs : ∀ e ∈ p.exprs, b.Puts la (.expr e)) (bodies : ∀ body ∈ p.bodies, b.Lays la body)
    (echo : ∀ text ∈ p.echo?, text = b.sourceText s) : b.Puts ls p := by
  have stand := hs.restrict hl
  have inside {q : Part} (hq : b.Puts la q) : q.Everywhere (Part.Placed b.source) ∧
      (s.shift b.offset).Contains q.place.span := by
    obtain ⟨placed, t, runs, place⟩ := hq
    rw [place]
    exact ⟨placed, (stand.contains covers runs).shift b.offset⟩
  refine h.puts hs ((stand.runs covers).mono hl.subset) place (Part.forall_parts.2 ⟨?_, ?_⟩)
    (fun body hb => (bodies body hb).ascending) echo
  · exact fun e he => inside (exprs e he)
  · exact fun body hb n hn => inside ((bodies body hb).each n hn)

/-- An operator covers its operands. -/
theorem puts_binary (h : b.Grounded) (hs : Lexeme.Stand b.source b.offset ls) {op : BinaryOp}
    {left right : Expr} (hl : b.Puts ls (.expr left)) (hr : b.Puts ls (.expr right)) :
    b.Puts ls (.expr (.binary op left right (left.place.cover right.place))) := by
  obtain ⟨placedl, s, runsl, placel⟩ := hl
  obtain ⟨placedr, t, runsr, placer⟩ := hr
  change left.place = _ at placel
  change right.place = _ at placer
  refine h.puts hs (runsl.cover runsr) ?_ (Part.forall_parts.2 ⟨?_, nofun⟩) nofun nofun
  · change left.place.cover right.place = _
    rw [placel, placer, region_cover]
  · simp only [Part.exprs, Expr.exprs, List.forall_mem_cons]
    refine ⟨⟨placedl, ?_⟩, ⟨placedr, ?_⟩, nofun⟩
    · rw [Part.place, placel]
      exact (s.cover_left t).shift b.offset
    · rw [Part.place, placer]
      exact (s.cover_right t).shift b.offset

/-- A suffix covers what it is applied to, and its arguments. -/
theorem puts_suffix (h : b.Grounded) (hs : Lexeme.Stand b.source b.offset ls) (hl : la <:+: ls)
    (covers : s.Covers la) {object e : Expr} {arguments : List Expr}
    (ho : b.Puts ls (.expr object)) (place : e.place = object.place.cover (b.region s))
    (exprs : e.exprs = object :: arguments) (bodies : (Part.expr e).bodies = [])
    (ha : ∀ a ∈ arguments, b.Puts la (.expr a)) : b.Puts ls (.expr e) := by
  obtain ⟨placed, t, runs, at_⟩ := ho
  change object.place = _ at at_
  have stand := hs.restrict hl
  have runs' := (stand.runs covers).mono hl.subset
  refine h.puts hs (runs.cover runs') ?_ (Part.forall_parts.2 ⟨?_, ?_⟩) ?_ nofun
  · change e.place = _
    rw [place, at_, region_cover]
  · simp only [Part.exprs, exprs, List.forall_mem_cons]
    refine ⟨⟨placed, ?_⟩, fun a hm => ?_⟩
    · rw [Part.place, at_]
      exact (t.cover_left s).shift b.offset
    · obtain ⟨placed, u, runs, at_⟩ := ha a hm
      rw [at_]
      exact ⟨placed, ((t.cover_right s).trans (stand.contains covers runs)).shift b.offset⟩
  · simp [bodies]
  · simp [bodies]

/-- The text between the quotes of a string is a part of the source, inside the string. -/
theorem template_of_str (h : b.Grounded) (hs : Lexeme.Stand b.source b.offset ls)
    (runs : s.Runs ls) {raw : String} (hl : (.str raw, s) ∈ ls) {nodes : List Node}
    (found : b.template (Tree.splitQuotes raw).2 (b.offset + s.start + 1) = some nodes) :
    b.Puts ls (.expr (.interpolated nodes (b.region s))) := by
  obtain ⟨before, cs, after, split, spelled, span⟩ := hs.spelled _ hl
  have start : s.start + b.offset = Text.byteLength before := congrArg Span.start span
  have stop : s.stop + b.offset = Text.byteLength (before ++ cs) := congrArg Span.stop span
  cases spelled with
  | @str quote inner hq =>
      have size : quote.utf8Size = 1 := by rcases hq with rfl | rfl <;> rfl
      have body : (Tree.splitQuotes (String.ofList (quote :: (inner ++ [quote])))).2 = inner := by
        simp [Tree.splitQuotes]
      have place : b.offset + s.start + 1 = Text.byteLength (before ++ [quote]) := by
        rw [Text.byteLength_append, ← start, Text.byteLength, Text.byteLength, size]
        omega
      rw [body, place] at found
      have source : b.source = (before ++ [quote]) ++ (inner ++ quote :: after) := by
        simp [split]
      obtain ⟨ascending, each⟩ := h.template source found
      refine h.puts hs runs rfl (Part.forall_parts.2 ⟨List.forall_mem_nil _, ?_⟩)
        (List.forall_mem_singleton.2 ascending) fun _ ht => by cases ht
      refine List.forall_mem_singleton.2 fun n hn => ⟨(each n hn).1, ?_⟩
      refine Span.Contains.trans ⟨?_, ?_⟩ (each n hn).2
      · simp only [Span.shift, start, Text.byteLength_append]
        omega
      · simp only [Span.shift, stop, Text.byteLength_append, Text.byteLength]
        omega

theorem literal (h : b.Grounded) (hs : Lexeme.Stand b.source b.offset ls)
    (value : Markup.Literal) (hf : FitsIn [(Primary.literal value s).layout] ls) :
    b.Puts ls (.expr (b.literal value s)) := by
  obtain ⟨la, hl, covers, fits⟩ := hf.part
  have plain {value : Literal} : b.Puts ls (.expr (.literal value (b.region s))) :=
    h.puts_of_covers hs hl covers rfl nofun nofun nofun
  cases value with
  | str raw =>
      simp only [Builder.literal]
      split
      next nodes found =>
        split at found
        · obtain rfl := fits.eq_of_covers covers
          have runs := (hs.restrict hl).runs covers
          exact h.template_of_str hs (runs.mono hl.subset) (hl.subset (List.mem_singleton.2 rfl))
            found
        · cases found
      next => exact plain
  | _ => exact plain

theorem unaries (h : b.Grounded) (hs : Lexeme.Stand b.source b.offset la) (covers : s.Covers la)
    {operand : Expr} (ho : b.Puts la (.expr operand)) (ops : List UnaryOp) :
    b.Puts la (.expr (Builder.unaries (b.region s) operand ops)) := by
  induction ops with
  | nil => exact ho
  | cons op ops ih =>
      exact h.puts_of_covers hs List.infix_rfl covers rfl (List.forall_mem_singleton.2 ih) nofun
        nofun

mutual

theorem expr (h : b.Grounded) : (e : Markup.Expr) → e.Shaped → {ls : List Lexeme} →
    Lexeme.Stand b.source b.offset ls → FitsIn [e.layout] ls → b.Puts ls (.expr (b.expr e))
  | .ternary condition thenCase elseCase s, shaped, ls, hs, hf => by
      cases shaped with
      | ternary _ hc ht he =>
          obtain ⟨la, hl, covers, fits⟩ := hf.part
          have stand := hs.restrict hl
          refine h.puts_of_covers hs hl covers rfl ?_ nofun nofun
          simp only [Builder.expr, Part.exprs, Expr.exprs, List.forall_mem_cons]
          exact ⟨h.expr condition hc stand (fits.mem (by simp)),
            h.expr thenCase ht stand (fits.mem (by simp)),
            h.expr elseCase he stand (fits.mem (by simp)), nofun⟩
  | .chain first rest s, shaped, ls, hs, hf => by
      cases shaped with
      | chain _ _ _ hf' _ hr =>
          obtain ⟨la, hl, covers, fits⟩ := hf.part
          have stand := hs.restrict hl
          refine Puts.mono ?_ hl.subset
          exact h.operands rest hr stand
            (fun p hp => fits.mem (List.mem_cons_of_mem _ (mem_layoutRest hp)))
            (h.expr first hf' stand (fits.mem (by simp)))
  | .unary operators operand s, shaped, ls, hs, hf => by
      cases shaped with
      | unary _ _ ho =>
          obtain ⟨la, hl, covers, fits⟩ := hf.part
          have stand := hs.restrict hl
          have inner := h.expr operand ho stand (fits.mem (by simp))
          exact (h.unaries stand covers inner operators).mono hl.subset
  | .applied primary suffixes s, shaped, ls, hs, hf => by
      cases shaped with
      | applied _ hp hx =>
          obtain ⟨la, hl, covers, fits⟩ := hf.part
          have stand := hs.restrict hl
          refine Puts.mono ?_ hl.subset
          exact h.suffixes suffixes hx stand
            (fun x hx => fits.mem (List.mem_cons_of_mem _ (mem_layoutSuffixes hx)))
            (h.primary primary hp stand (fits.mem (by simp)))
  | .primary primary, shaped, ls, hs, hf => by
      cases shaped with
      | primary hp => exact h.primary primary hp hs hf

/-- The operands of a chain, whose first ones are put. -/
theorem operands (h : b.Grounded) : (rest : List (BinaryOp × Markup.Expr)) →
    (∀ p ∈ rest, p.2.Shaped) → {ls : List Lexeme} → Lexeme.Stand b.source b.offset ls →
      (∀ p ∈ rest, FitsIn [p.2.layout] ls) → {left : Expr} → b.Puts ls (.expr left) →
        b.Puts ls (.expr (b.operands left rest))
  | [], _, _, _, _, _, hl => hl
  | (op, e) :: rest, shaped, ls, hs, hf, left, hl => by
      obtain ⟨he, shaped⟩ := List.forall_mem_cons.1 shaped
      obtain ⟨fe, hf⟩ := List.forall_mem_cons.1 hf
      exact h.operands rest shaped hs hf (h.puts_binary hs hl (h.expr e he hs fe))

theorem primary (h : b.Grounded) : (p : Primary) → p.Shaped → {ls : List Lexeme} →
    Lexeme.Stand b.source b.offset ls → FitsIn [p.layout] ls → b.Puts ls (.expr (b.primary p))
  | .literal value s, _, ls, hs, hf => h.literal hs value hf
  | .reference name quiet s, _, ls, hs, hf => by
      obtain ⟨la, hl, covers, -⟩ := hf.part
      exact h.puts_of_covers hs hl covers rfl nofun nofun nofun
  | .formal inner quiet s, shaped, ls, hs, hf => by
      cases shaped with
      | formal named hi =>
          obtain ⟨la, hl, covers, fits⟩ := hf.part
          exact (h.inBraces inner named hi (hs.restrict hl) (fits.mem (by simp))).mono hl.subset
  | .group inner s, shaped, ls, hs, hf => by
      cases shaped with
      | group hi =>
          obtain ⟨la, hl, covers, fits⟩ := hf.part
          exact (h.expr inner hi (hs.restrict hl) (fits.mem (by simp))).mono hl.subset
  | .list items s, shaped, ls, hs, hf => by
      cases shaped with
      | list hi =>
          obtain ⟨la, hl, covers, fits⟩ := hf.part
          have inner := h.exprs items hi (hs.restrict hl) fun e he => fits.mem
            (List.mem_append_left _ (List.mem_cons_of_mem _ (mem_row_items he)))
          exact h.puts_of_covers hs hl covers rfl inner nofun nofun
  | .range first last s, shaped, ls, hs, hf => by
      cases shaped with
      | range hf' hl' =>
          obtain ⟨la, hl, covers, fits⟩ := hf.part
          have stand := hs.restrict hl
          refine h.puts_of_covers hs hl covers rfl ?_ nofun nofun
          simp only [Builder.primary, Part.exprs, Expr.exprs, List.forall_mem_cons]
          exact ⟨h.expr first hf' stand (fits.mem (by simp)),
            h.expr last hl' stand (fits.mem (by simp)), nofun⟩
  | .map entries s, shaped, ls, hs, hf => by
      cases shaped with
      | map he =>
          obtain ⟨la, hl, covers, fits⟩ := hf.part
          have inner := h.entries entries he (hs.restrict hl) fun p hp => fits.mem
            (List.mem_append_left _ (List.mem_cons_of_mem _ (mem_row_entries hp)))
          exact h.puts_of_covers hs hl covers rfl (List.forall_mem_map.2 inner) nofun nofun

/-- A name in braces and what is applied to it. -/
theorem inBraces (h : b.Grounded) : (e : Markup.Expr) → e.Named false → e.Shaped →
    {ls : List Lexeme} → Lexeme.Stand b.source b.offset ls → FitsIn [e.layoutInBraces] ls →
      b.Puts ls (.expr (b.expr e))
  | .applied (.reference name quiet place) suffixes s, _, shaped, ls, hs, hf => by
      cases shaped with
      | applied _ _ hx =>
          obtain ⟨la, hl, covers, fits⟩ := hf.part
          have stand := hs.restrict hl
          obtain ⟨lp, hp, covers', -⟩ := (fits.mem (List.mem_cons_self ..)).part
          have name : b.Puts la (.expr (.reference name quiet (b.region place))) :=
            h.puts_of_covers stand hp covers' rfl nofun nofun nofun
          have whole := h.suffixes suffixes hx stand
            (fun x hx => fits.mem (List.mem_cons_of_mem _ (mem_layoutSuffixes hx))) name
          exact whole.mono hl.subset
  | .primary (.reference name quiet place), _, _, ls, hs, hf => by
      obtain ⟨la, hl, covers, -⟩ := hf.part
      exact h.puts_of_covers hs hl covers rfl nofun nofun nofun

theorem exprs (h : b.Grounded) : (es : List Markup.Expr) → (∀ e ∈ es, e.Shaped) →
    {ls : List Lexeme} → Lexeme.Stand b.source b.offset ls → (∀ e ∈ es, FitsIn [e.layout] ls) →
      ∀ e ∈ b.exprs es, b.Puts ls (.expr e)
  | [], _, _, _, _ => nofun
  | e :: es, shaped, ls, hs, hf => by
      obtain ⟨he, shaped⟩ := List.forall_mem_cons.1 shaped
      obtain ⟨fe, hf⟩ := List.forall_mem_cons.1 hf
      exact List.forall_mem_cons.2 ⟨h.expr e he hs fe, h.exprs es shaped hs hf⟩

theorem entries (h : b.Grounded) : (entries : List (MapKey × Markup.Expr)) →
    (∀ p ∈ entries, p.2.Shaped) → {ls : List Lexeme} → Lexeme.Stand b.source b.offset ls →
      (∀ p ∈ entries, FitsIn [p.2.layout] ls) → ∀ p ∈ b.entries entries, b.Puts ls (.expr p.2)
  | [], _, _, _, _ => nofun
  | (key, e) :: rest, shaped, ls, hs, hf => by
      obtain ⟨he, shaped⟩ := List.forall_mem_cons.1 shaped
      obtain ⟨fe, hf⟩ := List.forall_mem_cons.1 hf
      exact List.forall_mem_cons.2 ⟨h.expr e he hs fe, h.entries rest shaped hs hf⟩

theorem suffixes (h : b.Grounded) : (suffixes : List Markup.Suffix) →
    (∀ x ∈ suffixes, x.Shaped) → {ls : List Lexeme} → Lexeme.Stand b.source b.offset ls →
      (∀ x ∈ suffixes, FitsIn [x.layout] ls) → {object : Expr} → b.Puts ls (.expr object) →
        b.Puts ls (.expr (b.suffixes object suffixes))
  | [], _, _, _, _, _, ho => ho
  | x :: rest, shaped, ls, hs, hf, object, ho => by
      obtain ⟨hx, shaped⟩ := List.forall_mem_cons.1 shaped
      obtain ⟨fx, hf⟩ := List.forall_mem_cons.1 hf
      exact h.suffixes rest shaped hs hf (h.suffix x hx hs fx ho)

theorem suffix (h : b.Grounded) : (x : Markup.Suffix) → x.Shaped → {ls : List Lexeme} →
    Lexeme.Stand b.source b.offset ls → FitsIn [x.layout] ls → {object : Expr} →
      b.Puts ls (.expr object) → b.Puts ls (.expr (b.suffix object x))
  | .property name s, _, ls, hs, hf, object, ho => by
      obtain ⟨la, hl, covers, -⟩ := hf.part
      exact h.puts_suffix hs hl covers ho rfl rfl rfl nofun
  | .call arguments s, shaped, ls, hs, hf, object, ho => by
      cases shaped with
      | call ha =>
          obtain ⟨la, hl, covers, fits⟩ := hf.part
          have inner := h.exprs arguments ha (hs.restrict hl) fun e he => fits.mem
            (List.mem_append_left _ (List.mem_cons_of_mem _ (mem_row_items he)))
          exact h.puts_suffix hs hl covers ho rfl rfl rfl inner
  | .index key s, shaped, ls, hs, hf, object, ho => by
      cases shaped with
      | index hk =>
          obtain ⟨la, hl, covers, fits⟩ := hf.part
          exact h.puts_suffix hs hl covers ho rfl rfl rfl
            (List.forall_mem_singleton.2 (h.expr key hk (hs.restrict hl) (fits.mem (by simp))))

end

theorem textNode (h : b.Grounded) (hs : Lexeme.Stand b.source b.offset ls) (hl : la <:+: ls)
    (covers : s.Covers la) (content : String) : b.Lays ls (b.textNode content s) := by
  unfold Builder.textNode
  split
  · exact .nil
  · exact .single (h.puts_of_covers hs hl covers rfl nofun nofun nofun)

mutual

theorem segment (h : b.Grounded) : (x : Markup.Segment) → x.Shaped → {ls : List Lexeme} →
    Lexeme.Stand b.source b.offset ls → FitsIn [x.layout] ls → b.Lays ls (b.segment x)
  | .text content s, _, ls, hs, hf | .unparsed content s, _, ls, hs, hf => by
      obtain ⟨la, hl, covers, -⟩ := hf.part
      exact h.textNode hs hl covers content
  | .leave s, _, ls, hs, hf | .stop s, _, ls, hs, hf => by
      obtain ⟨la, hl, covers, -⟩ := hf.part
      exact .single (h.puts_of_covers hs hl covers rfl nofun nofun nofun)
  | .reference e quiet s, shaped, ls, hs, hf => by
      cases shaped with
      | reference _ he =>
          obtain ⟨la, hl, covers, fits⟩ := hf.part
          have inner := h.expr e he (hs.restrict hl) (fits.mem (by simp))
          exact .single (h.puts_of_covers hs hl covers rfl (List.forall_mem_singleton.2 inner)
            nofun (by rintro _ ⟨⟩; rfl))
  | .formal e quiet s, shaped, ls, hs, hf => by
      cases shaped with
      | formal named he =>
          obtain ⟨la, hl, covers, fits⟩ := hf.part
          have inner := h.inBraces e named he (hs.restrict hl) (fits.mem (by simp))
          exact .single (h.puts_of_covers hs hl covers rfl (List.forall_mem_singleton.2 inner)
            nofun (by rintro _ ⟨⟩; rfl))
  | .conditional first rest otherwise close s, shaped, ls, hs, hf => by
      cases shaped with
      | conditional hf' hr ho =>
          obtain ⟨la, hl, covers, fits⟩ := hf.part
          have stand := hs.restrict hl
          have branches := fits.fitsIn.front
          have guarded : ∀ branch ∈ b.arm first :: b.arms rest,
              b.Puts la (.expr branch.condition) ∧ b.Lays la branch.body :=
            List.forall_mem_cons.2 ⟨h.arm first hf' stand branches.front.front,
              h.arms rest hr stand branches.front.back⟩
          have other := h.fallback otherwise ho stand branches.back
          exact .single (h.puts_of_covers hs hl covers rfl
            (List.forall_mem_map.2 fun branch hb => (guarded branch hb).1)
            (List.forall_mem_append.2
              ⟨List.forall_mem_map.2 fun branch hb => (guarded branch hb).2, other⟩) nofun)
  | .assign name path value s, shaped, ls, hs, hf => by
      cases shaped with
      | assign hv =>
          obtain ⟨la, hl, covers, fits⟩ := hf.part
          have inner := h.expr value hv (hs.restrict hl) (fits.mem (by simp))
          exact .single (h.puts_of_covers hs hl covers rfl (List.forall_mem_singleton.2 inner)
            nofun nofun)
  | .loop header item iterable body otherwise close s, shaped, ls, hs, hf => by
      cases shaped with
      | loop hi hb _ ho =>
          obtain ⟨la, hl, covers, fits⟩ := hf.part
          have stand := hs.restrict hl
          have inner := fits.fitsIn.front
          obtain ⟨lh, hh, -, inside⟩ := (inner.front.front (a := [_])).part
          have iterated := h.expr iterable hi (stand.restrict hh) (inside.mem (by simp))
          have repeated := h.segments body hb stand (inner.front.back (a := [_]))
          have other := h.fallback otherwise ho stand inner.back
          exact .single (h.puts_of_covers hs hl covers rfl
            (List.forall_mem_singleton.2 (iterated.mono hh.subset))
            (List.forall_mem_cons.2 ⟨repeated, other⟩) nofun)
  | .define header name parameters body close s, shaped, ls, hs, hf => by
      cases shaped with
      | define hb _ =>
          obtain ⟨la, hl, covers, fits⟩ := hf.part
          have inner := h.segments body hb (hs.restrict hl) (fits.fitsIn.front.back (a := [_]))
          exact .single (h.puts_of_covers hs hl covers rfl nofun
            (List.forall_mem_singleton.2 inner) nofun)
  | .macroCall name arguments s, shaped, ls, hs, hf => by
      cases shaped with
      | macroCall ha =>
          have inner : ∃ la, la <:+: ls ∧ s.Covers la ∧
              ∀ e ∈ b.exprs (arguments.getD []), b.Puts la (.expr e) := by
            cases arguments with
            | none =>
                obtain ⟨la, hl, covers, -⟩ := hf.part
                exact ⟨la, hl, covers, nofun⟩
            | some arguments =>
                obtain ⟨la, hl, covers, fits⟩ := hf.part
                refine ⟨la, hl, covers, h.exprs arguments (ha arguments rfl) (hs.restrict hl) ?_⟩
                exact fun e he => fits.mem (List.mem_append_left _
                  (List.mem_cons_of_mem _ (List.mem_cons_of_mem _ (mem_row_items he))))
          obtain ⟨la, hl, covers, inner⟩ := inner
          exact .single (h.puts_of_covers hs hl covers rfl inner nofun (by rintro _ ⟨⟩; rfl))
  | .evaluate argument s, shaped, ls, hs, hf => by
      cases shaped with
      | evaluate ha =>
          obtain ⟨la, hl, covers, fits⟩ := hf.part
          have inner := h.expr argument ha (hs.restrict hl) (fits.mem (by simp))
          exact .single (h.puts_of_covers hs hl covers rfl (List.forall_mem_singleton.2 inner)
            nofun nofun)
  | .parse argument s, shaped, ls, hs, hf => by
      cases shaped with
      | parse ha =>
          obtain ⟨la, hl, covers, fits⟩ := hf.part
          have inner := h.expr argument ha (hs.restrict hl) (fits.mem (by simp))
          exact .single (h.puts_of_covers hs hl covers rfl (List.forall_mem_singleton.2 inner)
            nofun nofun)
  | .embed arguments s, shaped, ls, hs, hf => by
      cases shaped with
      | embed _ ha =>
          obtain ⟨la, hl, covers, fits⟩ := hf.part
          have inner := h.exprs arguments ha (hs.restrict hl) fun e he => fits.mem
            (List.mem_append_left _ (List.mem_cons_of_mem _ (List.mem_cons_of_mem _
              (mem_row_items he))))
          exact .single (h.puts_of_covers hs hl covers rfl inner nofun nofun)

theorem arm (h : b.Grounded) : (a : Markup.Arm) → a.Shaped → {ls : List Lexeme} →
    Lexeme.Stand b.source b.offset ls → {word : Keyword} → FitsIn (a.layout word) ls →
      b.Puts ls (.expr (b.arm a).condition) ∧ b.Lays ls (b.arm a).body
  | .mk header condition body, shaped, ls, hs, word, hf => by
      cases shaped with
      | mk hc hb =>
          obtain ⟨la, hl, -, fits⟩ := (hf.of_mem (List.mem_cons_self ..)).part
          have inner := h.expr condition hc (hs.restrict hl) (fits.mem (by simp))
          exact ⟨inner.mono hl.subset,
            h.segments body hb hs (hf.back (a := [_]))⟩

theorem arms (h : b.Grounded) : (arms : List Markup.Arm) → (∀ a ∈ arms, a.Shaped) →
    {ls : List Lexeme} → Lexeme.Stand b.source b.offset ls → FitsIn (layoutArms arms) ls →
      ∀ branch ∈ b.arms arms, b.Puts ls (.expr branch.condition) ∧ b.Lays ls branch.body
  | [], _, _, _, _ => nofun
  | a :: arms, shaped, ls, hs, hf => by
      obtain ⟨ha, shaped⟩ := List.forall_mem_cons.1 shaped
      refine List.forall_mem_cons.2 ⟨h.arm a ha hs hf.front, ?_⟩
      exact h.arms arms shaped hs hf.back

theorem fallback (h : b.Grounded) : (f : Option Markup.Fallback) → (∀ g ∈ f, g.Shaped) →
    {ls : List Lexeme} → Lexeme.Stand b.source b.offset ls → FitsIn (layoutFallback f) ls →
      ∀ body ∈ (b.fallback f).toList, b.Lays ls body
  | none, _, _, _, _ => nofun
  | some (.mk header body), shaped, ls, hs, hf => by
      cases shaped _ rfl with
      | mk hb =>
          exact List.forall_mem_singleton.2
            (h.segments body hb hs (hf.back (a := [_])))

theorem segments (h : b.Grounded) : (body : List Markup.Segment) → (∀ x ∈ body, x.Shaped) →
    {ls : List Lexeme} → Lexeme.Stand b.source b.offset ls → FitsIn (layoutBody body) ls →
      b.Lays ls (b.segments body)
  | [], _, _, _, _ => .nil
  | x :: xs, shaped, ls, hs, hf => by
      obtain ⟨hx, shaped⟩ := List.forall_mem_cons.1 shaped
      obtain ⟨_, hl, fits⟩ := hf
      obtain ⟨la, lb, rfl, ha, hb⟩ := Fits.split (a := [x.layout]) fits
      have stand := hs.restrict hl
      have first := h.segment x hx (stand.restrict (List.prefix_append ..).isInfix) ha.fitsIn
      have rest := h.segments xs shaped (stand.restrict (List.suffix_append ..).isInfix) hb.fitsIn
      exact (first.append stand rest).mono hl.subset

end

end Grounded

end Builder

/-! ### Trees with less blanks -/

theorem Node.Thinned.place {n n' : Node} (h : n.Thinned n') : n'.place = n.place := by
  cases h <;> rfl

theorem Node.Thinned.echo? {n n' : Node} (h : n.Thinned n') :
    (Part.node n').echo? = (Part.node n).echo? := by
  cases h <;> rfl

theorem ThinnedBranches.conditions {bs bs' : List Branch} (h : ThinnedBranches bs bs') :
    bs'.map Branch.condition = bs.map Branch.condition :=
  match h with
  | .nil => rfl
  | .cons _ hr => congrArg (_ :: ·) hr.conditions

theorem Node.Thinned.exprs {n n' : Node} (h : n.Thinned n') : n'.exprs = n.exprs := by
  cases h with
  | conditional hb => exact hb.conditions
  | _ => rfl

theorem ThinnedBranches.mem_bodies {bs bs' : List Branch} (h : ThinnedBranches bs bs') :
    ∀ body' ∈ bs'.map Branch.body, ∃ body ∈ bs.map Branch.body, ThinnedNodes body body' :=
  match h with
  | .nil => nofun
  | .cons hb hr => by
      refine List.forall_mem_cons.2 ⟨⟨_, List.mem_cons_self .., hb⟩, fun body' hm => ?_⟩
      obtain ⟨body, hm, thinned⟩ := hr.mem_bodies body' hm
      exact ⟨body, List.mem_cons_of_mem _ hm, thinned⟩

theorem ThinnedOtherwise.mem_bodies {o o' : Option (List Node)} (h : ThinnedOtherwise o o') :
    ∀ body' ∈ o'.toList, ∃ body ∈ o.toList, ThinnedNodes body body' := by
  cases h with
  | none => nofun
  | some h => exact List.forall_mem_singleton.2 ⟨_, List.mem_singleton.2 rfl, h⟩

theorem Node.Thinned.mem_bodies {n n' : Node} (h : n.Thinned n') :
    ∀ body' ∈ n'.bodies, ∃ body ∈ n.bodies, ThinnedNodes body body' := by
  cases h with
  | text => nofun
  | conditional hb ho =>
      refine List.forall_mem_append.2 ⟨fun body' hm => ?_, fun body' hm => ?_⟩
      · obtain ⟨body, hm, thinned⟩ := hb.mem_bodies body' hm
        exact ⟨body, List.mem_append_left _ hm, thinned⟩
      · obtain ⟨body, hm, thinned⟩ := ho.mem_bodies body' hm
        exact ⟨body, List.mem_append_right _ hm, thinned⟩
  | loop hb ho =>
      refine List.forall_mem_cons.2 ⟨⟨_, List.mem_cons_self .., hb⟩, fun body' hm => ?_⟩
      obtain ⟨body, hm, thinned⟩ := ho.mem_bodies body' hm
      exact ⟨body, List.mem_cons_of_mem _ hm, thinned⟩
  | define hb => exact List.forall_mem_singleton.2 ⟨_, List.mem_singleton.2 rfl, hb⟩
  | same none => simp [none]

theorem ThinnedNodes.exists_of_mem {ns ns' : List Node} (h : ThinnedNodes ns ns') {n' : Node}
    (hn : n' ∈ ns') : ∃ n ∈ ns, n.Thinned n' :=
  match h with
  | .nil => by cases hn
  | .blank _ hs => by
      obtain ⟨n, hm, thinned⟩ := hs.exists_of_mem hn
      exact ⟨n, List.mem_cons_of_mem _ hm, thinned⟩
  | .cons h hs => by
      rcases List.mem_cons.1 hn with rfl | hn
      · exact ⟨_, List.mem_cons_self .., h⟩
      · obtain ⟨n, hm, thinned⟩ := hs.exists_of_mem hn
        exact ⟨n, List.mem_cons_of_mem _ hm, thinned⟩

theorem ThinnedNodes.places {ns ns' : List Node} (h : ThinnedNodes ns ns') :
    (ns'.map Node.place).Sublist (ns.map Node.place) :=
  match h with
  | .nil => .slnil
  | .blank _ hs => .cons _ hs.places
  | .cons h hs => by
      rw [List.map_cons, List.map_cons, h.place]
      exact hs.places.cons_cons _

theorem ThinnedNodes.ascending {ns ns' : List Node} (h : ThinnedNodes ns ns')
    (ha : Ascending ns) : Ascending ns' := by
  have places : (ns.map Node.place).Pairwise fun p q => p.span.stop ≤ q.span.start :=
    List.pairwise_map.2 ha
  exact List.pairwise_map.1 (places.sublist h.places)

/-- Losing blanks moves nothing. -/
theorem Node.Thinned.placed {source : List Char} {n n' : Node} (h : n.Thinned n')
    (hp : (Part.node n).Everywhere (Part.Placed source)) :
    (Part.node n').Everywhere (Part.Placed source) := by
  generalize hn : Part.node n = p at hp
  induction hp generalizing n n' with
  | mk here below ih =>
      subst hn
      obtain ⟨holds, contains, ascending, echo⟩ := here
      obtain ⟨exprs, nodes⟩ := Part.forall_parts.1 contains
      obtain ⟨belowExprs, -⟩ := Part.forall_parts.1 below
      have place : (Part.node n').place = (Part.node n).place := h.place
      have same : (Part.node n').exprs = (Part.node n).exprs := h.exprs
      refine .mk ⟨?_, Part.forall_parts.2 ⟨?_, ?_⟩, ?_, ?_⟩ (Part.forall_parts.2 ⟨?_, ?_⟩)
      · rwa [place]
      · rwa [place, same]
      · intro body' hb m' hm
        obtain ⟨body, hb, thinned⟩ := h.mem_bodies body' hb
        obtain ⟨m, hm, less⟩ := thinned.exists_of_mem hm
        have moved : (Part.node m').place = (Part.node m).place := less.place
        rw [place, moved]
        exact nodes body hb m hm
      · intro body' hb
        obtain ⟨body, hb, thinned⟩ := h.mem_bodies body' hb
        exact thinned.ascending (ascending body hb)
      · rwa [place, h.echo?]
      · rwa [same]
      · intro body' hb m' hm
        obtain ⟨body, hb, thinned⟩ := h.mem_bodies body' hb
        obtain ⟨m, hm, less⟩ := thinned.exists_of_mem hm
        refine ih (.node m) ?_ less rfl
        exact List.mem_append_right _ (List.mem_map_of_mem (List.mem_flatten.2 ⟨body, hb, hm⟩))

/-! ### Templates in strings -/

theorem unquoteText_place (n : Node) : (unquoteText n).place = n.place := by
  cases n <;> rfl

theorem unquoteText_placed {source : List Char} {n : Node}
    (h : (Part.node n).Everywhere (Part.Placed source)) :
    (Part.node (unquoteText n)).Everywhere (Part.Placed source) := by
  cases n with
  | text content place =>
      obtain ⟨⟨holds, -, -, -⟩, -⟩ := h
      exact .mk ⟨holds, nofun, nofun, nofun⟩ nofun
  | _ => exact h

/-- The tokens of a text that begins behind `front`. -/
theorem stand_of_tokenize (front back : List Char) {body : List Char} {lexemes : List Lexeme}
    (h : tokenize (String.ofList body) = .ok lexemes) :
    Lexeme.Stand (front ++ (body ++ back)) (Text.byteLength front) lexemes ∧
      ∀ l ∈ lexemes, l.2.stop ≤ Text.byteLength body := by
  obtain ⟨pieces, laid, chars, rfl⟩ := Lexer.run_laid .text h
  rw [String.toList_ofList] at chars
  subst chars
  exact ⟨.ofPieces (fun t cs ht => laid.spelled ht) front back, fun l hl => Lexer.stop_of_mem hl⟩

theorem stringTemplate_placed {source : List Char} {levels limit : Nat}
    {front body back : List Char} {nodes : List Node} (hs : source = front ++ (body ++ back))
    (h : stringTemplate source (.ofChars source) levels limit body (Text.byteLength front) =
      some nodes) :
    Ascending nodes ∧ ∀ n ∈ nodes, (Part.node n).Everywhere (Part.Placed source) ∧
      (Span.mk (Text.byteLength front) (Text.byteLength (front ++ body))).Contains
        n.place.span := by
  induction levels generalizing limit front body back nodes with
  | zero => cases h
  | succ levels ih =>
      simp only [stringTemplate] at h
      split at h
      · cases h
      next lexemes tokens =>
        split at h
        · cases h
        next segments parsed =>
          split at h
          · cases h
          · cases h
            let b : Builder := ⟨source, .ofChars source, Text.byteLength front,
              stringTemplate source (.ofChars source) levels (limit / 2)⟩
            have grounded : b.Grounded := ⟨rfl, fun hs h => ih hs h⟩
            obtain ⟨stand, inside⟩ := stand_of_tokenize front back tokens
            rw [← hs] at stand
            obtain ⟨next, missed, parsed⟩ := Markup.parseSegments_eq_ok parsed
            obtain ⟨fits, shaped⟩ := Markup.Grammar.template_takes parsed
            obtain ⟨each, ascending⟩ := grounded.segments segments shaped.segments stand fits.fitsIn
            refine ⟨List.pairwise_map.2 ?_, List.forall_mem_map.2 fun n hn => ?_⟩
            · simp only [unquoteText_place]
              exact ascending
            · obtain ⟨placed, s, ⟨_, _, l, last, stops⟩, place⟩ := each n hn
              refine ⟨unquoteText_placed placed, ?_⟩
              rw [unquoteText_place, show n.place = b.region s from place, Text.byteLength_append]
              have stop : s.stop ≤ Text.byteLength body := stops ▸ inside l last
              refine ⟨Nat.le_add_left _ _, ?_⟩
              change s.stop + Text.byteLength front ≤ Text.byteLength front + Text.byteLength body
              omega

theorem builder_grounded (source : String) (limit : Nat) : (builder source limit).Grounded :=
  ⟨rfl, fun hs h => stringTemplate_placed hs h⟩

end Template.Tree

namespace Template.Document

open Template.Tree

/-- The places of a document form a tree over its source: each belongs to a part of the source,
contains the places of its parts and, where it has bodies, those of their nodes one behind the
other. What a node repeats of the source is what stands at its place. -/
theorem compile_places {options : Options} {source : String} {d : Document}
    (h : compile options source = .ok d) :
    Ascending d.nodes ∧
      (∀ n ∈ d.nodes, (Part.node n).Everywhere (Part.Placed source.toList)) ∧
      ∀ e ∈ d.expression, (Part.expr e).Everywhere (Part.Placed source.toList) := by
  have grounded := builder_grounded source options.maxNesting
  unfold compile segments at h
  split at h
  · cases h
  next lexemes tokens =>
    split at h
    · cases h
    next body parsed =>
      cases h
      have stand : Lexeme.Stand source.toList 0 lexemes := by
        have tokens' : tokenize (String.ofList source.toList) = .ok lexemes := by
          rwa [String.ofList_toList]
        have found := (stand_of_tokenize [] [] tokens').1
        rwa [List.append_nil] at found
      obtain ⟨next, missed, parsed⟩ := Markup.parseSegments_eq_ok parsed
      obtain ⟨fits, shaped⟩ := Markup.Grammar.template_takes parsed
      obtain ⟨each, ascending⟩ := grounded.segments body shaped.segments stand fits.fitsIn
      have thinned := (builder source options.maxNesting).thinned_gobble options.gobbling body
      refine ⟨thinned.ascending ascending, fun n' hn => ?_, fun e he => ?_⟩
      · obtain ⟨n, hm, less⟩ := thinned.exists_of_mem hn
        exact less.placed (each n hm).placed
      · obtain ⟨m, whole, rfl⟩ := Option.map_eq_some_iff.1 he
        obtain ⟨lexemes, tokens, -, fits, shaped⟩ := Markup.fits_of_wholeExpression? whole
        obtain ⟨pieces, spelled, chars, rfl⟩ := Lexer.run_expression_cut tokens
        have stand := Lexeme.Stand.ofPieces spelled [] []
        rw [chars, List.append_nil] at stand
        exact (grounded.expr m shaped stand fits.fitsIn).placed

/-- A string behind a line break, with a line break in it. -/
theorem compile_places_string :
    ∃ d, compile Options.standard "é\n#m(\"a\n$b.c\")" = .ok d ∧
      d.nodes.map Node.place =
        [⟨⟨0, 3⟩, ⟨0, 0⟩, ⟨1, 0⟩⟩, ⟨⟨3, 15⟩, ⟨1, 0⟩, ⟨2, 6⟩⟩] ∧
      (((d.nodes.map Part.node).flatMap Part.parts).flatMap Part.parts).map Part.place =
        [⟨⟨7, 9⟩, ⟨1, 4⟩, ⟨2, 0⟩⟩, ⟨⟨9, 13⟩, ⟨2, 0⟩, ⟨2, 4⟩⟩] ∧
      Ascending d.nodes ∧
      ∀ n ∈ d.nodes, (Part.node n).Everywhere (Part.Placed "é\n#m(\"a\n$b.c\")".toList) := by
  let places (d : Document) := (d.nodes.map Node.place,
    (((d.nodes.map Part.node).flatMap Part.parts).flatMap Part.parts).map Part.place)
  have found : ((compile Options.standard "é\n#m(\"a\n$b.c\")").map places).toOption =
      some ([⟨⟨0, 3⟩, ⟨0, 0⟩, ⟨1, 0⟩⟩, ⟨⟨3, 15⟩, ⟨1, 0⟩, ⟨2, 6⟩⟩],
        [⟨⟨7, 9⟩, ⟨1, 4⟩, ⟨2, 0⟩⟩, ⟨⟨9, 13⟩, ⟨2, 0⟩, ⟨2, 4⟩⟩]) := by
    decide +kernel
  obtain ⟨d, h, same⟩ := exists_of_measure places found
  obtain ⟨outer, inner⟩ := Prod.mk.inj same
  obtain ⟨ascending, placed, -⟩ := compile_places h
  exact ⟨d, h, outer, inner, ascending, placed⟩

end Template.Document

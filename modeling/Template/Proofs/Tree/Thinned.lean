import Template.Proofs.Markup.Lines
import Template.Tree.OfMarkup

/-!
Trees that have lost blanks. A text may lose blanks, and it vanishes if nothing is left of it; all
else stays as it is. That is what gobbling does to the trees of a template, and it does nothing to
the templates in strings.
-/

namespace Template

namespace Text

/-- What is left without blanks and line breaks. -/
def bare (cs : List Char) : List Char := cs.filter fun c => !isCodeBlank c

theorem bare_append (a b : List Char) : bare (a ++ b) = bare a ++ bare b := List.filter_append ..

end Text

namespace Tree

def Branch.condition : Branch → Expr
  | .mk condition _ => condition

def Branch.body : Branch → List Node
  | .mk _ body => body

/-- The bodies in a node. -/
def Node.bodies : Node → List (List Node)
  | .conditional branches otherwise _ => branches.map Branch.body ++ otherwise.toList
  | .loop _ _ body otherwise _ => body :: otherwise.toList
  | .define _ _ body _ => [body]
  | _ => []

mutual

/-- The second node is the first with some blanks less. -/
inductive Node.Thinned : Node → Node → Prop where
  | text {content content' : String} {place : Region}
      (h : Text.bare content'.toList = Text.bare content.toList) :
      (Node.text content place).Thinned (.text content' place)
  | conditional {branches branches' : List Branch} {otherwise otherwise' : Option (List Node)}
      {place : Region} (hb : ThinnedBranches branches branches')
      (ho : ThinnedOtherwise otherwise otherwise') :
      (Node.conditional branches otherwise place).Thinned (.conditional branches' otherwise' place)
  | loop {item : String} {iterable : Expr} {body body' : List Node}
      {otherwise otherwise' : Option (List Node)} {place : Region} (hb : ThinnedNodes body body')
      (ho : ThinnedOtherwise otherwise otherwise') :
      (Node.loop item iterable body otherwise place).Thinned
        (.loop item iterable body' otherwise' place)
  | define {name : String} {parameters : List String} {body body' : List Node} {place : Region}
      (hb : ThinnedNodes body body') :
      (Node.define name parameters body place).Thinned (.define name parameters body' place)
  | same {n : Node} (h : n.bodies = []) : n.Thinned n

inductive ThinnedNodes : List Node → List Node → Prop where
  | nil : ThinnedNodes [] []
  | blank {content : String} {place : Region} {ns ns' : List Node}
      (h : Text.bare content.toList = []) (hs : ThinnedNodes ns ns') :
      ThinnedNodes (.text content place :: ns) ns'
  | cons {n n' : Node} {ns ns' : List Node} (h : n.Thinned n') (hs : ThinnedNodes ns ns') :
      ThinnedNodes (n :: ns) (n' :: ns')

inductive ThinnedBranches : List Branch → List Branch → Prop where
  | nil : ThinnedBranches [] []
  | cons {condition : Expr} {body body' : List Node} {rest rest' : List Branch}
      (h : ThinnedNodes body body') (hr : ThinnedBranches rest rest') :
      ThinnedBranches (.mk condition body :: rest) (.mk condition body' :: rest')

inductive ThinnedOtherwise : Option (List Node) → Option (List Node) → Prop where
  | none : ThinnedOtherwise none none
  | some {body body' : List Node} (h : ThinnedNodes body body') :
      ThinnedOtherwise (some body) (some body')

end

theorem ThinnedNodes.append {ms ms' ns ns' : List Node} (hm : ThinnedNodes ms ms')
    (hn : ThinnedNodes ns ns') : ThinnedNodes (ms ++ ns) (ms' ++ ns') :=
  match hm with
  | .nil => hn
  | .blank h hs => .blank h (hs.append hn)
  | .cons h hs => .cons h (hs.append hn)

theorem ThinnedNodes.same {n : Node} (h : n.bodies = []) : ThinnedNodes [n] [n] :=
  .cons (.same h) .nil

end Tree

namespace Markup

/-- The characters among the items. -/
def Item.chars (items : List Item) : List Char :=
  items.filterMap fun
    | .char c => some c
    | _ => none

/-- The verdicts keep all but blanks. -/
def Spares : List Char → List Bool → Prop
  | c :: cs, keep :: kept => (keep ∨ Text.isCodeBlank c) ∧ Spares cs kept
  | _, _ => True

theorem Spares.of_blank {cs : List Char} (h : ∀ c ∈ cs, Text.isCodeBlank c) (kept : List Bool) :
    Spares cs kept := by
  induction cs generalizing kept with
  | nil => trivial
  | cons c cs ih =>
      obtain ⟨hc, h⟩ := List.forall_mem_cons.1 h
      cases kept with
      | nil => trivial
      | cons keep kept => exact ⟨.inr hc, ih h kept⟩

theorem Spares.of_kept (cs : List Char) {kept : List Bool} (h : ∀ keep ∈ kept, keep = true) :
    Spares cs kept := by
  induction kept generalizing cs with
  | nil => cases cs <;> trivial
  | cons keep kept ih =>
      obtain ⟨hk, h⟩ := List.forall_mem_cons.1 h
      cases cs with
      | nil => trivial
      | cons c cs => exact ⟨.inl hk, ih cs h⟩

/-- The verdicts about a text that are left over are about the text behind it. -/
theorem Spares.split {a b : List Char} {kept : List Bool} (h : Spares (a ++ b) kept) :
    Spares a kept ∧ Spares b (kept.drop a.length) := by
  induction a generalizing kept with
  | nil => exact ⟨trivial, h⟩
  | cons c a ih =>
      cases kept with
      | nil => cases b <;> exact ⟨trivial, trivial⟩
      | cons keep kept =>
          obtain ⟨hc, h⟩ := h
          obtain ⟨ha, hb⟩ := ih h
          exact ⟨⟨hc, ha⟩, hb⟩

theorem Spares.append {a b : List Char} {kept later : List Bool} (hl : kept.length = a.length)
    (ha : Spares a kept) (hb : Spares b later) : Spares (a ++ b) (kept ++ later) := by
  induction a generalizing kept with
  | nil =>
      obtain rfl := List.length_eq_zero_iff.1 hl
      exact hb
  | cons c a ih =>
      cases kept with
      | nil => cases hl
      | cons keep kept => exact ⟨ha.1, ih (Nat.succ.inj hl) ha.2⟩

theorem bare_keepChars {cs : List Char} {kept : List Bool} (h : Spares cs kept) :
    Text.bare (keepChars cs kept).1 = Text.bare cs := by
  induction cs generalizing kept with
  | nil => rfl
  | cons c cs ih =>
      cases kept with
      | nil => rfl
      | cons keep kept =>
          obtain ⟨hc, h⟩ := h
          have more := ih h
          cases keep with
          | true =>
              simp only [Text.bare] at more
              simp [keepChars, Text.bare, List.filter_cons, more]
          | false =>
              have blank : Text.isCodeBlank c = true := by simpa using hc
              simp only [Text.bare] at more
              simp [keepChars, Text.bare, blank, more]

/-! ### The verdicts about lines -/

theorem chars_append (a b : List Item) : Item.chars (a ++ b) = Item.chars a ++ Item.chars b :=
  List.filterMap_append

theorem chars_blockMark (items : List Item) : Item.chars (.blockMark :: items) = Item.chars items :=
  rfl

theorem charCount_eq (o : Outline) : o.charCount = (Item.chars o.items).length := by
  induction o using Outline.char_induction with
  | nil => rfl
  | char c o ih => simp [Item.chars, ih]
  | other x o hx ih =>
      rw [Outline.charCount_of_not_char hx, ih]
      rcases x with _ | c | _ | _ | _
      · rfl
      · cases hx
      all_goals rfl

theorem spares_keptInLine (mode : Gobbling) (line : List Item) :
    Spares (Item.chars line) (keptInLine mode line) := by
  by_cases h : isGobbled mode line
  · refine .of_blank (fun c hc => ?_) _
    obtain ⟨item, hi, char⟩ := List.mem_filterMap.1 hc
    have spacing : item.isSpacing := by
      simp only [isGobbled, Bool.and_eq_true, List.all_eq_true] at h
      exact h.1.1 item hi
    cases item with
    | char d =>
        cases char
        exact spacing
    | _ => cases char
  · refine .of_kept _ fun keep hk => ?_
    unfold keptInLine at hk
    rw [if_neg h] at hk
    obtain ⟨item, -, verdict⟩ := List.mem_filterMap.1 hk
    cases item with
    | char c => exact (Option.some.inj verdict).symm
    | _ => cases verdict

theorem length_keptInLine_items (mode : Gobbling) (line : List Item) :
    (keptInLine mode line).length = (Item.chars line).length := by
  have items : Outline.items (line.map some) = line := by
    induction line with
    | nil => rfl
    | cons item line ih => simp [ih]
  have length := Outline.length_keptInLine mode (line.map some)
  rwa [charCount_eq, items] at length

/-- Gobbling deletes nothing but blanks. -/
theorem spares_keptChars (mode : Gobbling) (items : List Item) :
    Spares (Item.chars items) (keptChars mode items) := by
  have lines (ls : List (List Item)) :
      Spares (Item.chars ls.flatten) (ls.flatMap (keptInLine mode)) := by
    induction ls with
    | nil => trivial
    | cons line ls ih =>
        rw [List.flatten_cons, chars_append, List.flatMap_cons]
        exact .append (length_keptInLine_items mode line) (spares_keptInLine mode line) ih
  have whole := lines (cutAfter Item.isNewline items)
  rwa [flatten_cutAfter] at whole

/-! ### What becomes of the nodes -/

/-- Verdicts are left over behind those about the characters of a part. -/
theorem Kept.left_eq {before after : Outline} {kept left : List Bool} {items : List Item}
    (h : Kept before after kept left) (hi : before.items = items) :
    left = kept.drop (Item.chars items).length := by
  rw [h.left, charCount_eq, hi]

end Markup

namespace Tree.Builder

open Markup

theorem thinned_textNode (b : Builder) (span : Span) {content : List Char} {kept : List Bool}
    (h : Spares content kept) :
    ThinnedNodes (b.textNode (String.ofList content) span)
      (b.textNode (String.ofList (keepChars content kept).1) span) := by
  have bare := bare_keepChars h
  cases content with
  | nil => exact .nil
  | cons c content =>
      rw [textNode, if_neg (by simp), textNode]
      cases found : (keepChars (c :: content) kept).1 with
      | nil =>
          rw [found] at bare
          exact .blank (by simpa [Text.bare] using bare.symm) .nil
      | cons d ds =>
          rw [found] at bare
          rw [if_neg (by simp)]
          exact .cons (.text (by simpa using bare)) .nil

mutual

theorem thinned_segment (b : Builder) : (s : Segment) → (kept : List Bool) →
    Spares (Item.chars s.items) kept → ThinnedNodes (b.segment s) (b.segment (s.keep kept).1)
  | .text content span, kept, h => by
      have chars : Item.chars (Segment.text content span).items = content.toList := by
        simp [Segment.items, Item.chars]
      rw [chars] at h
      have thinned := b.thinned_textNode span h
      rw [String.ofList_toList] at thinned
      exact thinned
  | .unparsed content span, kept, _ => by
      simp only [Segment.keep, segment, textNode]
      split
      · exact .nil
      · exact .same rfl
  | .reference .., _, _ | .formal .., _, _ | .assign .., _, _ | .leave .., _, _ | .stop .., _, _
  | .macroCall .., _, _ | .evaluate .., _, _ | .parse .., _, _ | .embed .., _, _ => .same rfl
  | .conditional (.mk _ _ body) rest otherwise _ _, kept, h => by
      simp only [Segment.items, Arm.items, chars_append, chars_blockMark, List.append_assoc] at h
      obtain ⟨hb, h⟩ := h.split
      rw [← (keepSegments_kept body kept).left_eq (items_outline body)] at h
      obtain ⟨hr, h⟩ := h.split
      rw [← (keepArms_kept rest _).left_eq (items_outlineArms rest)] at h
      obtain ⟨ho, -⟩ := h.split
      exact .cons (.conditional (.cons (thinned_segments b body kept hb) (thinned_arms b rest _ hr))
        (thinned_fallback b otherwise _ ho)) .nil
  | .loop _ _ _ body otherwise _ _, kept, h => by
      simp only [Segment.items, List.cons_append, chars_append, chars_blockMark,
        List.append_assoc] at h
      obtain ⟨hb, h⟩ := h.split
      rw [← (keepSegments_kept body kept).left_eq (items_outline body)] at h
      obtain ⟨ho, -⟩ := h.split
      exact .cons (.loop (thinned_segments b body kept hb) (thinned_fallback b otherwise _ ho)) .nil
  | .define _ _ _ body _ _, kept, h => by
      simp only [Segment.items, List.cons_append, chars_append, chars_blockMark] at h
      obtain ⟨hb, -⟩ := h.split
      exact .cons (.define (thinned_segments b body kept hb)) .nil

theorem thinned_arms (b : Builder) : (arms : List Arm) → (kept : List Bool) →
    Spares (Item.chars (armItems arms)) kept →
      ThinnedBranches (b.arms arms) (b.arms (keepArms arms kept).1)
  | [], _, _ => .nil
  | .mk _ _ body :: arms, kept, h => by
      rw [armItems, Arm.items, chars_append, chars_blockMark] at h
      obtain ⟨hb, h⟩ := h.split
      rw [← (keepSegments_kept body kept).left_eq (items_outline body)] at h
      exact .cons (thinned_segments b body kept hb) (thinned_arms b arms _ h)

theorem thinned_fallback (b : Builder) : (f : Option Fallback) → (kept : List Bool) →
    Spares (Item.chars (fallbackItems f)) kept →
      ThinnedOtherwise (b.fallback f) (b.fallback (keepFallback f kept).1)
  | none, _, _ => .none
  | some (.mk _ body), kept, h => .some (thinned_segments b body kept h)

theorem thinned_segments (b : Builder) : (body : List Segment) → (kept : List Bool) →
    Spares (Item.chars (segmentItems body)) kept →
      ThinnedNodes (b.segments body) (b.segments (keepSegments body kept).1)
  | [], _, _ => .nil
  | s :: ss, kept, h => by
      rw [segmentItems, chars_append] at h
      obtain ⟨hs, hss⟩ := h.split
      rw [← (s.keep_kept kept).left_eq s.items_outline] at hss
      exact (thinned_segment b s kept hs).append (thinned_segments b ss _ hss)

end

/-- A template that is gobbled has the tree of the template, with some blanks less. -/
theorem thinned_gobble (b : Builder) (mode : Gobbling) (body : List Segment) :
    ThinnedNodes (b.segments body) (b.segments (gobble mode body)) := by
  have gobbled : gobble mode body = (keepSegments body (keptChars mode (segmentItems body))).1 := by
    refine gobble_of_outline (skeleton_keepSegments body _) ?_
    rw [(keepSegments_kept body _).outline, ← items_outline, Outline.select_keptChars]
  rw [gobbled]
  exact b.thinned_segments body _ (spares_keptChars mode _)

end Tree.Builder

end Template

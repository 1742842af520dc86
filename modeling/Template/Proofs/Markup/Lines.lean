import Mathlib.Data.List.DropRight
import Template.Proofs.Markup.Cuts

/-!
Gobbling line by line. The outline of markup is the list of its characters and marks in document
order; cut into lines, each line tells by itself what is deleted from it. Outline and skeleton, the
markup without its text, determine the markup, so nothing but that is changed.
-/

namespace Template.Markup

/-- The items of a document in order. Where a text begins there is `none`, so that texts that stand
side by side can be told apart. -/
abbrev Outline := List (Option Item)

mutual

def Segment.outline : Segment → Outline
  | .text content _ => none :: content.toList.map fun c => some (.char c)
  | .unparsed .. | .reference .. | .formal .. => [some .content]
  | .conditional first rest otherwise _ _ =>
    Arm.outline first ++ (outlineArms rest ++ (outlineFallback otherwise ++ [some .blockMark]))
  | .loop _ _ _ body otherwise _ _ =>
    some .blockMark :: (outline body ++ (outlineFallback otherwise ++ [some .blockMark]))
  | .define _ _ _ body _ _ => some .blockMark :: (outline body ++ [some .blockMark])
  | .assign .. | .leave .. | .stop .. | .macroCall .. | .evaluate .. | .parse .. | .embed .. =>
    [some .lineMark]

def Arm.outline : Arm → Outline
  | .mk _ _ body => some .blockMark :: outline body

def outlineArms : List Arm → Outline
  | [] => []
  | arm :: arms => Arm.outline arm ++ outlineArms arms

def outlineFallback : Option Fallback → Outline
  | none => []
  | some (.mk _ body) => some .blockMark :: outline body

def outline : List Segment → Outline
  | [] => []
  | segment :: segments => Segment.outline segment ++ outline segments

end

mutual

/-- A segment with empty texts. -/
def Segment.skeleton : Segment → Segment
  | .text _ span => .text "" span
  | .conditional first rest otherwise close span =>
    .conditional (Arm.skeleton first) (skeletonArms rest) (skeletonFallback otherwise) close span
  | .loop header item iterable body otherwise close span =>
    .loop header item iterable (skeleton body) (skeletonFallback otherwise) close span
  | .define header name parameters body close span =>
    .define header name parameters (skeleton body) close span
  | other => other

def Arm.skeleton : Arm → Arm
  | .mk header condition body => .mk header condition (skeleton body)

def skeletonArms : List Arm → List Arm
  | [] => []
  | arm :: arms => Arm.skeleton arm :: skeletonArms arms

def skeletonFallback : Option Fallback → Option Fallback
  | none => none
  | some (.mk header body) => some (.mk header (skeleton body))

def skeleton : List Segment → List Segment
  | [] => []
  | segment :: segments => Segment.skeleton segment :: skeleton segments

end

namespace Outline

def items (o : Outline) : List Item := o.filterMap id

def marks (o : Outline) : List Item := o.items.filter Item.isMark

def isChar : Option Item → Bool
  | some (.char _) => true
  | _ => false

def isMark (x : Option Item) : Bool := x.any Item.isMark

def endsLine (x : Option Item) : Bool := x.any Item.isNewline

def lines (o : Outline) : List Outline := cutAfter endsLine o

/-- The line has marks and besides them only blanks: a single mark or, if lines are taken as
structure, any number of block marks. -/
def Gobbled (mode : Gobbling) (line : Outline) : Prop :=
  mode ≠ .none ∧ line.marks ≠ [] ∧ (∀ item ∈ line.items, item.isSpacing) ∧
    (line.marks.length = 1 ∨ mode = .structured ∧ ∀ mark ∈ line.marks, mark = .blockMark)

instance (mode : Gobbling) (line : Outline) : Decidable (line.Gobbled mode) :=
  inferInstanceAs (Decidable (_ ∧ _))

/-- What is left of a line: its characters go, though only those behind the last mark if indentation
is kept. -/
def trimmed (mode : Gobbling) (line : Outline) : Outline :=
  if line.Gobbled mode then
    if mode = .bc then
      line.rdropWhile (fun x => !isMark x) ++
        (line.rtakeWhile fun x => !isMark x).filter fun x => !isChar x
    else line.filter fun x => !isChar x
  else line

end Outline

namespace Outline

@[simp] theorem items_nil : items [] = [] := rfl

@[simp] theorem items_none (o : Outline) : items (none :: o) = items o := rfl

@[simp] theorem items_some (item : Item) (o : Outline) : items (some item :: o) = item :: items o :=
  rfl

@[simp] theorem items_append (a b : Outline) : items (a ++ b) = items a ++ items b :=
  List.filterMap_append

@[simp] theorem items_chars (cs : List Char) :
    items (cs.map fun c => some (.char c)) = cs.map .char := by
  induction cs with
  | nil => rfl
  | cons c cs ih => simp [ih]

end Outline

open Outline

mutual

theorem Segment.items_outline : (s : Segment) → Outline.items s.outline = s.items
  | .text content _ => by simp [Segment.outline, Segment.items]
  | .unparsed .. | .reference .. | .formal .. => rfl
  | .conditional first rest otherwise _ _ => by
      simp [Segment.outline, Segment.items, Arm.items_outline first, items_outlineArms rest,
        items_outlineFallback otherwise]
  | .loop _ _ _ body otherwise _ _ => by
      simp [Segment.outline, Segment.items, items_outline body, items_outlineFallback otherwise]
  | .define _ _ _ body _ _ => by simp [Segment.outline, Segment.items, items_outline body]
  | .assign .. | .leave .. | .stop .. | .macroCall .. | .evaluate .. | .parse .. | .embed .. => rfl

theorem Arm.items_outline : (a : Arm) → Outline.items a.outline = a.items
  | .mk _ _ body => by simp [Arm.outline, Arm.items, items_outline body]

theorem items_outlineArms : (arms : List Arm) → Outline.items (outlineArms arms) = armItems arms
  | [] => rfl
  | arm :: arms => by
      simp [outlineArms, armItems, Arm.items_outline arm, items_outlineArms arms]

theorem items_outlineFallback :
    (f : Option Fallback) → Outline.items (outlineFallback f) = fallbackItems f
  | none => rfl
  | some (.mk _ body) => by simp [outlineFallback, fallbackItems, items_outline body]

theorem items_outline :
    (segments : List Segment) → Outline.items (outline segments) = segmentItems segments
  | [] => rfl
  | segment :: segments => by
      simp [outline, segmentItems, Segment.items_outline segment, items_outline segments]

end

namespace Outline

/-- Takes out the characters that are not kept; where the verdicts end, all are kept. -/
@[simp]
def select : Outline → List Bool → Outline
  | [], _ => []
  | some (.char c) :: o, keep :: kept =>
    if keep then some (.char c) :: select o kept else select o kept
  | x :: o, kept => x :: select o kept

def charCount (o : Outline) : Nat := o.countP isChar

theorem select_of_not_char {x : Option Item} (hx : isChar x = false) (o : Outline)
    (kept : List Bool) : select (x :: o) kept = x :: select o kept := by
  cases x with
  | none => simp
  | some item =>
      cases item with
      | char c => cases hx
      | blockMark | lineMark | content => simp

@[simp] theorem charCount_char (c : Char) (o : Outline) :
    charCount (some (.char c) :: o) = charCount o + 1 := List.countP_cons_of_pos rfl

theorem charCount_of_not_char {x : Option Item} (hx : isChar x = false) (o : Outline) :
    charCount (x :: o) = charCount o := by simp [charCount, hx]

theorem charCount_append (a b : Outline) : charCount (a ++ b) = charCount a + charCount b :=
  List.countP_append

/-- Characters, which verdicts are about, and everything else. -/
theorem char_induction {P : Outline → Prop} (nil : P [])
    (char : ∀ c o, P o → P (some (.char c) :: o))
    (other : ∀ x o, isChar x = false → P o → P (x :: o)) (o : Outline) : P o := by
  induction o with
  | nil => exact nil
  | cons x o ih =>
      rcases x with _ | c | _ | _ | _
      · exact other _ o rfl ih
      · exact char c o ih
      all_goals exact other _ o rfl ih

theorem select_nil (o : Outline) : select o [] = o := by
  induction o with
  | nil => rfl
  | cons x o ih => simp [ih]

theorem select_append (a b : Outline) (kept : List Bool) :
    select (a ++ b) kept = select a kept ++ select b (kept.drop (charCount a)) := by
  induction a using char_induction generalizing kept with
  | nil => rfl
  | char c a ih =>
      cases kept with
      | nil => simp [select_nil]
      | cons keep kept => cases keep <;> simp [ih]
  | other x a hx ih => simp [select_of_not_char hx, charCount_of_not_char hx, ih]

/-- Two parts, each with its own verdicts. -/
theorem select_append_of_length (a b : Outline) {kept : List Bool} (later : List Bool)
    (h : kept.length = charCount a) :
    select (a ++ b) (kept ++ later) = select a kept ++ select b later := by
  induction a using char_induction generalizing kept with
  | nil =>
      obtain rfl := List.length_eq_zero_iff.1 h
      rfl
  | char c a ih =>
      cases kept with
      | nil => simp at h
      | cons keep kept =>
          have hk : kept.length = charCount a := by simpa using h
          cases keep <;> simp [ih hk]
  | other x a hx ih =>
      rw [charCount_of_not_char hx] at h
      simp [select_of_not_char hx, ih h]

theorem select_all (o : Outline) : select o (List.replicate (charCount o) true) = o := by
  induction o using char_induction with
  | nil => rfl
  | char c o ih => simp [List.replicate_succ, ih]
  | other x o hx ih => rw [select_of_not_char hx, charCount_of_not_char hx, ih]

theorem select_none (o : Outline) :
    select o (List.replicate (charCount o) false) = o.filter fun x => !isChar x := by
  induction o using char_induction with
  | nil => rfl
  | char c o ih => simp [List.replicate_succ, ih, isChar]
  | other x o hx ih =>
      rw [select_of_not_char hx, charCount_of_not_char hx, ih, List.filter_cons, hx]
      rfl

end Outline

theorem keepChars_eq (cs : List Char) (kept : List Bool) :
    (keepChars cs kept).1.map (fun c => some (Item.char c)) =
        select (cs.map fun c => some (.char c)) kept ∧
      (keepChars cs kept).2 = kept.drop cs.length := by
  induction cs generalizing kept with
  | nil => simp [keepChars]
  | cons c cs ih =>
      cases kept with
      | nil => simp [keepChars, select_nil]
      | cons keep kept => cases keep <;> simp [keepChars, ih]

theorem charCount_chars (cs : List Char) :
    charCount (cs.map fun c => some (.char c)) = cs.length := by
  induction cs with
  | nil => rfl
  | cons c cs ih => simp [ih]

/-- A part after its verdicts have been followed: its outline is selected, its skeleton is the same,
and the verdicts about later parts are left. -/
structure Kept (before after : Outline) (kept left : List Bool) : Prop where
  outline : after = select before kept
  left : left = kept.drop (charCount before)

namespace Kept

theorem nil (kept : List Bool) : Kept [] [] kept kept := ⟨rfl, rfl⟩

theorem mark {x : Option Item} (hx : isChar x = false) {before after : Outline}
    {kept left : List Bool} (h : Kept before after kept left) :
    Kept (x :: before) (x :: after) kept left :=
  ⟨by rw [select_of_not_char hx, h.outline], by rw [charCount_of_not_char hx, h.left]⟩

theorem append {a a' b b' : Outline} {kept between left : List Bool} (ha : Kept a a' kept between)
    (hb : Kept b b' between left) : Kept (a ++ b) (a' ++ b') kept left := by
  refine ⟨?_, ?_⟩
  · rw [select_append, ← ha.left, ha.outline, hb.outline]
  · rw [charCount_append, ← List.drop_drop, ← ha.left, hb.left]

end Kept

mutual

theorem Segment.keep_kept : (s : Segment) → (kept : List Bool) →
    Kept s.outline (s.keep kept).1.outline kept (s.keep kept).2
  | .text content _, kept => by
      obtain ⟨h, left⟩ := keepChars_eq content.toList kept
      refine .mark rfl ⟨?_, ?_⟩
      · simpa [Segment.keep] using h
      · simpa [Segment.keep, charCount_chars] using left
  | .unparsed .., kept | .reference .., kept | .formal .., kept => .mark rfl (.nil kept)
  | .conditional first rest otherwise _ _, kept =>
      .append (Arm.keep_kept first kept) (.append (keepArms_kept rest _)
        (.append (keepFallback_kept otherwise _) (.mark rfl (.nil _))))
  | .loop _ _ _ body otherwise _ _, kept =>
      .mark rfl (.append (keepSegments_kept body kept)
        (.append (keepFallback_kept otherwise _) (.mark rfl (.nil _))))
  | .define _ _ _ body _ _, kept =>
      .mark rfl (.append (keepSegments_kept body kept) (.mark rfl (.nil _)))
  | .assign .., kept | .leave .., kept | .stop .., kept | .macroCall .., kept
  | .evaluate .., kept | .parse .., kept | .embed .., kept => .mark rfl (.nil kept)

theorem Arm.keep_kept : (a : Arm) → (kept : List Bool) →
    Kept a.outline (a.keep kept).1.outline kept (a.keep kept).2
  | .mk _ _ body, kept => .mark rfl (keepSegments_kept body kept)

theorem keepArms_kept : (arms : List Arm) → (kept : List Bool) →
    Kept (outlineArms arms) (outlineArms (keepArms arms kept).1) kept (keepArms arms kept).2
  | [], kept => .nil kept
  | arm :: arms, kept => .append (Arm.keep_kept arm kept) (keepArms_kept arms _)

theorem keepFallback_kept : (f : Option Fallback) → (kept : List Bool) →
    Kept (outlineFallback f) (outlineFallback (keepFallback f kept).1) kept (keepFallback f kept).2
  | none, kept => .nil kept
  | some (.mk _ body), kept => .mark rfl (keepSegments_kept body kept)

theorem keepSegments_kept : (segments : List Segment) → (kept : List Bool) →
    Kept (outline segments) (outline (keepSegments segments kept).1) kept
      (keepSegments segments kept).2
  | [], kept => .nil kept
  | segment :: segments, kept =>
      .append (Segment.keep_kept segment kept) (keepSegments_kept segments _)

end

mutual

theorem Segment.skeleton_keep : (s : Segment) → (kept : List Bool) →
    (s.keep kept).1.skeleton = s.skeleton
  | .text .., _ | .unparsed .., _ | .reference .., _ | .formal .., _ | .assign .., _ | .leave .., _
  | .stop .., _ | .macroCall .., _ | .evaluate .., _ | .parse .., _ | .embed .., _ => rfl
  | .conditional first rest otherwise _ _, kept => by
      simp [Segment.keep, Segment.skeleton, Arm.skeleton_keep first, skeletonArms_keepArms rest,
        skeletonFallback_keepFallback otherwise]
  | .loop _ _ _ body otherwise _ _, kept => by
      simp [Segment.keep, Segment.skeleton, skeleton_keepSegments body,
        skeletonFallback_keepFallback otherwise]
  | .define _ _ _ body _ _, kept => by
      simp [Segment.keep, Segment.skeleton, skeleton_keepSegments body]

theorem Arm.skeleton_keep : (a : Arm) → (kept : List Bool) →
    (a.keep kept).1.skeleton = a.skeleton
  | .mk _ _ body, kept => by simp [Arm.keep, Arm.skeleton, skeleton_keepSegments body]

theorem skeletonArms_keepArms : (arms : List Arm) → (kept : List Bool) →
    skeletonArms (keepArms arms kept).1 = skeletonArms arms
  | [], _ => rfl
  | arm :: arms, kept => by
      simp [keepArms, skeletonArms, Arm.skeleton_keep arm, skeletonArms_keepArms arms]

theorem skeletonFallback_keepFallback : (f : Option Fallback) → (kept : List Bool) →
    skeletonFallback (keepFallback f kept).1 = skeletonFallback f
  | none, _ => rfl
  | some (.mk _ body), kept => by
      simp [keepFallback, skeletonFallback, skeleton_keepSegments body]

theorem skeleton_keepSegments : (segments : List Segment) → (kept : List Bool) →
    skeleton (keepSegments segments kept).1 = skeleton segments
  | [], _ => rfl
  | segment :: segments, kept => by
      simp [keepSegments, skeleton, Segment.skeleton_keep segment, skeleton_keepSegments segments]

end

namespace Outline

theorem verdicts_of_line {f : Item → Option Bool} {verdict : Bool}
    (hc : ∀ c, f (.char c) = some verdict) (ho : ∀ x, isChar (some x) = false → f x = none)
    (line : Outline) : line.items.filterMap f = List.replicate (charCount line) verdict := by
  induction line using char_induction with
  | nil => rfl
  | char c line ih => simp [hc, ih, List.replicate_succ]
  | other x line hx ih =>
      rw [charCount_of_not_char hx]
      cases x with
      | none => exact ih
      | some item => simp [ho item hx, ih]

theorem isGobbled_iff (mode : Gobbling) (line : Outline) :
    isGobbled mode line.items = true ↔ line.Gobbled mode := by
  have nonempty : line.marks.length = 1 → line.marks ≠ [] := by
    intro h hn
    simp [hn] at h
  cases mode <;> simp [isGobbled, Gobbled, marks] <;> grind

theorem any_isMark_items (line : Outline) : line.items.any Item.isMark = line.any isMark := by
  induction line with
  | nil => rfl
  | cons x line ih => cases x <;> simp [isMark, ih]

/-- In front of a mark every character is kept. -/
theorem keptBeforeMark_append (front back : Outline) {mark : Option Item}
    (hm : isMark mark = true) :
    keptInLine.keptBeforeMark (items (front ++ mark :: back)) =
      List.replicate (charCount front) true ++ keptInLine.keptBeforeMark back.items := by
  induction front using char_induction with
  | nil => rcases mark with _ | _ | _ | _ | _ <;> first | rfl | cases hm
  | char c front ih =>
      have more : (items (front ++ mark :: back)).any Item.isMark = true := by
        rw [any_isMark_items]
        simp [hm]
      rw [List.cons_append, items_some, keptInLine.keptBeforeMark, more, ih, charCount_char,
        List.replicate_succ, List.cons_append]
  | other x front hx ih =>
      rw [charCount_of_not_char hx, ← ih]
      rcases x with _ | c | _ | _ | _
      · rfl
      · cases hx
      all_goals rfl

theorem keptBeforeMark_of_no_mark (line : Outline) (h : ∀ x ∈ line, isMark x = false) :
    keptInLine.keptBeforeMark line.items = List.replicate (charCount line) false := by
  induction line using char_induction with
  | nil => rfl
  | char c line ih =>
      have hl : ∀ x ∈ line, isMark x = false := fun x hx => h x (List.mem_cons_of_mem _ hx)
      have none : line.items.any Item.isMark = false := by
        rw [any_isMark_items, List.any_eq_false]
        intro x hx
        simp [hl x hx]
      rw [items_some, keptInLine.keptBeforeMark, none, ih hl, charCount_char, List.replicate_succ]
  | other x line hx ih =>
      have hl : ∀ x ∈ line, isMark x = false := fun x hx => h x (List.mem_cons_of_mem _ hx)
      rw [charCount_of_not_char hx, ← ih hl]
      rcases x with _ | c | _ | _ | _
      · rfl
      · cases hx
      all_goals rfl

/-- Only characters behind the last mark are not kept. -/
theorem select_keptBeforeMark (line : Outline) :
    select line (keptInLine.keptBeforeMark line.items) =
      line.rdropWhile (fun x => !isMark x) ++
        (line.rtakeWhile fun x => !isMark x).filter fun x => !isChar x := by
  have unmarked (x : Option Item) (hx : x ∈ line.rtakeWhile fun x => !isMark x) :
      isMark x = false := by
    simpa using List.mem_rtakeWhile_imp hx
  have whole :
      line.rdropWhile (fun x => !isMark x) ++ line.rtakeWhile (fun x => !isMark x) = line :=
    List.rdropWhile_append_rtakeWhile
  have lastMarked := List.rdropWhile_last_not (fun x => !isMark x) line
  generalize line.rdropWhile (fun x => !isMark x) = front at whole lastMarked ⊢
  generalize line.rtakeWhile (fun x => !isMark x) = back at whole unmarked ⊢
  subst whole
  have hb := keptBeforeMark_of_no_mark back unmarked
  rcases List.eq_nil_or_concat front with rfl | ⟨before, mark, rfl⟩
  · rw [List.nil_append, hb, select_none, List.nil_append]
  · have hm : isMark mark = true := by simpa using lastMarked (by simp)
    have hc : isChar mark = false := by
      rcases mark with _ | _ | _ | _ | _ <;> first | rfl | cases hm
    rw [List.concat_eq_append, List.append_assoc, List.singleton_append,
      keptBeforeMark_append before back hm, hb,
      select_append_of_length before _ _ (List.length_replicate ..), select_all,
      select_of_not_char hc, select_none, List.append_assoc, List.singleton_append]

theorem length_keptBeforeMark (line : Outline) :
    (keptInLine.keptBeforeMark line.items).length = charCount line := by
  induction line using char_induction with
  | nil => rfl
  | char c line ih => simp [keptInLine.keptBeforeMark, ih]
  | other x line hx ih =>
      rw [charCount_of_not_char hx]
      rcases x with _ | c | _ | _ | _
      · exact ih
      · cases hx
      all_goals exact ih

theorem keptInLine_eq (mode : Gobbling) (line : Outline) :
    keptInLine mode line.items =
      if line.Gobbled mode then
        if mode = .bc then keptInLine.keptBeforeMark line.items
        else List.replicate (charCount line) false
      else List.replicate (charCount line) true := by
  unfold keptInLine
  by_cases h : line.Gobbled mode
  · rw [if_pos h, if_pos ((isGobbled_iff mode line).2 h)]
    cases mode with
    | bc => rfl
    | none | lines | structured =>
        refine verdicts_of_line (fun _ => rfl) (fun x hx => ?_) line
        cases x <;> first | rfl | cases hx
  · rw [if_neg h, if_neg fun hg => h ((isGobbled_iff mode line).1 hg)]
    refine verdicts_of_line (fun _ => rfl) (fun x hx => ?_) line
    cases x <;> first | rfl | cases hx

theorem select_keptInLine (mode : Gobbling) (line : Outline) :
    select line (keptInLine mode line.items) = line.trimmed mode := by
  rw [keptInLine_eq, trimmed]
  split
  · split
    · exact select_keptBeforeMark line
    · exact select_none line
  · exact select_all line

theorem length_keptInLine (mode : Gobbling) (line : Outline) :
    (keptInLine mode line.items).length = charCount line := by
  rw [keptInLine_eq]
  split
  · split
    · exact length_keptBeforeMark line
    · exact List.length_replicate ..
  · exact List.length_replicate ..

theorem endsLine_items {line : Outline} (h : ∀ x ∈ line, endsLine x = false) :
    ∀ item ∈ line.items, item.isNewline = false := by
  intro item hi
  obtain ⟨x, hx, rfl⟩ := List.mem_filterMap.1 hi
  exact h _ hx

theorem keptChars_append (mode : Gobbling) (front rest : Outline) {x : Option Item}
    (h : ∀ y ∈ front, endsLine y = false) (hx : endsLine x = true) :
    keptChars mode (items (front ++ x :: rest)) =
      keptInLine mode (items (front ++ [x])) ++ keptChars mode rest.items := by
  obtain ⟨item, rfl⟩ : ∃ item, x = some item := by
    cases x with
    | none => cases hx
    | some item => exact ⟨item, rfl⟩
  simp only [keptChars, items_append, items_some, items_nil]
  rw [cutAfter_append front.items rest.items (endsLine_items h) hx, List.flatMap_cons]

theorem keptChars_last (mode : Gobbling) (line : Outline) (h : ∀ x ∈ line, endsLine x = false) :
    keptChars mode line.items = keptInLine mode line.items := by
  simp only [keptChars]
  cases hl : line.items with
  | nil => cases mode <;> rfl
  | cons item more =>
      rw [cutAfter_of_none _ (List.cons_ne_nil item more) (hl ▸ endsLine_items h)]
      simp

/-- The verdicts about a whole document delete from each line what its own verdicts do. -/
theorem select_keptChars (mode : Gobbling) (o : Outline) :
    select o (keptChars mode o.items) = o.lines.flatMap (trimmed mode) := by
  induction o using part_induction endsLine with
  | last line h =>
      rw [keptChars_last mode line h, select_keptInLine]
      cases line with
      | nil => cases mode <;> rfl
      | cons x line => rw [lines, cutAfter_of_none _ (List.cons_ne_nil x line) h]; simp
  | part front x rest h hx ih =>
      have split : front ++ x :: rest = (front ++ [x]) ++ rest := by simp
      rw [keptChars_append mode front rest h hx, lines, cutAfter_append front rest h hx,
        List.flatMap_cons, ← lines, ← ih, split,
        select_append_of_length _ _ _ (length_keptInLine mode _), select_keptInLine]

/-- The characters at the front, and what stands behind them. -/
def takeText : Outline → List Char × Outline
  | some (.char c) :: o => (c :: (takeText o).1, (takeText o).2)
  | o => ([], o)

/-- The text in front of the outline ends there. -/
def EndsText (o : Outline) : Prop := ∀ x ∈ o.head?, isChar x = false

theorem takeText_of_endsText {o : Outline} (ho : o.EndsText) : takeText o = ([], o) := by
  unfold takeText
  split
  · cases ho _ rfl
  · rfl

theorem takeText_append (cs : List Char) {o : Outline} (ho : o.EndsText) :
    takeText (cs.map (fun c => some (.char c)) ++ o) = (cs, o) := by
  induction cs with
  | nil => exact takeText_of_endsText ho
  | cons c cs ih => simp [takeText, ih]

theorem endsText_cons {x : Option Item} (hx : isChar x = false) (o : Outline) :
    EndsText (x :: o) := by
  rintro _ ⟨⟩
  exact hx

end Outline

mutual

/-- Puts the texts of an outline into a skeleton, and gives back the rest of the outline. -/
def Segment.fill : Segment → Outline → Segment × Outline
  | .text _ span, o => (.text (String.ofList (takeText o.tail).1) span, (takeText o.tail).2)
  | .conditional first rest otherwise close span, o =>
    let (first, o) := Arm.fill first o
    let (rest, o) := fillArms rest o
    let (otherwise, o) := fillFallback otherwise o
    (.conditional first rest otherwise close span, o.tail)
  | .loop header item iterable body otherwise close span, o =>
    let (body, o) := fill body o.tail
    let (otherwise, o) := fillFallback otherwise o
    (.loop header item iterable body otherwise close span, o.tail)
  | .define header name parameters body close span, o =>
    let (body, o) := fill body o.tail
    (.define header name parameters body close span, o.tail)
  | other, o => (other, o.tail)

def Arm.fill : Arm → Outline → Arm × Outline
  | .mk header condition body, o =>
    let (body, o) := fill body o.tail
    (.mk header condition body, o)

def fillArms : List Arm → Outline → List Arm × Outline
  | [], o => ([], o)
  | arm :: arms, o =>
    let (arm, o) := Arm.fill arm o
    let (arms, o) := fillArms arms o
    (arm :: arms, o)

def fillFallback : Option Fallback → Outline → Option Fallback × Outline
  | none, o => (none, o)
  | some (.mk header body), o =>
    let (body, o) := fill body o.tail
    (some (.mk header body), o)

def fill : List Segment → Outline → List Segment × Outline
  | [], o => ([], o)
  | segment :: segments, o =>
    let (segment, o) := Segment.fill segment o
    let (segments, o) := fill segments o
    (segment :: segments, o)

end

theorem Segment.endsText_outline (s : Segment) (o : Outline) : EndsText (s.outline ++ o) := by
  cases s with
  | conditional first =>
      obtain ⟨_, _, body⟩ := first
      exact endsText_cons rfl _
  | _ => exact endsText_cons rfl _

theorem endsText_outline (segments : List Segment) {o : Outline} (ho : o.EndsText) :
    EndsText (outline segments ++ o) := by
  cases segments with
  | nil => exact ho
  | cons s segments =>
      rw [outline, List.append_assoc]
      exact s.endsText_outline _

theorem endsText_outlineFallback (f : Option Fallback) {o : Outline} (ho : o.EndsText) :
    EndsText (outlineFallback f ++ o) := by
  rcases f with _ | ⟨_, body⟩
  · exact ho
  · exact endsText_cons rfl _

theorem endsText_outlineArms (arms : List Arm) {o : Outline} (ho : o.EndsText) :
    EndsText (outlineArms arms ++ o) := by
  cases arms with
  | nil => exact ho
  | cons arm arms =>
      obtain ⟨_, _, body⟩ := arm
      exact endsText_cons rfl _

mutual

theorem Segment.fill_skeleton : (s : Segment) → {o : Outline} → o.EndsText →
    s.skeleton.fill (s.outline ++ o) = (s, o)
  | .text content span, o, ho => by
      simp [Segment.skeleton, Segment.outline, Segment.fill, takeText_append content.toList ho]
  | .unparsed .., _, _ | .reference .., _, _ | .formal .., _, _ | .assign .., _, _
  | .leave .., _, _ | .stop .., _, _ | .macroCall .., _, _ | .evaluate .., _, _ | .parse .., _, _
  | .embed .., _, _ => rfl
  | .conditional first rest otherwise close span, o, _ => by
      have hm : EndsText (some .blockMark :: o) := endsText_cons rfl o
      have ho := endsText_outlineFallback otherwise hm
      simp [Segment.skeleton, Segment.outline, Segment.fill,
        Arm.fill_skeleton first (endsText_outlineArms rest ho), fillArms_skeletonArms rest ho,
        fillFallback_skeletonFallback otherwise hm]
  | .loop header item iterable body otherwise close span, o, _ => by
      have hm : EndsText (some .blockMark :: o) := endsText_cons rfl o
      simp [Segment.skeleton, Segment.outline, Segment.fill,
        fill_skeleton body (endsText_outlineFallback otherwise hm),
        fillFallback_skeletonFallback otherwise hm]
  | .define header name parameters body close span, o, _ => by
      have hm : EndsText (some .blockMark :: o) := endsText_cons rfl o
      simp [Segment.skeleton, Segment.outline, Segment.fill, fill_skeleton body hm]

theorem Arm.fill_skeleton : (a : Arm) → {o : Outline} → o.EndsText →
    a.skeleton.fill (a.outline ++ o) = (a, o)
  | .mk _ _ body, o, ho => by
      simp [Arm.skeleton, Arm.outline, Arm.fill, fill_skeleton body ho]

theorem fillArms_skeletonArms : (arms : List Arm) → {o : Outline} → o.EndsText →
    fillArms (skeletonArms arms) (outlineArms arms ++ o) = (arms, o)
  | [], _, _ => rfl
  | arm :: arms, o, ho => by
      simp [skeletonArms, outlineArms, fillArms, List.append_assoc,
        Arm.fill_skeleton arm (endsText_outlineArms arms ho), fillArms_skeletonArms arms ho]

theorem fillFallback_skeletonFallback : (f : Option Fallback) → {o : Outline} → o.EndsText →
    fillFallback (skeletonFallback f) (outlineFallback f ++ o) = (f, o)
  | none, _, _ => rfl
  | some (.mk _ body), o, ho => by
      simp [skeletonFallback, outlineFallback, fillFallback, fill_skeleton body ho]

theorem fill_skeleton : (segments : List Segment) → {o : Outline} → o.EndsText →
    fill (skeleton segments) (outline segments ++ o) = (segments, o)
  | [], _, _ => rfl
  | segment :: segments, o, ho => by
      simp [skeleton, outline, fill, List.append_assoc,
        Segment.fill_skeleton segment (endsText_outline segments ho), fill_skeleton segments ho]

end

/-- Skeleton and outline determine the markup. -/
theorem eq_of_skeleton_outline {a b : List Segment} (hs : skeleton a = skeleton b)
    (ho : outline a = outline b) : a = b := by
  have filled (segments : List Segment) :
      (fill (skeleton segments) (outline segments)).1 = segments := by
    have h := fill_skeleton segments (o := []) nofun
    rw [List.append_nil] at h
    rw [h]
  rw [← filled a, hs, ho, filled b]

theorem skeleton_gobble (mode : Gobbling) (segments : List Segment) :
    skeleton (gobble mode segments) = skeleton segments := by
  rw [gobble_eq]
  cases mode with
  | none => rfl
  | bc | lines | structured => exact skeleton_keepSegments segments _

theorem outline_gobble (mode : Gobbling) (segments : List Segment) :
    outline (gobble mode segments) = (outline segments).lines.flatMap (trimmed mode) := by
  have kept : outline (keepSegments segments (keptChars mode (segmentItems segments))).1 =
      (outline segments).lines.flatMap (trimmed mode) := by
    rw [(keepSegments_kept segments _).outline, ← items_outline, select_keptChars]
  rw [gobble_eq]
  cases mode with
  | none =>
      have same (line : Outline) : line.trimmed .none = line := if_neg fun h => h.1 rfl
      simp [gobbleChars, funext same, lines, List.flatMap_def, flatten_cutAfter]
  | bc | lines | structured => exact kept

theorem gobble_of_outline {mode : Gobbling} {segments found : List Segment}
    (hs : skeleton found = skeleton segments)
    (ho : outline found = (outline segments).lines.flatMap (trimmed mode)) :
    gobble mode segments = found := by
  refine eq_of_skeleton_outline ?_ ?_
  · rw [skeleton_gobble, hs]
  · rw [outline_gobble, ho]

/-- Where there is no text nothing is gobbled. -/
theorem gobble_of_textless (mode : Gobbling) {segments : List Segment}
    (h : ∀ x ∈ outline segments, isChar x = false) : gobble mode segments = segments := by
  have kept : ∀ line ∈ (outline segments).lines, line.trimmed mode = line := by
    intro line hl
    have plain : ∀ x ∈ line, isChar x = false := by
      intro x hx
      have inside : x ∈ (outline segments).lines.flatten := List.mem_flatten.2 ⟨line, hl, hx⟩
      rw [lines, flatten_cutAfter] at inside
      exact h x inside
    have filtered (part : Outline) (hp : ∀ x ∈ part, x ∈ line) :
        part.filter (fun x => !isChar x) = part :=
      List.filter_eq_self.2 fun x hx => by rw [plain x (hp x hx)]; rfl
    unfold trimmed
    split
    · split
      · rw [filtered _ fun x hx => (List.rtakeWhile_suffix _ line).subset hx]
        exact List.rdropWhile_append_rtakeWhile
      · exact filtered line fun _ hx => hx
    · rfl
  refine gobble_of_outline rfl ?_
  rw [List.flatMap_congr kept]
  simp [lines, List.flatMap_def, flatten_cutAfter]

/-- Gobbling never fails: every cut falls between characters of its text, behind the cut before. What
it leaves is the markup that has the same skeleton and in whose outline every line has lost what it
loses by itself. -/
theorem gobble_eq_iff (mode : Gobbling) (segments : List Segment) :
    gobble? mode segments = some (gobble mode segments) ∧ ∀ found,
      gobble mode segments = found ↔
        skeleton found = skeleton segments ∧
          outline found = (outline segments).lines.flatMap (trimmed mode) := by
  refine ⟨by rw [gobble_eq, gobble?_eq], fun found => ⟨?_, ?_⟩⟩
  · rintro rfl
    exact ⟨skeleton_gobble mode segments, outline_gobble mode segments⟩
  · rintro ⟨hs, ho⟩
    exact gobble_of_outline hs ho

end Template.Markup

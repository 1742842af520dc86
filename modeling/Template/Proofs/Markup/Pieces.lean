import Mathlib.Data.List.TakeWhile
import Template.Proofs.Markup.Verdicts
import Template.Proofs.Token.Pieces

/-!
The first walk of gobbling. The pieces of a text are runs of its characters, one behind the other. So
the atoms of a document stand for its items in order, and those of a text carry its number among all
texts.
-/

namespace Template.Markup

section Cut

variable {α : Type} {ends : α → Bool}

theorem cutAfter_of_none (xs : List α) (hn : xs ≠ []) (h : ∀ x ∈ xs, ends x = false) :
    cutAfter ends xs = [xs] := by
  induction xs with
  | nil => exact absurd rfl hn
  | cons x xs ih =>
      rw [cutAfter, h x (by simp), if_neg (by simp)]
      cases xs with
      | nil => rfl
      | cons y ys =>
          have hy : ∀ z ∈ y :: ys, ends z = false := fun z hz => h z (List.mem_cons_of_mem x hz)
          rw [ih (List.cons_ne_nil y ys) hy]

theorem cutAfter_append (front rest : List α) {x : α} (h : ∀ y ∈ front, ends y = false)
    (hx : ends x = true) :
    cutAfter ends (front ++ x :: rest) = (front ++ [x]) :: cutAfter ends rest := by
  induction front with
  | nil => simp [cutAfter, hx]
  | cons y front ih =>
      have hf : ∀ z ∈ front, ends z = false := fun z hz => h z (List.mem_cons_of_mem y hz)
      rw [List.cons_append, cutAfter, h y (by simp), if_neg (by simp), ih hf]
      rfl

theorem flatten_cutAfter (ends : α → Bool) (xs : List α) : (cutAfter ends xs).flatten = xs := by
  induction xs with
  | nil => rfl
  | cons x xs ih =>
      rw [cutAfter]
      split
      · rw [List.flatten_cons, ih, List.singleton_append]
      · cases h : cutAfter ends xs with
        | nil =>
            rw [h] at ih
            rw [← ih]
            rfl
        | cons part parts =>
            rw [h] at ih
            rw [← ih]
            rfl

/-- A list is one part without an end, or begins with a part that is closed. -/
theorem part_induction (ends : α → Bool) {P : List α → Prop}
    (last : ∀ xs, (∀ x ∈ xs, ends x = false) → P xs)
    (part : ∀ front x rest, (∀ y ∈ front, ends y = false) → ends x = true → P rest →
      P (front ++ x :: rest)) (xs : List α) : P xs := by
  induction h : xs.length using Nat.strong_induction_on generalizing xs with
  | _ n ih =>
      subst h
      by_cases hx : ∀ x ∈ xs, ends x = false
      · exact last xs hx
      · have hs : xs.dropWhile (fun x => !ends x) ≠ [] := by
          intro hd
          refine hx fun x hm => ?_
          simpa using List.dropWhile_eq_nil_iff.1 hd x hm
        obtain ⟨x, rest, hr⟩ := List.exists_cons_of_ne_nil hs
        have split : xs = xs.takeWhile (fun x => !ends x) ++ x :: rest := by
          rw [← hr, List.takeWhile_append_dropWhile]
        have hend : ends x = true := by
          have head := List.head_dropWhile_not (fun x => !ends x) hs
          simpa [hr] using head
        rw [split]
        refine part _ x rest (fun y hy => ?_) hend (ih rest.length ?_ rest rfl)
        · simpa using List.mem_takeWhile_imp hy
        · have := congrArg List.length split
          simp only [List.length_append, List.length_cons] at this
          omega

end Cut

theorem cutAfter_map {α β : Type} (ends : β → Bool) (f : α → β) (xs : List α) :
    cutAfter ends (xs.map f) = (cutAfter (fun x => ends (f x)) xs).map (List.map f) := by
  induction xs with
  | nil => rfl
  | cons x xs ih =>
      rw [List.map_cons, cutAfter, cutAfter, ih]
      split
      · rfl
      · cases cutAfter (fun x => ends (f x)) xs <;> rfl

/-! ### Runs of a text -/

/-- Characters of one kind. -/
abbrev CharRun := PieceKind × List Char

/-- Puts a run in front of others. It joins the first of them if that is of its kind. -/
def attach (run : CharRun) : List CharRun → List CharRun
  | [] => [run]
  | (kind, cs) :: more =>
    if run.1 = kind ∧ kind ≠ .newline then (kind, run.2 ++ cs) :: more else run :: (kind, cs) :: more

def runs : List Char → List CharRun
  | [] => []
  | c :: cs => attach (.ofChar c, [c]) (runs cs)

/-- Runs one behind the other in a text, from an offset on. -/
def layOut (text start : Nat) : List CharRun → List Atom
  | [] => []
  | (kind, cs) :: more =>
    let stop := start + Text.byteLength cs
    .piece text ⟨start, stop⟩ kind :: layOut text stop more

theorem attach_attach {kind : PieceKind} (hk : kind ≠ .newline) (front cs : List Char)
    (more : List CharRun) :
    attach (kind, front) (attach (kind, cs) more) = attach (kind, front ++ cs) more := by
  cases more with
  | nil => simp [attach, hk]
  | cons run more =>
      by_cases same : kind = run.1 ∧ run.1 ≠ .newline
      · simp [attach, same]
      · simp [attach, same, hk]

theorem attach_of_other {kind next : PieceKind} (h : ¬(kind = next ∧ next ≠ .newline))
    (front cs : List Char) (more : List CharRun) :
    attach (kind, front) (attach (next, cs) more) = (kind, front) :: attach (next, cs) more := by
  cases more with
  | nil => rw [attach, attach, if_neg h]
  | cons run more =>
      rw [attach]
      split
      next same =>
        rw [attach, if_neg]
        obtain ⟨alike, -⟩ := same
        exact fun joined => h ⟨joined.1.trans alike.symm, alike.trans_ne joined.2⟩
      next => rw [attach, if_neg h]

theorem piecesFrom_eq (text : Nat) (kind : PieceKind) (start : Nat) (front cs : List Char) :
    piecesFrom text kind start (start + Text.byteLength front) cs =
      layOut text start (attach (kind, front) (runs cs)) := by
  induction cs generalizing kind start front with
  | nil => rfl
  | cons c cs ih =>
      rw [piecesFrom, runs]
      by_cases joins : kind = .ofChar c ∧ PieceKind.ofChar c ≠ .newline
      · have width : start + Text.byteLength front + c.utf8Size =
            start + Text.byteLength (front ++ [c]) := by
          rw [Text.byteLength_append, Text.byteLength, Text.byteLength]
          omega
        have plain : kind ≠ .newline := joins.1 ▸ joins.2
        rw [if_pos (by simpa using joins), width, ih, joins.1, attach_attach (joins.1 ▸ plain)]
      · have width : start + Text.byteLength front + c.utf8Size =
            start + Text.byteLength front + Text.byteLength [c] := rfl
        rw [if_neg (by simpa using joins), width, ih, attach_of_other joins]
        rfl

theorem pieces_eq (text : Nat) (cs : List Char) : pieces text cs = layOut text 0 (runs cs) := by
  cases cs with
  | nil => rfl
  | cons c cs =>
      have first := piecesFrom_eq text (.ofChar c) 0 [c] cs
      rwa [Text.byteLength, Text.byteLength, Nat.zero_add] at first

/-- A run has characters, which are of its kind; a newline stands alone. -/
structure CharRun.Sound (run : CharRun) : Prop where
  ne_nil : run.2 ≠ []
  kind : ∀ c ∈ run.2, PieceKind.ofChar c = run.1
  newline : run.1 = .newline → run.2 = ['\n']

theorem newline_of_ofChar {c : Char} (h : PieceKind.ofChar c = .newline) : c = '\n' := by
  unfold PieceKind.ofChar at h
  split at h
  · assumption
  · split at h <;> cases h

theorem sound_runs (cs : List Char) : ∀ run ∈ runs cs, CharRun.Sound run := by
  induction cs with
  | nil => nofun
  | cons c cs ih =>
      have single : CharRun.Sound (.ofChar c, [c]) :=
        ⟨List.cons_ne_nil c [], by simp, fun h => by rw [newline_of_ofChar h]⟩
      rw [runs]
      cases hr : runs cs with
      | nil => exact List.forall_mem_singleton.2 single
      | cons run more =>
          obtain ⟨kind, ds⟩ := run
          rw [hr] at ih
          obtain ⟨first, others⟩ := List.forall_mem_cons.1 ih
          rw [attach]
          split
          next joins =>
            refine List.forall_mem_cons.2 ⟨⟨by simp, ?_, fun h => absurd h joins.2⟩, others⟩
            exact List.forall_mem_append.2 ⟨List.forall_mem_singleton.2 joins.1, first.kind⟩
          next => exact List.forall_mem_cons.2 ⟨single, ih⟩

theorem flatMap_runs (cs : List Char) : (runs cs).flatMap Prod.snd = cs := by
  induction cs with
  | nil => rfl
  | cons c cs ih =>
      rw [runs]
      cases hr : runs cs with
      | nil =>
          rw [hr] at ih
          rw [← ih]
          rfl
      | cons run more =>
          rw [hr] at ih
          rw [← ih, attach]
          split <;> simp

/-! ### Blocks of a document -/

/-- What a document is a list of, when its structure is left out. -/
inductive Block where
  | text (cs : List Char)
  | mark (kind : MarkKind)
  | content

def Item.ofMark : MarkKind → Item
  | .block => .blockMark
  | .line => .lineMark

def Block.items : Block → List Item
  | .text cs => cs.map .char
  | .mark kind => [.ofMark kind]
  | .content => [.content]

def Block.isText : Block → Bool
  | .text _ => true
  | _ => false

def textCount (bs : List Block) : Nat := bs.countP Block.isText

mutual

def Segment.blocks : Segment → List Block
  | .text content _ => [.text content.toList]
  | .unparsed .. | .reference .. | .formal .. => [.content]
  | .conditional first rest otherwise _ _ =>
    Arm.blocks first ++ (armBlocks rest ++ (fallbackBlocks otherwise ++ [.mark .block]))
  | .loop _ _ _ body otherwise _ _ =>
    .mark .block :: (segmentBlocks body ++ (fallbackBlocks otherwise ++ [.mark .block]))
  | .define _ _ _ body _ _ => .mark .block :: (segmentBlocks body ++ [.mark .block])
  | .assign .. | .leave .. | .stop .. | .macroCall .. | .evaluate .. | .parse .. | .embed .. =>
    [.mark .line]

def Arm.blocks : Arm → List Block
  | .mk _ _ body => .mark .block :: segmentBlocks body

def armBlocks : List Arm → List Block
  | [] => []
  | arm :: arms => Arm.blocks arm ++ armBlocks arms

def fallbackBlocks : Option Fallback → List Block
  | none => []
  | some (.mk _ body) => .mark .block :: segmentBlocks body

def segmentBlocks : List Segment → List Block
  | [] => []
  | segment :: segments => Segment.blocks segment ++ segmentBlocks segments

end

/-- An atom, with the items of the document that it stands for. -/
structure Placed where
  atom : Atom
  items : List Item

/-- Runs one behind the other in a text, from an offset on. -/
def placeRuns (text start : Nat) : List CharRun → List Placed
  | [] => []
  | (kind, cs) :: more =>
    let stop := start + Text.byteLength cs
    ⟨.piece text ⟨start, stop⟩ kind, cs.map .char⟩ :: placeRuns text stop more

/-- The atoms of blocks, where `n` texts stand before them. -/
def place (n : Nat) : List Block → List Placed
  | [] => []
  | .text cs :: bs => placeRuns n 0 (runs cs) ++ place (n + 1) bs
  | .mark kind :: bs => ⟨.mark kind, [.ofMark kind]⟩ :: place n bs
  | .content :: bs => ⟨.content, [.content]⟩ :: place n bs

theorem textCount_append (a b : List Block) : textCount (a ++ b) = textCount a + textCount b :=
  List.countP_append

theorem place_append (n : Nat) (a b : List Block) :
    place n (a ++ b) = place n a ++ place (n + textCount a) b := by
  induction a generalizing n with
  | nil => rfl
  | cons block a ih =>
      cases block with
      | text cs =>
          have next : n + 1 + textCount a = n + textCount (.text cs :: a) := by
            rw [textCount, textCount, List.countP_cons_of_pos rfl]
            omega
          rw [List.cons_append, place, place, ih, next, List.append_assoc]
      | mark kind =>
          rw [List.cons_append, place, place, ih]
          rfl
      | content =>
          rw [List.cons_append, place, place, ih]
          rfl

@[simp] theorem map_atom_placeRuns (text start : Nat) (rs : List CharRun) :
    (placeRuns text start rs).map Placed.atom = layOut text start rs := by
  induction rs generalizing start with
  | nil => rfl
  | cons run rs ih => simp [placeRuns, layOut, ih]

theorem flatMap_items_placeRuns (text start : Nat) (rs : List CharRun) :
    (placeRuns text start rs).flatMap Placed.items = (rs.flatMap Prod.snd).map .char := by
  induction rs generalizing start with
  | nil => rfl
  | cons run rs ih => simp [placeRuns, ih]

theorem flatMap_items_place (n : Nat) (bs : List Block) :
    (place n bs).flatMap Placed.items = bs.flatMap Block.items := by
  induction bs generalizing n with
  | nil => rfl
  | cons block bs ih =>
      cases block with
      | text cs => simp [place, flatMap_items_placeRuns, flatMap_runs, ih, Block.items]
      | mark kind => simp [place, ih, Block.items]
      | content => simp [place, ih, Block.items]

/-- The atoms and the count that the first walk gives are those of blocks. -/
def Walked (n : Nat) (walk : List Atom × Nat) (bs : List Block) : Prop :=
  walk = ((place n bs).map Placed.atom, n + textCount bs)

namespace Walked

theorem nil (n : Nat) : Walked n ([], n) [] := rfl

theorem mark {n : Nat} {walk : List Atom × Nat} {bs : List Block} (kind : MarkKind)
    (h : Walked n walk bs) : Walked n (.mark kind :: walk.1, walk.2) (.mark kind :: bs) := by
  rw [h]
  rfl

theorem append {n : Nat} {first : List Atom × Nat} {a b : List Block} (ha : Walked n first a)
    {second : List Atom × Nat} (hb : Walked first.2 second b) :
    Walked n (first.1 ++ second.1, second.2) (a ++ b) := by
  rw [ha] at hb ⊢
  rw [hb, Walked, place_append, textCount_append, List.map_append, Nat.add_assoc]

end Walked

mutual

theorem Segment.walked : (s : Segment) → (n : Nat) → Walked n (s.atoms n) s.blocks
  | .text content _, n => by
      simp [Walked, Segment.atoms, Segment.blocks, place, pieces_eq, textCount, Block.isText]
  | .unparsed .., n | .reference .., n | .formal .., n => rfl
  | .conditional first rest otherwise _ _, n => by
      have all := (Arm.walked first n).append <| (walked_arms rest _).append <|
        (walked_fallback otherwise _).append <| .mark .block (.nil _)
      simpa [Segment.atoms, Segment.blocks] using all
  | .loop _ _ _ body otherwise _ _, n => by
      have all := Walked.mark .block <| (walked_segments body n).append <|
        (walked_fallback otherwise _).append <| .mark .block (.nil _)
      simpa [Segment.atoms, Segment.blocks] using all
  | .define _ _ _ body _ _, n =>
      .mark .block ((walked_segments body n).append (.mark .block (.nil _)))
  | .assign .., n | .leave .., n | .stop .., n | .macroCall .., n | .evaluate .., n | .parse .., n
  | .embed .., n => rfl

theorem Arm.walked : (a : Arm) → (n : Nat) → Walked n (a.atoms n) a.blocks
  | .mk _ _ body, n => .mark .block (walked_segments body n)

theorem walked_arms : (arms : List Arm) → (n : Nat) → Walked n (armAtoms n arms) (armBlocks arms)
  | [], n => .nil n
  | arm :: arms, n => .append (Arm.walked arm n) (walked_arms arms _)

theorem walked_fallback : (f : Option Fallback) → (n : Nat) →
    Walked n (fallbackAtoms n f) (fallbackBlocks f)
  | none, n => .nil n
  | some (.mk _ body), n => .mark .block (walked_segments body n)

theorem walked_segments : (segments : List Segment) → (n : Nat) →
    Walked n (segmentAtoms n segments) (segmentBlocks segments)
  | [], n => .nil n
  | segment :: segments, n => .append (Segment.walked segment n) (walked_segments segments _)

end

mutual

theorem Segment.items_blocks : (s : Segment) → s.blocks.flatMap Block.items = s.items
  | .text content _ => by simp [Segment.blocks, Segment.items, Block.items]
  | .unparsed .. | .reference .. | .formal .. => rfl
  | .conditional first rest otherwise _ _ => by
      simp [Segment.blocks, Segment.items, Arm.items_blocks first, items_armBlocks rest,
        items_fallbackBlocks otherwise, Block.items, Item.ofMark]
  | .loop _ _ _ body otherwise _ _ => by
      simp [Segment.blocks, Segment.items, items_segmentBlocks body,
        items_fallbackBlocks otherwise, Block.items, Item.ofMark]
  | .define _ _ _ body _ _ => by
      simp [Segment.blocks, Segment.items, items_segmentBlocks body, Block.items, Item.ofMark]
  | .assign .. | .leave .. | .stop .. | .macroCall .. | .evaluate .. | .parse .. | .embed .. => rfl

theorem Arm.items_blocks : (a : Arm) → a.blocks.flatMap Block.items = a.items
  | .mk _ _ body => by
      simp [Arm.blocks, Arm.items, items_segmentBlocks body, Block.items, Item.ofMark]

theorem items_armBlocks : (arms : List Arm) → (armBlocks arms).flatMap Block.items = armItems arms
  | [] => rfl
  | arm :: arms => by
      simp [armBlocks, armItems, Arm.items_blocks arm, items_armBlocks arms]

theorem items_fallbackBlocks :
    (f : Option Fallback) → (fallbackBlocks f).flatMap Block.items = fallbackItems f
  | none => rfl
  | some (.mk _ body) => by
      simp [fallbackBlocks, fallbackItems, items_segmentBlocks body, Block.items, Item.ofMark]

theorem items_segmentBlocks :
    (segments : List Segment) → (segmentBlocks segments).flatMap Block.items = segmentItems segments
  | [] => rfl
  | segment :: segments => by
      simp [segmentBlocks, segmentItems, Segment.items_blocks segment, items_segmentBlocks segments]

end

end Template.Markup

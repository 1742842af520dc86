import Template.Proofs.Markup.Pieces

/-!
The cuts of gobbling. A line gives one verdict on all characters of a piece, so the ranges that a text
loses ascend, do not overlap and lie between characters. Both walks number the texts alike: no cut
fails, and what is left of a text is what the verdicts on its characters leave.
-/

namespace Template.Markup

/-! ### Lines -/

/-- A piece stands for characters of its kind, and a newline for itself. -/
inductive Placed.Fits : Placed → Prop
  | piece {text : Nat} {bytes : Span} {kind : PieceKind} {cs : List Char}
      (h : CharRun.Sound (kind, cs)) : Fits ⟨.piece text bytes kind, cs.map .char⟩
  | mark (kind : MarkKind) : Fits ⟨.mark kind, [.ofMark kind]⟩
  | content : Fits ⟨.content, [.content]⟩

theorem fits_placeRuns {rs : List CharRun} (h : ∀ run ∈ rs, CharRun.Sound run) (text start : Nat) :
    ∀ p ∈ placeRuns text start rs, p.Fits := by
  induction rs generalizing start with
  | nil => nofun
  | cons run rs ih =>
      obtain ⟨sound, others⟩ := List.forall_mem_cons.1 h
      exact List.forall_mem_cons.2 ⟨.piece sound, ih others _⟩

theorem fits_place (n : Nat) (bs : List Block) : ∀ p ∈ place n bs, p.Fits := by
  induction bs generalizing n with
  | nil => nofun
  | cons block bs ih =>
      cases block with
      | text cs => exact List.forall_mem_append.2 ⟨fits_placeRuns (sound_runs cs) n 0, ih (n + 1)⟩
      | mark kind => exact List.forall_mem_cons.2 ⟨.mark kind, ih n⟩
      | content => exact List.forall_mem_cons.2 ⟨.content, ih n⟩

theorem Item.isNewline_char (c : Char) :
    (Item.char c).isNewline = (PieceKind.ofChar c == .newline) := by
  change (c == '\n') = _
  unfold PieceKind.ofChar
  split
  next newline => simp [newline]
  next other => split <;> simp [other]

theorem Item.isSpacing_char (c : Char) :
    (Item.char c).isSpacing = (PieceKind.ofChar c != .word) := by
  change (c == ' ' || c == '\t' || c == '\r' || c == '\n') = _
  unfold PieceKind.ofChar
  split
  next newline => simp [newline]
  next other =>
    have plain : (c == '\n') = false := by simpa using other
    rw [plain, Bool.or_false]
    split
    next blank =>
      change _ = true
      simpa using blank
    next word => simpa using word

namespace Placed

def isNewline (p : Placed) : Bool := p.atom.isNewline

def isMark (p : Placed) : Bool := p.atom.isMark

variable {p : Placed}

theorem Fits.items_ne_nil (h : p.Fits) : p.items ≠ [] := by
  cases h with
  | piece h => exact mt List.map_eq_nil_iff.1 h.ne_nil
  | mark | content => exact List.cons_ne_nil _ _

theorem Fits.items_of_newline (h : p.Fits) (hn : p.isNewline = true) :
    p.items = [.char '\n'] := by
  cases h with
  | @piece _ _ kind cs h =>
      cases kind with
      | newline => exact congrArg (List.map Item.char) (h.newline rfl)
      | blank | word => cases hn
  | mark | content => cases hn

theorem Fits.not_newline (h : p.Fits) (hn : p.isNewline = false) :
    ∀ item ∈ p.items, item.isNewline = false := by
  cases h with
  | @piece _ _ kind cs h =>
      intro item hi
      obtain ⟨c, hc, rfl⟩ := List.mem_map.1 hi
      rw [Item.isNewline_char, h.kind c hc]
      cases kind with
      | newline => cases hn
      | blank | word => rfl
  | mark kind => cases kind <;> simp [Item.ofMark, Item.isNewline]
  | content => simp [Item.isNewline]

/-- The marks among the items. -/
theorem Fits.filter_isMark (h : p.Fits) :
    p.items.filter Item.isMark = p.atom.mark?.toList.map .ofMark := by
  cases h with
  | piece h => simp [Atom.mark?, List.filter_map, Function.comp_def, Item.isMark]
  | mark kind => cases kind <;> rfl
  | content => rfl

theorem Fits.any_isMark (h : p.Fits) : p.items.any Item.isMark = p.isMark := by
  cases h with
  | piece h => simp [isMark, Atom.isMark, Item.isMark]
  | mark kind => cases kind <;> rfl
  | content => rfl

theorem Fits.all_isSpacing (h : p.Fits) : p.items.all Item.isSpacing = p.atom.isSpacing := by
  cases h with
  | @piece _ _ kind cs h =>
      obtain ⟨c, more, rfl⟩ := List.exists_cons_of_ne_nil h.ne_nil
      have each : ∀ c' ∈ c :: more, (Item.char c').isSpacing = (kind != .word) := by
        intro c' hc'
        rw [Item.isSpacing_char, h.kind c' hc']
      rw [List.all_map, Bool.eq_iff_iff, List.all_eq_true]
      constructor
      · exact fun all =>
          (each c (List.mem_cons_self ..)).symm.trans (all c (List.mem_cons_self ..))
      · exact fun spacing c' hc' => (each c' hc').trans spacing
  | mark kind => cases kind <;> rfl
  | content => rfl

end Placed

section Line

variable {line : List Placed} (h : ∀ p ∈ line, p.Fits)

include h

/-- The atoms are cut into lines where the items are. -/
theorem cutAfter_items :
    cutAfter Item.isNewline (line.flatMap Placed.items) =
      (cutAfter Placed.isNewline line).map (List.flatMap Placed.items) := by
  induction line using part_induction Placed.isNewline with
  | last line hl =>
      cases line with
      | nil => rfl
      | cons p line =>
          have some : (p :: line).flatMap Placed.items ≠ [] := by
            rw [List.flatMap_cons]
            exact List.append_ne_nil_of_left_ne_nil (h p (List.mem_cons_self ..)).items_ne_nil _
          have none : ∀ item ∈ (p :: line).flatMap Placed.items, item.isNewline = false := by
            intro item hi
            obtain ⟨q, hq, hi⟩ := List.mem_flatMap.1 hi
            exact (h q hq).not_newline (hl q hq) item hi
          rw [cutAfter_of_none _ (List.cons_ne_nil p line) hl, cutAfter_of_none _ some none]
          rfl
  | part front p rest hf hp ih =>
      obtain ⟨fits, others⟩ := List.forall_mem_append.1 h
      obtain ⟨one, others⟩ := List.forall_mem_cons.1 others
      have none : ∀ item ∈ front.flatMap Placed.items, item.isNewline = false := by
        intro item hi
        obtain ⟨q, hq, hi⟩ := List.mem_flatMap.1 hi
        exact (fits q hq).not_newline (hf q hq) item hi
      rw [cutAfter_append front rest hf hp, List.flatMap_append, List.flatMap_cons,
        one.items_of_newline hp, List.singleton_append, cutAfter_append _ _ none rfl, ih others,
        List.map_cons, List.flatMap_append, List.flatMap_singleton, one.items_of_newline hp]

theorem filter_isMark_items :
    (line.flatMap Placed.items).filter Item.isMark =
      ((line.map Placed.atom).filterMap Atom.mark?).map .ofMark := by
  induction line with
  | nil => rfl
  | cons p line ih =>
      obtain ⟨one, others⟩ := List.forall_mem_cons.1 h
      rw [List.flatMap_cons, List.filter_append, one.filter_isMark, ih others, List.map_cons,
        List.filterMap_cons]
      cases p.atom.mark? <;> rfl

theorem any_isMark_items :
    (line.flatMap Placed.items).any Item.isMark = line.any Placed.isMark := by
  induction line with
  | nil => rfl
  | cons p line ih =>
      obtain ⟨one, others⟩ := List.forall_mem_cons.1 h
      rw [List.flatMap_cons, List.any_append, one.any_isMark, ih others, List.any_cons]

theorem all_isSpacing_items :
    (line.flatMap Placed.items).all Item.isSpacing = (line.map Placed.atom).all Atom.isSpacing := by
  induction line with
  | nil => rfl
  | cons p line ih =>
      obtain ⟨one, others⟩ := List.forall_mem_cons.1 h
      rw [List.flatMap_cons, List.all_append, one.all_isSpacing, ih others, List.map_cons,
        List.all_cons]

theorem isGobbled_items (mode : Gobbling) :
    isGobbled mode (line.flatMap Placed.items) =
      !(((line.map Placed.atom).filterMap Atom.mark?).isEmpty ||
        !(line.map Placed.atom).all Atom.isSpacing ||
        !isEligible mode ((line.map Placed.atom).filterMap Atom.mark?)) := by
  have block (kind : MarkKind) : (Item.ofMark kind == .blockMark) = (kind == .block) := by
    cases kind <;> rfl
  unfold isGobbled
  dsimp only
  rw [filter_isMark_items h, all_isSpacing_items h]
  generalize (line.map Placed.atom).filterMap Atom.mark? = marks
  generalize (line.map Placed.atom).all Atom.isSpacing = spacing
  have empty : (marks.map Item.ofMark).isEmpty = marks.isEmpty := by cases marks <;> rfl
  have all : ((marks.map Item.ofMark).all (· == .blockMark)) = marks.all (· == .block) := by
    rw [List.all_map]
    exact congrArg marks.all (funext block)
  rw [empty, all, List.length_map]
  cases mode <;> cases spacing <;> cases marks.isEmpty <;> simp [isEligible]

end Line

/-! ### The verdicts of lines -/

/-- Each atom with the verdict on it, where those up to the last mark are kept. -/
def keepBefore : List Placed → List (Placed × Bool)
  | [] => []
  | p :: ps => (p, ps.any Placed.isMark) :: keepBefore ps

/-- The atoms of a line, each with the verdict on it. -/
def judge (mode : Gobbling) (line : List Placed) : List (Placed × Bool) :=
  if isGobbled mode (line.flatMap Placed.items) then
    if mode = .bc then keepBefore line else line.map (·, false)
  else line.map (·, true)

/-- What is lost by a verdict on an atom. -/
def lost (x : Placed × Bool) : Option (Nat × Span) := if x.2 then none else x.1.atom.bytes?

/-- The verdict on an atom is that on each of its characters. -/
def verdicts (x : Placed × Bool) : List Bool :=
  x.1.items.filterMap fun
    | .char _ => some x.2
    | _ => none

theorem verdicts_chars (atom : Atom) (cs : List Char) (keep : Bool) :
    verdicts (⟨atom, cs.map .char⟩, keep) = List.replicate cs.length keep := by
  simp [verdicts]

theorem map_fst_judge (mode : Gobbling) (line : List Placed) :
    (judge mode line).map Prod.fst = line := by
  have before (line : List Placed) : (keepBefore line).map Prod.fst = line := by
    induction line with
    | nil => rfl
    | cons p line ih => rw [keepBefore, List.map_cons, ih]
  unfold judge
  split
  · split
    · exact before line
    · simp [List.map_map, Function.comp_def]
  · simp [List.map_map, Function.comp_def]

theorem afterLastMark_cons (x : Atom) (xs : List Atom) :
    afterLastMark (x :: xs) =
      if xs.any Atom.isMark then afterLastMark xs + 1 else if x.isMark then 1 else 0 := by
  simp only [afterLastMark, List.reverse_cons, List.findIdx_append, List.length_cons,
    List.length_reverse]
  by_cases later : xs.any Atom.isMark
  · have found : xs.reverse.findIdx Atom.isMark < xs.length := by
      have some : xs.reverse.findIdx Atom.isMark < xs.reverse.length :=
        List.findIdx_lt_length.2 (by simpa using later)
      rwa [List.length_reverse] at some
    rw [if_pos found, if_pos later]
    omega
  · have none : ¬xs.reverse.findIdx Atom.isMark < xs.length := by
      rw [← @List.length_reverse _ xs, List.findIdx_lt_length]
      simpa using later
    rw [if_neg none, if_neg later]
    cases hx : x.isMark with
    | false =>
        have passed : [x].findIdx Atom.isMark = 1 := by simp [List.findIdx_cons, hx]
        rw [passed, if_neg Bool.false_ne_true]
        omega
    | true => simp [List.findIdx_cons, hx]

theorem filterMap_drop_afterLastMark (line : List Placed) :
    ((line.map Placed.atom).drop (afterLastMark (line.map Placed.atom))).filterMap Atom.bytes? =
      (keepBefore line).filterMap lost := by
  induction line with
  | nil => rfl
  | cons p line ih =>
      have same : (line.map Placed.atom).any Atom.isMark = line.any Placed.isMark := by
        rw [List.any_map]
        rfl
      rw [keepBefore, List.map_cons, afterLastMark_cons, same, List.filterMap_cons, ← ih]
      by_cases later : line.any Placed.isMark
      · rw [if_pos later, later]
        rfl
      · have first : afterLastMark (line.map Placed.atom) = 0 := by
          cases line with
          | nil => rfl
          | cons q line =>
              have none : (line.map Placed.atom).any Atom.isMark = false ∧ q.isMark = false := by
                simp only [List.any_cons, Bool.or_eq_true, not_or, Bool.not_eq_true] at later
                exact ⟨by rw [List.any_map]; exact later.2, later.1⟩
              rw [List.map_cons, afterLastMark_cons, none.1, if_neg (by simp)]
              exact if_neg (Bool.eq_false_iff.1 none.2)
        rw [if_neg later, first, Bool.eq_false_iff.2 later]
        obtain ⟨atom, items⟩ := p
        cases atom <;> rfl

/-- The characters of an atom are kept if a mark stands behind it. -/
theorem keptBeforeMark_items {p : Placed} (h : p.Fits) (behind : List Item) :
    keptInLine.keptBeforeMark (p.items ++ behind) =
      verdicts (p, behind.any Item.isMark) ++ keptInLine.keptBeforeMark behind := by
  cases h with
  | @piece _ _ _ cs h =>
      rw [verdicts_chars]
      clear h
      induction cs with
      | nil => rfl
      | cons c cs ih =>
          have none : (cs.map Item.char).any Item.isMark = false := by simp [Item.isMark]
          rw [List.map_cons, List.cons_append, keptInLine.keptBeforeMark, ih, List.any_append,
            none, Bool.false_or]
          rfl
  | mark kind => cases kind <;> rfl
  | content => rfl

section Judged

variable {line : List Placed} (h : ∀ p ∈ line, p.Fits)

include h

/-- A line loses what its verdicts say. -/
theorem suppressed_judge (mode : Gobbling) :
    suppressed mode (line.map Placed.atom) = (judge mode line).filterMap lost := by
  have gobbled := isGobbled_items h mode
  unfold suppressed judge
  dsimp only
  generalize (_ || !(line.map Placed.atom).all Atom.isSpacing || _) = other at gobbled ⊢
  cases other with
  | false =>
      have gobbled : isGobbled mode (line.flatMap Placed.items) = true := gobbled
      rw [if_pos gobbled, if_neg Bool.false_ne_true]
      by_cases hm : mode = .bc
      · rw [if_pos hm, if_pos hm, filterMap_drop_afterLastMark]
      · rw [if_neg hm, if_neg hm, List.drop_zero, List.filterMap_map, List.filterMap_map]
        rfl
  | true =>
      rw [if_neg (Bool.eq_false_iff.1 gobbled), if_pos rfl, List.filterMap_map]
      exact (List.filterMap_eq_nil_iff.2 fun _ _ => rfl).symm

theorem keptBeforeMark_line :
    keptInLine.keptBeforeMark (line.flatMap Placed.items) =
      (keepBefore line).flatMap verdicts := by
  induction line with
  | nil => rfl
  | cons p line ih =>
      obtain ⟨one, others⟩ := List.forall_mem_cons.1 h
      rw [List.flatMap_cons, keptBeforeMark_items one, any_isMark_items others, keepBefore,
        List.flatMap_cons, ih others]

/-- The characters of a line have the verdicts of its atoms. -/
theorem keptInLine_judge (mode : Gobbling) :
    keptInLine mode (line.flatMap Placed.items) = (judge mode line).flatMap verdicts := by
  have all (keep : Bool) : (line.flatMap Placed.items).filterMap
      (fun | .char _ => some keep | _ => none) = (line.map (·, keep)).flatMap verdicts := by
    rw [List.filterMap_flatMap, List.flatMap_map]
    rfl
  unfold keptInLine judge
  split
  · cases mode with
    | bc => exact keptBeforeMark_line h
    | none | lines | structured => exact all false
  · exact all true

end Judged

/-- The atoms of a document, each with the verdict of its line. -/
def judged (mode : Gobbling) (ps : List Placed) : List (Placed × Bool) :=
  (cutAfter Placed.isNewline ps).flatMap (judge mode)

theorem map_fst_judged (mode : Gobbling) (ps : List Placed) :
    (judged mode ps).map Prod.fst = ps := by
  rw [judged, List.map_flatMap]
  simp only [map_fst_judge]
  exact List.flatMap_id'.trans (flatten_cutAfter Placed.isNewline ps)

theorem suppressed_judged {ps : List Placed} (h : ∀ p ∈ ps, p.Fits) (mode : Gobbling) :
    (cutAfter Atom.isNewline (ps.map Placed.atom)).flatMap (suppressed mode) =
      (judged mode ps).filterMap lost := by
  rw [cutAfter_map, List.flatMap_map, judged, List.filterMap_flatMap]
  refine List.flatMap_congr fun line hl => ?_
  have inside : ∀ p ∈ line, p ∈ ps := by
    intro p hp
    rw [← flatten_cutAfter Placed.isNewline ps]
    exact List.mem_flatten.2 ⟨line, hl, hp⟩
  exact suppressed_judge (fun p hp => h p (inside p hp)) mode

theorem keptChars_judged {ps : List Placed} (h : ∀ p ∈ ps, p.Fits) (mode : Gobbling) :
    keptChars mode (ps.flatMap Placed.items) = (judged mode ps).flatMap verdicts := by
  rw [keptChars, cutAfter_items h, List.flatMap_map, judged, List.flatMap_assoc]
  refine List.flatMap_congr fun line hl => ?_
  have inside : ∀ p ∈ line, p ∈ ps := by
    intro p hp
    rw [← flatten_cutAfter Placed.isNewline ps]
    exact List.mem_flatten.2 ⟨line, hl, hp⟩
  exact keptInLine_judge (fun p hp => h p (inside p hp)) mode

/-! ### The cuts of a text -/

/-- The bytes that the verdicts take from the text of a number. -/
def lostIn (n : Nat) (js : List (Placed × Bool)) : List Span :=
  ((js.filterMap lost).filter (·.1 == n)).map Prod.snd

theorem lostIn_append (n : Nat) (a b : List (Placed × Bool)) :
    lostIn n (a ++ b) = lostIn n a ++ lostIn n b := by
  simp [lostIn, List.filterMap_append, List.filter_append]

theorem lostIn_cons_lost (n : Nat) (bytes : Span) (kind : PieceKind) (items : List Item)
    (js : List (Placed × Bool)) :
    lostIn n ((⟨.piece n bytes kind, items⟩, false) :: js) = bytes :: lostIn n js := by
  simp [lostIn, lost, Atom.bytes?]

theorem keepChars_append (cs more : List Char) (keep : Bool) (kept : List Bool) :
    keepChars (cs ++ more) (List.replicate cs.length keep ++ kept) =
      ((if keep then cs else []) ++ (keepChars more kept).1, (keepChars more kept).2) := by
  induction cs with
  | nil => cases keep <;> rfl
  | cons c cs ih =>
      rw [List.cons_append, List.length_cons, List.replicate_succ, List.cons_append, keepChars, ih]
      cases keep <;> rfl

/-- Taking out of a text what the verdicts on its runs lose leaves the characters that they keep.
What stands in front of the runs is left from the byte on behind the last cut. -/
theorem removeRanges?_lostIn {n : Nat} {rs : List CharRun} {js : List (Placed × Bool)}
    (gone front : List Char) (later : List Bool)
    (h : js.map Prod.fst = placeRuns n (Text.byteLength (gone ++ front)) rs) :
    removeRanges? (Text.byteLength gone) (gone ++ (front ++ rs.flatMap Prod.snd)) (lostIn n js) =
        some (front ++ (keepChars (rs.flatMap Prod.snd) (js.flatMap verdicts ++ later)).1) ∧
      (keepChars (rs.flatMap Prod.snd) (js.flatMap verdicts ++ later)).2 = later := by
  induction rs generalizing js gone front with
  | nil =>
      obtain rfl := List.map_eq_nil_iff.1 h
      exact ⟨Text.dropBytes?_append gone _, rfl⟩
  | cons run rs ih =>
      obtain ⟨kind, cs⟩ := run
      obtain ⟨⟨p, keep⟩, js, rfl, rfl, hjs⟩ := List.map_eq_cons_iff.1 h
      have width : Text.byteLength (gone ++ front) + Text.byteLength cs =
          Text.byteLength (gone ++ (front ++ cs)) := by
        rw [← List.append_assoc, Text.byteLength_append (gone ++ front)]
      rw [List.flatMap_cons, List.flatMap_cons, verdicts_chars, List.append_assoc, keepChars_append]
      rw [width] at hjs
      cases keep with
      | true =>
          obtain ⟨removed, left⟩ := ih gone (front ++ cs) hjs
          rw [List.append_assoc] at removed
          exact ⟨removed.trans (by simp), left⟩
      | false =>
          -- the cut begins behind `front`, which is kept, and nothing is left in front of the next
          have next : gone ++ (front ++ cs) = gone ++ (front ++ cs) ++ [] := (List.append_nil _).symm
          rw [next] at hjs
          obtain ⟨removed, left⟩ := ih (gone ++ (front ++ cs)) [] hjs
          have kept : Text.slice? (Text.byteLength gone) (Text.byteLength (gone ++ front))
              (gone ++ (front ++ (cs ++ rs.flatMap Prod.snd))) = some front := by
            rw [Text.byteLength_append]
            exact Text.slice?_append gone front _
          have behind : gone ++ (front ++ (cs ++ rs.flatMap Prod.snd)) =
              gone ++ (front ++ cs) ++ rs.flatMap Prod.snd := by
            simp only [List.append_assoc]
          refine ⟨?_, left⟩
          rw [lostIn_cons_lost, removeRanges?, kept, width, behind]
          rw [List.nil_append] at removed
          rw [removed]
          rfl

/-! ### The second walk -/

/-- What a text loses is what the verdicts at hand take from it, and so for the texts behind. -/
def Follows (cuts : List (List Span)) : Nat → List Block → List Bool → Prop
  | _, [], _ => True
  | n, .text cs :: bs, kept =>
    (∃ ranges ∈ cuts[n]?, removeRanges? 0 cs ranges = some (keepChars cs kept).1) ∧
      Follows cuts (n + 1) bs (keepChars cs kept).2
  | n, .mark _ :: bs, kept | n, .content :: bs, kept => Follows cuts n bs kept

theorem text_placeRuns {n start : Nat} {rs : List CharRun} :
    ∀ p ∈ placeRuns n start rs, ∀ bytes ∈ p.atom.bytes?, bytes.1 = n := by
  induction rs generalizing start with
  | nil => nofun
  | cons run rs ih =>
      refine List.forall_mem_cons.2 ⟨?_, ih⟩
      rintro _ ⟨⟩
      rfl

theorem le_text_place {n : Nat} {bs : List Block} :
    ∀ p ∈ place n bs, ∀ bytes ∈ p.atom.bytes?, n ≤ bytes.1 := by
  induction bs generalizing n with
  | nil => nofun
  | cons block bs ih =>
      cases block with
      | text cs =>
          refine List.forall_mem_append.2 ⟨fun p hp bytes hb => ?_, fun p hp bytes hb => ?_⟩
          · exact (text_placeRuns p hp bytes hb).ge
          · exact Nat.le_of_succ_le (ih p hp bytes hb)
      | mark | content => exact List.forall_mem_cons.2 ⟨nofun, ih⟩

theorem lostIn_eq_nil {n : Nat} {js : List (Placed × Bool)}
    (h : ∀ p ∈ js.map Prod.fst, ∀ bytes ∈ p.atom.bytes?, bytes.1 ≠ n) : lostIn n js = [] := by
  rw [lostIn, List.map_eq_nil_iff, List.filter_eq_nil_iff]
  intro bytes hb
  obtain ⟨⟨p, keep⟩, hj, he⟩ := List.mem_filterMap.1 hb
  cases keep with
  | true => cases he
  | false => simpa using h p (List.mem_map.2 ⟨_, hj, rfl⟩) bytes he

/-- The cuts that the verdicts lead to are made where the verdicts are followed. -/
theorem follows_judged {cuts : List (List Span)} {n : Nat} {bs : List Block}
    {js : List (Placed × Bool)} (h : js.map Prod.fst = place n bs)
    (hc : ∀ i, n ≤ i → i < n + textCount bs → cuts[i]? = some (lostIn i js)) :
    Follows cuts n bs (js.flatMap verdicts) := by
  induction bs generalizing n js with
  | nil => trivial
  | cons block bs ih =>
      cases block with
      | text cs =>
          obtain ⟨here, behind, rfl, hh, hb⟩ := List.map_eq_append_iff.1 h
          have count : textCount (.text cs :: bs) = textCount bs + 1 := List.countP_cons_of_pos rfl
          have own := @text_placeRuns n 0 (runs cs)
          have others := @le_text_place (n + 1) bs
          rw [← hh] at own
          rw [← hb] at others
          have first : cuts[n]? = some (lostIn n here) := by
            have none : lostIn n behind = [] := lostIn_eq_nil fun p hp bytes hb =>
              Nat.ne_of_gt (others p hp bytes hb)
            rw [hc n (Nat.le_refl n) (by omega), lostIn_append, none, List.append_nil]
          obtain ⟨removed, left⟩ := removeRanges?_lostIn [] [] (behind.flatMap verdicts) hh
          rw [flatMap_runs] at removed left
          rw [List.flatMap_append]
          refine ⟨⟨_, first, removed⟩, ?_⟩
          rw [left]
          refine ih hb fun i hi hl => ?_
          have none : lostIn i here = [] := lostIn_eq_nil fun p hp bytes hb => by
            have := own p hp bytes hb
            omega
          rw [hc i (by omega) (by omega), lostIn_append, none, List.nil_append]
      | mark kind =>
          obtain ⟨⟨p, keep⟩, js, rfl, rfl, hjs⟩ := List.map_eq_cons_iff.1 h
          have none : verdicts (⟨.mark kind, [.ofMark kind]⟩, keep) = [] := by cases kind <;> rfl
          rw [List.flatMap_cons, none, List.nil_append]
          exact ih hjs fun i hi hl => (hc i hi hl).trans (by cases keep <;> rfl)
      | content =>
          obtain ⟨⟨p, keep⟩, js, rfl, rfl, hjs⟩ := List.map_eq_cons_iff.1 h
          have none : verdicts (⟨.content, [.content]⟩, keep) = [] := rfl
          rw [List.flatMap_cons, none, List.nil_append]
          exact ih hjs fun i hi hl => (hc i hi hl).trans (by cases keep <;> rfl)

/-- Editing gives what the verdicts leave, and counts the texts: what stands behind goes on with the
number and the verdicts that are left. -/
def Edits {α : Type} (cuts : List (List Span)) (n : Nat) (kept : List Bool) (bs : List Block)
    (edited : Option (α × Nat)) (left : α × List Bool) : Prop :=
  ∀ rest, Follows cuts n (bs ++ rest) kept →
    edited = some (left.1, n + textCount bs) ∧ Follows cuts (n + textCount bs) rest left.2

namespace Edits

variable {α β : Type} {cuts : List (List Span)} {n : Nat} {kept : List Bool}

theorem nil (a : α) : Edits cuts n kept [] (some (a, n)) (a, kept) := fun _ h => ⟨rfl, h⟩

theorem mark (kind : MarkKind) {edited : Option (α × Nat)} {a : α × List Bool} {bs : List Block}
    (h : Edits cuts n kept bs edited a) : Edits cuts n kept (.mark kind :: bs) edited a := h

/-- What follows goes on behind the texts of the first part. -/
theorem bind {edited : Option (α × Nat)} {a : α × List Bool} {as bs : List Block}
    (ha : Edits cuts n kept as edited a) {more : α × Nat → Option (β × Nat)} {b : β × List Bool}
    (hb : ∀ m, Edits cuts m a.2 bs (more (a.1, m)) b) :
    Edits cuts n kept (as ++ bs) (edited >>= more) b := by
  intro rest h
  rw [List.append_assoc] at h
  obtain ⟨rfl, h⟩ := ha _ h
  rw [textCount_append, ← Nat.add_assoc]
  exact hb _ rest h

end Edits

mutual

theorem Segment.edits (cuts : List (List Span)) : (s : Segment) → (n : Nat) → (kept : List Bool) →
    Edits cuts n kept s.blocks (s.edit? cuts n) (s.keep kept)
  | .text content span, n, kept => by
      rintro rest ⟨⟨ranges, hr, removed⟩, left⟩
      refine ⟨?_, left⟩
      rw [Segment.edit?, Option.mem_def.1 hr]
      cases ranges with
      | nil =>
          rw [removeRanges?, Text.dropBytes?] at removed
          simp [Segment.keep, ← Option.some.inj removed, Segment.blocks, textCount, Block.isText]
      | cons range ranges =>
          dsimp only
          rw [removed]
          rfl
  | .unparsed .., n, kept | .reference .., n, kept | .formal .., n, kept => fun _ h => ⟨rfl, h⟩
  | .conditional first rest otherwise close span, n, kept => by
      rw [Segment.edit?]
      refine (Arm.edits cuts first n kept).bind fun n => ?_
      refine (edits_arms cuts rest n _).bind fun n => ?_
      exact (edits_fallback cuts otherwise n _).bind fun n => .mark .block (.nil _)
  | .loop header item iterable body otherwise close span, n, kept => by
      rw [Segment.edit?]
      refine .mark .block ((edits_segments cuts body n kept).bind fun n => ?_)
      exact (edits_fallback cuts otherwise n _).bind fun n => .mark .block (.nil _)
  | .define header name parameters body close span, n, kept => by
      rw [Segment.edit?]
      exact .mark .block ((edits_segments cuts body n kept).bind fun n => .mark .block (.nil _))
  | .assign .., n, kept | .leave .., n, kept | .stop .., n, kept | .macroCall .., n, kept
  | .evaluate .., n, kept | .parse .., n, kept | .embed .., n, kept => fun _ h => ⟨rfl, h⟩

theorem Arm.edits (cuts : List (List Span)) : (a : Arm) → (n : Nat) → (kept : List Bool) →
    Edits cuts n kept a.blocks (a.edit? cuts n) (a.keep kept)
  | .mk header condition body, n, kept => by
      rw [Arm.edit?, ← List.append_nil (Arm.blocks _)]
      exact .mark .block ((edits_segments cuts body n kept).bind fun n => .nil _)

theorem edits_arms (cuts : List (List Span)) : (arms : List Arm) → (n : Nat) →
    (kept : List Bool) →
    Edits cuts n kept (armBlocks arms) (editArms? cuts n arms) (keepArms arms kept)
  | [], n, kept => .nil []
  | arm :: arms, n, kept => by
      rw [editArms?, ← List.append_nil (armBlocks _), armBlocks, List.append_assoc]
      refine (Arm.edits cuts arm n kept).bind fun n => ?_
      exact (edits_arms cuts arms n _).bind fun n => .nil _

theorem edits_fallback (cuts : List (List Span)) : (f : Option Fallback) → (n : Nat) →
    (kept : List Bool) →
    Edits cuts n kept (fallbackBlocks f) (editFallback? cuts n f) (keepFallback f kept)
  | none, n, kept => .nil none
  | some (.mk header body), n, kept => by
      rw [editFallback?, ← List.append_nil (fallbackBlocks _)]
      exact .mark .block ((edits_segments cuts body n kept).bind fun n => .nil _)

theorem edits_segments (cuts : List (List Span)) : (segments : List Segment) → (n : Nat) →
    (kept : List Bool) →
    Edits cuts n kept (segmentBlocks segments) (editSegments? cuts n segments)
      (keepSegments segments kept)
  | [], n, kept => .nil []
  | segment :: segments, n, kept => by
      rw [editSegments?, ← List.append_nil (segmentBlocks _), segmentBlocks, List.append_assoc]
      refine (Segment.edits cuts segment n kept).bind fun n => ?_
      exact (edits_segments cuts segments n _).bind fun n => .nil _

end

/-- The cuts are noted in the order in which they come, each at its text. -/
theorem exists_cuts {ranges : List (Nat × Span)} {cuts : List (List Span)}
    (h : ∀ bytes ∈ ranges, bytes.1 < cuts.length) :
    ∃ noted, ranges.foldlM cut? cuts = some noted ∧
      ∀ i, noted[i]? = cuts[i]?.map (· ++ (ranges.filter (·.1 == i)).map Prod.snd) := by
  induction ranges generalizing cuts with
  | nil => exact ⟨cuts, rfl, fun i => by simp⟩
  | cons bytes ranges ih =>
      obtain ⟨inside, others⟩ := List.forall_mem_cons.1 h
      have next : cut? cuts bytes = some (cuts.modify bytes.1 (· ++ [bytes.2])) := if_pos inside
      have later : ∀ more ∈ ranges, more.1 < (cuts.modify bytes.1 (· ++ [bytes.2])).length := by
        simpa using others
      obtain ⟨noted, made, each⟩ := ih later
      refine ⟨noted, ?_, fun i => ?_⟩
      · rw [List.foldlM_cons, next]
        exact made
      · rw [each, List.getElem?_modify, List.filter_cons]
        by_cases hi : bytes.1 = i
        · cases cuts[i]? <;> simp [hi]
        · simp [hi]

theorem text_lt_place {n : Nat} {bs : List Block} :
    ∀ p ∈ place n bs, ∀ bytes ∈ p.atom.bytes?, bytes.1 < n + textCount bs := by
  induction bs generalizing n with
  | nil => nofun
  | cons block bs ih =>
      cases block with
      | text cs =>
          have count : textCount (.text cs :: bs) = textCount bs + 1 := List.countP_cons_of_pos rfl
          refine List.forall_mem_append.2 ⟨fun p hp bytes hb => ?_, fun p hp bytes hb => ?_⟩
          · have := text_placeRuns p hp bytes hb
            omega
          · have := ih p hp bytes hb
            omega
      | mark | content => exact List.forall_mem_cons.2 ⟨nofun, ih⟩

/-- Both walks, between them the cuts of all lines. -/
theorem edit_cuts (mode : Gobbling) (segments : List Segment) :
    ∃ cuts, ((cutAfter Atom.isNewline (segmentAtoms 0 segments).1).flatMap
        (suppressed mode)).foldlM cut? (List.replicate (segmentAtoms 0 segments).2 []) = some cuts ∧
      ∃ n, editSegments? cuts 0 segments =
        some ((keepSegments segments (keptChars mode (segmentItems segments))).1, n) := by
  obtain ⟨bs, hbs⟩ : ∃ bs, bs = segmentBlocks segments := ⟨_, rfl⟩
  have fits := fits_place 0 bs
  have walk := walked_segments segments 0
  have items := flatMap_items_place 0 bs
  rw [hbs, items_segmentBlocks, ← hbs] at items
  rw [← items, keptChars_judged fits, walk, ← hbs, Nat.zero_add, suppressed_judged fits]
  obtain ⟨js, hjs⟩ : ∃ js, js = judged mode (place 0 bs) := ⟨_, rfl⟩
  have whole : js.map Prod.fst = place 0 bs := hjs ▸ map_fst_judged mode _
  rw [← hjs]
  have inside : ∀ bytes ∈ js.filterMap lost,
      bytes.1 < (List.replicate (textCount bs) ([] : List Span)).length := by
    intro bytes hb
    obtain ⟨⟨p, keep⟩, hj, he⟩ := List.mem_filterMap.1 hb
    have hp : p ∈ place 0 bs := whole ▸ List.mem_map.2 ⟨_, hj, rfl⟩
    rw [List.length_replicate, ← Nat.zero_add (textCount bs)]
    cases keep with
    | true => cases he
    | false => exact text_lt_place p hp bytes he
  obtain ⟨cuts, made, each⟩ := exists_cuts inside
  have follows : Follows cuts 0 bs (js.flatMap verdicts) := by
    refine follows_judged whole fun i _ hi => ?_
    rw [each, List.getElem?_replicate, if_pos (by omega)]
    rfl
  rw [← List.append_nil bs, hbs] at follows
  exact ⟨cuts, made, _, (edits_segments cuts segments 0 _ [] follows).1⟩

/-- No cut fails, and what the second walk leaves is what the verdicts on the characters leave. -/
theorem gobble?_eq (mode : Gobbling) (segments : List Segment) :
    gobble? mode segments = some (gobbleChars mode segments) := by
  cases mode with
  | none => rfl
  | bc | lines | structured =>
      obtain ⟨cuts, made, n, edited⟩ := edit_cuts _ segments
      simp only [gobble?, gobbleChars]
      rw [made, Option.bind_eq_bind, Option.bind_some, edited]
      rfl

theorem gobble_eq (mode : Gobbling) (segments : List Segment) :
    gobble mode segments = gobbleChars mode segments := by
  rw [gobble, gobble?_eq, Option.getD_some]

end Template.Markup

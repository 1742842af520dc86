import Template.Proofs.Tree.StringValue

/-!
The texts in the template of a string. A tree keeps the texts of its markup, each in as many bodies as
before. Only those that are in no body are freed of the quotes that stand for one; the others keep what
the source has.
-/

namespace Template

/-- A text, and how many bodies of a template it is in. -/
structure Run where
  depth : Nat
  text : String
deriving DecidableEq, Repr

namespace Run

/-- The runs of a body, as they are around it. -/
def inBody (runs : List Run) : List Run := runs.map fun run => { run with depth := run.depth + 1 }

end Run

namespace Markup

mutual

/-- The texts of a segment, in the order in which they are in the source. -/
def Segment.runs : Segment → List Run
  | .text content _ | .unparsed content _ => if content.isEmpty then [] else [⟨0, content⟩]
  | .conditional first rest otherwise _ _ =>
    Run.inBody (first.runs ++ (armRuns rest ++ fallbackRuns otherwise))
  | .loop _ _ _ body otherwise _ _ => Run.inBody (bodyRuns body ++ fallbackRuns otherwise)
  | .define _ _ _ body _ _ => Run.inBody (bodyRuns body)
  | .reference .. | .formal .. | .assign .. | .leave .. | .stop .. | .macroCall .. | .evaluate ..
  | .parse .. | .embed .. => []

def Arm.runs : Arm → List Run
  | .mk _ _ body => bodyRuns body

def armRuns : List Arm → List Run
  | [] => []
  | a :: rest => a.runs ++ armRuns rest

def fallbackRuns : Option Fallback → List Run
  | none => []
  | some (.mk _ body) => bodyRuns body

def bodyRuns : List Segment → List Run
  | [] => []
  | s :: rest => s.runs ++ bodyRuns rest

end

end Markup

namespace Tree

mutual

/-- The texts that a node prints as they are. -/
def Node.runs : Node → List Run
  | .text content _ => [⟨0, content⟩]
  | .conditional branches otherwise _ => Run.inBody (branchRuns branches ++ otherwiseRuns otherwise)
  | .loop _ _ body otherwise _ => Run.inBody (nodeRuns body ++ otherwiseRuns otherwise)
  | .define _ _ body _ => Run.inBody (nodeRuns body)
  | .interpolation .. | .assign .. | .leave .. | .stop .. | .macroCall .. | .evaluate ..
  | .parse .. | .embed .. => []

def branchRuns : List Branch → List Run
  | [] => []
  | .mk _ body :: rest => nodeRuns body ++ branchRuns rest

def otherwiseRuns : Option (List Node) → List Run
  | none => []
  | some body => nodeRuns body

def nodeRuns : List Node → List Run
  | [] => []
  | n :: rest => n.runs ++ nodeRuns rest

end

theorem nodeRuns_append (ms ns : List Node) : nodeRuns (ms ++ ns) = nodeRuns ms ++ nodeRuns ns := by
  induction ms with
  | nil => rfl
  | cons m ms ih => simp only [List.cons_append, nodeRuns, ih, List.append_assoc]

namespace Builder

open Markup

variable (b : Builder)

mutual

/-- The nodes of a segment have its texts. -/
theorem runs_segment : (s : Segment) → nodeRuns (b.segment s) = s.runs
  | .text content span | .unparsed content span => by
      simp only [segment, textNode, Segment.runs]
      split <;> rfl
  | .conditional (.mk _ _ body) rest otherwise _ _ => by
      simp only [segment, arm, nodeRuns, Node.runs, branchRuns, Segment.runs, Arm.runs,
        runs_segments body, runs_arms rest, runs_fallback otherwise, List.append_nil,
        List.append_assoc]
  | .loop _ _ _ body otherwise _ _ => by
      simp only [segment, nodeRuns, Node.runs, Segment.runs, runs_segments body,
        runs_fallback otherwise, List.append_nil]
  | .define _ _ _ body _ _ => by
      simp only [segment, nodeRuns, Node.runs, Segment.runs, runs_segments body, List.append_nil]
  | .reference .. | .formal .. | .assign .. | .leave .. | .stop .. | .macroCall .. | .evaluate ..
  | .parse .. | .embed .. => rfl

theorem runs_arms : (rest : List Arm) → branchRuns (b.arms rest) = armRuns rest
  | [] => rfl
  | .mk _ _ body :: rest => by
      simp only [arms, arm, branchRuns, armRuns, Arm.runs, runs_segments body, runs_arms rest]

theorem runs_fallback : (otherwise : Option Fallback) →
    otherwiseRuns (b.fallback otherwise) = fallbackRuns otherwise
  | none => rfl
  | some (.mk _ body) => runs_segments body

theorem runs_segments : (body : List Segment) → nodeRuns (b.segments body) = bodyRuns body
  | [] => rfl
  | s :: rest => by
      rw [segments, nodeRuns_append, runs_segment s, runs_segments rest, bodyRuns]

end

end Builder

end Tree

namespace Run

/-- The text with each quote that is doubled or behind a backslash as one quote. -/
def unquoted (run : Run) : Run :=
  { run with text := String.ofList (Tree.unquote '"' run.text.toList) }

/-- The text is in no body. -/
def atTop (run : Run) : Bool := run.depth == 0

def unquotedAtTop (run : Run) : Run := if run.atTop then run.unquoted else run

theorem unquotedAtTop_inBody (runs : List Run) :
    (inBody runs).map unquotedAtTop = inBody runs := by
  simp [inBody, unquotedAtTop, atTop]

end Run

namespace Tree

open Run (unquotedAtTop unquotedAtTop_inBody)

theorem runs_unquoteText (n : Node) : (unquoteText n).runs = n.runs.map unquotedAtTop := by
  cases n with
  | text content place => rfl
  | conditional | loop | define =>
      rw [unquoteText, Node.runs, unquotedAtTop_inBody]
      nofun
  | _ => rfl

theorem nodeRuns_unquoteText (ns : List Node) :
    nodeRuns (ns.map unquoteText) = (nodeRuns ns).map unquotedAtTop := by
  induction ns with
  | nil => rfl
  | cons n ns ih => rw [List.map_cons, nodeRuns, nodeRuns, List.map_append, ih, runs_unquoteText]

theorem length_unquote_le (quote : Char) (cs : List Char) :
    (unquote quote cs).length ≤ cs.length := by
  fun_induction unquote quote cs with
  | case1 c d cs h ih => simp only [List.length_cons]; omega
  | case2 c d cs h ih => simp only [List.length_cons] at ih ⊢; omega
  | case3 cs => exact Nat.le_refl _

/-- A text stays as it is if there is no quote in it that is doubled or behind a backslash. -/
theorem unquote_eq_self_iff (quote : Char) (cs : List Char) :
    unquote quote cs = cs ↔ ¬[quote, quote] <:+: cs ∧ ¬['\\', quote] <:+: cs := by
  fun_induction unquote quote cs with
  | case1 c d cs h ih =>
      have shorter := length_unquote_le quote cs
      obtain ⟨hc, rfl⟩ : (c = '\\' ∨ c = quote) ∧ d = quote := by simpa using h
      refine iff_of_false (fun he => ?_) fun absent => ?_
      · have := congrArg List.length he
        simp only [List.length_cons] at this
        omega
      · rcases hc with rfl | rfl
        · exact absent.2 (List.infix_cons_iff.2 (.inl (by simp [List.cons_prefix_cons])))
        · exact absent.1 (List.infix_cons_iff.2 (.inl (by simp [List.cons_prefix_cons])))
  | case2 c d cs h ih =>
      have apart : ¬((c = '\\' ∨ c = quote) ∧ d = quote) := by simpa using h
      have behind (e : Char) (he : e = '\\' ∨ e = quote) :
          [e, quote] <:+: c :: d :: cs ↔ [e, quote] <:+: d :: cs := by
        refine List.infix_cons_iff.trans (or_iff_right ?_)
        simp only [List.cons_prefix_cons]
        rintro ⟨rfl, rfl, -⟩
        exact apart ⟨he, rfl⟩
      rw [behind quote (.inr rfl), behind '\\' (.inl rfl), ← ih, List.cons.injEq,
        and_iff_right rfl]
  | case3 cs h =>
      have short : cs.length < 2 := by
        match cs with
        | [] | [_] => simp
        | c :: d :: cs => exact absurd rfl (h c d cs)
      have absent (e : Char) : ¬[e, quote] <:+: cs := fun he => by
        have := he.length_le
        simp only [List.length_cons, List.length_nil] at this
        omega
      exact iff_of_true rfl ⟨absent quote, absent '\\'⟩

/-- Nothing is missing in a text that is at the top, or has no quotes that stand for one. -/
theorem unquotedAtTop_eq_unquoted_iff (run : Run) : run.unquotedAtTop = run.unquoted ↔
    (¬run.atTop → ¬['"', '"'] <:+: run.text.toList ∧ ¬['\\', '"'] <:+: run.text.toList) := by
  unfold unquotedAtTop
  by_cases top : run.atTop
  · simp [top]
  · have same : run = run.unquoted ↔ unquote '"' run.text.toList = run.text.toList := by
      rw [← String.ofList_inj, String.ofList_toList, eq_comm]
      cases run
      simp [Run.unquoted]
    rw [if_neg top, same, unquote_eq_self_iff]
    exact ⟨fun h _ => h, fun h => h top⟩

/-- What a string literal in double quotes holds if it is a template: the texts of its body, each
freed of its quotes if it is in no body of the template, and else as it is in the source. So each text
has quotes for what stands for one just if no text in a body has any. The builder is that of a source,
or of the template of a string in it, at any level. -/
theorem interpolated_runs {b : Builder} {source : List Char} {lines : LineTable}
    {levels limit : Nat} (hb : b.template = stringTemplate source lines levels limit) {raw : String}
    {s : Span} {nodes : List Node} {place : Region}
    (h : b.literal (.str raw) s = .interpolated nodes place) :
    ∃ lexemes body, tokenize (String.ofList (splitQuotes raw).2) = .ok lexemes ∧
      Markup.parseSegments (String.ofList (splitQuotes raw).2) lexemes limit = .ok body ∧
      nodeRuns nodes = (Markup.bodyRuns body).map Run.unquotedAtTop ∧
      (nodeRuns nodes = (Markup.bodyRuns body).map Run.unquoted ↔
        ∀ run ∈ Markup.bodyRuns body, ¬run.atTop →
          ¬['"', '"'] <:+: run.text.toList ∧ ¬['\\', '"'] <:+: run.text.toList) := by
  have found : b.template (splitQuotes raw).2 (b.offset + s.start + 1) = some nodes := by
    rcases b.literal_str rfl s with plain | ⟨-, -, nodes', found, template⟩
    · cases h.symm.trans plain
    · cases h.symm.trans template
      exact found
  rw [hb] at found
  cases levels with
  | zero => cases found
  | succ levels =>
      simp only [stringTemplate] at found
      split at found
      · cases found
      next lexemes read =>
        split at found
        · cases found
        next body parsed =>
          split at found
          · cases found
          · cases found
            have runs := fun b : Builder =>
              (nodeRuns_unquoteText (b.segments body)).trans (by rw [b.runs_segments])
            refine ⟨lexemes, body, read, parsed, runs _, ?_⟩
            rw [runs, List.map_inj_left]
            exact forall₂_congr fun run _ => unquotedAtTop_eq_unquoted_iff run

/-- Doubled quotes at the top and in a branch of a string's template. -/
theorem interpolated_runs_branch :
    let raw := "\"\"\"$y#if(true)a\"\"b#end\""
    let b := builder ("#set($x = " ++ raw ++ ")") 64
    ∃ nodes place lexemes body, b.literal (.str raw) ⟨10, 33⟩ = .interpolated nodes place ∧
      tokenize (String.ofList (splitQuotes raw).2) = .ok lexemes ∧
      Markup.parseSegments (String.ofList (splitQuotes raw).2) lexemes 32 = .ok body ∧
      nodeRuns nodes = [⟨0, "\""⟩, ⟨1, "a\"\"b"⟩] ∧
      nodeRuns nodes ≠ (Markup.bodyRuns body).map Run.unquoted := by
  intro raw b
  have found : (match b.literal (.str raw) ⟨10, 33⟩ with
      | .interpolated nodes _ => some (nodeRuns nodes)
      | _ => none) = some [⟨0, "\""⟩, ⟨1, "a\"\"b"⟩] := by decide +kernel
  split at found
  next nodes place literal =>
    obtain ⟨lexemes, body, read, parsed, runs, whole⟩ :=
      interpolated_runs (show b.template = stringTemplate b.source b.lines 8 32 from rfl) literal
    have same := Option.some.inj found
    refine ⟨nodes, place, lexemes, body, literal, read, parsed, same, fun all => ?_⟩
    obtain ⟨run, hr, he⟩ : ∃ run ∈ Markup.bodyRuns body, run.unquotedAtTop = ⟨1, "a\"\"b"⟩ := by
      rw [← List.mem_map, ← runs, same]
      simp
    have deep : run.atTop = false := by
      have depth := congrArg Run.depth he
      unfold Run.unquotedAtTop Run.unquoted at depth
      split at depth <;> simp_all [Run.atTop]
    rw [Run.unquotedAtTop, deep] at he
    subst he
    exact (whole.1 all _ hr (by decide)).1 (by decide)
  next => cases found

end Tree

end Template

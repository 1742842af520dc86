import Mathlib.Data.List.Infix
import Template.Token.Lexer

/-!
A source cut into pieces: what a token is spelled with, and between them whole comments and blanks
that mean nothing where they stand. The pieces say which tokens there are and where.
-/

namespace Template

namespace Text

theorem byteLength_append (a b : List Char) :
    byteLength (a ++ b) = byteLength a + byteLength b := by
  induction a with
  | nil => simp [byteLength]
  | cons c a ih => simp only [List.cons_append, byteLength, ih, Nat.add_assoc]

theorem byteLength_pos {cs : List Char} (h : cs ≠ []) : 0 < byteLength cs := by
  obtain ⟨c, cs, rfl⟩ := List.exists_cons_of_ne_nil h
  have := c.utf8Size_pos
  simp only [byteLength]
  omega

/-- A first character takes some of the bytes, and leaves those of the others. -/
theorem byteLength_cons (c : Char) (cs : List Char) : ∃ n, byteLength (c :: cs) = n + 1 ∧
    c.utf8Size ≤ n + 1 ∧ n + 1 - c.utf8Size = byteLength cs := by
  obtain ⟨n, hn⟩ : ∃ n, byteLength (c :: cs) = n + 1 :=
    Nat.exists_eq_succ_of_ne_zero (byteLength_pos (List.cons_ne_nil c cs)).ne'
  refine ⟨n, hn, ?_⟩
  rw [← hn, byteLength]
  omega

theorem dropBytes?_append (a b : List Char) : dropBytes? (byteLength a) (a ++ b) = some b := by
  induction a with
  | nil => simp [byteLength, dropBytes?]
  | cons c a ih =>
      obtain ⟨n, hn, hl, hc⟩ := byteLength_cons c a
      rw [hn, List.cons_append, dropBytes?, if_pos hl, hc, ih]

theorem takeBytes?_append (a b : List Char) : takeBytes? (byteLength a) (a ++ b) = some a := by
  induction a with
  | nil => simp [byteLength, takeBytes?]
  | cons c a ih =>
      obtain ⟨n, hn, hl, hc⟩ := byteLength_cons c a
      rw [hn, List.cons_append, takeBytes?, if_pos hl, hc, ih]
      rfl

/-- The slice between two character boundaries. -/
theorem slice?_append (before cs after : List Char) :
    slice? (byteLength before) (byteLength before + byteLength cs) (before ++ (cs ++ after)) =
      some cs := by
  simp only [slice?]
  rw [if_pos (Nat.le_add_right _ _), dropBytes?_append, Option.bind_some, Nat.add_sub_cancel_left,
    takeBytes?_append]

end Text

namespace Lexer

inductive IsName : List Char → Prop where
  | mk {c : Char} {cs : List Char} (hc : isNameStart c) (hs : ∀ d ∈ cs, isNameChar d) :
      IsName (c :: cs)

/-- A word behind a hash sign, alone or in braces. -/
inductive Hashed (word : List Char) : List Char → Prop where
  | bare : Hashed word ('#' :: word)
  | braced : Hashed word ('#' :: '\x7b' :: (word ++ ['\x7d']))

end Lexer

/-- The characters spell the token, with all that the token holds. -/
inductive Token.Spelled : Token → List Char → Prop where
  | text {cs : List Char} (hn : cs ≠ []) : Spelled (.text (String.ofList cs)) cs
  | newline : Spelled .newline ['\n']
  /-- The block ends at the first place where it can. -/
  | unparsed {body : List Char} (h : ¬[']', ']', '#'] <:+: body ++ [']', ']']) :
      Spelled (.unparsed (String.ofList body)) ('#' :: '[' :: '[' :: (body ++ [']', ']', '#']))
  | escaped {k : Keyword} {word : List Char} (pairs : Nat) (h : Lexer.Hashed k.word.toList word) :
      Spelled (.escaped (String.ofList (List.replicate pairs '\\' ++ word)))
        (List.replicate (2 * pairs + 1) '\\' ++ word)
  | directive {k : Keyword} {cs : List Char} (h : Lexer.Hashed k.word.toList cs) :
      Spelled (.directive k) cs
  | macroCall {name cs : List Char} (hn : Lexer.IsName name) (hk : Keyword.ofWord? name = none)
      (h : Lexer.Hashed name cs) : Spelled (.macroCall (String.ofList name)) cs
  | reference {name : List Char} (hn : Lexer.IsName name) :
      Spelled (.reference (String.ofList name) false) ('$' :: name)
  | quietReference {name : List Char} (hn : Lexer.IsName name) :
      Spelled (.reference (String.ofList name) true) ('$' :: '!' :: name)
  | formal : Spelled (.formal false) ['$', '\x7b']
  | quietFormal : Spelled (.formal true) ['$', '!', '\x7b']
  | ident {name : List Char} (hn : Lexer.IsName name) : Spelled (.ident (String.ofList name)) name
  | str {quote : Char} {inner : List Char} (hq : quote = '"' ∨ quote = '\'') :
      Spelled (.str (String.ofList (quote :: (inner ++ [quote])))) (quote :: (inner ++ [quote]))
  | number {c : Char} {cs : List Char} (hc : c.isDigit) :
      Spelled (.number (String.ofList (c :: cs))) (c :: cs)
  | reserved (w : ReservedWord) : Spelled (.reserved w) w.word.toList
  | symbol (s : Symbol) : Spelled (.symbol s) s.text.toList
  | wordSymbol {word : String} {s : Symbol} (h : Symbol.ofWord? word = some s) :
      Spelled (.symbol s) word.toList

namespace Lexer

/-- A whole comment. A block ends at the first place where it can. -/
inductive Comment : List Char → Prop where
  | line {content : List Char} (h : '\n' ∉ content) : Comment ('#' :: '#' :: (content ++ ['\n']))
  | block {body : List Char} (h : ¬['*', '#'] <:+: body ++ ['*']) :
      Comment ('#' :: '*' :: (body ++ ['*', '#']))

inductive Piece where
  | token (t : Token) (cs : List Char)
  | comment (cs : List Char)
  | blanks (cs : List Char)

namespace Piece

def chars : Piece → List Char
  | token _ cs | comment cs | blanks cs => cs

end Piece

/-- Where a piece stands. -/
inductive Place where
  /-- Inside `depth` open brackets of code; in text there are none. -/
  | within (depth : Nat)
  /-- Right behind a directive word that takes arguments. -/
  | directive

namespace Place

def depth : Place → Nat
  | within depth => depth
  | directive => 0

/-- The place behind a token. Nothing that begins with a hash sign stands in code, so it leaves all
brackets that are open, as text does. -/
def after (p : Place) : Token → Place
  | .text _ | .newline | .unparsed _ | .escaped _ | .macroCall _ => within 0
  | .directive k => if k.takesArguments then directive else within 0
  | .formal _ | .symbol .openParen | .symbol .openBracket | .symbol .openBrace =>
    within (p.depth + 1)
  | .symbol .closeParen | .symbol .closeBracket | .symbol .closeBrace => within (p.depth - 1)
  | _ => within p.depth

end Place

/-- The pieces may stand one behind the other, from the place on. -/
inductive Laid : Place → List Piece → Prop where
  | nil {p : Place} : Laid p []
  | token {p : Place} {t : Token} {cs : List Char} {more : List Piece} (hs : t.Spelled cs)
      (h : Laid (p.after t) more) : Laid p (.token t cs :: more)
  | comment {p : Place} {cs : List Char} {more : List Piece} (hc : Comment cs)
      (h : Laid (.within 0) more) : Laid p (.comment cs :: more)
  /-- The end of the source ends the last line. -/
  | lastComment {p : Place} {content : List Char} (h : '\n' ∉ content) :
      Laid p [.comment ('#' :: '#' :: content)]
  | blanks {depth : Nat} {cs : List Char} {more : List Piece}
      (hb : ∀ c ∈ cs, Text.isCodeBlank c) (h : Laid (.within (depth + 1)) more) :
      Laid (.within (depth + 1)) (.blanks cs :: more)
  /-- Between a directive word and its parenthesis. -/
  | gap {cs : List Char} {more : List Piece} (hb : ∀ c ∈ cs, Text.isBlank c)
      (h : Laid (.within 1) more) :
      Laid .directive (.blanks cs :: .token (.symbol .openParen) ['('] :: more)

def allChars (pieces : List Piece) : List Char := pieces.flatMap Piece.chars

/-- The tokens among the pieces, with the bytes they cover when the first piece starts at
`offset`. -/
def lexemesFrom : Nat → List Piece → List Lexeme
  | _, [] => []
  | offset, .token t cs :: more =>
    (t, ⟨offset, offset + Text.byteLength cs⟩) :: lexemesFrom (offset + Text.byteLength cs) more
  | offset, .comment cs :: more | offset, .blanks cs :: more =>
    lexemesFrom (offset + Text.byteLength cs) more

end Lexer

theorem Token.Spelled.ne_nil {t : Token} {cs : List Char} (h : t.Spelled cs) : cs ≠ [] := by
  cases h with
  | text hn => exact hn
  | directive h => cases h <;> simp
  | macroCall _ _ h => cases h <;> simp
  | ident hn => cases hn; simp
  | reserved w => cases w <;> decide
  | symbol s => cases s <;> decide
  | wordSymbol h =>
      rintro he
      rw [String.toList_eq_nil_iff.1 he] at h
      cases h
  | escaped pairs => simp [List.replicate_succ]
  | newline | unparsed | reference | quietReference | formal | quietFormal | str | number => simp

namespace Lexer

/-- Every token comes from a piece, and covers it. -/
theorem exists_of_mem_lexemesFrom {offset : Nat} {pieces : List Piece} {l : Lexeme}
    (h : l ∈ lexemesFrom offset pieces) : ∃ before t cs after,
      pieces = before ++ .token t cs :: after ∧
        l = (t, ⟨offset + Text.byteLength (allChars before),
          offset + Text.byteLength (allChars before) + Text.byteLength cs⟩) := by
  induction pieces generalizing offset with
  | nil => cases h
  | cons piece pieces ih =>
      have later {offset' : Nat} (ho : offset' = offset + Text.byteLength piece.chars)
          (h : l ∈ lexemesFrom offset' pieces) : ∃ before t cs after,
          piece :: pieces = before ++ .token t cs :: after ∧
            l = (t, ⟨offset + Text.byteLength (allChars before),
              offset + Text.byteLength (allChars before) + Text.byteLength cs⟩) := by
        obtain ⟨before, t, cs, after, rfl, rfl⟩ := ih h
        refine ⟨piece :: before, t, cs, after, rfl, ?_⟩
        simp only [ho, allChars, List.flatMap_cons, Text.byteLength_append, Nat.add_assoc]
      cases piece with
      | token t cs =>
          rcases List.mem_cons.1 h with rfl | h
          · exact ⟨[], t, cs, pieces, rfl, rfl⟩
          · exact later rfl h
      | comment cs | blanks cs => exact later rfl h

theorem start_of_mem_lexemesFrom {offset : Nat} {pieces : List Piece} {l : Lexeme}
    (h : l ∈ lexemesFrom offset pieces) : offset ≤ l.2.start := by
  obtain ⟨before, t, cs, after, -, rfl⟩ := exists_of_mem_lexemesFrom h
  exact Nat.le_add_right ..

theorem lexemesFrom_ascend (offset : Nat) (pieces : List Piece) :
    (lexemesFrom offset pieces).Pairwise fun a b => a.2.stop ≤ b.2.start := by
  induction pieces generalizing offset with
  | nil => exact .nil
  | cons piece pieces ih =>
      cases piece with
      | token t cs => exact .cons (fun l hl => start_of_mem_lexemesFrom hl) (ih _)
      | comment cs | blanks cs => exact ih _

/-- The tokens are where the source spells them. -/
theorem slice?_of_mem {pieces : List Piece} {l : Lexeme} (h : l ∈ lexemesFrom 0 pieces) :
    ∃ cs, .token l.1 cs ∈ pieces ∧
      Text.slice? l.2.start l.2.stop (allChars pieces) = some cs := by
  obtain ⟨before, t, cs, after, rfl, rfl⟩ := exists_of_mem_lexemesFrom h
  refine ⟨cs, by simp, ?_⟩
  simp only [Nat.zero_add, allChars, List.flatMap_append, List.flatMap_cons, Piece.chars]
  exact Text.slice?_append _ cs _

theorem stop_of_mem {pieces : List Piece} {l : Lexeme} (h : l ∈ lexemesFrom 0 pieces) :
    l.2.stop ≤ Text.byteLength (allChars pieces) := by
  obtain ⟨before, t, cs, after, rfl, rfl⟩ := exists_of_mem_lexemesFrom h
  simp only [allChars, List.flatMap_append, List.flatMap_cons, Piece.chars, Text.byteLength_append]
  omega

theorem Laid.spelled {p : Place} {pieces : List Piece} (h : Laid p pieces) {t : Token}
    {cs : List Char} (ht : .token t cs ∈ pieces) : t.Spelled cs := by
  induction h with
  | nil => cases ht
  | token hs _ ih =>
      rcases List.mem_cons.1 ht with he | ht
      · cases he
        exact hs
      · exact ih ht
  | comment _ _ ih | blanks _ _ ih => exact ih ((List.mem_cons.1 ht).resolve_left nofun)
  | lastComment => exact absurd ht (by simp)
  | gap _ _ ih =>
      rcases List.mem_cons.1 ((List.mem_cons.1 ht).resolve_left nofun) with he | ht
      · cases he
        exact .symbol .openParen
      · exact ih ht

end Lexer

end Template

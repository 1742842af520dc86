/-!
Places in a source text. Offsets count bytes; lines and columns count from zero, columns in bytes.
-/

namespace Template

/-- The bytes from `start` up to, but not including, `stop`. -/
structure Span where
  start : Nat
  stop : Nat
deriving DecidableEq, Repr, Inhabited

structure Position where
  line : Nat
  column : Nat
deriving DecidableEq, Repr, Inhabited

/-- A span with the positions of its two ends. -/
structure Region where
  span : Span
  first : Position
  last : Position
deriving DecidableEq, Repr, Inhabited

namespace Span

def shift (s : Span) (by_ : Nat) : Span := ⟨s.start + by_, s.stop + by_⟩

end Span

namespace Position

def toString (p : Position) : String := s!"{p.line}:{p.column}"

/-- Earlier line, or earlier column of the same line. -/
def before (p q : Position) : Bool :=
  p.line < q.line || (p.line == q.line && p.column < q.column)

/-- The order of two positions in the text. -/
def order (p q : Position) : Ordering :=
  if p.before q then .lt else if q.before p then .gt else .eq

end Position

namespace Region

/-- The smallest region that covers both. -/
def cover (a b : Region) : Region :=
  let (first, start) :=
    if b.first.before a.first then (b.first, b.span.start) else (a.first, a.span.start)
  let (last, stop) :=
    if a.last.before b.last then (b.last, b.span.stop) else (a.last, a.span.stop)
  ⟨⟨start, stop⟩, first, last⟩

def toString (r : Region) : String := s!"{r.first.toString}..{r.last.toString}"

end Region

end Template

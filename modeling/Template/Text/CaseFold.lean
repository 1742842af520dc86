import Template.Text.Case
import Template.Text.CharSet

/-!
Sets of characters without regard to case: a set is closed when it holds all characters that fold
to the same one.
-/

namespace Template.CharSet

/-- Code points that fold to another one, with that other one. -/
def foldPairs : List (Nat × Nat) :=
  let codes := (Text.lowerShifts ++ Text.foldShifts).flatMap (·.range.codes)
  (codes.map fun n => (n, (Text.foldChar (Char.ofNat n)).toNat)).filter fun (n, m) => n != m

def holdsCode (s : CharSet) (code : Nat) : Bool := walk code false s.edges

/-- The characters that differ from one of the set in case at most. -/
def anyCase (s : CharSet) : CharSet :=
  let folded := s.union (ofCodes (foldPairs.filterMap fun (n, m) =>
    if s.holdsCode n then some m else none))
  folded.union (ofCodes (foldPairs.filterMap fun (n, m) =>
    if folded.holdsCode m then some n else none))

/-- The same for the letters `A` to `Z` only. -/
def anyAsciiCase (s : CharSet) : CharSet :=
  let moved (first target : Nat) : CharSet :=
    ofCodes ((List.range 26).filterMap fun n =>
      if s.holdsCode (first + n) then some (target + n) else none)
  (s.union (moved 65 97)).union (moved 97 65)

end Template.CharSet

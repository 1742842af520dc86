import Template.Source.Bytes
import Template.Text.Blank

/-!
Finding and replacing one text inside another. A search goes through the bytes; the place that it
answers is counted in characters.
-/

namespace Template.Text

/-- Where `needle` first starts in the list. -/
def firstStart? {α : Type} [BEq α] (needle : List α) : List α → Option Nat
  | [] => if needle.isEmpty then some 0 else none
  | x :: xs => if needle.isPrefixOf (x :: xs) then some 0 else (firstStart? needle xs).map (· + 1)

/-- Where `needle` last starts in the list. -/
def lastStart? {α : Type} [BEq α] (needle : List α) : List α → Option Nat
  | [] => if needle.isEmpty then some 0 else none
  | x :: xs =>
    match lastStart? needle xs with
    | some n => some (n + 1)
    | none => if needle.isPrefixOf (x :: xs) then some 0 else none

/-- The characters in UTF-8. -/
def bytes (cs : List Char) : List UInt8 := cs.flatMap String.utf8EncodeChar

/-- The number of characters in front of a byte, if a character starts there. -/
def charIndex? (cs : List Char) (byte : Nat) : Option Nat := (takeBytes? byte cs).map List.length

/-- The number of characters in front of the first place where `needle` starts. -/
def indexOf? (needle cs : List Char) : Option Nat :=
  (firstStart? (bytes needle) (bytes cs)).bind (charIndex? cs)

/-- The number of characters in front of the last place where `needle` starts. -/
def lastIndexOf? (needle cs : List Char) : Option Nat :=
  (lastStart? (bytes needle) (bytes cs)).bind (charIndex? cs)

def contains (needle cs : List Char) : Bool := (firstStart? (bytes needle) (bytes cs)).isSome

/-- Replaces a text, which is not empty, wherever it starts outside the one replaced before.
`skip` characters belong to the latter. -/
def replaceText (needle replacement : List Char) (skip : Nat) : List Char → List Char
  | [] => []
  | c :: cs =>
    match skip with
    | n + 1 => replaceText needle replacement n cs
    | 0 =>
      if needle.isPrefixOf (c :: cs) then
        replacement ++ replaceText needle replacement (needle.length - 1) cs
      else c :: replaceText needle replacement 0 cs

/-- Replaces one text by another. The empty text stands before every character and at the end. -/
def replace (needle replacement cs : List Char) : List Char :=
  if needle.isEmpty then cs.flatMap (fun c => replacement ++ [c]) ++ replacement
  else replaceText needle replacement 0 cs

end Template.Text

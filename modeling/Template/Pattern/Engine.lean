/-!
What the methods of texts need of patterns. Which texts are patterns and what these match is up to
an engine.
-/

namespace Template

/-- A pattern that is ready to be searched for in texts. -/
structure ReadyPattern where
  found : (text : List Char) → Bool
  /-- The pieces of a text between the matches. -/
  split : (text : List Char) → List (List Char)
  replaceAll : (text replacement : List Char) → List Char
  replaceFirst : (text replacement : List Char) → List Char

/-- An engine makes a pattern ready, if the text is one. -/
structure PatternEngine where
  ready? : String → Option ReadyPattern

end Template

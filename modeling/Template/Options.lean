import Template.Markup.Gobbling

/-!
The options of a template.
-/

namespace Template

structure Options where
  /-- What happens to the blanks of lines that hold directives only. -/
  gobbling : Gobbling
  /-- A loop ends without a word after so many passes. -/
  maxPasses : Nat
  /-- How deep calls of defined names can be nested. -/
  maxCallDepth : Nat
  /-- How deep templates can be nested that are parsed while another one is rendered. -/
  maxParseDepth : Nat
  /-- How deep blocks, brackets and ternaries can be nested in a source. -/
  maxNesting : Nat
  /-- The declared encoding of the sources. It changes nothing. -/
  encoding : String
  /-- Whether a later definition of a name replaces the first. -/
  allowRedefinition : Bool
  /-- Whether a resource that cannot be loaded leaves nothing, and not an error. -/
  tolerant : Bool
deriving DecidableEq, Repr

namespace Options

def standard : Options :=
  { gobbling := .lines
    maxPasses := 1000
    maxCallDepth := 20
    maxParseDepth := 10
    maxNesting := 64
    encoding := "UTF-8"
    allowRedefinition := false
    tolerant := false }

instance : Inhabited Options := ⟨standard⟩

end Options

end Template

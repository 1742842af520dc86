import Template.Text.Case

/-!
Names of accessors: how the name of a property and the names of the methods that read, test and
write it are made from one another.
-/

namespace Template.Accessor

/-- A word with a capital in front. -/
def capitalized (name : List Char) : List Char :=
  match name with
  | [] => []
  | c :: cs => Text.upperChar c ++ cs

def withLead (lead : String) (name : String) : String :=
  lead ++ String.ofList (capitalized name.toList)

def getter (name : String) : String := withLead "get" name

def setter (name : String) : String := withLead "set" name

def tester (name : String) : String := withLead "is" name

/-- The property that a reading method belongs to. -/
def property? (method : String) : Option String :=
  match method.toList with
  | 'g' :: 'e' :: 't' :: c :: cs =>
    if Text.isUppercase c then some (String.ofList (Text.lowerChar c ++ cs)) else none
  | _ => none

end Template.Accessor

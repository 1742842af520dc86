import Template.Number.Text
import Template.Text.Blank
import Template.Value.Basic

/-!
The text of a value, as templates print it, and its reading as a number. Printing follows lists and
maps down to their ends. One that contains itself has none, and a map cannot be read while it is
held for writing; both kill the program.
-/

namespace Template

/-- What kills a program in the middle of its work. -/
inductive Fault where
  /-- A map is read that is held for writing. -/
  | held (map : Address)
  /-- Lists and maps are followed down without end. -/
  | endless
deriving DecidableEq, Repr

namespace Value

/-- How many lists and maps are inside one another in a value, on the way down that has the most of
them. A way ends where it comes to one of `around`, which are those it has come through. -/
def nestingInside (s : Store) : (depth : Nat) → (around : List Address) → Value → Nat
  | 0, _, _ => 0
  | depth + 1, around, v =>
    match v.cell? with
    | none => 0
    | some a =>
      if a ∈ around then 0
      else ((s.contents a).map (nestingInside s depth (a :: around))).foldr max 0 + 1

def nesting (s : Store) (v : Value) : Nat := nestingInside s s.depthBound [] v

/-- The text of an object: the name of a host object, the iteration of a loop. -/
def objectText (hosts : Hosts) (s : Store) : ObjectId → String
  | .loop n => (s.loop n).describe
  | .host n => ((hosts.objects[n]?).map HostObject.name).getD ""

/-- The text of a value whose lists and maps are nested less than `depth` deep. -/
def textWithin (hosts : Hosts) (s : Store) : Nat → Value → String
  | _, null => ""
  | _, bool b => if b then "true" else "false"
  | _, number x => Number.printed x
  | _, text t => t
  | _, object id => objectText hosts s id
  | 0, _ => ""
  | depth + 1, list a =>
    "[" ++ ", ".intercalate ((s.items a).map (textWithin hosts s depth)) ++ "]"
  | depth + 1, map a =>
    "\x7b" ++ ", ".intercalate ((s.entries a).map fun (key, value) =>
      key ++ "=" ++ textWithin hosts s depth value) ++ "\x7d"

/-- The text of a value, if printing it comes to an end. -/
def display (hosts : Hosts) (s : Store) (v : Value) : String :=
  textWithin hosts s (v.nesting s) v

/-- What following a value down to all that is in it comes to, where one map may be held for
writing. What is nested deeper than `depth` is taken for endless. -/
def printFaultWithin (s : Store) (held : Option Address) : (depth : Nat) → Value → Option Fault
  | 0, v => v.cell?.map fun a => if held = some a then .held a else .endless
  | depth + 1, v =>
    match v.cell? with
    | none => none
    | some a =>
      if held = some a then some (.held a)
      else (s.contents a).findSome? (printFaultWithin s held depth)

/-- What kills the program while it prints a value, if anything does. -/
def printFault? (s : Store) (held : Option Address) (v : Value) : Option Fault :=
  printFaultWithin s held s.depthBound v

/-- Numbers are themselves, texts in decimal notation are read, true is one and false is zero.
Nothing else is a number. -/
def number? : Value → Option Float
  | number x => some x
  | text t => Number.ofText? (Text.trim t.toList)
  | bool b => some (if b then 1 else 0)
  | _ => none

/-- The whole part of a finite number, kept within 64 bits. -/
def index? (v : Value) : Option Int :=
  (v.number?.bind Number.toInt?).map Number.clampIndex

end Value

end Template

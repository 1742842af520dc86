import Template.Value.Basic

/-!
Scopes. Names are looked up from the innermost scope to the global one, and written in the
innermost. The global scope is always there.
-/

namespace Template

structure Scopes where
  /-- The scopes inside the global one, the innermost first. -/
  inner : List (Entries Value)
  global : Entries Value
deriving DecidableEq

inductive ScopeError where
  | popGlobal
deriving DecidableEq, Repr

namespace ScopeError

def message : ScopeError → String
  | popGlobal => "cannot pop the global scope"

end ScopeError

namespace Scopes

def ofGlobal (global : Entries Value) : Scopes := ⟨[], global⟩

/-- All scopes, the innermost first. -/
def all (s : Scopes) : List (Entries Value) := s.inner ++ [s.global]

def depth (s : Scopes) : Nat := s.inner.length + 1

def push (s : Scopes) : Scopes := { s with inner := [] :: s.inner }

def pop (s : Scopes) : Except ScopeError Scopes :=
  match s.inner with
  | [] => .error .popGlobal
  | _ :: outer => .ok { s with inner := outer }

def set (name : String) (value : Value) (s : Scopes) : Scopes :=
  match s.inner with
  | [] => { s with global := s.global.put name value }
  | scope :: outer => { s with inner := scope.put name value :: outer }

def get? (name : String) (s : Scopes) : Option Value := s.all.findSome? (Entries.get? name)

theorem depth_push (s : Scopes) : s.push.depth = s.depth + 1 := rfl

theorem pop_push (s : Scopes) : s.push.pop = .ok s := rfl

theorem depth_set (name : String) (value : Value) (s : Scopes) :
    (s.set name value).depth = s.depth := by
  unfold set depth
  split <;> simp_all

end Scopes

end Template

/-!
Entries by name, in the order in which the names first came.
-/

namespace Template

abbrev Entries (α : Type) := List (String × α)

namespace Entries

variable {α : Type}

def get? (name : String) : Entries α → Option α
  | [] => none
  | (key, value) :: rest => if key = name then some value else get? name rest

theorem mem_of_get? {name : String} {value : α} {entries : Entries α}
    (h : entries.get? name = some value) : (name, value) ∈ entries := by
  induction entries with
  | nil => cases h
  | cons entry rest ih =>
      obtain ⟨key, first⟩ := entry
      by_cases here : key = name
      · simp only [get?, here, ite_true, Option.some.injEq] at h
        simp [here, h]
      · simp only [get?, here, ite_false] at h
        exact .tail _ (ih h)

def contains (name : String) (entries : Entries α) : Bool := (get? name entries).isSome

/-- Replaces the value of the name where it stands, or adds the name at the end. -/
def put (name : String) (value : α) : Entries α → Entries α
  | [] => [(name, value)]
  | (key, old) :: rest =>
    if key = name then (key, value) :: rest else (key, old) :: put name value rest

theorem get?_put (name key : String) (value : α) (entries : Entries α) :
    (entries.put name value).get? key = if name = key then some value else entries.get? key := by
  induction entries with
  | nil => rfl
  | cons entry rest ih =>
      obtain ⟨first, old⟩ := entry
      by_cases here : first = name
      · subst here
        by_cases asked : first = key <;> simp [put, get?, asked]
      · by_cases asked : first = key
        · subst asked
          simp [put, get?, here, Ne.symm here]
        · simp [put, get?, here, asked, ih]

/-- Takes the name out; the others keep their order. -/
def erase (name : String) : Entries α → Entries α
  | [] => []
  | (key, value) :: rest => if key = name then rest else (key, value) :: erase name rest

def keys (entries : Entries α) : List String := entries.map Prod.fst

def values (entries : Entries α) : List α := entries.map Prod.snd

/-- Later pairs replace earlier ones of the same name. -/
def ofPairs (pairs : List (String × α)) : Entries α :=
  pairs.foldl (fun entries (name, value) => put name value entries) []

end Entries

end Template

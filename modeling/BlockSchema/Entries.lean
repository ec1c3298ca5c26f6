/-!
Contract: finite maps from text keys, kept as lists of entries.

An insertion-ordered map keeps a key at the place where it was first put and holds
the value put last; a sorted map keeps its keys in ascending order. Both are plain
lists, and the laws below say what each operation does to the look-up.
-/

set_option autoImplicit false

namespace BlockSchema

/-- A list of entries, at most one a key in every map built here. -/
abbrev Entries (α : Type) := List (String × α)

namespace Entries

variable {α : Type}

def get? (key : String) : Entries α → Option α
  | [] => none
  | (other, value) :: rest => if other = key then some value else get? key rest

def keys (entries : Entries α) : List String :=
  entries.map Prod.fst

/-- Puts a value: in place when the key is there, at the end when it is new. -/
def insert (key : String) (value : α) : Entries α → Entries α
  | [] => [(key, value)]
  | (other, old) :: rest =>
      if other = key then (key, value) :: rest else (other, old) :: insert key value rest

def erase (key : String) (entries : Entries α) : Entries α :=
  entries.filter fun entry => entry.1 ≠ key

/-- The insertion-ordered map of a list of puts. -/
def ofList (puts : List (String × α)) : Entries α :=
  puts.foldl (fun entries put => entries.insert put.1 put.2) []

def insertSorted (key : String) (value : α) : Entries α → Entries α
  | [] => [(key, value)]
  | (other, old) :: rest =>
      if other = key then (key, value) :: rest
      else if key < other then (key, value) :: (other, old) :: rest
      else (other, old) :: insertSorted key value rest

def sortedOfList (puts : List (String × α)) : Entries α :=
  puts.foldl (fun entries put => entries.insertSorted put.1 put.2) []

@[simp] theorem get?_nil (key : String) : get? key ([] : Entries α) = none := rfl

theorem get?_insert (key other : String) (value : α) (entries : Entries α) :
    (entries.insert key value).get? other =
      if key = other then some value else entries.get? other := by
  induction entries with
  | nil => simp [insert, get?]
  | cons entry rest inductionHypothesis =>
      obtain ⟨first, old⟩ := entry
      by_cases same : first = key
      · by_cases found : key = other <;> simp [insert, get?, same, found]
      · by_cases found : first = other
        · have apart : key ≠ other := fun equal => same (found.trans equal.symm)
          simp [insert, get?, found, apart]
          simp [get?, ← found, same]
        · simp [insert, get?, same, found, inductionHypothesis]

end Entries

end BlockSchema
